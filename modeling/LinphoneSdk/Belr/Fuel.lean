import LinphoneSdk.Belr.Derivations

/-!
# More fuel

With more fuel, a derivation that does not run out of it stays the same.
-/

namespace Belr

variable {H C α β : Type}

def Approx (x y : Except Failure α) : Prop := x = .error .outOfFuel ∨ x = y

namespace Approx

variable {x y : Except Failure α}

lemma refl (x : Except Failure α) : Approx x x := .inr rfl

lemma eq (h : Approx x y) (hx : x ≠ .error .outOfFuel) : x = y := h.resolve_left hx

lemma bind {f f' : α → Except Failure β} (h : Approx x y) (hf : ∀ a, Approx (f a) (f' a)) :
    Approx (x >>= f) (y >>= f') := by
  rcases h with rfl | rfl
  · exact .inl rfl
  · cases x with
    | error failure => exact .inr rfl
    | ok a => exact hf a

end Approx

lemma bind_ne_outOfFuel {x : Except Failure α} {f : α → Except Failure β} (h : (x >>= f) ≠ .error .outOfFuel) :
    x ≠ .error .outOfFuel := by
  rintro rfl
  exact h rfl

section Derive

variable {derive derive' : ℕ → ℕ → Except Failure (Match H C)}

lemma approx_deriveLongest {pos : ℕ} {elements : List ℕ}
    (h : ∀ element ∈ elements, Approx (derive element pos) (derive' element pos)) (best : Match H C) :
    Approx (deriveLongest derive pos elements best) (deriveLongest derive' pos elements best) := by
  induction elements generalizing best with
  | nil => exact .refl _
  | cons element elements ih =>
    have ih := ih fun e he => h e (.tail _ he)
    rw [deriveLongest, deriveLongest]
    refine (h element (.head _)).bind fun matched => ?_
    match matched, best with
    | none, best => exact ih best
    | some matched, none => exact ih (some matched)
    | some (n, collected), some (m, collected') =>
      by_cases hlonger : m < n
      · simpa only [if_pos hlonger] using ih _
      · simpa only [if_neg hlonger] using ih _

lemma approx_deriveFirst {pos : ℕ} {elements : List ℕ}
    (h : ∀ element ∈ elements, Approx (derive element pos) (derive' element pos)) :
    Approx (deriveFirst derive pos elements) (deriveFirst derive' pos elements) := by
  induction elements with
  | nil => exact .refl _
  | cons element elements ih =>
    have ih := ih fun e he => h e (.tail _ he)
    rw [deriveFirst, deriveFirst]
    refine (h element (.head _)).bind fun matched => ?_
    match matched with
    | none | some (0, _) => exact ih
    | some (n + 1, collected) => exact .refl _

section

variable (h : ∀ element pos, Approx (derive element pos) (derive' element pos))
include h

lemma approx_deriveSequence (elements : List ℕ)
    (pos : ℕ) : Approx (deriveSequence derive elements pos) (deriveSequence derive' elements pos) := by
  induction elements generalizing pos with
  | nil => exact .refl _
  | cons element elements ih =>
    rw [deriveSequence, deriveSequence]
    refine (h element pos).bind fun matched => ?_
    match matched with
    | none => exact .refl _
    | some (n, collected) => exact (ih (pos + n)).bind fun _ => .refl _

lemma approx_deriveIterations (input : Input)
    (mRecognizer : ℕ) (mMax : ℤ) {fuel fuel' : ℕ} (hfuel : fuel ≤ fuel') (repeats pos : ℕ) :
    Approx (deriveIterations derive input mRecognizer mMax fuel repeats pos)
      (deriveIterations derive' input mRecognizer mMax fuel' repeats pos) := by
  induction fuel generalizing fuel' repeats pos with
  | zero => exact .inl rfl
  | succ fuel ih =>
    obtain ⟨fuel', rfl⟩ : ∃ k, fuel' = k + 1 := ⟨fuel' - 1, by omega⟩
    rw [deriveIterations, deriveIterations]
    by_cases hloops : loops mMax repeats input pos
    · simp only [if_pos hloops]
      refine (h mRecognizer pos).bind fun matched => ?_
      match matched with
      | none => exact .refl _
      | some (n, collected) => exact (ih (by omega) (repeats + 1) (pos + n)).bind fun _ => .refl _
    · simp only [if_neg hloops]
      exact .refl _

lemma approx_deriveKind (input : Input) {fuel fuel' : ℕ} (hfuel : fuel ≤ fuel') (pos : ℕ) (kind : Kind) :
    Approx (deriveKind derive input fuel pos kind) (deriveKind derive' input fuel' pos kind) := by
  match kind with
  | .charRecognizer .. | .charRange .. | .literal _ => exact .refl _
  | .selector true elements | .exclusiveSelector elements => exact approx_deriveFirst fun element _ => h element pos
  | .selector false elements => exact approx_deriveLongest (fun element _ => h element pos) none
  | .sequence elements => exact approx_deriveSequence h elements pos
  | .loop mRecognizer mMin mMax =>
    rw [deriveKind, deriveKind]
    exact (approx_deriveIterations h input mRecognizer mMax hfuel 0 pos).bind fun _ => .refl _
  | .recognizerPointer none | .recognizerAlias none => exact .refl _
  | .recognizerPointer (some mRecognizer) | .recognizerAlias (some mRecognizer) => exact h mRecognizer pos

end

end Derive

variable (handlers : Handlers H C) (grammar : Recognizers) (input : Input)

theorem approx_derive {fuel fuel' : ℕ} (hfuel : fuel ≤ fuel') (handler : H) (recognizer pos : ℕ) :
    Approx (derive handlers grammar input fuel handler recognizer pos)
      (derive handlers grammar input fuel' handler recognizer pos) := by
  induction fuel generalizing fuel' handler recognizer pos with
  | zero => exact .inl rfl
  | succ fuel ih =>
    obtain ⟨fuel', rfl⟩ : ∃ k, fuel' = k + 1 := ⟨fuel' - 1, by omega⟩
    rw [derive, derive]
    refine (approx_deriveKind (fun element pos => ih (by omega) _ element pos) input (by omega) pos _).bind
      fun matched => ?_
    match matched with
    | none | some (0, _) | some (n + 1, collected) => exact .refl _

end Belr
