import LinphoneSdk.Belr.Derivations

/-!
# The order of what is collected

What a recognizer collects lies between the characters that it matches, in the order in which it ends in the input.
-/

namespace Belr

variable {H C : Type}

/-- Where what was collected ends in the input. -/
def Collected.stop : Collected H C → ℕ
  | .value _ pos count | .child _ pos count _ _ => pos + count

/-- What is collected between two positions is in the order in which it ends in the input, and so is what is collected for
the objects in it. -/
inductive InOrder : ℕ → ℕ → List (Collected H C) → Prop
  | nil {start stop : ℕ} : InOrder start stop []
  | value {start stop pos count : ℕ} (collector : C) {rest : List (Collected H C)} :
    start ≤ pos → pos + count ≤ stop → (∀ next ∈ rest, pos + count ≤ next.stop) → InOrder start stop rest →
      InOrder start stop (.value collector pos count :: rest)
  | child {start stop pos count : ℕ} (collector : C) (handler : H) {collected rest : List (Collected H C)} :
    start ≤ pos → pos + count ≤ stop → (∀ next ∈ rest, pos + count ≤ next.stop) →
      InOrder pos (pos + count) collected → InOrder start stop rest →
        InOrder start stop (.child collector pos count handler collected :: rest)

variable {l : List (Collected H C)}

lemma InOrder.stop_le {start stop : ℕ} (h : InOrder start stop l) : ∀ next ∈ l, next.stop ≤ stop := by
  induction h with
  | nil => simp
  | value collector hstart hstop hrest _ ih => simpa [Collected.stop] using ⟨hstop, ih⟩
  | child collector handler hstart hstop hrest _ _ _ ih => simpa [Collected.stop] using ⟨hstop, ih⟩

lemma InOrder.le_stop {start stop : ℕ} (h : InOrder start stop l) : ∀ next ∈ l, start ≤ next.stop := by
  induction h with
  | nil => simp
  | value collector hstart hstop hrest _ ih => simpa [Collected.stop] using ⟨by omega, ih⟩
  | child collector handler hstart hstop hrest _ _ _ ih => simpa [Collected.stop] using ⟨by omega, ih⟩

lemma InOrder.mono {start start' stop stop' : ℕ} (h : InOrder start stop l) (hstart : start' ≤ start)
    (hstop : stop ≤ stop') : InOrder start' stop' l := by
  induction h with
  | nil => exact .nil
  | value collector hpos hend hrest _ ih => exact .value collector (by omega) (by omega) hrest (ih hstart hstop)
  | child collector handler hpos hend hrest hinner _ _ ih =>
    exact .child collector handler (by omega) (by omega) hrest hinner (ih hstart hstop)

lemma InOrder.append {start stop : ℕ} {l l' : List (Collected H C)} (h : InOrder start stop l)
    (h' : InOrder start stop l') (hll' : ∀ first ∈ l, ∀ next ∈ l', first.stop ≤ next.stop) :
    InOrder start stop (l ++ l') := by
  induction h with
  | nil => exact h'
  | value collector hpos hend hrest _ ih =>
    refine .value collector hpos hend (fun next hnext => ?_) (ih h' fun _ hfirst => hll' _ (.tail _ hfirst))
    rcases List.mem_append.mp hnext with hnext | hnext
    · exact hrest next hnext
    · exact hll' _ List.mem_cons_self next hnext
  | child collector handler hpos hend hrest hinner _ _ ih =>
    refine .child collector handler hpos hend (fun next hnext => ?_) hinner
      (ih h' fun _ hfirst => hll' _ (.tail _ hfirst))
    rcases List.mem_append.mp hnext with hnext | hnext
    · exact hrest next hnext
    · exact hll' _ List.mem_cons_self next hnext

/-- What is collected of characters that follow each other. -/
lemma InOrder.append_next {pos n m : ℕ} {l l' : List (Collected H C)} (h : InOrder pos (pos + n) l)
    (h' : InOrder (pos + n) (pos + n + m) l') : InOrder pos (pos + (n + m)) (l ++ l') := by
  refine (h.mono (Nat.le_refl _) (by omega)).append (h'.mono (by omega) (by omega)) fun first hfirst next hnext => ?_
  exact Nat.le_trans (h.stop_le first hfirst) (h'.le_stop next hnext)

section Ordered

variable {derive : ℕ → ℕ → Except Failure (Match H C)}

/-- A recognizer collects between the characters that it matches. -/
def Ordered (pos : ℕ) (result : Except Failure (Match H C)) : Prop :=
  ∀ n collected, result = .ok (some (n, collected)) → InOrder pos (pos + n) collected

section

variable (hderive : ∀ element pos, Ordered pos (derive element pos))
include hderive

lemma ordered_deriveLongest (pos : ℕ) (elements : List ℕ)
    (best : Match H C) (hbest : Ordered pos (.ok best)) : Ordered pos (deriveLongest derive pos elements best) := by
  induction elements generalizing best with
  | nil => exact hbest
  | cons element elements ih =>
    have helement := hderive element pos
    rw [deriveLongest]
    cases hresult : derive element pos with
    | error failure => intro n collected h; cases h
    | ok result =>
      rw [hresult] at helement
      cases result with
      | none => exact ih best hbest
      | some result =>
        cases best with
        | none => exact ih _ helement
        | some best =>
          by_cases hlonger : best.1 < result.1
          · simpa only [ok_bind, if_pos hlonger] using ih _ helement
          · simpa only [ok_bind, if_neg hlonger] using ih _ hbest

lemma ordered_deriveFirst (pos : ℕ) (elements : List ℕ) : Ordered pos (deriveFirst derive pos elements) := by
  induction elements with
  | nil => intro n collected h; cases h
  | cons element elements ih =>
    have helement := hderive element pos
    rw [deriveFirst]
    cases hresult : derive element pos with
    | error failure => intro n collected h; cases h
    | ok result =>
      rw [hresult] at helement
      match result with
      | none | some (0, _) => exact ih
      | some (n + 1, collected) => exact helement

lemma ordered_deriveSequence (elements : List ℕ) (pos : ℕ) : Ordered pos (deriveSequence derive elements pos) := by
  induction elements generalizing pos with
  | nil =>
    intro n collected h
    cases h
    exact .nil
  | cons element elements ih =>
    intro n collected h
    rw [deriveSequence] at h
    cases hresult : derive element pos with
    | error failure => rw [hresult] at h; cases h
    | ok result =>
      rw [hresult] at h
      match result with
      | none => cases h
      | some (m, first) =>
        rw [ok_bind] at h
        cases hrest : deriveSequence derive elements (pos + m) with
        | error failure => simp only [hrest] at h; cases h
        | ok rest =>
          simp only [hrest, ok_bind] at h
          match rest with
          | none => cases h
          | some (m', rest) =>
            cases h
            have hfirst := hderive element pos m first hresult
            exact hfirst.append_next (ih (pos + m) m' rest hrest)

lemma inOrder_deriveIterations (input : Input)
    (mRecognizer : ℕ) (mMax : ℤ) (fuel repeats pos : ℕ) {repeats' n : ℕ} {collected : List (Collected H C)}
    (h : deriveIterations derive input mRecognizer mMax fuel repeats pos = .ok (repeats', n, collected)) :
    InOrder pos (pos + n) collected := by
  induction fuel generalizing repeats pos n collected with
  | zero => cases h
  | succ fuel ih =>
    rw [deriveIterations] at h
    split at h
    · cases hresult : derive mRecognizer pos with
      | error failure => rw [hresult] at h; cases h
      | ok result =>
        rw [hresult] at h
        match result with
        | none => cases h; exact .nil
        | some (m, first) =>
          rw [ok_bind] at h
          cases hrest : deriveIterations derive input mRecognizer mMax fuel (repeats + 1) (pos + m) with
          | error failure => simp only [hrest] at h; cases h
          | ok rest =>
            simp only [hrest, ok_bind] at h
            cases h
            have hfirst := hderive mRecognizer pos m first hresult
            exact hfirst.append_next (ih _ _ hrest)
    · cases h
      exact .nil

lemma ordered_deriveKind (input : Input) (fuel pos : ℕ)
    (kind : Kind) : Ordered pos (deriveKind derive input fuel pos kind) := by
  have hleaf (n : Option ℕ) : Ordered pos (.ok (n.map fun n => (n, ([] : List (Collected H C))))) := by
    intro m collected h
    cases n with
    | none => cases h
    | some n => cases h; exact .nil
  match kind with
  | .charRecognizer .. | .charRange .. | .literal _ => exact hleaf _
  | .selector true elements | .exclusiveSelector elements => exact ordered_deriveFirst hderive pos elements
  | .selector false elements =>
    exact ordered_deriveLongest hderive pos elements none (fun _ _ h => by cases h)
  | .sequence elements => exact ordered_deriveSequence hderive elements pos
  | .loop mRecognizer mMin mMax =>
    intro n collected h
    rw [deriveKind] at h
    cases hresult : deriveIterations derive input mRecognizer mMax fuel 0 pos with
    | error failure => rw [hresult] at h; cases h
    | ok result =>
      simp only [hresult, ok_bind] at h
      split at h
      · cases h
      · cases h
        exact inOrder_deriveIterations hderive input mRecognizer mMax fuel 0 pos hresult
  | .recognizerPointer none | .recognizerAlias none => intro n collected h; cases h
  | .recognizerPointer (some mRecognizer) | .recognizerAlias (some mRecognizer) => exact hderive mRecognizer pos

end

end Ordered

variable (handlers : Handlers H C) (grammar : Recognizers) (input : Input)

lemma inOrder_collect (handler : H) (mId pos n : ℕ) {collected : List (Collected H C)}
    (h : InOrder pos (pos + n) collected) : InOrder pos (pos + n) (collect handlers handler mId pos n collected) := by
  rw [collect]
  split
  · split
    · exact .child _ _ (Nat.le_refl _) (Nat.le_refl _) (by simp) h .nil
    · exact .nil
  · split
    · split
      · rename_i collector _
        exact h.append (.value collector (Nat.le_refl _) (Nat.le_refl _) (by simp) .nil)
          (by simpa [Collected.stop] using h.stop_le)
      · exact h
    · exact h

theorem ordered_derive (fuel : ℕ) (handler : H) (recognizer pos : ℕ) :
    Ordered pos (derive handlers grammar input fuel handler recognizer pos) := by
  induction fuel generalizing handler recognizer pos with
  | zero => intro n collected h; cases h
  | succ fuel ih =>
    intro n collected h
    rw [derive] at h
    have hkind := ordered_deriveKind (ih ((handlers.getHandler (grammar recognizer).mId).getD handler)) input fuel pos
      (grammar recognizer).kind
    cases hresult : deriveKind (derive handlers grammar input fuel ((handlers.getHandler (grammar recognizer).mId).getD
        handler)) input fuel pos (grammar recognizer).kind with
    | error failure => simp only [hresult] at h; cases h
    | ok result =>
      simp only [hresult, ok_bind] at h
      match result with
      | none => cases h
      | some (0, _) => cases h; exact .nil
      | some (n + 1, first) =>
        cases h
        exact inOrder_collect handlers handler _ pos (n + 1) (hkind _ _ hresult)

theorem ordered_deriveRule (fuel : ℕ) (handler : H) (rule : ℕ) :
    Ordered 0 (deriveRule handlers grammar input handler rule fuel) := by
  cases fuel with
  | zero => intro n collected h; cases h
  | succ fuel => exact ordered_deriveKind (ordered_derive handlers grammar input fuel handler) input fuel 0 _

end Belr
