import Mathlib.Tactic.Common

/-!
# Weakest preconditions of stateful routines that may raise

A routine in `EStateM` updates a state in place and keeps the updates made before an exception.
`wp m Q E w` says what holds of the outcome of `m` run in `w`: `Q` of the returned value and final
state, `E` of the exception and of the state it was raised in.
-/

namespace Exec

variable {ε σ α β : Type}

/-- `m`, run in `w`, returns in `Q` or raises in `E`. -/
def wp (m : EStateM ε σ α) (Q : α → σ → Prop) (E : ε → σ → Prop) (w : σ) : Prop :=
  match m w with
  | .ok a w' => Q a w'
  | .error e w' => E e w'

variable {Q : α → σ → Prop} {E : ε → σ → Prop} {w : σ}

/-! ### Rules for the constructors of routines -/

lemma modify_apply (f : σ → σ) : (modify f : EStateM ε σ PUnit) w = .ok ⟨⟩ (f w) := rfl

@[simp] lemma wp_pure (a : α) : wp (pure a : EStateM ε σ α) Q E w ↔ Q a w := Iff.rfl

@[simp] lemma wp_bind (m : EStateM ε σ β) (f : β → EStateM ε σ α) :
    wp (m >>= f) Q E w ↔ wp m (fun b w' => wp (f b) Q E w') E w := by
  simp only [wp, bind, EStateM.bind]
  cases m w <;> rfl

@[simp] lemma wp_map (m : EStateM ε σ β) (f : β → α) : wp (f <$> m) Q E w ↔ wp m (fun b w' => Q (f b) w') E w := by
  simp only [wp, Functor.map, EStateM.map]
  cases m w <;> rfl

@[simp] lemma wp_get {Q : σ → σ → Prop} : wp (get : EStateM ε σ σ) Q E w ↔ Q w w := Iff.rfl

@[simp] lemma wp_modify {Q : PUnit → σ → Prop} (f : σ → σ) :
    wp (modify f : EStateM ε σ PUnit) Q E w ↔ Q ⟨⟩ (f w) := Iff.rfl

@[simp] lemma wp_modifyGet (f : σ → α × σ) : wp (modifyGet f : EStateM ε σ α) Q E w ↔ Q (f w).1 (f w).2 := Iff.rfl

@[simp] lemma wp_throw (e : ε) : wp (throw e : EStateM ε σ α) Q E w ↔ E e w := Iff.rfl

@[simp] lemma wp_tryCatch (m : EStateM ε σ α) (h : ε → EStateM ε σ α) :
    wp (tryCatch m h) Q E w ↔ wp m Q (fun e w' => wp (h e) Q E w') w := by
  simp only [wp, tryCatch, tryCatchThe, MonadExceptOf.tryCatch, EStateM.tryCatch]
  cases m w <;> rfl

lemma wp_ite {c : Prop} [Decidable c] (m n : EStateM ε σ α) :
    wp (if c then m else n) Q E w ↔ (c → wp m Q E w) ∧ (¬ c → wp n Q E w) := by
  by_cases h : c <;> simp [h]

lemma wp_ofExcept (x : Except ε α) :
    wp (ofExcept x : EStateM ε σ α) Q E w ↔ (∀ a, x = .ok a → Q a w) ∧ (∀ e, x = .error e → E e w) := by
  cases x <;> simp [ofExcept]

/-! ### Consequences -/

variable {m : EStateM ε σ α}

lemma wp_of_ok {a : α} {w' : σ} (h : wp m Q E w) (hm : m w = .ok a w') : Q a w' := by
  simpa only [wp, hm] using h

lemma wp_of_error {e : ε} {w' : σ} (h : wp m Q E w) (hm : m w = .error e w') : E e w' := by
  simpa only [wp, hm] using h

lemma wp_mono {Q' : α → σ → Prop} {E' : ε → σ → Prop} (h : wp m Q E w) (hQ : ∀ a w', Q a w' → Q' a w')
    (hE : ∀ e w', E e w' → E' e w') : wp m Q' E' w := by
  simp only [wp] at h ⊢
  cases hm : m w with
  | ok a w' => rw [hm] at h; exact hQ a w' h
  | error e w' => rw [hm] at h; exact hE e w' h

/-- A routine that never raises returns. -/
lemma exists_ok_of_wp (h : wp m Q (fun _ _ => False) w) : ∃ a w', m w = .ok a w' ∧ Q a w' := by
  rw [wp] at h
  cases hm : m w with
  | ok a w' => rw [hm] at h; exact ⟨a, w', rfl, h⟩
  | error e w' => rw [hm] at h; exact h.elim

/-- A routine that never returns raises. -/
lemma exists_error_of_wp (h : wp m (fun _ _ => False) E w) : ∃ e w', m w = .error e w' ∧ E e w' := by
  rw [wp] at h
  cases hm : m w with
  | ok a w' => rw [hm] at h; exact h.elim
  | error e w' => rw [hm] at h; exact ⟨e, w', rfl, h⟩

/-- A routine has its own outcome. -/
lemma wp_outcome (m : EStateM ε σ α) (w : σ) :
    wp m (fun a w' => m w = .ok a w') (fun e w' => m w = .error e w') w := by
  rw [wp]
  cases hm : m w <;> rfl

/-- A routine has the outcome that its rules give. -/
lemma eq_of_wp {outcome : EStateM.Result ε σ α}
    (h : wp m (fun a w' => outcome = .ok a w') (fun e w' => outcome = .error e w') w) : m w = outcome := by
  rw [wp] at h
  cases hm : m w with
  | ok a w' => rw [hm] at h; exact h.symm
  | error e w' => rw [hm] at h; exact h.symm

/-- Does `m`, run in `w`, return? -/
def returns (m : EStateM ε σ α) (w : σ) : Bool :=
  match m w with
  | .ok _ _ => true
  | .error _ _ => false

/-- The state where `m`, run in `w`, ends. -/
def final (m : EStateM ε σ α) (w : σ) : σ :=
  match m w with
  | .ok _ w' => w'
  | .error _ w' => w'

lemma final_of_wp {p : σ → Prop} (h : wp m (fun _ w' => p w') (fun _ w' => p w') w) : p (final m w) := by
  rw [wp] at h
  rw [final]
  cases hm : m w with
  | ok a w' => rw [hm] at h; exact h
  | error e w' => rw [hm] at h; exact h

lemma eq_ok_of_returns {m : EStateM ε σ Unit} (h : returns m w = true) : m w = .ok () (final m w) := by
  rw [returns] at h
  rw [final]
  cases hm : m w with
  | ok a w' => rfl
  | error e w' => rw [hm] at h; cases h

lemma exists_ok_of_returns (h : returns m w = true) : ∃ a w', m w = .ok a w' := by
  rw [returns] at h
  cases hm : m w with
  | ok a w' => exact ⟨a, w', rfl⟩
  | error e w' => rw [hm] at h; cases h

lemma wp_trivial (m : EStateM ε σ α) (w : σ) : wp m (fun _ _ => True) (fun _ _ => True) w := by
  rw [wp]
  cases m w <;> trivial

/-- A loop over a list, with an invariant on the elements left. -/
lemma wp_forM {γ : Type} (l : List γ) (f : γ → EStateM ε σ PUnit) (I : List γ → σ → Prop)
    {E : ε → σ → Prop} (h0 : I l w) (hstep : ∀ x rest w', I (x :: rest) w' → wp (f x) (fun _ => I rest) E w') :
    wp (forM l f) (fun _ => I []) E w := by
  induction l generalizing w with
  | nil => exact h0
  | cons x rest ih =>
    rw [List.forM_cons, wp_bind]
    exact wp_mono (hstep x rest w h0) (fun _ _ h => ih h) (fun _ _ h => h)

end Exec
