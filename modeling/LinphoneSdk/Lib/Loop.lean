import Mathlib.Tactic.Common

/-!
# Loops with a variant

A loop goes from state to state until a step gives its result. Its rank decreases at each step, so that the loop ends;
`run_rule` is its invariant rule.
-/

/-- A loop: a step gives the next state or the result. -/
structure Loop (σ ρ : Type) where
  step : σ → σ ⊕ ρ
  rank : σ → ℕ
  rank_lt : ∀ {s t : σ}, step s = .inl t → rank t < rank s

namespace Loop

variable {σ ρ : Type} (L : Loop σ ρ)

def run (s : σ) : ρ :=
  match _ : L.step s with
  | .inl t => run t
  | .inr r => r
  termination_by L.rank s
  decreasing_by exact L.rank_lt ‹_›

variable {L} {s t : σ} {r : ρ}

lemma run_of_next (h : L.step s = .inl t) : L.run s = L.run t := by
  rw [run]
  split
  · next t' ht => rw [Sum.inl.inj (h.symm.trans ht)]
  · next r hr => rw [h] at hr; cases hr

lemma run_of_result (h : L.step s = .inr r) : L.run s = r := by
  rw [run]
  split
  · next t ht => rw [h] at ht; cases ht
  · next r' hr => exact (Sum.inr.inj (h.symm.trans hr)).symm

/-- The states that a loop started in `s` goes through. -/
inductive Visits (L : Loop σ ρ) (s : σ) : σ → Prop
  | start : Visits L s s
  | next {t u : σ} : Visits L s t → L.step t = .inl u → Visits L s u

lemma Visits.head {u : σ} (h : L.step s = .inl t) (hu : L.Visits t u) : L.Visits s u := by
  induction hu with
  | start => exact .next .start h
  | next _ hstep ih => exact .next ih hstep

lemma visits_of_next {u : σ} (h : L.step s = .inl t) (hu : L.Visits s u) : u = s ∨ L.Visits t u := by
  induction hu with
  | start => exact .inl rfl
  | next hv hstep ih =>
    obtain rfl | hv' := ih
    · rw [h] at hstep
      cases hstep
      exact .inr .start
    · exact .inr (hv'.next hstep)

lemma visits_of_result {u : σ} (h : L.step s = .inr r) (hu : L.Visits s u) : u = s := by
  induction hu with
  | start => rfl
  | next _ hstep ih =>
    subst ih
    rw [h] at hstep
    cases hstep

/-- The invariant rule: what the steps from the states of the loop preserve holds where the loop gives its result. -/
theorem run_rule {P : σ → Prop} {Q : ρ → Prop} (hs : P s)
    (hnext : ∀ {t u : σ}, L.Visits s t → P t → L.step t = .inl u → P u)
    (hresult : ∀ {t : σ} {r : ρ}, L.Visits s t → P t → L.step t = .inr r → Q r) : Q (L.run s) := by
  induction hn : L.rank s using Nat.strongRecOn generalizing s with
  | ind n ih =>
    cases h : L.step s with
    | inl t =>
      rw [run_of_next h]
      exact ih _ (hn ▸ L.rank_lt h) (hnext .start hs h) (fun hv => hnext (hv.head h)) (fun hv => hresult (hv.head h))
        rfl
    | inr r =>
      rw [run_of_result h]
      exact hresult .start hs h

end Loop
