import Mathlib.Data.List.Basic
import Mathlib.Order.Lattice

/-!
# Agreement on preference lists

Two parties hold lists ordered by preference. The favourite of a list is its first element that the
other list has too. The parties agree on the favourite of lower rank, whichever of them computes it.
-/

namespace Preference

open Option

variable {α β : Type*} [DecidableEq α]

/-- The first element of `l` that `m` has too. -/
def favourite (l m : List α) : Option α := l.find? (· ∈ m)

variable {l m : List α} {a : α}

lemma mem_of_favourite (h : favourite l m = some a) : a ∈ l ∧ a ∈ m := by
  constructor
  · exact List.mem_of_find?_eq_some h
  · simpa using List.find?_some h

lemma exists_favourite (hl : a ∈ l) (hm : a ∈ m) : ∃ b, favourite l m = some b := by
  rw [← isSome_iff_exists, favourite, List.find?_isSome]
  exact ⟨a, hl, by simpa using hm⟩

variable [LinearOrder β]

def agreed (rank : α → β) (l m : List α) : Option α :=
  (favourite l m).bind fun a => (favourite m l).map fun b =>
    if a = b then a else if rank b < rank a then b else a

lemma mem_of_agreed {rank : α → β} (h : agreed rank l m = some a) : a ∈ l ∧ a ∈ m := by
  rw [agreed] at h
  simp only [bind_eq_some_iff, map_eq_some_iff] at h
  obtain ⟨b, hb, c, hc, rfl⟩ := h
  split_ifs
  · exact mem_of_favourite hb
  · exact (mem_of_favourite hc).symm
  · exact mem_of_favourite hb

/-- Both parties agree on the same element. -/
theorem agreed_comm {rank : α → β} (hrank : Function.Injective rank) (l m : List α) :
    agreed rank l m = agreed rank m l := by
  cases hl : favourite l m with
  | none =>
    rw [agreed, agreed, hl]
    cases favourite m l <;> rfl
  | some a =>
    cases hm : favourite m l with
    | none => rw [agreed, agreed, hl, hm]; rfl
    | some b =>
      rw [agreed, agreed, hl, hm]
      simp only [bind_some, map_some, some_inj]
      by_cases hab : a = b
      · rw [if_pos hab, if_pos hab.symm, hab]
      · rw [if_neg hab, if_neg (Ne.symm hab)]
        rcases lt_trichotomy (rank a) (rank b) with hlt | heq | hlt
        · rw [if_neg hlt.not_gt, if_pos hlt]
        · exact absurd (hrank heq) hab
        · rw [if_pos hlt, if_neg hlt.not_gt]

end Preference
