import Mathlib.Data.List.Basic
import Mathlib.Data.List.Infix
import Mathlib.Tactic.Common

/-!
# Strings that are edited in place

`find`, `insert` and `erase` at positions of a string, which may hold any byte.
-/

namespace StdString

open List

variable {α : Type*}

/-- Where `pattern` is found first. -/
def find [DecidableEq α] (pattern : List α) : List α → Option ℕ
  | [] => if pattern = [] then some 0 else none
  | c :: s => if pattern <+: c :: s then some 0 else (find pattern s).map (· + 1)

/-- Where `pattern` is found first, from a position on. -/
def findFrom [DecidableEq α] (pattern s : List α) (pos : ℕ) : Option ℕ := (find pattern (s.drop pos)).map (pos + ·)

def insert (s : List α) (pos : ℕ) (inserted : List α) : List α := s.take pos ++ (inserted ++ s.drop pos)

def erase (s : List α) (pos n : ℕ) : List α := s.take pos ++ s.drop (pos + n)

section find

variable [DecidableEq α] {pattern s : List α} {n : ℕ}

lemma find_eq_some_iff : find pattern s = some n ↔
    n ≤ s.length ∧ pattern <+: s.drop n ∧ ∀ m < n, ¬ pattern <+: s.drop m := by
  induction s generalizing n with
  | nil =>
    rw [find]
    split_ifs with h
    · subst h
      constructor
      · intro hn
        obtain rfl := Option.some.inj hn
        exact ⟨Nat.le_refl 0, nil_prefix, fun m hm => absurd hm (Nat.not_lt_zero m)⟩
      · rintro ⟨hn, -, -⟩
        exact congrArg some (Nat.le_zero.mp hn).symm
    · refine iff_of_false (by simp) fun ⟨_, hprefix, _⟩ => h ?_
      simpa using hprefix
  | cons c s ih =>
    rw [find]
    split_ifs with h
    · constructor
      · intro hn
        obtain rfl := Option.some.inj hn
        exact ⟨Nat.zero_le _, h, fun m hm => absurd hm (Nat.not_lt_zero m)⟩
      · rintro ⟨-, -, hfirst⟩
        cases n with
        | zero => rfl
        | succ n => exact absurd h (hfirst 0 (Nat.succ_pos n))
    · cases n with
      | zero => simp [h]
      | succ n =>
        rw [Option.map_eq_some_iff]
        constructor
        · rintro ⟨m, hm, hmn⟩
          obtain rfl := Nat.succ.inj hmn
          obtain ⟨hle, hprefix, hfirst⟩ := ih.mp hm
          refine ⟨Nat.succ_le_succ hle, hprefix, fun k hk => ?_⟩
          cases k with
          | zero => exact h
          | succ k => exact hfirst k (Nat.lt_of_succ_lt_succ hk)
        · rintro ⟨hle, hprefix, hfirst⟩
          exact ⟨n, ih.mpr ⟨Nat.le_of_succ_le_succ hle, hprefix, fun k hk => hfirst (k + 1) (Nat.succ_lt_succ hk)⟩, rfl⟩

lemma length_of_find (h : find pattern s = some n) : n + pattern.length ≤ s.length := by
  obtain ⟨hle, hprefix, -⟩ := find_eq_some_iff.mp h
  have hlength := hprefix.length_le
  rw [length_drop] at hlength
  omega

lemma eq_of_find (h : find pattern s = some n) : s = s.take n ++ (pattern ++ s.drop (n + pattern.length)) := by
  obtain ⟨-, ⟨rest, hrest⟩, -⟩ := find_eq_some_iff.mp h
  have hdrop : s.drop (n + pattern.length) = rest := by
    rw [← drop_drop, ← hrest, drop_left]
  rw [hdrop, hrest, take_append_drop]

end find

lemma findFrom_append [DecidableEq α] (pattern front rest : List α) :
    findFrom pattern (front ++ rest) front.length = (find pattern rest).map (front.length + ·) := by
  rw [findFrom, drop_left]

lemma insert_append (front rest inserted : List α) (pos : ℕ) :
    insert (front ++ rest) (front.length + pos) inserted = front ++ insert rest pos inserted := by
  simp only [insert, take_length_add_append, drop_length_add_append, append_assoc]

lemma erase_append (front rest : List α) (pos n : ℕ) :
    erase (front ++ rest) (front.length + pos) n = front ++ erase rest pos n := by
  simp only [erase, take_length_add_append, Nat.add_assoc, drop_length_add_append, append_assoc]

end StdString
