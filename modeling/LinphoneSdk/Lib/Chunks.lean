import Mathlib.Algebra.BigOperators.Group.List.Basic
import Mathlib.Tactic.Common

/-!
# Chunks of a sequence written in a buffer

A sequence cut into chunks is put together again by writing each chunk at its offset, in any order.
The buffer holds a chunk when the chunk is read at its offset; a buffer that holds all the chunks
holds the sequence.
-/

namespace Chunks

open List

variable {α : Type}

/-! ### Writing a segment -/

/-- Write `s` in `l` at offset `i`. -/
def patch (l : List α) (i : ℕ) (s : List α) : List α := l.take i ++ (s ++ l.drop (i + s.length))

/-- The segment of length `n` at offset `i`. -/
def segment (l : List α) (i n : ℕ) : List α := (l.drop i).take n

variable {l s : List α} {i : ℕ}

lemma length_patch (h : i + s.length ≤ l.length) : (patch l i s).length = l.length := by
  simp only [patch, length_append, length_take, length_drop]
  omega

/-- Writing over a segment of the same length. -/
lemma patch_append (a b c : List α) (h : s.length = b.length) :
    patch (a ++ (b ++ c)) a.length s = a ++ (s ++ c) := by
  rw [patch, take_left, ← drop_drop, drop_left, drop_left' h.symm]

lemma segment_patch_self (h : i ≤ l.length) : segment (patch l i s) i s.length = s := by
  rw [segment, patch, drop_left' (by rw [length_take]; omega), take_left]

lemma getElem?_patch_of_lt {j : ℕ} (hi : i ≤ l.length) (hj : j < i) : (patch l i s)[j]? = l[j]? := by
  rw [patch, getElem?_append_left (by rw [length_take]; omega), getElem?_take_of_lt hj]

lemma getElem?_patch_of_ge {j : ℕ} (hi : i ≤ l.length) (hj : i + s.length ≤ j) : (patch l i s)[j]? = l[j]? := by
  have hlen : (l.take i).length = i := by rw [length_take]; omega
  rw [patch, getElem?_append_right (by omega), getElem?_append_right (by omega), getElem?_drop, hlen]
  congr 1
  omega

lemma segment_ext {l l' : List α} {i n : ℕ} (h : ∀ j, i ≤ j → j < i + n → l[j]? = l'[j]?) :
    segment l i n = segment l' i n := by
  apply ext_getElem?
  intro j
  by_cases hj : j < n
  · rw [segment, segment, getElem?_take_of_lt hj, getElem?_take_of_lt hj, getElem?_drop, getElem?_drop]
    exact h (i + j) (by omega) (by omega)
  · rw [segment, segment, getElem?_take_eq_none (by omega), getElem?_take_eq_none (by omega)]

/-- Writing elsewhere keeps a segment. -/
lemma segment_patch_of_disjoint {j n : ℕ} (hi : i ≤ l.length)
    (h : j + n ≤ i ∨ i + s.length ≤ j) : segment (patch l i s) j n = segment l j n := by
  apply segment_ext
  intro k hjk hkn
  obtain h | h := h
  · exact getElem?_patch_of_lt hi (by omega)
  · exact getElem?_patch_of_ge hi (by omega)

/-! ### The chunks of a sequence -/

/-- Offset of chunk `i`. -/
def offset (cs : List (List α)) (i : ℕ) : ℕ := (cs.take i).flatten.length

variable {cs : List (List α)}

@[simp] lemma offset_zero : offset cs 0 = 0 := by simp [offset]

lemma offset_cons_succ (c : List α) (i : ℕ) : offset (c :: cs) (i + 1) = c.length + offset cs i := by
  simp [offset]

lemma offset_succ (i : ℕ) : offset cs (i + 1) = offset cs i + (cs.getD i []).length := by
  induction cs generalizing i with
  | nil => simp [offset]
  | cons c cs ih =>
    cases i with
    | zero => simp [offset]
    | succ i =>
      rw [offset_cons_succ, offset_cons_succ, ih i, getD_cons_succ]
      omega

lemma offset_mono {i j : ℕ} (h : i ≤ j) : offset cs i ≤ offset cs j := by
  induction h with
  | refl => exact Nat.le_refl _
  | step h ih =>
    rw [Nat.succ_eq_add_one, offset_succ]
    omega

/-- A chunk ends before the next ones start. -/
lemma offset_add_length_le (cs : List (List α)) {i j : ℕ} (h : i < j) :
    offset cs i + (cs.getD i []).length ≤ offset cs j := by
  rw [← offset_succ]
  exact offset_mono h

lemma offset_length : offset cs cs.length = cs.flatten.length := by
  rw [offset, take_length]

lemma offset_add_length_le_flatten {i : ℕ} (h : i < cs.length) :
    offset cs i + (cs.getD i []).length ≤ cs.flatten.length := by
  rw [← offset_length]
  exact offset_add_length_le cs h

/-! ### Buffers -/

/-- The buffer holds chunk `i` of a sequence stored from `base` on. -/
def Holds (cs : List (List α)) (base : ℕ) (l : List α) (i : ℕ) : Prop :=
  segment l (base + offset cs i) (cs.getD i []).length = cs.getD i []

variable {base : ℕ}

/-- A chunk written at its offset is held. -/
lemma holds_patch_self {i : ℕ} (h : base + offset cs i ≤ l.length) :
    Holds cs base (patch l (base + offset cs i) (cs.getD i [])) i := segment_patch_self h

/-- The other chunks are kept. -/
lemma Holds.patch {i j : ℕ} (hj : Holds cs base l j) (hne : i ≠ j) (h : base + offset cs i ≤ l.length) :
    Holds cs base (Chunks.patch l (base + offset cs i) (cs.getD i [])) j := by
  rw [Holds, segment_patch_of_disjoint h]
  · exact hj
  · obtain hlt | hlt := Nat.lt_or_gt_of_ne hne
    · have := offset_add_length_le cs hlt
      omega
    · have := offset_add_length_le cs hlt
      omega

/-- A buffer that holds all the chunks holds the sequence. -/
lemma segment_of_holds (h : ∀ i < cs.length, Holds cs base l i) : segment l base cs.flatten.length = cs.flatten := by
  induction cs generalizing base with
  | nil => simp [segment]
  | cons c cs ih =>
    have h0 := h 0 (Nat.succ_pos _)
    simp only [Holds, offset_zero, Nat.add_zero, getD_cons_zero] at h0
    have htail : ∀ i < cs.length, Holds cs (base + c.length) l i := by
      intro i hi
      have hs := h (i + 1) (Nat.succ_lt_succ hi)
      simp only [Holds, offset_cons_succ, getD_cons_succ] at hs
      rw [← Nat.add_assoc] at hs
      exact hs
    have ih := ih htail
    simp only [segment] at h0 ih ⊢
    rw [flatten_cons, length_append, take_add, h0, drop_drop, ih]

end Chunks
