import Mathlib.Data.Nat.Bitwise

/-!
# Flags and fields of an octet

Single bits are tested and set in an octet, next to fields that are kept under a mask.
-/

namespace Flags

/-- The test of the bit `i` of an octet. -/
def flag (b i : UInt8) : Bool := b &&& (1 <<< i) != 0

/-- The bit `i`, if it is to be set. -/
def bit (set : Bool) (i : UInt8) : UInt8 := if set then 1 <<< i else 0

lemma and_top_ne_zero {n k : ℕ} (h : n < 2 ^ (k + 1)) : n &&& 2 ^ k ≠ 0 ↔ 2 ^ k ≤ n := by
  have hpos : 0 < 2 ^ k := Nat.two_pow_pos k
  rw [Nat.pow_succ] at h
  rw [Nat.and_two_pow, Nat.testBit_eq_decide_div_mod_eq]
  by_cases hle : 2 ^ k ≤ n
  · have hdiv : n / 2 ^ k = 1 := Nat.div_eq_of_lt_le (by omega) (by omega)
    simp [hdiv, hle]
  · simp [Nat.div_eq_of_lt (not_le.mp hle), hle]

lemma or_and_mask (a b m : UInt8) : (a ||| b) &&& m = a &&& m ||| b &&& m := by
  apply UInt8.toBitVec_inj.mp
  simp only [UInt8.toBitVec_and, UInt8.toBitVec_or, BitVec.and_or_distrib_right]

@[simp] lemma flag_or (a b i : UInt8) : flag (a ||| b) i = (flag a i || flag b i) := by
  rw [Bool.eq_iff_iff]
  simp only [flag, or_and_mask, bne_iff_ne, ne_eq, UInt8.or_eq_zero_iff, Bool.or_eq_true]
  tauto

@[simp] lemma flag_zero (i : UInt8) : flag 0 i = false := by simp [flag]

lemma flag_seven (b : UInt8) : flag b 7 = true ↔ 128 ≤ b := by
  rw [flag, bne_iff_ne, ne_eq, ← UInt8.toNat_inj, UInt8.toNat_and]
  exact and_top_ne_zero (k := 7) b.toNat_lt

lemma flag_and {m i : UInt8} (h : m &&& 1 <<< i = 0) (a : UInt8) : flag (a &&& m) i = false := by
  simp [flag, UInt8.and_assoc, h]

lemma flag_bit_self {i : UInt8} (h : flag (1 <<< i) i = true) (set : Bool) : flag (bit set i) i = set := by
  cases set
  · simp [bit]
  · simpa [bit] using h

lemma flag_bit_of_ne {i j : UInt8} (h : flag (1 <<< j) i = false) (set : Bool) : flag (bit set j) i = false := by
  cases set
  · simp [bit]
  · simpa [bit] using h

lemma bit_and {i m : UInt8} (h : 1 <<< i &&& m = 0) (set : Bool) : bit set i &&& m = 0 := by
  cases set
  · simp [bit]
  · simpa [bit] using h

lemma and_mask_of_lt {x : UInt8} {n : ℕ} (h : x.toNat < 2 ^ n) {m : UInt8} (hm : m.toNat = 2 ^ n - 1) :
    x &&& m = x := by
  rw [← UInt8.toNat_inj, UInt8.toNat_and, hm, Nat.and_two_pow_sub_one_of_lt_two_pow h]

lemma mask_lt (x : UInt8) {m n : UInt8} (hmn : m < n) : x &&& m < n := by
  rw [UInt8.lt_iff_toNat_lt] at hmn ⊢
  rw [UInt8.toNat_and]
  exact Nat.and_le_right.trans_lt hmn

end Flags
