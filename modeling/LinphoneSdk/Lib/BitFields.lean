import Mathlib.Data.Nat.Bitwise
import Mathlib.Data.Nat.Size
import Mathlib.Tactic.Common

/-!
# Bit fields of a word

A field of a 32-bit word is written next to the others, which a mask keeps, and read by a shift and a
mask. A number too long for a field is kept as its leading bits and the number of bits dropped.
-/

namespace BitFields

open UInt32 Nat

/-! ### Fields -/

/-- A field: the mask of the bits of the others, its own mask, its place. -/
structure Field where
  keep : UInt32
  mask : UInt32
  offset : UInt32
  width : ℕ
  mask_eq : mask.toNat = 2 ^ width - 1
  fits : offset.toNat + width ≤ 32
  keep_eq : ∀ j < 32, keep.toNat.testBit j = !decide (offset.toNat ≤ j ∧ j < offset.toNat + width)

namespace Field

variable (F G : Field) (v x : UInt32)

/-- Write the field of a word. -/
def set : UInt32 := (v &&& F.keep) ||| ((x &&& F.mask) <<< F.offset)

/-- Read the field of a word. -/
def get : UInt32 := (v >>> F.offset) &&& F.mask

lemma testBit_mask (j : ℕ) : F.mask.toNat.testBit j = decide (j < F.width) := by
  rw [F.mask_eq, testBit_two_pow_sub_one]

lemma toNat_offset_mod (h : 0 < F.width) : F.offset.toNat % 32 = F.offset.toNat :=
  mod_eq_of_lt (by have := F.fits; omega)

lemma testBit_get (h : 0 < F.width) (j : ℕ) :
    (F.get v).toNat.testBit j = (decide (j < F.width) && v.toNat.testBit (F.offset.toNat + j)) := by
  rw [get, UInt32.toNat_and, UInt32.toNat_shiftRight, testBit_and, testBit_mask, testBit_shiftRight,
    F.toNat_offset_mod h, Bool.and_comm]

lemma and_mask_of_lt (h : x.toNat < 2 ^ F.width) : x &&& F.mask = x := by
  rw [← UInt32.toNat_inj, UInt32.toNat_and, F.mask_eq, and_two_pow_sub_one_of_lt_two_pow h]

/-- The bits of the field are those of the number, the other ones are kept. -/
lemma testBit_set (h : 0 < F.width) {j : ℕ} (hj : j < 32) : (F.set v x).toNat.testBit j =
      if F.offset.toNat ≤ j ∧ j < F.offset.toNat + F.width then x.toNat.testBit (j - F.offset.toNat)
      else v.toNat.testBit j := by
  rw [set, UInt32.toNat_or, UInt32.toNat_and, UInt32.toNat_shiftLeft, UInt32.toNat_and, testBit_or,
    testBit_and, F.keep_eq j hj, testBit_mod_two_pow, testBit_shiftLeft, testBit_and,
    testBit_mask, F.toNat_offset_mod h]
  split_ifs with hin
  · have hlt : j - F.offset.toNat < F.width := by omega
    simp [hin, hj, hlt]
  · by_cases hle : F.offset.toNat ≤ j
    · have hge : ¬ j - F.offset.toNat < F.width := by omega
      simp [hin, hge]
    · simp [hle]

/-- A number that fits the field is read back. -/
theorem get_set (h : 0 < F.width) (hx : x.toNat < 2 ^ F.width) : F.get (F.set v x) = x := by
  refine UInt32.toNat_inj.1 (eq_of_testBit_eq fun j => ?_)
  have hfits := F.fits
  rw [F.testBit_get _ h]
  by_cases hj : j < F.width
  · rw [F.testBit_set _ _ h (by omega), if_pos (by omega), Nat.add_sub_cancel_left, decide_eq_true hj, Bool.true_and]
  · rw [decide_eq_false hj, Bool.false_and]
    have hle : x.toNat < 2 ^ j := Nat.lt_of_lt_of_le hx (Nat.pow_le_pow_right (by omega) (by omega))
    exact (testBit_lt_two_pow hle).symm

/-- The other fields are kept. -/
theorem get_set_of_disjoint (hF : 0 < F.width) (hG : 0 < G.width)
    (h : F.offset.toNat + F.width ≤ G.offset.toNat ∨ G.offset.toNat + G.width ≤ F.offset.toNat) :
    F.get (G.set v x) = F.get v := by
  refine UInt32.toNat_inj.1 (eq_of_testBit_eq fun j => ?_)
  have hfits := F.fits
  rw [F.testBit_get _ hF, F.testBit_get _ hF]
  by_cases hj : j < F.width
  · rw [G.testBit_set _ _ hG (by omega), if_neg (by omega)]
  · rw [decide_eq_false hj, Bool.false_and, Bool.false_and]

end Field

/-! ### Exponent and mantissa -/

/-- Shift a number right until it has at most `width` bits, counting the bits dropped. -/
def normalise (width : ℕ) : ℕ → ℕ → ℕ × ℕ
  | 0, n => (n, 0)
  | turns + 1, n =>
    if 2 ^ width ≤ n then
      let (mantissa, exponent) := normalise width turns (n / 2)
      (mantissa, exponent + 1)
    else (n, 0)

lemma size_half {n : ℕ} (h : n ≠ 0) : n.size = (n / 2).size + 1 := by
  have hbit := @size_bit n.bodd n.div2 (by rwa [bit_bodd_div2])
  rwa [bit_bodd_div2, div2_val] at hbit

/-- The mantissa is what is left of the number, the exponent the number of bits it has in excess. -/
theorem normalise_eq (width turns n : ℕ) (h : n.size ≤ width + turns) :
    normalise width turns n = (n / 2 ^ (n.size - width), n.size - width) := by
  induction turns generalizing n with
  | zero =>
    have hzero : n.size - width = 0 := by omega
    rw [normalise, hzero, Nat.pow_zero, Nat.div_one]
  | succ turns ih =>
    rw [normalise]
    split_ifs with hle
    · have hsize : width < n.size := lt_size.2 hle
      have hhalf := size_half (n := n) (by rintro rfl; rw [size_zero] at hsize; omega)
      have hexcess : n.size - width = (n / 2).size - width + 1 := by omega
      rw [ih (n / 2) (by omega), hexcess, Nat.pow_succ, Nat.mul_comm, Nat.div_div_eq_div_mul]
    · have hsize : n.size ≤ width := size_le.2 (by omega)
      have hzero : n.size - width = 0 := by omega
      rw [hzero, Nat.pow_zero, Nat.div_one]

section excess

variable (width n : ℕ)

/-- The mantissa fits its field. -/
lemma div_excess_lt : n / 2 ^ (n.size - width) < 2 ^ width := by
  rw [Nat.div_lt_iff_lt_mul (Nat.two_pow_pos _), ← Nat.pow_add, ← size_le]
  omega

/-- Less than one unit of the bits dropped is lost. -/
lemma excess_bounds : n / 2 ^ (n.size - width) * 2 ^ (n.size - width) ≤ n ∧
    n < n / 2 ^ (n.size - width) * 2 ^ (n.size - width) + 2 ^ (n.size - width) := by
  have hpos := Nat.two_pow_pos (n.size - width)
  have hdiv := div_add_mod' n (2 ^ (n.size - width))
  have hmod := mod_lt n hpos
  constructor
  · omega
  · omega

end excess

end BitFields
