import Mathlib.Algebra.Order.Floor.Div
import Mathlib.Data.Int.Log
import Mathlib.Data.Rat.Floor
import Mathlib.Tactic.FieldSimp
import Mathlib.Tactic.Linarith
import Mathlib.Tactic.Positivity
import Mathlib.Tactic.Ring

/-!
# Division in double precision

Numbers are rounded to 53 significant bits, to the nearest and to even when there are two. The range of the
exponents is left out. A quotient of natural numbers below `2 ^ 53` rounds up to the same integer with and without
the rounding.
-/

namespace Rounding

/-- The nearest integer, and the even one of two. -/
def roundEven (q : ℚ) : ℤ :=
  if q - ⌊q⌋ < 1 / 2 then ⌊q⌋
  else if 1 / 2 < q - ⌊q⌋ then ⌊q⌋ + 1
  else if ⌊q⌋ % 2 = 0 then ⌊q⌋ else ⌊q⌋ + 1

/-- The distance of the doubles near a number. -/
def ulp (x : ℚ) : ℚ := 2 ^ (Int.log 2 x - 52)

/-- The double that stands for a number. -/
def double (x : ℚ) : ℚ := roundEven (x / ulp x) * ulp x

/-- `ceil((double)a / (double)b)`. -/
def divCeil (a b : ℕ) : ℤ := ⌈double (double a / double b)⌉

section roundEven

variable {q : ℚ} {n : ℤ}

lemma roundEven_le (h : q ≤ n) : roundEven q ≤ n := by
  have hfloor : ⌊q⌋ ≤ n := Int.floor_le_iff.mpr (by linarith)
  rcases hfloor.lt_or_eq with hlt | heq
  · rw [roundEven]
    split_ifs <;> omega
  · have hfract : q - ⌊q⌋ < 1 / 2 := by
      rw [heq]
      linarith
    rw [roundEven, if_pos hfract]
    exact hfloor

lemma sub_half_le_roundEven (q : ℚ) : q - 1 / 2 ≤ roundEven q := by
  have hlt := Int.lt_floor_add_one q
  rw [roundEven]
  split_ifs <;> push_cast <;> linarith

lemma roundEven_intCast (n : ℤ) : roundEven n = n := by
  rw [roundEven, Int.floor_intCast, sub_self, if_pos (by norm_num)]

end roundEven

/-! ### Doubles -/

section double

variable {x : ℚ}

lemma ulp_pos (x : ℚ) : 0 < ulp x := zpow_pos (by norm_num) _

lemma ulp_le (hx : 0 < x) : ulp x ≤ x * 2 ^ (-52 : ℤ) := by
  have hlog : (2 : ℚ) ^ Int.log 2 x ≤ x := Int.zpow_log_le_self (by norm_num) hx
  rw [ulp, sub_eq_add_neg, zpow_add₀ (by norm_num)]
  exact mul_le_mul_of_nonneg_right hlog (by positivity)

/-- Below `2 ^ 53` the integers are multiples of the distance. -/
lemma exists_natCast_div_ulp (hx : 0 < x) (hlt : x < 2 ^ 53) (n : ℕ) : ∃ m : ℤ, (n : ℚ) / ulp x = m := by
  have hlog : Int.log 2 x < 53 := by
    rw [← Int.lt_zpow_iff_log_lt (by norm_num) hx]
    exact_mod_cast hlt
  obtain ⟨k, hk⟩ : ∃ k : ℕ, Int.log 2 x - 52 = -(k : ℤ) := ⟨(52 - Int.log 2 x).toNat, by omega⟩
  refine ⟨n * 2 ^ k, ?_⟩
  rw [ulp, hk, zpow_neg, div_inv_eq_mul, zpow_natCast]
  push_cast
  rfl

lemma double_zero : double 0 = 0 := by
  have hzero : roundEven 0 = 0 := roundEven_intCast 0
  rw [double, zero_div, hzero, Int.cast_zero, zero_mul]

/-- Rounding does not go beyond an integer. -/
lemma double_le (hx : 0 ≤ x) {n : ℕ} (hn : n < 2 ^ 53) (h : x ≤ n) : double x ≤ n := by
  rcases hx.eq_or_lt with rfl | hx
  · rw [double_zero]
    exact h
  · have hxlt : x < 2 ^ 53 := h.trans_lt (by exact_mod_cast hn)
    obtain ⟨m, hm⟩ := exists_natCast_div_ulp hx hxlt n
    have hquotient : x / ulp x ≤ m := by
      rw [← hm]
      exact div_le_div_of_nonneg_right h (ulp_pos x).le
    calc double x ≤ m * ulp x := by
          rw [double]
          exact mul_le_mul_of_nonneg_right (by exact_mod_cast roundEven_le hquotient) (ulp_pos x).le
      _ = n := by rw [← hm, div_mul_cancel₀ _ (ulp_pos x).ne']

/-- The error is at most half the distance, which is small against the number. -/
lemma sub_le_double (hx : 0 < x) : x - x * 2 ^ (-53 : ℤ) ≤ double x := by
  have hulp : ulp x / 2 ≤ x * 2 ^ (-53 : ℤ) := by
    have hle := ulp_le hx
    have hsplit : (2 : ℚ) ^ (-52 : ℤ) = 2 ^ (-53 : ℤ) * 2 := by norm_num
    rw [hsplit, ← mul_assoc] at hle
    exact (div_le_iff₀ (by norm_num)).mpr hle
  calc x - x * 2 ^ (-53 : ℤ) ≤ x - ulp x / 2 := by linarith
    _ = (x / ulp x - 1 / 2) * ulp x := by
      have hpos := ulp_pos x
      field_simp
    _ ≤ double x := mul_le_mul_of_nonneg_right (sub_half_le_roundEven _) (ulp_pos x).le

lemma double_natCast {n : ℕ} (hn : n < 2 ^ 53) : double n = n := by
  rcases Nat.eq_zero_or_pos n with rfl | hpos
  · exact_mod_cast double_zero
  · have hx : (0 : ℚ) < n := by exact_mod_cast hpos
    obtain ⟨m, hm⟩ := exists_natCast_div_ulp hx (by exact_mod_cast hn) n
    rw [double, hm, roundEven_intCast, ← hm, div_mul_cancel₀ _ (ulp_pos _).ne']

end double

/-- The quotient is rounded up as the exact one is. -/
theorem divCeil_eq {a b : ℕ} (ha : a < 2 ^ 53) (hb : 0 < b) (hb' : b < 2 ^ 53) : divCeil a b = (a ⌈/⌉ b : ℕ) := by
  have hle : a ≤ b * (a ⌈/⌉ b) := (ceilDiv_le_iff_le_mul hb).mp le_rfl
  have hbpos : (0 : ℚ) < b := by exact_mod_cast hb
  rw [divCeil, double_natCast ha, double_natCast hb', Int.ceil_eq_iff]
  rcases Nat.eq_zero_or_pos a with rfl | hapos
  · rw [Nat.cast_zero, zero_div, double_zero, zero_ceilDiv]
    norm_num
  have hx : (0 : ℚ) < a / b := by positivity
  have hquotient : (a : ℚ) / b ≤ (a ⌈/⌉ b : ℕ) := by
    rw [div_le_iff₀ hbpos, mul_comm]
    exact_mod_cast hle
  have hsmall : a ⌈/⌉ b < 2 ^ 53 := by
    refine lt_of_le_of_lt ?_ ha
    rw [ceilDiv_le_iff_le_mul hb]
    exact Nat.le_mul_of_pos_left a hb
  constructor
  · -- the quotient is beyond the integer below by at least `1 / b`
    have hbelow : b * (a ⌈/⌉ b) + 1 ≤ a + b := by
      by_contra hge
      obtain ⟨k, hk⟩ : ∃ k, a ⌈/⌉ b = k + 1 := by
        refine Nat.exists_eq_succ_of_ne_zero fun hzero => ?_
        rw [hzero] at hle
        omega
      have hak : a ≤ b * k := by
        rw [hk, Nat.mul_succ] at hge
        omega
      have hq := (ceilDiv_le_iff_le_mul hb).mpr hak
      omega
    have hbelow' : ((a ⌈/⌉ b : ℕ) : ℚ) - 1 ≤ (a - 1) / b := by
      rw [le_div_iff₀ hbpos]
      have hrat : (b : ℚ) * (a ⌈/⌉ b : ℕ) + 1 ≤ a + b := by exact_mod_cast hbelow
      linarith
    have herror : (a : ℚ) / b * 2 ^ (-53 : ℤ) < 1 / b := by
      rw [div_mul_eq_mul_div, div_lt_div_iff_of_pos_right hbpos]
      have halt : (a : ℚ) < 2 ^ 53 := by exact_mod_cast ha
      calc (a : ℚ) * 2 ^ (-53 : ℤ) < 2 ^ 53 * 2 ^ (-53 : ℤ) := by gcongr
        _ = 1 := by norm_num
    have hdouble := sub_le_double hx
    have hsplit : ((a : ℚ) - 1) / b = a / b - 1 / b := sub_div _ _ _
    push_cast at hbelow' ⊢
    linarith
  · exact_mod_cast double_le hx.le hsmall hquotient

end Rounding
