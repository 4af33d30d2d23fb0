import Mathlib.Tactic.Common
import Mathlib.Data.Int.ModEq
import Mathlib.Algebra.Order.Group.Abs

/-!
# Serial numbers

A counter that never stops is kept in a word, modulo the number of values of the word. Two words are
compared by the half of the circle that their difference is in, which is right as long as the counters are
less than half the circle apart.
-/

namespace Serial

/-- The word `a`, with `n` values, shows the number `x`. -/
def Shows (n a : ℕ) (x : ℤ) : Prop := (a : ℤ) = x % n

instance (n a : ℕ) (x : ℤ) : Decidable (Shows n a x) := inferInstanceAs (Decidable (_ = _))

/-- The word `a` comes after `b`, less than `m` away, in words with `2 * m` values. -/
def After (m a b : ℕ) : Prop := (2 * m - b + a) % (2 * m) < m ∧ a ≠ b

instance (m a b : ℕ) : Decidable (After m a b) := inferInstanceAs (Decidable (_ ∧ _))

variable {n m a b : ℕ} {x y : ℤ}

lemma Shows.lt (h : Shows n a x) (hn : 0 < n) : a < n := by
  have hlt : (a : ℤ) < n := h ▸ Int.emod_lt_of_pos x (by omega)
  exact_mod_cast hlt

lemma Shows.modEq (h : Shows n a x) : (a : ℤ) ≡ x [ZMOD n] := by
  rw [Int.ModEq, h, Int.emod_emod_of_dvd x dvd_rfl]

lemma shows_of_modEq (ha : a < n) (h : (a : ℤ) ≡ x [ZMOD n]) : Shows n a x := by
  rw [Shows, ← Int.emod_eq_of_lt (Int.natCast_nonneg a) (Int.ofNat_lt.mpr ha)]
  exact h

/-- Numbers shown by the same word, less than its number of values apart, are equal. -/
lemma Shows.inj (ha : Shows n a x) (hb : Shows n a y) (hxy : |x - y| < n) : x = y := by
  have hmod : x % n = y % n := ha.symm.trans hb
  have hdvd : (n : ℤ) ∣ x - y := Int.ModEq.dvd hmod.symm
  exact sub_eq_zero.mp (Int.eq_zero_of_abs_lt_dvd hdvd hxy)

lemma Shows.eq_iff (ha : Shows n a x) (hb : Shows n b y) (hxy : |x - y| < n) : a = b ↔ x = y := by
  constructor
  · rintro rfl
    exact ha.inj hb hxy
  · rintro rfl
    have heq : (a : ℤ) = b := ha.trans hb.symm
    exact_mod_cast heq

/-- The first number from `x` on that a word shows. -/
def numberFrom (n : ℕ) (x : ℤ) (a : ℕ) : ℤ := x + (a - x) % n

lemma shows_numberFrom (h : a < n) : Shows n a (numberFrom n x a) := by
  refine shows_of_modEq h ?_
  have hmod : x + (a - x) % n ≡ x + (a - x) [ZMOD n] := (Int.mod_modEq _ _).add_left x
  rw [add_sub_cancel] at hmod
  exact hmod.symm

lemma Shows.numberFrom_eq (h : Shows n a y) (hxy : x ≤ y) (hyx : y < x + n) : numberFrom n x a = y := by
  have hmod : (a - x) % n = (y - x) % n := h.modEq.sub_right x
  rw [numberFrom, hmod, Int.emod_eq_of_lt (by omega) (by omega)]
  omega

/-- Words compare as their numbers do, less than half the circle apart. -/
lemma after_iff (ha : Shows (2 * m) a x) (hb : Shows (2 * m) b y) (hxy : |x - y| < m) : After m a b ↔ y < x := by
  have hm : 0 < m := by
    have hpos : (0 : ℤ) < m := lt_of_le_of_lt (abs_nonneg _) hxy
    exact_mod_cast hpos
  obtain ⟨hlower, hupper⟩ := abs_lt.mp hxy
  have hblt := hb.lt (by omega)
  have hne := ha.eq_iff hb (by push_cast; omega)
  have hmod : (((2 * m - b + a) % (2 * m) : ℕ) : ℤ) = (x - y) % (2 * m : ℕ) := by
    have hcast : ((2 * m - b + a : ℕ) : ℤ) = a - b + (2 * m : ℕ) := by omega
    rw [Int.natCast_emod, hcast, Int.add_emod_right]
    exact (ha.modEq.sub hb.modEq)
  rw [After, ne_eq, hne]
  constructor
  · rintro ⟨hlt, hxy'⟩
    by_contra hle
    have hneg : (x - y) % (2 * m : ℕ) = x - y + (2 * m : ℕ) := by
      rw [← Int.add_emod_right, Int.emod_eq_of_lt (by omega) (by omega)]
    omega
  · intro hlt
    have hpos : (x - y) % (2 * m : ℕ) = x - y := Int.emod_eq_of_lt (by omega) (by push_cast; omega)
    omega

end Serial
