import Mathlib.Data.Vector.Basic
import Mathlib.Tactic.Common

/-!
# Byte strings and big-endian words

Wire formats are read at an offset of a byte string and written segment by segment. The readers
below are stated on the suffix `l.drop i`, so that reading back a segment that was written at `i`
reduces to one rewrite of that suffix.
-/

/-- A byte string. -/
abbrev Bytes : Type := List UInt8

namespace Bytes

open List UInt32 Nat

/-- A fixed-size buffer. -/
abbrev Buf (n : ℕ) : Type := List.Vector UInt8 n

/-! ### Fixed-size buffers -/

/-- The buffer filled with zeros. -/
def zeros (n : ℕ) : Buf n := ⟨replicate n 0, length_replicate⟩

/-- Copy `n` bytes of `l` from offset `i` on; bytes missing at the end of `l` read as zero. -/
def bufAt (l : Bytes) (i n : ℕ) : Buf n := ⟨(l.drop i).takeD n 0, takeD_length n _ 0⟩

lemma toList_bufAt (l : Bytes) (i n : ℕ) : (bufAt l i n).toList = (l.drop i).takeD n 0 := rfl

/-- A buffer is read back where it was written. -/
lemma bufAt_of_drop {n : ℕ} {l r : Bytes} {i : ℕ} (b : Buf n) (h : l.drop i = b.toList ++ r) : bufAt l i n = b := by
  apply List.Vector.eq
  have hlen : b.toList.length = n := b.toList_length
  rw [toList_bufAt, h, takeD_eq_take _ (by simp), take_left' hlen]

/-! ### Big-endian words -/

/-- The two bytes of a 16-bit word, most significant first. -/
def be16 (x : UInt16) : Bytes := [(x >>> 8).toUInt8, x.toUInt8]

/-- The four bytes of a 32-bit word, most significant first. -/
def be32 (x : UInt32) : Bytes :=
  [(x >>> 24).toUInt8, (x >>> 16).toUInt8, (x >>> 8).toUInt8, x.toUInt8]

/-- The 16-bit word made of two bytes. -/
def word16 (a b : UInt8) : UInt16 := a.toUInt16 <<< 8 ||| b.toUInt16

/-- The 32-bit word made of four bytes. -/
def word32 (a b c d : UInt8) : UInt32 :=
  a.toUInt32 <<< 24 ||| b.toUInt32 <<< 16 ||| c.toUInt32 <<< 8 ||| d.toUInt32

/-- Read a 16-bit word at offset `i`; bytes missing at the end of `l` read as zero. -/
def be16At (l : Bytes) (i : ℕ) : UInt16 := word16 (l.getD i 0) (l.getD (i + 1) 0)

/-- Read a 32-bit word at offset `i`; bytes missing at the end of `l` read as zero. -/
def be32At (l : Bytes) (i : ℕ) : UInt32 :=
  word32 (l.getD i 0) (l.getD (i + 1) 0) (l.getD (i + 2) 0) (l.getD (i + 3) 0)

@[simp] lemma length_be16 (x : UInt16) : (be16 x).length = 2 := rfl

@[simp] lemma length_be32 (x : UInt32) : (be32 x).length = 4 := rfl

lemma word16_toNat (a b : UInt8) : (word16 a b).toNat = a.toNat * 256 + b.toNat := by
  have ha := a.toNat_lt
  have hb := b.toNat_lt
  simp only [word16, UInt16.toNat_or, UInt16.toNat_shiftLeft, UInt8.toNat_toUInt16]
  have hshift : (8 : UInt16).toNat % 16 = 8 := by decide
  rw [hshift, mod_eq_of_lt (by rw [shiftLeft_eq]; omega),
    ← shiftLeft_add_eq_or_of_lt (by omega), shiftLeft_eq]

lemma word16_be16 (x : UInt16) : word16 (x >>> 8).toUInt8 x.toUInt8 = x := by
  apply UInt16.toNat_inj.mp
  have hx := x.toNat_lt
  have hshift : (8 : UInt16).toNat % 16 = 8 := by decide
  rw [word16_toNat]
  simp only [UInt16.toNat_toUInt8, UInt16.toNat_shiftRight, hshift, shiftRight_eq_div_pow]
  omega

lemma word32_toNat (a b c d : UInt8) : (word32 a b c d).toNat =
    ((a.toNat * 256 + b.toNat) * 256 + c.toNat) * 256 + d.toNat := by
  have ha := a.toNat_lt
  have hb := b.toNat_lt
  have hc := c.toNat_lt
  have hd := d.toNat_lt
  have h24 : (24 : UInt32).toNat % 32 = 24 := by decide
  have h16 : (16 : UInt32).toNat % 32 = 16 := by decide
  have h8 : (8 : UInt32).toNat % 32 = 8 := by decide
  simp only [word32, UInt32.toNat_or, UInt32.toNat_shiftLeft, UInt8.toNat_toUInt32, h24, h16, h8]
  rw [mod_eq_of_lt (by rw [shiftLeft_eq]; omega), mod_eq_of_lt (by rw [shiftLeft_eq]; omega),
    mod_eq_of_lt (by rw [shiftLeft_eq]; omega)]
  -- the four bytes occupy disjoint bit ranges, so each `|||` is an addition
  have hab : a.toNat <<< 24 ||| b.toNat <<< 16 = (a.toNat * 256 + b.toNat) <<< 16 := by
    rw [← shiftLeft_add_eq_or_of_lt (by rw [shiftLeft_eq]; omega)]
    simp only [shiftLeft_eq]; omega
  have habc : (a.toNat * 256 + b.toNat) <<< 16 ||| c.toNat <<< 8 =
      ((a.toNat * 256 + b.toNat) * 256 + c.toNat) <<< 8 := by
    rw [← shiftLeft_add_eq_or_of_lt (by rw [shiftLeft_eq]; omega)]
    simp only [shiftLeft_eq]; omega
  rw [hab, habc, ← shiftLeft_add_eq_or_of_lt (by omega), shiftLeft_eq]

lemma word32_be32 (x : UInt32) : word32 (x >>> 24).toUInt8 (x >>> 16).toUInt8 (x >>> 8).toUInt8 x.toUInt8 = x := by
  apply UInt32.toNat_inj.mp
  have hx := x.toNat_lt
  have h24 : (24 : UInt32).toNat % 32 = 24 := by decide
  have h16 : (16 : UInt32).toNat % 32 = 16 := by decide
  have h8 : (8 : UInt32).toNat % 32 = 8 := by decide
  rw [word32_toNat]
  simp only [toNat_toUInt8, UInt32.toNat_shiftRight, h24, h16, h8, shiftRight_eq_div_pow]
  omega

lemma be16_word16 (a b : UInt8) : be16 (word16 a b) = [a, b] := by
  have hb := b.toNat_lt
  have ha := a.toNat_lt
  have hshift : (8 : UInt16).toNat % 16 = 8 := by decide
  have hfst : (word16 a b >>> 8).toUInt8 = a := by
    apply UInt8.toNat_inj.mp
    simp only [UInt16.toNat_toUInt8, UInt16.toNat_shiftRight, word16_toNat, hshift, shiftRight_eq_div_pow]
    omega
  have hsnd : (word16 a b).toUInt8 = b := by
    apply UInt8.toNat_inj.mp
    rw [UInt16.toNat_toUInt8, word16_toNat]
    omega
  rw [be16, hfst, hsnd]

lemma be32_word32 (a b c d : UInt8) : be32 (word32 a b c d) = [a, b, c, d] := by
  have ha := a.toNat_lt
  have hb := b.toNat_lt
  have hc := c.toNat_lt
  have hd := d.toNat_lt
  have h24 : (24 : UInt32).toNat % 32 = 24 := by decide
  have h16 : (16 : UInt32).toNat % 32 = 16 := by decide
  have h8 : (8 : UInt32).toNat % 32 = 8 := by decide
  have hbyte {x : UInt32} {e : UInt8} (h : x.toNat % 256 = e.toNat) : x.toUInt8 = e :=
    UInt8.toNat_inj.mp ((toNat_toUInt8 x).trans h)
  rw [be32]
  congr 1
  · refine hbyte ?_
    simp only [UInt32.toNat_shiftRight, word32_toNat, h24, shiftRight_eq_div_pow]
    omega
  congr 1
  · refine hbyte ?_
    simp only [UInt32.toNat_shiftRight, word32_toNat, h16, shiftRight_eq_div_pow]
    omega
  congr 1
  · refine hbyte ?_
    simp only [UInt32.toNat_shiftRight, word32_toNat, h8, shiftRight_eq_div_pow]
    omega
  congr 1
  · refine hbyte ?_
    rw [word32_toNat]
    omega

lemma getD_of_drop {l m : Bytes} {i : ℕ} (h : l.drop i = m) (j : ℕ) (d : UInt8) : l.getD (i + j) d = m.getD j d := by
  rw [← h, getD_eq_getElem?_getD, getD_eq_getElem?_getD, getElem?_drop]

/-- A 16-bit word is read back where it was written. -/
lemma be16At_of_drop {l rest : Bytes} {i : ℕ} (x : UInt16) (h : l.drop i = be16 x ++ rest) : be16At l i = x := by
  have h0 := getD_of_drop h 0 0
  have h1 := getD_of_drop h 1 0
  rw [Nat.add_zero] at h0
  rw [be16At, h0, h1]
  exact word16_be16 x

/-- A 32-bit word is read back where it was written. -/
lemma be32At_of_drop {l r : Bytes} {i : ℕ} (x : UInt32) (h : l.drop i = be32 x ++ r) : be32At l i = x := by
  have h0 := getD_of_drop h 0 0
  rw [Nat.add_zero] at h0
  rw [be32At, h0, getD_of_drop h 1 0, getD_of_drop h 2 0, getD_of_drop h 3 0]
  exact word32_be32 x

end Bytes
