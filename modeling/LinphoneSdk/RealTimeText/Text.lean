import LinphoneSdk.RealTimeText.Filters

/-!
# The text that a buffer carries

The buffers of the source are made of characters and of BOMs. The sink accepts them, alone or one after the other, and
reads the characters back.
-/

namespace RealTimeText

open List

/-! ### The bytes of a character -/

/-- A character that the sink gives back as it was typed. Zeros and BOMs are passed over, and the first byte of a
character from U+40000 on is shifted too far. -/
def Sendable (c : UInt32) : Prop := c ≠ 0 ∧ c < 0x40000 ∧ c ≠ 0xFEFF

instance (c : UInt32) : Decidable (Sendable c) := inferInstanceAs (Decidable (_ ∧ _))

lemma utf8_test_eq (c : UInt8) : utf8_test c =
    if c < 0x80 then 1 else if c < 0xC0 then 0 else if c < 0xE0 then 2 else if c < 0xF0 then 3
    else if c < 0xF8 then 4 else -1 := by
  have hall : ∀ n < 256, utf8_test (.ofNat n) =
      if UInt8.ofNat n < 0x80 then 1 else if UInt8.ofNat n < 0xC0 then 0 else if UInt8.ofNat n < 0xE0 then 2
      else if UInt8.ofNat n < 0xF0 then 3 else if UInt8.ofNat n < 0xF8 then 4 else -1 := by decide +kernel
  simpa using hall c.toNat c.toNat_lt

lemma toNat_utf8Byte {base mask : UInt32} {k : ℕ} (hmask : mask.toNat = 2 ^ k - 1) (hbase : base.toNat + 2 ^ k ≤ 256)
    (bits : UInt32) : (utf8Byte base mask bits).toNat = base.toNat + bits.toNat % 2 ^ k := by
  have hlt := Nat.mod_lt bits.toNat (Nat.two_pow_pos k)
  rw [utf8Byte, UInt32.toNat_toUInt8, UInt32.toNat_add, UInt32.toNat_and, hmask, Nat.and_two_pow_sub_one_eq_mod,
    Nat.mod_eq_of_lt (by omega), Nat.mod_eq_of_lt (by omega)]

variable (bits : UInt32)

lemma toNat_continuationByte : (continuationByte bits).toNat = 128 + bits.toNat % 64 :=
  toNat_utf8Byte (k := 6) rfl (by decide) bits

/-- The first byte of a character of two bytes. -/
lemma toNat_two : (utf8Byte 0xC0 0x1F bits).toNat = 192 + bits.toNat % 32 :=
  toNat_utf8Byte (k := 5) rfl (by decide) bits

/-- The first byte of a character of three bytes. -/
lemma toNat_three : (utf8Byte 0xE0 0xF bits).toNat = 224 + bits.toNat % 16 :=
  toNat_utf8Byte (k := 4) rfl (by decide) bits

/-- The first byte of a character of four bytes. -/
lemma toNat_four : (utf8Byte 0xF0 0x7 bits).toNat = 240 + bits.toNat % 8 :=
  toNat_utf8Byte (k := 3) rfl (by decide) bits

@[simp] lemma utf8_test_continuationByte : utf8_test (continuationByte bits) = 0 := by
  simp [utf8_test_eq, UInt8.lt_iff_toNat_lt, toNat_continuationByte]
  omega

variable {c : UInt32}

lemma utf8_test_one (h : c.toNat < 128) : utf8_test c.toUInt8 = 1 := by
  have hbyte : c.toUInt8.toNat = c.toNat % 256 := UInt32.toNat_toUInt8 c
  rw [utf8_test_eq, if_pos]
  rw [UInt8.lt_iff_toNat_lt, hbyte, Nat.mod_eq_of_lt (h.trans (by decide))]
  exact h

@[simp] lemma utf8_test_two : utf8_test (utf8Byte 0xC0 0x1F bits) = 2 := by
  simp [utf8_test_eq, UInt8.lt_iff_toNat_lt, toNat_two]
  omega

@[simp] lemma utf8_test_three : utf8_test (utf8Byte 0xE0 0xF bits) = 3 := by
  simp [utf8_test_eq, UInt8.lt_iff_toNat_lt, toNat_three]
  omega

@[simp] lemma utf8_test_four : utf8_test (utf8Byte 0xF0 0x7 bits) = 4 := by
  simp [utf8_test_eq, UInt8.lt_iff_toNat_lt, toNat_four]
  omega

lemma and_63 (n : ℕ) : n &&& 63 = n % 64 := Nat.and_two_pow_sub_one_eq_mod _ 6

/-- The bits of a continuation byte are read back. -/
lemma continuationByte_and : (continuationByte bits).toUInt32 &&& 0x3F = bits &&& 0x3F := by
  rw [← UInt32.toNat_inj]
  simp [toNat_continuationByte, and_63]
  omega

/-! ### The next byte -/

variable {a : UInt8}

lemma skip_cons {p : Bytes} (hzero : a ≠ 0) (hbom : a ≠ 0xEF ∨ p.take 2 ≠ [0xBB, 0xBF]) :
    skip (a :: p) = a :: p := by
  match p with
  | [] => simp [skip, hzero]
  | [b] => simp [skip, hzero]
  | b :: c :: p =>
    have hne : ¬ (a = 0xEF ∧ b = 0xBB ∧ c = 0xBF) := by
      rintro ⟨rfl, rfl, rfl⟩
      simp at hbom
    rw [skip, if_neg hzero, if_neg hne]

lemma skip_bom (p : Bytes) : skip (utf8 0xFEFF ++ p) = skip p := by
  have hbytes : utf8 0xFEFF = [0xEF, 0xBB, 0xBF] := by decide
  simp [hbytes, skip]

lemma getchar_cons {p : Bytes} (hzero : a ≠ 0) (hbom : a ≠ 0xEF ∨ p.take 2 ≠ [0xBB, 0xBF]) :
    text_stream_getchar (a :: p) = (a, p) := by
  rw [text_stream_getchar, skip_cons hzero hbom]

lemma getchar_of_toNat (h : a.toNat ≠ 0 ∧ a.toNat ≠ 0xEF) (p : Bytes) : text_stream_getchar (a :: p) = (a, p) := by
  apply getchar_cons
  · rintro rfl
    simp at h
  · left
    rintro rfl
    simp at h

@[simp] lemma getchar_continuationByte (p : Bytes) :
    text_stream_getchar (continuationByte bits :: p) = (continuationByte bits, p) := by
  apply getchar_of_toNat
  rw [toNat_continuationByte]
  omega

/-! ### The next character -/

lemma getchar32_one (hzero : c ≠ 0) (hlt : c.toNat < 128) (p : Bytes) :
    text_stream_getchar32 (c.toUInt8 :: p) = (c, p) := by
  have hbyte : c.toUInt8.toNat = c.toNat := by
    rw [UInt32.toNat_toUInt8]
    exact Nat.mod_eq_of_lt (hlt.trans (by decide))
  have hget : text_stream_getchar (c.toUInt8 :: p) = (c.toUInt8, p) := by
    apply getchar_of_toNat
    rw [← UInt32.toNat_inj.ne] at hzero
    simp only [hbyte, UInt32.reduceToNat] at hzero ⊢
    omega
  have hchar : c.toUInt8.toUInt32 = c := by
    rw [← UInt32.toNat_inj, UInt8.toNat_toUInt32, hbyte]
  rw [text_stream_getchar32, hget]
  simp [utf8_test_one hlt, hchar]

lemma getchar32_two (hlt : c.toNat < 2048) (p : Bytes) :
    text_stream_getchar32 (utf8Byte 0xC0 0x1F (c >>> 6) :: continuationByte c :: p) = (c, p) := by
  have hget : text_stream_getchar (utf8Byte 0xC0 0x1F (c >>> 6) :: continuationByte c :: p) =
      (utf8Byte 0xC0 0x1F (c >>> 6), continuationByte c :: p) := by
    apply getchar_of_toNat
    rw [toNat_two]
    omega
  have hchar : (((utf8Byte 0xC0 0x1F (c >>> 6)).toUInt32 &&& 0x1F) <<< 6) + (c &&& 0x3F) = c := by
    have hand5 (n : ℕ) : n &&& 31 = n % 32 := Nat.and_two_pow_sub_one_eq_mod _ 5
    rw [← UInt32.toNat_inj]
    simp [hand5, and_63, toNat_two, Nat.shiftLeft_eq, Nat.shiftRight_eq_div_pow]
    omega
  rw [text_stream_getchar32, hget]
  simp [continuationByte_and, hchar]

lemma getchar32_three (hlt : c.toNat < 65536) (hbom : c ≠ 0xFEFF) (p : Bytes) :
    text_stream_getchar32 (utf8Byte 0xE0 0xF (c >>> 12) :: continuationByte (c >>> 6) :: continuationByte c :: p) =
      (c, p) := by
  have hchar : (((utf8Byte 0xE0 0xF (c >>> 12)).toUInt32 &&& 0x0F) <<< 12) + (((c >>> 6) &&& 0x3F) <<< 6) +
      (c &&& 0x3F) = c := by
    have hand4 (n : ℕ) : n &&& 15 = n % 16 := Nat.and_two_pow_sub_one_eq_mod _ 4
    rw [← UInt32.toNat_inj]
    simp [hand4, and_63, toNat_three, Nat.shiftLeft_eq, Nat.shiftRight_eq_div_pow]
    omega
  have hget : text_stream_getchar
      (utf8Byte 0xE0 0xF (c >>> 12) :: continuationByte (c >>> 6) :: continuationByte c :: p) =
      (utf8Byte 0xE0 0xF (c >>> 12), continuationByte (c >>> 6) :: continuationByte c :: p) := by
    apply getchar_cons
    · have hbyte := toNat_three (c >>> 12)
      intro hzero
      rw [hzero, UInt8.toNat_zero] at hbyte
      omega
    · -- the bytes of the BOM make its code point
      by_contra hcontra
      obtain ⟨hef, hrest⟩ := not_or.mp hcontra
      simp only [ne_eq, not_not, take_succ_cons, take_zero, cons.injEq, and_true] at hef hrest
      apply hbom
      rw [← hchar, ← continuationByte_and, ← continuationByte_and c, hef, hrest.1, hrest.2]
      decide
  rw [text_stream_getchar32, hget]
  simp [continuationByte_and, hchar]

/-- The first byte has no bit of the character. -/
lemma getchar32_four (hlt : c.toNat < 262144) (p : Bytes) :
    text_stream_getchar32 (utf8Byte 0xF0 0x7 (c >>> 18) :: continuationByte (c >>> 12) :: continuationByte (c >>> 6) ::
      continuationByte c :: p) = (c, p) := by
  have hget : text_stream_getchar (utf8Byte 0xF0 0x7 (c >>> 18) :: continuationByte (c >>> 12) ::
      continuationByte (c >>> 6) :: continuationByte c :: p) =
      (utf8Byte 0xF0 0x7 (c >>> 18), continuationByte (c >>> 12) :: continuationByte (c >>> 6) :: continuationByte c ::
        p) := by
    apply getchar_of_toNat
    rw [toNat_four]
    omega
  have hchar : (((utf8Byte 0xF0 0x7 (c >>> 18)).toUInt32 &&& 0x7) <<< 19) + (((c >>> 12) &&& 0x3F) <<< 12) +
      (((c >>> 6) &&& 0x3F) <<< 6) + (c &&& 0x3F) = c := by
    have hand3 (n : ℕ) : n &&& 7 = n % 8 := Nat.and_two_pow_sub_one_eq_mod _ 3
    rw [← UInt32.toNat_inj]
    simp [hand3, and_63, toNat_four, Nat.shiftLeft_eq, Nat.shiftRight_eq_div_pow]
    omega
  rw [text_stream_getchar32, hget]
  simp [continuationByte_and, hchar]

/-- The character is read back from its bytes. -/
lemma getchar32_utf8 (h : Sendable c) (p : Bytes) : text_stream_getchar32 (utf8 c ++ p) = (c, p) := by
  obtain ⟨hzero, hlt, hbom⟩ := h
  rw [utf8]
  split_ifs with h1 h2 h3 h4
  · exact getchar32_one hzero (UInt32.lt_iff_toNat_lt.mp h1) p
  · exact getchar32_two (UInt32.lt_iff_toNat_lt.mp h2) p
  · exact getchar32_three (UInt32.lt_iff_toNat_lt.mp h3) hbom p
  · exact getchar32_four (UInt32.lt_iff_toNat_lt.mp hlt) p
  · exact absurd (UInt32.lt_trans hlt (by decide)) h4

/-! ### The text of a buffer -/

@[simp] lemma textChars_nil : textChars [] = [] := by
  rw [textChars]
  simp [text_stream_getchar32, text_stream_getchar, skip, utf8_test]

/-- The characters do not depend on what is passed over. -/
lemma textChars_congr {p q : Bytes} (h : skip p = skip q) : textChars p = textChars q := by
  by_cases hend : skip p = []
  · have hnil {l : Bytes} (hl : skip l = []) : textChars l = [] := by
      rw [textChars]
      simp [text_stream_getchar32, text_stream_getchar, hl, utf8_test]
    rw [hnil hend, hnil (h ▸ hend)]
  · have hget : text_stream_getchar p = text_stream_getchar q := by
      obtain ⟨c, rest, hrest⟩ := exists_cons_of_ne_nil hend
      rw [text_stream_getchar, text_stream_getchar, ← h, hrest]
    have hchar : text_stream_getchar32 p = text_stream_getchar32 q := by
      rw [text_stream_getchar32, text_stream_getchar32, hget]
    rw [textChars, hchar, ← textChars]

lemma textChars_utf8 (h : Sendable c) (p : Bytes) : textChars (utf8 c ++ p) = c :: textChars p := by
  rw [textChars, getchar32_utf8 h]
  simp [h.1]

lemma textChars_bom (p : Bytes) : textChars (utf8 0xFEFF ++ p) = textChars p := textChars_congr (skip_bom p)

lemma isUtf8From_utf8 (h : c < 0x110000) (p : Bytes) : isUtf8From 0 (utf8 c ++ p) = isUtf8From 0 p := by
  rw [utf8]
  split_ifs with h1
  · simp [isUtf8From, utf8_test_one (UInt32.lt_iff_toNat_lt.mp h1)]
  · simp [isUtf8From]
  · simp [isUtf8From]
  · simp [isUtf8From]

/-- The bytes of characters and of BOMs. -/
inductive Coded : Bytes → Prop where
  | nil : Coded []
  | char {c : UInt32} (h : Sendable c) {p : Bytes} (hp : Coded p) : Coded (utf8 c ++ p)
  | bom {p : Bytes} (hp : Coded p) : Coded (utf8 0xFEFF ++ p)

namespace Coded

lemma append {p q : Bytes} (hp : Coded p) (hq : Coded q) : Coded (p ++ q) := by
  induction hp with
  | nil => exact hq
  | char h _ ih => rw [append_assoc]; exact .char h ih
  | bom _ ih => rw [append_assoc]; exact .bom ih

/-- The text of two buffers, one after the other. -/
lemma textChars_append {p : Bytes} (hp : Coded p) (q : Bytes) : textChars (p ++ q) = textChars p ++ textChars q := by
  induction hp with
  | nil => simp
  | char h _ ih => rw [append_assoc, textChars_utf8 h, textChars_utf8 h, ih, cons_append]
  | bom _ ih => rw [append_assoc, textChars_bom, textChars_bom, ih]

lemma is_utf8_buf_ok {p : Bytes} (hp : Coded p) : is_utf8_buf_ok p = true := by
  induction hp with
  | nil => rfl
  | char h _ ih => rw [RealTimeText.is_utf8_buf_ok, isUtf8From_utf8 (UInt32.lt_trans h.2.1 (by decide))]; exact ih
  | bom _ ih => rw [RealTimeText.is_utf8_buf_ok, isUtf8From_utf8 (by decide)]; exact ih

end Coded

end RealTimeText
