import LinphoneSdk.Lib.CString
import Mathlib.Data.UInt

/-!
# Percent escaping

`bctbx_escape` writes the characters that the rules do not allow as `%XX`; `bctbx_unescaped_string` decodes every
escaped character, `bctbx_unescaped_string_only_chars_in_rules` those that the rules allow. A string is given by its
bytes before the terminator, and the buffers have the sizes that the functions allocate.
-/

namespace Bctoolbox

open CString List Option UInt8 Nat

/-! ### Buffers -/

/-- An allocated buffer, and what was written at its front. -/
structure OutputBuffer where
  size : ℕ
  text : Bytes

/-- The lower-case digit. -/
def hexDigit (n : ℕ) : UInt8 := ofNat (if n < 10 then 48 + n else 87 + n)

/-- `"%%%02x"`. -/
def escaped (c : UInt8) : Bytes := [37, hexDigit (c.toNat / 16), hexDigit (c.toNat % 16)]

namespace OutputBuffer

def realloc (b : OutputBuffer) (size : ℕ) : OutputBuffer := { b with size }

/-- One character, `none` behind the end of the buffer. -/
def put (b : OutputBuffer) (c : UInt8) : Option OutputBuffer :=
  if b.text.length < b.size then some { b with text := b.text ++ [c] } else none

/-- `snprintf` of an escaped character, `none` when the buffer has no room for it and its terminator. -/
def putEscaped (b : OutputBuffer) (c : UInt8) : Option OutputBuffer :=
  if b.text.length + 3 < b.size then some { b with text := b.text ++ escaped c } else none

/-- The terminator, and the string in front of it. -/
def close (b : OutputBuffer) : Option Bytes := if b.text.length < b.size then some b.text else none

end OutputBuffer

/-- The table of `bctbx_noescape_rules_t`. -/
abbrev Rules := UInt8 → UInt8

/-! ### Encoder -/

def INT_MAX : ℕ := 2 ^ 31 - 1

/-- The loop of `bctbx_escape`, `none` when its `int` counter overflows. -/
def escapeLoop (noescapes : Rules) (orig_size : ℕ) (i outbuf_size : ℕ) (output_buff : OutputBuffer) :
    Bytes → Option OutputBuffer
  | [] => some output_buff
  | c :: buff =>
    let grown := outbuf_size < output_buff.text.length + 3
    let outbuf_size' := if grown then outbuf_size + max (orig_size / 2) 3 else outbuf_size
    let output_buff' := if grown then output_buff.realloc (outbuf_size' + 1) else output_buff
    (if noescapes c = 1 then output_buff'.put c else output_buff'.putEscaped c).bind fun written =>
      if i < INT_MAX then escapeLoop noescapes orig_size (i + 1) outbuf_size' written buff else none

def escape (noescapes : Rules) (buff : Bytes) : Option Bytes :=
  (escapeLoop noescapes buff.length 0 buff.length ⟨buff.length + 1, []⟩ buff).bind OutputBuffer.close

/-! ### Decoders -/

def isEscapedChar (a : Bytes) : Bool := a.head? = some 37 ∧ 3 ≤ a.length

/-- `sscanf` with `"%02x"`: the blanks are skipped, the number has two characters at most and may have a sign. `none`
when the conversion fails. -/
def scan02x (s : Bytes) : Option UInt8 :=
  match skipSpaces s with
  | [] => none
  | [c] => (hexDigit? c).map ofNat
  | c :: d :: _ =>
    match hexDigit? c, hexDigit? d with
    | some m, some n => some (ofNat (16 * m + n))
    | some m, none => if c = 48 ∧ (d = 120 ∨ d = 88) then none else some (ofNat m)
    | none, some n => if c = 43 then some (ofNat n) else if c = 45 then some (-ofNat n) else none
    | none, none => none

/-- The character at the front of `c :: a` and what follows it. Where the conversion fails, `tmp` holds what was in its
place, `garbage`. -/
def getChar (garbage : Bytes → UInt8) (c : UInt8) (a : Bytes) : UInt8 × Bytes :=
  if isEscapedChar (c :: a) then ((scan02x a).getD (garbage a), a.drop 2) else (c, a)

lemma length_getChar_lt (garbage : Bytes → UInt8) (c : UInt8) (a : Bytes) :
    (getChar garbage c a).2.length < a.length + 1 := by
  rw [getChar]
  split_ifs
  · rw [length_drop]
    omega
  · exact lt_succ_self _

def unescapeLoop (garbage : Bytes → UInt8) (buff : Bytes) (output_buff : OutputBuffer) : Option OutputBuffer :=
  match buff with
  | [] => some output_buff
  | c :: a => (output_buff.put (getChar garbage c a).1).bind (unescapeLoop garbage (getChar garbage c a).2)
  termination_by buff.length
  decreasing_by exact length_getChar_lt garbage c a

def unescapedString (garbage : Bytes → UInt8) (buff : Bytes) : Option Bytes :=
  (unescapeLoop garbage buff ⟨buff.length + 1, []⟩).bind OutputBuffer.close

def unescapeOnlyLoop (garbage : Bytes → UInt8) (unescape : Rules) (buff : Bytes)
    (output_buff : OutputBuffer) : Option OutputBuffer :=
  match buff with
  | [] => some output_buff
  | c :: a =>
    (output_buff.put (getChar garbage c a).1).bind fun written =>
      if unescape (getChar garbage c a).1 = 0 ∧ isEscapedChar (getChar garbage c a).2 then
        ((output_buff.realloc (output_buff.size + 3)).putEscaped (getChar garbage c a).1).bind
          (unescapeOnlyLoop garbage unescape (getChar garbage c a).2)
      else unescapeOnlyLoop garbage unescape (getChar garbage c a).2 written
  termination_by buff.length
  decreasing_by all_goals exact length_getChar_lt garbage c a

def unescapedStringOnlyCharsInRules (garbage : Bytes → UInt8) (unescape : Rules) (buff : Bytes) : Option Bytes :=
  (unescapeOnlyLoop garbage unescape buff ⟨buff.length + 1, []⟩).bind OutputBuffer.close

/-! ### Digits -/

lemma hexDigit?_hexDigit {n : ℕ} (h : n < 16) : hexDigit? (hexDigit n) = some n := by
  have hall : ∀ n : Fin 16, hexDigit? (hexDigit n) = some n.1 := by decide
  exact hall ⟨n, h⟩

lemma lt_of_hexDigit {c : UInt8} {n : ℕ} (h : hexDigit? c = some n) : n < 16 := by
  simp only [hexDigit?, isdigit, Bool.and_eq_true, decide_eq_true_eq, le_iff_toNat_le] at h
  split_ifs at h with h₁ h₂ h₃ <;> cases h
  · have hle : c.toNat ≤ 57 := h₁.2
    omega
  · have hle : c.toNat ≤ 102 := h₂.2
    omega
  · have hle : c.toNat ≤ 70 := h₃.2
    omega

/-- The value of the two digits of an escape sequence. -/
def hexPair (h l : UInt8) : Option UInt8 :=
  (hexDigit? h).bind fun m => (hexDigit? l).map fun n => ofNat (16 * m + n)

lemma hexPair_hexDigit (c : UInt8) : hexPair (hexDigit (c.toNat / 16)) (hexDigit (c.toNat % 16)) = some c := by
  have hlt : c.toNat < 256 := c.toNat_lt
  have hhigh : c.toNat / 16 < 16 := by omega
  rw [hexPair, hexDigit?_hexDigit hhigh, hexDigit?_hexDigit (mod_lt _ (by decide)), bind_some,
    map_some, div_add_mod, UInt8.ofNat_toNat]

/-- The conversion of two digits. -/
lemma scan02x_of_hexPair {h l v : UInt8} (hv : hexPair h l = some v) (a : Bytes) :
    scan02x (h :: l :: a) = some v := by
  rw [hexPair, bind_eq_some_iff] at hv
  obtain ⟨m, hm, hv⟩ := hv
  rw [map_eq_some_iff] at hv
  obtain ⟨n, hn, rfl⟩ := hv
  have hspace : isspace h = false := (of_hexDigit (by rw [hm]; rfl)).1
  rw [scan02x, skipSpaces, dropWhile_cons_of_neg (by rw [hspace]; decide)]
  simp only [hm, hn]

/-- Where a `%` follows the first character, only a digit is converted. -/
lemma scan02x_percent {h v : UInt8} {a : Bytes} (hv : scan02x (h :: 37 :: a) = some v) :
    ∃ n, hexDigit? h = some n ∧ v = ofNat n := by
  have hpercent : hexDigit? 37 = none := by decide
  rw [scan02x, skipSpaces] at hv
  cases hspace : isspace h with
  | true =>
    rw [dropWhile_cons_of_pos hspace, dropWhile_cons_of_neg (by decide)] at hv
    cases a with
    | nil => cases hv
    | cons d a =>
      have hsign : (37 : UInt8) ≠ 43 ∧ (37 : UInt8) ≠ 45 := by decide
      simp only [hpercent, hsign.1, hsign.2, if_false] at hv
      cases hdigit : hexDigit? d <;> rw [hdigit] at hv <;> cases hv
  | false =>
    rw [dropWhile_cons_of_neg (by rw [hspace]; decide)] at hv
    simp only [hpercent] at hv
    cases hdigit : hexDigit? h with
    | none =>
      rw [hdigit] at hv
      cases hv
    | some m =>
      rw [hdigit] at hv
      simp only [show ¬ (h = 48 ∧ ((37 : UInt8) = 120 ∨ (37 : UInt8) = 88)) from fun hcon => absurd hcon.2 (by decide),
        if_false, some.injEq] at hv
      exact ⟨m, rfl, hv.symm⟩

/-! ### The encoder and its inverse -/

/-- What the encoder writes. -/
def escapedText (noescapes : Rules) (buff : Bytes) : Bytes :=
  buff.flatMap fun c => if noescapes c = 1 then [c] else escaped c

/-- The loop of the encoder ends unless its counter overflows, and the buffer has room for what it writes. -/
lemma escapeLoop_eq (noescapes : Rules) (orig_size : ℕ) {outbuf_size : ℕ} {b : OutputBuffer}
    (hsize : b.size = outbuf_size + 1) (hroom : b.text.length ≤ outbuf_size) (i : ℕ) (buff : Bytes) :
    (i ≤ INT_MAX → i + buff.length ≤ INT_MAX → (escapeLoop noescapes orig_size i outbuf_size b buff).bind
        OutputBuffer.close = some (b.text ++ escapedText noescapes buff)) ∧
      (i ≤ INT_MAX → INT_MAX < i + buff.length → escapeLoop noescapes orig_size i outbuf_size b buff = none) := by
  induction buff generalizing i outbuf_size b with
  | nil =>
    refine ⟨fun _ _ => ?_, fun hi hlt => absurd hi (Nat.not_le_of_lt hlt)⟩
    rw [escapeLoop, bind_some, OutputBuffer.close, if_pos (by omega), escapedText, flatMap_nil, append_nil]
  | cons c buff ih =>
    have hmax : 3 ≤ max (orig_size / 2) 3 := le_max_right _ _
    set grown := outbuf_size < b.text.length + 3 with hgrown
    set size := if grown then outbuf_size + max (orig_size / 2) 3 else outbuf_size with hsize'
    set buffer := if grown then b.realloc (size + 1) else b with hbuffer
    have htext : buffer.text = b.text := by
      rw [hbuffer]
      split_ifs <;> rfl
    have hsize₁ : buffer.size = size + 1 := by
      rw [hbuffer]
      split_ifs with hg
      · rfl
      · rw [hsize, hsize', if_neg hg]
    have hroom₁ : b.text.length + 3 ≤ size := by
      rw [hsize']
      split_ifs with hg <;> rw [hgrown] at hg <;> omega
    have hwritten : ∃ written : OutputBuffer, (if noescapes c = 1 then buffer.put c else buffer.putEscaped c) =
        some written ∧ written.size = size + 1 ∧ written.text.length ≤ size ∧
          written.text = b.text ++ (if noescapes c = 1 then [c] else escaped c) := by
      split_ifs with hc
      · rw [OutputBuffer.put, if_pos (by rw [htext]; omega)]
        refine ⟨_, rfl, hsize₁, ?_, congrArg (· ++ [c]) htext⟩
        rw [length_append, htext, length_singleton]
        omega
      · rw [OutputBuffer.putEscaped, if_pos (by rw [htext]; omega)]
        refine ⟨_, rfl, hsize₁, ?_, congrArg (· ++ escaped c) htext⟩
        rw [length_append, htext]
        exact hroom₁
    obtain ⟨written, heq, hsizew, hroomw, htextw⟩ := hwritten
    have hstep : escapeLoop noescapes orig_size i outbuf_size b (c :: buff) =
        if i < INT_MAX then escapeLoop noescapes orig_size (i + 1) size written buff else none := by
      rw [escapeLoop]
      exact congrArg (Option.bind · _) heq
    obtain ⟨hruns, hoverflows⟩ := ih hsizew hroomw (i + 1)
    rw [hstep, length_cons]
    constructor
    · intro hi hle
      rw [if_pos (by omega), hruns (by omega) (by omega), htextw, escapedText, escapedText, flatMap_cons, append_assoc]
    · intro hi hlt
      split_ifs with hlast
      · exact hoverflows hlast (by omega)
      · rfl

/-- The encoder ends where its counter reaches the end of the string. -/
lemma escape_eq_some (noescapes : Rules) {buff : Bytes} (h : buff.length ≤ INT_MAX) :
    escape noescapes buff = some (escapedText noescapes buff) :=
  (escapeLoop_eq noescapes buff.length (b := ⟨buff.length + 1, []⟩) rfl (Nat.zero_le _) 0 buff).1 (Nat.zero_le _)
    (by omega)

lemma escape_eq_none (noescapes : Rules) {buff : Bytes} (h : INT_MAX < buff.length) :
    escape noescapes buff = none := by
  have hloop := (escapeLoop_eq noescapes buff.length (b := ⟨buff.length + 1, []⟩) rfl (Nat.zero_le _) 0 buff).2
    (Nat.zero_le _) (by omega)
  rw [escape, hloop, bind_none]

section decoders

variable (garbage : Bytes → UInt8)

lemma getChar_of_ne {c : UInt8} (h : c ≠ 37) (a : Bytes) : getChar garbage c a = (c, a) := by
  rw [getChar, isEscapedChar, if_neg]
  simp [h]

lemma getChar_of_hexPair {h l v : UInt8} (hv : hexPair h l = some v) (a : Bytes) :
    getChar garbage 37 (h :: l :: a) = (v, a) := by
  rw [getChar, if_pos (by simp [isEscapedChar]), scan02x_of_hexPair hv]
  rfl

lemma getChar_escaped (c : UInt8) (a : Bytes) :
    getChar garbage 37 (hexDigit (c.toNat / 16) :: hexDigit (c.toNat % 16) :: a) = (c, a) :=
  getChar_of_hexPair garbage (hexPair_hexDigit c) a

/-- The decoder takes what the encoder wrote for one character. -/
lemma unescapeLoop_escapedText {noescapes : Rules} (hpercent : noescapes 37 ≠ 1) {b : OutputBuffer}
    (buff : Bytes) (hroom : b.text.length + (escapedText noescapes buff).length < b.size) :
    (unescapeLoop garbage (escapedText noescapes buff) b).bind OutputBuffer.close = some (b.text ++ buff) := by
  induction buff generalizing b with
  | nil =>
    rw [escapedText, flatMap_nil, unescapeLoop, bind_some, OutputBuffer.close, if_pos (by omega), append_nil]
  | cons c buff ih =>
    have htail : escapedText noescapes (c :: buff) =
        (if noescapes c = 1 then [c] else escaped c) ++ escapedText noescapes buff := flatMap_cons
    rw [htail, length_append] at hroom
    have hchar : ∃ d a, (if noescapes c = 1 then [c] else escaped c) ++ escapedText noescapes buff = d :: a ∧
        getChar garbage d a = (c, escapedText noescapes buff) ∧
          0 < (if noescapes c = 1 then [c] else escaped c).length := by
      split_ifs with hc
      · have hne : c ≠ 37 := fun h => hpercent (h ▸ hc)
        exact ⟨c, _, rfl, getChar_of_ne garbage hne _, Nat.one_pos⟩
      · exact ⟨37, _, rfl, getChar_escaped garbage c _, succ_pos 2⟩
    obtain ⟨d, a, heq, hget, hpos⟩ := hchar
    rw [htail, heq, unescapeLoop, hget, OutputBuffer.put, if_pos (by omega), bind_some]
    have hlater := ih (b := { b with text := b.text ++ [c] }) (by
      rw [length_append, length_singleton]
      exact lt_of_le_of_lt (by omega) hroom)
    rw [hlater, append_assoc, singleton_append]

lemma unescapedString_escapedText {noescapes : Rules} (hpercent : noescapes 37 ≠ 1) (buff : Bytes) :
    unescapedString garbage (escapedText noescapes buff) = some buff :=
  unescapeLoop_escapedText garbage hpercent buff (by
    rw [length_nil, Nat.zero_add]
    exact lt_succ_self _)

end decoders

/-- Escaping and back, on strings whose length an `int` can count. -/
lemma round_trip_iff {noescapes : Rules} (hpercent : noescapes 37 ≠ 1) (buff : Bytes) :
    (∃ text, escape noescapes buff = some text ∧ ∀ garbage, unescapedString garbage text = some buff) ↔
      buff.length ≤ INT_MAX := by
  constructor
  · rintro ⟨text, htext, -⟩
    by_contra hlong
    rw [escape_eq_none noescapes (Nat.lt_of_not_le hlong)] at htext
    cases htext
  · intro hle
    exact ⟨_, escape_eq_some noescapes hle, fun garbage => unescapedString_escapedText garbage hpercent buff⟩

/-! ### The decoder of the characters in the rules -/

/-- The value of the escape sequence at the front of `c :: a`, when it is well formed. -/
def sequenceValue (c : UInt8) (a : Bytes) : Option UInt8 :=
  if c = 37 then a[0]?.bind fun h => a[1]?.bind fun l => hexPair h l else none

/-- The text with the escape sequences of the characters in the rules decoded. -/
def selected (unescape : Rules) (buff : Bytes) : Bytes :=
  match buff with
  | [] => []
  | c :: a =>
    match sequenceValue c a with
    | some v => (if unescape v = 0 then c :: a.take 2 else [v]) ++ selected unescape (a.drop 2)
    | none => c :: selected unescape a
  termination_by buff.length
  decreasing_by
    · rw [length_drop, length_cons]
      omega
    · exact lt_succ_self _

/-- The places where the loop of the decoder stands. -/
inductive Reaches : Bytes → Bytes → Prop where
  | refl (buff : Bytes) : Reaches buff buff
  | step {c : UInt8} {a t : Bytes} (garbage : Bytes → UInt8) (h : Reaches (getChar garbage c a).2 t) :
      Reaches (c :: a) t

/-- The strings that are decoded as the rules say: a character out of the rules is not followed by an escaped one, and
an escape sequence out of the rules is written in lower case and followed by an escaped character. -/
inductive Selects (unescape : Rules) : Bytes → Prop where
  | nil : Selects unescape []
  | char {c : UInt8} {a : Bytes} (hc : isEscapedChar (c :: a) = false)
      (hkept : unescape c = 0 → isEscapedChar a = false) (ha : Selects unescape a) : Selects unescape (c :: a)
  | sequence {h l v : UInt8} {a : Bytes} (hv : hexPair h l = some v)
      (hkept : unescape v = 0 → isEscapedChar a = true ∧ escaped v = [37, h, l]) (ha : Selects unescape a) :
      Selects unescape (37 :: h :: l :: a)

section selection

variable {unescape : Rules} {garbage : Bytes → UInt8} {c h l v : UInt8} {a : Bytes}

/-- What the decoder writes for a character that `rest` follows. -/
def emitted (unescape : Rules) (v : UInt8) (rest : Bytes) : Bytes :=
  if unescape v = 0 ∧ isEscapedChar rest then escaped v else [v]

/-- What the decoder writes. -/
def unescapedText (garbage : Bytes → UInt8) (unescape : Rules) (buff : Bytes) : Bytes :=
  match buff with
  | [] => []
  | c :: a =>
    emitted unescape (getChar garbage c a).1 (getChar garbage c a).2 ++
      unescapedText garbage unescape (getChar garbage c a).2
  termination_by buff.length
  decreasing_by exact length_getChar_lt garbage c a

/-- The buffer has room for what the decoder writes. -/
lemma unescapeOnlyLoop_eq (garbage : Bytes → UInt8) (unescape : Rules) (buff : Bytes) {b : OutputBuffer}
    (hroom : b.text.length + buff.length < b.size) :
    (unescapeOnlyLoop garbage unescape buff b).bind OutputBuffer.close =
      some (b.text ++ unescapedText garbage unescape buff) := by
  induction hn : buff.length using Nat.strong_induction_on generalizing buff b with
  | _ n ih =>
    cases buff with
    | nil =>
      rw [unescapeOnlyLoop, bind_some, OutputBuffer.close, if_pos (by simpa using hroom), unescapedText, append_nil]
    | cons c a =>
      have hlt := length_getChar_lt garbage c a
      rw [length_cons] at hroom hn
      rw [unescapeOnlyLoop, unescapedText, OutputBuffer.put, if_pos (by omega), bind_some, emitted]
      split_ifs with hkept
      · have hescaped : (escaped (getChar garbage c a).1).length = 3 := rfl
        have hfits : (b.realloc (b.size + 3)).text.length + 3 < (b.realloc (b.size + 3)).size := by
          rw [OutputBuffer.realloc]
          dsimp only
          omega
        have hlater := ih _ (hn ▸ hlt) (getChar garbage c a).2
          (b := ⟨b.size + 3, b.text ++ escaped (getChar garbage c a).1⟩)
          (by rw [length_append, hescaped]; dsimp only; omega) rfl
        rw [OutputBuffer.putEscaped, if_pos hfits, bind_some, ← append_assoc]
        exact hlater
      · have hlater := ih _ (hn ▸ hlt) (getChar garbage c a).2 (b := ⟨b.size, b.text ++ [(getChar garbage c a).1]⟩)
          (by rw [length_append, length_singleton]; dsimp only; omega) rfl
        rw [← append_assoc]
        exact hlater

/-- The decoder stays within its buffer, whatever the string. -/
lemma unescapedStringOnlyCharsInRules_eq (garbage : Bytes → UInt8) (unescape : Rules) (buff : Bytes) :
    unescapedStringOnlyCharsInRules garbage unescape buff = some (unescapedText garbage unescape buff) :=
  unescapeOnlyLoop_eq garbage unescape buff (by
    rw [length_nil, Nat.zero_add]
    exact lt_succ_self _)

lemma getChar_of_not_escaped (hc : isEscapedChar (c :: a) = false) : getChar garbage c a = (c, a) := by
  rw [getChar, hc]
  exact if_neg Bool.false_ne_true

lemma sequenceValue_of_not_escaped (hc : isEscapedChar (c :: a) = false) : sequenceValue c a = none := by
  rw [sequenceValue]
  split_ifs with hpercent
  · subst hpercent
    rcases a with _ | ⟨h, _ | ⟨l, a⟩⟩
    · rfl
    · rfl
    · simp [isEscapedChar] at hc
  · rfl

/-- What follows an escaped character does not depend on the conversion. -/
lemma getChar_percent :
    getChar garbage 37 (h :: l :: a) = ((scan02x (h :: l :: a)).getD (garbage (h :: l :: a)), a) := by
  rw [getChar, if_pos (by simp [isEscapedChar])]
  rfl

lemma exists_of_isEscapedChar (hc : isEscapedChar (c :: a) = true) : c = 37 ∧ ∃ h l rest, a = h :: l :: rest := by
  rw [isEscapedChar, decide_eq_true_eq, head?_cons, some.injEq] at hc
  rcases a with _ | ⟨h, _ | ⟨l, rest⟩⟩
  · exact absurd hc.2 (by simp)
  · exact absurd hc.2 (by simp)
  · exact ⟨hc.1, h, l, rest, rfl⟩

lemma selected_of_none (h : sequenceValue c a = none) : selected unescape (c :: a) = c :: selected unescape a := by
  rw [selected]
  simp only [h]

lemma selected_of_hexPair (hv : hexPair h l = some v) :
    selected unescape (37 :: h :: l :: a) = (if unescape v = 0 then [37, h, l] else [v]) ++ selected unescape a := by
  have hvalue : sequenceValue 37 (h :: l :: a) = some v := hv
  rw [selected]
  simp only [hvalue]
  rfl

/-- The decoder is right on the strings that are decoded as the rules say. -/
lemma Selects.unescapedText_eq {buff : Bytes} (hs : Selects unescape buff) (garbage : Bytes → UInt8) :
    unescapedText garbage unescape buff = selected unescape buff := by
  induction hs with
  | nil => rw [unescapedText, selected]
  | char hc hkept _ ih =>
    rw [unescapedText, getChar_of_not_escaped hc, ih, emitted, if_neg,
      selected_of_none (sequenceValue_of_not_escaped hc), singleton_append]
    rintro ⟨hzero, hescaped⟩
    rw [hkept hzero] at hescaped
    cases hescaped
  | sequence hv hkept _ ih =>
    rw [unescapedText, getChar_of_hexPair garbage hv, ih, selected_of_hexPair hv, emitted]
    split_ifs with hwritten hzero hzero
    · rw [(hkept hzero).2]
    · exact absurd hwritten.1 hzero
    · exact absurd ⟨hzero, (hkept hzero).1⟩ hwritten
    · rfl

/-- The strings that are decoded as the rules say are so from every place that the loop reaches. -/
lemma Selects.of_reaches {buff t : Bytes} (hs : Selects unescape buff) (ht : Reaches buff t) :
    Selects unescape t := by
  induction ht with
  | refl => exact hs
  | step garbage _ ih =>
    cases hs with
    | char hc _ ha =>
      rw [getChar_of_not_escaped hc] at ih
      exact ih ha
    | sequence hv _ ha =>
      rw [getChar_of_hexPair garbage hv] at ih
      exact ih ha

/-! ### Escape sequences that are not well formed -/

lemma length_escaped (v : UInt8) : (escaped v).length = 3 := rfl

lemma escaped_injective {v w : UInt8} (heq : escaped v = escaped w) : v = w := by
  rw [escaped, escaped, cons.injEq, cons.injEq, cons.injEq] at heq
  have hv := hexPair_hexDigit v
  rw [heq.2.1, heq.2.2.1, hexPair_hexDigit] at hv
  exact (some.inj hv).symm

/-- What is written for a character shows it. -/
lemma emitted_injective {w : UInt8} {rest : Bytes}
    (heq : emitted unescape v rest = emitted unescape w rest) : v = w := by
  rw [emitted, emitted] at heq
  split_ifs at heq
  · exact escaped_injective heq
  · exact absurd (congrArg length heq) (by rw [length_escaped, length_singleton]; decide)
  · exact absurd (congrArg length heq) (by rw [length_escaped, length_singleton]; decide)
  · exact singleton_inj.mp heq

/-- An escape sequence of anything but two digits is not left as it is. -/
lemma not_right_of_malformed (hv : hexPair h l = none) :
    ¬ ∀ garbage : Bytes → UInt8, emitted unescape (getChar garbage 37 (h :: l :: a)).1 a ++ selected unescape a =
      selected unescape (37 :: h :: l :: a) := by
  intro hright
  have hvalue : sequenceValue 37 (h :: l :: a) = none := hv
  simp only [getChar_percent, selected_of_none hvalue] at hright
  cases hscan : scan02x (h :: l :: a) with
  | none =>
    -- what was in the place of the number is written
    simp only [hscan, getD_none] at hright
    have hsame := (hright fun _ => 0).trans (hright fun _ => 1).symm
    exact absurd (emitted_injective (append_cancel_right hsame)) (by decide)
  | some v =>
    have htext := hright fun _ => 0
    rw [hscan, getD_some] at htext
    have hpercent : h ≠ 37 := by
      rintro rfl
      rw [scan02x, skipSpaces, dropWhile_cons_of_neg (by decide)] at hscan
      have hdigit : hexDigit? 37 = none := by decide
      have hsign : (37 : UInt8) ≠ 43 ∧ (37 : UInt8) ≠ 45 := by decide
      simp only [hdigit, hsign.1, hsign.2, if_false] at hscan
      cases hl : hexDigit? l <;> rw [hl] at hscan <;> cases hscan
    rw [selected_of_none (c := h) (by rw [sequenceValue, if_neg hpercent])] at htext
    by_cases hl : l = 37
    · -- the second character opens an escape sequence itself
      subst hl
      obtain ⟨n, hn, rfl⟩ := scan02x_percent hscan
      have hlt : n < 16 := lt_of_hexDigit hn
      have hnat : (ofNat n).toNat = n := toNat_ofNat_of_lt' (hlt.trans (by decide))
      rw [emitted] at htext
      split_ifs at htext with hwritten
      · rw [escaped, hnat, div_eq_of_lt hlt, mod_eq_of_lt hlt] at htext
        obtain rfl : hexDigit 0 = h := (cons.inj (cons.inj htext).2).1
        obtain rfl : n = 0 := some.inj (hn.symm.trans (hexDigit?_hexDigit (by decide)))
        cases a with
        | nil => cases hwritten.2
        | cons c rest =>
          obtain ⟨rfl, -⟩ := exists_of_isEscapedChar hwritten.2
          have hnone : sequenceValue 37 (37 :: rest) = none := by
            cases rest <;> rfl
          rw [selected_of_none hnone] at htext
          exact absurd (cons.inj (cons.inj (cons.inj htext).2).2).1 (by decide)
      · have hbyte : ofNat n = 37 := (cons.inj htext).1
        rw [hbyte] at hnat
        exact absurd (hnat.symm ▸ hlt) (by decide)
    · rw [selected_of_none (c := l) (by rw [sequenceValue, if_neg hl])] at htext
      have heq : emitted unescape v a = [37, h, l] := append_cancel_right htext
      rw [emitted] at heq
      split_ifs at heq
      · rw [escaped, cons.injEq, cons.injEq, cons.injEq] at heq
        rw [← heq.2.1, ← heq.2.2.1, hexPair_hexDigit] at hv
        cases hv
      · exact absurd (congrArg length heq) (by simp)

/-- Where the decoder is right at every place, the string is decoded as the rules say. -/
lemma selects_of_right (buff : Bytes)
    (hright : ∀ t, Reaches buff t → ∀ garbage, unescapedText garbage unescape t = selected unescape t) :
    Selects unescape buff := by
  induction hn : buff.length using Nat.strong_induction_on generalizing buff with
  | _ n ih =>
    cases buff with
    | nil => exact .nil
    | cons c a =>
      have hwhole := hright _ (.refl _)
      have hlater (garbage : Bytes → UInt8) : Selects unescape (getChar garbage c a).2 :=
        ih _ (hn ▸ length_getChar_lt garbage c a) _ (fun t ht => hright t (.step garbage ht)) rfl
      have hrest (garbage : Bytes → UInt8) : emitted unescape (getChar garbage c a).1 (getChar garbage c a).2 ++
          selected unescape (getChar garbage c a).2 = selected unescape (c :: a) := by
        rw [← hwhole garbage, unescapedText, (hlater garbage).unescapedText_eq]
      cases hc : isEscapedChar (c :: a) with
      | false =>
        have hget := @getChar_of_not_escaped (fun _ => 0) _ _ hc
        have htext := hrest fun _ => 0
        rw [hget, selected_of_none (sequenceValue_of_not_escaped hc), ← singleton_append] at htext
        have heq : emitted unescape c a = [c] := append_cancel_right htext
        have ha := hlater fun _ => 0
        rw [hget] at ha
        refine .char hc (fun hzero => ?_) ha
        by_contra hescaped
        rw [emitted, if_pos ⟨hzero, by simpa using hescaped⟩] at heq
        exact absurd (congrArg length heq) (by rw [length_escaped, length_singleton]; decide)
      | true =>
        obtain ⟨rfl, h, l, rest, rfl⟩ := exists_of_isEscapedChar hc
        cases hv : hexPair h l with
        | none =>
          refine absurd (fun garbage => ?_) (@not_right_of_malformed unescape _ _ rest hv)
          have htext := hrest garbage
          rw [getChar_percent] at htext ⊢
          exact htext
        | some v =>
          have hget := getChar_of_hexPair (fun _ => 0) hv rest
          have htext := hrest fun _ => 0
          rw [hget, selected_of_hexPair hv] at htext
          have heq := append_cancel_right htext
          have ha := hlater fun _ => 0
          rw [hget] at ha
          refine .sequence hv (fun hzero => ?_) ha
          rw [if_pos hzero, emitted] at heq
          split_ifs at heq with hwritten
          · exact ⟨hwritten.2, heq⟩
          · exact absurd (congrArg length heq) (by simp)

end selection

/-- A string comes back from its escaped form, and the decoder of the characters in the rules is right from every place
that it reaches: exactly for the strings whose length an `int` can count and that are decoded as the rules say. -/
theorem round_trip_and_selection_iff (rules : Rules) (buff : Bytes) :
    ((rules 37 ≠ 1 → ∃ text, escape rules buff = some text ∧ ∀ garbage, unescapedString garbage text = some buff) ∧
        ∀ t, Reaches buff t → ∀ garbage, unescapedStringOnlyCharsInRules garbage rules t = some (selected rules t)) ↔
      (rules 37 ≠ 1 → buff.length ≤ INT_MAX) ∧ Selects rules buff := by
  refine and_congr (forall_congr' fun hpercent => round_trip_iff hpercent buff) ?_
  simp only [unescapedStringOnlyCharsInRules_eq, some.injEq]
  exact ⟨selects_of_right buff, fun hs t ht garbage => (hs.of_reaches ht).unescapedText_eq garbage⟩

/-- `-` is decoded although it is not in the rules. -/
theorem not_selected_dash : ¬ ∀ (rules : Rules) (buff : Bytes) (garbage : Bytes → UInt8),
    unescapedStringOnlyCharsInRules garbage rules buff = some (selected rules buff) := by
  intro h
  have hdash := h (fun _ => 0) [37, 50, 100] fun _ => 0
  have hpair : hexPair 50 100 = some 45 := by decide
  rw [unescapedStringOnlyCharsInRules_eq, unescapedText, getChar_of_hexPair _ hpair, emitted, selected_of_hexPair hpair]
    at hdash
  exact absurd (congrArg length (some.inj hdash)) (by simp [unescapedText, selected, isEscapedChar])

end Bctoolbox
