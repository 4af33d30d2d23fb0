import LinphoneSdk.Baudot.Contexts
import LinphoneSdk.Lib.Runs

/-!
# Transcoding

What a fresh decoding context makes of the codes of a text. The decoder stays in the mode of the encoder, so the text is
read back in capitals, whatever its length. The line breaks and the mode codes that the encoder inserts come from two
counters that are compared to 72 by equality.
-/

namespace Baudot

open Runs BaudotEncodingContext BaudotDecodingContext

/-! ### What is claimed of a text -/

def toupper (c : UInt8) : UInt8 := if 0x61 ≤ c ∧ c ≤ 0x7A then c - 0x20 else c

def representable (standard : MSBaudotStandard) (c : UInt8) : Bool := charToBaudot standard c ≠ NO_MAPPING

/-- The second text is the first one with carriage returns inserted. -/
inductive WithBreaks : Bytes → Bytes → Prop
  | nil : WithBreaks [] []
  | keep {xs ys : Bytes} (c : UInt8) (h : WithBreaks xs ys) : WithBreaks (xs ++ [c]) (ys ++ [c])
  | insert {xs ys : Bytes} (h : WithBreaks xs ys) : WithBreaks xs (ys ++ [0x0D])

def BAUDOT_LF_CODE : UInt8 := 0b11000100

def isModeCode (code : UInt8) : Bool :=
  code == BAUDOT_LETTERS_CODE || code == BAUDOT_FIGURES_CODE || code == BAUDOT_CARRIER_CODE

def isLineBreak (code : UInt8) : Bool := code == BAUDOT_CR_CODE || code == BAUDOT_LF_CODE

def isPrinted (code : UInt8) : Bool := !isModeCode code && !isLineBreak code

def encoded (standard : MSBaudotStandard) (text : List (Bool × UInt8)) : Bytes :=
  (encodeString { mStandard := standard } text).mEncodedCharacters

/-- The text is read back, a line break is sent every 72 printed characters and a mode code every 72 characters. -/
structure Transcodes (standard : MSBaudotStandard) (text : List (Bool × UInt8)) : Prop where
  decoded : WithBreaks (((text.map Prod.snd).filter (representable standard)).map toupper)
    (feedAll { mStandard := standard } (encoded standard text)).mDecodedCharacters
  lineBreaks : Within isLineBreak isPrinted 72 (encoded standard text)
  modes : Within isModeCode (!isModeCode ·) 72 (encoded standard text)

/-! ### The tables -/

/-- What the tables say of a character that is sent in a mode. -/
def Tabulated (standard : MSBaudotStandard) (mode : BaudotMode) (c : UInt8) : Prop :=
  let code := charToBaudot standard c
  (code ≠ NO_MAPPING → switches mode code = false →
    feed ⟨mode, standard, []⟩ (characterCode code) = ⟨mode, standard, [toupper c]⟩) ∧
  (code ≠ NO_MAPPING → isModeCode (characterCode code) = false) ∧
  (code ≠ NO_MAPPING → isLineBreak (characterCode code) = isCrLf c)

instance (standard : MSBaudotStandard) (mode : BaudotMode) (c : UInt8) : Decidable (Tabulated standard mode c) :=
  inferInstanceAs (Decidable (_ ∧ _ ∧ _))

variable (standard : MSBaudotStandard)

lemma tabulated (mode : BaudotMode) (c : UInt8) : Tabulated standard mode c := by
  have hall : ∀ n < 256, Tabulated standard mode (.ofNat n) := by
    cases standard <;> cases mode <;> decide +kernel
  simpa using hall c.toNat c.toNat_lt

/-- The test for a line break, made on the code, never succeeds. -/
lemma isCrLf_characterCode (code : UInt8) : isCrLf (characterCode code) = false := by
  have hall : ∀ n < 256, isCrLf (characterCode (.ofNat n)) = false := by decide +kernel
  simpa using hall code.toNat code.toNat_lt

/-! ### The decoder keeps in step -/

/-- A fresh decoding context, fed with the codes so far. -/
def decoder (ctx : BaudotEncodingContext) : BaudotDecodingContext :=
  feedAll { mStandard := ctx.mStandard } ctx.mEncodedCharacters

structure InStep (ctx : BaudotEncodingContext) (text : Bytes) : Prop where
  mode : (decoder ctx).mMode = ctx.mMode
  standard : (decoder ctx).mStandard = ctx.mStandard
  decoded : WithBreaks text (decoder ctx).mDecodedCharacters

section

variable {ctx : BaudotEncodingContext} {text : Bytes}

lemma decoder_push (code : UInt8) : decoder (ctx.push code) = (decoder ctx).feed code := by
  simp [decoder, push, feedAll]

variable (d : BaudotDecodingContext)

lemma feed_modeCode (mode : BaudotMode) :
    d.feed (modeCode mode) = { d with mMode := mode } := by
  obtain ⟨m, standard, decoded⟩ := d
  cases m <;> cases standard <;> cases mode <;> rfl

lemma feed_carrier : d.feed BAUDOT_CARRIER_CODE = { d with mMode := .letters } := by
  obtain ⟨m, standard, decoded⟩ := d
  cases m <;> cases standard <;> rfl

lemma feed_cr : d.feed BAUDOT_CR_CODE = { d with mDecodedCharacters := d.mDecodedCharacters ++ [0x0D] } := by
  obtain ⟨m, standard, decoded⟩ := d
  cases m <;> cases standard <;> rfl

/-- Feeding depends on the characters decoded so far only to append to them. -/
lemma feed_eq (code : UInt8) :
    d.feed code = { (feed ⟨d.mMode, d.mStandard, []⟩ code) with
        mDecodedCharacters := d.mDecodedCharacters ++
          (feed ⟨d.mMode, d.mStandard, []⟩ code).mDecodedCharacters } := by
  have hdecode (n : UInt8) : decode ⟨d.mMode, d.mStandard, []⟩ n = d.decode n := rfl
  simp only [feed, hdecode]
  split_ifs <;> simp

lemma InStep.sendLettersTone (h : InStep ctx text) (timedOut : Bool) : InStep (ctx.sendLettersTone timedOut) text := by
  rw [BaudotEncodingContext.sendLettersTone]
  split_ifs
  · have hdecoder : decoder { ((ctx.push BAUDOT_CARRIER_CODE).push BAUDOT_LETTERS_CODE).setMode .letters with
        mInitialLettersToneSent := true } = { decoder ctx with mMode := .letters } := by
      change decoder ((ctx.push BAUDOT_CARRIER_CODE).push (modeCode .letters)) = _
      rw [decoder_push, decoder_push, feed_carrier, feed_modeCode]
    constructor
    · rw [hdecoder]
      rfl
    · rw [hdecoder]
      exact h.standard
    · rw [hdecoder]
      exact h.decoded
  · exact h

lemma InStep.sendMode (h : InStep ctx text) (code : UInt8) : InStep (ctx.sendMode code) text := by
  have hpush (mode : BaudotMode) : decoder (ctx.push (modeCode mode)) = { decoder ctx with mMode := mode } := by
    rw [decoder_push, feed_modeCode]
  rw [BaudotEncodingContext.sendMode]
  split_ifs
  · constructor
    · exact congrArg BaudotDecodingContext.mMode (hpush _)
    · exact (congrArg BaudotDecodingContext.mStandard (hpush _)).trans h.standard
    · exact (congrArg BaudotDecodingContext.mDecodedCharacters (hpush (otherMode ctx.mMode))).symm ▸ h.decoded
  · constructor
    · exact congrArg BaudotDecodingContext.mMode (hpush _)
    · exact (congrArg BaudotDecodingContext.mStandard (hpush _)).trans h.standard
    · exact (congrArg BaudotDecodingContext.mDecodedCharacters (hpush ctx.mMode)).symm ▸ h.decoded
  · exact h

lemma InStep.addCr (h : InStep ctx text) (c : UInt8) : InStep (ctx.addCr c) text := by
  have hpush : decoder (ctx.push BAUDOT_CR_CODE) =
      { decoder ctx with mDecodedCharacters := (decoder ctx).mDecodedCharacters ++ [0x0D] } := by
    rw [decoder_push, feed_cr]
  rw [BaudotEncodingContext.addCr]
  split_ifs
  · constructor
    · exact (congrArg BaudotDecodingContext.mMode hpush).trans h.mode
    · exact (congrArg BaudotDecodingContext.mStandard hpush).trans h.standard
    · exact (congrArg BaudotDecodingContext.mDecodedCharacters hpush).symm ▸ .insert h.decoded
  · exact h

lemma InStep.addCharacter (h : InStep ctx text) {c : UInt8} (hc : charToBaudot ctx.mStandard c ≠ NO_MAPPING)
    (hmode : switches ctx.mMode (charToBaudot ctx.mStandard c) = false) :
    InStep (ctx.addCharacter (charToBaudot ctx.mStandard c)) (text ++ [toupper c]) := by
  have hfeed := (tabulated ctx.mStandard ctx.mMode c).1 hc hmode
  have hpush : decoder (ctx.push (characterCode (charToBaudot ctx.mStandard c))) =
      { decoder ctx with mDecodedCharacters := (decoder ctx).mDecodedCharacters ++ [toupper c] } := by
    rw [decoder_push, feed_eq, h.mode, h.standard, hfeed, ← h.mode, ← h.standard]
  constructor
  · exact (congrArg BaudotDecodingContext.mMode hpush).trans h.mode
  · exact (congrArg BaudotDecodingContext.mStandard hpush).trans h.standard
  · exact (congrArg BaudotDecodingContext.mDecodedCharacters hpush).symm ▸ .keep _ h.decoded

/-- A character that can be represented is read back in capitals, after the line break that may come before it. -/
lemma InStep.encodeChar (h : InStep ctx text) (timedOut : Bool) (c : UInt8) :
    InStep (ctx.encodeChar timedOut c) (text ++ if representable ctx.mStandard c then [toupper c] else []) := by
  simp only [BaudotEncodingContext.encodeChar, representable]
  by_cases hc : charToBaudot ctx.mStandard c = NO_MAPPING
  · simpa [hc] using h
  · have hstep := ((h.sendLettersTone timedOut).sendMode (charToBaudot ctx.mStandard c)).addCr c
    have hsent := hstep.addCharacter (c := c) (by simpa using hc) (by simp [switches_sendMode])
    simpa [hc] using hsent

end

lemma inStep_start : InStep { mStandard := standard } [] := ⟨rfl, rfl, .nil⟩

/-- The text is read back, whatever its length and the pauses. -/
theorem inStep_encodeString {ctx : BaudotEncodingContext} {read : Bytes} (h : InStep ctx read)
    (text : List (Bool × UInt8)) : InStep (ctx.encodeString text)
      (read ++ ((text.map Prod.snd).filter (representable ctx.mStandard)).map toupper) := by
  induction text generalizing ctx read with
  | nil => simpa [encodeString] using h
  | cons c text ih =>
    have hnext := ih (h.encodeChar c.1 c.2)
    rw [mStandard_encodeChar] at hnext
    rw [encodeString, List.foldl_cons, ← encodeString]
    by_cases hc : representable ctx.mStandard c.2
    · simpa [hc] using hnext
    · simpa [hc] using hnext

/-! ### The counters -/

/-- The counters are within their bounds, and count at least what was sent since the last code that resets them. -/
structure Counted (ctx : BaudotEncodingContext) : Prop where
  withoutMode : since isModeCode (!isModeCode ·) ctx.mEncodedCharacters = ctx.mNbCharactersWithoutMode.toNat
  withoutMode_le : ctx.mNbCharactersWithoutMode.toNat ≤ 72
  withoutCrLf : since isLineBreak isPrinted ctx.mEncodedCharacters ≤ ctx.mNbCharactersWithoutCrLf.toNat
  withoutCrLf_le : ctx.mNbCharactersWithoutCrLf.toNat ≤ 72
  modes : Within isModeCode (!isModeCode ·) 72 ctx.mEncodedCharacters
  lineBreaks : Within isLineBreak isPrinted 72 ctx.mEncodedCharacters

section

variable {ctx : BaudotEncodingContext}

lemma isModeCode_modeCode (mode : BaudotMode) : isModeCode (modeCode mode) = true := by cases mode <;> rfl

lemma not_isLineBreak_of_isModeCode {code : UInt8} (h : isModeCode code = true) : isLineBreak code = false := by
  simp only [isModeCode, Bool.or_eq_true, beq_iff_eq] at h
  rcases h with (rfl | rfl) | rfl <;> rfl

lemma Counted.sent_mode (h : Counted ctx) {code : UInt8} (hcode : isModeCode code = true) :
    Counted { ctx.push code with mNbCharactersWithoutMode := 0 } := by
  have hmode : since isModeCode (!isModeCode ·) (ctx.mEncodedCharacters ++ [code]) = 0 := by simp [hcode]
  have hline : since isLineBreak isPrinted (ctx.mEncodedCharacters ++ [code]) =
      since isLineBreak isPrinted ctx.mEncodedCharacters := by
    simp [not_isLineBreak_of_isModeCode hcode, isPrinted, hcode]
  constructor
  · exact hmode
  · exact Nat.zero_le _
  · exact hline.trans_le h.withoutCrLf
  · exact h.withoutCrLf_le
  · exact h.modes.concat (hmode.trans_le (Nat.zero_le _))
  · exact h.lineBreaks.concat (hline.trans_le (h.withoutCrLf.trans h.withoutCrLf_le))

lemma Counted.of_eq {ctx' : BaudotEncodingContext} (h : Counted ctx)
    (hcodes : ctx'.mEncodedCharacters = ctx.mEncodedCharacters)
    (hmode : ctx'.mNbCharactersWithoutMode = ctx.mNbCharactersWithoutMode)
    (hline : ctx'.mNbCharactersWithoutCrLf = ctx.mNbCharactersWithoutCrLf) : Counted ctx' := by
  obtain ⟨h1, h2, h3, h4, h5, h6⟩ := h
  rw [← hcodes, ← hmode] at h1
  rw [← hmode] at h2
  rw [← hcodes, ← hline] at h3
  rw [← hline] at h4
  rw [← hcodes] at h5 h6
  exact ⟨h1, h2, h3, h4, h5, h6⟩

lemma Counted.sendLettersTone (h : Counted ctx) (timedOut : Bool) : Counted (ctx.sendLettersTone timedOut) := by
  rw [BaudotEncodingContext.sendLettersTone]
  split_ifs
  · have hcarrier : isModeCode BAUDOT_CARRIER_CODE = true := rfl
    have hletters : isModeCode BAUDOT_LETTERS_CODE = true := rfl
    exact ((h.sent_mode hcarrier).sent_mode hletters).of_eq rfl rfl rfl
  · exact h

/-- A mode code is sent after 72 characters at the latest. -/
lemma Counted.sendMode (h : Counted ctx) (code : UInt8) :
    Counted (ctx.sendMode code) ∧ (ctx.sendMode code).mNbCharactersWithoutMode.toNat < 72 := by
  rw [BaudotEncodingContext.sendMode]
  split_ifs with hswitch hcount
  · exact ⟨(h.sent_mode (isModeCode_modeCode _)).of_eq rfl rfl rfl, by simp [setMode]⟩
  · exact ⟨h.sent_mode (isModeCode_modeCode _), by simp⟩
  · refine ⟨h, lt_of_le_of_ne h.withoutMode_le fun heq => hcount ?_⟩
    exact UInt8.toNat_inj.mp heq

lemma Counted.sent (h : Counted ctx) {code withoutCrLf : UInt8} (hcode : isModeCode code = false)
    (hmode : ctx.mNbCharactersWithoutMode.toNat < 72)
    (hline : since isLineBreak isPrinted (ctx.mEncodedCharacters ++ [code]) ≤ withoutCrLf.toNat)
    (hle : withoutCrLf.toNat ≤ 72) :
    Counted { ctx.push code with
      mNbCharactersWithoutMode := ctx.mNbCharactersWithoutMode + 1
      mNbCharactersWithoutCrLf := withoutCrLf } := by
  have hsucc : (ctx.mNbCharactersWithoutMode + 1).toNat = ctx.mNbCharactersWithoutMode.toNat + 1 := by
    rw [UInt8.toNat_add]
    exact Nat.mod_eq_of_lt (by simp; omega)
  have hsince : since isModeCode (!isModeCode ·) (ctx.mEncodedCharacters ++ [code]) =
      (ctx.mNbCharactersWithoutMode + 1).toNat := by
    simp [hcode, h.withoutMode, hsucc]
  have hbound : (ctx.mNbCharactersWithoutMode + 1).toNat ≤ 72 := by
    rw [hsucc]
    exact hmode
  constructor
  · exact hsince
  · exact hbound
  · exact hline
  · exact hle
  · exact h.modes.concat (hsince.trans_le hbound)
  · exact h.lineBreaks.concat (hline.trans hle)

/-- The counter of characters is not at 71 when a line break is inserted. -/
lemma Counted.addCr (h : Counted ctx) (hmode : ctx.mNbCharactersWithoutMode.toNat < 72) {c : UInt8}
    (hbreak : ctx.breaks c = true → ctx.mNbCharactersWithoutMode.toNat ≠ 71)
    (hcrLf : isCrLf c = true → ctx.mNbCharactersWithoutCrLf.toNat ≠ 72) :
    Counted (ctx.addCr c) ∧ (ctx.addCr c).mNbCharactersWithoutMode.toNat < 72 ∧
      (ctx.addCr c).mNbCharactersWithoutCrLf.toNat < 72 := by
  rw [BaudotEncodingContext.addCr]
  split_ifs with hb
  · refine ⟨h.sent rfl hmode ?_ (Nat.zero_le _), ?_, by simp⟩
    · have hcr : isLineBreak BAUDOT_CR_CODE = true := rfl
      simp [hcr]
    · have hne := hbreak hb
      rw [UInt8.toNat_add]
      simp
      omega
  · refine ⟨h, hmode, lt_of_le_of_ne h.withoutCrLf_le fun heq => ?_⟩
    have heq' : ctx.mNbCharactersWithoutCrLf = 72 := UInt8.toNat_inj.mp heq
    cases hc : isCrLf c with
    | true => exact hcrLf hc heq
    | false =>
      apply hb
      simp [breaks, hc, heq', CRLF_MAX_RETRANSMISSION_FREQUENCY]

lemma Counted.addCharacter (h : Counted ctx) (hmode : ctx.mNbCharactersWithoutMode.toNat < 72)
    (hline : ctx.mNbCharactersWithoutCrLf.toNat < 72) {c : UInt8} (hc : charToBaudot ctx.mStandard c ≠ NO_MAPPING) :
    Counted (ctx.addCharacter (charToBaudot ctx.mStandard c)) := by
  have hcode := (tabulated ctx.mStandard ctx.mMode c).2.1 hc
  have hsucc : (ctx.mNbCharactersWithoutCrLf + 1).toNat = ctx.mNbCharactersWithoutCrLf.toNat + 1 := by
    rw [UInt8.toNat_add]
    exact Nat.mod_eq_of_lt (by simp; omega)
  simp only [BaudotEncodingContext.addCharacter, isCrLf_characterCode]
  apply h.sent hcode hmode
  · have hcount := h.withoutCrLf
    simp only [since_concat, Bool.false_eq_true, if_false, hsucc]
    split_ifs <;> omega
  · simp only [Bool.false_eq_true, if_false, hsucc]
    exact hline

end

/-! ### Runs -/

/-- The step does not let a counter go past 72: no character that is a line break is sent when 72 characters are counted
since the last inserted line break, and no line break is inserted when 71 are counted since the last mode code, unless
a mode code is sent before it. -/
def SoundStep (ctx : BaudotEncodingContext) (timedOut : Bool) (c : UInt8) : Prop :=
  representable ctx.mStandard c = true → (isCrLf c = true → ctx.mNbCharactersWithoutCrLf ≠ 72) ∧
    (ctx.breaks c = true → ctx.mNbCharactersWithoutMode = 71 →
      ctx.starts timedOut = true ∨ switches ctx.mMode (charToBaudot ctx.mStandard c) = true)

instance (ctx : BaudotEncodingContext) (timedOut : Bool) (c : UInt8) : Decidable (SoundStep ctx timedOut c) :=
  inferInstanceAs (Decidable (_ → _ ∧ _))

lemma breaks_eq {ctx ctx' : BaudotEncodingContext} (h : ctx'.mNbCharactersWithoutCrLf = ctx.mNbCharactersWithoutCrLf)
    (c : UInt8) : ctx'.breaks c = ctx.breaks c := by simp only [breaks, h]

section

variable {ctx : BaudotEncodingContext} {timedOut : Bool} {c : UInt8}

/-- 71 characters are still counted once the mode codes are sent: none was. -/
lemma eq_71_of_sendMode {code : UInt8}
    (h : ((ctx.sendLettersTone timedOut).sendMode code).mNbCharactersWithoutMode = 71) :
    ctx.starts timedOut = false ∧ switches ctx.mMode code = false ∧ ctx.mNbCharactersWithoutMode = 71 := by
  have hzero : (0 : UInt8) ≠ 71 := by decide
  rw [BaudotEncodingContext.sendMode, sendLettersTone] at h
  cases hstarts : ctx.starts timedOut with
  | true =>
    simp only [hstarts, if_true] at h
    split_ifs at h <;> exact absurd h hzero
  | false =>
    simp only [hstarts, Bool.false_eq_true, if_false] at h
    split_ifs at h with hswitch
    · exact absurd h hzero
    · exact absurd h hzero
    · exact ⟨rfl, by simpa using hswitch, h⟩

lemma Counted.encodeChar (h : Counted ctx) (hstep : SoundStep ctx timedOut c) :
    Counted (ctx.encodeChar timedOut c) := by
  simp only [BaudotEncodingContext.encodeChar]
  split_ifs with hc
  · exact h
  · obtain ⟨hcrLf, hbreak⟩ := hstep (by simpa [representable] using hc)
    obtain ⟨hcounted, hmode⟩ := (h.sendLettersTone timedOut).sendMode (charToBaudot ctx.mStandard c)
    have hline := withoutCrLf_sendMode ctx timedOut (charToBaudot ctx.mStandard c)
    have hadd := hcounted.addCr hmode (c := c) ?_ ?_
    · obtain ⟨hcounted, hmode, hline⟩ := hadd
      simpa using hcounted.addCharacter hmode hline (c := c) (by simpa using hc)
    · intro hb h71
      obtain ⟨hstarts, hswitch, heq⟩ := eq_71_of_sendMode (UInt8.toNat_inj.mp h71)
      rw [breaks_eq hline] at hb
      rcases hbreak hb heq with hs | hs
      · simp [hs] at hstarts
      · simp [hs] at hswitch
    · intro hcr h72
      rw [hline] at h72
      exact hcrLf hcr (UInt8.toNat_inj.mp h72)

end

def SoundRun : BaudotEncodingContext → List (Bool × UInt8) → Prop
  | _, [] => True
  | ctx, c :: text => SoundStep ctx c.1 c.2 ∧ SoundRun (ctx.encodeChar c.1 c.2) text

lemma counted_start : Counted { mStandard := standard } where
  withoutMode := rfl
  withoutMode_le := Nat.zero_le _
  withoutCrLf := Nat.zero_le _
  withoutCrLf_le := Nat.zero_le _
  modes := within_nil
  lineBreaks := within_nil

lemma Counted.encodeString {ctx : BaudotEncodingContext} (h : Counted ctx) {text : List (Bool × UInt8)}
    (hrun : SoundRun ctx text) : Counted (ctx.encodeString text) := by
  induction text generalizing ctx with
  | nil => exact h
  | cons c text ih => exact ih (h.encodeChar hrun.1) hrun.2

/-- The text of a run whose steps are sound is transcoded, with its line breaks and its mode codes in time. -/
theorem transcodes_of_soundRun {standard : MSBaudotStandard} {text : List (Bool × UInt8)}
    (h : SoundRun { mStandard := standard } text) : Transcodes standard text := by
  have hread := inStep_encodeString (inStep_start standard) text
  have hcounted := (counted_start standard).encodeString h
  constructor
  · have hstandard := mStandard_encodeString { mStandard := standard } text
    simpa [decoder, encoded, hstandard] using hread.decoded
  · exact hcounted.lineBreaks
  · exact hcounted.modes

instance decidableSoundRun : (ctx : BaudotEncodingContext) → (text : List (Bool × UInt8)) → Decidable (SoundRun ctx text)
  | _, [] => isTrue trivial
  | ctx, c :: text => @instDecidableAnd _ _ inferInstance (decidableSoundRun (ctx.encodeChar c.1 c.2) text)

/-- "Lot 4", and a word so long that a line break is inserted. -/
def longLot : List (Bool × UInt8) :=
  [(false, 0x4C), (false, 0x6F), (false, 0x74), (true, 0x20), (false, 0x34)] ++ List.replicate 80 (false, 0x61)

theorem transcodes_of_soundRun_longLot : Transcodes .us longLot := transcodes_of_soundRun (by decide +kernel)

/-- A line feed after 72 letters. -/
def longLine : List (Bool × UInt8) :=
  List.replicate 72 (false, 0x41) ++ (false, 0x0A) :: List.replicate 73 (false, 0x41)

/-- What is sent after the line feed: the mode code is sent again, a line break is not. -/
def longLineTail : Bytes :=
  List.replicate 71 0b11000110 ++ BAUDOT_LETTERS_CODE :: List.replicate 2 0b11000110

theorem not_transcodes_longLine : ¬ Transcodes .us longLine := by
  intro h
  have hencoded : (encoded .us longLine).drop 76 = longLineTail := by decide +kernel
  have hinfix : longLineTail <:+: encoded .us longLine := hencoded ▸ (List.drop_suffix 76 _).isInfix
  have hle := h.lineBreaks longLineTail hinfix (by decide +kernel)
  exact absurd hle (by decide)

end Baudot
