import LinphoneSdk.Lib.Bytes
import Mathlib.Data.UInt
import Mathlib.Tactic.Common

/-!
# Baudot contexts

The encoding context turns the characters of a text into five-bit codes between marks and spaces, and shifts between
letters and figures. The decoding context follows the shifts.
-/

namespace Baudot

open List

inductive MSBaudotStandard where
  | us
  | europe
  deriving DecidableEq, Repr

inductive BaudotMode where
  | letters
  | figures
  deriving DecidableEq, Repr

/-! ### Tables of the encoder -/

def MODE_RETRANSMISSION_FREQUENCY : UInt8 := 72
def CRLF_MIN_RETRANSMISSION_FREQUENCY : UInt8 := 60
def CRLF_MAX_RETRANSMISSION_FREQUENCY : UInt8 := 72

def NO_MAPPING : UInt8 := 0xFF
def LETTER_MASK : UInt8 := 0b1000000
def FIGURE_MASK : UInt8 := 0b0100000
def CHARACTER_MASK : UInt8 := 0b00011111

def letter (n : UInt8) : UInt8 := LETTER_MASK ||| n
def figure (n : UInt8) : UInt8 := FIGURE_MASK ||| n
def both (n : UInt8) : UInt8 := LETTER_MASK ||| FIGURE_MASK ||| n

/-- The entries from 'A' to 'Z', and from 'a' to 'z', of both tables. -/
def alphabet : Bytes :=
  [0b00011, 0b11001, 0b01110, 0b01001, 0b00001, 0b01101, 0b11010, 0b10100, 0b00110, 0b01011, 0b01111, 0b10010, 0b11100,
    0b01100, 0b11000, 0b10110, 0b10111, 0b01010, 0b00101, 0b10000, 0b00111, 0b11110, 0b10011, 0b11101, 0b10101,
    0b10001].map letter

/-- The entries from '0' to ':' of both tables. -/
def digits : Bytes :=
  [0b10110, 0b10111, 0b10011, 0b00001, 0b01010, 0b10000, 0b10101, 0b00111, 0b00110, 0b11000, 0b01110].map figure

def US_CHAR_TO_BAUDOT_TABLE : Bytes :=
  replicate 7 NO_MAPPING ++
  [figure 0b00101 /- '\a' -/, both 0b00000 /- '\b' -/, NO_MAPPING, both 0b00010 /- '\n' -/, NO_MAPPING, NO_MAPPING,
    both 0b01000 /- '\r' -/] ++
  replicate 18 NO_MAPPING ++
  [both 0b00100 /- ' ' -/, figure 0b01101 /- '!' -/, figure 0b10001 /- '"' -/, NO_MAPPING, figure 0b01001 /- '$' -/,
    NO_MAPPING, NO_MAPPING, figure 0b01011 /- '\'' -/, figure 0b01111 /- '(' -/, figure 0b10010 /- ')' -/, NO_MAPPING,
    figure 0b11010 /- '+' -/, figure 0b01100 /- ',' -/, figure 0b00011 /- '-' -/, figure 0b11100 /- '.' -/,
    figure 0b11101 /- '/' -/] ++
  digits ++
  [figure 0b11110 /- ';' -/, NO_MAPPING, figure 0b10100 /- '=' -/, NO_MAPPING, figure 0b11001 /- '?' -/, NO_MAPPING] ++
  alphabet ++ replicate 6 NO_MAPPING ++ alphabet ++ replicate 133 NO_MAPPING

def EUROPE_CHAR_TO_BAUDOT_TABLE : Bytes :=
  replicate 5 NO_MAPPING ++
  [figure 0b01001 /- WRU -/, NO_MAPPING, figure 0b01011 /- '\a' -/, both 0b00000 /- '\b' -/, NO_MAPPING,
    both 0b00010 /- '\n' -/, NO_MAPPING, NO_MAPPING, both 0b01000 /- '\r' -/] ++
  replicate 18 NO_MAPPING ++
  [both 0b00100 /- ' ' -/, figure 0b01101 /- '!' -/, NO_MAPPING, NO_MAPPING, NO_MAPPING, NO_MAPPING,
    figure 0b11010 /- '&' -/, figure 0b00101 /- '\'' -/, figure 0b01111 /- '(' -/, figure 0b10010 /- ')' -/, NO_MAPPING,
    figure 0b10001 /- '+' -/, figure 0b01100 /- ',' -/, figure 0b00011 /- '-' -/, figure 0b11100 /- '.' -/,
    figure 0b11101 /- '/' -/] ++
  digits ++
  [NO_MAPPING, NO_MAPPING, figure 0b11110 /- '=' -/, NO_MAPPING, figure 0b11001 /- '?' -/, NO_MAPPING] ++
  alphabet ++ replicate 6 NO_MAPPING ++ alphabet ++ replicate 33 NO_MAPPING ++
  [figure 0b10100 /- pound sign -/] ++ replicate 99 NO_MAPPING

/-- The entry of a character. -/
def charToBaudot (standard : MSBaudotStandard) (c : UInt8) : UInt8 :=
  match standard with
  | .us => US_CHAR_TO_BAUDOT_TABLE.getD c.toNat NO_MAPPING
  | .europe => EUROPE_CHAR_TO_BAUDOT_TABLE.getD c.toNat NO_MAPPING

def BAUDOT_LETTERS_CODE : UInt8 := 0b11111110
def BAUDOT_FIGURES_CODE : UInt8 := 0b11110110
def BAUDOT_CARRIER_CODE : UInt8 := 0b11111111
def BAUDOT_CR_CODE : UInt8 := 0b11010000

def isCrLf (c : UInt8) : Bool := c == 0x0D || c == 0x0A

def isSpace (c : UInt8) : Bool := c == 0x20

/-! ### Encoding -/

structure BaudotEncodingContext where
  mMode : BaudotMode := .letters
  mStandard : MSBaudotStandard := .us
  mEncodedCharacters : Bytes := []
  mNbCharactersWithoutMode : UInt8 := 0
  mNbCharactersWithoutCrLf : UInt8 := 0
  mInitialLettersToneSent : Bool := false
  deriving DecidableEq, Repr

namespace BaudotEncodingContext

variable (ctx : BaudotEncodingContext)

def push (code : UInt8) : BaudotEncodingContext :=
  { ctx with mEncodedCharacters := ctx.mEncodedCharacters ++ [code] }

def setMode (mode : BaudotMode) : BaudotEncodingContext :=
  { ctx with mMode := mode, mNbCharactersWithoutMode := 0 }

/-- Are the carrier and the letters tone sent before the character? `timedOut` is the answer of
`hasSignificantPauseTimedOut`, which reads the clock. -/
def starts (timedOut : Bool) : Bool := !ctx.mInitialLettersToneSent || timedOut

def sendLettersTone (timedOut : Bool) : BaudotEncodingContext :=
  if ctx.starts timedOut then
    { ((ctx.push BAUDOT_CARRIER_CODE).push BAUDOT_LETTERS_CODE).setMode .letters with mInitialLettersToneSent := true }
  else ctx

/-- Is the character of the other mode? -/
def switches (mode : BaudotMode) (code : UInt8) : Bool :=
  match mode with
  | .letters => code &&& LETTER_MASK == 0 && code &&& FIGURE_MASK != 0
  | .figures => code &&& FIGURE_MASK == 0 && code &&& LETTER_MASK != 0

def modeCode : BaudotMode → UInt8
  | .letters => BAUDOT_LETTERS_CODE
  | .figures => BAUDOT_FIGURES_CODE

def otherMode : BaudotMode → BaudotMode
  | .letters => .figures
  | .figures => .letters

/-- Handle switching of modes. -/
def sendMode (code : UInt8) : BaudotEncodingContext :=
  if switches ctx.mMode code then (ctx.push (modeCode (otherMode ctx.mMode))).setMode (otherMode ctx.mMode)
  else if ctx.mNbCharactersWithoutMode = MODE_RETRANSMISSION_FREQUENCY then
    { ctx.push (modeCode ctx.mMode) with mNbCharactersWithoutMode := 0 }
  else ctx

variable (ctx : BaudotEncodingContext)

@[simp] lemma mStandard_sendLettersTone (timedOut : Bool) :
    (ctx.sendLettersTone timedOut).mStandard = ctx.mStandard := by
  rw [sendLettersTone]
  split_ifs <;> rfl

@[simp] lemma mStandard_sendMode (code : UInt8) : (ctx.sendMode code).mStandard = ctx.mStandard := by
  rw [sendMode]
  split_ifs <;> rfl

@[simp] lemma withoutCrLf_sendMode (timedOut : Bool) (code : UInt8) :
    ((ctx.sendLettersTone timedOut).sendMode code).mNbCharactersWithoutCrLf = ctx.mNbCharactersWithoutCrLf := by
  rw [sendMode, sendLettersTone]
  split_ifs <;> rfl

/-- Once the mode code is sent, the character is of the mode. -/
lemma switches_sendMode (code : UInt8) : switches (ctx.sendMode code).mMode code = false := by
  rw [sendMode]
  split_ifs with h
  · cases hmode : ctx.mMode <;> simp_all [switches, setMode, push, otherMode]
  · simpa [push] using h
  · simpa using h

/-- Is a carriage return inserted before the character? -/
def breaks (c : UInt8) : Bool :=
  !isCrLf c && (ctx.mNbCharactersWithoutCrLf ≥ CRLF_MIN_RETRANSMISSION_FREQUENCY && isSpace c ||
    ctx.mNbCharactersWithoutCrLf == CRLF_MAX_RETRANSMISSION_FREQUENCY)

def addCr (c : UInt8) : BaudotEncodingContext :=
  if ctx.breaks c then
    { ctx.push BAUDOT_CR_CODE with
      mNbCharactersWithoutMode := ctx.mNbCharactersWithoutMode + 1
      mNbCharactersWithoutCrLf := 0 }
  else ctx

@[simp] lemma mStandard_addCr (c : UInt8) : (ctx.addCr c).mStandard = ctx.mStandard := by
  rw [addCr]
  split_ifs <;> rfl

@[simp] lemma mMode_addCr (c : UInt8) : (ctx.addCr c).mMode = ctx.mMode := by
  rw [addCr]
  split_ifs <;> rfl

def characterCode (code : UInt8) : UInt8 := (code &&& CHARACTER_MASK) <<< 1 ||| 0b11000000

/-- Add the character. The test for a line break is made on the code. -/
def addCharacter (code : UInt8) : BaudotEncodingContext :=
  let code := characterCode code
  { ctx.push code with
    mNbCharactersWithoutMode := ctx.mNbCharactersWithoutMode + 1
    mNbCharactersWithoutCrLf := if isCrLf code then 0 else ctx.mNbCharactersWithoutCrLf + 1 }

@[simp] lemma mStandard_addCharacter (code : UInt8) : (ctx.addCharacter code).mStandard = ctx.mStandard := rfl

def encodeChar (timedOut : Bool) (c : UInt8) : BaudotEncodingContext :=
  let code := charToBaudot ctx.mStandard c
  if code = NO_MAPPING then ctx
  else (((ctx.sendLettersTone timedOut).sendMode code).addCr c).addCharacter code

@[simp] lemma mStandard_encodeChar (timedOut : Bool) (c : UInt8) :
    (ctx.encodeChar timedOut c).mStandard = ctx.mStandard := by
  simp only [encodeChar]
  split_ifs <;> simp

/-- `encodeString`, the pauses before the characters given with them. -/
def encodeString (text : List (Bool × UInt8)) : BaudotEncodingContext :=
  text.foldl (fun ctx c => ctx.encodeChar c.1 c.2) ctx

@[simp] lemma mStandard_encodeString (text : List (Bool × UInt8)) :
    (ctx.encodeString text).mStandard = ctx.mStandard := by
  induction text generalizing ctx with
  | nil => rfl
  | cons c text ih => exact (ih _).trans (mStandard_encodeChar _ _ _)

end BaudotEncodingContext

/-! ### Decoding -/

def FIGURES_CHAR : UInt8 := 0x0E
def LETTERS_CHAR : UInt8 := 0x0F
def WRU_CHAR : UInt8 := 0x05

def LETTERS_CHARACTERS_TABLE : Bytes :=
  [0x08, 0x45, 0x0A, 0x41, 0x20, 0x53, 0x49, 0x55, 0x0D, 0x44, 0x52, 0x4A, 0x4E, 0x46, 0x43, 0x4B,
    0x54, 0x5A, 0x4C, 0x57, 0x48, 0x59, 0x50, 0x51, 0x4F, 0x42, 0x47, FIGURES_CHAR, 0x4D, 0x58, 0x56, LETTERS_CHAR]

def US_FIGURES_CHARACTERS_TABLE : Bytes :=
  [0x08, 0x33, 0x0A, 0x2D, 0x20, 0x07, 0x38, 0x37, 0x0D, 0x24, 0x34, 0x27, 0x2C, 0x21, 0x3A, 0x28,
    0x35, 0x22, 0x29, 0x32, 0x3D, 0x36, 0x30, 0x31, 0x39, 0x3F, 0x2B, FIGURES_CHAR, 0x2E, 0x2F, 0x3B, LETTERS_CHAR]

def EUROPE_FIGURES_CHARACTERS_TABLE : Bytes :=
  [0x08, 0x33, 0x0A, 0x2D, 0x20, 0x27, 0x38, 0x37, 0x0D, WRU_CHAR, 0x34, 0x07, 0x2C, 0x21, 0x3A, 0x28,
    0x35, 0x2B, 0x29, 0x32, 0x9C, 0x36, 0x30, 0x31, 0x39, 0x3F, 0x26, FIGURES_CHAR, 0x2E, 0x2F, 0x3D, LETTERS_CHAR]

structure BaudotDecodingContext where
  mMode : BaudotMode := .letters
  mStandard : MSBaudotStandard := .us
  mDecodedCharacters : Bytes := []
  deriving DecidableEq, Repr

namespace BaudotDecodingContext

def decode (ctx : BaudotDecodingContext) (encodedCharacter : UInt8) : UInt8 :=
  match ctx.mMode, ctx.mStandard with
  | .letters, _ => LETTERS_CHARACTERS_TABLE.getD encodedCharacter.toNat 0
  | .figures, .us => US_FIGURES_CHARACTERS_TABLE.getD encodedCharacter.toNat 0
  | .figures, .europe => EUROPE_FIGURES_CHARACTERS_TABLE.getD encodedCharacter.toNat 0

def feed (ctx : BaudotDecodingContext) (encodedCharacter : UInt8) : BaudotDecodingContext :=
  let decodedChar := ctx.decode (encodedCharacter >>> 1 &&& 0b11111)
  if decodedChar = LETTERS_CHAR then { ctx with mMode := .letters }
  else if decodedChar = FIGURES_CHAR then { ctx with mMode := .figures }
  else { ctx with mDecodedCharacters := ctx.mDecodedCharacters ++ [decodedChar] }

/-- The codes fed one after the other. -/
def feedAll (ctx : BaudotDecodingContext) (codes : Bytes) : BaudotDecodingContext := codes.foldl feed ctx

end BaudotDecodingContext

end Baudot
