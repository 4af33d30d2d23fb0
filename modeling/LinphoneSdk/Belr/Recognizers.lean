import LinphoneSdk.Lib.Bytes
import Mathlib.Data.Int.Notation
import Mathlib.Data.List.Basic
import Mathlib.Logic.Function.Basic
import Mathlib.Tactic.Common

/-!
# The recognizers of belr

The recognizers of a grammar refer to each other by pointers, and may do so in cycles. A recognizer is found at its
address.
-/

namespace Belr

/-- The class of a recognizer, with its fields. The recognizers that it refers to are addresses. -/
inductive Kind where
  | charRecognizer (mToRecognize : ℤ) (mCaseSensitive : Bool)
  | charRange (mBegin mEnd : ℤ)
  | literal (mLiteral : Bytes)
  | selector (mIsExclusive : Bool) (mElements : List ℕ)
  | exclusiveSelector (mElements : List ℕ)
  | sequence (mElements : List ℕ)
  | loop (mRecognizer : ℕ) (mMin mMax : ℤ)
  | recognizerPointer (mRecognizer : Option ℕ)
  | recognizerAlias (mRecognizer : Option ℕ)

/-- The identifier is 0 for a recognizer that was not given a name. -/
structure Recognizer where
  mId : ℕ
  kind : Kind

abbrev Recognizers := ℕ → Recognizer

/-- The text that is parsed. Behind the character 0 that ends it, the memory holds anything. -/
structure Input where
  text : Bytes
  memory : ℕ → UInt8

namespace Input

def get (input : Input) (pos : ℕ) : UInt8 :=
  if pos < input.text.length then input.text.getD pos 0
  else if pos = input.text.length then 0
  else input.memory pos

def substr (input : Input) (pos count : ℕ) : Bytes := (input.text.drop pos).take count

end Input

/-! ### The recognizers of characters -/

def tolower (c : UInt8) : UInt8 := if 65 ≤ c ∧ c ≤ 90 then c + 32 else c

def charRecognizerFeed (mToRecognize : ℤ) (mCaseSensitive : Bool) (input : Input) (pos : ℕ) : Option ℕ :=
  let c := input.get pos
  if mCaseSensitive then
    if (c.toNat : ℤ) = mToRecognize then some 1 else none
  else if ((tolower c).toNat : ℤ) = mToRecognize then some 1 else none

def charRangeFeed (mBegin mEnd : ℤ) (input : Input) (pos : ℕ) : Option ℕ :=
  let c := input.get pos
  if mBegin ≤ (c.toNat : ℤ) ∧ (c.toNat : ℤ) ≤ mEnd then some 1 else none

/-- The comparison stops at the first character that differs. -/
def literalFeed (mLiteral : Bytes) (input : Input) (pos : ℕ) : Option ℕ :=
  match mLiteral with
  | [] => some 0
  | c :: rest => if tolower (input.get pos) ≠ c then none else (literalFeed rest input (pos + 1)).map (· + 1)

/-- A further iteration of a loop is tried. -/
def loops (mMax : ℤ) (repeats : ℕ) (input : Input) (pos : ℕ) : Bool :=
  (mMax = -1 ∨ (repeats : ℤ) < mMax) ∧ input.get pos ≠ 0

/-! ### Handlers and collectors -/

/-- Why there is no result: the recursion is not over, or the program is aborted. -/
inductive Failure where
  | outOfFuel
  /-- A `RecognizerPointer` that is undefined. -/
  | undefinedRecognizer
  | noHandler
  deriving DecidableEq, Repr

/-- The handlers that are set for rules, by identifier, and the collectors of each handler. -/
structure Handlers (H C : Type) where
  getHandler : ℕ → Option H
  getCollector : H → ℕ → Option C

/-- What the application does: it creates the objects, and gives them their children. `E` are the objects, `W` is the
state of the application. -/
structure Application (H C E W : Type) where
  invoke : H → Bytes → W → E × W
  invokeWithChild : C → E → E → W → W
  invokeWithValue : C → E → Bytes → W → W

structure Call where
  rule : ℕ
  input : Input
  fullMatch : Bool

end Belr
