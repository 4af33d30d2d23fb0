import LinphoneSdk.Belr.Recognizers

/-!
# The derivation that wins

Without any state, a recognizer gives the number of characters that it matches and the list of what is to be assigned to
the object of the rule around it: of the alternatives of a selector the longest one, or the first one that matches a
character if the selector is exclusive, and of a loop as many iterations as possible.
-/

namespace Belr

variable {H C E W : Type}

/-- What is collected for an object: a text, or another object with what is collected for it. -/
inductive Collected (H C : Type) where
  | value (collector : C) (pos count : ℕ)
  | child (collector : C) (pos count : ℕ) (handler : H) (collected : List (Collected H C))

/-- The number of characters that match, and what is collected on the way. -/
abbrev Match (H C : Type) := Option (ℕ × List (Collected H C))

lemma ok_bind {ε α β : Type} (a : α) (f : α → Except ε β) : (Except.ok a >>= f) = f a := rfl

section Derive

variable (derive : ℕ → ℕ → Except Failure (Match H C))

/-- The longest alternative; the first one of them. -/
def deriveLongest (pos : ℕ) : List ℕ → Match H C → Except Failure (Match H C)
  | [], best => return best
  | element :: elements, best => do
    match ← derive element pos, best with
    | some (n, collected), some (m, collected') =>
      if m < n then deriveLongest pos elements (some (n, collected))
      else deriveLongest pos elements (some (m, collected'))
    | some (n, collected), none => deriveLongest pos elements (some (n, collected))
    | none, best => deriveLongest pos elements best

def deriveFirst (pos : ℕ) : List ℕ → Except Failure (Match H C)
  | [] => return none
  | element :: elements => do
    match ← derive element pos with
    | some (n + 1, collected) => return some (n + 1, collected)
    | _ => deriveFirst pos elements

def deriveSequence : List ℕ → ℕ → Except Failure (Match H C)
  | [], _ => return some (0, [])
  | element :: elements, pos => do
    match ← derive element pos with
    | none => return none
    | some (n, collected) =>
      match ← deriveSequence elements (pos + n) with
      | none => return none
      | some (m, collected') => return some (n + m, collected ++ collected')

/-- The number of iterations, and what they match together. -/
def deriveIterations (input : Input) (mRecognizer : ℕ) (mMax : ℤ) :
    ℕ → ℕ → ℕ → Except Failure (ℕ × ℕ × List (Collected H C))
  | 0, _, _ => throw .outOfFuel
  | fuel + 1, repeats, pos =>
    if loops mMax repeats input pos then do
      match ← derive mRecognizer pos with
      | none => return (repeats, 0, [])
      | some (n, collected) => do
        let (repeats, m, collected') ← deriveIterations input mRecognizer mMax fuel (repeats + 1) (pos + n)
        return (repeats, n + m, collected ++ collected')
    else return (repeats, 0, [])

def deriveKind (input : Input) (fuel pos : ℕ) : Kind → Except Failure (Match H C)
  | .charRecognizer mToRecognize mCaseSensitive =>
    return (charRecognizerFeed mToRecognize mCaseSensitive input pos).map fun n => (n, [])
  | .charRange mBegin mEnd => return (charRangeFeed mBegin mEnd input pos).map fun n => (n, [])
  | .literal mLiteral => return (literalFeed mLiteral input pos).map fun n => (n, [])
  | .selector true mElements => deriveFirst derive pos mElements
  | .selector false mElements => deriveLongest derive pos mElements none
  | .exclusiveSelector mElements => deriveFirst derive pos mElements
  | .sequence mElements => deriveSequence derive mElements pos
  | .loop mRecognizer mMin mMax => do
    let (repeats, n, collected) ← deriveIterations derive input mRecognizer mMax fuel 0 pos
    if (repeats : ℤ) < mMin then return none else return some (n, collected)
  | .recognizerPointer mRecognizer | .recognizerAlias mRecognizer =>
    match mRecognizer with
    | none => throw .undefinedRecognizer
    | some mRecognizer => derive mRecognizer pos

end Derive

variable (handlers : Handlers H C) (grammar : Recognizers) (input : Input)

def collect (handler : H) (mId pos n : ℕ) (collected : List (Collected H C)) : List (Collected H C) :=
  match handlers.getHandler mId with
  | some own =>
    match handlers.getCollector handler mId with
    | some collector => [.child collector pos n own collected]
    | none => []
  | none =>
    if mId ≠ 0 then
      match handlers.getCollector handler mId with
      | some collector => collected ++ [.value collector pos n]
      | none => collected
    else collected

/-- A match of no character collects nothing. -/
def derive : ℕ → H → ℕ → ℕ → Except Failure (Match H C)
  | 0, _, _, _ => throw .outOfFuel
  | fuel + 1, handler, recognizer, pos => do
    let own := (handlers.getHandler (grammar recognizer).mId).getD handler
    match ← deriveKind (derive fuel own) input fuel pos (grammar recognizer).kind with
    | none => return none
    | some (0, _) => return some (0, [])
    | some (n + 1, collected) =>
      return some (n + 1, collect handlers handler (grammar recognizer).mId pos (n + 1) collected)

/-- What is collected for the object of the rule that is parsed. -/
def deriveRule (handler : H) (rule : ℕ) : ℕ → Except Failure (Match H C)
  | 0 => throw .outOfFuel
  | fuel + 1 => deriveKind (derive handlers grammar input fuel handler) input fuel 0 (grammar rule).kind

/-! ### Objects -/

variable (application : Application H C E W)

mutual

def Collected.assign (parent : E) : Collected H C → W → W
  | .value collector pos count, w => application.invokeWithValue collector parent (input.substr pos count) w
  | .child collector pos count handler collected, w =>
    let (object, w) := application.invoke handler (input.substr pos count) w
    application.invokeWithChild collector parent object (assignAll object collected w)

def assignAll (parent : E) : List (Collected H C) → W → W
  | [], w => w
  | first :: rest, w => assignAll parent rest (first.assign parent w)

end

def build (handler : H) (pos count : ℕ) (collected : List (Collected H C)) (w : W) : E × W :=
  let (object, w) := application.invoke handler (input.substr pos count) w
  (object, assignAll input application object collected w)

/-- The number of characters that match, and the object that is built of what was collected. -/
def buildInput (fuel : ℕ) (call : Call) (w : W) : Except Failure (Option ℕ × Option E × W) :=
  match handlers.getHandler (grammar call.rule).mId with
  | none => throw .noHandler
  | some handler => do
    match ← deriveRule handlers grammar call.input handler call.rule fuel with
    | none => return (none, none, w)
    | some (0, _) => return (some 0, none, w)
    | some (n + 1, collected) =>
      if call.fullMatch ∧ n + 1 ≠ call.input.text.length then return (some (n + 1), none, w)
      else
        let (object, w) := build call.input application handler 0 (n + 1) collected w
        return (some (n + 1), some object, w)

def buildInputs (fuel : ℕ) : List Call → W → Except Failure (List (Option ℕ × Option E) × W)
  | [], w => return ([], w)
  | call :: calls, w => do
    let (parsed, object, w) ← buildInput handlers grammar application fuel call w
    let (results, w) ← buildInputs fuel calls w
    return ((parsed, object) :: results, w)

end Belr
