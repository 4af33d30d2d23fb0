import LinphoneSdk.Belr.Recognizers

/-!
# The parser

While an input is recognized, assignments are recorded in contexts, of which there is a stack. A context is used again
once it is recycled.
-/

namespace Belr

/-- A pointer to a `HandlerContext`, whose handler never changes. -/
structure HandlerContext (H : Type) where
  address : ℕ
  mHandler : H
  deriving DecidableEq

structure Assignment (H C : Type) where
  mCollector : C
  mBegin : ℕ
  mCount : ℕ
  mChild : Option (HandlerContext H)

inductive Stop where
  | failure (failure : Failure)
  /-- `Cannot parse when mHandlerStack is empty. You must define a top-level rule handler.` -/
  | emptyStack
  /-- `Cannot branch while stack is empty` -/
  | branchOnEmptyStack
  /-- `The branch being merged is not the last one of the stack !` -/
  | notLastBranch
  /-- `A branch could not be found in the stack while removing it !` -/
  | branchNotFound
  /-- The last element of an empty list is accessed. -/
  | undefined
  deriving DecidableEq, Repr

/-- The contexts, and what the parser and the parser context keep. -/
structure ParserState (H C : Type) where
  mAssignments : ℕ → List (Assignment H C)
  /-- The addresses from this one on are free. -/
  next : ℕ
  mCachedContext : H → Option (HandlerContext H)
  /-- The last context comes first. -/
  mHandlerStack : List (HandlerContext H)
  mRoot : Option (HandlerContext H)

abbrev ParserM (H C : Type) := EStateM Stop (ParserState H C)

variable {H C E W : Type} [DecidableEq H]

/-! ### Contexts -/

namespace ParserState

variable (s : ParserState H C)

def setAssignments (ctx : HandlerContext H) (assignments : List (Assignment H C)) : ParserState H C :=
  { s with mAssignments := Function.update s.mAssignments ctx.address assignments }

def setCached (h : H) (ctx : Option (HandlerContext H)) : ParserState H C :=
  { s with mCachedContext := Function.update s.mCachedContext h ctx }

/-- A context of a handler: the one that it keeps, or a new one. -/
def createContext (h : H) : HandlerContext H × ParserState H C :=
  match s.mCachedContext h with
  | some ctx => (ctx, s.setCached h none)
  | none => (⟨s.next, h⟩, { s with next := s.next + 1 }.setAssignments ⟨s.next, h⟩ [])

/-- The handler keeps the context, unless it keeps another one. -/
def recycle (ctx : HandlerContext H) : ParserState H C :=
  let s := s.setAssignments ctx []
  match s.mCachedContext ctx.mHandler with
  | some _ => s
  | none => s.setCached ctx.mHandler (some ctx)

def push (h : H) : HandlerContext H × ParserState H C :=
  let (ctx, s) := s.createContext h
  (ctx, { s with mHandlerStack := ctx :: s.mHandlerStack })

def setChild (handlers : Handlers H C) (ctx : HandlerContext H) (subruleId pos count : ℕ)
    (child : Option (HandlerContext H)) : ParserState H C :=
  match handlers.getCollector ctx.mHandler subruleId with
  | some collector => s.setAssignments ctx (s.mAssignments ctx.address ++ [⟨collector, pos, count, child⟩])
  | none => s

end ParserState

/-- The last context of the stack, with the other ones. -/
def back : ParserM H C (HandlerContext H × List (HandlerContext H)) := do
  match (← get).mHandlerStack with
  | [] => throw .undefined
  | ctx :: rest => return (ctx, rest)

def recycle (ctx : HandlerContext H) : ParserM H C Unit := modify fun s => s.recycle ctx

/-! ### The parser context -/

variable (handlers : Handlers H C)

/-- The context that was created, if any, and the number of assignments. -/
def beginParse (mId : ℕ) : ParserM H C (Option (HandlerContext H) × ℕ) := do
  let ctx ← match handlers.getHandler mId with
    | some h => modifyGet fun s => ((s.push h).1 |> some, (s.push h).2)
    | none => pure none
  let s ← get
  match s.mHandlerStack with
  | [] => throw .emptyStack
  | last :: _ => return (ctx, (s.mAssignments last.address).length)

def endParse (mId pos : ℕ) (matched : Option ℕ) : Option (HandlerContext H) × ℕ → ParserM H C Unit
  | (some ctx, _) => do
    let (_, rest) ← back
    modify fun s => { s with mHandlerStack := rest }
    match matched, rest with
    | some (n + 1), last :: _ => modify fun s => s.setChild handlers last mId pos (n + 1) (some ctx)
    | some (_ + 1), [] => modify fun s => { s with mRoot := some ctx }
    -- no match
    | _, _ => recycle ctx
  | (none, mAssignmentPos) => do
    let (last, _) ← back
    match matched with
    | some (n + 1) =>
      if mId ≠ 0 then modify fun s => s.setChild handlers last mId pos (n + 1) none else pure ()
    | _ => modify fun s => s.setAssignments last ((s.mAssignments last.address).take mAssignmentPos)

def branch : ParserM H C (HandlerContext H) := do
  match (← get).mHandlerStack with
  | [] => throw .branchOnEmptyStack
  | last :: _ => modifyGet fun s => s.push last.mHandler

def merge (other : HandlerContext H) : ParserM H C Unit := do
  let (last, rest) ← back
  if last ≠ other then throw .notLastBranch
  else
    modify fun s => { s with mHandlerStack := rest }
    let (last, _) ← back
    modify fun s => s.setAssignments last (s.mAssignments last.address ++ s.mAssignments other.address)
    recycle other

def removeBranch (other : HandlerContext H) : ParserM H C Unit := do
  let s ← get
  if other ∉ s.mHandlerStack then throw .branchNotFound
  else
    set { s with mHandlerStack := s.mHandlerStack.erase other }
    recycle other

/-! ### Recognition -/

section Feed

variable (feed : ℕ → ℕ → ParserM H C (Option ℕ))

/-- The elements of a selector are tried, each in a branch of its own; the best branch so far is kept. -/
def selectorFeed (pos : ℕ) : List ℕ → Option (ℕ × HandlerContext H) → ParserM H C (Option (ℕ × HandlerContext H))
  | [], best => return best
  | element :: elements, best => do
    let br ← branch
    let matched ← feed element pos
    match matched, best with
    | some matched, some (bestmatch, bestBranch) =>
      if bestmatch < matched then
        removeBranch bestBranch
        selectorFeed pos elements (some (matched, br))
      else
        removeBranch br
        selectorFeed pos elements best
    | some matched, none => selectorFeed pos elements (some (matched, br))
    | none, best =>
      removeBranch br
      selectorFeed pos elements best

def exclusiveFeed (pos : ℕ) : List ℕ → ParserM H C (Option ℕ)
  | [] => return none
  | element :: elements => do
    match ← feed element pos with
    | some (n + 1) => return some (n + 1)
    | _ => exclusiveFeed pos elements

def sequenceFeed : List ℕ → ℕ → ParserM H C (Option ℕ)
  | [], _ => return some 0
  | element :: elements, pos => do
    match ← feed element pos with
    | none => return none
    | some matched =>
      match ← sequenceFeed elements (pos + matched) with
      | none => return none
      | some total => return some (matched + total)

/-- The number of iterations and of characters. -/
def loopFeed (input : Input) (mRecognizer : ℕ) (mMax : ℤ) : ℕ → ℕ → ℕ → ParserM H C (ℕ × ℕ)
  | 0, _, _ => throw (.failure .outOfFuel)
  | fuel + 1, repeats, pos =>
    if loops mMax repeats input pos then do
      match ← feed mRecognizer pos with
      | none => return (repeats, 0)
      | some matched => do
        let (repeats, total) ← loopFeed input mRecognizer mMax fuel (repeats + 1) (pos + matched)
        return (repeats, matched + total)
    else return (repeats, 0)

def kindFeed (input : Input) (fuel pos : ℕ) : Kind → ParserM H C (Option ℕ)
  | .charRecognizer mToRecognize mCaseSensitive => return charRecognizerFeed mToRecognize mCaseSensitive input pos
  | .charRange mBegin mEnd => return charRangeFeed mBegin mEnd input pos
  | .literal mLiteral => return literalFeed mLiteral input pos
  | .selector true mElements => exclusiveFeed feed pos mElements
  | .selector false mElements => do
    match ← selectorFeed feed pos mElements none with
    | none => return none
    | some (bestmatch, bestBranch) =>
      merge bestBranch
      return some bestmatch
  | .exclusiveSelector mElements => exclusiveFeed feed pos mElements
  | .sequence mElements => sequenceFeed feed mElements pos
  | .loop mRecognizer mMin mMax => do
    let (repeats, total) ← loopFeed feed input mRecognizer mMax fuel 0 pos
    if (repeats : ℤ) < mMin then return none else return some total
  | .recognizerPointer mRecognizer | .recognizerAlias mRecognizer =>
    match mRecognizer with
    | none => throw (.failure .undefinedRecognizer)
    | some mRecognizer => feed mRecognizer pos

end Feed

variable (grammar : Recognizers) (input : Input)

/-- The fuel bounds the depth of the recursion and the iterations of each loop. -/
def feed : ℕ → ℕ → ℕ → ParserM H C (Option ℕ)
  | 0, _, _ => throw (.failure .outOfFuel)
  | fuel + 1, recognizer, pos => do
    let hctx ← beginParse handlers (grammar recognizer).mId
    let matched ← kindFeed (feed fuel) input fuel pos (grammar recognizer).kind
    endParse handlers (grammar recognizer).mId pos matched hctx
    return matched

/-! ### Objects -/

variable (application : Application H C E W)

def Assignment.invoke (realize : HandlerContext H → ℕ → ℕ → W → Option (E × W)) (parent : E) (w : W)
    (assignment : Assignment H C) : Option W :=
  match assignment.mChild with
  | some child => do
    let (object, w) ← realize child assignment.mBegin assignment.mCount w
    return application.invokeWithChild assignment.mCollector parent object w
  | none => some (application.invokeWithValue assignment.mCollector parent
      (input.substr assignment.mBegin assignment.mCount) w)

/-- The object of a context is created, and its assignments are made. The fuel bounds the depth. -/
def realize (mAssignments : ℕ → List (Assignment H C)) : ℕ → HandlerContext H → ℕ → ℕ → W → Option (E × W)
  | 0, _, _, _, _ => none
  | fuel + 1, ctx, pos, count, w => do
    let (ret, w) := application.invoke ctx.mHandler (input.substr pos count) w
    let w ← (mAssignments ctx.address).foldlM (Assignment.invoke input application (realize mAssignments fuel) ret) w
    return (ret, w)

/-- `createRootObject`, with the number of characters. -/
def createRootObject (depth : ℕ) (parsed : Option ℕ) (w : W) (s : ParserState H C) : Option (Option E × W) :=
  match s.mRoot with
  | none => some (none, w)
  | some root => do
    let (object, w) ← realize input application s.mAssignments depth root 0 (parsed.getD 0) w
    return (some object, w)

/-- The number of characters, and the object. -/
def parseInput (fuel depth : ℕ) (call : Call) (w : W) : ParserM H C (Option ℕ × Option E × W) := do
  -- the parser context is a new one
  modify fun s => { s with mHandlerStack := [], mRoot := none }
  if (handlers.getHandler (grammar call.rule).mId).isNone then throw (.failure .noHandler)
  let parsed ← feed handlers grammar call.input fuel call.rule 0
  if call.fullMatch ∧ parsed ≠ some call.input.text.length then return (parsed, none, w)
  match createRootObject call.input application depth parsed w (← get) with
  | none => throw (.failure .outOfFuel)
  | some (object, w) => return (parsed, object, w)

def parseInputs (fuel depth : ℕ) : List Call → W → ParserM H C (List (Option ℕ × Option E) × W)
  | [], w => return ([], w)
  | call :: calls, w => do
    let (parsed, object, w) ← parseInput handlers grammar application fuel depth call w
    let (results, w) ← parseInputs fuel depth calls w
    return ((parsed, object) :: results, w)

def Parser : ParserState H C where
  mAssignments _ := []
  next := 0
  mCachedContext _ := none
  mHandlerStack := []
  mRoot := none

end Belr
