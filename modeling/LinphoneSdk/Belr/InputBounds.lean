import LinphoneSdk.Belr.Derivations
import LinphoneSdk.Lib.Exec

/-!
# Recognition and the end of the input

The recognizers are fed with a parser context that does nothing, and it is recorded which positions of the input they
read. The end of the input is known by the character 0 only, so a recognizer that accepts this character goes beyond it.
-/

namespace Belr

open List

/-- What happens during recognition: a recognizer is fed, reads a character, or returns what it matches. -/
inductive Event where
  | beginParse (recognizer pos : ℕ)
  | read (pos : ℕ)
  | endParse (recognizer pos : ℕ) (matched : Option ℕ)

abbrev Recognition := EStateM Failure (List Event)

namespace Recognition

def happens (event : Event) : Recognition Unit := modify fun events => events ++ [event]

section Feed

variable (input : Input)

def get (pos : ℕ) : Recognition UInt8 := do
  happens (.read pos)
  return input.get pos

def literalFeed : Bytes → ℕ → Recognition (Option ℕ)
  | [], _ => return some 0
  | c :: rest, pos => do
    if tolower (← get input pos) ≠ c then return none
    else return (← literalFeed rest (pos + 1)).map (· + 1)

/-- The character is read only if the number of iterations allows another one. -/
def loops (mMax : ℤ) (repeats pos : ℕ) : Recognition Bool :=
  if mMax = -1 ∨ (repeats : ℤ) < mMax then do return (← get input pos) ≠ 0 else return false

variable (feed : ℕ → ℕ → Recognition (Option ℕ))

def selectorFeed (pos : ℕ) : List ℕ → Option ℕ → Recognition (Option ℕ)
  | [], bestmatch => return bestmatch
  | element :: elements, bestmatch => do
    match ← feed element pos, bestmatch with
    | some matched, some best => selectorFeed pos elements (some (if best < matched then matched else best))
    | some matched, none => selectorFeed pos elements (some matched)
    | none, bestmatch => selectorFeed pos elements bestmatch

def exclusiveFeed (pos : ℕ) : List ℕ → Recognition (Option ℕ)
  | [] => return none
  | element :: elements => do
    match ← feed element pos with
    | some (n + 1) => return some (n + 1)
    | _ => exclusiveFeed pos elements

def sequenceFeed : List ℕ → ℕ → Recognition (Option ℕ)
  | [], _ => return some 0
  | element :: elements, pos => do
    match ← feed element pos with
    | none => return none
    | some matched => return (← sequenceFeed elements (pos + matched)).map (matched + ·)

/-- The number of iterations and of characters. -/
def loopFeed (mRecognizer : ℕ) (mMax : ℤ) : ℕ → ℕ → ℕ → Recognition (ℕ × ℕ)
  | 0, _, _ => throw .outOfFuel
  | fuel + 1, repeats, pos => do
    if ← loops input mMax repeats pos then
      match ← feed mRecognizer pos with
      | none => return (repeats, 0)
      | some matched =>
        let (repeats, total) ← loopFeed mRecognizer mMax fuel (repeats + 1) (pos + matched)
        return (repeats, matched + total)
    else return (repeats, 0)

def kindFeed (fuel pos : ℕ) : Kind → Recognition (Option ℕ)
  | .charRecognizer mToRecognize mCaseSensitive => do
    let _ ← get input pos
    return charRecognizerFeed mToRecognize mCaseSensitive input pos
  | .charRange mBegin mEnd => do
    let _ ← get input pos
    return charRangeFeed mBegin mEnd input pos
  | .literal mLiteral => literalFeed input mLiteral pos
  | .selector true mElements => exclusiveFeed feed pos mElements
  | .selector false mElements => selectorFeed feed pos mElements none
  | .exclusiveSelector mElements => exclusiveFeed feed pos mElements
  | .sequence mElements => sequenceFeed feed mElements pos
  | .loop mRecognizer mMin mMax => do
    let (repeats, total) ← loopFeed input feed mRecognizer mMax fuel 0 pos
    return if (repeats : ℤ) < mMin then none else some total
  | .recognizerPointer mRecognizer | .recognizerAlias mRecognizer =>
    match mRecognizer with
    | none => throw .undefinedRecognizer
    | some mRecognizer => feed mRecognizer pos

end Feed

def feed (grammar : Recognizers) (input : Input) : ℕ → ℕ → ℕ → Recognition (Option ℕ)
  | 0, _, _ => throw .outOfFuel
  | fuel + 1, recognizer, pos => do
    happens (.beginParse recognizer pos)
    let matched ← kindFeed input (feed grammar input fuel) fuel pos (grammar recognizer).kind
    happens (.endParse recognizer pos matched)
    return matched

end Recognition

variable {grammar : Recognizers} {input : Input} {events : List Event}

/-! ### Agreement with the derivation -/

namespace Recognition

open Exec

variable {E : Failure → List Event → Prop}

@[simp] lemma wp_happens {Q : PUnit → List Event → Prop} (event : Event) :
    wp (happens event) Q E events ↔ Q ⟨⟩ (events ++ [event]) := Iff.rfl

@[simp] lemma wp_get {Q : UInt8 → List Event → Prop} (pos : ℕ) :
    wp (get input pos) Q E events ↔ Q (input.get pos) (events ++ [.read pos]) := Iff.rfl

/-- A character is read or not. -/
lemma wp_loops {Q : Bool → List Event → Prop} (mMax : ℤ) (repeats pos : ℕ)
    (h : ∀ reads ∈ [[], [Event.read pos]], Q (Belr.loops mMax repeats input pos) (events ++ reads)) :
    wp (loops input mMax repeats pos) Q E events := by
  rw [loops, wp_ite]
  constructor
  · intro hmax
    have hread := h [.read pos] (by simp)
    simpa [Belr.loops, hmax] using hread
  · intro hmax
    have hnone := h [] (by simp)
    simpa [Belr.loops, hmax] using hnone

lemma wp_literalFeed_eq (mLiteral : Bytes) (pos : ℕ) :
    wp (literalFeed input mLiteral pos) (fun matched _ => matched = Belr.literalFeed mLiteral input pos) E events := by
  induction mLiteral generalizing pos events with
  | nil => rfl
  | cons c rest ih =>
    rw [literalFeed, wp_bind, wp_get, wp_ite]
    constructor
    · intro hc
      simp [Belr.literalFeed, hc]
    · intro hc
      rw [wp_bind]
      refine wp_mono (ih (pos + 1)) (fun matched _ hmatched => ?_) fun _ _ h => h
      simp [Belr.literalFeed, hc, hmatched]

variable {H C α β : Type}

/-- Without a handler, a recognizer matches the same number of characters. -/
def Agrees (size : β → α) (x : Recognition α) (derived : Except Failure β) : Prop :=
  ∀ events, wp x (fun a _ => ∃ b, derived = .ok b ∧ size b = a) (fun failure _ => derived = .error failure) events

abbrev Matched (x : Recognition (Option ℕ)) (derived : Except Failure (Match H C)) : Prop :=
  Agrees (Option.map Prod.fst) x derived

variable {feed : ℕ → ℕ → Recognition (Option ℕ)} {derive : ℕ → ℕ → Except Failure (Match H C)}

section

variable (hfeed : ∀ element pos, Matched (feed element pos) (derive element pos))
include hfeed

lemma matched_selectorFeed (pos : ℕ) (elements : List ℕ) (best : Match H C) :
    Matched (selectorFeed feed pos elements (best.map Prod.fst)) (deriveLongest derive pos elements best) := by
  induction elements generalizing best with
  | nil => exact fun events => ⟨best, rfl, rfl⟩
  | cons element elements ih =>
    intro events
    rw [selectorFeed, deriveLongest, wp_bind]
    refine wp_mono (hfeed element pos events) ?_ ?_
    · rintro _ events' ⟨result, hresult, rfl⟩
      rw [hresult, ok_bind]
      match result, best with
      | none, best => exact ih best events'
      | some result, none => exact ih (some result) events'
      | some (n, collected), some (m, collected') =>
        by_cases hlonger : m < n
        · simpa [hlonger] using ih (some (n, collected)) events'
        · simpa [hlonger] using ih (some (m, collected')) events'
    · rintro failure events' hfailure
      rw [hfailure]
      rfl

lemma matched_exclusiveFeed (pos : ℕ)
    (elements : List ℕ) : Matched (exclusiveFeed feed pos elements) (deriveFirst derive pos elements) := by
  induction elements with
  | nil => exact fun events => ⟨none, rfl, rfl⟩
  | cons element elements ih =>
    intro events
    rw [exclusiveFeed, deriveFirst, wp_bind]
    refine wp_mono (hfeed element pos events) ?_ ?_
    · rintro _ events' ⟨result, hresult, rfl⟩
      rw [hresult, ok_bind]
      match result with
      | none | some (0, _) => exact ih events'
      | some (n + 1, collected) => exact ⟨some (n + 1, collected), rfl, rfl⟩
    · rintro failure events' hfailure
      rw [hfailure]
      rfl

lemma matched_sequenceFeed
    (elements : List ℕ) (pos : ℕ) : Matched (sequenceFeed feed elements pos) (deriveSequence derive elements pos) := by
  induction elements generalizing pos with
  | nil => exact fun events => ⟨some (0, []), rfl, rfl⟩
  | cons element elements ih =>
    intro events
    rw [sequenceFeed, deriveSequence, wp_bind]
    refine wp_mono (hfeed element pos events) ?_ ?_
    · rintro _ events' ⟨result, hresult, rfl⟩
      rw [hresult, ok_bind]
      match result with
      | none => exact ⟨none, rfl, rfl⟩
      | some (n, collected) =>
        refine (wp_bind ..).mpr (wp_mono (ih (pos + n) events') ?_ ?_)
        · rintro _ events'' ⟨rest, hrest, rfl⟩
          simp only [hrest, ok_bind]
          match rest with
          | none => exact ⟨none, rfl, rfl⟩
          | some (m, collected') => exact ⟨some (n + m, collected ++ collected'), rfl, rfl⟩
        · rintro failure events'' hfailure
          simp only [hfailure]
          rfl
    · rintro failure events' hfailure
      rw [hfailure]
      rfl

lemma agrees_loopFeed (mRecognizer : ℕ) (mMax : ℤ) (fuel repeats pos : ℕ) :
    Agrees (fun result => (result.1, result.2.1)) (loopFeed input feed mRecognizer mMax fuel repeats pos)
      (deriveIterations derive input mRecognizer mMax fuel repeats pos) := by
  induction fuel generalizing repeats pos with
  | zero => exact fun events => rfl
  | succ fuel ih =>
    intro events
    rw [loopFeed, deriveIterations, wp_bind]
    refine wp_loops mMax repeats pos fun reads _ => ?_
    cases hloops : Belr.loops mMax repeats input pos with
    | false => exact ⟨(repeats, 0, []), rfl, rfl⟩
    | true =>
      simp only [if_true, wp_bind]
      refine wp_mono (hfeed mRecognizer pos _) ?_ ?_
      · rintro _ events' ⟨result, hresult, rfl⟩
        rw [hresult, ok_bind]
        rcases result with _ | ⟨n, collected⟩
        · exact ⟨(repeats, 0, []), rfl, rfl⟩
        · refine (wp_bind ..).mpr (wp_mono (ih (repeats + 1) (pos + n) events') ?_ ?_)
          · rintro _ events'' ⟨rest, hrest, rfl⟩
            simp only [hrest, ok_bind]
            exact ⟨(rest.1, n + rest.2.1, collected ++ rest.2.2), rfl, rfl⟩
          · rintro failure events'' hfailure
            simp only [hfailure]
            rfl
      · rintro failure events' hfailure
        rw [hfailure]
        rfl

end

lemma map_fst_leaf (matched : Option ℕ) :
    (matched.map fun n => (n, ([] : List (Collected H C)))).map Prod.fst = matched := by
  cases matched <;> rfl

lemma matched_kindFeed (hfeed : ∀ element pos, Matched (feed element pos) (derive element pos)) (fuel pos : ℕ)
    (kind : Kind) : Matched (kindFeed input feed fuel pos kind) (deriveKind derive input fuel pos kind) := by
  intro events
  match kind with
  | .charRecognizer .. | .charRange .. =>
    simp only [kindFeed, wp_bind, wp_get, wp_pure, deriveKind]
    exact ⟨_, rfl, map_fst_leaf _⟩
  | .literal mLiteral =>
    refine wp_mono (wp_literalFeed_eq mLiteral pos) (fun matched _ hmatched => ?_) (fun _ _ h => h)
    exact ⟨_, rfl, (map_fst_leaf _).trans hmatched.symm⟩
  | .selector true elements | .exclusiveSelector elements => exact matched_exclusiveFeed hfeed pos elements events
  | .selector false elements => exact matched_selectorFeed hfeed pos elements none events
  | .sequence elements => exact matched_sequenceFeed hfeed elements pos events
  | .loop mRecognizer mMin mMax =>
    rw [kindFeed, deriveKind, wp_bind]
    refine wp_mono (agrees_loopFeed hfeed mRecognizer mMax fuel 0 pos events) ?_ ?_
    · rintro _ events' ⟨⟨repeats, n, collected⟩, hresult, rfl⟩
      simp only [hresult, ok_bind, wp_pure]
      by_cases hmin : (repeats : ℤ) < mMin
      · exact ⟨none, by simp [hmin, pure, Except.pure], by simp [hmin]⟩
      · exact ⟨some (n, collected), by simp [hmin, pure, Except.pure], by simp [hmin]⟩
    · rintro failure events' hfailure
      rw [hfailure]
      rfl
  | .recognizerPointer none | .recognizerAlias none => rfl
  | .recognizerPointer (some mRecognizer) | .recognizerAlias (some mRecognizer) => exact hfeed mRecognizer pos events

/-- Recognition matches what the derivation matches, whatever the handlers are. -/
theorem matched_feed (handlers : Handlers H C) (fuel : ℕ) (handler : H) (recognizer pos : ℕ) :
    Matched (Recognition.feed grammar input fuel recognizer pos)
      (Belr.derive handlers grammar input fuel handler recognizer pos) := by
  induction fuel generalizing handler recognizer pos with
  | zero => exact fun events => rfl
  | succ fuel ih =>
    intro events
    rw [Recognition.feed, Belr.derive, wp_bind, wp_happens, wp_bind]
    have hfeed := fun element pos => ih ((handlers.getHandler (grammar recognizer).mId).getD handler) element pos
    refine wp_mono (matched_kindFeed hfeed fuel pos (grammar recognizer).kind _) ?_ ?_
    · rintro _ events' ⟨result, hresult, rfl⟩
      simp only [hresult, ok_bind, wp_bind, wp_happens, wp_pure]
      rcases result with _ | ⟨_ | n, collected⟩
      · exact ⟨none, rfl, rfl⟩
      · exact ⟨some (0, []), rfl, rfl⟩
      · exact ⟨_, rfl, rfl⟩
    · rintro failure events' hfailure
      simp only [hfailure]
      rfl

end Recognition

/-! ### Bounds -/

/-- The event is inside the input: its characters and the terminator are read, and a match ends before it. -/
def Event.InBounds (input : Input) : Event → Prop
  | .beginParse _ _ => True
  | .read pos => pos ≤ input.text.length
  | .endParse _ pos matched => ∀ n, matched = some n → pos + n ≤ input.text.length

/-- A recognizer of characters takes the terminator of the input for one. -/
def Kind.AcceptsEnd (input : Input) (pos : ℕ) : Kind → Prop
  | .charRecognizer mToRecognize _ => pos = input.text.length ∧ mToRecognize = 0
  | .charRange mBegin mEnd => pos = input.text.length ∧ mBegin ≤ 0 ∧ 0 ≤ mEnd
  | .literal mLiteral => ∃ front rest, mLiteral = front ++ 0 :: rest ∧ pos + front.length = input.text.length ∧
      literalFeed front input pos = some front.length
  | _ => False

/-- No recognizer that takes the terminator for a character is fed there. -/
def Event.Tame (grammar : Recognizers) (input : Input) : Event → Prop
  | .beginParse recognizer pos => ¬ (grammar recognizer).kind.AcceptsEnd input pos
  | _ => True

/-- A recognizer of characters that matches the character 0. -/
def Kind.AcceptsZero : Kind → Prop
  | .charRecognizer mToRecognize _ => mToRecognize = 0
  | .charRange mBegin mEnd => mBegin ≤ 0 ∧ 0 ≤ mEnd
  | .literal mLiteral => ∃ front rest, mLiteral = front ++ 0 :: rest ∧ front.map tolower = front
  | _ => False

namespace Recognition

open Exec

def Inside (input : Input) (pos : ℕ) (reads : List Event) (matched : Option ℕ) : Prop :=
  (∀ event ∈ reads, event.InBounds input) ∧ ∀ n, matched = some n → pos + n ≤ input.text.length

/-- What a recognizer of characters does: it goes beyond the terminator when it takes it for a character. -/
def Leaf (input : Input) (kind : Kind) (pos : ℕ) (events : List Event) (matched : Option ℕ)
    (events' : List Event) : Prop :=
  ∃ reads : List Event, events' = events ++ reads ∧ (∀ event ∈ reads, ∃ pos', event = .read pos') ∧
    (pos ≤ input.text.length → (kind.AcceptsEnd input pos ↔ ¬ Inside input pos reads matched)) ∧
    (input.text.length < pos → ¬ Inside input pos reads matched)

lemma get_length : input.get input.text.length = 0 := by simp [Input.get]

lemma tolower_zero : tolower 0 = 0 := rfl

lemma acceptsEnd_cons {c : UInt8} {rest : Bytes} {pos : ℕ} (hc : tolower (input.get pos) = c)
    (hpos : pos < input.text.length) :
    (Kind.literal (c :: rest)).AcceptsEnd input pos ↔ (Kind.literal rest).AcceptsEnd input (pos + 1) := by
  constructor
  · rintro ⟨front, rest', hrest, hend, hfront⟩
    cases front with
    | nil => simp at hend; omega
    | cons c' front =>
      obtain ⟨rfl, rfl⟩ := cons.inj hrest
      simp only [Belr.literalFeed, hc, ne_eq, not_true_eq_false, if_false, Option.map_eq_some_iff] at hfront
      obtain ⟨n, hfront, hn⟩ := hfront
      simp only [length_cons, Nat.add_right_cancel_iff] at hn hend
      exact ⟨front, rest', rfl, by omega, by rw [hfront, hn]⟩
  · rintro ⟨front, rest', rfl, hend, hfront⟩
    refine ⟨c :: front, rest', rfl, by simp; omega, ?_⟩
    simp [Belr.literalFeed, hc, hfront]

/-- What a literal reads. -/
lemma leaf_literalFeed {E : Failure → List Event → Prop} (mLiteral : Bytes) (pos : ℕ) :
    wp (literalFeed input mLiteral pos) (Leaf input (.literal mLiteral) pos events) E events := by
  induction mLiteral generalizing pos events with
  | nil =>
    refine ⟨[], by simp, by simp, fun hpos => ?_, fun hpos h => ?_⟩
    · simp [Kind.AcceptsEnd, Inside, hpos]
    · have := h.2 0 rfl
      omega
  | cons c rest ih =>
    rw [literalFeed, wp_bind, wp_get, wp_ite]
    constructor
    · intro hc
      refine ⟨[.read pos], rfl, by simp, fun hpos => ?_, fun hpos h => ?_⟩
      · have hinside : Inside input pos [.read pos] none := ⟨by simpa [Event.InBounds] using hpos, by simp⟩
        refine iff_of_false ?_ (by simpa using hinside)
        rintro ⟨front, rest', hrest, hend, hfront⟩
        cases front with
        | nil =>
          obtain ⟨rfl, rfl⟩ := cons.inj hrest
          obtain rfl : pos = input.text.length := by simpa using hend
          exact hc (by rw [get_length, tolower_zero])
        | cons c' front =>
          obtain ⟨rfl, rfl⟩ := cons.inj hrest
          simp [Belr.literalFeed, hc] at hfront
      · have hread := h.1 _ mem_cons_self
        simp only [Event.InBounds] at hread
        omega
    · intro hc
      rw [ne_eq, not_not] at hc
      rw [wp_bind]
      refine wp_mono (ih (pos + 1)) (fun matched events' => ?_) fun _ _ h => h
      rintro ⟨reads, rfl, hreads, hbefore, hbehind⟩
      have hinside : Inside input pos (.read pos :: reads) (matched.map (· + 1)) ↔
          pos ≤ input.text.length ∧ Inside input (pos + 1) reads matched := by
        cases matched with
        | none => simp [Inside, Event.InBounds]
        | some n => simp [Inside, Event.InBounds, and_assoc, Nat.add_assoc, Nat.add_comm 1 n]
      refine ⟨.read pos :: reads, by simp, by simpa using hreads, fun hpos => ?_, fun hpos h => ?_⟩
      · rw [hinside]
        rcases Nat.lt_or_ge pos input.text.length with hlt | hge
        · rw [acceptsEnd_cons hc hlt, hbefore hlt]
          simp [hpos]
        · obtain rfl : pos = input.text.length := by omega
          rw [get_length, tolower_zero] at hc
          exact iff_of_true ⟨[], rest, by simp [← hc], by simp, rfl⟩ fun h => hbehind (by omega) h.2
      · have hle := (hinside.mp h).1
        omega

/-- What a recognizer of one character reads. -/
lemma leaf_of_read {kind : Kind} {pos : ℕ} {matched : Option ℕ} (hmatched : matched = some 1 ∨ matched = none)
    (h : kind.AcceptsEnd input pos ↔ pos = input.text.length ∧ matched = some 1) :
    Leaf input kind pos events matched (events ++ [.read pos]) := by
  refine ⟨[.read pos], rfl, by simp, fun hpos => ?_, fun hpos h => ?_⟩
  · rw [h]
    rcases hmatched with rfl | rfl
    · simp [Inside, Event.InBounds]
      omega
    · simp [Inside, Event.InBounds, hpos]
  · have hread := h.1 _ mem_cons_self
    simp only [Event.InBounds] at hread
    omega

lemma leaf_charRecognizer (mToRecognize : ℤ) (mCaseSensitive : Bool) (pos : ℕ) :
    Leaf input (.charRecognizer mToRecognize mCaseSensitive) pos events
      (charRecognizerFeed mToRecognize mCaseSensitive input pos) (events ++ [.read pos]) := by
  refine leaf_of_read ?_ ?_
  · rw [charRecognizerFeed]
    grind
  · simp only [Kind.AcceptsEnd]
    refine and_congr_right fun hpos => ?_
    have hzero : (tolower (input.get pos)).toNat = 0 ∧ (input.get pos).toNat = 0 := by
      rw [hpos, get_length]
      exact ⟨rfl, rfl⟩
    rw [charRecognizerFeed]
    cases mCaseSensitive <;> simp [hzero, eq_comm]

lemma leaf_charRange (mBegin mEnd : ℤ) (pos : ℕ) :
    Leaf input (.charRange mBegin mEnd) pos events (charRangeFeed mBegin mEnd input pos) (events ++ [.read pos]) := by
  refine leaf_of_read ?_ ?_
  · rw [charRangeFeed]
    grind
  · simp only [Kind.AcceptsEnd]
    refine and_congr_right fun hpos => ?_
    have hzero : (input.get pos).toNat = 0 := by
      rw [hpos, get_length]
      rfl
    simp [charRangeFeed, hzero]

/-! ### Composed recognizers -/

/-- So far, no terminator was taken for a character if and only if nothing went beyond it. -/
def Sound (grammar : Recognizers) (input : Input) (events : List Event) : Prop :=
  (∀ event ∈ events, event.Tame grammar input) ↔ ∀ event ∈ events, event.InBounds input

/-- Soundness is kept, and no match goes beyond the input unless a terminator was taken for a character. -/
def Ends (grammar : Recognizers) (input : Input) (pos : ℕ) (events : List Event) (matched : Option ℕ)
    (events' : List Event) : Prop :=
  events ⊆ events' ∧ Sound grammar input events' ∧
    ((∀ event ∈ events', event.Tame grammar input) → ∀ n, matched = some n → pos + n ≤ input.text.length)

/-- A recognizer that is fed inside the input. -/
def Bounded (grammar : Recognizers) (input : Input) {α : Type} (size : α → Option ℕ) (pos : ℕ)
    (x : Recognition α) : Prop :=
  ∀ events, Sound grammar input events → ((∀ event ∈ events, event.Tame grammar input) → pos ≤ input.text.length) →
    wp x (fun a => Ends grammar input pos events (size a)) (fun _ => Sound grammar input) events

lemma Ends.of_subset {events' events'' : List Event} {pos : ℕ} {matched : Option ℕ} (hsub : events ⊆ events')
    (h : Ends grammar input pos events' matched events'') : Ends grammar input pos events matched events'' :=
  ⟨Subset.trans hsub h.1, h.2⟩

lemma Sound.append {reads : List Event} (h : Sound grammar input events)
    (hreads : (∀ event ∈ events, event.Tame grammar input) →
      ((∀ event ∈ reads, event.Tame grammar input) ↔ ∀ event ∈ reads, event.InBounds input)) :
    Sound grammar input (events ++ reads) := by
  rw [Sound] at h
  simp only [Sound, forall_mem_append]
  rw [← h]
  exact and_congr_right hreads

variable {feed : ℕ → ℕ → Recognition (Option ℕ)}
  (hfeed : ∀ element pos, Bounded grammar input id pos (feed element pos))

include hfeed

lemma bounded_selectorFeed (pos : ℕ) (elements : List ℕ) (bestmatch : Option ℕ) (events : List Event)
    (hsound : Sound grammar input events)
    (hpos : (∀ event ∈ events, event.Tame grammar input) → pos ≤ input.text.length)
    (hbest : (∀ event ∈ events, event.Tame grammar input) → ∀ n, bestmatch = some n → pos + n ≤ input.text.length) :
    wp (selectorFeed feed pos elements bestmatch) (Ends grammar input pos events) (fun _ => Sound grammar input)
      events := by
  induction elements generalizing bestmatch events with
  | nil => exact ⟨Subset.refl _, hsound, hbest⟩
  | cons element elements ih =>
    rw [selectorFeed, wp_bind]
    refine wp_mono (hfeed element pos events hsound hpos) ?_ fun _ _ h => h
    rintro matched events' ⟨hsub, hsound', hmatched⟩
    have htame (h : ∀ event ∈ events', event.Tame grammar input) : ∀ event ∈ events, event.Tame grammar input :=
      fun event hevent => h event (hsub hevent)
    have hrest (best : Option ℕ) (hbest' : best = matched ∨ best = bestmatch) :
        wp (selectorFeed feed pos elements best) (Ends grammar input pos events) (fun _ => Sound grammar input)
          events' := by
      refine wp_mono (ih best events' hsound' (fun h => hpos (htame h)) fun h n hn => ?_)
        (fun _ _ h => h.of_subset hsub) fun _ _ h => h
      rcases hbest' with rfl | rfl
      · exact hmatched h n hn
      · exact hbest (htame h) n hn
    match matched, bestmatch with
    | none, bestmatch => exact hrest bestmatch (.inr rfl)
    | some matched, none => exact hrest (some matched) (.inl rfl)
    | some matched, some best =>
      refine hrest _ ?_
      split
      · exact .inl rfl
      · exact .inr rfl

lemma bounded_exclusiveFeed (pos : ℕ) (elements : List ℕ) :
    Bounded grammar input id pos (exclusiveFeed feed pos elements) := by
  intro events hsound hpos
  induction elements generalizing events with
  | nil => exact ⟨Subset.refl _, hsound, by simp⟩
  | cons element elements ih =>
    rw [exclusiveFeed, wp_bind]
    refine wp_mono (hfeed element pos events hsound hpos) ?_ fun _ _ h => h
    rintro matched events' ⟨hsub, hsound', hmatched⟩
    have hrest : wp (exclusiveFeed feed pos elements) (Ends grammar input pos events)
        (fun _ => Sound grammar input) events' := by
      refine wp_mono (ih events' hsound' fun h => hpos fun event hevent => h event (hsub hevent))
        (fun _ _ h => h.of_subset hsub) fun _ _ h => h
    match matched with
    | none | some 0 => exact hrest
    | some (n + 1) => exact ⟨hsub, hsound', hmatched⟩

lemma bounded_sequenceFeed (elements : List ℕ) (pos : ℕ) :
    Bounded grammar input id pos (sequenceFeed feed elements pos) := by
  induction elements generalizing pos with
  | nil => exact fun events hsound hpos => ⟨Subset.refl _, hsound, by simpa using hpos⟩
  | cons element elements ih =>
    intro events hsound hpos
    rw [sequenceFeed, wp_bind]
    refine wp_mono (hfeed element pos events hsound hpos) ?_ fun _ _ h => h
    rintro matched events' ⟨hsub, hsound', hmatched⟩
    match matched with
    | none => exact ⟨hsub, hsound', by simp⟩
    | some matched =>
      refine (wp_bind ..).mpr (wp_mono (ih (pos + matched) events' hsound' fun h => hmatched h _ rfl) ?_ fun _ _ h => h)
      rintro total events'' ⟨hsub', hsound'', htotal⟩
      refine ⟨Subset.trans hsub hsub', hsound'', fun h n hn => ?_⟩
      obtain ⟨n, hn', rfl⟩ := Option.map_eq_some_iff.mp hn
      have := htotal h n hn'
      omega

lemma bounded_loopFeed (mRecognizer : ℕ) (mMax : ℤ) (fuel repeats pos : ℕ) :
    Bounded grammar input (fun result => some result.2) pos
      (loopFeed input feed mRecognizer mMax fuel repeats pos) := by
  induction fuel generalizing repeats pos with
  | zero => exact fun events hsound hpos => hsound
  | succ fuel ih =>
    intro events hsound hpos
    rw [loopFeed, wp_bind]
    refine wp_loops mMax repeats pos fun reads hreads => ?_
    have hsound₁ : Sound grammar input (events ++ reads) := by
      refine hsound.append fun htame => ?_
      rcases mem_pair.mp hreads with rfl | rfl
      · simp
      · simpa [Event.Tame, Event.InBounds] using hpos htame
    have hpos₁ : (∀ event ∈ events ++ reads, event.Tame grammar input) → pos ≤ input.text.length :=
      fun h => hpos fun event hevent => h event (mem_append_left _ hevent)
    have hsub₁ : events ⊆ events ++ reads := subset_append_left _ _
    cases hloops : Belr.loops mMax repeats input pos with
    | false => exact ⟨hsub₁, hsound₁, fun h n hn => by cases hn; exact hpos₁ h⟩
    | true =>
      simp only [if_true, wp_bind]
      refine wp_mono (hfeed mRecognizer pos _ hsound₁ hpos₁) ?_ fun _ _ h => h
      rintro matched events₂ ⟨hsub₂, hsound₂, hmatched⟩
      cases matched with
      | none =>
        refine ⟨Subset.trans hsub₁ hsub₂, hsound₂, fun h n hn => ?_⟩
        cases hn
        exact hpos₁ fun event hevent => h event (hsub₂ hevent)
      | some matched =>
        refine (wp_bind ..).mpr (wp_mono (ih (repeats + 1) (pos + matched) events₂ hsound₂ fun h => hmatched h _ rfl) ?_
          fun _ _ h => h)
        rintro ⟨repeats', total⟩ events₃ ⟨hsub₃, hsound₃, htotal⟩
        refine ⟨Subset.trans (Subset.trans hsub₁ hsub₂) hsub₃, hsound₃, fun h n hn => ?_⟩
        cases hn
        have := htotal h total rfl
        simp only
        omega

/-- A recognizer that does not take the terminator for a character. -/
lemma bounded_kindFeed (fuel pos : ℕ) (kind : Kind) (hkind : ¬ kind.AcceptsEnd input pos) :
    Bounded grammar input id pos (kindFeed input feed fuel pos kind) := by
  have hleaf {events events' : List Event} {matched : Option ℕ} (hsound : Sound grammar input events)
      (hpos : (∀ event ∈ events, event.Tame grammar input) → pos ≤ input.text.length)
      (h : Leaf input kind pos events matched events') : Ends grammar input pos events matched events' := by
    obtain ⟨reads, rfl, hreads, hbefore, -⟩ := h
    have htame : ∀ event ∈ reads, event.Tame grammar input := fun event hevent => by
      obtain ⟨pos', rfl⟩ := hreads event hevent
      trivial
    have hinside (h : ∀ event ∈ events, event.Tame grammar input) : Inside input pos reads matched :=
      not_not.mp fun hinside => hkind ((hbefore (hpos h)).mpr hinside)
    refine ⟨subset_append_left _ _, hsound.append fun h => iff_of_true htame (hinside h).1, fun h => ?_⟩
    exact (hinside fun event hevent => h event (mem_append_left _ hevent)).2
  intro events hsound hpos
  match kind with
  | .charRecognizer mToRecognize mCaseSensitive =>
    exact hleaf hsound hpos (leaf_charRecognizer mToRecognize mCaseSensitive pos)
  | .charRange mBegin mEnd => exact hleaf hsound hpos (leaf_charRange mBegin mEnd pos)
  | .literal mLiteral =>
    exact wp_mono (leaf_literalFeed mLiteral pos) (fun _ _ h => hleaf hsound hpos h) fun _ _ h => h
  | .selector true elements | .exclusiveSelector elements => exact bounded_exclusiveFeed hfeed pos elements events hsound hpos
  | .selector false elements => exact bounded_selectorFeed hfeed pos elements none events hsound hpos (by simp)
  | .sequence elements => exact bounded_sequenceFeed hfeed elements pos events hsound hpos
  | .loop mRecognizer mMin mMax =>
    rw [kindFeed, wp_bind]
    refine wp_mono (bounded_loopFeed hfeed mRecognizer mMax fuel 0 pos events hsound hpos) ?_ fun _ _ h => h
    rintro ⟨repeats, total⟩ events' ⟨hsub, hsound', htotal⟩
    refine ⟨hsub, hsound', fun h n hn => htotal h n ?_⟩
    simp only [id] at hn
    split at hn
    · cases hn
    · exact hn
  | .recognizerPointer none | .recognizerAlias none => exact hsound
  | .recognizerPointer (some mRecognizer) | .recognizerAlias (some mRecognizer) =>
    exact hfeed mRecognizer pos events hsound hpos

omit hfeed

/-- Only recognizers of characters take the terminator for a character. -/
lemma leaf_kindFeed {E : Failure → List Event → Prop} (fuel pos : ℕ) {kind : Kind} (hkind : kind.AcceptsEnd input pos) :
    wp (kindFeed input feed fuel pos kind) (Leaf input kind pos events) E events := by
  match kind with
  | .charRecognizer mToRecognize mCaseSensitive => exact leaf_charRecognizer mToRecognize mCaseSensitive pos
  | .charRange mBegin mEnd => exact leaf_charRange mBegin mEnd pos
  | .literal mLiteral => exact leaf_literalFeed mLiteral pos

lemma le_of_acceptsEnd {kind : Kind} {pos : ℕ} (h : kind.AcceptsEnd input pos) : pos ≤ input.text.length := by
  match kind with
  | .charRecognizer .. | .charRange .. => exact Nat.le_of_eq h.1
  | .literal mLiteral =>
    obtain ⟨front, rest, -, hend, -⟩ := h
    omega

/-- A recognizer is fed: it takes the terminator for a character, or it is bounded. -/
lemma bounded_feed (fuel recognizer pos : ℕ) :
    Bounded grammar input id pos (Recognition.feed grammar input fuel recognizer pos) := by
  induction fuel generalizing recognizer pos with
  | zero => exact fun events hsound hpos => hsound
  | succ fuel ih =>
    intro events hsound hpos
    rw [Recognition.feed, wp_bind, wp_happens, wp_bind]
    by_cases hkind : (grammar recognizer).kind.AcceptsEnd input pos
    · refine wp_mono (leaf_kindFeed fuel pos hkind) ?_ fun _ _ h => h
      rintro matched _ ⟨reads, rfl, hreads, hbefore, -⟩
      have htame : ¬ ∀ event ∈ events ++ [.beginParse recognizer pos] ++ reads ++ [.endParse recognizer pos matched],
          event.Tame grammar input := fun h => h (.beginParse recognizer pos) (by simp) hkind
      refine ⟨fun event hevent => by simp [hevent], iff_of_false htame fun h => ?_, fun h => absurd h htame⟩
      refine (hbefore (le_of_acceptsEnd hkind)).mp hkind ⟨fun event hevent => h event (by simp [hevent]), ?_⟩
      exact h (.endParse recognizer pos matched) (by simp)
    · have hsound₁ : Sound grammar input (events ++ [.beginParse recognizer pos]) :=
        hsound.append fun _ => by simpa [Event.Tame, Event.InBounds] using hkind
      have hpos₁ : (∀ event ∈ events ++ [.beginParse recognizer pos], event.Tame grammar input) →
          pos ≤ input.text.length := fun h => hpos fun event hevent => h event (mem_append_left _ hevent)
      refine wp_mono (bounded_kindFeed ih fuel pos _ hkind _ hsound₁ hpos₁) ?_ fun _ _ h => h
      rintro matched events' ⟨hsub, hsound', hmatched⟩
      refine ⟨fun event hevent => by simp [hsub (mem_append_left _ hevent)], hsound'.append fun h => ?_,
        fun h => hmatched fun event hevent => h event (mem_append_left _ hevent)⟩
      simpa [Event.Tame, Event.InBounds] using hmatched h

end Recognition

def trace (grammar : Recognizers) (input : Input) (fuel recognizer pos : ℕ) : List Event :=
  Exec.final (Recognition.feed grammar input fuel recognizer pos) []

/-- Recognition stays inside the input if and only if no terminator is taken for a character. -/
lemma trace_inBounds_iff (fuel recognizer : ℕ) {pos : ℕ} (hpos : pos ≤ input.text.length) :
    (∀ event ∈ trace grammar input fuel recognizer pos, event.InBounds input) ↔
      ∀ event ∈ trace grammar input fuel recognizer pos, event.Tame grammar input := by
  have hsound : Recognition.Sound grammar input [] := by simp [Recognition.Sound]
  have hfinal : Recognition.Sound grammar input (trace grammar input fuel recognizer pos) :=
    Exec.final_of_wp (Exec.wp_mono (Recognition.bounded_feed fuel recognizer pos [] hsound fun _ => hpos)
      (fun _ _ h => h.2.1) fun _ _ h => h)
  exact hfinal.symm

/-! ### Grammars whose recognizers take the terminator for a character -/

lemma tolower_tolower (c : UInt8) : tolower (tolower c) = tolower c := by
  simp only [tolower]
  split <;> rename_i h
  · rw [if_neg]
    simp only [UInt8.le_iff_toNat_le, UInt8.toNat_add, UInt8.reduceToNat] at h ⊢
    omega
  · rfl

lemma map_tolower_of_literalFeed {front : Bytes} {pos n : ℕ} (h : literalFeed front input pos = some n) :
    front.map tolower = front := by
  induction front generalizing pos n with
  | nil => rfl
  | cons c front ih =>
    by_cases hc : tolower (input.get pos) = c
    · simp only [literalFeed, hc, ne_eq, not_true_eq_false, if_false, Option.map_eq_some_iff] at h
      obtain ⟨m, hm, -⟩ := h
      rw [map_cons, ih hm, ← hc, tolower_tolower]
    · simp [literalFeed, hc] at h

lemma literalFeed_of_get {front : Bytes} {pos : ℕ}
    (h : ∀ i (hi : i < front.length), tolower (input.get (pos + i)) = front[i]) :
    literalFeed front input pos = some front.length := by
  induction front generalizing pos with
  | nil => rfl
  | cons c front ih =>
    have hc : tolower (input.get pos) = c := h 0 (by simp)
    have hrest : literalFeed front input (pos + 1) = some front.length := ih fun i hi => by
      have hnext := h (i + 1) (by simpa using hi)
      rw [getElem_cons_succ] at hnext
      rw [← hnext, Nat.add_assoc, Nat.add_comm 1]
    simp [literalFeed, hc, hrest]

lemma Kind.AcceptsEnd.acceptsZero {kind : Kind} {pos : ℕ} (h : kind.AcceptsEnd input pos) : kind.AcceptsZero := by
  match kind with
  | .charRecognizer .. | .charRange .. => exact h.2
  | .literal mLiteral =>
    obtain ⟨front, rest, rfl, -, hfront⟩ := h
    exact ⟨front, rest, rfl, map_tolower_of_literalFeed hfront⟩

/-- There is an input whose terminator is taken for a character. -/
lemma Kind.AcceptsZero.exists_acceptsEnd {kind : Kind} (h : kind.AcceptsZero) :
    ∃ input : Input, kind.AcceptsEnd input 0 := by
  match kind with
  | .charRecognizer .. | .charRange .. => exact ⟨⟨[], fun _ => 0⟩, rfl, h⟩
  | .literal mLiteral =>
    obtain ⟨front, rest, rfl, hfront⟩ := h
    refine ⟨⟨front, fun _ => 0⟩, front, rest, rfl, by simp, literalFeed_of_get fun i hi => ?_⟩
    have hlower : tolower front[i] = front[i] := by
      have hget := congrArg (·[i]?) hfront
      simpa [hi] using hget
    simpa [Input.get, hi] using hlower

lemma beginParse_mem_trace {recognizer pos : ℕ} (h : (grammar recognizer).kind.AcceptsEnd input pos) :
    .beginParse recognizer pos ∈ trace grammar input 1 recognizer pos := by
  refine Exec.final_of_wp ?_
  rw [Recognition.feed, Exec.wp_bind, Recognition.wp_happens, Exec.wp_bind]
  refine Exec.wp_mono (Recognition.leaf_kindFeed (E := fun _ _ => False) 0 pos h) ?_ fun _ _ h => h.elim
  rintro matched _ ⟨reads, rfl, -⟩
  exact mem_append_left _ (mem_append_left _ (by simp))

/-- Recognition stays inside every input if and only if no recognizer of characters of the grammar matches the character
0. Of any grammar, a run stays inside the input if and only if no recognizer takes the terminator for a character. -/
theorem recognition_inBounds_iff (grammar : Recognizers) :
    ((∀ (input : Input) (fuel recognizer pos : ℕ), pos ≤ input.text.length →
      ∀ event ∈ trace grammar input fuel recognizer pos, event.InBounds input) ↔
        ∀ recognizer, ¬ (grammar recognizer).kind.AcceptsZero) ∧
    ∀ (input : Input) (fuel recognizer pos : ℕ), pos ≤ input.text.length →
      ((∀ event ∈ trace grammar input fuel recognizer pos, event.InBounds input) ↔
        ∀ event ∈ trace grammar input fuel recognizer pos, event.Tame grammar input) := by
  refine ⟨⟨fun h recognizer hzero => ?_, fun h input fuel recognizer pos hpos => ?_⟩,
    fun input fuel recognizer pos hpos => trace_inBounds_iff fuel recognizer hpos⟩
  · obtain ⟨input, hend⟩ := hzero.exists_acceptsEnd
    have htame := (trace_inBounds_iff 1 recognizer (Nat.zero_le _)).mp (h input 1 recognizer 0 (Nat.zero_le _))
    exact htame _ (beginParse_mem_trace hend) hend
  · refine (trace_inBounds_iff fuel recognizer hpos).mpr fun event _ => ?_
    cases event with
    | beginParse recognizer pos => exact fun hend => h recognizer hend.acceptsZero
    | read pos => trivial
    | endParse recognizer pos matched => trivial

/-- `CoreRules::ctl`: a selector of the characters 0 to 31 and of the character 127. -/
def ctl : Recognizers
  | 0 => ⟨1, .exclusiveSelector [1, 2]⟩
  | 1 => ⟨0, .charRange 0x00 0x1f⟩
  | _ => ⟨0, .charRecognizer 0x7f true⟩

/-- The rule matches one character of the empty input. -/
theorem ctl_not_inBounds : ¬ ∀ (grammar : Recognizers) (input : Input) (fuel recognizer pos : ℕ),
    pos ≤ input.text.length → ∀ event ∈ trace grammar input fuel recognizer pos, event.InBounds input := by
  intro h
  have htrace : trace ctl ⟨[], fun _ => 0⟩ 2 0 0 =
      [.beginParse 0 0, .beginParse 1 0, .read 0, .endParse 1 0 (some 1), .endParse 0 0 (some 1)] := rfl
  have hend := h ctl ⟨[], fun _ => 0⟩ 2 0 0 (Nat.le_refl _) (.endParse 0 0 (some 1)) (by simp [htrace])
  exact absurd (hend 1 rfl) (by simp)

end Belr
