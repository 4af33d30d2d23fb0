import LinphoneSdk.Lib.CString
import LinphoneSdk.Lib.Loop

/-!
# The input stream of a channel

The bytes that a SIP or HTTP channel reads are kept in a buffer. `parseStream` finds the messages in them: it searches
for a start line, waits for the blank line that ends the headers, and then gives the body to its handler, of
Content-Length bytes or chunk after chunk.
-/

namespace BelleSip

open CString List

def belle_sip_network_buffer_size : ℕ := 65535

def sizeT (n : ℤ) : ℕ := (n % 2 ^ 64).toNat

def cInt (n : ℤ) : ℤ := n.bmod (2 ^ 32)

/-- The parser of the headers of a message, and what the channel reads in a message. -/
structure MessageParser (M : Type) where
  /-- `belle_sip_message_parse_raw`: the message and the number of bytes read. -/
  parseRaw : Bytes → Option M × ℕ
  contentLength : M → Option Int32
  isHttp : M → Bool
  hasContentType : M → Bool
  transferEncoding : M → Option Bytes

inductive InputStreamState where
  | waitingMessageStart
  | messageAquisition
  | bodyAquisition
  /-- The read pointer has left the write pointer behind: what the channel reads from then on is not modelled. -/
  | overtaken
  deriving DecidableEq, Repr

/-- `consumed` are the bytes of the buffer before the read pointer, `readable` those from there to the write pointer; a
0 byte follows them. -/
structure InputStream (M : Type) where
  state : InputStreamState := .waitingMessageStart
  consumed : Bytes := []
  readable : Bytes := []
  msg : Option M := none
  contentLength : ℕ := sizeT (-1)
  chunckedMode : Bool := false
  chunkSize : ℤ := 0
  chunkReadSize : ℤ := 0
  deriving DecidableEq, Repr

/-- `body` is what the body handler of the message under way has received. -/
structure Channel (M : Type) where
  inputStream : InputStream M := {}
  body : Bytes := []
  incomingMessages : List (M × Bytes) := []
  deriving DecidableEq, Repr

variable {M : Type}

/-! ### The buffer -/

namespace InputStream

def freeLength (s : InputStream M) : ℕ := belle_sip_network_buffer_size - (s.consumed.length + s.readable.length)

/-- The read pointer moves over `n` bytes. -/
def advance (s : InputStream M) (n : ℕ) : InputStream M :=
  { s with consumed := s.consumed ++ s.readable.take n, readable := s.readable.drop n }

/-- The remaining bytes move to the top of the buffer. -/
def rewind (s : InputStream M) : InputStream M := { s with consumed := [] }

def reset (s : InputStream M) : InputStream M :=
  { s.rewind with
    state := .waitingMessageStart, msg := none, chunckedMode := false, contentLength := sizeT (-1) }

end InputStream

/-! ### The start line -/

def isToken (buff : Bytes) : Bool :=
  buff.all fun c =>
    c ∈ bytes ['-', '.', '!', '%', '*', '_', '+', '\x60', '\'', '~'] || isdigit c || (65 ≤ c && c ≤ 90) ||
      (97 ≤ c && c ≤ 122)

def scanSipStatus (s : Bytes) : Bool :=
  ((scanLiteral (bytes ['S', 'I', 'P', '/', '2', '.', '0']) s).bind fun s => scanDecimal (skipSpaces s)).isSome

/-- `"HTTP/1.%*i %d "`. -/
def scanHttpStatus (s : Bytes) : Bool :=
  ((scanLiteral (bytes ['H', 'T', 'T', 'P', '/', '1', '.']) s).bind fun s =>
    (scanInteger s).bind fun s => scanDecimal (skipSpaces s)).isSome

def scanRequestLine (s : Bytes) : Option (Bytes × Bytes) :=
  (scanWord (some 16) s).bind fun (method, s) =>
    (scanWord none s).bind fun (_, s) => (scanWord (some 9) s).map fun (sipVersion, _) => (method, sipVersion)

def isVersion (sipVersion : Bytes) : Bool :=
  sipVersion = bytes ['S', 'I', 'P', '/', '2', '.', '0'] ||
    (bytes ['H', 'T', 'T', 'P', '/', '1', '.']).isPrefixOf sipVersion

/-- Is the string taken for the start line of a message? -/
def isStartLine (s : Bytes) : Bool :=
  scanSipStatus s || scanHttpStatus s ||
    match scanRequestLine s with
    | some (method, sipVersion) => isToken method && isVersion sipVersion
    | none => false

/-- The loop of `get_message_start_pos` at `i`, `n` bytes before its end. -/
def searchStart (buff : Bytes) (i : ℕ) : ℕ → Option ℕ
  | 0 => none
  | n + 1 =>
    let c := buff.getD i 0
    if c = 13 ∨ c = 10 ∨ c = 32 ∨ c = 9 then searchStart buff (i + 1) n
    -- the last byte of the buffer is replaced by 0
    else if isStartLine (cString (buff.dropLast.drop i)) then some i
    else searchStart buff (i + 1) n

def getMessageStartPos (buff : Bytes) : Option ℕ := searchStart buff 0 (buff.length - 12)

/-- Is there a CR LF in the bytes? -/
def hasCrlf : Bytes → Bool
  | c :: d :: s => (c = 13 && d = 10) || hasCrlf (d :: s)
  | _ => false

/-- Where the first CR LF is. -/
def firstCrlf : Bytes → ℕ
  | c :: d :: s => if c = 13 ∧ d = 10 then 0 else firstCrlf (d :: s) + 1
  | _ => 0

/-! ### The loop of `parseStream` -/

namespace Channel

variable (parser : MessageParser M)

def withStream (ch : Channel M) (f : InputStream M → InputStream M) : Channel M :=
  { ch with inputStream := f ch.inputStream }

def messageReady (ch : Channel M) : Channel M :=
  match ch.inputStream.msg with
  | some msg =>
    { ch.withStream (·.reset) with body := [], incomingMessages := ch.incomingMessages ++ [(msg, ch.body)] }
  | none => { ch.withStream (·.reset) with body := [] }

def feedBody (ch : Channel M) (len : ℕ) : Channel M :=
  { ch.withStream fun s => (s.advance len).rewind with body := ch.body ++ ch.inputStream.readable.take len }

/-- Is the start line searched for? A full buffer is searched in any case. -/
def searches (s : InputStream M) : Bool := hasCrlf s.readable || (s.freeLength ≤ 1 && 2 ≤ s.readable.length)

/-- The bytes that the search for the start line discards. -/
def discarded (s : InputStream M) : Bytes :=
  s.readable.take ((getMessageStartPos s.readable).getD s.readable.length)

inductive Flow (M : Type) where
  /-- To the next part of the iteration. -/
  | on (ch : Channel M)
  /-- To the next iteration: `continue`. -/
  | again (ch : Channel M)
  /-- Out of the loop: `break`. -/
  | out (ch : Channel M)

/-- The rest of the iteration, which gives the channel for the next iteration or the one that leaves the loop. -/
def Flow.bind (flow : Flow M) (rest : Channel M → Channel M ⊕ Channel M) : Channel M ⊕ Channel M :=
  match flow with
  | .on ch => rest ch
  | .again ch => .inl ch
  | .out ch => .inr ch

/-- Nothing is found: the bytes are trashed, and the search goes on after its `i`-th byte, over as many bytes at the top
of the buffer. A message start there is behind the write pointer. -/
def trash (ch : Channel M) (i : ℕ) : Channel M :=
  let s := ch.inputStream
  let stale := (s.consumed ++ s.readable).take s.readable.length
  let ch := ch.withStream fun s => (s.advance s.readable.length).reset
  if hasCrlf (stale.drop (i + 1)) ∧ (getMessageStartPos stale).isSome then
    ch.withStream fun s => { s with state := .overtaken }
  else ch

def waitMessageStart (ch : Channel M) : Flow M :=
  let s := ch.inputStream
  if searches s then
    match getMessageStartPos s.readable with
    | some offset => .on (ch.withStream fun s => { s.advance offset with state := .messageAquisition })
    | none => .out (ch.trash (if s.freeLength ≤ 1 then 0 else firstCrlf s.readable))
  else .out ch

/-- Is the body of the message coded in chunks? -/
def isChunked (msg : M) : Bool :=
  match parser.transferEncoding msg with
  | some value => (strstr (bytes ['c', 'h', 'u', 'n', 'k', 'e', 'd']) value).isSome
  | none => false

/-- The value of the Content-Length header, 0 without one. -/
def announcedLength (msg : M) : ℕ :=
  match parser.contentLength msg with
  | some n => sizeT n.toInt
  | none => 0

/-- Is a body expected? The chunked coding is looked for in an HTTP message that has a Content-Type. -/
def checkBody (ch : Channel M) (msg : M) : Bool × Channel M :=
  let contentLength := announcedLength parser msg
  let http := parser.isHttp msg && parser.hasContentType msg
  let ch := { ch.withStream fun s => { s with contentLength := contentLength } with body := [] }
  let ch := if http && isChunked parser msg then
      ch.withStream fun s => { s with chunckedMode := true, contentLength := 0, chunkSize := -1, chunkReadSize := 0 }
    else ch
  (decide (0 < contentLength) || http, ch)

/-- The part of the iteration for `MESSAGE_AQUISITION`. -/
def acquireMessage (ch : Channel M) : Flow M :=
  let s := ch.inputStream
  match strstr (crlf ++ crlf) s.readable with
  | some pos =>
    match parser.parseRaw (s.readable.take (pos + 4)) with
    | (some msg, readSize) =>
      if 0 < readSize then
        let ch := ch.withStream fun s => { s.advance readSize with msg := some msg }
        match checkBody parser ch msg with
        | (true, ch) => .on (ch.withStream fun s => { s with state := .bodyAquisition })
        | (false, ch) => .again ch.messageReady
      else .again (ch.withStream fun s => { s.advance (pos + 4) with state := .waitingMessageStart })
    | (none, _) => .again (ch.withStream fun s => { s.advance (pos + 4) with state := .waitingMessageStart })
  | none => .out ch

/-! ### The body

The result is `BELLE_SIP_CONTINUE` on the left and `BELLE_SIP_STOP` on the right. -/

def acquireBodySimple (ch : Channel M) : Channel M ⊕ Channel M :=
  let contentLength := ch.inputStream.contentLength
  let toRead := ch.inputStream.readable.length
  let ch := if ch.body.length = 0 ∧ toRead = 0 then ch
    else ch.feedBody (min (sizeT (contentLength - ch.body.length)) toRead)
  if contentLength ≤ ch.body.length then .inl ch.messageReady else .inr ch

/-- The length of the CR LF in front of a chunk. -/
def skipCrlf : Bytes → ℕ
  | 13 :: 10 :: s => skipCrlf s + 2
  | _ => 0

/-- The data of the chunk under way, which may be completed then: the channel for the next chunk, or the result. -/
def readChunk (ch : Channel M) : Channel M ⊕ (Channel M ⊕ Channel M) :=
  let s := ch.inputStream
  let readsize := min (s.readable.length : ℤ) (s.chunkSize - s.chunkReadSize)
  let ch := if 0 < readsize then
      (ch.feedBody readsize.toNat).withStream fun s => { s with chunkReadSize := s.chunkReadSize + readsize }
    else ch
  if ch.inputStream.chunkSize = ch.inputStream.chunkReadSize then
    let ch := ch.withStream fun s =>
      { s with contentLength := sizeT (s.contentLength + s.chunkSize), chunkSize := -1 }
    if 0 < ch.inputStream.readable.length then .inl ch else .inr (.inr ch)
  else .inr (.inr ch)

/-- An iteration of the loop of `acquire_chuncked_body`. -/
def chunkIteration (ch : Channel M) : Channel M ⊕ (Channel M ⊕ Channel M) :=
  if ch.inputStream.chunkSize = -1 then
    let ch := ch.withStream fun s => s.advance (skipCrlf s.readable)
    let s := ch.inputStream
    match strstr crlf s.readable with
    | some tmp =>
      let chunksize := strtol16 s.readable
      if 0 ≤ chunksize ∧ chunksize ≠ LONG_MAX then
        if chunksize = 0 then
          -- the last chunk indicator finishes with two CR LF
          .inr (.inl (ch.withStream fun s => s.advance (min (tmp + 4) s.readable.length)).messageReady)
        else
          readChunk (ch.withStream fun s =>
            { s.advance (tmp + 2) with chunkSize := cInt chunksize, chunkReadSize := 0 })
      else .inr (.inl { ch.withStream (·.reset) with body := [] })
    | none => .inr (.inr ch)
  else readChunk ch

lemma readChunk_next {ch ch' : Channel M} (h : readChunk ch = .inl ch') :
    ch'.inputStream.chunkSize = -1 ∧ ch'.inputStream.readable.length ≤ ch.inputStream.readable.length := by
  simp only [readChunk] at h
  split_ifs at h <;> cases h <;> simp [withStream, feedBody, InputStream.advance, InputStream.rewind]

/-- The loop of `acquire_chuncked_body`. -/
def chunkLoop : Loop (Channel M) (Channel M ⊕ Channel M) where
  step := chunkIteration
  rank ch := 2 * ch.inputStream.readable.length + if ch.inputStream.chunkSize = -1 then 0 else 1
  rank_lt := by
    intro ch ch' h
    by_cases hsize : ch.inputStream.chunkSize = -1
    · simp only [chunkIteration, hsize, ↓reduceIte] at h
      split at h
      · next tmp htmp =>
        have hle := add_length_le_of_strstr htmp
        split_ifs at h with hvalid hlast
        obtain ⟨hchunk, hlen⟩ := readChunk_next h
        simp only [withStream, InputStream.advance, length_drop, crlf, length_cons, length_nil]
          at hle hlen
        simp only [hchunk, hsize, ↓reduceIte]
        omega
      · cases h
    · simp only [chunkIteration, hsize, ↓reduceIte] at h
      obtain ⟨hchunk, hlen⟩ := readChunk_next h
      simp only [hchunk, hsize, ↓reduceIte]
      omega

def acquireBody (ch : Channel M) : Channel M ⊕ Channel M :=
  if ch.inputStream.chunckedMode then chunkLoop.run ch else acquireBodySimple ch

/-- An iteration, from the part for the state of the stream on: the channel for the next iteration, or the one that
leaves the loop. -/
def parseIteration (ch : Channel M) : Channel M ⊕ Channel M :=
  if ch.inputStream.readable = [] then .inr ch
  else match ch.inputStream.state with
    | .waitingMessageStart => (waitMessageStart ch).bind fun ch => (acquireMessage parser ch).bind acquireBody
    | .messageAquisition => (acquireMessage parser ch).bind acquireBody
    | .bodyAquisition => acquireBody ch
    | .overtaken => .inr ch

/-! ### Each iteration makes progress -/

variable {parser} {ch ch' : Channel M}

@[simp] lemma messageReady_inputStream : ch.messageReady.inputStream = ch.inputStream.reset := by
  simp only [messageReady]
  split <;> rfl

lemma acquireBodySimple_continue (h : acquireBodySimple ch = .inl ch') :
    ch'.inputStream.state = .waitingMessageStart ∧
      ch'.inputStream.readable.length ≤ ch.inputStream.readable.length := by
  simp only [acquireBodySimple] at h
  split_ifs at h <;> cases h <;>
    simp [withStream, feedBody, InputStream.advance, InputStream.rewind, InputStream.reset]

lemma readChunk_ne_continue : readChunk ch ≠ .inr (.inl ch') := by
  intro h
  simp only [readChunk] at h
  split_ifs at h <;> cases h

lemma chunkIteration_continue (h : chunkIteration ch = .inr (.inl ch')) :
    ch'.inputStream.state = .waitingMessageStart ∧
      ch'.inputStream.readable.length ≤ ch.inputStream.readable.length := by
  by_cases hsize : ch.inputStream.chunkSize = -1
  · simp only [chunkIteration, hsize, ↓reduceIte] at h
    split at h
    · split_ifs at h
      · cases h
        simp only [messageReady_inputStream, InputStream.reset, InputStream.rewind, withStream, InputStream.advance,
          length_drop, true_and]
        omega
      · exact absurd h readChunk_ne_continue
      · cases h
        simp [withStream, InputStream.advance, InputStream.reset, InputStream.rewind]
    · cases h
  · simp only [chunkIteration, hsize, ↓reduceIte] at h
    exact absurd h readChunk_ne_continue

lemma chunkIteration_next (h : chunkIteration ch = .inl ch') :
    ch'.inputStream.readable.length ≤ ch.inputStream.readable.length := by
  have hrank := (chunkLoop (M := M)).rank_lt h
  simp only [chunkLoop] at hrank
  split_ifs at hrank <;> omega

lemma acquireBody_continue (h : acquireBody ch = .inl ch') : ch'.inputStream.state = .waitingMessageStart ∧
      ch'.inputStream.readable.length ≤ ch.inputStream.readable.length := by
  simp only [acquireBody] at h
  split_ifs at h
  · have hrun := chunkLoop.run_rule (s := ch)
      (P := fun t => t.inputStream.readable.length ≤ ch.inputStream.readable.length)
      (Q := fun r => ∀ ch', r = .inl ch' → ch'.inputStream.state = .waitingMessageStart ∧
        ch'.inputStream.readable.length ≤ ch.inputStream.readable.length)
      le_rfl (fun _ ht hstep => (chunkIteration_next hstep).trans ht)
      (fun _ ht hstep ch' hr => by
        subst hr
        obtain ⟨hstate, hle⟩ := chunkIteration_continue hstep
        exact ⟨hstate, hle.trans ht⟩)
    exact hrun _ h
  · exact acquireBodySimple_continue h

lemma checkBody_readable (msg : M) : (checkBody parser ch msg).2.inputStream.readable = ch.inputStream.readable := by
  simp only [checkBody]
  split_ifs <;> rfl

lemma acquireMessage_on (h : acquireMessage parser ch = .on ch') :
    ch'.inputStream.readable.length < ch.inputStream.readable.length := by
  simp only [acquireMessage] at h
  split at h
  · next pos hpos =>
    have hle := add_length_le_of_strstr hpos
    simp only [crlf, length_append, length_cons, length_nil] at hle
    split at h
    · split_ifs at h with hsize
      split at h
      · next ch'' hcheck =>
        cases h
        have hreadable := congrArg (·.2.inputStream.readable) hcheck
        simp only [checkBody_readable] at hreadable
        simp only [withStream, ← hreadable, InputStream.advance, length_drop]
        omega
      · cases h
    · cases h
  · cases h

lemma acquireMessage_again (h : acquireMessage parser ch = .again ch') :
    ch'.inputStream.state = .waitingMessageStart ∧
      ch'.inputStream.readable.length < ch.inputStream.readable.length := by
  simp only [acquireMessage] at h
  split at h
  · next pos hpos =>
    have hle := add_length_le_of_strstr hpos
    simp only [crlf, length_append, length_cons, length_nil] at hle
    split at h
    · split_ifs at h with hsize
      · split at h
        · cases h
        · next ch'' hcheck =>
          cases h
          have hreadable := congrArg (·.2.inputStream.readable) hcheck
          simp only [checkBody_readable] at hreadable
          simp only [messageReady_inputStream, InputStream.reset, InputStream.rewind, ← hreadable, withStream,
            InputStream.advance, length_drop, true_and]
          omega
      · cases h
        simp only [withStream, InputStream.advance, length_drop, true_and]
        omega
    · cases h
      simp only [withStream, InputStream.advance, length_drop, true_and]
      omega
  · cases h

lemma acquireMessage_bind_next (h : (acquireMessage parser ch).bind acquireBody = .inl ch') :
    ch'.inputStream.state = .waitingMessageStart ∧
      ch'.inputStream.readable.length < ch.inputStream.readable.length := by
  cases hflow : acquireMessage parser ch with
  | on ch'' =>
    rw [hflow] at h
    obtain ⟨hstate, hle⟩ := acquireBody_continue h
    exact ⟨hstate, hle.trans_lt (acquireMessage_on hflow)⟩
  | again ch'' =>
    rw [hflow] at h
    cases h
    exact acquireMessage_again hflow
  | out ch'' =>
    rw [hflow] at h
    cases h

lemma waitMessageStart_bind_next
    (h : (waitMessageStart ch).bind (fun ch => (acquireMessage parser ch).bind acquireBody) = .inl ch') :
    ch'.inputStream.state = .waitingMessageStart ∧
      ch'.inputStream.readable.length < ch.inputStream.readable.length := by
  simp only [waitMessageStart] at h
  split at h
  · split at h
    · obtain ⟨hstate, hlt⟩ := acquireMessage_bind_next h
      simp only [withStream, InputStream.advance, length_drop] at hlt
      exact ⟨hstate, by omega⟩
    · cases h
  · cases h

variable (parser)

def parseLoop : Loop (Channel M) (Channel M) where
  step := parseIteration parser
  rank ch := 2 * ch.inputStream.readable.length + if ch.inputStream.state = .bodyAquisition then 1 else 0
  rank_lt := by
    intro ch ch' h
    simp only [parseIteration] at h
    split_ifs at h with hreadable
    split at h
    · next hs =>
      obtain ⟨hstate, hlt⟩ := waitMessageStart_bind_next h
      simp only [hstate, hs, reduceCtorEq, ↓reduceIte]
      omega
    · next hs =>
      obtain ⟨hstate, hlt⟩ := acquireMessage_bind_next h
      simp only [hstate, hs, reduceCtorEq, ↓reduceIte]
      omega
    · next hs =>
      obtain ⟨hstate, hle⟩ := acquireBody_continue h
      simp only [hstate, hs, reduceCtorEq, ↓reduceIte]
      omega
    · cases h

def parseStream (ch : Channel M) : Channel M := (parseLoop parser).run ch

/-- The bytes of a read come after those in the buffer. -/
def append (ch : Channel M) (data : Bytes) : Channel M :=
  ch.withStream fun s => { s with readable := s.readable ++ data }

def processReadData (ch : Channel M) (data : Bytes) : Channel M := parseStream parser (ch.append data)

end Channel

end BelleSip
