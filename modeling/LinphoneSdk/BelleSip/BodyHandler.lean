import LinphoneSdk.Lib.CString

/-!
# Multipart body handlers

The body handlers of memory buffers, and the multipart handler that composes them when it sends and splits them again
when it receives. Sizes are `size_t`: their subtractions wrap around.
-/

namespace BelleSip

open CString

/-! ### Parts and boundaries -/

/-- How a header is written, and read again. -/
structure HeaderCodec (H : Type) where
  marshal : H → Bytes
  parse : Bytes → Option H
  parse_marshal : ∀ h, parse (marshal h) = some h
  marshal_ne_nil : ∀ h, marshal h ≠ []
  marshal_line : ∀ h, ∀ c ∈ marshal h, c ≠ 0 ∧ c ≠ 13 ∧ c ≠ 10

/-- The boundary of a multipart body: a token or a quoted string. -/
structure Boundary where
  text : Bytes
  text_line : ∀ c ∈ text, c ≠ 0 ∧ c ≠ 13 ∧ c ≠ 10

def Boundary.dashBoundary (b : Boundary) : Bytes := bytes ['-', '-'] ++ b.text

/-- What the handler of a part is made from. -/
structure Part (H : Type) where
  headers : List H
  buffer : Bytes
  deriving DecidableEq

structure PartHandler (H : Type) extends Part H where
  transferedSize : ℕ

/-- The `headerStringBuffer` that `add_part` writes: nothing without headers. -/
def headerString {H : Type} (codec : HeaderCodec H) (headers : List H) : Bytes :=
  if headers = [] then [] else headers.flatMap (fun h => codec.marshal h ++ crlf) ++ crlf

/-! ### Sending a chunk -/

inductive Status where
  | belleSipContinue
  | belleSipStop
  | belleSipBufferOverflow
  deriving DecidableEq

/-- The outcome of a call that sends a chunk: the bytes that are in front of the buffer, the size that is reported,
and where the last byte ends that was written to the buffer. -/
structure SentChunk where
  ret : Status
  bytes : Bytes
  size : ℕ
  reach : ℕ

/-- The difference of two values of type `size_t`. -/
def sizeSub (a b : ℕ) : ℕ := (a + 2 ^ 64 - b) % 2 ^ 64

structure BodyHandler where
  expectedSize : ℕ
  transferedSize : ℕ

/-- `belle_sip_body_handler_send_chunk`, with the `chunk_send` method of the handler. -/
def BodyHandler.sendChunk {S : Type} (base : BodyHandler) (obj : S) (chunkSend : ℕ → S × SentChunk) (size : ℕ) :
    BodyHandler × S × SentChunk :=
  let toSend := if base.expectedSize ≠ 0 then min size (sizeSub base.expectedSize base.transferedSize) else size
  if toSend = 0 ∧ base.transferedSize = base.expectedSize then (base, obj, ⟨.belleSipStop, [], 0, 0⟩)
  else
    let (obj, chunk) := chunkSend toSend
    let base := { base with transferedSize := base.transferedSize + chunk.size }
    let ret :=
      if base.expectedSize ≠ 0 ∧ base.transferedSize = base.expectedSize then .belleSipStop else chunk.ret
    (base, obj, { chunk with ret })

def memorySendChunk (buffer : Bytes) (offset size : ℕ) : SentChunk :=
  let toSend := min size (sizeSub buffer.length offset)
  let bytes := (buffer.drop offset).take toSend
  ⟨if sizeSub buffer.length offset = toSend then .belleSipStop else .belleSipContinue, bytes, toSend, toSend⟩

variable {H : Type}

def PartHandler.sendChunk (part : PartHandler H) (size : ℕ) : PartHandler H × SentChunk :=
  let base : BodyHandler := ⟨part.buffer.length, part.transferedSize⟩
  let chunkSend (size : ℕ) := ((), memorySendChunk part.buffer base.transferedSize size)
  let (base, _, chunk) := base.sendChunk () chunkSend size
  ({ part with transferedSize := base.transferedSize }, chunk)

/-! ### The multipart handler -/

structure MultipartBodyHandler (H : Type) where
  base : BodyHandler
  boundary : Boundary
  parts : List (PartHandler H)
  /-- The index of the part that is being sent. -/
  transferCurrentPart : ℕ
  /-- What is received, with the 0 behind it. -/
  buffer : Bytes

namespace MultipartBodyHandler

/-- `belle_sip_multipart_body_handler_new`, without a first part. -/
def new (boundary : Boundary) : MultipartBodyHandler H :=
  ⟨⟨boundary.text.length + 8, 0⟩, boundary, [], 0, []⟩

def addPart (codec : HeaderCodec H) (m : MultipartBodyHandler H) (part : Part H) : MultipartBodyHandler H :=
  let delimiter := (if m.parts = [] then 0 else 2) + (part.buffer.length + m.boundary.text.length + 4)
  let expectedSize := m.base.expectedSize + delimiter + (headerString codec part.headers).length
  { m with
    base := { m.base with expectedSize }
    parts := m.parts ++ [⟨part, 0⟩] }

/-- The delimiter in front of a part. -/
def separator (boundary : Boundary) (isFirst : Bool) : Bytes :=
  (if isFirst then [] else crlf) ++ boundary.dashBoundary ++ crlf

/-- The end of the body. -/
def closing (boundary : Boundary) : Bytes := crlf ++ boundary.dashBoundary ++ bytes ['-', '-'] ++ crlf

/-- The current part gets `size` bytes behind `preamble`; what was written before reaches `reach`. -/
def sendPart (m : MultipartBodyHandler H) (part : PartHandler H) (preamble : Bytes) (reach size : ℕ) :
    MultipartBodyHandler H × SentChunk :=
  let (part, chunk) := part.sendChunk size
  let m := { m with parts := m.parts.set m.transferCurrentPart part }
  let bytes := preamble ++ chunk.bytes
  let size := chunk.size + preamble.length
  let reach := max reach (preamble.length + chunk.reach)
  if chunk.ret = .belleSipContinue then (m, ⟨.belleSipContinue, bytes, size, reach⟩)
  else if m.transferCurrentPart + 1 < m.parts.length then
    ({ m with transferCurrentPart := m.transferCurrentPart + 1 }, ⟨.belleSipContinue, bytes, size, reach⟩)
  else
    let size := size + (m.boundary.text.length + 8)
    (m, ⟨.belleSipStop, bytes ++ closing m.boundary, size, max reach size⟩)

/-- `belle_sip_multipart_body_handler_send_chunk`. The room for the end of the body is taken off the size first. -/
def chunkSend (codec : HeaderCodec H) (m : MultipartBodyHandler H) (size : ℕ) : MultipartBodyHandler H × SentChunk :=
  match m.parts[m.transferCurrentPart]? with
  | none => (m, ⟨.belleSipStop, [], size, 0⟩)
  | some part =>
    let size := sizeSub size (m.boundary.text.length + 8)
    if part.transferedSize = 0 then
      let separator := separator m.boundary (m.transferCurrentPart = 0)
      let headers := headerString codec part.headers
      if size < headers.length + separator.length + 1 then (m, ⟨.belleSipBufferOverflow, [], size, 0⟩)
      else
        -- `snprintf` writes a 0 behind the separator
        let reach := max (min size (separator.length + 1)) (separator.length + headers.length)
        m.sendPart part (separator ++ headers) reach (sizeSub size (separator.length + headers.length))
    else m.sendPart part [] 0 size

def sendChunk (codec : HeaderCodec H) (m : MultipartBodyHandler H) (size : ℕ) : MultipartBodyHandler H × SentChunk :=
  let (base, m, chunk) := m.base.sendChunk m (m.chunkSend codec) size
  ({ m with base }, chunk)

structure Call (H : Type) where
  handler : MultipartBodyHandler H
  size : UInt64
  chunk : SentChunk

def sendChunks (codec : HeaderCodec H) (m : MultipartBodyHandler H) : List UInt64 → List (Call H)
  | [] => []
  | size :: sizes =>
    ⟨m, size, (m.sendChunk codec size.toNat).2⟩ :: sendChunks codec (m.sendChunk codec size.toNat).1 sizes

/-- What the calls put into the buffers. -/
def output (calls : List (Call H)) : Bytes := calls.flatMap fun call => call.chunk.bytes

def compose (codec : HeaderCodec H) (boundary : Boundary) (parts : List (Part H)) : MultipartBodyHandler H :=
  parts.foldl (addPart codec) (new boundary)

/-! ### Receiving -/

def recvChunk (m : MultipartBodyHandler H) (chunk : Bytes) : MultipartBodyHandler H :=
  { m with
    base := { m.base with transferedSize := m.base.transferedSize + chunk.length }
    buffer := m.buffer.take m.base.transferedSize ++ chunk ++ [0] }

def startsWith (text buffer : Bytes) (cursor : ℕ) : Bool := text.isPrefixOf (buffer.drop cursor)

/-- The headers up to the blank line at `endHeaders`: each line is ended by a 0. -/
def parseHeaders (codec : HeaderCodec H) (endHeaders : ℕ) : ℕ → Bytes → ℕ → List H × Bytes
  | 0, buffer, _ => ([], buffer)
  | fuel + 1, buffer, cursor =>
    match strstr crlf (buffer.drop cursor) with
    | none => ([], buffer)
    | some n =>
      let endHeader := cursor + n
      let buffer := buffer.set endHeader 0
      let header := (codec.parse (cString (buffer.drop cursor))).toList
      if endHeader = endHeaders then (header, buffer)
      else
        let (headers, buffer) := parseHeaders codec endHeaders fuel buffer (endHeader + 2)
        (header ++ headers, buffer)

/-- The part at `cursor`, up to the 0 behind it: it has headers if there is a blank line. -/
def parsePart (codec : HeaderCodec H) (buffer : Bytes) (cursor : ℕ) : Part H × Bytes :=
  match strstr (crlf ++ crlf) (buffer.drop cursor) with
  | none => (⟨[], cString (buffer.drop cursor)⟩, buffer)
  | some n =>
    let body := cString (buffer.drop (cursor + n + 4))
    let (headers, buffer) := parseHeaders codec (cursor + n) buffer.length buffer cursor
    (⟨headers, body⟩, buffer)

def parseParts (codec : HeaderCodec H) (dashBoundary : Bytes) : ℕ → Bytes → ℕ → List (Part H)
  | 0, _, _ => []
  | fuel + 1, buffer, cursor =>
    if startsWith crlf buffer cursor then
      let cursor := cursor + 2
      match strstr dashBoundary (buffer.drop cursor) with
      | none => []
      | some n =>
        let isCrlf := buffer[cursor + n - 1]? = some 10 ∧ buffer[cursor + n - 2]? = some 13
        let endPart := if isCrlf then cursor + n - 2 else cursor + n
        let (part, buffer) := parsePart codec (buffer.set endPart 0) cursor
        let cursor := endPart + dashBoundary.length + if isCrlf then 2 else 0
        part :: if startsWith (bytes ['-', '-'] ++ crlf) buffer cursor then []
          else parseParts codec dashBoundary fuel buffer cursor
    else []

def parseFinal (codec : HeaderCodec H) (m : MultipartBodyHandler H) : List (Part H) :=
  let cursor := if startsWith crlf m.buffer 0 then 2 else 0
  if startsWith m.boundary.dashBoundary m.buffer cursor then
    parseParts codec m.boundary.dashBoundary m.buffer.length m.buffer (cursor + m.boundary.dashBoundary.length)
  else []

/-- A handler without parts receives the chunks; the parts that it has when the transfer ends. -/
def receive (codec : HeaderCodec H) (boundary : Boundary) (chunks : List Bytes) : List (Part H) :=
  parseFinal codec (chunks.foldl recvChunk (new boundary))

end MultipartBodyHandler

end BelleSip
