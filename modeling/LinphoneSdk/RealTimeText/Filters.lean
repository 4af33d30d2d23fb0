import LinphoneSdk.Lib.Bytes
import LinphoneSdk.Ms2.Mblk
import Mathlib.Algebra.GroupWithZero.Nat

/-!
# The source and the sink of real-time text

The source collects the typed characters in a buffer. A packet carries this buffer and, with RED, the buffers of the two
packets before it. The sink reads the redundant buffers of the packets that are missing.
-/

namespace RealTimeText

open Bytes Ms2

def TS_OUTBUF_SIZE : ℕ := 1024

def TS_REDGEN : ℕ := 2

def TS_SEND_INTERVAL : UInt32 := 299

/-- `TS_OUTBUF_SIZE * TS_NUMBER_OF_OUTBUF`, where the second macro is `TS_REDGEN + 1` without parentheses. -/
def TS_INBUF_SIZE : ℕ := TS_OUTBUF_SIZE * TS_REDGEN + 1

/-- The size of the array in which a packet is written. -/
def payloadCapacity : ℕ := TS_OUTBUF_SIZE * TS_REDGEN + 1 + 4 * TS_REDGEN + 1

/-! ### The source -/

/-- The source has buffers, which are numbered from 0. -/
scoped instance instNeZeroBuffers : NeZero 3 := ⟨Nat.succ_ne_zero 2⟩

structure RealTimeTextSourceData where
  /-- The bytes of each buffer, up to its `bufsize`. -/
  buf : Fin 3 → Bytes := fun _ => []
  pribuf : Fin 3 := 0
  timestamp : Fin 3 → UInt32 := fun _ => 0
  pt_t140 : ℤ
  pt_red : ℤ
  keepalive_interval : UInt32

namespace RealTimeTextSourceData

/-- The index after `cur`, which wraps after `TS_REDGEN`. -/
def nextIndex (cur : Fin 3) : Fin 3 := if cur = 2 then 0 else cur + 1

variable (stream : RealTimeTextSourceData)

def get_prev_time : UInt32 :=
  stream.timestamp (if stream.pribuf = 0 then 2 else stream.pribuf - 1)

def get_last_buf : Fin 3 := nextIndex stream.pribuf

def use_next_buf : RealTimeTextSourceData :=
  { stream with
    pribuf := stream.get_last_buf
    buf := Function.update stream.buf stream.get_last_buf []
    timestamp := Function.update stream.timestamp stream.get_last_buf 0 }

/-- The buffers from the last one up to the primary one, which is left out. -/
def redBufs : List (Fin 3) := [stream.get_last_buf, nextIndex stream.get_last_buf]

def primary : Bytes := stream.buf stream.pribuf

end RealTimeTextSourceData

open RealTimeTextSourceData

def get_red_subheader (pt : UInt8) (offset : UInt32) (length : ℕ) : UInt32 :=
  ((1 : UInt32) <<< 31) ||| ((0x7F &&& pt.toUInt32) <<< 24) ||| ((0x3FFF &&& offset) <<< 10) |||
    (0x3FF &&& UInt32.ofNat length)

variable (stream : RealTimeTextSourceData)

/-- The payload type of the text, in 7 bits. -/
def RealTimeTextSourceData.t140 : UInt8 := .ofNat (stream.pt_t140 % 128).toNat

def RealTimeTextSourceData.subheaders : Bytes :=
  stream.redBufs.flatMap fun cur =>
    be32 (get_red_subheader stream.t140 (stream.timestamp stream.pribuf - stream.timestamp cur) (stream.buf cur).length)

def RealTimeTextSourceData.payload : Bytes :=
  if 0 < stream.pt_red then
    stream.subheaders ++ stream.t140 :: (stream.redBufs.flatMap stream.buf ++ stream.primary)
  else stream.primary

def realtime_text_stream_generate_red_packet : Option Mblk :=
  let mark := 0 < stream.pt_red → stream.redBufs.all fun cur => (stream.buf cur).isEmpty
  if stream.payload.length ≤ payloadCapacity then some { bytes := stream.payload, marker_info := mark } else none

def utf8Byte (base mask bits : UInt32) : UInt8 := (base + (bits &&& mask)).toUInt8

def continuationByte (bits : UInt32) : UInt8 := utf8Byte 0x80 0x3F bits

/-- The bytes of a character. -/
def utf8 (ic : UInt32) : Bytes :=
  if ic < 0x80 then [ic.toUInt8]
  else if ic < 0x800 then [utf8Byte 0xC0 0x1F (ic >>> 6), continuationByte ic]
  else if ic < 0x10000 then [utf8Byte 0xE0 0xF (ic >>> 12), continuationByte (ic >>> 6), continuationByte ic]
  else if ic < 0x110000 then
    [utf8Byte 0xF0 0x7 (ic >>> 18), continuationByte (ic >>> 12), continuationByte (ic >>> 6), continuationByte ic]
  else []

/-- A character that does not fit is dropped. -/
def ms_rtt_4103_source_putchar32 (ic : UInt32) : RealTimeTextSourceData :=
  if stream.primary.length + (utf8 ic).length ≤ TS_OUTBUF_SIZE then
    { stream with buf := Function.update stream.buf stream.pribuf (stream.primary ++ utf8 ic) }
  else stream

def is_data_to_send : Bool :=
  if 0 < stream.pt_red then [0, 1, 2].any fun i => !(stream.buf i).isEmpty else !stream.primary.isEmpty

def isDue (timestamp interval : UInt32) : Bool :=
  timestamp < stream.get_prev_time || timestamp - stream.get_prev_time > interval

def sendIfDue (timestamp : UInt32) : Option (Option Mblk × RealTimeTextSourceData) :=
  if isDue stream timestamp TS_SEND_INTERVAL then do
    let stream := { stream with timestamp := Function.update stream.timestamp stream.pribuf timestamp }
    let m ← realtime_text_stream_generate_red_packet stream
    return (some { m with timestamp_info := timestamp }, stream.use_next_buf)
  else some (none, stream)

def send_data (timestamp : UInt32) : Option (Option Mblk × RealTimeTextSourceData) :=
  if is_data_to_send stream then sendIfDue stream timestamp
  else if isDue stream timestamp stream.keepalive_interval then
    -- the BOM is data to send
    sendIfDue (ms_rtt_4103_source_putchar32 stream 0xFEFF) timestamp
  else some (none, stream)

/-! ### The sink -/

structure RealTimeTextSinkData where
  /-- `TS_FLAG_NOTFIRST`. -/
  notFirst : Bool := false
  prevseqno : ℤ := 0
  /-- The bytes from `inbufpos` up to `inbufsize`. -/
  inbuf : Bytes := []
  pt_t140 : ℤ
  pt_red : ℤ

/-- How many bytes make up one character. -/
def utf8_test (c : UInt8) : ℤ :=
  if c &&& 0x80 = 0 then 1
  else if c &&& 0x40 = 0 then 0
  else if c &&& 0x20 = 0 then 2
  else if c &&& 0x10 = 0 then 3
  else if c &&& 0x08 = 0 then 4
  else -1

/-- The loop of `is_utf8_buf_ok`: `t` bytes of the character are still to come. -/
def isUtf8From (t : ℤ) : Bytes → Bool
  | [] => t = 0
  | b :: rest =>
    if t = 0 then 0 < utf8_test b && isUtf8From (utf8_test b - 1) rest
    else utf8_test b = 0 && isUtf8From (t - 1) rest

def is_utf8_buf_ok (b : Bytes) : Bool := isUtf8From 0 b

def red_needed (cur prev : ℤ) : ℤ :=
  let t := cur - prev
  if 0 < t then t - 1
  else if t < -100 then t + 0xFFFF
  else -1

def lostChar : Bytes := [0xEF, 0xBF, 0xBD]

def read_t140_data (stream : RealTimeTextSinkData) (payload : Bytes) (readstart : ℕ) : Bool × RealTimeTextSinkData :=
  if payload.length < readstart then (false, stream)
  else
    -- reading less characters than in buffer
    let data := (payload.drop readstart).take (TS_INBUF_SIZE - stream.inbuf.length)
    if is_utf8_buf_ok data then (true, { stream with inbuf := stream.inbuf ++ data })
    else (false, { stream with inbuf := [] })

variable (stream : RealTimeTextSinkData) (packet : Mblk)

/-- The sequence number is kept if the data could be read. -/
def readPacket (readstart : ℕ) : RealTimeTextSinkData :=
  match read_t140_data stream packet.bytes readstart with
  | (true, stream) => { stream with prevseqno := packet.cseq.toNat }
  | (false, stream) => stream

def process_t140_packet : RealTimeTextSinkData :=
  let t := if stream.notFirst then red_needed packet.cseq.toNat stream.prevseqno else 0
  if t < 0 then stream
  else readPacket (if 0 < t then { stream with inbuf := lostChar } else stream) packet 0

/-- The number of redundant generations, and what begins with the primary payload type; `none` if another payload type
is redundant. -/
def redGenerations (pt_t140 : ℤ) : Bytes → Option (ℕ × Bytes)
  | b :: rest =>
    if b &&& 0x80 ≠ 0 then
      if ((b &&& 0x7F).toNat : ℤ) ≠ pt_t140 then none
      else (redGenerations pt_t140 (rest.drop 3)).map fun (redgen, rest) => (redgen + 1, rest)
    else some (0, b :: rest)
  | [] => some (0, [])
  termination_by payload => payload.length
  decreasing_by exact Nat.lt_succ_of_le (List.drop_sublist 3 rest).length_le

def blockLength (payload : Bytes) (i : ℕ) : ℕ := (be16At payload (4 * i + 2) &&& 0x3FF).toNat

/-- `none` if a byte behind the packet is read. -/
def process_red_packet : Option RealTimeTextSinkData :=
  match redGenerations stream.pt_t140 packet.bytes with
  | none => some stream
  | some (_, []) => none
  | some (redgen, pt :: _) =>
    if (pt.toNat : ℤ) ≠ stream.pt_t140 then some stream
    else
      let redneeded := if stream.notFirst then red_needed packet.cseq.toNat stream.prevseqno else 0
      if redneeded < 0 then some stream
      else
        -- we need more red than we got
        let stream := if redgen < redneeded then { stream with inbuf := lostChar } else stream
        let redneeded := min redneeded.toNat redgen
        let unneeded := ((List.range (redgen - redneeded)).map (blockLength packet.bytes)).sum
        some (readPacket stream packet (redgen * 4 + 1 + unneeded))

def read_text_packet : Option RealTimeTextSinkData := do
  let stream := { stream with inbuf := [] }
  let stream ← if 0 < stream.pt_red then process_red_packet stream packet else some (process_t140_packet stream packet)
  return { stream with notFirst := true }

/-! ### The characters that are read from the buffer of the sink -/

/-- The zeros and the BOMs are passed over. -/
def skip : Bytes → Bytes
  | a :: b :: c :: p =>
    if a = 0 then skip (b :: c :: p)
    else if a = 0xEF ∧ b = 0xBB ∧ c = 0xBF then skip p
    else a :: b :: c :: p
  | a :: p => if a = 0 then skip p else a :: p
  | [] => []

/-- The next byte, and the bytes from the new position on. -/
def text_stream_getchar (p : Bytes) : UInt8 × Bytes :=
  match skip p with
  | [] => (0, p)
  | c :: p => (c, p)

/-- The next character, and the bytes from the new position on. -/
def text_stream_getchar32 (p : Bytes) : UInt32 × Bytes :=
  let (c, p) := text_stream_getchar p
  if utf8_test c = 1 then (c.toUInt32, p)
  else if utf8_test c = 2 then
    let (c1, p) := text_stream_getchar p
    (((c.toUInt32 &&& 0x1F) <<< 6) + (c1.toUInt32 &&& 0x3F), p)
  else if utf8_test c = 3 then
    let (c1, p) := text_stream_getchar p
    let (c2, p) := text_stream_getchar p
    (((c.toUInt32 &&& 0x0F) <<< 12) + ((c1.toUInt32 &&& 0x3F) <<< 6) + (c2.toUInt32 &&& 0x3F), p)
  else if utf8_test c = 4 then
    let (c1, p) := text_stream_getchar p
    let (c2, p) := text_stream_getchar p
    let (c3, p) := text_stream_getchar p
    (((c.toUInt32 &&& 0x7) <<< 19) + ((c1.toUInt32 &&& 0x3F) <<< 12) + ((c2.toUInt32 &&& 0x3F) <<< 6) +
      (c3.toUInt32 &&& 0x3F), p)
  else (0, p)

lemma length_skip_le (p : Bytes) : (skip p).length ≤ p.length := by
  fun_induction skip p <;> grind

lemma length_getchar_le (p : Bytes) : (text_stream_getchar p).2.length ≤ p.length := by
  have hle := length_skip_le p
  rw [text_stream_getchar]
  split
  · exact le_rfl
  · rename_i hskip
    rw [hskip, List.length_cons] at hle
    exact Nat.le_of_succ_le hle

lemma length_getchar_lt {p : Bytes} (h : (text_stream_getchar p).1 ≠ 0) :
    (text_stream_getchar p).2.length < p.length := by
  have hle := length_skip_le p
  rw [text_stream_getchar] at h ⊢
  split at h
  · exact absurd rfl h
  · rename_i hskip
    rw [hskip, List.length_cons] at hle
    exact hle

/-- A character takes at least a byte. -/
lemma length_getchar32_lt {p : Bytes} (h : (text_stream_getchar32 p).1 ≠ 0) :
    (text_stream_getchar32 p).2.length < p.length := by
  have hne : (text_stream_getchar p).1 ≠ 0 := by
    intro hzero
    simp [text_stream_getchar32, hzero, utf8_test] at h
  have hlt := length_getchar_lt hne
  have hle {q : Bytes} (hq : q.length < p.length) : (text_stream_getchar q).2.length < p.length :=
    (length_getchar_le q).trans_lt hq
  simp only [text_stream_getchar32]
  split_ifs
  · exact hlt
  · exact hle hlt
  · exact hle (hle hlt)
  · exact hle (hle (hle hlt))
  · exact hlt

/-- The characters that the loop of the sink notifies. -/
def textChars (p : Bytes) : List UInt32 :=
  let character := text_stream_getchar32 p
  if _ : character.1 ≠ 0 then character.1 :: textChars character.2 else []
  termination_by p.length
  decreasing_by exact length_getchar32_lt ‹_›

def ms_rtt_4103_sink_process : Option (List UInt32 × RealTimeTextSinkData) := do
  let stream ← read_text_packet stream packet
  return (textChars stream.inbuf, { stream with inbuf := [] })

end RealTimeText
