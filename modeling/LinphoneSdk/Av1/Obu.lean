import LinphoneSdk.Lib.Flags
import LinphoneSdk.Lib.Rounding
import LinphoneSdk.Ms2.Mblk

/-!
# AV1 units in RTP packets

A temporal unit is cut into OBUs, and an OBU that is too long into fragments, each behind an aggregation header. The
unpacker puts the fragments together until the marker.
-/

namespace Av1

open Flags Ms2 Rounding

/-! ### Parsing OBUs -/

def OBP_OBU_TEMPORAL_DELIMITER : UInt8 := 2

def isValidObu (type : UInt8) : Bool := (1 ≤ type && type ≤ 8) || type == 15

/-- `_obp_leb128`, from the byte `i` on, when `n` bytes remain at most: the value and the bytes consumed. -/
def leb128 : ℕ → ℕ → Bytes → Option (ℕ × ℕ)
  | 0, _, _ => some (0, 0)
  | _ + 1, _, [] => none
  | n + 1, i, b :: buf =>
    let value := (b &&& 0x7F).toNat <<< (i * 7)
    if flag b 7 then (leb128 n (i + 1) buf).map fun (high, consumed) => (value ||| high, consumed + 1)
    else some (value, 1)

/-- Why there is no OBU: the header is refused, or the source reads beyond the end of the message. -/
inductive ObuError where
  | refused
  | beyond
  deriving DecidableEq

/-- The type of the OBU, the offset of its payload and the size of its payload. The source compares the size with the
address of `offset`, so with nothing. -/
def obpGetNextObu (buf : Bytes) : Except ObuError (UInt8 × ℕ × ℕ) :=
  match buf.head? with
  | none => .error .refused
  | some b =>
    let type := (b &&& 0x78) >>> 3
    let pos := if flag b 2 then 2 else 1
    if !isValidObu type then .error .refused
    else if buf.length < pos then .error .beyond
    else if flag b 1 then
      match leb128 8 0 (buf.drop pos) with
      | some (value, consumed) => if value < 0xFFFFFFFF then .ok (type, pos + consumed, value) else .error .refused
      | none => .error .refused
    else .ok (type, pos, buf.length - pos)

def parseNextObu (buf : Bytes) : Except ObuError (UInt8 × ℕ) :=
  (obpGetNextObu buf).map fun (type, offset, size) => (type, size + offset)

/-- The OBUs of a message but the temporal delimiters. The last of them may be longer than what is left of the
message. -/
def parseObus : ℕ → Bytes → Except ObuError (List Bytes)
  | _, [] => .ok []
  | 0, _ :: _ => .error .refused
  | fuel + 1, b :: buf => do
    let (type, size) ← parseNextObu (b :: buf)
    let obus ← parseObus fuel ((b :: buf).drop size)
    if type = OBP_OBU_TEMPORAL_DELIMITER then return obus
    else if buf.length + 1 < size then throw .beyond
    else return (b :: buf).take size :: obus

/-! ### Packing -/

/-- The conversion of a number to `int`, which is undefined out of its range. -/
def toInt (n : ℤ) : Option ℤ := if -2 ^ 31 ≤ n ∧ n < 2 ^ 31 then some n else none

/-- The size of the packets and their number, or `none` when a division or a conversion is
undefined. -/
def msVideoPayloadSizes (bitstreamSize maxPayloadSize : ℕ) (equalSizeEnabled : Bool) : Option (ℕ × ℤ) := do
  if bitstreamSize + 1 < maxPayloadSize then some (bitstreamSize + 1, 1)
  else if maxPayloadSize ≤ 1 then none
  else
    let packetsNumber ← toInt (divCeil bitstreamSize (maxPayloadSize - 1))
    if equalSizeEnabled then
      let payloadSize ← toInt (divCeil bitstreamSize packetsNumber.toNat)
      let payloadSize ← toInt (payloadSize + 1)
      return (payloadSize.toNat, packetsNumber)
    else return (maxPayloadSize, packetsNumber)

structure ObuPacker where
  maxPayloadSize : ℕ
  equalSizeEnabled : Bool := false
  seq : UInt16 := 0

/-- The octet in front of each packet. -/
def aggregationHeader (Z Y N : Bool) : UInt8 := bit Z 7 ||| bit Y 6 ||| bit true 4 ||| bit N 3

def makePacket (buf : Bytes) (Z Y N marker : Bool) (ts : UInt32) (source : Mblk) (seq : UInt16) : Mblk where
  timestamp_info := ts
  marker_info := marker
  cseq := seq
  independent_flag := source.independent_flag
  discardable_flag := source.discardable_flag
  bytes := aggregationHeader Z Y N :: buf

def makeFragments (maxPacketSize : ℕ) (N marker : Bool) (ts : UInt32) (source : Mblk) :
    ℕ → Bool → Bytes → UInt16 → List Mblk
  | 0, _, _, _ => []
  | n + 1, firstPacket, remaining, seq =>
    let minSize := min (remaining.length + 1) maxPacketSize
    makePacket (remaining.take (minSize - 1)) (!firstPacket) (remaining.length + 1 > maxPacketSize)
        (firstPacket && N) (marker && n == 0) ts source seq ::
      makeFragments maxPacketSize N marker ts source n false (remaining.drop (minSize - 1)) (seq + 1)

def sendObu (packer : ObuPacker) (obu : Bytes) (N marker : Bool) (ts : UInt32) (source : Mblk) :
    Option (List Mblk) := do
  let (maxPacketSize, packetsNumber) ← msVideoPayloadSizes obu.length packer.maxPayloadSize packer.equalSizeEnabled
  if obu.length + 1 < packer.maxPayloadSize then
    return [makePacket obu false false N marker ts source packer.seq]
  else return makeFragments maxPacketSize N marker ts source packetsNumber.toNat true obu packer.seq

/-- `sendObus`, of the OBUs that remain. -/
def sendObus (packer : ObuPacker) (N : Bool) (ts : UInt32) (source : Mblk) :
    List Bytes → Option (List Mblk × ObuPacker)
  | [] => some ([], packer)
  | obu :: obus => do
    let ms ← sendObu packer obu N obus.isEmpty ts source
    let (rest, packer) ← sendObus { packer with seq := packer.seq + .ofNat ms.length } false ts source obus
    return (ms ++ rest, packer)

/-- The packets of one message of the queue. Nothing is sent when an OBU is refused. There is no result where bytes
beyond the end of the message would be sent. -/
def packMessage (packer : ObuPacker) (m : Mblk) (ts : UInt32) : Option (List Mblk × ObuPacker) :=
  match parseObus m.bytes.length m.bytes with
  | .ok obus => sendObus packer true ts m obus
  | .error .refused => some ([], packer)
  | .error .beyond => none

def packMessages (packer : ObuPacker) : List (Mblk × UInt32) → Option (List (List Mblk) × ObuPacker)
  | [] => some ([], packer)
  | (m, ts) :: messages => do
    let (ms, packer) ← packMessage packer m ts
    let (rest, packer) ← packMessages packer messages
    return (ms :: rest, packer)

/-- The packets that are put in the queue, message after message. -/
def pack (packer : ObuPacker) (input : List Mblk) (ts : UInt32) : Option (List (List Mblk) × ObuPacker) :=
  packMessages packer (input.map fun m => (m, ts))

/-! ### Unpacking -/

inductive Status where
  | noFrame
  | frameAvailable
  | frameCorrupted
  deriving DecidableEq, Repr

structure ObuUnpacker where
  frame : Option Mblk := none
  initializedRefCSeq : Bool := false
  refCSeq : UInt16 := 0

/-- The bit `N` of a packet. -/
def isFirst (packet : Mblk) : Bool := flag (packet.bytes.getD 0 0) 3

def completeAggregation (marker : Bool) (frame : Mblk) : Option Mblk × Option Mblk :=
  if marker then (some frame, none) else (none, some frame)

def feed (frame : Option Mblk) (packet : Mblk) : Option Mblk × Option Mblk :=
  let content := { packet with bytes := packet.bytes.tail }
  match frame with
  | some frame =>
    if isFirst packet then completeAggregation packet.marker_info content
    else completeAggregation packet.marker_info { frame with bytes := frame.bytes ++ content.bytes }
  | none =>
    if isFirst packet then completeAggregation packet.marker_info content
    else (none, none)

def unpack (unpacker : ObuUnpacker) (im : Mblk) : Status × Option Mblk × ObuUnpacker :=
  let inconsistent := unpacker.initializedRefCSeq && unpacker.refCSeq + 1 != im.cseq
  let (om, frame) := feed unpacker.frame im
  let ret := if om.isSome then .frameAvailable else if inconsistent then .frameCorrupted else .noFrame
  (ret, om, { frame, initializedRefCSeq := true, refCSeq := im.cseq })

/-- What comes out for each of the packets. -/
def unpackAll (unpacker : ObuUnpacker) : List Mblk → List (Status × Option Mblk)
  | [] => []
  | im :: ims =>
    let (ret, om, unpacker) := unpack unpacker im
    (ret, om) :: unpackAll unpacker ims

end Av1
