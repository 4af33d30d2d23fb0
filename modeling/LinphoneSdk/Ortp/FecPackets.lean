import LinphoneSdk.Lib.Parity
import LinphoneSdk.Ortp.RtpSession
import Mathlib.Data.List.GetD
import Mathlib.Data.UInt

/-!
# FEC packets

The source packets that flexible FEC protects, and the repair packets that protect them. A repair packet has
the sum of the source packets of a row or of a column of a block: their headers in its bitstring, their
payloads in its own.
-/

namespace Ortp

open Bytes List

/-! ### Bitstrings -/

/-- The part of the header of a packet that is recovered. -/
structure Bitstring where
  /-- The version, the flags and the number of contributing sources. -/
  h0 : UInt8
  /-- The marker and the payload type. -/
  h1 : UInt8
  timestamp : UInt32
  length : UInt16
deriving DecidableEq

namespace Bitstring

def zero : Bitstring := ⟨0, 0, 0, 0⟩

def ofPacket (packet : Packet) : Bitstring where
  h0 := packet.getD 0 0
  h1 := packet.getD 1 0
  timestamp := rtpGetTimestamp packet
  length := (packet.length - RTP_FIXED_HEADER_SIZE).toUInt16

def add (bs other : Bitstring) : Bitstring where
  h0 := bs.h0 ^^^ other.h0
  h1 := bs.h1 ^^^ other.h1
  timestamp := bs.timestamp ^^^ other.timestamp
  length := bs.length ^^^ other.length

instance : XorOp Bitstring := ⟨add⟩

instance : Zero Bitstring := ⟨zero⟩

instance : LawfulXor Bitstring where
  xor_assoc _ _ _ := mk.injEq .. |>.mpr
    ⟨UInt8.xor_assoc .., UInt8.xor_assoc .., UInt32.xor_assoc .., UInt16.xor_assoc ..⟩
  xor_self _ := mk.injEq .. |>.mpr ⟨UInt8.xor_self, UInt8.xor_self, UInt32.xor_self, UInt16.xor_self⟩
  xor_zero _ := mk.injEq .. |>.mpr ⟨UInt8.xor_zero, UInt8.xor_zero, UInt32.xor_zero, UInt16.xor_zero⟩
  xor_comm _ _ := mk.injEq .. |>.mpr
    ⟨UInt8.xor_comm .., UInt8.xor_comm .., UInt32.xor_comm .., UInt16.xor_comm ..⟩

/-- The header that a bitstring gives to a packet, whose version is 2. -/
def write (bs : Bitstring) (seqnum : UInt16) (ssrc : UInt32) : Bytes :=
  [(2 : UInt8) <<< 6 ||| (bs.h0 &&& 0x3F), bs.h1] ++ be16 seqnum ++ be32 bs.timestamp ++ be32 ssrc

end Bitstring

/-- The bytes of `toAdd` are added to those of a buffer, as far as both go. -/
def addPayload (buffer toAdd : Bytes) : Bytes :=
  zipWith (· ^^^ ·) buffer toAdd ++ buffer.drop toAdd.length

lemma length_addPayload (buffer toAdd : Bytes) : (addPayload buffer toAdd).length = buffer.length := by
  rw [addPayload, length_append, length_zipWith, length_drop]
  omega

lemma getD_addPayload {buffer : Bytes} {i : ℕ} (hi : i < buffer.length) (toAdd : Bytes) :
    (addPayload buffer toAdd).getD i 0 = buffer.getD i 0 ^^^ toAdd.getD i 0 := by
  by_cases hadd : i < toAdd.length
  · simp [addPayload, getD_eq_getElem?_getD, getElem?_append, hi, hadd]
  · have hle : toAdd.length ≤ i := not_lt.mp hadd
    have hsource : toAdd.length + (i - min buffer.length toAdd.length) = i := by omega
    simp [addPayload, getD_eq_getElem?_getD, getElem?_append, hi, hadd, hsource]

/-! ### Source packets -/

structure FecSourcePacket where
  mPacket : Packet
  mBitstring : Bitstring
deriving DecidableEq

def FecSourcePacket.ofPacket (incoming : Packet) : FecSourcePacket := ⟨incoming, .ofPacket incoming⟩

def FecSourcePacket.seqnum (packet : FecSourcePacket) : UInt16 := rtpGetSeqnumber packet.mPacket

def FecSourcePacket.payload (packet : FecSourcePacket) : Bytes :=
  packet.mPacket.drop RTP_FIXED_HEADER_SIZE

/-! ### Repair packets -/

structure FecRepairPacket where
  seqnum : UInt16
  timestamp : UInt32
  /-- The contributing source, whose packets are protected. -/
  protectedSsrc : UInt32
  bitstring : Bitstring
  mSeqnumBase : UInt16
  mL : UInt8
  mD : UInt8
  payload : Bytes
deriving DecidableEq

namespace FecRepairPacket

variable (packet : FecRepairPacket)

def addBitstring (bitstring : Bitstring) : FecRepairPacket :=
  { packet with bitstring := packet.bitstring.add bitstring }

def addPayload (sourcePacket : FecSourcePacket) : FecRepairPacket :=
  let diff := sourcePacket.payload.length - packet.payload.length
  { packet with payload := Ortp.addPayload (packet.payload ++ replicate diff 0) sourcePacket.payload }

def add (sourcePacket : FecSourcePacket) : FecRepairPacket :=
  (packet.addBitstring sourcePacket.mBitstring).addPayload sourcePacket

/-- The sequence number and the timestamp are those of the header that the session gives. -/
def new (protectedSsrc : UInt32) (seqnumBase : UInt16) (L D : UInt8) : FecRepairPacket :=
  ⟨0, 0, protectedSsrc, .zero, seqnumBase, L, D, []⟩

def reset (seqnumBase : UInt16) : FecRepairPacket :=
  { packet with mSeqnumBase := seqnumBase, bitstring := .zero, payload := [] }

def sequenceNumbersFrom (step : UInt16) : UInt16 → ℕ → List UInt16
  | _, 0 => []
  | seqnum, n + 1 => seqnum :: sequenceNumbersFrom step (seqnum + step) n

def createSequenceNumberList : List UInt16 :=
  let step := if packet.mD ≤ 1 then 1 else packet.mL
  let size := if packet.mD ≤ 1 then packet.mL else packet.mD
  sequenceNumbersFrom step.toUInt16 packet.mSeqnumBase (max 1 size.toNat)

/-! ### What a repair packet protects -/

lemma getD_payload_add (source : FecSourcePacket) (i : ℕ) :
    (packet.add source).payload.getD i 0 = packet.payload.getD i 0 ^^^ source.payload.getD i 0 := by
  let buffer := packet.payload ++ replicate (source.payload.length - packet.payload.length) 0
  have hlength : buffer.length = max packet.payload.length source.payload.length := by
    rw [length_append, length_replicate]
    omega
  have hbuffer : buffer.getD i 0 = packet.payload.getD i 0 := by
    by_cases hi : i < packet.payload.length
    · exact getD_append _ _ _ _ hi
    · rw [getD_append_right _ _ _ _ (not_lt.mp hi), getD_eq_default _ _ (not_lt.mp hi),
        getD_eq_getElem?_getD, getElem?_getD_replicate_default_eq]
  by_cases hi : i < buffer.length
  · rw [← hbuffer]
    exact getD_addPayload hi source.payload
  · have hpacket : packet.payload.length ≤ i := by omega
    have hsource : source.payload.length ≤ i := by omega
    rw [getD_eq_default _ _ hpacket, getD_eq_default _ _ hsource]
    refine getD_eq_default _ _ ?_
    exact (length_addPayload buffer source.payload).trans_le (not_lt.mp hi)

/-- A repair packet has the parity of some source packets, a shorter payload being followed by zeros. -/
structure IsParity (packet : FecRepairPacket) (sources : List FecSourcePacket) : Prop where
  bitstring : packet.bitstring = Parity.parity FecSourcePacket.mBitstring sources
  payload : ∀ i, packet.payload.getD i 0 = Parity.parity (fun source => source.payload.getD i 0) sources

lemma isParity_reset (seqnumBase : UInt16) : IsParity (packet.reset seqnumBase) [] :=
  ⟨rfl, fun _ => rfl⟩

lemma IsParity.add {packet : FecRepairPacket} {sources : List FecSourcePacket} (h : packet.IsParity sources)
    (source : FecSourcePacket) : IsParity (packet.add source) (sources ++ [source]) := by
  constructor
  · rw [Parity.parity_concat, ← h.bitstring]
    rfl
  · intro i
    rw [Parity.parity_concat, ← h.payload, getD_payload_add]

lemma IsParity.perm {packet : FecRepairPacket} {sources sources' : List FecSourcePacket}
    (h : packet.IsParity sources) (hperm : sources.Perm sources') : packet.IsParity sources' :=
  ⟨h.bitstring.trans (Parity.parity_perm hperm), fun i => (h.payload i).trans (Parity.parity_perm hperm)⟩

end FecRepairPacket

end Ortp
