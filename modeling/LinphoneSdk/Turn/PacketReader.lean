import LinphoneSdk.Lib.Bytes
import LinphoneSdk.Lib.Flags

/-!
# The packet reader of the TURN client over TCP

The bytes of a TCP connection come in reads. `PacketReader` finds the STUN messages and the ChannelData messages in
them, and keeps the one that a read leaves unfinished. A function gives `none` when it accesses a byte outside of the
read.
-/

namespace Turn

open Bytes Flags List

inductive MSTurnContextState where
  | idle
  | creatingAllocation
  | allocationCreated
  | creatingPermissions
  | permissionsCreated
  | bindingChannel
  | channelBound
  deriving DecidableEq, Repr

def MSTurnContextState.binds : MSTurnContextState → Bool
  | bindingChannel | channelBound => true
  | _ => false

/-- The bytes of a packet, between its read and its write pointer. -/
abbrev Packet : Type := Bytes

inductive State where
  | waitingHeader
  | continuation
  deriving DecidableEq, Repr

structure PacketReader where
  mState : State := .waitingHeader
  mCurPacket : Option Packet := none
  mTurnPackets : List Packet := []
  mRemainingBytes : ℕ := 0
  deriving DecidableEq, Repr

def PacketReader.push (reader : PacketReader) (packet : Packet) : PacketReader :=
  { reader with mTurnPackets := reader.mTurnPackets ++ [packet] }

def PacketReader.wait (reader : PacketReader) (packet : Packet) (p remainingBytes : ℕ) : PacketReader :=
  { reader with mState := .continuation, mCurPacket := some (packet.drop p), mRemainingBytes := remainingBytes }

def isChannelData (state : MSTurnContextState) (packet : Packet) (p : ℕ) : Bool :=
  state.binds && flag (packet.getD p 0) 6

def headerSize (channelData : Bool) : ℕ := if channelData then 4 else 20

/-- The length after the header: the size of ChannelData is rounded to a multiple of 4. -/
def paddedLen (channelData : Bool) (datalen : ℕ) : ℕ :=
  if channelData ∧ (datalen + 4) % 4 ≠ 0 then
    let round := 4 + datalen
    round - round % 4
  else datalen

def remainingSize (packet : Packet) (p : ℕ) : ℕ := (packet.length + 2 ^ 64 - p) % 2 ^ 64

variable (channelData : Bool)

lemma headerSize_pos : 0 < headerSize channelData := by cases channelData <;> decide

lemma four_le_headerSize : 4 ≤ headerSize channelData := by cases channelData <;> decide

def parseLoop (state : MSTurnContextState) (packet : Packet) (reader : PacketReader) (p foundPackets : ℕ) :
    Option PacketReader :=
  if _ : p < packet.length then
    -- the length field is read
    if p + 4 ≤ packet.length then
      let channelData := isChannelData state packet p
      let datalen := (be16At packet (p + 2)).toNat
      let headerSize := headerSize channelData
      let paddedLen := paddedLen channelData datalen
      let remainingSize := remainingSize packet (p + headerSize)
      if paddedLen > remainingSize then some (reader.wait packet p (paddedLen - remainingSize))
      else
        let next := p + headerSize + paddedLen
        if next = packet.length ∧ foundPackets + 1 = 1 then
          -- packet length is set to actual data length to get rid of padding
          some (reader.push (if channelData ∧ datalen < paddedLen then packet.take (headerSize + datalen) else packet))
        else if p + headerSize + datalen ≤ packet.length then
          parseLoop state packet (reader.push ((packet.drop p).take (headerSize + datalen))) next (foundPackets + 1)
        else none
    else none
  else some reader
  termination_by packet.length - p
  decreasing_by
    have hpos := headerSize_pos (isChannelData state packet p)
    omega

def parsePacket (state : MSTurnContextState) (reader : PacketReader) (packet : Packet) : Option PacketReader :=
  parseLoop state packet reader 0 0

def processContinuationPacket (state : MSTurnContextState) (reader : PacketReader) (packet : Packet) :
    Option PacketReader :=
  match reader.mCurPacket with
  | none => none
  | some cur =>
    let toRead := min packet.length reader.mRemainingBytes
    let cur := cur ++ packet.take toRead
    let reader := { reader with mRemainingBytes := reader.mRemainingBytes - toRead, mCurPacket := some cur }
    if reader.mRemainingBytes = 0 then
      let reader := { reader.push cur with mCurPacket := none, mState := .waitingHeader }
      -- the remaining bytes are not used in the packet
      if toRead < packet.length then parsePacket state reader (packet.drop toRead) else some reader
    else some reader

def parseData (state : MSTurnContextState) (reader : PacketReader) (rawPacket : Packet) : Option PacketReader :=
  match reader.mState with
  | .waitingHeader => parsePacket state reader rawPacket
  | .continuation => processContinuationPacket state reader rawPacket

/-- The loop of `processRead` over `getTurnPacket`: all the packets are taken. -/
def drain (reader : PacketReader) : List Packet × PacketReader :=
  (reader.mTurnPackets, { reader with mTurnPackets := [] })

structure Read where
  state : MSTurnContextState
  data : Bytes
  length_lt : data.length < 2 ^ 64 := by decide
  deriving DecidableEq, Repr

def receive (reader : PacketReader) : List Read → Option (List Packet)
  | [] => some []
  | read :: reads => do
    let reader ← parseData read.state reader read.data
    let (packets, reader) := drain reader
    let rest ← receive reader reads
    return packets ++ rest

/-! ### The loop, on the bytes that are left -/

lemma datalen_le_paddedLen (datalen : ℕ) : datalen ≤ paddedLen channelData datalen := by
  simp only [paddedLen]
  split_ifs <;> omega

@[simp] lemma paddedLen_stun (datalen : ℕ) : paddedLen false datalen = datalen := by simp [paddedLen]

lemma paddedLen_lt (x : UInt16) : paddedLen channelData x.toNat < 2 ^ 17 := by
  have hx := x.toNat_lt
  simp only [paddedLen]
  split_ifs <;> omega

variable (state : MSTurnContextState) (data : Bytes)

def messageSize : ℕ :=
  headerSize (isChannelData state data 0) + paddedLen (isChannelData state data 0) (be16At data 2).toNat

/-- The message that starts with these bytes, without its padding. -/
def message : Packet :=
  data.take (headerSize (isChannelData state data 0) + (be16At data 2).toNat)

lemma messageSize_pos : 0 < messageSize state data :=
  (headerSize_pos _).trans_le (Nat.le_add_right _ _)

/-- What the loop does of the bytes that are left. -/
def scan (state : MSTurnContextState) (reader : PacketReader) (data : Bytes) : Option PacketReader :=
  if _ : data = [] then some reader
  else if data.length < headerSize (isChannelData state data 0) then none
  else if data.length < messageSize state data then some (reader.wait data 0 (messageSize state data - data.length))
  else scan state (reader.push (message state data)) (data.drop (messageSize state data))
  termination_by data.length
  decreasing_by
    rw [length_drop]
    exact Nat.sub_lt (length_pos_iff.mpr ‹¬ data = []›) (messageSize_pos state data)

@[simp] lemma scan_nil (state : MSTurnContextState) (reader : PacketReader) : scan state reader [] = some reader := by
  rw [scan, dif_pos rfl]

variable {state : MSTurnContextState}

variable {data : Bytes}

lemma scan_of_lt_headerSize (hne : data ≠ []) (h : data.length < headerSize (isChannelData state data 0))
    (reader : PacketReader) : scan state reader data = none := by
  rw [scan, dif_neg hne, if_pos h]

lemma scan_of_lt_messageSize (hheader : headerSize (isChannelData state data 0) ≤ data.length)
    (h : data.length < messageSize state data) (reader : PacketReader) :
    scan state reader data = some (reader.wait data 0 (messageSize state data - data.length)) := by
  have hne : data ≠ [] := length_pos_iff.mp ((headerSize_pos _).trans_le hheader)
  rw [scan, dif_neg hne, if_neg (not_lt.mpr hheader), if_pos h]

lemma scan_of_messageSize_le (h : messageSize state data ≤ data.length) (reader : PacketReader) :
    scan state reader data = scan state (reader.push (message state data)) (data.drop (messageSize state data)) := by
  have hheader : headerSize (isChannelData state data 0) ≤ data.length := (Nat.le_add_right _ _).trans h
  have hne : data ≠ [] := length_pos_iff.mp ((headerSize_pos _).trans_le hheader)
  rw [scan, dif_neg hne, if_neg (not_lt.mpr hheader), if_neg (not_lt.mpr h)]

lemma isChannelData_drop (state : MSTurnContextState) (packet : Packet) (p : ℕ) :
    isChannelData state (packet.drop p) 0 = isChannelData state packet p := by
  simp [isChannelData, getD_eq_getElem?_getD]

lemma be16At_drop (packet : Packet) (p i : ℕ) : be16At (packet.drop p) i = be16At packet (p + i) := by
  simp [be16At, getD_eq_getElem?_getD, Nat.add_assoc]

lemma remainingSize_eq {packet : Packet} {p : ℕ} (hp : p ≤ packet.length) (hlen : packet.length < 2 ^ 64) :
    remainingSize packet p = packet.length - p := by
  rw [remainingSize, show packet.length + 2 ^ 64 - p = packet.length - p + 2 ^ 64 by omega, Nat.add_mod_right]
  exact Nat.mod_eq_of_lt (by omega)

/-- Behind the end of the packet, the difference of the pointers wraps. -/
lemma remainingSize_wraps {packet : Packet} {p : ℕ} (hp : packet.length < p) (hle : p ≤ packet.length + 2 ^ 63) :
    2 ^ 63 ≤ remainingSize packet p := by
  rw [remainingSize, Nat.mod_eq_of_lt (by omega)]
  omega

/-- Whether the first packet is handed over whole or copied, its bytes are the same. -/
theorem parseLoop_eq_scan (state : MSTurnContextState) (packet : Packet) (hlen : packet.length < 2 ^ 64)
    (reader : PacketReader) (p foundPackets : ℕ) (hp : foundPackets = 0 → p = 0) :
    parseLoop state packet reader p foundPackets = scan state reader (packet.drop p) := by
  induction hn : packet.length - p using Nat.strong_induction_on generalizing reader p foundPackets with
  | _ n ih =>
    rw [parseLoop, scan, messageSize, message, isChannelData_drop, be16At_drop]
    by_cases hend : p < packet.length
    case neg => simp [hend, drop_eq_nil_of_le (Nat.le_of_not_lt hend)]
    have hne : packet.drop p ≠ [] := by simpa using hend
    simp only [hend, hne, dite_true, dite_false, length_drop]
    generalize isChannelData state packet p = channelData
    have hbound := paddedLen_lt channelData (be16At packet (p + 2))
    have hle := datalen_le_paddedLen channelData (be16At packet (p + 2)).toNat
    have hstun : channelData = false → paddedLen channelData (be16At packet (p + 2)).toNat =
        (be16At packet (p + 2)).toNat := by
      rintro rfl
      simp
    have hpos := headerSize_pos channelData
    have hheader : headerSize channelData = 4 ∨ headerSize channelData = 20 := by cases channelData <;> simp [headerSize]
    generalize (be16At packet (p + 2)).toNat = datalen at hbound hle hstun ⊢
    generalize paddedLen channelData datalen = paddedLen at hbound hle hstun ⊢
    generalize headerSize channelData = headerSize at hpos hheader ⊢
    by_cases hcut : packet.length - p < headerSize
    · -- the header is cut
      have hwraps : 2 ^ 63 ≤ remainingSize packet (p + headerSize) := remainingSize_wraps (by omega) (by omega)
      simp [hcut, show ¬ paddedLen > remainingSize packet (p + headerSize) by omega,
        show ¬ p + headerSize + paddedLen = packet.length by omega, show ¬ p + headerSize + datalen ≤ packet.length by omega]
    rw [remainingSize_eq (by omega) hlen, if_pos (by omega), if_neg hcut]
    by_cases hbody : packet.length - p < headerSize + paddedLen
    · rw [if_pos (by omega), if_pos hbody, PacketReader.wait, PacketReader.wait, drop_zero]
      congr 2
      omega
    rw [if_neg (by omega), if_neg hbody]
    by_cases hlast : p + headerSize + paddedLen = packet.length ∧ foundPackets + 1 = 1
    · -- the read holds one packet
      have hp0 : p = 0 := hp (by omega)
      have hnil : packet.drop (p + (headerSize + paddedLen)) = [] := drop_eq_nil_of_le (by omega)
      rw [if_pos hlast, drop_drop, hnil, scan_nil, hp0, drop_zero]
      split_ifs with htrim
      · rfl
      · have hdatalen : datalen = paddedLen := by
          cases channelData
          · exact (hstun rfl).symm
          · exact le_antisymm hle (by simpa using htrim)
        rw [take_of_length_le (by omega)]
    · rw [if_neg hlast, if_pos (by omega), drop_drop, ← Nat.add_assoc]
      exact ih _ (by omega) _ _ _ (by omega) rfl

end Turn
