import LinphoneSdk.Lib.Bytes
import LinphoneSdk.Lib.Chunks

/-!
# ZRTP packets: sending and checking

The end of `bzrtp_packetBuild`, which cuts a message that does not fit in a packet into fragments,
`bzrtp_packetSetSequenceNumber`, and `bzrtp_packetCheck`, which checks an incoming packet and puts
the fragments together. Sizes are in bytes; the fields of a fragment header are in 32-bit words.

The contents of a block just allocated are those of an arbitrary function `malloc`. A copy outside a
block is undefined in the source: the accesses to the reassembly buffer are logged, and what is
written there matters only when the log stays in bounds.
-/

namespace Bzrtp

open Bytes Chunks

/-! ### Constants -/

def ZRTP_MIN_PACKET_LENGTH : ℕ := 28

def ZRTP_MAX_PACKET_LENGTH : ℕ := 3072

def ZRTP_PACKET_HEADER_LENGTH : ℕ := 12

def ZRTP_FRAGMENTEDPACKET_HEADER_LENGTH : ℕ := 20

def ZRTP_PACKET_CRC_LENGTH : ℕ := 4

def ZRTP_PACKET_OVERHEAD : ℕ := ZRTP_PACKET_HEADER_LENGTH + ZRTP_PACKET_CRC_LENGTH

def ZRTP_FRAGMENTEDPACKET_OVERHEAD : ℕ := ZRTP_FRAGMENTEDPACKET_HEADER_LENGTH + ZRTP_PACKET_CRC_LENGTH

def ZRTP_MAGIC_COOKIE : UInt32 := 0x5a525450

def BZRTP_MINIMUM_MTU : ℕ := 600

inductive MessageType where
  | hello
  | helloACK
  | commit
  | DHPart1
  | DHPart2
  | confirm1
  | confirm2
  | conf2ACK
  | error
  | errorACK
  | goClear
  | clearACK
  | SASRelay
  | relayACK
  | ping
  | pingACK
  deriving DecidableEq, Repr

def ascii (s : String) : Bytes := s.toList.map fun c => c.toNat.toUInt8

def messageTypeString : MessageType → Bytes
  | .hello => ascii "Hello   "
  | .helloACK => ascii "HelloACK"
  | .commit => ascii "Commit  "
  | .DHPart1 => ascii "DHPart1 "
  | .DHPart2 => ascii "DHPart2 "
  | .confirm1 => ascii "Confirm1"
  | .confirm2 => ascii "Confirm2"
  | .conf2ACK => ascii "Conf2ACK"
  | .error => ascii "Error   "
  | .errorACK => ascii "ErrorACK"
  | .goClear => ascii "GoClear "
  | .clearACK => ascii "ClearACK"
  | .SASRelay => ascii "SASrelay"
  | .relayACK => ascii "RelayACK"
  | .ping => ascii "Ping    "
  | .pingACK => ascii "PingACK "

def messageTypes : List MessageType :=
  [.hello, .helloACK, .commit, .DHPart1, .DHPart2, .confirm1, .confirm2, .conf2ACK, .error,
    .errorACK, .goClear, .clearACK, .SASRelay, .relayACK, .ping, .pingACK]

/-- `none` is `MSGTYPE_INVALID`. -/
def messageTypeStringtoInt (s : Bytes) : Option MessageType :=
  messageTypes.find? fun t => messageTypeString t == s

@[simp] lemma length_messageTypeString (t : MessageType) : (messageTypeString t).length = 8 := by
  cases t <;> rfl

@[simp] lemma messageTypeStringtoInt_messageTypeString (t : MessageType) :
    messageTypeStringtoInt (messageTypeString t) = some t := by
  cases t <;> decide

/-- Entry of the lookup table, computed as the code that generated it does. -/
def CRC32LookupTable (i : UInt32) : UInt32 :=
  Nat.iterate (fun crcT => (crcT >>> 1) ^^^ ((crcT &&& 1) * 0x82F63B78)) 8 i

def CRC32 (input : Bytes) : UInt32 :=
  let crc : UInt32 := input.foldl
    (fun (crc : UInt32) x => (crc >>> 8) ^^^ CRC32LookupTable ((crc &&& 0xFF) ^^^ x.toUInt32))
    0xFFFFFFFF
  let crc := ~~~ crc
  -- swap the byte order
  ((crc &&& 0xFF000000) >>> 24) ||| ((crc &&& 0x00FF0000) >>> 8) |||
    ((crc &&& 0x0000FF00) <<< 8) ||| ((crc &&& 0x000000FF) <<< 24)

/-! ### Sending -/

/-- The session settings: the maximum size of the packets sent. `bzrtp_set_MTU` raises a lower value
to the minimum. -/
structure Context where
  mtu : ℕ
  mtu_ge : BZRTP_MINIMUM_MTU ≤ mtu

def setMTU (mtu : ℕ) : Context :=
  if h : mtu > BZRTP_MINIMUM_MTU then ⟨mtu, h.le⟩ else ⟨BZRTP_MINIMUM_MTU, le_refl _⟩

def messageHeader (messageLength : UInt16) (t : MessageType) : Bytes :=
  0x50 :: 0x5a :: (be16 (messageLength >>> 2) ++ messageTypeString t)

def packetSetSequenceNumber (headerLength messageLength : ℕ) (sequenceNumber : UInt16)
    (packetString : Bytes) : Bytes :=
  let packetString := patch packetString 2 (be16 sequenceNumber)
  let CRC := CRC32 (packetString.take (messageLength + headerLength))
  patch packetString (messageLength + headerLength) (be32 CRC)

/-- A fragment packet ready to be sent, but for the sequence number and the CRC. -/
structure FragmentPacket where
  messageLength : ℕ
  packetString : Bytes

def FragmentPacket.send (sequenceNumber : UInt16) (f : FragmentPacket) : Bytes :=
  packetSetSequenceNumber ZRTP_FRAGMENTEDPACKET_HEADER_LENGTH f.messageLength sequenceNumber
    f.packetString

/-- The header fields of a fragment, in 32-bit words. -/
structure FragmentHeader where
  messageId : UInt16
  messageTotalLength : UInt16
  offset : UInt16
  fragmentLength : UInt16

def FragmentHeader.toBytes (h : FragmentHeader) : Bytes :=
  be16 h.messageId ++ (be16 h.messageTotalLength ++ (be16 h.offset ++ be16 h.fragmentLength))

def fragmentPacket (malloc : (n : ℕ) → Buf n) (sourceIdentifier : UInt32) (h : FragmentHeader)
    (fragment : Bytes) : FragmentPacket where
  messageLength := fragment.length
  packetString :=
    let block := (malloc (ZRTP_FRAGMENTEDPACKET_OVERHEAD + fragment.length)).toList
    let block := patch block ZRTP_FRAGMENTEDPACKET_HEADER_LENGTH fragment
    -- zrtpPacketSetHeader
    let block := patch block 0 [0x11, 0x00]
    let block := patch block 4 (be32 ZRTP_MAGIC_COOKIE)
    let block := patch block 8 (be32 sourceIdentifier)
    patch block ZRTP_PACKET_HEADER_LENGTH h.toBytes

/-- Size of the fragment at an offset: what is left, or the largest size that fits the MTU. -/
def fragmentSize (ctx : Context) (messageLength offset : UInt16) : UInt16 :=
  if (messageLength - offset).toNat < ctx.mtu - ZRTP_FRAGMENTEDPACKET_OVERHEAD
  then messageLength - offset
  else (ctx.mtu - ZRTP_FRAGMENTEDPACKET_OVERHEAD).toUInt16

/-- The fragmentation loop. Each turn advances, so that as many turns as bytes are enough. -/
def fragmentLoop (malloc : (n : ℕ) → Buf n) (ctx : Context) (sourceIdentifier : UInt32)
    (messageId messageLength : UInt16) (message : Bytes) : ℕ → UInt16 → List FragmentPacket
  | 0, _ => []
  | fuel + 1, offset =>
    if offset < messageLength then
      let size := fragmentSize ctx messageLength offset
      fragmentPacket malloc sourceIdentifier
          ⟨messageId, messageLength >>> 2, offset >>> 2, size >>> 2⟩
          (segment message offset.toNat size.toNat) ::
        fragmentLoop malloc ctx sourceIdentifier messageId messageLength message fuel (offset + size)
    else []

inductive BuiltPacket where
  /-- A packet ready to be sent, but for the sequence number and the CRC. -/
  | whole (packetString : Bytes)
  | fragmented (fragments : List FragmentPacket)

/-- The length of a message, on 16 bits, from its content. -/
def messageLengthOf (content : Bytes) : UInt16 := (12 + content.length).toUInt16

/-- The message of a packet: its header, then a content that depends on the type. -/
def buildMessage (t : MessageType) (content : Bytes) : Bytes :=
  messageHeader (messageLengthOf content) t ++ content

/-- Build the packet of a message, or its fragments when it does not fit the MTU; the counter of
fragmented messages gives the identifier of the message. -/
def packetBuild (malloc : (n : ℕ) → Buf n) (ctx : Context) (sourceIdentifier : UInt32)
    (t : MessageType) (content : Bytes) (selfMessageSequenceNumber : UInt16) : BuiltPacket × UInt16 :=
  let message := buildMessage t content
  let messageLength := messageLengthOf content
  if ctx.mtu < (messageLength + ZRTP_PACKET_OVERHEAD.toUInt16).toNat then
    (.fragmented (fragmentLoop malloc ctx sourceIdentifier selfMessageSequenceNumber messageLength
      message messageLength.toNat 0), selfMessageSequenceNumber + 1)
  else
    let block := (malloc (ZRTP_PACKET_OVERHEAD + message.length)).toList
    let block := patch block ZRTP_PACKET_HEADER_LENGTH message
    -- zrtpPacketSetHeader
    let block := patch block 0 [0x10, 0x00]
    let block := patch block 4 (be32 ZRTP_MAGIC_COOKIE)
    (.whole (patch block 8 (be32 sourceIdentifier)), selfMessageSequenceNumber)

/-! ### Receiving -/

inductive ExitCode where
  | INVALIDCRC
  | INVALIDPACKET
  | OUTOFORDER
  | INVALIDMESSAGE
  /-- Not an error: a fragment of a message that is not complete. -/
  | PACKETFRAGMENT
  deriving DecidableEq, Repr

structure FragmentInfo where
  offset : UInt16
  length : UInt16
  deriving DecidableEq, Repr

/-- The message being put together. -/
structure FragmentReassembly where
  messageId : UInt16
  messageLength : UInt16
  /-- The block, empty when there is none. -/
  packetString : Bytes
  fragments : List FragmentInfo
  deriving DecidableEq, Repr

structure ChannelContext where
  peerSequenceNumber : UInt16
  incomingFragmentedPacket : FragmentReassembly
  deriving DecidableEq, Repr

/-- A channel just initialised. -/
def ChannelContext.init : ChannelContext := ⟨0, ⟨0, 0, [], []⟩⟩

/-- What `bzrtp_packetCheck` does with the reassembly buffer. -/
inductive Access where
  /-- Allocation for a message. -/
  | alloc (messageId : UInt16) (size : ℕ)
  /-- Copy of `length` bytes for a message, from offset `src` of the packet received, of a given
  size, to offset `dst` of the buffer. -/
  | copy (messageId : UInt16) (dst length src packetLength : ℕ)
  deriving DecidableEq, Repr

structure Packet where
  sequenceNumber : UInt16
  messageLength : UInt16
  messageType : MessageType
  sourceIdentifier : UInt32
  deriving DecidableEq, Repr

inductive CheckResult where
  | error (exitCode : ExitCode)
  /-- A packet, with the string it is to be parsed from. -/
  | packet (zrtpPacket : Packet) (input : Bytes)
  deriving DecidableEq, Repr

/-- Result, context and accesses to the reassembly buffer. -/
structure Checked where
  result : CheckResult
  context : ChannelContext
  accesses : List Access
  deriving DecidableEq, Repr

def FragmentHeader.parse (input : Bytes) : FragmentHeader :=
  ⟨be16At input 12, be16At input 14, be16At input 16, be16At input 18⟩

/-- Insert a fragment in the list, ordered by offset; `none` when there is one at this offset. -/
def insertFragment (new : FragmentInfo) : List FragmentInfo → Option (List FragmentInfo)
  | [] => some [new]
  | f :: fs =>
    if new.offset < f.offset then some (new :: f :: fs)
    else if new.offset = f.offset then none
    else (insertFragment new fs).map (f :: ·)

def receivedLength (fragments : List FragmentInfo) : UInt16 :=
  fragments.foldl (fun n f => n + f.length) 0

namespace FragmentReassembly

/-- Start collecting a message newer than the current one. -/
def start (malloc : (n : ℕ) → Buf n) (h : FragmentHeader) (r : FragmentReassembly) :
    FragmentReassembly × List Access :=
  if r.messageId < h.messageId then
    let size := ZRTP_PACKET_OVERHEAD + h.messageTotalLength.toNat * 4
    (⟨h.messageId, h.messageTotalLength, (malloc size).toList, []⟩, [.alloc h.messageId size])
  else (r, [])

/-- Insert the fragment of a packet, unless it was already received. -/
def insert (h : FragmentHeader) (input : Bytes) (r : FragmentReassembly) : FragmentReassembly × List Access :=
  match insertFragment ⟨h.offset, h.fragmentLength⟩ r.fragments with
  | none => (r, [])
  | some fragments =>
    let dst := ZRTP_PACKET_HEADER_LENGTH + 4 * h.offset.toNat
    let src := ZRTP_FRAGMENTEDPACKET_HEADER_LENGTH
    let length := input.length - ZRTP_FRAGMENTEDPACKET_OVERHEAD
    ({ r with
        fragments := fragments
        packetString := patch r.packetString dst (segment input src length) },
      [.copy h.messageId dst length src input.length])

end FragmentReassembly

def messageCheck (sequenceNumber : UInt16) (input : Bytes) (inputLength : ℕ) : CheckResult :=
  if input.getD ZRTP_PACKET_HEADER_LENGTH 0 ≠ 0x50 ∨
      input.getD (ZRTP_PACKET_HEADER_LENGTH + 1) 0 ≠ 0x5a then .error .INVALIDMESSAGE
  else
    match messageTypeStringtoInt (segment input (ZRTP_PACKET_HEADER_LENGTH + 4) 8) with
    | none => .error .INVALIDMESSAGE
    | some messageType =>
      .packet
        { sequenceNumber := sequenceNumber
          messageLength := 4 * be16At input (ZRTP_PACKET_HEADER_LENGTH + 2)
          messageType := messageType
          sourceIdentifier := be32At input 8 }
        (input.take inputLength)

def fragmentCheck (malloc : (n : ℕ) → Buf n) (input : Bytes) (ch : ChannelContext) : Checked :=
  let h := FragmentHeader.parse input
  if ch.incomingFragmentedPacket.messageId > h.messageId then ⟨.error .OUTOFORDER, ch, []⟩
  else
    let started := ch.incomingFragmentedPacket.start malloc h
    let inserted := started.1.insert h input
    let accesses := started.2 ++ inserted.2
    let r := inserted.1
    if receivedLength r.fragments = h.messageTotalLength then
      -- the length of the packet is stored on 16 bits
      ⟨messageCheck (be16At input 2) r.packetString
          ((ZRTP_PACKET_OVERHEAD + h.messageTotalLength.toNat * 4) % 2 ^ 16),
        { ch with incomingFragmentedPacket := { r with fragments := [], messageId := 0 } },
        accesses⟩
    else ⟨.error .PACKETFRAGMENT, { ch with incomingFragmentedPacket := r }, accesses⟩

def isFragmented (input : Bytes) : Bool := input.getD 0 0 == 0x11

/-- Checks on the packet: length, preamble, order of the sequence numbers, CRC. -/
def packetHeaderCheck (input : Bytes) (ch : ChannelContext) : Option ExitCode :=
  if input.length < ZRTP_MIN_PACKET_LENGTH ∨ input.length > ZRTP_MAX_PACKET_LENGTH then
    some .INVALIDPACKET
  else if (input.getD 0 0 ≠ 0x10 ∧ input.getD 0 0 ≠ 0x11) ∨ input.getD 1 0 ≠ 0 ∨
      be32At input 4 ≠ ZRTP_MAGIC_COOKIE then some .INVALIDPACKET
  -- fragments may come in any order
  else if ¬ isFragmented input ∧ be16At input 2 ≤ ch.peerSequenceNumber then some .OUTOFORDER
  else if CRC32 (input.take (input.length - ZRTP_PACKET_CRC_LENGTH)) ≠
      be32At input (input.length - ZRTP_PACKET_CRC_LENGTH) then some .INVALIDCRC
  else none

def packetCheck (malloc : (n : ℕ) → Buf n) (input : Bytes) (ch : ChannelContext) : Checked :=
  match packetHeaderCheck input ch with
  | some exitCode => ⟨.error exitCode, ch, []⟩
  | none =>
    if isFragmented input then fragmentCheck malloc input ch
    else ⟨messageCheck (be16At input 2) input input.length, ch, []⟩

/-- Check incoming packets one after the other. -/
def checkAll (malloc : (n : ℕ) → Buf n) : List Bytes → ChannelContext → ChannelContext × List Checked
  | [], ch => (ch, [])
  | input :: inputs, ch =>
    let checked := packetCheck malloc input ch
    let rest := checkAll malloc inputs checked.context
    (rest.1, checked :: rest.2)

end Bzrtp
