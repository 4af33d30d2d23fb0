import LinphoneSdk.Turn.PacketReader

/-!
# The framing of TURN over TCP

The messages are sent one after the other, ChannelData with its padding, and the stream is cut into reads. The packets
that come out are the messages that were sent if and only if every message is well cut.
-/

namespace Turn

open Bytes Flags List Option Nat

/-! ### The messages -/

/-- A STUN message. Its two top bits are zero, and the length of its attributes is a multiple of 4. -/
structure StunMessage where
  type : UInt16
  type_lt : type.toNat < 2 ^ 14 := by decide
  /-- The magic cookie and the transaction id. -/
  transaction : Buf 16
  attributes : Bytes
  length_lt : attributes.length < 2 ^ 16 := by decide
  four_dvd : 4 ∣ attributes.length := by decide
  deriving DecidableEq

/-- A ChannelData message, with the bytes that pad it. -/
structure ChannelData where
  channel : UInt16
  le_channel : 2 ^ 14 ≤ channel.toNat := by decide
  channel_lt : channel.toNat < 2 ^ 15 := by decide
  data : Bytes
  length_lt : data.length < 2 ^ 16 := by decide
  padding : Bytes
  length_padding : data.length + padding.length = (data.length + 3) / 4 * 4 := by decide
  deriving DecidableEq

inductive Message where
  | stun (message : StunMessage)
  | channelData (message : ChannelData)
  deriving DecidableEq

namespace Message

def isChannelData : Message → Bool
  | stun _ => false
  | channelData _ => true

def number : Message → UInt16
  | stun message => message.type
  | channelData message => message.channel

/-- What is between the length field and the payload. -/
def transaction : Message → Bytes
  | stun message => message.transaction.toList
  | channelData _ => []

def payload : Message → Bytes
  | stun message => message.attributes
  | channelData message => message.data

def padding : Message → Bytes
  | stun _ => []
  | channelData message => message.padding

/-- The message, without its padding. -/
def bytes (message : Message) : Bytes :=
  be16 message.number ++ be16 (.ofNat message.payload.length) ++ message.transaction ++ message.payload

/-- The message as it is sent over TCP. -/
def wire (message : Message) : Bytes := message.bytes ++ message.padding

def headerSize (message : Message) : ℕ := Turn.headerSize message.isChannelData

variable (message : Message)

lemma length_payload_lt : message.payload.length < 2 ^ 16 := by
  cases message with
  | stun message => exact message.length_lt
  | channelData message => exact message.length_lt

lemma length_transaction : 4 + message.transaction.length = message.headerSize := by
  cases message <;> simp [transaction, headerSize, Turn.headerSize, isChannelData]

@[simp] lemma length_bytes : message.bytes.length = message.headerSize + message.payload.length := by
  rw [← length_transaction]
  simp only [bytes, length_append, length_be16]

/-- The padding is what the reader takes for it. -/
lemma length_padding :
    message.payload.length + message.padding.length = paddedLen message.isChannelData message.payload.length := by
  cases message with
  | stun message => simp [payload, padding, isChannelData]
  | channelData message =>
    have hlen := message.length_padding
    simp only [payload, padding, isChannelData, paddedLen, true_and]
    split_ifs <;> omega

lemma length_wire :
    message.wire.length = message.headerSize + paddedLen message.isChannelData message.payload.length := by
  rw [wire, length_append, length_bytes, ← length_padding, Nat.add_assoc]

lemma headerSize_le_length_wire : message.headerSize ≤ message.wire.length := by
  rw [length_wire]
  exact Nat.le_add_right _ _

lemma length_wire_pos : 0 < message.wire.length :=
  (Turn.headerSize_pos _).trans_le message.headerSize_le_length_wire

lemma four_le_headerSize : 4 ≤ message.headerSize := by
  rw [← length_transaction]
  exact Nat.le_add_right _ _

lemma wire_eq : message.wire =
    be16 message.number ++ (be16 (.ofNat message.payload.length) ++ (message.transaction ++ message.payload ++
      message.padding)) := by
  simp [wire, bytes]

/-- The bit 6 of the first byte tells ChannelData from STUN. -/
lemma flag_number : flag (message.number >>> 8).toUInt8 6 = message.isChannelData := by
  have hbyte {x : UInt16} : (x >>> 8).toUInt8.toNat = x.toNat / 256 := by
    have hx := x.toNat_lt
    have hshift : (8 : UInt16).toNat % 16 = 8 := by decide
    simp only [UInt16.toNat_toUInt8, UInt16.toNat_shiftRight, hshift, shiftRight_eq_div_pow]
    omega
  have hflag {b : UInt8} (hb : b.toNat < 2 ^ 7) : flag b 6 = true ↔ 2 ^ 6 ≤ b.toNat := by
    rw [flag, bne_iff_ne, ne_eq, ← UInt8.toNat_inj, UInt8.toNat_and]
    exact and_top_ne_zero hb
  rw [Bool.eq_iff_iff]
  cases message with
  | stun message =>
    have hlt := message.type_lt
    rw [number, hflag (by rw [hbyte]; omega), hbyte]
    simp only [isChannelData, Bool.false_eq_true, iff_false]
    omega
  | channelData message =>
    have hle := message.le_channel
    have hlt := message.channel_lt
    rw [number, hflag (by rw [hbyte]; omega), hbyte]
    simp only [isChannelData, iff_true]
    omega

/-- The kind of the message is read in its first byte. -/
lemma isChannelData_of_append {message : Message} {l rest rest' : Bytes}
    (h : l ++ rest = message.wire ++ rest') (hne : l ≠ []) (state : MSTurnContextState) :
    Turn.isChannelData state l 0 = (state.binds && message.isChannelData) := by
  match l with
  | a :: l =>
    rw [wire_eq] at h
    simp only [be16, cons_append, cons.injEq] at h
    obtain ⟨rfl, -⟩ := h
    rw [Turn.isChannelData, getD_cons_zero, flag_number]

lemma be16At_of_append {message : Message} {l rest rest' : Bytes} (h : l ++ rest = message.wire ++ rest')
    (hlen : 4 ≤ l.length) : (be16At l 2).toNat = message.payload.length := by
  match l with
  | a :: b :: c :: d :: l =>
    rw [wire_eq] at h
    simp only [be16, cons_append, nil_append, cons.injEq] at h
    obtain ⟨rfl, rfl, rfl, rfl, -⟩ := h
    have hword := word16_be16 (.ofNat message.payload.length)
    simp only [be16At, getD_cons_succ, getD_cons_zero, hword]
    exact mod_eq_of_lt message.length_payload_lt

end Message

/-! ### The reads -/

structure Segmentation (messages : List Message) where
  reads : List Read
  ne_nil : ∀ read ∈ reads, read.data ≠ [] := by decide
  flatMap_data : reads.flatMap Read.data = messages.flatMap Message.wire := by decide

/-- The message begins in a read that has `room` bytes from there on: its header lies in this read, the channel may be
bound, and a message that the read cuts has no padding. -/
def Message.WellCut (message : Message) (state : MSTurnContextState) (room : ℕ) : Prop :=
  message.headerSize ≤ room ∧ (message.isChannelData = true → state.binds = true) ∧
    (room < message.wire.length → message.padding = [])

/-- The message that begins at `offset` in the reads is well cut by the read in which it begins. -/
def Message.WellCutAt (message : Message) : ℕ → List Read → Prop
  | _, [] => True
  | offset, read :: reads =>
    if read.data.length ≤ offset then message.WellCutAt (offset - read.data.length) reads
    else message.WellCut read.state (read.data.length - offset)

/-- Every message is well cut: the first one begins at `offset`. -/
def WellCut (reads : List Read) : ℕ → List Message → Prop
  | _, [] => True
  | offset, message :: messages =>
    message.WellCutAt offset reads ∧ WellCut reads (offset + message.wire.length) messages

variable (reads : List Read)

@[simp] lemma wellCut_nil_messages (offset : ℕ) : WellCut reads offset [] := trivial

variable {read : Read}

/-- The messages that begin after a read do not depend on it. -/
lemma wellCut_cons_of_le {offset : ℕ} (h : read.data.length ≤ offset) (messages : List Message) :
    WellCut (read :: reads) offset messages ↔ WellCut reads (offset - read.data.length) messages := by
  induction messages generalizing offset with
  | nil => simp [WellCut]
  | cons message messages ih =>
    rw [WellCut, WellCut, ih (h.trans (Nat.le_add_right _ _)), Message.WellCutAt, if_pos h, Nat.sub_add_comm h]

lemma wellCut_cons_of_lt {offset : ℕ} (h : offset < read.data.length) (message : Message) (messages : List Message) :
    WellCut (read :: reads) offset (message :: messages) ↔ message.WellCut read.state (read.data.length - offset) ∧
        WellCut (read :: reads) (offset + message.wire.length) messages := by
  rw [WellCut, Message.WellCutAt, if_neg (not_le.mpr h)]

/-! ### What is taken from the bytes that are left of a read -/

variable (state : MSTurnContextState)

/-- The packets that are taken from the bytes that are left of a read and from the next reads. -/
def resume (l : Bytes) (reads : List Read) : Option (List Packet) := do
  let reader ← scan state {} l
  let rest ← receive (drain reader).2 reads
  return (drain reader).1 ++ rest

def waiting (packet : Packet) (remainingBytes : ℕ) : PacketReader :=
  { mState := .continuation, mCurPacket := some packet, mRemainingBytes := remainingBytes }

/-- The packets that were already found stay in front. -/
lemma scan_prepend (reader : PacketReader) (packets : List Packet) (l : Bytes) :
    scan state { reader with mTurnPackets := packets ++ reader.mTurnPackets } l =
      (scan state reader l).map fun reader => { reader with mTurnPackets := packets ++ reader.mTurnPackets } := by
  induction hn : l.length using Nat.strong_induction_on generalizing reader l with
  | _ n ih =>
    by_cases hnil : l = []
    · simp [hnil]
    by_cases hheader : l.length < headerSize (isChannelData state l 0)
    · rw [scan_of_lt_headerSize hnil hheader, scan_of_lt_headerSize hnil hheader, map_none]
    by_cases hsize : l.length < messageSize state l
    · rw [scan_of_lt_messageSize (not_lt.mp hheader) hsize, scan_of_lt_messageSize (not_lt.mp hheader) hsize]
      rfl
    · have hpos := messageSize_pos state l
      have hlen : 0 < l.length := length_pos_iff.mpr hnil
      rw [scan_of_messageSize_le (not_lt.mp hsize), scan_of_messageSize_le (not_lt.mp hsize),
        ← ih _ (by simp only [length_drop, ← hn]; omega) _ _ rfl]
      simp [PacketReader.push]

@[simp] lemma resume_nil (reads : List Read) : resume state [] reads = receive {} reads := by
  simp [resume, drain]

lemma receive_cons (read : Read) (reads : List Read) : receive {} (read :: reads) = resume read.state read.data reads := by
  rw [receive, resume, parseData, parsePacket, parseLoop_eq_scan _ _ read.length_lt _ _ _ (by simp), drop_zero]

/-- A packet that was already found stays in front. -/
lemma scan_push (packet : Packet) (l : Bytes) (reads : List Read) : (do
      let reader ← scan state (({} : PacketReader).push packet) l
      let rest ← receive (drain reader).2 reads
      return (drain reader).1 ++ rest) = (resume state l reads).map (packet :: ·) := by
  have hscan := scan_prepend state {} [packet] l
  rw [PacketReader.push, resume]
  simp only [nil_append, append_nil] at hscan ⊢
  rw [hscan]
  cases scan state {} l with
  | none => rfl
  | some reader =>
    simp only [map_some, bind_eq_bind, bind_some, drain]
    cases receive { reader with mTurnPackets := [] } reads <;> rfl

variable {state : MSTurnContextState} {l : Bytes}

/-- A packet is found, then the bytes behind it are scanned. -/
lemma resume_of_messageSize_le (h : messageSize state l ≤ l.length) (reads : List Read) :
    resume state l reads = (resume state (l.drop (messageSize state l)) reads).map (message state l :: ·) := by
  rw [resume, scan_of_messageSize_le h]
  exact scan_push _ _ _ _

/-- A message that the read cuts is continued. -/
lemma resume_of_lt_messageSize (hheader : headerSize (isChannelData state l 0) ≤ l.length)
    (h : l.length < messageSize state l) (reads : List Read) :
    resume state l reads = receive (waiting l (messageSize state l - l.length)) reads := by
  rw [resume, scan_of_lt_messageSize hheader h]
  simp [drain, PacketReader.wait, waiting]

lemma resume_of_lt_headerSize (hne : l ≠ []) (h : l.length < headerSize (isChannelData state l 0)) (reads : List Read) :
    resume state l reads = none := by
  rw [resume, scan_of_lt_headerSize hne h]
  rfl

variable {remainingBytes : ℕ}

/-- The read ends inside the packet that is continued. -/
lemma receive_waiting_of_lt (h : read.data.length < remainingBytes) (packet : Packet) (reads : List Read) :
    receive (waiting packet remainingBytes) (read :: reads) =
      receive (waiting (packet ++ read.data) (remainingBytes - read.data.length)) reads := by
  have hmin : min read.data.length remainingBytes = read.data.length := min_eq_left h.le
  have hne : remainingBytes - read.data.length ≠ 0 := by omega
  simp [receive, parseData, waiting, processContinuationPacket, hmin, hne, drain]

/-- The read completes the packet that is continued. -/
lemma receive_waiting_of_le (h : remainingBytes ≤ read.data.length) (packet : Packet) (reads : List Read) :
    receive (waiting packet remainingBytes) (read :: reads) =
      (resume read.state (read.data.drop remainingBytes) reads).map
        ((packet ++ read.data.take remainingBytes) :: ·) := by
  have hmin : min read.data.length remainingBytes = remainingBytes := min_eq_right h
  have hstep : parseData read.state (waiting packet remainingBytes) read.data =
      scan read.state (({} : PacketReader).push (packet ++ read.data.take remainingBytes))
        (read.data.drop remainingBytes) := by
    simp only [parseData, waiting, processContinuationPacket, hmin, Nat.sub_self, if_true]
    split_ifs with hmore
    · have hlen := read.length_lt
      rw [parsePacket, parseLoop_eq_scan _ _ (by simp only [length_drop]; omega) _ _ _ (by simp), drop_zero]
      rfl
    · rw [drop_eq_nil_of_le (not_lt.mp hmore), scan_nil]
      rfl
  rw [receive, hstep]
  exact scan_push _ _ _ _

/-! ### The first packet tells whether its message is well cut -/

variable {packets : List Packet}

/-- A packet that is continued has all the bytes that its header announced. -/
lemma length_head_waiting (packet : Packet) (hpos : 0 < remainingBytes) {first : Packet}
    (h : receive (waiting packet remainingBytes) reads = some (first :: packets)) :
    first.length = packet.length + remainingBytes := by
  induction reads generalizing packet remainingBytes with
  | nil => simp [receive] at h
  | cons read reads ih =>
    by_cases hlt : read.data.length < remainingBytes
    · rw [receive_waiting_of_lt hlt] at h
      rw [ih _ (by omega) h, length_append]
      omega
    · rw [receive_waiting_of_le (not_lt.mp hlt), map_eq_some_iff] at h
      obtain ⟨rest, -, heq⟩ := h
      rw [← (cons.inj heq).1, length_append, length_take_of_le (not_lt.mp hlt)]

lemma length_head_resume {reads : List Read} (hne : l ≠ []) {first : Packet}
    (h : resume state l reads = some (first :: packets)) :
    headerSize (isChannelData state l 0) ≤ l.length ∧ first.length =
      if l.length < messageSize state l then messageSize state l
      else headerSize (isChannelData state l 0) + (be16At l 2).toNat := by
  by_cases hheader : l.length < headerSize (isChannelData state l 0)
  · simp [resume_of_lt_headerSize hne hheader] at h
  refine ⟨not_lt.mp hheader, ?_⟩
  split_ifs with hsize
  · rw [resume_of_lt_messageSize (not_lt.mp hheader) hsize] at h
    rw [length_head_waiting _ _ (by omega) h]
    omega
  · rw [resume_of_messageSize_le (not_lt.mp hsize), map_eq_some_iff] at h
    obtain ⟨rest, -, heq⟩ := h
    have hle := datalen_le_paddedLen (isChannelData state l 0) (be16At l 2).toNat
    rw [messageSize] at hsize
    rw [← (cons.inj heq).1, message, length_take_of_le (by omega)]

/-- A message that is not well cut does not come out. -/
lemma wellCut_of_resume {message : Message} {l rest rest' : Bytes} {reads : List Read}
    (h : l ++ rest = message.wire ++ rest') (hne : l ≠ [])
    (hresume : resume state l reads = some (message.bytes :: packets)) : message.WellCut state l.length := by
  have hkind := Message.isChannelData_of_append h hne state
  obtain ⟨hheader, hlen⟩ := length_head_resume hne hresume
  have hdatalen := Message.be16At_of_append h ((four_le_headerSize _).trans hheader)
  rw [messageSize, hdatalen, Message.length_bytes] at hlen
  by_cases hbinds : message.isChannelData = true → state.binds = true
  · have hkind' : isChannelData state l 0 = message.isChannelData := by
      rw [hkind]
      cases hchannel : message.isChannelData <;> simp_all
    rw [hkind'] at hheader hlen
    refine ⟨hheader, hbinds, fun hcut => ?_⟩
    rw [if_pos (by simpa [Message.length_wire, Message.headerSize] using hcut), Message.headerSize,
      ← message.length_padding] at hlen
    exact length_eq_zero_iff.mp (by omega)
  · -- the message is taken for STUN
    obtain ⟨hchannel, hstate⟩ := Classical.not_imp.mp hbinds
    rw [hkind, hchannel, Bool.and_true, Bool.eq_false_of_not_eq_true hstate] at hlen
    simp [Message.headerSize, hchannel, headerSize] at hlen

/-! ### The messages that are well cut come out -/

lemma headerSize_of_wellCut {message : Message} {l rest rest' : Bytes} (h : l ++ rest = message.wire ++ rest')
    (hcut : message.WellCut state l.length) :
    headerSize (isChannelData state l 0) ≤ l.length ∧ messageSize state l = message.wire.length ∧
      headerSize (isChannelData state l 0) + (be16At l 2).toNat = message.bytes.length := by
  have hfour := message.four_le_headerSize.trans hcut.1
  have hne : l ≠ [] := length_pos_iff.mp (by omega)
  have hkind : isChannelData state l 0 = message.isChannelData := by
    rw [Message.isChannelData_of_append h hne]
    have hbinds := hcut.2.1
    cases hchannel : message.isChannelData <;> simp_all
  rw [messageSize, Message.be16At_of_append h hfour, hkind, Message.length_wire, Message.length_bytes]
  exact ⟨hcut.1, rfl, rfl⟩

/-- What is taken from a read and the next ones, where the next ones are understood. -/
theorem resume_eq_iff {reads : List Read}
    (hreceive : ∀ messages : List Message, reads.flatMap Read.data = messages.flatMap Message.wire →
      (receive {} reads = some (messages.map Message.bytes) ↔ WellCut reads 0 messages))
    (hwaiting : ∀ (packet tail : Bytes) (messages : List Message), tail ≠ [] →
      reads.flatMap Read.data = tail ++ messages.flatMap Message.wire →
      (receive (waiting packet tail.length) reads = some ((packet ++ tail) :: messages.map Message.bytes) ↔
        WellCut reads tail.length messages))
    (read : Read) (l : Bytes) (messages : List Message) (hle : l.length ≤ read.data.length)
    (h : l ++ reads.flatMap Read.data = messages.flatMap Message.wire) :
    resume read.state l reads = some (messages.map Message.bytes) ↔
      WellCut (read :: reads) (read.data.length - l.length) messages := by
  induction messages generalizing l with
  | nil =>
    obtain ⟨rfl, hreads⟩ := append_eq_nil_iff.mp h
    rw [resume_nil, hreceive [] hreads]
    simp
  | cons message messages ih =>
    by_cases hne : l = []
    · subst hne
      rw [resume_nil, hreceive _ h, length_nil, Nat.sub_zero, wellCut_cons_of_le _ le_rfl, Nat.sub_self]
    have hpos : 0 < l.length := length_pos_iff.mpr hne
    rw [flatMap_cons] at h
    rw [wellCut_cons_of_lt _ (by omega), Nat.sub_sub_self hle, map_cons]
    by_cases hcut : message.WellCut read.state l.length
    case neg => exact iff_of_false (fun hresume => hcut (wellCut_of_resume h hne hresume)) (fun hwell => hcut hwell.1)
    obtain ⟨hheader, hsize, hbytes⟩ := headerSize_of_wellCut h hcut
    rw [and_iff_right hcut]
    by_cases hlt : l.length < message.wire.length
    · -- the read cuts the message, which has no padding
      obtain ⟨tail, hwire, hreads⟩ | ⟨l', rfl, -⟩ := append_eq_append_iff.mp h
      case inr => exact absurd hlt (by simp)
      have hlen : message.wire.length = l.length + tail.length := by rw [hwire, length_append]
      have htail : tail ≠ [] := length_pos_iff.mp (by omega)
      have hbytes : message.bytes = l ++ tail := by
        rw [← hwire, Message.wire, hcut.2.2 hlt, append_nil]
      rw [resume_of_lt_messageSize hheader (by omega), hsize, hlen, Nat.add_sub_cancel_left, hbytes,
        hwaiting l tail messages htail hreads, wellCut_cons_of_le _ (by omega)]
      congr! 1
      omega
    · -- the message is found whole
      obtain ⟨l', rfl, hl'⟩ : ∃ l', l = message.wire ++ l' ∧
          messages.flatMap Message.wire = l' ++ reads.flatMap Read.data := by
        obtain ⟨tail, hwire, hreads⟩ | hfound := append_eq_append_iff.mp h
        · have htail : tail = [] := by
            rw [hwire, length_append] at hlt
            exact length_eq_zero_iff.mp (by omega)
          exact ⟨[], by simp [hwire, htail], by simp [hreads, htail]⟩
        · exact hfound
      have hmessage : (message.wire ++ l').take message.bytes.length = message.bytes := by
        rw [Message.wire, append_assoc, take_left]
      rw [resume_of_messageSize_le (hsize.trans_le (not_lt.mp hlt)), hsize, drop_left, Turn.message, hbytes,
        hmessage, map_eq_some_iff]
      simp only [cons.injEq, true_and, exists_eq_right]
      rw [length_append] at hle ⊢
      rw [ih l' (by omega) hl'.symm]
      congr! 1
      omega

/-- What is taken from the reads, by a reader that waits for a header and by one that waits for the rest of a packet. -/
lemma receive_eq_iff : (∀ messages : List Message, reads.flatMap Read.data = messages.flatMap Message.wire →
      (receive {} reads = some (messages.map Message.bytes) ↔ WellCut reads 0 messages)) ∧
    (∀ (packet tail : Bytes) (messages : List Message), tail ≠ [] →
      reads.flatMap Read.data = tail ++ messages.flatMap Message.wire →
      (receive (waiting packet tail.length) reads = some ((packet ++ tail) :: messages.map Message.bytes) ↔
        WellCut reads tail.length messages)) := by
  induction reads with
  | nil =>
    constructor
    · intro messages h
      cases messages with
      | nil => simp [receive]
      | cons message messages =>
        have hpos := message.length_wire_pos
        have hlen := congrArg length h
        simp only [flatMap_nil, length_nil, flatMap_cons, length_append] at hlen
        omega
    · intro packet tail messages hne h
      exact absurd (append_eq_nil_iff.mp h.symm).1 hne
  | cons read reads ih =>
    rw [flatMap_cons]
    have hresume := resume_eq_iff ih.1 ih.2 read
    constructor
    · intro messages h
      rw [receive_cons, hresume _ _ le_rfl h, Nat.sub_self]
    · intro packet tail messages hne h
      by_cases hlt : read.data.length < tail.length
      · obtain ⟨tail', rfl, hreads⟩ | ⟨l, hdata, -⟩ := append_eq_append_iff.mp h
        case inr => exact absurd hlt (by simp [hdata])
        rw [length_append] at hlt ⊢
        have hne' : tail' ≠ [] := length_pos_iff.mp (by omega)
        rw [receive_waiting_of_lt (by omega), Nat.add_sub_cancel_left, ← append_assoc, ih.2 _ _ _ hne' hreads,
          wellCut_cons_of_le _ (Nat.le_add_right _ _), Nat.add_sub_cancel_left]
      · have htail : read.data.take tail.length = tail := by
          have htake := congrArg (take tail.length) h
          rwa [take_append_of_le_length (not_lt.mp hlt), take_left] at htake
        have hdrop : read.data.drop tail.length ++ reads.flatMap Read.data = messages.flatMap Message.wire := by
          have hdrop := congrArg (drop tail.length) h
          rwa [drop_append_of_le_length (not_lt.mp hlt), drop_left] at hdrop
        rw [receive_waiting_of_le (not_lt.mp hlt), htail, map_eq_some_iff]
        simp only [cons.injEq, true_and, exists_eq_right]
        rw [hresume _ _ (by simp) hdrop, length_drop, Nat.sub_sub_self (not_lt.mp hlt)]

/-- The packets that come out are the messages that were sent, and no byte outside of the reads is accessed, if and only
if every message is well cut. -/
theorem receive_eq_iff_wellCut (messages : List Message) (segmentation : Segmentation messages) :
    receive {} segmentation.reads = some (messages.map Message.bytes) ↔ WellCut segmentation.reads 0 messages :=
  (receive_eq_iff segmentation.reads).1 messages segmentation.flatMap_data

def oneByte : Message :=
  .channelData { channel := 0x4000, data := [7], padding := [0, 0, 0] }

/-- The same stream, cut inside the header and cut inside the padding. -/
theorem not_receive_cutHeader_cutPadding : ∃ cutHeader cutPadding : Segmentation [oneByte],
    receive {} cutHeader.reads = none ∧ receive {} cutPadding.reads = some [oneByte.bytes ++ [0, 0, 0]] := by
  refine ⟨⟨[⟨.channelBound, [0x40], by decide⟩, ⟨.channelBound, [0, 0, 1, 7, 0, 0, 0], by decide⟩], by decide,
    by decide⟩, ⟨[⟨.channelBound, [0x40, 0, 0, 1, 7, 0], by decide⟩, ⟨.channelBound, [0, 0], by decide⟩], by decide,
    by decide⟩, by decide +kernel, by decide +kernel⟩

end Turn
