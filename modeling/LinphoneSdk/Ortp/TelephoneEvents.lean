import LinphoneSdk.Lib.Flags
import LinphoneSdk.Ortp.Delivery

/-!
# Telephone events

`rtp_session_send_dtmf2` sends the packets of a DTMF, of which the last is sent three times. The receiving
session saves a packet, and compares those that follow to it in order to report the end of the events.
-/

namespace Ortp

open Bytes Flags Serial List

/-! ### Sending -/

/-- The event of a DTMF. -/
def tevType : Char → Option UInt8
  | '1' => some 1
  | '2' => some 2
  | '3' => some 3
  | '4' => some 4
  | '5' => some 5
  | '6' => some 6
  | '7' => some 7
  | '8' => some 8
  | '9' => some 9
  | '*' => some 10
  | '0' => some 0
  | '#' => some 11
  | 'A' => some 12
  | 'a' => some 12
  | 'B' => some 13
  | 'b' => some 13
  | 'C' => some 14
  | 'c' => some 14
  | 'D' => some 15
  | 'd' => some 15
  | '!' => some 16
  | _ => none

/-- What the sending of events reads and changes. -/
structure TevSender where
  sndSeq : UInt16
  ssrc : UInt32
  sendTsOffset : UInt32
  /-- `tev_send_pt`, or the payload type that the profile has for telephone events. -/
  tevPt : Option UInt8

/-- The timestamp and the number are set when the packet is sent. -/
def createTelephoneEventPacket (session : TevSender) (start : Bool) : Option Packet :=
  session.tevPt.map fun pt =>
    [0x80, bit start 7 ||| pt &&& 0x7F] ++ (be16 0 ++ (be32 0 ++ be32 session.ssrc))

def addTelephoneEvent (packet : Packet) (event : UInt8) (last : Bool) (volume : UInt8) (duration : UInt16) : Packet :=
  packet ++ ([event, bit last 7 ||| volume &&& 0x3F] ++ be16 duration)

section

variable (mp : Packet)

def rtpSetSeqnumber (seq : UInt16) : Packet := (mp.set 2 (seq >>> 8).toUInt8).set 3 seq.toUInt8

/-- `rtp_session_sendm_with_ts`, for a packet of telephone events: what goes on the wire. -/
def sendmWithTs (session : TevSender) (packet : Packet) (timestamp : UInt32) : Packet × TevSender :=
  (rtpSetSeqnumber (rtpSetTimestamp packet (timestamp + session.sendTsOffset)) session.sndSeq,
    { session with sndSeq := session.sndSeq + 1 })

def sendDtmf2 (session : TevSender) (dtmf : Char) (userts : UInt32) (duration : ℤ) :
    Option (List Packet × TevSender) := do
  let durationtier := duration.tdiv 3
  let tev ← tevType dtmf
  let m1 ← createTelephoneEventPacket session true
  let m1 := addTelephoneEvent m1 tev false 10 (.ofInt durationtier)
  let m2 ← createTelephoneEventPacket session false
  let m2 := addTelephoneEvent m2 tev false 10 (.ofInt (durationtier + durationtier))
  let m3 ← createTelephoneEventPacket session false
  let m3 := addTelephoneEvent m3 tev true 10 (.ofInt duration)
  let (p1, session) := sendmWithTs session m1 userts
  let (p2, session) := sendmWithTs session m2 userts
  -- the last packet is sent three times, with the same number
  let (p3, session) := sendmWithTs session m3 userts
  let (p4, session) := sendmWithTs { session with sndSeq := session.sndSeq - 1 } m3 userts
  let (p5, session) := sendmWithTs { session with sndSeq := session.sndSeq - 1 } m3 userts
  return ([p1, p2, p3, p4, p5], session)

/-! ### Receiving -/

def rtpGetMarkbit : Bool := flag (mp.getD 1 0) 7

def rtpGetExtbit : Bool := flag (mp.getD 0 0) 4

def rtpGetExtheader : Option ℕ :=
  let extHeader := RTP_FIXED_HEADER_SIZE + (rtpGetCc mp).toNat * 4
  if rtpGetExtbit mp ∧ extHeader + 4 ≤ mp.length then
    let size := (be16At mp (extHeader + 2)).toNat * 4
    if extHeader + 4 + size > mp.length then none else some size
  else none

/-- `rtp_get_payload`, of a packet in one block: where the payload starts, or `none` for `-1`. -/
def rtpGetPayload : Option ℕ :=
  let headerLen := RTP_FIXED_HEADER_SIZE + (rtpGetCc mp).toNat * 4
  let tmp := headerLen + match rtpGetExtheader mp with
    | some size => 4 + size
    | none => 0
  if tmp ≥ mp.length then none else some tmp

def numEvents : ℕ :=
  match rtpGetPayload mp with
  | some start => (mp.length - start) / 4
  | none => 0

def eventOffset (i : ℕ) : ℕ := (rtpGetPayload mp).getD 0 + 4 * i

def eventAt (i : ℕ) : UInt8 := mp.getD (eventOffset mp i) 0

def endedAt (i : ℕ) : Bool := flag (mp.getD (eventOffset mp i + 1) 0) 7

def setEndedAt (i : ℕ) : Packet :=
  mp.set (eventOffset mp i + 1) (mp.getD (eventOffset mp i + 1) 0 ||| bit true 7)

end

/-- What the session keeps for telephone events, and the events it notified. -/
structure TevSession where
  tevRq : List Packet
  maxPackets : ℕ
  currentTev : Option Packet
  notified : Bytes

def notifyEventsEnded (notified : Bytes) (mp : Packet) : Bytes :=
  notified ++ ((range (numEvents mp)).filter (endedAt mp)).map (eventAt mp)

/-- The loop over the events of `m0`, compared to those of the saved packet: the ones that end are notified. -/
def updateEnded (m0 : Packet) : List ℕ → Packet × Bytes → Packet × Bytes
  | [], saved => saved
  | i :: is, (cur, notified) =>
    updateEnded m0 is <|
      if endedAt m0 i && !endedAt cur i then (setEndedAt cur i, notified ++ [eventAt m0 i]) else (cur, notified)

def TevSession.save (s : TevSession) (m0 : Packet) : TevSession :=
  { s with currentTev := some m0, notified := notifyEventsEnded s.notified m0 }

def TevSession.checkTelephoneEvents (s : TevSession) (m0 : Packet) : TevSession :=
  let s := if rtpGetMarkbit m0 then s.save m0 else s
  match s.currentTev with
  | some cur =>
    if rtpGetTimestamp cur = rtpGetTimestamp m0 then
      let (cur, notified) :=
        updateEnded m0 (range (min (numEvents m0) (numEvents cur))) (cur, s.notified)
      { s with currentTev := some cur, notified }
    else s.save m0
  | none => s.save m0

lemma tevRq_checkTelephoneEvents (s : TevSession) (m0 : Packet) : (s.checkTelephoneEvents m0).tevRq = s.tevRq := by
  rw [TevSession.checkTelephoneEvents]
  split_ifs
  all_goals
    split
    · split_ifs <;> rfl
    · rfl

/-- A packet of telephone events is parsed: it goes to its own queue. -/
def TevSession.receive (s : TevSession) (mp : Packet) : TevSession :=
  { s with tevRq := (queuePacket s.tevRq s.maxPackets mp).q }

/-- The application asks for a packet: one of the packets of telephone events is checked. -/
def TevSession.poll (s : TevSession) : TevSession :=
  match s.tevRq with
  | [] => s
  | mp :: tevRq => { s with tevRq }.checkTelephoneEvents mp

/-! ### The packets of a DTMF -/

/-- The three packets of a DTMF. -/
inductive Part where
  | start
  | middle
  | last
  deriving DecidableEq, Repr

/-- The place of a packet after the first one. -/
def Part.index : Part → ℕ
  | start => 0
  | middle => 1
  | last => 2

lemma Part.index_le (part : Part) : part.index ≤ 2 := by cases part <;> decide

lemma Part.index_inj {p p' : Part} (h : p.index = p'.index) : p = p' := by
  cases p <;> cases p' <;> first | rfl | cases h

/-- A DTMF that was sent: `number` is the one that the sequence number of its first packet shows. -/
structure Dtmf where
  digit : Char
  event : UInt8
  timestamp : UInt32
  number : ℤ
  seq : UInt16
  ssrc : UInt32
  pt : UInt8
  duration : ℤ
  deriving DecidableEq

/-- The duration told in a packet. -/
def Dtmf.durationAt (d : Dtmf) : Part → UInt16
  | .start => .ofInt (d.duration.tdiv 3)
  | .middle => .ofInt (d.duration.tdiv 3 + d.duration.tdiv 3)
  | .last => .ofInt d.duration

/-- The sequence number of a packet. -/
def Dtmf.seqAt (d : Dtmf) : Part → UInt16
  | .start => d.seq
  | .middle => d.seq + 1
  | .last => d.seq + 2

def Dtmf.packet (d : Dtmf) (part : Part) : Packet :=
  [0x80, bit (part = .start) 7 ||| d.pt &&& 0x7F] ++ (be16 (d.seqAt part) ++ (be32 d.timestamp ++ (be32 d.ssrc ++
      ([d.event, bit (part = .last) 7 ||| 10 &&& 0x3F] ++ be16 (d.durationAt part)))))

/-- The DTMF that a call of `rtp_session_send_dtmf2` sends. -/
def dtmfOf (session : TevSender) (pt event : UInt8) (number : ℤ) (dtmf : Char) (userts : UInt32) (duration : ℤ) :
    Dtmf where
  digit := dtmf
  event := event
  timestamp := userts + session.sendTsOffset
  number := number
  seq := session.sndSeq
  ssrc := session.ssrc
  pt := pt
  duration := duration

/-- The last packet is sent three times, with the same number. -/
lemma sendDtmf2_eq {session : TevSender} {dtmf : Char} {pt event : UInt8} (hpt : session.tevPt = some pt)
    (hevent : tevType dtmf = some event) (number : ℤ) (userts : UInt32) (duration : ℤ) :
    sendDtmf2 session dtmf userts duration = let d := dtmfOf session pt event number dtmf userts duration
      some ([d.packet .start, d.packet .middle, d.packet .last, d.packet .last, d.packet .last],
        { session with sndSeq := session.sndSeq + 3 }) := by
  have h2 : session.sndSeq + 1 + 1 = session.sndSeq + 2 := UInt16.add_assoc _ _ _
  have h3 : session.sndSeq + 2 + 1 = session.sndSeq + 3 := UInt16.add_assoc _ _ _
  have hback : session.sndSeq + 3 - 1 = session.sndSeq + 2 := by
    rw [← h3, UInt16.add_sub_cancel]
  simp only [sendDtmf2, hevent, createTelephoneEventPacket, hpt, sendmWithTs, h2, h3, hback, Option.map_some,
    Option.bind_eq_bind, Option.bind_some, Option.pure_def]
  rfl

section packet

variable (d : Dtmf) (part : Part)

lemma length_packet : (d.packet part).length = 16 := rfl

lemma hasPayload_packet : HasPayload (d.packet part) := by
  have hcc : rtpGetCc (d.packet part) = 0 := by
    change (0x80 : UInt8) &&& 0x0F = 0
    decide
  rw [HasPayload, length_packet, hcc]
  decide

lemma rtpGetSeqnumber_packet : rtpGetSeqnumber (d.packet part) = d.seqAt part := be16At_of_drop _ rfl

lemma rtpGetTimestamp_packet : rtpGetTimestamp (d.packet part) = d.timestamp := be32At_of_drop _ rfl

lemma rtpGetMarkbit_packet : rtpGetMarkbit (d.packet part) = decide (part = .start) := by
  change flag (bit (part = .start) 7 ||| d.pt &&& 0x7F) 7 = _
  simp (disch := decide) only [flag_or, flag_bit_self, flag_and, Bool.or_false]

end packet

/-! ### One event in a packet -/

/-- A packet of sixteen bytes, without anything before its event but the fixed header. -/
structure OneEvent (mp : Packet) : Prop where
  length : mp.length = 16
  head : mp.getD 0 0 = 0x80

section oneEvent

variable {mp cur : Packet} (h : OneEvent mp)
include h

lemma OneEvent.rtpGetPayload_eq : rtpGetPayload mp = some 12 := by
  have hcc : rtpGetCc mp = 0 := by
    rw [rtpGetCc, h.head]
    rfl
  have hext : rtpGetExtheader mp = none := by
    have hbit : rtpGetExtbit mp = false := by
      rw [rtpGetExtbit, h.head]
      rfl
    simp [rtpGetExtheader, hbit]
  rw [rtpGetPayload, hext, hcc, h.length]
  rfl

lemma OneEvent.numEvents_eq : numEvents mp = 1 := by
  rw [numEvents, h.rtpGetPayload_eq, h.length]

lemma OneEvent.eventAt_zero : eventAt mp 0 = mp.getD 12 0 := by
  rw [eventAt, eventOffset, h.rtpGetPayload_eq]
  rfl

lemma OneEvent.endedAt_zero : endedAt mp 0 = flag (mp.getD 13 0) 7 := by
  rw [endedAt, eventOffset, h.rtpGetPayload_eq]
  rfl

lemma OneEvent.setEndedAt_zero : setEndedAt mp 0 = mp.set 13 (mp.getD 13 0 ||| bit true 7) := by
  rw [setEndedAt, eventOffset, h.rtpGetPayload_eq]
  rfl

lemma OneEvent.setEndedAt : OneEvent (setEndedAt mp 0) := by
  rw [h.setEndedAt_zero]
  constructor
  · rw [length_set, h.length]
  · rw [getD_eq_getElem?_getD, getElem?_set_ne (by decide), ← getD_eq_getElem?_getD, h.head]

lemma OneEvent.endedAt_setEndedAt : endedAt (Ortp.setEndedAt mp 0) 0 = true := by
  have hlt : 13 < mp.length := by rw [h.length]; decide
  rw [h.setEndedAt.endedAt_zero, h.setEndedAt_zero, getD_eq_getElem?_getD, getElem?_set_self hlt,
    Option.getD_some, flag_or, flag_bit_self (by decide), Bool.or_true]

lemma OneEvent.rtpGetTimestamp_setEndedAt : rtpGetTimestamp (Ortp.setEndedAt mp 0) = rtpGetTimestamp mp := by
  rw [h.setEndedAt_zero]
  simp [rtpGetTimestamp, be32At, getD_eq_getElem?_getD, getElem?_set_ne]

lemma OneEvent.notifyEventsEnded_eq (notified : Bytes) :
    notifyEventsEnded notified mp = notified ++ if endedAt mp 0 then [eventAt mp 0] else [] := by
  rw [notifyEventsEnded, h.numEvents_eq, range_one]
  cases hended : endedAt mp 0 with
  | false => simp [hended]
  | true => simp [hended]

/-- The end of the event is notified unless the saved packet has it. -/
lemma OneEvent.updateEnded_eq (hcur : OneEvent cur) (notified : Bytes) :
    updateEnded mp (range (min (numEvents mp) (numEvents cur))) (cur, notified) =
      if endedAt mp 0 && !endedAt cur 0 then (Ortp.setEndedAt cur 0, notified ++ [eventAt mp 0])
      else (cur, notified) := by
  rw [h.numEvents_eq, hcur.numEvents_eq, min_self, range_one]
  rfl

end oneEvent

/-! ### What is saved -/

structure Saved (cur : Packet) (d : Dtmf) (ended : Bool) : Prop where
  one : OneEvent cur
  timestamp : rtpGetTimestamp cur = d.timestamp
  ended : endedAt cur 0 = ended

section saved

variable {s : TevSession} {d : Dtmf} {part : Part} {cur : Packet} {ended : Bool}

lemma oneEvent_packet (d : Dtmf) (part : Part) : OneEvent (d.packet part) := ⟨rfl, rfl⟩

lemma eventAt_packet (d : Dtmf) (part : Part) : eventAt (d.packet part) 0 = d.event :=
  (oneEvent_packet d part).eventAt_zero

lemma endedAt_packet (d : Dtmf) (part : Part) : endedAt (d.packet part) 0 = decide (part = .last) := by
  rw [(oneEvent_packet d part).endedAt_zero]
  change flag (bit (part = .last) 7 ||| 10 &&& 0x3F) 7 = _
  simp (disch := decide) only [flag_or, flag_bit_self, flag_and, Bool.or_false]

lemma saved_packet (d : Dtmf) (part : Part) : Saved (d.packet part) d (part = .last) :=
  ⟨oneEvent_packet d part, rtpGetTimestamp_packet d part, endedAt_packet d part⟩

lemma Saved.setEndedAt (h : Saved cur d ended) : Saved (setEndedAt cur 0) d true :=
  ⟨h.one.setEndedAt, h.one.rtpGetTimestamp_setEndedAt.trans h.timestamp, h.one.endedAt_setEndedAt⟩

lemma save_packet (s : TevSession) (d : Dtmf) (part : Part) :
    s.save (d.packet part) = { s with
          currentTev := some (d.packet part)
          notified := s.notified ++ if part = .last then [d.event] else [] } := by
  rw [TevSession.save, (oneEvent_packet d part).notifyEventsEnded_eq, endedAt_packet, eventAt_packet]
  simp only [decide_eq_true_eq]

/-- The packet with the marker bit is saved, whatever was. -/
lemma checkTelephoneEvents_start (s : TevSession) (d : Dtmf) :
    s.checkTelephoneEvents (d.packet .start) = s.save (d.packet .start) := by
  have hone := oneEvent_packet d .start
  have hmark : rtpGetMarkbit (d.packet .start) = true := rtpGetMarkbit_packet d .start
  have hended : endedAt (d.packet .start) 0 = false := endedAt_packet d .start
  simp only [TevSession.checkTelephoneEvents, if_pos hmark, TevSession.save, if_true, hone.updateEnded_eq hone, hended,
    Bool.false_and, Bool.false_eq_true, if_false]

/-- A packet is saved when none is, or one of another DTMF. -/
lemma checkTelephoneEvents_other (h : ∀ cur ∈ s.currentTev, rtpGetTimestamp cur ≠ d.timestamp) (part : Part) :
    s.checkTelephoneEvents (d.packet part) = s.save (d.packet part) := by
  by_cases hpart : part = .start
  · subst hpart
    exact checkTelephoneEvents_start s d
  · have hmark : ¬ rtpGetMarkbit (d.packet part) = true := by simpa [rtpGetMarkbit_packet] using hpart
    rw [TevSession.checkTelephoneEvents, if_neg hmark]
    cases hcur : s.currentTev with
    | none => rfl
    | some cur =>
      have hne := h cur hcur
      rw [← rtpGetTimestamp_packet d part] at hne
      simp only [if_neg hne]

/-- A packet without marker bit, of the DTMF of which one is saved. -/
lemma checkTelephoneEvents_saved (hcur : s.currentTev = some cur) (hsaved : Saved cur d ended) (hpart : part ≠ .start) :
    s.checkTelephoneEvents (d.packet part) = if part = .last ∧ ended = false then
        { s with currentTev := some (setEndedAt cur 0), notified := s.notified ++ [d.event] }
      else s := by
  have hmark : ¬ rtpGetMarkbit (d.packet part) = true := by simpa [rtpGetMarkbit_packet] using hpart
  have htimestamp : rtpGetTimestamp cur = rtpGetTimestamp (d.packet part) :=
    hsaved.timestamp.trans (rtpGetTimestamp_packet d part).symm
  rw [TevSession.checkTelephoneEvents, if_neg hmark]
  simp only [hcur, if_pos htimestamp, (oneEvent_packet d part).updateEnded_eq hsaved.one, endedAt_packet, hsaved.ended,
    eventAt_packet]
  by_cases hnotify : part = .last ∧ ended = false
  · obtain ⟨hlast, hended⟩ := hnotify
    simp [hlast, hended]
  · have hquiet : ¬ (decide (part = .last) && !ended) = true := by simpa using hnotify
    rw [if_neg hnotify, if_neg hquiet, ← hcur]

end saved

end Ortp
