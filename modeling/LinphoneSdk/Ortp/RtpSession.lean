import LinphoneSdk.Lib.Bytes
import LinphoneSdk.Lib.Serial

/-!
# RTP sessions

The receiving side of an RTP session: what `rtp_session_rtp_parse` does with a packet read from the socket,
and what `rtp_session_recvm_with_ts` gives the application.
-/

namespace Ortp

open Bytes

/-! ### Packets -/

/-- The bytes of an RTP packet, header included. -/
abbrev Packet : Type := Bytes

def RTP_FIXED_HEADER_SIZE : ℕ := 12

def rtpGetVersion (mp : Packet) : UInt8 := mp.getD 0 0 >>> 6

def rtpGetCc (mp : Packet) : UInt8 := mp.getD 0 0 &&& 0x0F

def rtpGetPayloadType (mp : Packet) : UInt8 := mp.getD 1 0 &&& 0x7F

def rtpGetSeqnumber (mp : Packet) : UInt16 := be16At mp 2

def rtpGetTimestamp (mp : Packet) : UInt32 := be32At mp 4

def rtpGetSsrc (mp : Packet) : UInt32 := be32At mp 8

def rtpSetTimestamp (mp : Packet) (ts : UInt32) : Packet :=
  (((mp.set 4 (ts >>> 24).toUInt8).set 5 (ts >>> 16).toUInt8).set 6 (ts >>> 8).toUInt8).set 7 ts.toUInt8

@[simp] lemma rtpGetSeqnumber_rtpSetTimestamp (mp : Packet) (ts : UInt32) :
    rtpGetSeqnumber (rtpSetTimestamp mp ts) = rtpGetSeqnumber mp := by
  simp [rtpGetSeqnumber, rtpSetTimestamp, be16At, List.getD_eq_getElem?_getD, List.getElem?_set_ne]

def RtpTimestampIsNewerThan (ts1 ts2 : UInt32) : Prop := ts1 - ts2 < 0x80000000

def RtpTimestampIsStrictlyNewerThan (ts1 ts2 : UInt32) : Prop := ts1 - ts2 < 0x80000000 ∧ ts1 ≠ ts2

def RtpSeqIsStrictlyGreaterThan (seq1 seq2 : UInt16) : Prop := seq1 - seq2 < 0x8000 ∧ seq1 ≠ seq2

instance (ts1 ts2 : UInt32) : Decidable (RtpTimestampIsNewerThan ts1 ts2) :=
  inferInstanceAs (Decidable (_ < _))

instance (ts1 ts2 : UInt32) : Decidable (RtpTimestampIsStrictlyNewerThan ts1 ts2) :=
  inferInstanceAs (Decidable (_ ∧ _))

instance (seq1 seq2 : UInt16) : Decidable (RtpSeqIsStrictlyGreaterThan seq1 seq2) :=
  inferInstanceAs (Decidable (_ ∧ _))

/-! ### Queues -/

/-- The newest packet comes first. -/
def putqFromBottom (mp : Packet) : List Packet → Option (List Packet)
  | [] => some [mp]
  | tmp :: q =>
    if rtpGetSeqnumber mp = rtpGetSeqnumber tmp then none
    else if RtpSeqIsStrictlyGreaterThan (rtpGetSeqnumber mp) (rtpGetSeqnumber tmp) then some (mp :: tmp :: q)
    else (putqFromBottom mp q).map (tmp :: ·)

/-- Nothing when the packet is a duplicate. The oldest packet comes first. -/
def rtpPutq (q : List Packet) (mp : Packet) : Option (List Packet) :=
  (putqFromBottom mp q.reverse).map List.reverse

structure Queued where
  q : List Packet
  discarded : ℕ
  duplicate : ℕ
  /-- The value returned. -/
  result : Bool

def queuePacket (q : List Packet) (maxrqsz : ℕ) (mp : Packet) : Queued :=
  if mp.length = RTP_FIXED_HEADER_SIZE + 4 * (rtpGetCc mp).toNat then ⟨q, 1, 0, false⟩
  else match rtpPutq q mp with
    | none => ⟨q, 0, 1, false⟩
    -- the oldest packets leave a full queue
    | some q => ⟨q.drop (q.length - maxrqsz), q.length - maxrqsz, 0, true⟩

/-- The packet found stays in the queue, so the loop of the source meets it again and stops. -/
def rtpPeekq (q : List Packet) (timestamp : UInt32) : Option Packet :=
  q.head?.filter fun tmp => RtpTimestampIsNewerThan timestamp (rtpGetTimestamp tmp)

def rtpPeekqPermissive (q : List Packet) (timestamp : UInt32) : Option Packet :=
  q.head?.filter fun tmp => RtpTimestampIsNewerThan timestamp (rtpGetTimestamp tmp)

/-! ### Sessions -/

/-- The control of the jitter buffer: its estimations are in floating point. -/
structure JitterControl where
  State : Type
  init : State → State
  setPayload : State → UInt8 → State
  newPacket : State → UInt32 → UInt32 → State
  updateSize : State → List Packet → State
  getCompensatedTimestamp : State → UInt32 → UInt32
  updateCorrectiveSlide : State → State
  correctiveSlide : State → UInt32

structure RtpStats where
  packetRecv : ℕ
  packetDupRecv : ℕ
  outoftime : ℕ
  cumPacketLoss : ℤ
  bad : ℕ
  discarded : ℕ

/-- What the receiving side reads and changes. -/
structure RtpSession (J : JitterControl) where
  /-- The flags `RTP_SESSION_RECV_SYNC` and so on. -/
  recvSync : Bool
  firstPacketDelivered : Bool
  recvSeqInit : Bool
  flush : Bool
  overrideLostPackets : Bool
  ssrcSet : Bool
  /-- `rcv.ssrc`. -/
  ssrc : UInt32
  incSsrcCandidate : UInt32
  incSameSsrcCount : ℤ
  ssrcChangedThres : ℤ
  hwRecvPt : ℤ
  isTelephoneEvent : UInt8 → Bool
  isKnownPayload : UInt8 → Bool
  hasEventQueue : Bool
  /-- `rtp_session_resync` is called at a jump of the timestamps. -/
  resyncsOnTimestampJump : Bool
  /-- `rtp_session_resync` is called at a change of SSRC. -/
  resyncsOnSsrcChanged : Bool
  transferMode : Bool
  permissive : Bool
  lostPacketsTestVector : ℤ
  stats : RtpStats
  rq : List Packet
  tevRq : List Packet
  maxPackets : ℕ
  jitterEnabled : Bool
  jitterAdaptive : Bool
  jittctl : J.State
  hwrcvExtseq : UInt32
  hwrcvSeqAtLastSR : UInt32
  hwrcvSinceLastSR : UInt32
  rcvLastTs : UInt32
  rcvLastSeq : UInt16
  rcvTsOffset : UInt32
  tsJump : UInt32
  lastRcvSRTs : UInt32

variable {J : JitterControl}

variable (session : RtpSession J)

/-- `rtp_session_resync`. -/
def resync : RtpSession J :=
  { session with
    rq := []
    recvSync := true
    firstPacketDelivered := false
    jittctl := J.init session.jittctl
    rcvLastSeq := 0
    hwrcvExtseq := 0
    hwrcvSinceLastSR := 0
    hwrcvSeqAtLastSR := 0
    recvSeqInit := false }

def badPacket : RtpSession J :=
  { session with stats.bad := session.stats.bad + 1 }

def lockSsrc (mp : Packet) : RtpSession J × Bool :=
  let ssrc := rtpGetSsrc mp
  if session.ssrcSet then
    if session.ssrc ≠ ssrc then
      let incSameSsrcCount := if session.incSsrcCandidate = ssrc then session.incSameSsrcCount + 1 else 0
      let session := { session with incSameSsrcCount := incSameSsrcCount, incSsrcCandidate := ssrc }
      if incSameSsrcCount ≥ session.ssrcChangedThres then
        let session := { session with rcvLastTs := rtpGetTimestamp mp, ssrc := ssrc }
        (if session.resyncsOnSsrcChanged then resync session else session, true)
      else (session, false)
    else ({ session with incSameSsrcCount := 0 }, true)
  else ({ session with ssrcSet := true, ssrc := ssrc }, true)

/-! ### Extended sequence numbers -/

/-- A `poly32_t` from its halves. -/
def poly32 (hi lo : UInt16) : UInt32 := hi.toUInt32 <<< 16 ||| lo.toUInt32

def splitHi (one : UInt32) : UInt16 := (one >>> 16).toUInt16

def splitLo (one : UInt32) : UInt16 := one.toUInt16

def updateExtseq (extseq : UInt32) (seqNumber : UInt16) : UInt32 :=
  if seqNumber > splitLo extseq then poly32 (splitHi extseq) seqNumber
  -- this is a check for sequence number looping
  else if seqNumber < 200 ∧ splitLo extseq > 65336 then poly32 (splitHi extseq + 1) seqNumber
  else extseq

def updateStatistics (mp : Packet) : RtpSession J :=
  let seqNumber := rtpGetSeqnumber mp
  { session with
    hwrcvExtseq := updateExtseq session.hwrcvExtseq seqNumber
    hwrcvSeqAtLastSR :=
      if session.recvSeqInit then session.hwrcvSeqAtLastSR else seqNumber.toUInt32 - 1
    recvSeqInit := true }

/-! ### Packets received -/

def RtpStats.queued (stats : RtpStats) (queued : Queued) : RtpStats :=
  { stats with
    discarded := stats.discarded + queued.discarded
    packetDupRecv := stats.packetDupRecv + queued.duplicate }

def timestampJump : RtpSession J :=
  if session.resyncsOnTimestampJump then resync session else session

def RtpSession.JumpsForward (mp : Packet) : Prop :=
  RtpTimestampIsNewerThan (rtpGetTimestamp mp) (session.rcvLastTs + session.tsJump)

/-- A packet is older than the last one returned to the application. -/
def RtpSession.TooOld (mp : Packet) : Prop :=
  RtpTimestampIsStrictlyNewerThan session.rcvLastTs (rtpGetTimestamp mp) ∨
    RtpSeqIsStrictlyGreaterThan session.rcvLastSeq (rtpGetSeqnumber mp)

/-- The timestamp of a packet that is too old jumps in the past. -/
def RtpSession.JumpsBackward (mp : Packet) : Prop :=
  RtpTimestampIsStrictlyNewerThan session.rcvLastTs (rtpGetTimestamp mp + session.tsJump)

instance (session : RtpSession J) (mp : Packet) : Decidable (session.JumpsForward mp) :=
  inferInstanceAs (Decidable (RtpTimestampIsNewerThan _ _))

instance (session : RtpSession J) (mp : Packet) : Decidable (session.TooOld mp) :=
  inferInstanceAs (Decidable (_ ∨ _))

instance (session : RtpSession J) (mp : Packet) : Decidable (session.JumpsBackward mp) :=
  inferInstanceAs (Decidable (RtpTimestampIsStrictlyNewerThan _ _))

def queueMedia (mp : Packet) : RtpSession J :=
  let queued := queuePacket session.rq session.maxPackets mp
  { session with
    rq := queued.q
    jittctl := if queued.result then J.updateSize session.jittctl queued.q else session.jittctl
    stats := session.stats.queued queued }

def updatePayloadType (paytype : UInt8) : RtpSession J :=
  if session.hwRecvPt ≠ paytype.toNat ∧ session.isKnownPayload paytype then
    { session with hwRecvPt := paytype.toNat, jittctl := J.setPayload session.jittctl paytype }
  else session

/-- A media packet is queued, unless it is older than the last one returned to the application. -/
def receiveMedia (mp : Packet) : RtpSession J :=
  if session.firstPacketDelivered ∧ session.JumpsForward mp then queueMedia (timestampJump session) mp
  else if session.firstPacketDelivered ∧ session.TooOld mp then
    let session := if session.JumpsBackward mp then timestampJump session else session
    { session with stats.outoftime := session.stats.outoftime + 1 }
  else queueMedia session mp

/-- What is done with a packet of the stream, once it is counted. -/
def receive (mp : Packet) (localStrTs : UInt32) : RtpSession J :=
  let paytype := rtpGetPayloadType mp
  if session.isTelephoneEvent paytype then
    let queued := queuePacket session.tevRq session.maxPackets mp
    { session with tevRq := queued.q, stats := session.stats.queued queued }
  else
    let session := updatePayloadType session paytype
    if session.flush then session
    else receiveMedia
      { session with jittctl := J.newPacket session.jittctl (rtpGetTimestamp mp) localStrTs } mp

def rtpParse (mp : Packet) (localStrTs : UInt32) : RtpSession J :=
  if mp.length < RTP_FIXED_HEADER_SIZE then badPacket session
  else if rtpGetVersion mp ≠ 2 then
    -- a STUN packet goes to the application
    if (be16At mp 2).toNat + 20 = mp.length ∧ session.hasEventQueue then session else badPacket session
  else
    let session := { session with
      stats.packetRecv := session.stats.packetRecv + 1
      hwrcvSinceLastSR := session.hwrcvSinceLastSR + 1 }
    if (rtpGetCc mp).toNat * 4 > mp.length - RTP_FIXED_HEADER_SIZE then badPacket session
    else match lockSsrc session mp with
      | (session, false) => badPacket session
      | (session, true) => receive (updateStatistics session mp) mp localStrTs

/-! ### Packets returned -/

def recoverMissing (fec : UInt16 → Option Packet) (rq : List Packet) (missing : UInt16) : ℕ → List Packet
  | 0 => rq
  | n + 1 =>
    let rq := match fec missing with
      | some mp => (rtpPutq rq mp).getD rq
      | none => rq
    recoverMissing fec rq (missing + 1) n

/-- The loop of `apply_fec_on_missing_packets` over the packets of the queue: those recovered are put before
the one at hand. -/
def recoverGaps (fec : UInt16 → Option Packet) : UInt16 → List Packet → List Packet → List Packet
  | _, [], rq => rq
  | ref, mp :: rest, rq =>
    let next := rtpGetSeqnumber mp
    let rq := if next < ref then rq else recoverMissing fec rq (ref + 1) (next.toNat - ref.toNat - 1)
    recoverGaps fec next rest rq

/-- `apply_fec_on_missing_packets`, with what the FEC stream answers for each number. -/
def applyFecOnMissingPackets (fec : UInt16 → Option Packet) (session : RtpSession J) : RtpSession J :=
  match session.rq.getLast? with
  | none => session
  | some newest =>
    if ((rtpGetSeqnumber newest).toNat : ℤ) - session.rcvLastSeq.toNat > (session.rq.length % 65536 : ℕ) then
      { session with rq := recoverGaps fec session.rcvLastSeq session.rq session.rq }
    else session

def returned (mp : Packet) : Packet × RtpSession J :=
  let corrects := session.jitterEnabled && session.jitterAdaptive
  let jittctl :=
    if corrects ∧ rtpGetTimestamp mp ≠ session.rcvLastTs then J.updateCorrectiveSlide session.jittctl
    else session.jittctl
  let corrected :=
    if corrects then rtpSetTimestamp mp (rtpGetTimestamp mp + J.correctiveSlide jittctl) else mp
  (corrected, { session with
    rq := session.rq.tail
    jittctl := jittctl
    rcvLastTs := rtpGetTimestamp mp
    rcvLastSeq := rtpGetSeqnumber mp
    firstPacketDelivered := true })

/-- The flag of synchronisation is deleted when there is a packet. -/
def synchronise : RtpSession J :=
  match session.rq with
  | first :: _ =>
    if session.recvSync then
      { session with rcvTsOffset := rtpGetTimestamp first, ssrc := rtpGetSsrc first, recvSync := false }
    else session
  | [] => session

def recoverPackets (fec : Option (UInt16 → Option Packet)) (session : RtpSession J) : RtpSession J :=
  match fec with
  | some fec => if session.firstPacketDelivered then applyFecOnMissingPackets fec session else session
  | none => session

def peekMedia (userTs : UInt32) : Option Packet :=
  let ts := J.getCompensatedTimestamp session.jittctl userTs
  if session.jitterEnabled then
    if session.permissive then rtpPeekqPermissive session.rq ts else rtpPeekq session.rq ts
  else session.rq.head?

/-- `rtp_session_recvm_with_ts`, once the socket is read. The header extension of a bundle is left in the
packet. -/
def recvmWithTs (fec : Option (UInt16 → Option Packet)) (session : RtpSession J) (userTs : UInt32) :
    Option Packet × RtpSession J :=
  let session := if session.transferMode then session else { session with tevRq := session.tevRq.tail }
  if session.recvSync ∧ session.rq = [] then (none, session)
  else
    let session := recoverPackets fec (synchronise session)
    match peekMedia session userTs with
    | none => (none, session)
    | some mp =>
      let (mp, session) := returned session mp
      (some mp, session)

end Ortp
