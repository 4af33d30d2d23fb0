import Mathlib.Data.List.Chain
import LinphoneSdk.Lib.SortedQueue
import LinphoneSdk.Ortp.LossAccounting

/-!
# Delivery of packets

The packets that an RTP session returns to the application come in the order of their sequence numbers. A
packet that is received twice is refused by the queue while its first copy waits there, and by the
comparison with the last packet returned afterwards.
-/

open SortedQueue

namespace Ortp

open Bytes Serial List Option

variable {J : JitterControl}

/-! ### Sequence numbers in the queue -/

lemma rtpSeqIsStrictlyGreaterThan_iff_after (seq1 seq2 : UInt16) :
    RtpSeqIsStrictlyGreaterThan seq1 seq2 ↔ After 32768 seq1.toNat seq2.toNat := by
  rw [RtpSeqIsStrictlyGreaterThan, After, UInt16.lt_iff_toNat_lt, UInt16.toNat_sub, ne_eq, ne_eq, UInt16.toNat_inj]
  rfl

/-- The numbers that sequence numbers show compare as they do, in a window of `2 ^ 15`. -/
lemma seqnumber_compare {seq1 seq2 : UInt16} {e1 e2 : ℤ} (h1 : Shows 65536 seq1.toNat e1)
    (h2 : Shows 65536 seq2.toNat e2) (hwindow : |e1 - e2| < 2 ^ 15) :
    (seq1 = seq2 ↔ e1 = e2) ∧ (RtpSeqIsStrictlyGreaterThan seq1 seq2 ↔ e2 < e1) := by
  rw [← UInt16.toNat_inj, rtpSeqIsStrictlyGreaterThan_iff_after]
  exact ⟨h1.eq_iff h2 (hwindow.trans (by decide)), after_iff h1 h2 hwindow⟩

lemma putqFromBottom_eq_insert (mp : Packet) (q : List Packet) :
    putqFromBottom mp q = SortedQueue.insert RtpSeqIsStrictlyGreaterThan rtpGetSeqnumber mp q := by
  induction q with
  | nil => rfl
  | cons tmp q ih => rw [putqFromBottom, SortedQueue.insert, ih]

/-- A packet without payload is not queued. -/
def HasPayload (mp : Packet) : Prop := mp.length ≠ RTP_FIXED_HEADER_SIZE + 4 * (rtpGetCc mp).toNat

instance (mp : Packet) : Decidable (HasPayload mp) := inferInstanceAs (Decidable (_ ≠ _))

variable {mp : Packet}

lemma queuePacket_q {q : List Packet} {maxrqsz : ℕ} (h : HasPayload mp) : (queuePacket q maxrqsz mp).q =
      enqueue RtpSeqIsStrictlyGreaterThan rtpGetSeqnumber maxrqsz mp q := by
  rw [queuePacket, if_neg h, rtpPutq, putqFromBottom_eq_insert, enqueue]
  cases insert RtpSeqIsStrictlyGreaterThan rtpGetSeqnumber mp q.reverse with
  | none => rfl
  | some q' => simp

/-! ### Packets that arrive -/

variable (session : RtpSession J)

/-- A packet goes to the queue. -/
def RtpSession.Accepts (mp : Packet) : Prop :=
  session.isTelephoneEvent (rtpGetPayloadType mp) = false ∧ session.flush = false ∧
    ¬ (session.firstPacketDelivered = true ∧ session.TooOld mp) ∧ HasPayload mp

instance (session : RtpSession J) (mp : Packet) : Decidable (session.Accepts mp) :=
  inferInstanceAs (Decidable (_ ∧ _ ∧ _ ∧ _))

/-- The timestamp of a packet does not jump. -/
def RtpSession.InTime (mp : Packet) : Prop :=
  session.firstPacketDelivered = true → ¬ session.JumpsForward mp ∧ ¬ session.JumpsBackward mp

instance (session : RtpSession J) (mp : Packet) : Decidable (session.InTime mp) :=
  inferInstanceAs (Decidable (_ → _))

/-- What the order of the packets returned depends on. -/
structure Queue where
  rq : List Packet
  rcvLastSeq : UInt16
  firstPacketDelivered : Bool

def RtpSession.queue : Queue :=
  ⟨session.rq, session.rcvLastSeq, session.firstPacketDelivered⟩

lemma queue_queueMedia (mp : Packet) : (queueMedia session mp).queue =
      { session.queue with rq := (queuePacket session.rq session.maxPackets mp).q } := rfl

variable {session : RtpSession J}

lemma queue_receiveMedia (h : session.InTime mp) : (receiveMedia session mp).queue =
      if session.firstPacketDelivered = true ∧ session.TooOld mp then session.queue
      else { session.queue with rq := (queuePacket session.rq session.maxPackets mp).q } := by
  rw [receiveMedia, if_neg fun hjumps => (h hjumps.1).1 hjumps.2]
  by_cases hold : session.firstPacketDelivered = true ∧ session.TooOld mp
  · rw [if_pos hold, if_pos hold]
    simp only [if_neg (h hold.1).2]
    rfl
  · rw [if_neg hold, if_neg hold]
    exact queue_queueMedia session mp

lemma queue_receive (h : session.InTime mp) (localStrTs : UInt32) : (receive session mp localStrTs).queue =
      if session.Accepts mp then { session.queue with
        rq := enqueue RtpSeqIsStrictlyGreaterThan rtpGetSeqnumber session.maxPackets mp session.rq }
      else session.queue := by
  obtain ⟨hwRecvPt, jittctl, hpayload⟩ := exists_updatePayloadType session (rtpGetPayloadType mp)
  simp only [receive, hpayload]
  by_cases htev : session.isTelephoneEvent (rtpGetPayloadType mp) = true
  · rw [if_pos htev, if_neg fun haccepts => by simp [haccepts.1] at htev]
    rfl
  · rw [if_neg htev]
    by_cases hflush : session.flush = true
    · rw [if_pos hflush, if_neg fun haccepts => by simp [haccepts.2.1] at hflush]
      rfl
    · rw [if_neg hflush]
      rw [Bool.not_eq_true] at htev hflush
      have hintime : RtpSession.InTime { session with
          hwRecvPt := hwRecvPt, jittctl := J.newPacket jittctl (rtpGetTimestamp mp) localStrTs } mp := h
      have hmedia := queue_receiveMedia hintime
      by_cases hold : session.firstPacketDelivered = true ∧ session.TooOld mp
      · rw [if_neg fun haccepts => haccepts.2.2.1 hold]
        exact hmedia.trans (if_pos hold)
      · refine (hmedia.trans (if_neg hold)).trans ?_
        by_cases hempty : HasPayload mp
        · rw [if_pos ⟨htev, hflush, hold, hempty⟩, queuePacket_q hempty]
          rfl
        · rw [if_neg fun haccepts => hempty haccepts.2.2.2]
          rw [queuePacket, if_pos (not_not.mp hempty)]
          rfl

lemma queue_rtpParse (hstream : session.IsOfStream mp) (h : session.InTime mp) (localStrTs : UInt32) :
    (rtpParse session mp localStrTs).queue = if session.Accepts mp then { session.queue with
        rq := enqueue RtpSeqIsStrictlyGreaterThan rtpGetSeqnumber session.maxPackets mp session.rq }
      else session.queue := by
  have hlength := hstream.length
  have hcounted : RtpSession.IsOfStream { session with
      stats.packetRecv := session.stats.packetRecv + 1
      hwrcvSinceLastSR := session.hwrcvSinceLastSR + 1 } mp := ⟨hstream.length, hstream.version, hstream.ssrc⟩
  obtain ⟨incSameSsrcCount, hlock⟩ := exists_lockSsrc hcounted
  rw [rtpParse, if_neg (by omega), if_neg (not_not.mpr hstream.version)]
  simp only [hlock]
  rw [if_neg (by omega)]
  refine (queue_receive ?_ localStrTs).trans ?_
  · exact h
  · rfl

/-! ### Packets that the FEC stream recovers -/

/-- The answers of a FEC stream are the packets asked for. -/
def Recovers (fec : UInt16 → Option Packet) : Prop := ∀ n mp, fec n = some mp → rtpGetSeqnumber mp = n

/-- The number of a packet, in the window that follows the last packet returned. -/
def numberAfter (last : ℤ) (mp : Packet) : ℤ := numberFrom 65536 last (rtpGetSeqnumber mp).toNat

/-- The packets of a queue are sorted, in the window that follows the last packet returned. -/
structure SortedAfter (last : ℤ) (rq : List Packet) : Prop where
  sorted : rq.Pairwise (numberAfter last · < numberAfter last ·)
  window : ∀ mp ∈ rq, last < numberAfter last mp ∧ numberAfter last mp < last + 2 ^ 15

lemma shows_numberAfter (last : ℤ) (mp : Packet) : Shows 65536 (rtpGetSeqnumber mp).toNat (numberAfter last mp) :=
  shows_numberFrom (rtpGetSeqnumber mp).toNat_lt

lemma numberAfter_eq {last e : ℤ} (hshows : Shows 65536 (rtpGetSeqnumber mp).toNat e) (hafter : last < e)
    (hwindow : e < last + 2 ^ 15) : numberAfter last mp = e :=
  hshows.numberFrom_eq hafter.le (by push_cast; omega)

variable {last : ℤ}

/-- A packet of the window enters the queue at its number. -/
lemma SortedAfter.rtpPutq {rq : List Packet} (hrq : SortedAfter last rq)
    (hmp : last < numberAfter last mp ∧ numberAfter last mp < last + 2 ^ 15) :
    SortedAfter last ((rtpPutq rq mp).getD rq) := by
  have hput : (Ortp.rtpPutq rq mp).getD rq = enqueue (· > ·) (numberAfter last) (rq.length + 1) mp rq := by
    rw [Ortp.rtpPutq, putqFromBottom_eq_insert, ← enqueue_of_lt (Nat.lt_succ_self _)]
    refine enqueue_congr fun tmp htmp => ?_
    have hwindow := hrq.window tmp htmp
    refine seqnumber_compare (shows_numberAfter last mp) (shows_numberAfter last tmp) ?_
    rw [abs_lt]
    omega
  rw [hput]
  constructor
  · exact pairwise_enqueue hrq.sorted
  · intro tmp htmp
    rcases mem_of_mem_enqueue htmp with rfl | htmp
    · exact hmp
    · exact hrq.window tmp htmp

/-- The packets recovered from a number on enter the queue, as long as they are in the window. -/
lemma SortedAfter.recoverMissing {fec : UInt16 → Option Packet} (hfec : Recovers fec) :
    ∀ {n : ℕ} {rq : List Packet} {missing : UInt16} {e : ℤ}, SortedAfter last rq →
      Shows 65536 missing.toNat e → last < e → e + n ≤ last + 2 ^ 15 →
      SortedAfter last (Ortp.recoverMissing fec rq missing n)
  | 0, rq, missing, e, hrq, _, _, _ => hrq
  | n + 1, rq, missing, e, hrq, hshows, hafter, hwindow => by
    have hnext : Shows 65536 (missing + 1).toNat (e + 1) := by
      rw [Shows] at hshows ⊢
      rw [UInt16.toNat_add, show (1 : UInt16).toNat = 1 from rfl]
      omega
    rw [Ortp.recoverMissing]
    refine SortedAfter.recoverMissing hfec ?_ hnext (by omega) (by push_cast at hwindow; omega)
    cases hmissing : fec missing with
    | none => exact hrq
    | some mp =>
      rw [← hfec missing mp hmissing] at hshows
      have hnumber := numberAfter_eq hshows hafter (by push_cast at hwindow; omega)
      exact hrq.rtpPutq ⟨by omega, by push_cast at hwindow; omega⟩

/-- The difference of sequence numbers that do not wrap. -/
lemma sub_of_le {ref next : UInt16} {x y : ℤ} (hx : Shows 65536 ref.toNat x)
    (hy : Shows 65536 next.toNat y) (hle : ¬ next < ref) (hxy : x < y) (hyx : y < x + 2 ^ 15) :
    y - x = next.toNat - ref.toNat := by
  have hlt : ¬ next.toNat < ref.toNat := hle
  have href := ref.toNat_lt
  have hnext := next.toNat_lt
  rw [Shows] at hx hy
  omega

lemma SortedAfter.recoverGaps {fec : UInt16 → Option Packet} (hfec : Recovers fec) {rest rq : List Packet}
    {ref : UInt16} {x : ℤ} (hrq : SortedAfter last rq) (hrest : SortedAfter last rest)
    (href : Shows 65536 ref.toNat x) (hlast : last ≤ x) (hx : ∀ mp ∈ rest, x < numberAfter last mp) :
    SortedAfter last (Ortp.recoverGaps fec ref rest rq) := by
  induction rest generalizing rq ref x with
  | nil => exact hrq
  | cons mp rest ih =>
    obtain ⟨hmp, hsorted⟩ := pairwise_cons.mp hrest.sorted
    have hwindow := hrest.window mp mem_cons_self
    have hlt := hx mp mem_cons_self
    have hshows := shows_numberAfter last mp
    rw [Ortp.recoverGaps]
    refine ih ?_ ⟨hsorted, fun tmp htmp => hrest.window tmp (mem_cons_of_mem _ htmp)⟩ hshows
      hwindow.1.le hmp
    split_ifs with hwraps
    · exact hrq
    · have hsub := sub_of_le href hshows hwraps hlt (by omega)
      have hnext : Shows 65536 (ref + 1).toNat (x + 1) := by
        rw [Shows] at href ⊢
        rw [UInt16.toNat_add, show (1 : UInt16).toNat = 1 from rfl]
        omega
      exact hrq.recoverMissing hfec hnext (by omega) (by omega)

variable {fec : Option (UInt16 → Option Packet)}

/-- The packets recovered come after the last one returned. -/
lemma SortedAfter.recoverPackets (hfec : ∀ f ∈ fec, Recovers f) (hlast : Shows 65536 session.rcvLastSeq.toNat last)
    (hrq : SortedAfter last session.rq) : SortedAfter last (Ortp.recoverPackets fec session).rq := by
  have hgaps (f : UInt16 → Option Packet) (hf : Recovers f) :
      SortedAfter last (Ortp.recoverGaps f session.rcvLastSeq session.rq session.rq) :=
    hrq.recoverGaps hf hrq hlast le_rfl fun mp hmp => (hrq.window mp hmp).1
  cases fec with
  | none => exact hrq
  | some f =>
    simp only [Ortp.recoverPackets, applyFecOnMissingPackets]
    split_ifs
    · split
      · exact hrq
      · split_ifs
        · exact hgaps f (hfec f rfl)
        · exact hrq
    · exact hrq

/-! ### Packets returned -/

lemma rq_recoverPackets_congr (fec : Option (UInt16 → Option Packet)) {session session' : RtpSession J}
    (h : session.queue = session'.queue) : (recoverPackets fec session).rq = (recoverPackets fec session').rq := by
  have hrq : session.rq = session'.rq := congrArg Queue.rq h
  have hlast : session.rcvLastSeq = session'.rcvLastSeq := congrArg Queue.rcvLastSeq h
  have hdelivered : session.firstPacketDelivered = session'.firstPacketDelivered :=
    congrArg Queue.firstPacketDelivered h
  cases fec with
  | none => exact hrq
  | some fec =>
    simp only [recoverPackets, applyFecOnMissingPackets, hdelivered, hrq, hlast]
    split_ifs
    · split
      · exact hrq
      · split_ifs
        · rfl
        · exact hrq
    · exact hrq

lemma queue_recoverPackets (fec : Option (UInt16 → Option Packet)) (session : RtpSession J) :
    (recoverPackets fec session).queue = { session.queue with rq := (recoverPackets fec session).rq } := by
  obtain ⟨rq, hrecover⟩ := exists_recoverPackets fec session
  rw [hrecover]
  rfl

lemma head?_of_peekMedia {userTs : UInt32} (h : peekMedia session userTs = some mp) : session.rq.head? = some mp := by
  simp only [peekMedia, rtpPeekqPermissive, rtpPeekq] at h
  split_ifs at h
  · exact (filter_eq_some_iff.mp h).1
  · exact (filter_eq_some_iff.mp h).1
  · exact h

lemma queue_recvmWithTs (fec : Option (UInt16 → Option Packet)) (session : RtpSession J) (userTs : UInt32) :
    (recvmWithTs fec session userTs).1 = none ∧ (recvmWithTs fec session userTs).2.queue =
        { session.queue with rq := (recoverPackets fec session).rq } ∨
      ∃ first rest mp, (recoverPackets fec session).rq = first :: rest ∧
        (recvmWithTs fec session userTs).1 = some mp ∧ rtpGetSeqnumber mp = rtpGetSeqnumber first ∧
        (recvmWithTs fec session userTs).2.queue = ⟨rest, rtpGetSeqnumber first, true⟩ := by
  simp only [recvmWithTs]
  generalize htev : (if session.transferMode then session
    else { session with tevRq := session.tevRq.tail }) = session'
  have hqueue : session'.queue = session.queue := by
    rw [← htev]
    split_ifs
    · rfl
    · rfl
  by_cases hsync : session'.recvSync = true ∧ session'.rq = []
  · rw [if_pos hsync]
    have hempty : session.rq = [] := (congrArg Queue.rq hqueue).symm.trans hsync.2
    have hrecover : (recoverPackets fec session).rq = [] := by
      cases fec with
      | none => exact hempty
      | some fec => simp [recoverPackets, applyFecOnMissingPackets, hempty]
    refine .inl ⟨rfl, ?_⟩
    rw [hrecover, ← hempty]
    exact hqueue
  · rw [if_neg hsync]
    obtain ⟨rcvTsOffset, ssrc, recvSync, hsynchronise⟩ := exists_synchronise session'
    have hqueue' : (synchronise session').queue = session.queue := by
      rw [hsynchronise]
      exact hqueue
    rw [← rq_recoverPackets_congr fec hqueue']
    have hrecovered := queue_recoverPackets fec (synchronise session')
    rw [hqueue'] at hrecovered
    generalize hsession : recoverPackets fec (synchronise session') = session'' at hrecovered ⊢
    cases hpeek : peekMedia session'' userTs with
    | none => exact .inl ⟨rfl, hrecovered⟩
    | some first =>
      obtain ⟨rest, hrest⟩ := head?_eq_some_iff.mp (head?_of_peekMedia hpeek)
      refine .inr ⟨first, rest, _, hrest, rfl, ?_, ?_⟩
      · simp only [returned]
        split_ifs
        · exact rtpGetSeqnumber_rtpSetTimestamp _ _
        · exact rtpGetSeqnumber_rtpSetTimestamp _ _
        · rfl
      · simp only [returned, RtpSession.queue, hrest, tail_cons]

/-! ### Runs -/

/-- A session, with the numbers of the packets that wait in its queue, and what it returned to the
application, the newest first. -/
structure Delivery (J : JitterControl) where
  session : RtpSession J
  pending : List (Packet × ℤ)
  returned : List Packet
  delivered : List ℤ

/-- A packet is the next one to arrive, in a window of `2 ^ 15` numbers. -/
structure Delivery.IsNext (d : Delivery J) (mp : Packet) (e : ℤ) : Prop where
  isOfStream : d.session.IsOfStream mp
  shows : Shows 65536 (rtpGetSeqnumber mp).toNat e
  window : ∀ p ∈ d.pending, |e - p.2| < 2 ^ 15
  windowLast : ∀ last ∈ d.delivered.head?, |e - last| < 2 ^ 15
  inTime : d.session.InTime mp

def Delivery.receive (d : Delivery J) (mp : Packet) (localStrTs : UInt32) (e : ℤ) : Delivery J :=
  { d with
    session := rtpParse d.session mp localStrTs
    pending := if d.session.Accepts mp then
        enqueue (· > ·) Prod.snd d.session.maxPackets (mp, e) d.pending
      else d.pending }

def Delivery.recovered (d : Delivery J) (fec : Option (UInt16 → Option Packet)) : List (Packet × ℤ) :=
  match d.delivered with
  | [] => d.pending
  | last :: _ => (recoverPackets fec d.session).rq.map fun mp => (mp, numberAfter last mp)

def Delivery.recvm (d : Delivery J) (fec : Option (UInt16 → Option Packet)) (userTs : UInt32) : Delivery J :=
  match recvmWithTs fec d.session userTs with
  | (none, session) => { d with session := session, pending := d.recovered fec }
  | (some mp, session) =>
    ⟨session, (d.recovered fec).tail, mp :: d.returned, ((d.recovered fec).head?.map Prod.snd).toList ++ d.delivered⟩

/-- The calls of an application, when the packets that arrive are those that `P` lets through. -/
inductive DeliveryStep (P : Delivery J → Packet → ℤ → Prop) (d : Delivery J) : Delivery J → Prop where
  | parse {mp : Packet} {e : ℤ} (localStrTs : UInt32) (hnext : d.IsNext mp e) (hmp : P d mp e) :
      DeliveryStep P d (d.receive mp localStrTs e)
  | recvm {fec : Option (UInt16 → Option Packet)} (hfec : ∀ f ∈ fec, Recovers f) (userTs : UInt32) :
      DeliveryStep P d (d.recvm fec userTs)

/-- A packet enters the queue, with the sequence number of the last one returned. -/
def RtpSession.Repeats (mp : Packet) : Prop :=
  session.firstPacketDelivered = true ∧ rtpGetSeqnumber mp = session.rcvLastSeq ∧ session.Accepts mp ∧
    session.rq.length < session.maxPackets

instance (session : RtpSession J) (mp : Packet) : Decidable (session.Repeats mp) :=
  inferInstanceAs (Decidable (_ ∧ _ ∧ _ ∧ _))

/-- The packets that wait are sorted, and follow those returned. -/
structure Delivery.Ordered (d : Delivery J) : Prop where
  rq : d.session.rq = d.pending.map Prod.fst
  shows : ∀ p ∈ d.pending, Shows 65536 (rtpGetSeqnumber p.1).toNat p.2
  sorted : d.pending.Pairwise (·.2 < ·.2)
  window : ∀ p ∈ d.pending, ∀ p' ∈ d.pending, |p.2 - p'.2| < 2 ^ 15
  firstPacketDelivered : d.session.firstPacketDelivered = !d.delivered.isEmpty
  last : ∀ last ∈ d.delivered.head?, Shows 65536 d.session.rcvLastSeq.toNat last ∧
    ∀ p ∈ d.pending, last < p.2 ∧ p.2 < last + 2 ^ 15
  returned : Forall₂ (fun mp e => Shows 65536 (rtpGetSeqnumber mp).toNat e) d.returned d.delivered
  delivered : d.delivered.IsChain fun e last => last < e ∧ e < last + 2 ^ 15

/-- A session that returned no packet, and has none to return. -/
structure RtpSession.IsEmpty (session : RtpSession J) : Prop where
  rq : session.rq = []
  firstPacketDelivered : session.firstPacketDelivered = false

lemma ordered_of_isEmpty (h : session.IsEmpty) : Delivery.Ordered ⟨session, [], [], []⟩ where
  rq := h.rq
  shows := by simp
  sorted := .nil
  window := by simp
  firstPacketDelivered := h.firstPacketDelivered
  last := by simp
  returned := .nil
  delivered := .nil

variable {d : Delivery J}

/-- The queue of the session changes as the packets that wait do. -/
lemma Delivery.Ordered.rq_receive (h : d.Ordered) {e : ℤ} (hnext : d.IsNext mp e) (localStrTs : UInt32) :
    (d.receive mp localStrTs e).session.queue =
      { d.session.queue with rq := (d.receive mp localStrTs e).pending.map Prod.fst } := by
  have hqueue := queue_rtpParse hnext.isOfStream hnext.inTime localStrTs
  simp only [Delivery.receive, hqueue]
  by_cases haccepts : d.session.Accepts mp
  · rw [if_pos haccepts, if_pos haccepts, h.rq, ← enqueue_map Prod.fst fun p hp =>
      seqnumber_compare hnext.shows (h.shows p hp) (hnext.window p hp)]
  · rw [if_neg haccepts, if_neg haccepts, ← h.rq]
    rfl

lemma Delivery.mem_receive {localStrTs : UInt32} {e : ℤ} {p : Packet × ℤ}
    (hp : p ∈ (d.receive mp localStrTs e).pending) : p = (mp, e) ∨ p ∈ d.pending := by
  rw [Delivery.receive] at hp
  split_ifs at hp
  · exact mem_of_mem_enqueue hp
  · exact .inr hp

/-- The packets that wait after an arrival follow the last one returned, unless it is repeated. -/
lemma Delivery.Ordered.after_receive (h : d.Ordered) {e : ℤ} (hnext : d.IsNext mp e)
    (hrepeats : ¬ d.session.Repeats mp) (localStrTs : UInt32) (hlast : last ∈ d.delivered.head?) {p : Packet × ℤ}
    (hp : p ∈ (d.receive mp localStrTs e).pending) : last < p.2 ∧ p.2 < last + 2 ^ 15 := by
  obtain ⟨hshows, hafter⟩ := h.last last hlast
  have hdelivered : d.session.firstPacketDelivered = true := by
    rw [h.firstPacketDelivered]
    cases hd : d.delivered with
    | nil => simp [hd] at hlast
    | cons _ _ => rfl
  simp only [Delivery.receive] at hp
  split_ifs at hp with haccepts
  · have hwindow := hnext.windowLast last hlast
    obtain ⟨heq, hgreater⟩ := seqnumber_compare hshows hnext.shows (abs_sub_comm e last ▸ hwindow)
    have hle : ¬ e < last := fun hlt => haccepts.2.2.1 ⟨hdelivered, .inr (hgreater.mpr hlt)⟩
    rw [abs_lt] at hwindow
    by_cases hsame : last = e
    · -- the packet does not enter a full queue, where it is the oldest one
      have hfull : d.session.maxPackets ≤ d.session.rq.length := by
        by_contra hroom
        exact hrepeats ⟨hdelivered, (heq.mpr hsame).symm, haccepts, not_le.mp hroom⟩
      rw [h.rq, length_map] at hfull
      refine hafter p (mem_of_mem_enqueue_of_lt (fun q hq => ?_) hfull hp)
      exact hsame ▸ (hafter q hq).1
    · rcases mem_of_mem_enqueue hp with rfl | hp
      · exact ⟨by omega, by omega⟩
      · exact hafter p hp
  · exact hafter p hp

lemma Delivery.Ordered.receive (h : d.Ordered) {e : ℤ} (hnext : d.IsNext mp e) (hrepeats : ¬ d.session.Repeats mp)
    (localStrTs : UInt32) : (d.receive mp localStrTs e).Ordered := by
  have hqueue := h.rq_receive hnext localStrTs
  have hlastSeq : (d.receive mp localStrTs e).session.rcvLastSeq = d.session.rcvLastSeq :=
    congrArg Queue.rcvLastSeq hqueue
  have hdelivered : (d.receive mp localStrTs e).session.firstPacketDelivered =
      d.session.firstPacketDelivered := congrArg Queue.firstPacketDelivered hqueue
  refine ⟨congrArg Queue.rq hqueue, fun p hp => ?_, ?_, fun p hp p' hp' => ?_,
    hdelivered.trans h.firstPacketDelivered, fun last hlast => ⟨?_, fun p hp => ?_⟩, h.returned, h.delivered⟩
  · rcases mem_receive hp with rfl | hp
    · exact hnext.shows
    · exact h.shows p hp
  · rw [Delivery.receive]
    split_ifs
    · exact pairwise_enqueue h.sorted
    · exact h.sorted
  · rcases mem_receive hp with rfl | hp
    · rcases mem_receive hp' with rfl | hp'
      · simp
      · exact hnext.window p' hp'
    · rcases mem_receive hp' with rfl | hp'
      · rw [abs_sub_comm]
        exact hnext.window p hp
      · exact h.window p hp p' hp'
  · rw [hlastSeq]
    exact (h.last last hlast).1
  · exact h.after_receive hnext hrepeats localStrTs hlast hp

/-- The packets that wait once some are recovered. -/
structure Recovered (d : Delivery J) (rq : List Packet) (pending : List (Packet × ℤ)) : Prop where
  rq : rq = pending.map Prod.fst
  shows : ∀ p ∈ pending, Shows 65536 (rtpGetSeqnumber p.1).toNat p.2
  sorted : pending.Pairwise (·.2 < ·.2)
  window : ∀ p ∈ pending, ∀ p' ∈ pending, |p.2 - p'.2| < 2 ^ 15
  last : ∀ last ∈ d.delivered.head?, ∀ p ∈ pending, last < p.2 ∧ p.2 < last + 2 ^ 15

lemma Delivery.Ordered.recovered (h : d.Ordered) (hfec : ∀ f ∈ fec, Recovers f) :
    Recovered d (recoverPackets fec d.session).rq (d.recovered fec) := by
  have hfirst := h.firstPacketDelivered
  cases hdelivered : d.delivered with
  | nil =>
    rw [hdelivered] at hfirst
    have hrecover : recoverPackets fec d.session = d.session := by
      cases fec with
      | none => rfl
      | some f => simp [recoverPackets, hfirst]
    simp only [Delivery.recovered, hdelivered, hrecover]
    exact ⟨h.rq, h.shows, h.sorted, h.window, by simp [hdelivered]⟩
  | cons last _ =>
    obtain ⟨hlast, hafter⟩ := h.last last (by simp [hdelivered])
    have hnumber (p : Packet × ℤ) (hp : p ∈ d.pending) : numberAfter last p.1 = p.2 :=
      numberAfter_eq (h.shows p hp) (hafter p hp).1 (hafter p hp).2
    have hrq : SortedAfter last d.session.rq := by
      rw [h.rq]
      constructor
      · rw [List.pairwise_map]
        refine h.sorted.imp_of_mem fun hp hp' hlt => ?_
        rw [hnumber _ hp, hnumber _ hp']
        exact hlt
      · intro mp hmp
        obtain ⟨p, hp, rfl⟩ := List.mem_map.mp hmp
        rw [hnumber p hp]
        exact hafter p hp
    have hrecovered := hrq.recoverPackets hfec hlast
    simp only [Delivery.recovered, hdelivered]
    constructor
    · rw [List.map_map]
      exact (List.map_id _).symm
    · intro p hp
      obtain ⟨mp, -, rfl⟩ := List.mem_map.mp hp
      exact shows_numberAfter last mp
    · rw [List.pairwise_map]
      exact hrecovered.sorted
    · intro p hp p' hp'
      obtain ⟨mp, hmp, rfl⟩ := List.mem_map.mp hp
      obtain ⟨mp', hmp', rfl⟩ := List.mem_map.mp hp'
      have hwindow := hrecovered.window mp hmp
      have hwindow' := hrecovered.window mp' hmp'
      rw [abs_lt]
      omega
    · intro last' hlast' p hp
      rw [hdelivered] at hlast'
      obtain rfl := Option.some_inj.mp hlast'
      obtain ⟨mp, hmp, rfl⟩ := List.mem_map.mp hp
      exact hrecovered.window mp hmp

lemma Delivery.Ordered.recvm (h : d.Ordered) (hfec : ∀ f ∈ fec, Recovers f) (userTs : UInt32) :
    (d.recvm fec userTs).Ordered := by
  obtain ⟨hrq, hshows, hsorted, hwindow, hlast⟩ := h.recovered hfec
  rw [Delivery.recvm]
  rcases queue_recvmWithTs fec d.session userTs with ⟨hnone, hqueue⟩ | ⟨first, rest, mp, hfirst, hsome, hseq, hqueue⟩
  · generalize recvmWithTs fec d.session userTs = result at hnone hqueue
    obtain ⟨_, session⟩ := result
    obtain rfl := hnone
    have hlastSeq : session.rcvLastSeq = d.session.rcvLastSeq := congrArg Queue.rcvLastSeq hqueue
    refine ⟨(congrArg Queue.rq hqueue).trans hrq, hshows, hsorted, hwindow,
      (congrArg Queue.firstPacketDelivered hqueue).trans h.firstPacketDelivered,
      fun last hd => ⟨?_, hlast last hd⟩, h.returned, h.delivered⟩
    simp only [hlastSeq]
    exact (h.last last hd).1
  · generalize recvmWithTs fec d.session userTs = result at hsome hqueue
    obtain ⟨_, session⟩ := result
    obtain rfl := hsome
    rw [hrq] at hfirst
    obtain ⟨⟨_, e⟩, pending, hpending, rfl, rfl⟩ := map_eq_cons_iff.mp hfirst
    simp only [hpending, head?_cons, tail_cons, map_some, toList_some,
      singleton_append] at hshows hsorted hwindow hlast ⊢
    obtain ⟨hlt, hsorted⟩ := pairwise_cons.mp hsorted
    have hshowsFirst := hshows _ mem_cons_self
    refine ⟨congrArg Queue.rq hqueue, fun p hp => hshows p (mem_cons_of_mem _ hp), hsorted,
      fun p hp p' hp' => hwindow p (mem_cons_of_mem _ hp) p' (mem_cons_of_mem _ hp'),
      congrArg Queue.firstPacketDelivered hqueue, fun last hd => ?_, ?_, ?_⟩
    · obtain rfl := some_inj.mp hd
      refine ⟨?_, fun p hp => ?_⟩
      · rw [show session.rcvLastSeq = _ from congrArg Queue.rcvLastSeq hqueue]
        exact hshowsFirst
      · have hclose := hwindow p (mem_cons_of_mem _ hp) _ mem_cons_self
        rw [abs_lt] at hclose
        exact ⟨hlt p hp, by omega⟩
    · refine .cons ?_ h.returned
      rw [hseq]
      exact hshowsFirst
    · refine isChain_cons.mpr ⟨fun last hd => ?_, h.delivered⟩
      exact hlast last hd _ mem_cons_self

lemma Delivery.Ordered.step {d d' : Delivery J} (h : d.Ordered)
    (hstep : DeliveryStep (fun d mp _ => ¬ d.session.Repeats mp) d d') : d'.Ordered := by
  cases hstep with
  | parse localStrTs hnext hrepeats => exact h.receive hnext hrepeats localStrTs
  | recvm hfec userTs => exact h.recvm hfec userTs

/-- Sequence numbers follow each other as the numbers that they show. -/
lemma isChain_seqnumber {returned : List Packet} {delivered : List ℤ}
    (hshows : Forall₂ (fun mp e => Shows 65536 (rtpGetSeqnumber mp).toNat e) returned delivered)
    (hchain : delivered.IsChain fun e last => last < e ∧ e < last + 2 ^ 15) : returned.IsChain fun mp last =>
      RtpSeqIsStrictlyGreaterThan (rtpGetSeqnumber mp) (rtpGetSeqnumber last) := by
  induction hshows with
  | nil => exact .nil
  | cons hmp hshows ih =>
    refine (ih hchain.of_cons).cons fun last hlast => ?_
    cases hshows with
    | nil => cases hlast
    | cons hmp' _ =>
      obtain rfl := some_inj.mp hlast
      obtain ⟨⟨hlt, hclose⟩, -⟩ := isChain_cons_cons.mp hchain
      refine (seqnumber_compare hmp hmp' ?_).2.mpr hlt
      rw [abs_lt]
      omega

/-- In a run where the last packet returned does not enter the queue again, the packets returned come in the
order of their sequence numbers, and none of them twice. -/
theorem returned_of_run {session : RtpSession J} {d : Delivery J} (hempty : session.IsEmpty)
    (hrun : Relation.ReflTransGen (DeliveryStep fun d mp _ => ¬ d.session.Repeats mp) ⟨session, [], [], []⟩ d) :
    d.returned.IsChain (fun mp last => RtpSeqIsStrictlyGreaterThan (rtpGetSeqnumber mp) (rtpGetSeqnumber last)) ∧
      d.delivered.Pairwise (· > ·) ∧
      Forall₂ (fun mp e => Shows 65536 (rtpGetSeqnumber mp).toNat e) d.returned d.delivered := by
  have h : d.Ordered := by
    induction hrun with
    | refl => exact ordered_of_isEmpty hempty
    | tail _ hstep ih => exact ih.step hstep
  have hchain : d.delivered.IsChain (· > ·) := h.delivered.imp fun _ _ hlt => hlt.1
  exact ⟨isChain_seqnumber h.returned h.delivered, isChain_iff_pairwise.mp hchain, h.returned⟩

/-! ### A packet that is received again -/

instance (d : Delivery J) (mp : Packet) (e : ℤ) : Decidable (d.IsNext mp e) :=
  decidable_of_iff (d.session.IsOfStream mp ∧ Shows 65536 (rtpGetSeqnumber mp).toNat e ∧
      (∀ p ∈ d.pending, |e - p.2| < 2 ^ 15) ∧ (∀ last ∈ d.delivered.head?, |e - last| < 2 ^ 15) ∧
      d.session.InTime mp)
    ⟨fun h => ⟨h.1, h.2.1, h.2.2.1, h.2.2.2.1, h.2.2.2.2⟩,
      fun h => ⟨h.isOfStream, h.shows, h.window, h.windowLast, h.inTime⟩⟩

/-- The timestamps do not decrease in the order of the sequence numbers. -/
def Delivery.TimestampsInOrder (d : Delivery J) (mp : Packet) (e : ℤ) : Prop :=
  (∀ p ∈ d.pending, (p.2 ≤ e → RtpTimestampIsNewerThan (rtpGetTimestamp mp) (rtpGetTimestamp p.1)) ∧
      (e ≤ p.2 → RtpTimestampIsNewerThan (rtpGetTimestamp p.1) (rtpGetTimestamp mp))) ∧
  ∀ last ∈ d.delivered.head?, (last ≤ e → RtpTimestampIsNewerThan (rtpGetTimestamp mp) d.session.rcvLastTs) ∧
      (e ≤ last → RtpTimestampIsNewerThan d.session.rcvLastTs (rtpGetTimestamp mp))

instance (d : Delivery J) (mp : Packet) (e : ℤ) : Decidable (d.TimestampsInOrder mp e) :=
  inferInstanceAs (Decidable (_ ∧ _))

def Delivery.sample : Delivery .sample := ⟨.sample, [], [], []⟩

def firstDelivery : Delivery .sample := Delivery.sample.receive (samplePacket 0) 0 65536

/-- The one before the wrap arrives. -/
def reorderedDelivery : Delivery .sample := firstDelivery.receive (samplePacket 65535) 0 65535

/-- It arrives again. -/
def duplicateDelivery : Delivery .sample := reorderedDelivery.receive (samplePacket 65535) 0 65535

/-- They are returned. -/
def orderedDelivery : Delivery .sample := (duplicateDelivery.recvm none 0).recvm none 0

lemma isNext_reordered :
    Delivery.sample.IsNext (samplePacket 0) 65536 ∧ ¬ Delivery.sample.session.Repeats (samplePacket 0) ∧
    firstDelivery.IsNext (samplePacket 65535) 65535 ∧ ¬ firstDelivery.session.Repeats (samplePacket 65535) ∧
    reorderedDelivery.IsNext (samplePacket 65535) 65535 ∧ ¬ reorderedDelivery.session.Repeats (samplePacket 65535) ∧
    orderedDelivery.returned = [samplePacket 0, samplePacket 65535] ∧
    orderedDelivery.delivered = [65536, 65535] := by
  decide +kernel

lemma isEmpty_sample : RtpSession.sample.IsEmpty := ⟨rfl, rfl⟩

/-- Packets that wrap, in the wrong order, one of them twice while it waits. -/
theorem returned_of_run_reordered : orderedDelivery.returned = [samplePacket 0, samplePacket 65535] ∧
      RtpSeqIsStrictlyGreaterThan (rtpGetSeqnumber (samplePacket 0)) (rtpGetSeqnumber (samplePacket 65535)) ∧
      List.Pairwise (· > ·) [(65536 : ℤ), 65535] := by
  obtain ⟨hfirst, hfirst', hnext, hnext', hduplicate, hduplicate', hreturned, hdelivered⟩ := isNext_reordered
  have hstep₁ : DeliveryStep (fun d mp _ => ¬ d.session.Repeats mp) Delivery.sample firstDelivery :=
    .parse 0 hfirst hfirst'
  have hstep₂ : DeliveryStep (fun d mp _ => ¬ d.session.Repeats mp) firstDelivery reorderedDelivery :=
    .parse 0 hnext hnext'
  have hstep₃ : DeliveryStep (fun d mp _ => ¬ d.session.Repeats mp) reorderedDelivery duplicateDelivery :=
    .parse 0 hduplicate hduplicate'
  have hstep₄ : DeliveryStep (fun d mp _ => ¬ d.session.Repeats mp) duplicateDelivery
      (duplicateDelivery.recvm none 0) := .recvm (by simp) 0
  have hstep₅ : DeliveryStep (fun d mp _ => ¬ d.session.Repeats mp) (duplicateDelivery.recvm none 0)
      orderedDelivery := .recvm (by simp) 0
  have h := returned_of_run isEmpty_sample
    (((((Relation.ReflTransGen.single hstep₁).tail hstep₂).tail hstep₃).tail hstep₄).tail hstep₅)
  rw [hreturned, hdelivered] at h
  exact ⟨hreturned, (isChain_cons_cons.mp h.1).1, h.2.1⟩

def arrivedDelivery : Delivery .sample := Delivery.sample.receive (samplePacket 1) 0 1

def returnedDelivery : Delivery .sample := arrivedDelivery.recvm none 0

/-- It arrives again. -/
def repeatedDelivery : Delivery .sample := returnedDelivery.receive (samplePacket 1) 0 1

/-- It is returned again. -/
def twiceDelivery : Delivery .sample := repeatedDelivery.recvm none 0

lemma isNext_repeated :
    Delivery.sample.IsNext (samplePacket 1) 1 ∧ Delivery.sample.TimestampsInOrder (samplePacket 1) 1 ∧
    returnedDelivery.IsNext (samplePacket 1) 1 ∧ returnedDelivery.TimestampsInOrder (samplePacket 1) 1 ∧
    twiceDelivery.returned = [samplePacket 1, samplePacket 1] ∧ twiceDelivery.delivered = [1, 1] := by
  decide +kernel

/-- A packet that is received again once it is returned is returned twice. -/
theorem not_returned_of_run : ¬ ∀ (J : JitterControl) (session : RtpSession J) (d : Delivery J), session.IsEmpty →
      Relation.ReflTransGen (DeliveryStep Delivery.TimestampsInOrder) ⟨session, [], [], []⟩ d →
      d.returned.IsChain (fun mp last => RtpSeqIsStrictlyGreaterThan (rtpGetSeqnumber mp) (rtpGetSeqnumber last)) ∧
        d.delivered.Pairwise (· > ·) ∧
        Forall₂ (fun mp e => Shows 65536 (rtpGetSeqnumber mp).toNat e) d.returned d.delivered := by
  intro hall
  obtain ⟨hfirst, hfirst', hnext, hnext', -, hdelivered⟩ := isNext_repeated
  have hstep₁ : DeliveryStep Delivery.TimestampsInOrder Delivery.sample arrivedDelivery :=
    .parse 0 hfirst hfirst'
  have hstep₂ : DeliveryStep Delivery.TimestampsInOrder arrivedDelivery returnedDelivery :=
    .recvm (by simp) 0
  have hstep₃ : DeliveryStep Delivery.TimestampsInOrder returnedDelivery repeatedDelivery :=
    .parse 0 hnext hnext'
  have hstep₄ : DeliveryStep Delivery.TimestampsInOrder repeatedDelivery twiceDelivery :=
    .recvm (by simp) 0
  have h := hall .sample .sample twiceDelivery isEmpty_sample
    ((((Relation.ReflTransGen.single hstep₁).tail hstep₂).tail hstep₃).tail hstep₄)
  rw [hdelivered] at h
  exact absurd h.2.1 (by decide)

end Ortp
