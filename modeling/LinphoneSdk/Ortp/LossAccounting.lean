import LinphoneSdk.Ortp.RtpSession

/-!
# Extended sequence numbers and losses

The counters of the packets received, from which the report blocks of RTCP are made.
-/

namespace Ortp

open Bytes Serial List UInt32

variable {J : JitterControl}

/-! ### Report blocks -/

/-- The fields of a report block that come from the counters. -/
structure ReportBlock where
  ssrc : UInt32
  /-- The fraction lost and the cumulative number of packets lost. -/
  flCnpl : UInt32
  extHighSeqNumRec : UInt32
  lsr : UInt32

def reportBlockSetFractionLost (flCnpl : UInt32) (fl : ℤ) : UInt32 :=
  let fl : UInt32 := ofInt fl &&& 0xFF
  (flCnpl &&& (0xFFFFFF : UInt32)) ||| fl <<< (24 : UInt32)

def reportBlockSetCumPacketLost (flCnpl : UInt32) (cpl : ℤ) : UInt32 :=
  let clamp := ofInt (2 ^ 24 + if cpl ≥ 0 then min cpl 0x7FFFFF else max cpl (-0x800000))
  (flCnpl &&& 0xFF000000) ||| (if cpl ≥ 0 then clamp &&& 0x7FFFFF else clamp ||| 0x800000)

def packetLoss (session : RtpSession J) (expectedPackets : UInt32) : ℤ × ℤ :=
  if session.overrideLostPackets then (session.lostPacketsTestVector, session.lostPacketsTestVector)
  else
    let packetLoss := (expectedPackets - session.hwrcvSinceLastSR).toInt32.toInt
    (packetLoss, session.stats.cumPacketLoss + packetLoss)

/-- Quotients of words, in 8 bits. -/
def lossFraction (packetLoss : ℤ) (expectedPackets : UInt32) : ℤ :=
  if expectedPackets > 0 ∧ packetLoss > 0 then
    max 0 (min 255 (ofInt (256 * packetLoss) / expectedPackets).toInt32.toInt)
  else 0

def reportBlockInit (session : RtpSession J) : ReportBlock × RtpSession J :=
  let expectedPackets := session.hwrcvExtseq - session.hwrcvSeqAtLastSR
  let (fraction, cumPacketLoss) :=
    if session.hwrcvSinceLastSR ≠ 0 then
      let loss := packetLoss session expectedPackets
      (lossFraction loss.1 expectedPackets, loss.2)
    else (0, session.stats.cumPacketLoss)
  (⟨session.ssrc, reportBlockSetFractionLost (reportBlockSetCumPacketLost 0 cumPacketLoss) fraction,
      session.hwrcvExtseq, session.lastRcvSRTs⟩,
    { session with
      stats.cumPacketLoss := cumPacketLoss
      hwrcvSinceLastSR := 0
      hwrcvSeqAtLastSR := session.hwrcvExtseq })

/-! ### Extended numbers -/

/-- The cycle of a packet is the one that the check for sequence number looping guesses. -/
def InCycle (highest e : ℤ) : Prop :=
  if highest % 65536 < e % 65536 then e / 65536 = highest / 65536
  else if e % 65536 < 200 ∧ 65336 < highest % 65536 then e / 65536 = highest / 65536 + 1
  else e / 65536 ≤ highest / 65536

instance (highest e : ℤ) : Decidable (InCycle highest e) := by
  rw [InCycle]
  infer_instance

lemma toNat_poly32 (hi lo : UInt16) : (poly32 hi lo).toNat = hi.toNat * 65536 + lo.toNat := by
  have hhi := hi.toNat_lt
  have hlo := lo.toNat_lt
  have hshift : (16 : UInt32).toNat % 32 = 16 := by decide
  simp only [poly32, UInt32.toNat_or, UInt32.toNat_shiftLeft, UInt16.toNat_toUInt32, hshift]
  rw [Nat.mod_eq_of_lt (by rw [Nat.shiftLeft_eq]; omega), ← Nat.shiftLeft_add_eq_or_of_lt (by omega), Nat.shiftLeft_eq]

lemma toNat_splitHi (one : UInt32) : (splitHi one).toNat = one.toNat / 65536 := by
  have hone := one.toNat_lt
  have hshift : (16 : UInt32).toNat % 32 = 16 := by decide
  simp only [splitHi, toNat_toUInt16, UInt32.toNat_shiftRight, hshift, Nat.shiftRight_eq_div_pow]
  omega

lemma toNat_splitLo (one : UInt32) : (splitLo one).toNat = one.toNat % 65536 := rfl

/-- A packet in its cycle leaves the highest number received. -/
lemma shows_updateExtseq {extseq : UInt32} {seqNumber : UInt16} {highest e : ℤ}
    (hextseq : Shows (2 ^ 32) extseq.toNat highest) (hseq : Shows 65536 seqNumber.toNat e)
    (hcycle : InCycle highest e) : Shows (2 ^ 32) (updateExtseq extseq seqNumber).toNat (max highest e) := by
  rw [Shows] at hextseq hseq ⊢
  rw [InCycle] at hcycle
  have hlo : ((splitLo extseq).toNat : ℤ) = highest % 65536 := by rw [toNat_splitLo]; omega
  have hhi : ((splitHi extseq).toNat : ℤ) = highest / 65536 % 65536 := by rw [toNat_splitHi]; omega
  have hhi' : (splitHi extseq + 1).toNat = ((splitHi extseq).toNat + 1) % 65536 := rfl
  rw [updateExtseq]
  split_ifs with hlt hwraps
  · have hlt' : (splitLo extseq).toNat < seqNumber.toNat := hlt
    rw [if_pos (by omega)] at hcycle
    rw [toNat_poly32]
    omega
  · have hlt' : ¬ (splitLo extseq).toNat < seqNumber.toNat := hlt
    have hsmall : seqNumber.toNat < 200 := hwraps.1
    have hlarge : 65336 < (splitLo extseq).toNat := hwraps.2
    rw [if_neg (by omega), if_pos (by omega)] at hcycle
    rw [toNat_poly32, hhi']
    omega
  · have hlt' : ¬ (splitLo extseq).toNat < seqNumber.toNat := hlt
    have hstays : ¬ (seqNumber.toNat < 200 ∧ 65336 < (splitLo extseq).toNat) := hwraps
    rw [if_neg (by omega), if_neg (by omega)] at hcycle
    omega

/-! ### Counters -/

/-- The counters of the packets received. -/
structure Counters where
  hwrcvExtseq : UInt32
  hwrcvSeqAtLastSR : UInt32
  hwrcvSinceLastSR : UInt32
  recvSeqInit : Bool

def RtpSession.counters (session : RtpSession J) : Counters :=
  ⟨session.hwrcvExtseq, session.hwrcvSeqAtLastSR, session.hwrcvSinceLastSR, session.recvSeqInit⟩

def Counters.zero : Counters := ⟨0, 0, 0, false⟩

def Counters.count (seqNumber : UInt16) (c : Counters) : Counters where
  hwrcvExtseq := updateExtseq c.hwrcvExtseq seqNumber
  hwrcvSeqAtLastSR := if c.recvSeqInit then c.hwrcvSeqAtLastSR else seqNumber.toUInt32 - 1
  hwrcvSinceLastSR := c.hwrcvSinceLastSR + 1
  recvSeqInit := true

structure RtpSession.IsOfStream (session : RtpSession J) (mp : Packet) : Prop where
  length : RTP_FIXED_HEADER_SIZE + 4 * (rtpGetCc mp).toNat ≤ mp.length
  version : rtpGetVersion mp = 2
  ssrc : session.ssrcSet = true → rtpGetSsrc mp = session.ssrc

def RtpSession.Resyncs (session : RtpSession J) (mp : Packet) : Prop :=
  session.resyncsOnTimestampJump = true ∧ session.isTelephoneEvent (rtpGetPayloadType mp) = false ∧
    session.flush = false ∧ session.firstPacketDelivered = true ∧
      (session.JumpsForward mp ∨ session.TooOld mp ∧ session.JumpsBackward mp)

instance (session : RtpSession J) (mp : Packet) : Decidable (session.Resyncs mp) :=
  inferInstanceAs (Decidable (_ ∧ _ ∧ _ ∧ _ ∧ _))

lemma counters_timestampJump (session : RtpSession J) : (timestampJump session).counters =
        (if session.resyncsOnTimestampJump then .zero else session.counters) ∧
      (timestampJump session).stats.cumPacketLoss = session.stats.cumPacketLoss := by
  rw [timestampJump]
  split_ifs
  · exact ⟨rfl, rfl⟩
  · exact ⟨rfl, rfl⟩

lemma exists_updatePayloadType (session : RtpSession J) (paytype : UInt8) :
    ∃ hwRecvPt jittctl, updatePayloadType session paytype =
      { session with hwRecvPt := hwRecvPt, jittctl := jittctl } := by
  rw [updatePayloadType]
  split_ifs
  · exact ⟨_, _, rfl⟩
  · exact ⟨_, _, rfl⟩

lemma counters_receiveMedia (session : RtpSession J) (mp : Packet) :
    (receiveMedia session mp).counters = (if session.resyncsOnTimestampJump = true ∧
        session.firstPacketDelivered = true ∧
        (session.JumpsForward mp ∨ session.TooOld mp ∧ session.JumpsBackward mp) then .zero
      else session.counters) ∧ (receiveMedia session mp).stats.cumPacketLoss = session.stats.cumPacketLoss := by
  obtain ⟨hjump, hcum⟩ := counters_timestampJump session
  rw [receiveMedia]
  by_cases hdelivered : session.firstPacketDelivered = true
  · by_cases hforward : session.JumpsForward mp
    · rw [if_pos ⟨hdelivered, hforward⟩]
      refine ⟨hjump.trans (if_congr ?_ rfl rfl), hcum⟩
      simp [hdelivered, hforward]
    · rw [if_neg fun h => hforward h.2]
      by_cases hold : session.TooOld mp
      · rw [if_pos ⟨hdelivered, hold⟩]
        by_cases hbackward : session.JumpsBackward mp
        · simp only [if_pos hbackward]
          refine ⟨hjump.trans (if_congr ?_ rfl rfl), hcum⟩
          simp [hdelivered, hold, hbackward]
        · simp only [if_neg hbackward]
          rw [if_neg fun h => h.2.2.elim hforward fun h => hbackward h.2]
          exact ⟨rfl, trivial⟩
      · rw [if_neg fun h => hold h.2, if_neg fun h => h.2.2.elim hforward fun h => hold h.1]
        exact ⟨rfl, rfl⟩
  · rw [if_neg fun h => hdelivered h.1, if_neg fun h => hdelivered h.1, if_neg fun h => hdelivered h.2.1]
    exact ⟨rfl, rfl⟩

/-- Once it is counted, a packet changes no counter but through a resynchronisation. -/
lemma counters_receive (session : RtpSession J) (mp : Packet) (localStrTs : UInt32) :
    (receive session mp localStrTs).counters = (if session.Resyncs mp then .zero else session.counters) ∧
      (receive session mp localStrTs).stats.cumPacketLoss = session.stats.cumPacketLoss := by
  obtain ⟨hwRecvPt, jittctl, hpayload⟩ := exists_updatePayloadType session (rtpGetPayloadType mp)
  simp only [receive, hpayload]
  by_cases htev : session.isTelephoneEvent (rtpGetPayloadType mp) = true
  · rw [if_pos htev, if_neg fun h => by simp [h.2.1] at htev]
    exact ⟨rfl, rfl⟩
  · rw [if_neg htev]
    by_cases hflush : session.flush = true
    · rw [if_pos hflush, if_neg fun h => by simp [h.2.2.1] at hflush]
      exact ⟨rfl, rfl⟩
    · rw [if_neg hflush]
      rw [Bool.not_eq_true] at htev hflush
      obtain ⟨hcounters, hcum⟩ := counters_receiveMedia { session with
        hwRecvPt := hwRecvPt, jittctl := J.newPacket jittctl (rtpGetTimestamp mp) localStrTs } mp
      refine ⟨hcounters.trans (if_congr ?_ rfl rfl), hcum⟩
      exact ⟨fun h => ⟨h.1, htev, hflush, h.2⟩, fun h => ⟨h.1, h.2.2.2⟩⟩

variable {session : RtpSession J} {mp : Packet}

lemma exists_lockSsrc (h : session.IsOfStream mp) :
    ∃ incSameSsrcCount, lockSsrc session mp = ({ session with
      ssrcSet := true, ssrc := rtpGetSsrc mp, incSameSsrcCount := incSameSsrcCount }, true) := by
  simp only [lockSsrc]
  by_cases hset : session.ssrcSet = true
  · have hssrc := h.ssrc hset
    rw [if_pos hset, if_neg (not_not.mpr hssrc.symm), hssrc]
    exact ⟨0, by rw [← hset]⟩
  · rw [if_neg hset]
    exact ⟨session.incSameSsrcCount, rfl⟩

lemma counters_rtpParse (h : session.IsOfStream mp) (localStrTs : UInt32) :
    (rtpParse session mp localStrTs).counters = (if session.Resyncs mp then .zero else
        session.counters.count (rtpGetSeqnumber mp)) ∧
      (rtpParse session mp localStrTs).stats.cumPacketLoss = session.stats.cumPacketLoss := by
  have hlength := h.length
  have hcounted : RtpSession.IsOfStream { session with
      stats.packetRecv := session.stats.packetRecv + 1
      hwrcvSinceLastSR := session.hwrcvSinceLastSR + 1 } mp := ⟨h.length, h.version, h.ssrc⟩
  obtain ⟨incSameSsrcCount, hlock⟩ := exists_lockSsrc hcounted
  rw [rtpParse, if_neg (by omega), if_neg (not_not.mpr h.version)]
  simp only [hlock]
  rw [if_neg (by omega)]
  exact counters_receive _ mp localStrTs

lemma shows_sub {a b : UInt32} {x y : ℤ} (ha : Shows (2 ^ 32) a.toNat x) (hb : Shows (2 ^ 32) b.toNat y) :
    Shows (2 ^ 32) (a - b).toNat (x - y) := by
  rw [Shows] at ha hb ⊢
  rw [UInt32.toNat_sub]
  omega

/-- A word read as signed. -/
lemma toInt_toInt32 {a : UInt32} {x : ℤ} (ha : Shows (2 ^ 32) a.toNat x) (hlower : -2 ^ 31 ≤ x)
    (hupper : x < 2 ^ 31) : a.toInt32.toInt = x := by
  rw [Shows] at ha
  have htoInt : a.toInt32.toInt = a.toBitVec.toInt := rfl
  have htoNat : a.toBitVec.toNat = a.toNat := rfl
  rw [htoInt, BitVec.toInt_eq_toNat_cond, htoNat]
  split_ifs
  · omega
  · omega

/-- A report takes the losses since the last one into account. -/
lemma cumPacketLoss_reportBlockInit (h : session.overrideLostPackets = false) {expected received : ℤ}
    (hexpected : Shows (2 ^ 32) (session.hwrcvExtseq - session.hwrcvSeqAtLastSR).toNat expected)
    (hreceived : Shows (2 ^ 32) session.hwrcvSinceLastSR.toNat received) (hzero : received = 0 → expected = 0)
    (hbounds : 0 ≤ expected ∧ expected < 2 ^ 31) (hbounds' : 0 ≤ received ∧ received < 2 ^ 31) :
    (reportBlockInit session).2.stats.cumPacketLoss = session.stats.cumPacketLoss + (expected - received) := by
  rw [reportBlockInit]
  by_cases hsince : session.hwrcvSinceLastSR = 0
  · have hnone : received = 0 := by
      rw [Shows, hsince, Int.emod_eq_of_lt hbounds'.1 (by omega)] at hreceived
      exact hreceived.symm
    simp [hsince, hnone, hzero hnone]
  · have hloss := toInt_toInt32 (shows_sub hexpected hreceived) (by omega) (by omega)
    simp only [ne_eq, hsince, not_false_eq_true, if_true, packetLoss, h, Bool.false_eq_true, if_false, hloss]

/-! ### Runs -/

/-- A session, with the extended numbers of the packets that it received since its last resynchronisation,
the newest first. -/
structure History (J : JitterControl) where
  session : RtpSession J
  arrived : List ℤ
  /-- The packets that arrived before the last report. -/
  reported : List ℤ

/-- The packets expected, from the first one to the highest one. -/
def expected (arrived : List ℤ) : ℤ :=
  match arrived.max?, arrived.getLast? with
  | some high, some first => high - first + 1
  | _, _ => 0

/-- A packet is the next one to arrive. -/
structure History.IsNext (h : History J) (mp : Packet) (e : ℤ) : Prop where
  isOfStream : h.session.IsOfStream mp
  shows : Shows 65536 (rtpGetSeqnumber mp).toNat e
  /-- The cycles are counted from the first packet. -/
  first : h.arrived = [] → e = (rtpGetSeqnumber mp).toNat

def History.receive (h : History J) (mp : Packet) (localStrTs : UInt32) (e : ℤ) : History J :=
  let session := rtpParse h.session mp localStrTs
  if h.session.Resyncs mp then ⟨session, [], []⟩
  else { h with session := session, arrived := e :: h.arrived }

def History.report (h : History J) : History J :=
  { h with session := (reportBlockInit h.session).2, reported := h.arrived }

def History.resync (h : History J) : History J := ⟨Ortp.resync h.session, [], []⟩

/-- The losses are not those of a test, and fit in a word since the last report. -/
structure History.Reportable (h : History J) : Prop where
  override : h.session.overrideLostPackets = false
  expected : expected h.arrived - expected h.reported < 2 ^ 31
  received : (h.arrived.length : ℤ) - h.reported.length < 2 ^ 31

/-- The calls between which packets arrive in the cycle that is guessed. A resynchronisation, which keeps the
cumulative loss, comes before any loss is reported. -/
inductive CountingStep (h : History J) : History J → Prop where
  | parse {mp : Packet} {e : ℤ} (localStrTs : UInt32) (hnext : h.IsNext mp e)
      (hcycle : ∀ high, h.arrived.max? = some high → InCycle high e)
      (hresync : h.session.Resyncs mp → h.session.stats.cumPacketLoss = 0) :
      CountingStep h (h.receive mp localStrTs e)
  | recvm (fec : Option (UInt16 → Option Packet)) (userTs : UInt32) :
      CountingStep h { h with session := (recvmWithTs fec h.session userTs).2 }
  | report (hreport : h.Reportable) : CountingStep h h.report
  | resync (hresync : h.session.stats.cumPacketLoss = 0) : CountingStep h h.resync

/-! ### Invariant -/

lemma expected_cons (e : ℤ) (arrived : List ℤ) : ∃ high first, (e :: arrived).max? = some high ∧
    (e :: arrived).getLast? = some first ∧ expected (e :: arrived) = high - first + 1 ∧ first ≤ high := by
  obtain ⟨high, hhigh⟩ := Option.isSome_iff_exists.mp (isSome_max?_of_ne_nil (cons_ne_nil e arrived))
  have hlast := getLast?_eq_some_getLast (cons_ne_nil e arrived)
  refine ⟨high, _, hhigh, hlast, by rw [expected, hhigh, hlast], ?_⟩
  exact (max?_eq_some_iff.mp hhigh).2 _ (getLast_mem _)

/-- The packets expected are more and more. -/
lemma expected_le_of_suffix {l l' : List ℤ} (h : l <:+ l') : expected l ≤ expected l' := by
  cases l' with
  | nil => rw [suffix_nil.mp h]
  | cons e' l' =>
    obtain ⟨high', first', hhigh', hfirst', hexpected', hle'⟩ := expected_cons e' l'
    cases l with
    | nil =>
      rw [hexpected', show expected [] = 0 from rfl]
      omega
    | cons e l =>
      obtain ⟨high, first, hhigh, hfirst, hexpected, -⟩ := expected_cons e l
      have hhighs : high ≤ high' :=
        (max?_eq_some_iff.mp hhigh').2 high (h.subset (max?_eq_some_iff.mp hhigh).1)
      have hfirsts : first = first' := by
        obtain ⟨t, ht⟩ := h
        rw [← ht, getLast?_append_of_ne_nil _ (cons_ne_nil e l), hfirst, Option.some_inj] at hfirst'
        exact hfirst'
      rw [hexpected, hexpected', hfirsts]
      omega

/-- The counters are those of the packets that arrived. -/
structure History.Counted (h : History J) : Prop where
  extseq : Shows (2 ^ 32) h.session.hwrcvExtseq.toNat (h.arrived.max?.getD 0)
  init : h.session.recvSeqInit = !h.arrived.isEmpty
  seqAtLastSR : Shows (2 ^ 32) h.session.hwrcvSeqAtLastSR.toNat
    (h.arrived.getLast?.elim 0 fun first => first - 1 + expected h.reported)
  sinceLastSR : Shows (2 ^ 32) h.session.hwrcvSinceLastSR.toNat (h.arrived.length - h.reported.length)
  cumPacketLoss : h.session.stats.cumPacketLoss = expected h.reported - h.reported.length
  reported : h.reported <:+ h.arrived

/-- The counters of the packets received are reset. -/
lemma counted_of_zero (h : session.counters = .zero) (hcum : session.stats.cumPacketLoss = 0) :
    (⟨session, [], []⟩ : History J).Counted where
  extseq := by
    rw [show session.hwrcvExtseq = 0 from congrArg Counters.hwrcvExtseq h]
    rfl
  init := congrArg Counters.recvSeqInit h
  seqAtLastSR := by
    rw [show session.hwrcvSeqAtLastSR = 0 from congrArg Counters.hwrcvSeqAtLastSR h]
    rfl
  sinceLastSR := by
    rw [show session.hwrcvSinceLastSR = 0 from congrArg Counters.hwrcvSinceLastSR h]
    rfl
  cumPacketLoss := hcum
  reported := suffix_rfl

variable {h : History J}

/-- The counters of a session that calls leave alone. -/
lemma History.Counted.congr (hcounted : h.Counted) (hcounters : session.counters = h.session.counters)
    (hcum : session.stats.cumPacketLoss = h.session.stats.cumPacketLoss) :
    ({ h with session := session } : History J).Counted where
  extseq := by
    rw [show session.hwrcvExtseq = h.session.hwrcvExtseq from congrArg Counters.hwrcvExtseq hcounters]
    exact hcounted.extseq
  init := (congrArg Counters.recvSeqInit hcounters).trans hcounted.init
  seqAtLastSR := by
    rw [show session.hwrcvSeqAtLastSR = h.session.hwrcvSeqAtLastSR from
      congrArg Counters.hwrcvSeqAtLastSR hcounters]
    exact hcounted.seqAtLastSR
  sinceLastSR := by
    rw [show session.hwrcvSinceLastSR = h.session.hwrcvSinceLastSR from
      congrArg Counters.hwrcvSinceLastSR hcounters]
    exact hcounted.sinceLastSR
  cumPacketLoss := hcum.trans hcounted.cumPacketLoss
  reported := hcounted.reported

/-- The first packet is in its cycle. -/
lemma inCycle_zero (seqNumber : UInt16) : InCycle 0 seqNumber.toNat := by
  have hlt := seqNumber.toNat_lt
  rw [InCycle]
  by_cases hpos : 0 < seqNumber.toNat
  · rw [if_pos (by omega)]
    omega
  · rw [if_neg (by omega), if_neg (by omega)]
    omega

lemma inCycle_of_isNext {e : ℤ} (hnext : h.IsNext mp e) (hcycle : ∀ high, h.arrived.max? = some high → InCycle high e) :
    InCycle (h.arrived.max?.getD 0) e := by
  cases harrived : h.arrived.max? with
  | none =>
    rw [hnext.first (max?_eq_none_iff.mp harrived)]
    exact inCycle_zero _
  | some high => exact hcycle high harrived

/-- The number from which the packets expected since the last report are counted. -/
lemma shows_seqAtLastSR (hcounted : h.Counted) {e : ℤ} (hnext : h.IsNext mp e) :
    Shows (2 ^ 32) (if h.session.recvSeqInit then h.session.hwrcvSeqAtLastSR
        else (rtpGetSeqnumber mp).toUInt32 - 1).toNat
      ((e :: h.arrived).getLast?.elim 0 fun first => first - 1 + expected h.reported) := by
  rw [hcounted.init]
  have hlast := hcounted.seqAtLastSR
  have hreported := hcounted.reported
  cases harrived : h.arrived with
  | nil =>
    have hfirst := hnext.first harrived
    have hlt := (rtpGetSeqnumber mp).toNat_lt
    rw [harrived, suffix_nil] at hreported
    simp only [isEmpty_nil, Bool.not_true, Bool.false_eq_true, if_false, getLast?_singleton,
      Option.elim_some, hreported, hfirst, Shows]
    rw [UInt32.toNat_sub, UInt16.toNat_toUInt32, show expected [] = 0 from rfl, show (1 : UInt32).toNat = 1 from rfl]
    omega
  | cons e' arrived =>
    rw [harrived] at hlast
    simpa using hlast

lemma History.Counted.parse (hcounted : h.Counted) {e : ℤ} (localStrTs : UInt32) (hnext : h.IsNext mp e)
    (hcycle : ∀ high, h.arrived.max? = some high → InCycle high e)
    (hresync : h.session.Resyncs mp → h.session.stats.cumPacketLoss = 0) : (h.receive mp localStrTs e).Counted := by
  obtain ⟨hcounters, hcum⟩ := counters_rtpParse hnext.isOfStream localStrTs
  rw [History.receive]
  by_cases hresyncs : h.session.Resyncs mp
  · rw [if_pos hresyncs]
    rw [if_pos hresyncs] at hcounters
    exact counted_of_zero hcounters (hcum.trans (hresync hresyncs))
  · rw [if_neg hresyncs]
    rw [if_neg hresyncs] at hcounters
    have hextseq := congrArg Counters.hwrcvExtseq hcounters
    have hseqAtLastSR := congrArg Counters.hwrcvSeqAtLastSR hcounters
    have hsinceLastSR := congrArg Counters.hwrcvSinceLastSR hcounters
    have hinit := congrArg Counters.recvSeqInit hcounters
    simp only [RtpSession.counters, Counters.count] at hextseq hseqAtLastSR hsinceLastSR hinit
    refine ⟨?_, ?_, ?_, ?_, hcum.trans hcounted.cumPacketLoss, hcounted.reported.trans (suffix_cons _ _)⟩
    · have hshows := shows_updateExtseq hcounted.extseq hnext.shows (inCycle_of_isNext hnext hcycle)
      simp only [hextseq, max?_cons, Option.getD_some]
      cases harrived : h.arrived.max? with
      | none =>
        have hfirst := hnext.first (max?_eq_none_iff.mp harrived)
        rw [harrived, Option.getD_none, max_eq_right (by omega)] at hshows
        exact hshows
      | some high =>
        rw [harrived, Option.getD_some, max_comm] at hshows
        exact hshows
    · simp only [hinit]
      rfl
    · simp only [hseqAtLastSR]
      exact shows_seqAtLastSR hcounted hnext
    · have hsince := hcounted.sinceLastSR
      simp only [hsinceLastSR, length_cons, Shows] at hsince ⊢
      rw [UInt32.toNat_add, show (1 : UInt32).toNat = 1 from rfl]
      omega

/-- What the packets expected since the last report are counted from. -/
lemma History.Counted.shows_expected (hcounted : h.Counted) :
    Shows (2 ^ 32) (h.session.hwrcvExtseq - h.session.hwrcvSeqAtLastSR).toNat
      (expected h.arrived - expected h.reported) := by
  have hsub := shows_sub hcounted.extseq hcounted.seqAtLastSR
  have hreported := hcounted.reported
  cases harrived : h.arrived with
  | nil =>
    rw [harrived, suffix_nil] at hreported
    rw [harrived] at hsub
    rw [hreported]
    exact hsub
  | cons e arrived =>
    obtain ⟨high, first, hhigh, hfirst, hexpected, -⟩ := expected_cons e arrived
    rw [harrived, hhigh, hfirst, Option.getD_some, Option.elim_some] at hsub
    rw [hexpected, show high - first + 1 - expected h.reported = high - (first - 1 + expected h.reported) by omega]
    exact hsub

/-- The cumulative loss that a report gives. -/
lemma History.Counted.cumPacketLoss_report (hcounted : h.Counted) (hreport : h.Reportable) :
    h.report.session.stats.cumPacketLoss = expected h.arrived - h.arrived.length := by
  have hlength := hcounted.reported.length_le
  have hle := expected_le_of_suffix hcounted.reported
  have hexpected := hreport.expected
  have hreceived := hreport.received
  have hloss := cumPacketLoss_reportBlockInit hreport.override hcounted.shows_expected hcounted.sinceLastSR
    (fun hzero => ?_) ⟨by omega, hexpected⟩ ⟨by omega, hreceived⟩
  · rw [History.report, hloss, hcounted.cumPacketLoss]
    omega
  · -- no packet arrived since the last report
    rw [hcounted.reported.eq_of_length (by omega)]
    omega

lemma History.Counted.report (hcounted : h.Counted) (hreport : h.Reportable) : h.report.Counted where
  extseq := hcounted.extseq
  init := hcounted.init
  seqAtLastSR := by
    have hextseq := hcounted.extseq
    cases harrived : h.arrived with
    | nil =>
      rw [harrived] at hextseq
      simp only [History.report, harrived]
      exact hextseq
    | cons e arrived =>
      obtain ⟨high, first, hhigh, hfirst, hexpected, -⟩ := expected_cons e arrived
      rw [harrived, hhigh, Option.getD_some] at hextseq
      simp only [History.report, harrived, hfirst, Option.elim_some, hexpected]
      rw [show first - 1 + (high - first + 1) = high by omega]
      exact hextseq
  sinceLastSR := by
    rw [History.report, sub_self]
    rfl
  cumPacketLoss := hcounted.cumPacketLoss_report hreport
  reported := suffix_rfl

lemma exists_synchronise (session : RtpSession J) : ∃ rcvTsOffset ssrc recvSync, synchronise session =
    { session with rcvTsOffset := rcvTsOffset, ssrc := ssrc, recvSync := recvSync } := by
  rw [synchronise]
  split
  · split_ifs
    · exact ⟨_, _, _, rfl⟩
    · exact ⟨_, _, _, rfl⟩
  · exact ⟨_, _, _, rfl⟩

lemma exists_recoverPackets (fec : Option (UInt16 → Option Packet)) (session : RtpSession J) :
    ∃ rq, recoverPackets fec session = { session with rq := rq } := by
  cases fec with
  | none => exact ⟨_, rfl⟩
  | some fec =>
    simp only [recoverPackets, applyFecOnMissingPackets]
    split_ifs
    · split
      · exact ⟨_, rfl⟩
      · split_ifs
        · exact ⟨_, rfl⟩
        · exact ⟨_, rfl⟩
    · exact ⟨_, rfl⟩

/-- The application that takes a packet changes no counter. -/
lemma counters_recvmWithTs (fec : Option (UInt16 → Option Packet)) (session : RtpSession J) (userTs : UInt32) :
    (recvmWithTs fec session userTs).2.counters = session.counters ∧
      (recvmWithTs fec session userTs).2.stats.cumPacketLoss = session.stats.cumPacketLoss := by
  rw [recvmWithTs]
  generalize htev : (if session.transferMode then session
    else { session with tevRq := session.tevRq.tail }) = session'
  have hkept : session'.counters = session.counters ∧ session'.stats.cumPacketLoss = session.stats.cumPacketLoss := by
    rw [← htev]
    split_ifs
    · exact ⟨rfl, rfl⟩
    · exact ⟨rfl, rfl⟩
  by_cases hsync : session'.recvSync ∧ session'.rq = []
  · rw [if_pos hsync]
    exact hkept
  · rw [if_neg hsync]
    obtain ⟨rcvTsOffset, ssrc, recvSync, hsynchronise⟩ := exists_synchronise session'
    obtain ⟨rq, hrecover⟩ := exists_recoverPackets fec { session' with
      rcvTsOffset := rcvTsOffset, ssrc := ssrc, recvSync := recvSync }
    generalize hsession : recoverPackets fec (synchronise session') = session''
    have hkept' : session''.counters = session.counters ∧
        session''.stats.cumPacketLoss = session.stats.cumPacketLoss := by
      rw [← hsession, hsynchronise, hrecover]
      exact hkept
    simp only
    cases peekMedia session'' userTs with
    | none => exact hkept'
    | some mp => exact hkept'

lemma History.Counted.step {h h' : History J} (hcounted : h.Counted) (hstep : CountingStep h h') : h'.Counted := by
  cases hstep with
  | parse localStrTs hnext hcycle hresync => exact hcounted.parse localStrTs hnext hcycle hresync
  | recvm fec userTs =>
    obtain ⟨hcounters, hcum⟩ := counters_recvmWithTs fec h.session userTs
    exact hcounted.congr hcounters hcum
  | report hreport => exact hcounted.report hreport
  | resync hresync => exact counted_of_zero rfl hresync

/-- A session that received no packet. -/
def RtpSession.Starts (session : RtpSession J) : Prop :=
  session.counters = .zero ∧ session.stats.cumPacketLoss = 0

/-- In a run where packets arrive in the cycle that is guessed, the extended sequence number is the highest
one received, and a report gives the packets expected and not received since the last resynchronisation. -/
theorem extseq_and_cumPacketLoss_of_run {session : RtpSession J} {h : History J} (hstart : session.Starts)
    (hrun : Relation.ReflTransGen CountingStep ⟨session, [], []⟩ h) :
    (∀ high, h.arrived.max? = some high → Shows (2 ^ 32) h.session.hwrcvExtseq.toNat high) ∧
      (h.Reportable → h.report.session.stats.cumPacketLoss = expected h.arrived - h.arrived.length) := by
  have hcounted : h.Counted := by
    induction hrun with
    | refl => exact counted_of_zero hstart.1 hstart.2
    | tail _ hstep ih => exact ih.step hstep
  refine ⟨fun high hhigh => ?_, hcounted.cumPacketLoss_report⟩
  have hextseq := hcounted.extseq
  rw [hhigh] at hextseq
  exact hextseq

/-! ### A packet that comes late, from before a wrap -/

/-- A jitter buffer that adds no delay. -/
def JitterControl.sample : JitterControl where
  State := Unit
  init := id
  setPayload state _ := state
  newPacket state _ _ := state
  updateSize state _ := state
  getCompensatedTimestamp _ userTs := userTs
  updateCorrectiveSlide := id
  correctiveSlide _ := 0

/-- A session just created, its jitter buffer disabled. -/
def RtpSession.sample : RtpSession .sample where
  recvSync := true
  firstPacketDelivered := false
  recvSeqInit := false
  flush := false
  overrideLostPackets := false
  ssrcSet := false
  ssrc := 0
  incSsrcCandidate := 0
  incSameSsrcCount := 0
  ssrcChangedThres := 50
  hwRecvPt := -1
  isTelephoneEvent _ := false
  isKnownPayload _ := true
  hasEventQueue := false
  resyncsOnTimestampJump := false
  resyncsOnSsrcChanged := false
  transferMode := false
  permissive := false
  lostPacketsTestVector := 0
  stats := ⟨0, 0, 0, 0, 0, 0⟩
  rq := []
  tevRq := []
  maxPackets := 200
  jitterEnabled := false
  jitterAdaptive := true
  jittctl := ()
  hwrcvExtseq := 0
  hwrcvSeqAtLastSR := 0
  hwrcvSinceLastSR := 0
  rcvLastTs := 0
  rcvLastSeq := 0
  rcvTsOffset := 0
  tsJump := 40000
  lastRcvSRTs := 0

/-- A packet with one byte of payload. -/
def samplePacket (seqNumber : UInt16) : Packet :=
  [0x80, 0] ++ be16 seqNumber ++ be32 0 ++ be32 1 ++ [0]

def History.sample : History .sample := ⟨.sample, [], []⟩

/-- The packet before the wrap arrives. -/
def lastHistory : History .sample := History.sample.receive (samplePacket 65535) 0 65535

/-- The packet after the wrap arrives. -/
def wrappedHistory : History .sample := lastHistory.receive (samplePacket 0) 0 65536

/-- One more packet from before the wrap arrives. -/
def lateHistory : History .sample := wrappedHistory.receive (samplePacket 65534) 0 65534

instance (session : RtpSession J) (mp : Packet) : Decidable (session.IsOfStream mp) :=
  decidable_of_iff (RTP_FIXED_HEADER_SIZE + 4 * (rtpGetCc mp).toNat ≤ mp.length ∧ rtpGetVersion mp = 2 ∧
      (session.ssrcSet = true → rtpGetSsrc mp = session.ssrc))
    ⟨fun h => ⟨h.1, h.2.1, h.2.2⟩, fun h => ⟨h.length, h.version, h.ssrc⟩⟩

instance (h : History J) (mp : Packet) (e : ℤ) : Decidable (h.IsNext mp e) :=
  decidable_of_iff (h.session.IsOfStream mp ∧ Shows 65536 (rtpGetSeqnumber mp).toNat e ∧
      (h.arrived = [] → e = (rtpGetSeqnumber mp).toNat))
    ⟨fun h => ⟨h.1, h.2.1, h.2.2⟩, fun h => ⟨h.isOfStream, h.shows, h.first⟩⟩

/-- The arrivals, their numbers and what follows of the last one. -/
lemma isNext_sample : History.sample.IsNext (samplePacket 65535) 65535 ∧ lastHistory.IsNext (samplePacket 0) 65536 ∧
    wrappedHistory.IsNext (samplePacket 65534) 65534 ∧ lastHistory.arrived = [65535] ∧
    wrappedHistory.arrived = [65536, 65535] ∧ wrappedHistory.session.overrideLostPackets = false ∧
    wrappedHistory.reported = [] ∧ lateHistory.arrived = [65534, 65536, 65535] ∧
    ¬ Shows (2 ^ 32) lateHistory.session.hwrcvExtseq.toNat 65536 := by
  decide +kernel

/-- The numbers of the packets wrap. -/
theorem extseq_and_cumPacketLoss_of_run_wrapped : Shows (2 ^ 32) wrappedHistory.session.hwrcvExtseq.toNat 65536 ∧
      wrappedHistory.report.session.stats.cumPacketLoss = 2 - 2 := by
  obtain ⟨hlast, hwrapped, -, hlastArrived, harrived, hoverride, hreported, -⟩ := isNext_sample
  have hstep : CountingStep History.sample lastHistory := .parse 0 hlast (by simp [History.sample]) fun _ => rfl
  have hstep' : CountingStep lastHistory wrappedHistory := by
    refine .parse 0 hwrapped (fun high hhigh => ?_) fun _ => rfl
    rw [hlastArrived] at hhigh
    obtain rfl := Option.some_inj.mp hhigh
    decide
  have hstart : RtpSession.sample.Starts := ⟨rfl, rfl⟩
  have h := extseq_and_cumPacketLoss_of_run hstart
    ((Relation.ReflTransGen.single hstep).tail hstep')
  rw [harrived] at h
  exact ⟨h.1 65536 rfl, h.2 ⟨hoverride, by rw [harrived, hreported]; decide, by rw [harrived, hreported]; decide⟩⟩

/-- A packet arrives, reordered by less than 200 positions. -/
def ArrivalStep (h h' : History J) : Prop :=
  ∃ mp localStrTs e, h.IsNext mp e ∧ (h.arrived.filter (e < ·)).length < 200 ∧ h' = h.receive mp localStrTs e

/-- The late packet takes the extended sequence number to the next cycle. -/
theorem not_extseq_and_cumPacketLoss_of_run :
    ¬ ∀ (J : JitterControl) (session : RtpSession J) (h : History J), session.Starts →
      Relation.ReflTransGen ArrivalStep ⟨session, [], []⟩ h →
      (∀ high, h.arrived.max? = some high → Shows (2 ^ 32) h.session.hwrcvExtseq.toNat high) ∧
        (h.Reportable → h.report.session.stats.cumPacketLoss = expected h.arrived - h.arrived.length) := by
  intro hall
  obtain ⟨hlast, hwrapped, hlate, hlastArrived, harrived, -, -, hlateArrived, hwrong⟩ := isNext_sample
  have hstep₁ : ArrivalStep History.sample lastHistory := ⟨_, 0, 65535, hlast, by decide, rfl⟩
  have hstep₂ : ArrivalStep lastHistory wrappedHistory :=
    ⟨_, 0, 65536, hwrapped, by rw [hlastArrived]; decide, rfl⟩
  have hstep₃ : ArrivalStep wrappedHistory lateHistory :=
    ⟨_, 0, 65534, hlate, by rw [harrived]; decide, rfl⟩
  have h := hall .sample .sample lateHistory ⟨rfl, rfl⟩
    (((Relation.ReflTransGen.single hstep₁).tail hstep₂).tail hstep₃)
  exact hwrong (h.1 65536 (by rw [hlateArrived]; rfl))

end Ortp
