import LinphoneSdk.Ortp.RtpSession
import Mathlib.Data.List.Perm.Subperm

/-!
# Generic NACKs

A gap in the sequence numbers is reported to the sender by generic NACKs, each for the number `pid` and
for those of the fifteen numbers after it whose bit is set in `blp`. The loops that make them work on
16-bit counters, compared as integers. A shift by a negative count is undefined in the source: the
functions answer `none` there.
-/

namespace Ortp

open List Option UInt16

/-! ### Sending -/

/-- What the detection of gaps reads and writes in a session. -/
structure NackSession where
  /-- `RTP_SESSION_FIRST_PACKET_DELIVERED`. -/
  firstPacketDelivered : Bool
  rcvLastSeq : UInt16
  sndLastNack : UInt16
  /-- A congestion detector is there and in the state `CongestionStateDetected`. -/
  congestionDetected : Bool
  lossBeforeNack : UInt64
  deriving DecidableEq, Repr

/-- A generic NACK: `pid` and `blp`. -/
abbrev GenericNack : Type := UInt16 × UInt16

/-- `RTP_SEQ_IS_STRICTLY_GREATER_THAN` with a successor as second argument: the words are subtracted, the
integers compared. -/
def SeqIsStrictlyGreaterThanSucc (seq1 last : UInt16) : Prop :=
  seq1 - (last + 1) < 0x8000 ∧ seq1.toNat ≠ last.toNat + 1

instance (seq1 last : UInt16) : Decidable (SeqIsStrictlyGreaterThanSucc seq1 last) :=
  inferInstanceAs (Decidable (_ ∧ _))

/-- The loop that fills `blp`; it gives the number it stops at too. Sixteen turns are enough. -/
def blpLoop (seqNumber pid : UInt16) : ℕ → UInt16 → UInt16 → Option (UInt16 × UInt16)
  | 0, _, _ => none
  | turns + 1, seq, blp =>
    if seq < seqNumber ∧ (seq.toNat : ℤ) - pid.toNat < 16 then
      if (seq.toNat : ℤ) - pid.toNat - 1 < 0 then none
      else blpLoop seqNumber pid turns (seq + 1) (blp ||| 1 <<< (seq - pid - 1))
    else some (seq, blp)

/-- The loop over the groups of sixteen numbers; with `congestion` the first NACK is not sent, nor the
next ones. -/
def nackLoop (seqNumber : UInt16) (congestion : Bool) : ℕ → UInt16 → Option (List GenericNack)
  | 0, _ => some []
  | groups + 1, pid => do
    let (seq, blp) ← blpLoop seqNumber pid 16 (pid + 1) 0
    if congestion then return []
    let nacks ← nackLoop seqNumber congestion groups seq
    return (pid, blp) :: nacks

variable (session : NackSession) (seqNumber : UInt16)

/-- The detection in delivery order finds a gap. -/
def NackSession.FindsGap : Prop :=
  session.firstPacketDelivered ∧ SeqIsStrictlyGreaterThanSucc seqNumber session.rcvLastSeq

instance (session : NackSession) (seqNumber : UInt16) : Decidable (session.FindsGap seqNumber) :=
  inferInstanceAs (Decidable (_ ∧ _))

def checkForSeqNumberGap : Option (List GenericNack) :=
  if session.FindsGap seqNumber then
    let firstMissedSeq := session.rcvLastSeq + 1
    let diff := seqNumber - firstMissedSeq
    nackLoop seqNumber false ((diff / 16).toNat + 1) firstMissedSeq
  else some []

/-- The first number that the immediate detection reports. -/
def NackSession.firstMissedSeq (session : NackSession) : UInt16 :=
  if session.rcvLastSeq + 1 ≤ session.sndLastNack then session.sndLastNack + 1 else session.rcvLastSeq + 1

/-- A packet in advance becomes the last one that needs no NACK. -/
def NackSession.updateLastNack : NackSession :=
  if RtpSeqIsStrictlyGreaterThan seqNumber session.sndLastNack then { session with sndLastNack := seqNumber }
  else session

/-- The immediate detection finds a gap. -/
def NackSession.DetectsGap : Prop :=
  session.firstPacketDelivered ∧ SeqIsStrictlyGreaterThanSucc seqNumber session.rcvLastSeq ∧
    SeqIsStrictlyGreaterThanSucc seqNumber session.sndLastNack

instance (session : NackSession) (seqNumber : UInt16) : Decidable (session.DetectsGap seqNumber) :=
  inferInstanceAs (Decidable (_ ∧ _ ∧ _))

/-- The NACKs sent and the session after. A congestion returns
before the last update. -/
def checkForSeqNumberGapImmediate : Option (List GenericNack × NackSession) :=
  if session.DetectsGap seqNumber then
    let diff := seqNumber - session.firstMissedSeq
    let counted := { session with lossBeforeNack := session.lossBeforeNack + diff.toUInt64 }
    (nackLoop seqNumber session.congestionDetected ((diff / 16).toNat + 1) session.firstMissedSeq).map
      fun nacks => (nacks, if session.congestionDetected then counted else counted.updateLastNack seqNumber)
  else some ([], session.updateLastNack seqNumber)

/-- The numbers after `pid` that the sender looks up, one turn for each bit of `blp`. -/
def blpSeqs : ℕ → UInt16 → UInt16 → List UInt16
  | 0, _, _ => []
  | bits + 1, seq, pid =>
    if seq = 0 then []
    else if seq &&& 1 ≠ 0 then pid :: blpSeqs bits (seq >>> 1) (pid + 1)
    else blpSeqs bits (seq >>> 1) (pid + 1)

/-- The numbers of the packets to send again. -/
def genericNackReceived (nack : GenericNack) : List UInt16 := nack.1 :: blpSeqs 16 nack.2 (nack.1 + 1)

/-! ### The missing numbers -/

/-- The number `q` is strictly between `a` and `b`, where `b` is after `a` with a gap of less than 2^15. -/
def StrictlyBetween (a b q : UInt16) : Prop := b - a ≤ 0x8000 ∧ 0 < q - a ∧ q - a < b - a

instance (a b q : UInt16) : Decidable (StrictlyBetween a b q) := inferInstanceAs (Decidable (_ ∧ _))

def NackSession.Missing (session : NackSession) (seqNumber q : UInt16) : Prop :=
  session.firstPacketDelivered ∧ StrictlyBetween session.rcvLastSeq seqNumber q

/-- The numbers between the last packet delivered, or the last number that needs no NACK, and the packet
received. -/
def NackSession.MissingImmediate (session : NackSession) (seqNumber q : UInt16) : Prop :=
  session.Missing seqNumber q ∧ StrictlyBetween session.sndLastNack seqNumber q

/-- The NACKs denote some numbers, each once. -/
structure Denotes (nacks : List GenericNack) (numbers : UInt16 → Prop) : Prop where
  nodup : (nacks.flatMap genericNackReceived).Nodup
  mem_iff : ∀ q, q ∈ nacks.flatMap genericNackReceived ↔ numbers q

/-! ### Runs of numbers -/

def numbersFrom (start : UInt16) (n : ℕ) : List UInt16 := (range n).map fun i => start + .ofNat i

lemma numbersFrom_succ (start : UInt16) (n : ℕ) :
    numbersFrom start (n + 1) = start :: numbersFrom (start + 1) n := by
  rw [numbersFrom, List.range_succ_eq_map, List.map_cons, List.map_map, numbersFrom]
  congr 1
  · exact UInt16.add_zero start
  · refine List.map_congr_left fun i _ => ?_
    rw [Function.comp_apply, UInt16.add_assoc, UInt16.add_comm 1, Nat.succ_eq_add_one, ofNat_add]
    rfl

lemma numbersFrom_add (start : UInt16) (m n : ℕ) :
    numbersFrom start (m + n) = numbersFrom start m ++ numbersFrom (start + .ofNat m) n := by
  rw [numbersFrom, List.range_add, List.map_append, List.map_map, numbersFrom, numbersFrom]
  congr 1
  refine List.map_congr_left fun i _ => ?_
  rw [Function.comp_apply, UInt16.add_assoc, ofNat_add]

@[simp] lemma length_numbersFrom (start : UInt16) (n : ℕ) : (numbersFrom start n).length = n := by
  simp [numbersFrom]

lemma toNat_sub_cases (a b : UInt16) :
    (b ≤ a ∧ (a - b).toNat = a.toNat - b.toNat) ∨ (a < b ∧ (a - b).toNat = 2 ^ 16 + a.toNat - b.toNat) := by
  have ha := a.toNat_lt
  have hb := b.toNat_lt
  rw [UInt16.toNat_sub, le_iff_toNat_le, lt_iff_toNat_lt]
  omega

lemma mem_numbersFrom {start q : UInt16} {n : ℕ} (hn : n ≤ 2 ^ 16) :
    q ∈ numbersFrom start n ↔ (q - start).toNat < n := by
  rw [numbersFrom, List.mem_map]
  constructor
  · rintro ⟨i, hi, rfl⟩
    rw [List.mem_range] at hi
    rw [UInt16.add_comm, UInt16.add_sub_cancel, toNat_ofNat']
    omega
  · intro h
    refine ⟨(q - start).toNat, List.mem_range.2 h, ?_⟩
    rw [UInt16.ofNat_toNat, UInt16.add_comm, UInt16.sub_add_cancel]

lemma nodup_numbersFrom (start : UInt16) {n : ℕ} (hn : n ≤ 2 ^ 16) : (numbersFrom start n).Nodup := by
  refine (nodup_map_iff_inj_on nodup_range).2 fun i hi j hj heq => ?_
  rw [mem_range] at hi hj
  have hwords : (ofNat i).toNat = (ofNat j).toNat := by
    rw [(UInt16.add_right_inj start).1 heq]
  rw [toNat_ofNat', toNat_ofNat'] at hwords
  omega

/-! ### One group -/

def lowBits (n : ℕ) : UInt16 := .ofNat (2 ^ n - 1)

lemma lowBits_succ : ∀ n < 16, lowBits (n + 1) ≠ 0 ∧ lowBits (n + 1) &&& 1 ≠ 0 ∧
    lowBits (n + 1) >>> 1 = lowBits n ∧ lowBits n ||| 1 <<< ofNat n = lowBits (n + 1) := by
  decide

lemma blpSeqs_zero (bits : ℕ) (pid : UInt16) : blpSeqs bits 0 pid = [] := by
  cases bits with
  | zero => rfl
  | succ bits => rw [blpSeqs, if_pos rfl]

lemma blpSeqs_lowBits {n bits : ℕ} (hn : n ≤ 16) (hbits : n ≤ bits) (pid : UInt16) :
    blpSeqs bits (lowBits n) pid = numbersFrom pid n := by
  induction n generalizing bits pid with
  | zero => exact blpSeqs_zero bits pid
  | succ n ih =>
    obtain ⟨hne, hbit, hshift, -⟩ := lowBits_succ n (by omega)
    obtain ⟨bits, rfl⟩ := Nat.exists_eq_add_of_le' (Nat.le_trans (Nat.le_add_left 1 n) hbits)
    rw [blpSeqs, if_neg hne, if_pos hbit, hshift, ih (by omega) (by omega), numbersFrom_succ]

/-- A NACK with the low bits set denotes a run of numbers. -/
lemma genericNackReceived_lowBits {n : ℕ} (hn : n ≤ 16) (pid : UInt16) :
    genericNackReceived (pid, lowBits n) = numbersFrom pid (n + 1) := by
  rw [genericNackReceived, blpSeqs_lowBits hn hn, numbersFrom_succ]

section group

variable {seqNumber pid : UInt16}

lemma toNat_add_ofNat {start : UInt16} {n : ℕ} (h : start.toNat + n < 2 ^ 16) :
    (start + .ofNat n).toNat = start.toNat + n := by
  rw [UInt16.toNat_add, toNat_ofNat']
  omega

/-- The loop sets the low bits up to the end of the group or of the gap. -/
lemma blpLoop_lowBits {m : ℕ} (hm : m = min 15 (seqNumber.toNat - pid.toNat - 1)) (hlt : pid < seqNumber)
    (turns j : ℕ) (hturns : j + turns = 16) (hj : j ≤ m) :
    blpLoop seqNumber pid turns (pid + .ofNat (j + 1)) (lowBits j) = some (pid + .ofNat (m + 1), lowBits m) := by
  have hlt' := lt_iff_toNat_lt.1 hlt
  have hmax := seqNumber.toNat_lt
  induction turns generalizing j with
  | zero => omega
  | succ turns ih =>
    have hseq : (pid + .ofNat (j + 1) : UInt16).toNat = pid.toNat + (j + 1) := toNat_add_ofNat (by omega)
    have hbefore : (pid + .ofNat (j + 1) : UInt16) < seqNumber ↔ pid.toNat + (j + 1) < seqNumber.toNat := by
      rw [lt_iff_toNat_lt, hseq]
    rw [blpLoop, hseq]
    obtain rfl | hne := Nat.eq_or_lt_of_le hj
    · rw [if_neg (by rw [hbefore]; omega)]
    · have hsub : pid + .ofNat (j + 1) - pid - 1 = ofNat j := by
        rw [UInt16.add_comm, UInt16.add_sub_cancel, ofNat_add]
        exact UInt16.add_sub_cancel _ _
      have hnext : pid + .ofNat (j + 1) + 1 = pid + ofNat (j + 1 + 1) := by
        rw [ofNat_add (j + 1), UInt16.add_assoc]
        rfl
      rw [if_pos (by rw [hbefore]; omega), if_neg (by omega), hsub, hnext, (lowBits_succ j (by omega)).2.2.2]
      exact ih (j + 1) (by omega) hne

/-- A group that starts before the end of the gap. -/
lemma blpLoop_of_lt (hlt : pid < seqNumber) :
    let m := min 15 (seqNumber.toNat - pid.toNat - 1)
    blpLoop seqNumber pid 16 (pid + 1) 0 = some (pid + .ofNat (m + 1), lowBits m) :=
  blpLoop_lowBits rfl hlt 16 0 rfl (Nat.zero_le _)

/-- A group that starts after the end of the gap, as integers: undefined for the last number, unless the
gap ends at zero. -/
lemma blpLoop_of_le (hle : seqNumber ≤ pid) :
    blpLoop seqNumber pid 16 (pid + 1) 0 = if pid = 0xFFFF ∧ seqNumber ≠ 0 then none else some (pid + 1, 0) := by
  have hle' := le_iff_toNat_le.1 hle
  have hmax := pid.toNat_lt
  have hlast : pid = 0xFFFF ↔ pid.toNat = 65535 := by rw [← UInt16.toNat_inj]; rfl
  have hzero : seqNumber = 0 ↔ seqNumber.toNat = 0 := by rw [← UInt16.toNat_inj]; rfl
  have hsucc : (pid + 1).toNat = (pid.toNat + 1) % 2 ^ 16 := by rw [UInt16.toNat_add]; rfl
  have hbefore : pid + 1 < seqNumber ↔ (pid.toNat + 1) % 2 ^ 16 < seqNumber.toNat := by
    rw [lt_iff_toNat_lt, hsucc]
  rw [blpLoop, hsucc]
  by_cases h : pid = 0xFFFF ∧ seqNumber ≠ 0
  · have h' := h
    rw [hlast, ne_eq, hzero] at h'
    rw [if_pos h, if_pos (by rw [hbefore]; omega), if_pos (by omega)]
  · have h' := h
    rw [hlast, ne_eq, hzero] at h'
    rw [if_neg h, if_neg (by rw [hbefore]; omega)]

end group

/-! ### The groups of a gap -/

section groups

variable {seqNumber pid first : UInt16} {groups : ℕ} {nacks : List GenericNack}

lemma nackLoop_succ {seq blp : UInt16} (h : blpLoop seqNumber pid 16 (pid + 1) 0 = some (seq, blp)) :
    nackLoop seqNumber false (groups + 1) pid = (nackLoop seqNumber false groups seq).map ((pid, blp) :: ·) := by
  rw [nackLoop, h]
  cases hrest : nackLoop seqNumber false groups seq with
  | none => simp [hrest]
  | some nacks => simp [hrest]

lemma nackLoop_succ_of_undefined {congestion : Bool} (h : blpLoop seqNumber pid 16 (pid + 1) 0 = none) :
    nackLoop seqNumber congestion (groups + 1) pid = none := by
  rw [nackLoop, h]
  rfl

lemma nackLoop_succ_of_congestion {seq blp : UInt16} (h : blpLoop seqNumber pid 16 (pid + 1) 0 = some (seq, blp)) :
    nackLoop seqNumber true (groups + 1) pid = some [] := by
  rw [nackLoop, h]
  rfl

lemma nackLoop_of_full (h : pid.toNat + 16 ≤ seqNumber.toNat) : nackLoop seqNumber false (groups + 1) pid =
      (nackLoop seqNumber false groups (pid + .ofNat 16)).map ((pid, lowBits 15) :: ·) := by
  have hlt : pid < seqNumber := by
    rw [lt_iff_toNat_lt]
    omega
  have hgroup := blpLoop_of_lt hlt
  rw [Nat.min_eq_left (by omega)] at hgroup
  exact nackLoop_succ hgroup

/-- A gap that does not end with a full group is reported exactly. -/
lemma nackLoop_exact (seqNumber pid : UInt16) (groups : ℕ) (hlower : pid.toNat + 16 * groups < seqNumber.toNat)
    (hupper : seqNumber.toNat < pid.toNat + 16 * (groups + 1)) :
    ∃ nacks, nackLoop seqNumber false (groups + 1) pid = some nacks ∧
      nacks.flatMap genericNackReceived = numbersFrom pid (seqNumber.toNat - pid.toNat) := by
  induction groups generalizing pid with
  | zero =>
    have hlt : pid < seqNumber := by
      rw [lt_iff_toNat_lt]
      omega
    have hgroup := blpLoop_of_lt hlt
    rw [Nat.min_eq_right (by omega)] at hgroup
    refine ⟨_, nackLoop_succ hgroup, ?_⟩
    rw [flatMap_cons, flatMap_nil, append_nil, genericNackReceived_lowBits (by omega)]
    congr 1
    omega
  | succ groups ih =>
    have hmax := seqNumber.toNat_lt
    have hnext : (pid + .ofNat 16 : UInt16).toNat = pid.toNat + 16 := toNat_add_ofNat (by omega)
    obtain ⟨nacks, hnacks, hseqs⟩ := ih (pid + .ofNat 16) (by omega) (by omega)
    refine ⟨(pid, lowBits 15) :: nacks, ?_, ?_⟩
    · rw [nackLoop_of_full (by omega), hnacks, map_some]
    · rw [flatMap_cons, hseqs, genericNackReceived_lowBits (by omega), ← numbersFrom_add]
      congr 1
      omega

/-- A gap that ends with a full group is followed by a NACK for the packet received. -/
lemma mem_of_nackLoop (h : seqNumber.toNat = pid.toNat + 16 * groups)
    (hloop : nackLoop seqNumber false (groups + 1) pid = some nacks) :
    seqNumber ∈ nacks.flatMap genericNackReceived := by
  induction groups generalizing pid nacks with
  | zero =>
    have heq : seqNumber = pid := UInt16.toNat_inj.1 (by omega)
    subst heq
    have hgroup := blpLoop_of_le (UInt16.le_refl seqNumber)
    split_ifs at hgroup
    · rw [nackLoop_succ_of_undefined hgroup] at hloop
      cases hloop
    · rw [nackLoop_succ hgroup] at hloop
      obtain ⟨rest, -, rfl⟩ := map_eq_some_iff.1 hloop
      exact mem_flatMap.2 ⟨_, mem_cons_self, mem_cons_self⟩
  | succ groups ih =>
    have hmax := seqNumber.toNat_lt
    have hnext : (pid + .ofNat 16 : UInt16).toNat = pid.toNat + 16 := toNat_add_ofNat (by omega)
    rw [nackLoop_of_full (by omega)] at hloop
    obtain ⟨rest, hrest, rfl⟩ := map_eq_some_iff.1 hloop
    rw [flatMap_cons]
    exact mem_append_right _ (ih (by omega) hrest)

/-- Past the end of the gap, as integers, each group reports one number. -/
lemma length_of_nackLoop (hle : seqNumber ≤ pid) (hloop : nackLoop seqNumber false groups pid = some nacks) :
    (nacks.flatMap genericNackReceived).length = groups := by
  induction groups generalizing pid nacks with
  | zero =>
    obtain rfl := some.inj hloop
    rfl
  | succ groups ih =>
    have hgroup := blpLoop_of_le hle
    split_ifs at hgroup with hlast
    · rw [nackLoop_succ_of_undefined hgroup] at hloop
      cases hloop
    · rw [nackLoop_succ hgroup] at hloop
      obtain ⟨rest, hrest, rfl⟩ := map_eq_some_iff.1 hloop
      have hnext : seqNumber ≤ pid + 1 := by
        have hle' := le_iff_toNat_le.1 hle
        have hmax := pid.toNat_lt
        have hwrap : pid = 0xFFFF ↔ pid.toNat = 65535 := by rw [← UInt16.toNat_inj]; rfl
        have hzero : seqNumber = 0 ↔ seqNumber.toNat = 0 := by rw [← UInt16.toNat_inj]; rfl
        have hsucc : (pid + 1).toNat = (pid.toNat + 1) % 2 ^ 16 := by rw [UInt16.toNat_add]; rfl
        rw [hwrap, ne_eq, hzero] at hlast
        rw [le_iff_toNat_le, hsucc]
        omega
      have hone : genericNackReceived (pid, 0) = [pid] := by
        rw [genericNackReceived, blpSeqs_zero]
      rw [flatMap_cons, length_append, ih hnext hrest, hone, length_singleton]
      omega

/-- With congestion nothing is sent. -/
lemma nackLoop_of_congestion (hloop : nackLoop seqNumber true (groups + 1) pid = some nacks) : nacks = [] := by
  cases hgroup : blpLoop seqNumber pid 16 (pid + 1) 0 with
  | none =>
    rw [nackLoop_succ_of_undefined hgroup] at hloop
    cases hloop
  | some r =>
    rw [nackLoop_succ_of_congestion hgroup] at hloop
    exact (some.inj hloop).symm

end groups

/-! ### The NACKs of a gap -/

section gap

variable {seqNumber first : UInt16} {nacks : List GenericNack} {numbers numbers' : UInt16 → Prop}

lemma Denotes.congr (h : Denotes nacks numbers) (hiff : ∀ q, numbers q ↔ numbers' q) : Denotes nacks numbers' :=
  ⟨h.nodup, fun q => (h.mem_iff q).trans (hiff q)⟩

lemma denotes_nil_iff : Denotes [] numbers ↔ ∀ q, ¬ numbers q := by
  refine ⟨fun h q hq => ?_, fun h => ⟨nodup_nil, fun q => ?_⟩⟩
  · cases (h.mem_iff q).2 hq
  · exact iff_of_false not_mem_nil (h q)

/-- NACKs that denote the numbers of a gap denote as many. -/
lemma Denotes.length_eq {n : ℕ} (hn : n ≤ 2 ^ 16) (h : Denotes nacks fun q => (q - first).toNat < n) :
    (nacks.flatMap genericNackReceived).length = n := by
  have hperm : (nacks.flatMap genericNackReceived).Perm (numbersFrom first n) :=
    (perm_ext_iff_of_nodup h.nodup (nodup_numbersFrom first hn)).2 fun q => by
      rw [h.mem_iff, mem_numbersFrom hn]
  rw [hperm.length_eq, length_numbersFrom]

/-- The groups of sixteen numbers from `first` on cover what comes before `seqNumber`: the gap does not
wrap around, and it does not end with a full group; a gap of one number is covered anyway. -/
def Covers (first seqNumber : UInt16) : Prop :=
  first ≤ seqNumber ∧ ¬ 16 ∣ (seqNumber - first).toNat ∨ (seqNumber - first).toNat = 1

lemma denotes_nackLoop_iff (first seqNumber : UInt16) :
    (∃ nacks, nackLoop seqNumber false (((seqNumber - first) / 16).toNat + 1) first = some nacks ∧
      Denotes nacks fun q => (q - first).toNat < (seqNumber - first).toNat) ↔ Covers first seqNumber := by
  have h16 : ((seqNumber - first) / 16).toNat = (seqNumber - first).toNat / 16 := UInt16.toNat_div _ _
  have hmax := (seqNumber - first).toNat_lt
  rw [h16, Covers]
  obtain ⟨hle, hdiff⟩ | ⟨hlt, hdiff⟩ := toNat_sub_cases seqNumber first
  · have hle' := le_iff_toNat_le.1 hle
    by_cases hdvd : 16 ∣ (seqNumber - first).toNat
    · refine iff_of_false ?_ (by rintro (⟨-, h⟩ | h) <;> omega)
      rintro ⟨nacks, hloop, hdenotes⟩
      have hmem := (hdenotes.mem_iff _).1 (mem_of_nackLoop (by omega) hloop)
      omega
    · refine iff_of_true ?_ (.inl ⟨hle, hdvd⟩)
      obtain ⟨nacks, hloop, hseqs⟩ := nackLoop_exact seqNumber first ((seqNumber - first).toNat / 16)
        (by omega) (by omega)
      refine ⟨nacks, hloop, ?_⟩
      rw [hdiff]
      constructor
      · rw [hseqs]
        exact nodup_numbersFrom _ (by omega)
      · intro q
        rw [hseqs, mem_numbersFrom (by omega)]
  · have hlt' := lt_iff_toNat_lt.1 hlt
    by_cases hone : (seqNumber - first).toNat = 1
    · refine iff_of_true ?_ (.inr hone)
      have hfirst : first = 0xFFFF := by
        have hmax := first.toNat_lt
        apply UInt16.toNat_inj.1
        change first.toNat = 65535
        omega
      have hzero : seqNumber = 0 := by
        have hmax := first.toNat_lt
        apply UInt16.toNat_inj.1
        change seqNumber.toNat = 0
        omega
      subst hfirst hzero
      refine ⟨[(0xFFFF, 0)], by decide, by decide, fun q => ?_⟩
      have hdenoted : [((0xFFFF, 0) : GenericNack)].flatMap genericNackReceived = [0xFFFF] := by decide
      have hsub := toNat_sub_cases q 0xFFFF
      have hlast : (0xFFFF : UInt16).toNat = 65535 := rfl
      rw [hdenoted, mem_singleton, ← UInt16.toNat_inj, hone, hlast]
      rw [le_iff_toNat_le, lt_iff_toNat_lt, hlast] at hsub
      have hq := q.toNat_lt
      omega
    · refine iff_of_false ?_ ?_
      · rintro ⟨nacks, hloop, hdenotes⟩
        have hlength := length_of_nackLoop (UInt16.le_of_lt hlt) hloop
        rw [hdenotes.length_eq (by omega)] at hlength
        omega
      · rintro (⟨hle, -⟩ | h)
        · exact absurd hle (UInt16.not_le.2 hlt)
        · exact hone h

/-- The first number of a gap is always reported. -/
lemma first_mem_of_nackLoop {groups : ℕ} (hloop : nackLoop seqNumber false (groups + 1) first = some nacks) :
    first ∈ nacks.flatMap genericNackReceived := by
  cases hgroup : blpLoop seqNumber first 16 (first + 1) 0 with
  | none =>
    rw [nackLoop_succ_of_undefined hgroup] at hloop
    cases hloop
  | some r =>
    rw [nackLoop_succ hgroup] at hloop
    obtain ⟨rest, -, rfl⟩ := map_eq_some_iff.1 hloop
    exact mem_flatMap.2 ⟨_, mem_cons_self, mem_cons_self⟩

end gap

/-! ### Exactness -/

lemma toNat_sub_mod (a b : UInt16) : (a - b).toNat = (2 ^ 16 - b.toNat + a.toNat) % 2 ^ 16 := UInt16.toNat_sub a b

lemma toNat_succ (a : UInt16) : (a + 1).toNat = (a.toNat + 1) % 2 ^ 16 := UInt16.toNat_add a 1

/-- In advance of less than half the circle. -/
lemma seqIsStrictlyGreaterThanSucc_iff (b a : UInt16) :
    SeqIsStrictlyGreaterThanSucc b a ↔ (b - (a + 1)).toNat < 2 ^ 15 ∧ b.toNat ≠ a.toNat + 1 :=
  and_congr_left' lt_iff_toNat_lt

lemma strictlyBetween_iff_toNat (a b q : UInt16) :
    StrictlyBetween a b q ↔ (b - a).toNat ≤ 2 ^ 15 ∧ 0 < (q - a).toNat ∧ (q - a).toNat < (b - a).toNat := by
  rw [StrictlyBetween, le_iff_toNat_le, lt_iff_toNat_lt, lt_iff_toNat_lt]
  rfl

/-- The numbers of a gap, counted from its first one. -/
lemma strictlyBetween_iff {a b : UInt16} (h : (b - (a + 1)).toNat < 2 ^ 15) (q : UInt16) :
    StrictlyBetween a b q ↔ (q - (a + 1)).toNat < (b - (a + 1)).toNat := by
  have ha := a.toNat_lt
  have hb := b.toNat_lt
  have hq := q.toNat_lt
  rw [strictlyBetween_iff_toNat]
  rw [toNat_sub_mod, toNat_succ] at h
  rw [toNat_sub_mod b a, toNat_sub_mod q a, toNat_sub_mod q, toNat_sub_mod b, toNat_succ]
  omega

/-- There is no gap before a packet that is not in advance. -/
lemma not_strictlyBetween {a b : UInt16} (h : ¬ SeqIsStrictlyGreaterThanSucc b a) (q : UInt16) :
    ¬ StrictlyBetween a b q := by
  have ha := a.toNat_lt
  have hb := b.toNat_lt
  have hq := q.toNat_lt
  rw [seqIsStrictlyGreaterThanSucc_iff, toNat_sub_mod, toNat_succ] at h
  rw [strictlyBetween_iff_toNat, toNat_sub_mod b a, toNat_sub_mod q a]
  omega

/-- The first number reported follows the later of the last packet delivered and the last number that needs
no NACK. -/
def NackSession.FollowsLater : Prop :=
  (seqNumber - session.firstMissedSeq).toNat =
    min (seqNumber - (session.rcvLastSeq + 1)).toNat (seqNumber - (session.sndLastNack + 1)).toNat

instance (session : NackSession) (seqNumber : UInt16) : Decidable (session.FollowsLater seqNumber) :=
  inferInstanceAs (Decidable (_ = _))

section exactness

variable (session : NackSession) (seqNumber : UInt16)

lemma checkForSeqNumberGap_exact_iff :
    (∃ nacks, checkForSeqNumberGap session seqNumber = some nacks ∧ Denotes nacks (session.Missing seqNumber)) ↔
      (session.FindsGap seqNumber → Covers (session.rcvLastSeq + 1) seqNumber) := by
  by_cases hgap : session.FindsGap seqNumber
  · obtain ⟨hdelivered, hgreater⟩ := id hgap
    have hlt := ((seqIsStrictlyGreaterThanSucc_iff _ _).1 hgreater).1
    have hmissing : ∀ q, (q - (session.rcvLastSeq + 1)).toNat < (seqNumber - (session.rcvLastSeq + 1)).toNat ↔
        session.Missing seqNumber q := fun q => by
      rw [NackSession.Missing, strictlyBetween_iff hlt, and_iff_right hdelivered]
    rw [checkForSeqNumberGap, if_pos hgap, forall_prop_of_true hgap, ← denotes_nackLoop_iff]
    constructor
    · rintro ⟨nacks, hloop, hdenotes⟩
      exact ⟨nacks, hloop, hdenotes.congr fun q => (hmissing q).symm⟩
    · rintro ⟨nacks, hloop, hdenotes⟩
      exact ⟨nacks, hloop, hdenotes.congr hmissing⟩
  · refine iff_of_true ⟨[], if_neg hgap, denotes_nil_iff.2 fun q hq => ?_⟩ fun h => absurd h hgap
    exact not_strictlyBetween (fun hgreater => hgap ⟨hq.1, hgreater⟩) q hq.2

variable {session seqNumber}

section

variable (hgap : session.DetectsGap seqNumber)
include hgap

/-- The packet is in advance of both starts of the gap by less than half the circle. -/
lemma NackSession.DetectsGap.lt_half : (seqNumber - (session.rcvLastSeq + 1)).toNat < 2 ^ 15 ∧
      (seqNumber - (session.sndLastNack + 1)).toNat < 2 ^ 15 :=
  ⟨((seqIsStrictlyGreaterThanSucc_iff _ _).1 hgap.2.1).1, ((seqIsStrictlyGreaterThanSucc_iff _ _).1 hgap.2.2).1⟩

/-- The gap of the immediate detection, counted from its two starts. -/
lemma missingImmediate_iff_toNat (q : UInt16) : session.MissingImmediate seqNumber q ↔
      (q - (session.rcvLastSeq + 1)).toNat < (seqNumber - (session.rcvLastSeq + 1)).toNat ∧
        (q - (session.sndLastNack + 1)).toNat < (seqNumber - (session.sndLastNack + 1)).toNat := by
  obtain ⟨hx, hy⟩ := hgap.lt_half
  rw [NackSession.MissingImmediate, NackSession.Missing, strictlyBetween_iff hx, strictlyBetween_iff hy,
    and_iff_right hgap.1]

/-- The gap of the immediate detection, counted from the later of its two starts. -/
lemma missingImmediate_iff (hlater : session.FollowsLater seqNumber)
    (q : UInt16) : session.MissingImmediate seqNumber q ↔
      (q - session.firstMissedSeq).toNat < (seqNumber - session.firstMissedSeq).toNat := by
  rw [missingImmediate_iff_toNat hgap]
  obtain ⟨hx, hy⟩ := hgap.lt_half
  rw [NackSession.FollowsLater, NackSession.firstMissedSeq] at hlater
  rw [NackSession.firstMissedSeq]
  generalize session.rcvLastSeq + 1 = a at *
  generalize session.sndLastNack + 1 = b at *
  have ha := a.toNat_lt
  have hb := b.toNat_lt
  have hs := seqNumber.toNat_lt
  have hq := q.toNat_lt
  simp only [toNat_sub_mod] at hx hy hlater ⊢
  split_ifs at hlater ⊢
  · omega
  · omega

/-- Otherwise the first number reported is not missing. -/
lemma not_missingImmediate_firstMissedSeq
    (hlater : ¬ session.FollowsLater seqNumber) : ¬ session.MissingImmediate seqNumber session.firstMissedSeq := by
  rw [missingImmediate_iff_toNat hgap]
  obtain ⟨hx, hy⟩ := hgap.lt_half
  rw [NackSession.FollowsLater, NackSession.firstMissedSeq] at hlater
  rw [NackSession.firstMissedSeq]
  generalize session.rcvLastSeq + 1 = a at *
  generalize session.sndLastNack + 1 = b at *
  have ha := a.toNat_lt
  have hb := b.toNat_lt
  have hs := seqNumber.toNat_lt
  simp only [toNat_sub_mod] at hx hy hlater ⊢
  split_ifs at hlater ⊢
  · omega
  · omega

/-- Under congestion nothing is missing when the packet follows one of the two starts. -/
lemma missingImmediate_pred (hrcv : seqNumber ≠ session.rcvLastSeq + 1)
    (hsnd : seqNumber ≠ session.sndLastNack + 1) : session.MissingImmediate seqNumber (seqNumber - 1) := by
  rw [missingImmediate_iff_toNat hgap]
  generalize session.rcvLastSeq + 1 = a at *
  generalize session.sndLastNack + 1 = b at *
  rw [ne_eq, ← UInt16.toNat_inj] at hrcv hsnd
  have ha := a.toNat_lt
  have hb := b.toNat_lt
  have hs := seqNumber.toNat_lt
  have hone : (1 : UInt16).toNat = 1 := rfl
  simp only [toNat_sub_mod, hone]
  omega

/-- A packet that follows one of the two starts is detected at the wrap only. -/
lemma eq_zero_of_detectsGap
    (h : seqNumber = session.rcvLastSeq + 1 ∨ seqNumber = session.sndLastNack + 1) : seqNumber = 0 := by
  obtain ⟨-, hrcv, hsnd⟩ := hgap
  have hwrap : ∀ last : UInt16, SeqIsStrictlyGreaterThanSucc seqNumber last → seqNumber = last + 1 → seqNumber = 0 := by
    intro last hgreater heq
    have hne := ((seqIsStrictlyGreaterThanSucc_iff _ _).1 hgreater).2
    have hmax := last.toNat_lt
    rw [heq, toNat_succ] at hne
    rw [heq, ← UInt16.toNat_inj, toNat_succ]
    change _ = 0
    omega
  obtain h | h := h
  · exact hwrap _ hrcv h
  · exact hwrap _ hsnd h

end

variable (session seqNumber)

lemma checkForSeqNumberGapImmediate_exact_iff :
    (∃ nacks s, checkForSeqNumberGapImmediate session seqNumber = some (nacks, s) ∧
      Denotes nacks (session.MissingImmediate seqNumber)) ↔
    (session.DetectsGap seqNumber → if session.congestionDetected then
        seqNumber = session.rcvLastSeq + 1 ∨ seqNumber = session.sndLastNack + 1
      else session.FollowsLater seqNumber ∧ Covers session.firstMissedSeq seqNumber) := by
  by_cases hgap : session.DetectsGap seqNumber
  swap
  · refine iff_of_true ⟨[], _, if_neg hgap, denotes_nil_iff.2 fun q hq => ?_⟩ fun h => absurd h hgap
    obtain ⟨⟨hdelivered, hrcv⟩, hsnd⟩ := hq
    refine hgap ⟨hdelivered, ?_, ?_⟩
    · by_contra hgreater
      exact not_strictlyBetween hgreater q hrcv
    · by_contra hgreater
      exact not_strictlyBetween hgreater q hsnd
  rw [checkForSeqNumberGapImmediate, if_pos hgap, forall_prop_of_true hgap]
  simp only [map_eq_some_iff, Prod.mk.injEq]
  cases hcongestion : session.congestionDetected with
  | true =>
    simp only [if_true]
    constructor
    · rintro ⟨nacks, _, ⟨nacks, hloop, rfl, -⟩, hdenotes⟩
      obtain rfl := nackLoop_of_congestion hloop
      by_contra hnot
      rw [not_or] at hnot
      exact denotes_nil_iff.1 hdenotes _ (missingImmediate_pred hgap hnot.1 hnot.2)
    · intro hfollows
      have hzero := eq_zero_of_detectsGap hgap hfollows
      have hle : seqNumber ≤ session.firstMissedSeq := hzero ▸ UInt16.zero_le
      have hgroup := blpLoop_of_le hle
      rw [if_neg (fun h => h.2 hzero)] at hgroup
      refine ⟨[], _, ⟨[], nackLoop_succ_of_congestion hgroup, rfl, rfl⟩, denotes_nil_iff.2 ?_⟩
      rintro q ⟨⟨-, hrcv⟩, hsnd⟩
      rw [strictlyBetween_iff_toNat] at hrcv hsnd
      obtain rfl | rfl := hfollows
      · rw [toNat_sub_mod _ session.rcvLastSeq, toNat_succ] at hrcv
        have hmax := session.rcvLastSeq.toNat_lt
        omega
      · rw [toNat_sub_mod _ session.sndLastNack, toNat_succ] at hsnd
        have hmax := session.sndLastNack.toNat_lt
        omega
  | false =>
    simp only [Bool.false_eq_true, if_false]
    by_cases hlater : session.FollowsLater seqNumber
    · rw [and_iff_right hlater, ← denotes_nackLoop_iff]
      constructor
      · rintro ⟨nacks, _, ⟨nacks, hloop, rfl, -⟩, hdenotes⟩
        exact ⟨nacks, hloop, hdenotes.congr (missingImmediate_iff hgap hlater)⟩
      · rintro ⟨nacks, hloop, hdenotes⟩
        exact ⟨nacks, _, ⟨nacks, hloop, rfl, rfl⟩, hdenotes.congr fun q => (missingImmediate_iff hgap hlater q).symm⟩
    · refine iff_of_false ?_ fun h => hlater h.1
      rintro ⟨nacks, _, ⟨nacks, hloop, rfl, -⟩, hdenotes⟩
      exact not_missingImmediate_firstMissedSeq hgap hlater
        ((hdenotes.mem_iff _).1 (first_mem_of_nackLoop hloop))

/-- The NACKs sent denote the missing numbers, each once, exactly when the gap found does not wrap around
and does not end with a full group of sixteen, or is of one number. For the immediate detection the gap
must also be counted from the later of its two starts, and no congestion must hold the NACKs back. -/
theorem nack_exactness : ((∃ nacks, checkForSeqNumberGap session seqNumber = some nacks ∧
        Denotes nacks (session.Missing seqNumber)) ↔
      (session.FindsGap seqNumber → Covers (session.rcvLastSeq + 1) seqNumber)) ∧
    ((∃ nacks s, checkForSeqNumberGapImmediate session seqNumber = some (nacks, s) ∧
        Denotes nacks (session.MissingImmediate seqNumber)) ↔
      (session.DetectsGap seqNumber → if session.congestionDetected then
          seqNumber = session.rcvLastSeq + 1 ∨ seqNumber = session.sndLastNack + 1
        else session.FollowsLater seqNumber ∧ Covers session.firstMissedSeq seqNumber)) :=
  ⟨checkForSeqNumberGap_exact_iff session seqNumber, checkForSeqNumberGapImmediate_exact_iff session seqNumber⟩

end exactness

/-- After 9, the numbers 10 to 25 are missing and 26 is received: a second NACK asks for 26. With the gap
at the wrap, after 65533, only 65534 is asked for. -/
theorem nack_exactness_fails : (∃ nacks, checkForSeqNumberGap ⟨true, 9, 0, false, 0⟩ 26 = some nacks ∧
      ¬ Denotes nacks (NackSession.Missing ⟨true, 9, 0, false, 0⟩ 26)) ∧
    (∃ nacks, checkForSeqNumberGap ⟨true, 65533, 0, false, 0⟩ 2 = some nacks ∧
      ¬ Denotes nacks (NackSession.Missing ⟨true, 65533, 0, false, 0⟩ 2)) := by
  constructor
  · refine ⟨[(10, 0x7FFF), (26, 0)], by decide, fun hdenotes => ?_⟩
    have hmem := (hdenotes.mem_iff 26).1 (by decide)
    exact absurd hmem.2.2.2 (by decide)
  · refine ⟨[(65534, 0)], by decide, fun hdenotes => ?_⟩
    have hmem := (hdenotes.mem_iff 0).2 ⟨rfl, by decide, by decide, by decide⟩
    revert hmem
    decide

end Ortp
