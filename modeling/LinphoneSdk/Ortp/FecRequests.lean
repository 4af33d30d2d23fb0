import LinphoneSdk.Ortp.GenericNack

/-!
# Requests of lost packets to the FEC stream

`apply_fec_on_missing_packets` walks the receive queue from the last packet delivered and asks the FEC stream for
the numbers of each gap, while the packets found enter the queue that is walked. The gaps are found by comparing
16-bit numbers as integers, the queue is sorted by their serial order.
-/

namespace Ortp

open List Option UInt16

/-! ### The queue that is walked -/

/-- Where `rtp_putq` links a packet in a queue whose newest packet comes first: the number of packets before it. -/
def putqPlace (mp : Packet) : List Packet → Option ℕ
  | [] => some 0
  | tmp :: q =>
    if rtpGetSeqnumber mp = rtpGetSeqnumber tmp then none
    else if RtpSeqIsStrictlyGreaterThan (rtpGetSeqnumber mp) (rtpGetSeqnumber tmp) then some (q.length + 1)
    else putqPlace mp q

lemma putqPlace_le {mp : Packet} {q : List Packet} {i : ℕ} (h : putqPlace mp q = some i) : i ≤ q.length := by
  induction q with
  | nil => exact (some.inj h).ge
  | cons tmp q ih =>
    rw [putqPlace] at h
    split_ifs at h
    · exact (some.inj h).ge
    · exact Nat.le_succ_of_le (ih h)

lemma putqFromBottom_eq (mp : Packet) (q : List Packet) : putqFromBottom mp q =
    (putqPlace mp q).map fun i => q.take (q.length - i) ++ mp :: q.drop (q.length - i) := by
  induction q with
  | nil => rfl
  | cons tmp q ih =>
    rw [putqFromBottom, putqPlace, ih]
    split_ifs
    · rfl
    · rw [Option.map_some, List.length_cons, Nat.sub_self]
      rfl
    · rw [Option.map_map]
      refine Option.map_congr fun i hi => ?_
      have hle := putqPlace_le hi
      rw [Function.comp_apply, List.length_cons, Nat.succ_sub hle]
      rfl

lemma rtpPutq_eq (q : List Packet) (mp : Packet) :
    rtpPutq q mp = (putqPlace mp q.reverse).map fun i => q.take i ++ mp :: q.drop i := by
  rw [rtpPutq, putqFromBottom_eq, Option.map_map]
  refine Option.map_congr fun i hi => ?_
  have hle := putqPlace_le hi
  rw [List.length_reverse] at hle
  rw [Function.comp_apply, List.length_reverse, List.reverse_append, List.reverse_cons, List.drop_reverse,
    List.take_reverse, List.reverse_reverse, List.reverse_reverse, Nat.sub_sub_self hle, List.append_assoc,
    List.singleton_append]

structure FecStream where
  State : Type
  findMissingPacket : State → UInt16 → Option Packet × State
  seqnumber_eq : ∀ {fec n mp}, (findMissingPacket fec n).1 = some mp → rtpGetSeqnumber mp = n

/-- The answers of a stream do not depend on its state. -/
def FecStream.Answers (F : FecStream) (answer : UInt16 → Option Packet) : Prop :=
  ∀ fec n, (F.findMissingPacket fec n).1 = answer n

/-- The walk along the queue: `place` packets come before the current one. -/
structure FecWalk (F : FecStream) where
  q : List Packet
  place : ℕ
  fec : F.State
  asked : List UInt16
  recovered : List Packet

namespace FecWalk

variable {F : FecStream}

/-- The current packet stays, a packet linked before it gives it one more before it. -/
def putq (w : FecWalk F) (mp : Packet) : FecWalk F :=
  match putqPlace mp w.q.reverse with
  | none => w
  | some i =>
    { w with
      q := w.q.take i ++ mp :: w.q.drop i
      place := if i ≤ w.place then w.place + 1 else w.place }

lemma putq_q (w : FecWalk F) (mp : Packet) : (w.putq mp).q = (rtpPutq w.q mp).getD w.q := by
  rw [putq, rtpPutq_eq]
  cases putqPlace mp w.q.reverse with
  | none => rfl
  | some i => rfl

/-- Ask for a number, and inject the packet found. -/
def ask (w : FecWalk F) (seqNumMissing : UInt16) : FecWalk F :=
  let (fecMp, fec) := F.findMissingPacket w.fec seqNumMissing
  let w := { w with fec, asked := w.asked ++ [seqNumMissing] }
  match fecMp with
  | none => w
  | some mp => { w.putq mp with recovered := w.recovered ++ [mp] }

def askGap (w : FecWalk F) : ℕ → UInt16 → FecWalk F
  | 0, _ => w
  | diff + 1, seqNumMissing => askGap (w.ask seqNumMissing) diff (seqNumMissing + 1)

lemma asked_putq (w : FecWalk F) (mp : Packet) : (w.putq mp).asked = w.asked := by
  rw [putq]
  cases putqPlace mp w.q.reverse with
  | none => rfl
  | some i => rfl

lemma asked_ask (w : FecWalk F) (n : UInt16) : (w.ask n).asked = w.asked ++ [n] := by
  rw [ask]
  obtain ⟨fecMp, fec⟩ := F.findMissingPacket w.fec n
  cases fecMp with
  | none => rfl
  | some mp => exact asked_putq _ mp

lemma asked_askGap (w : FecWalk F) (diff : ℕ) (x : UInt16) :
    (w.askGap diff x).asked = w.asked ++ numbersFrom x diff := by
  induction diff generalizing w x with
  | zero => exact (append_nil _).symm
  | succ diff ih =>
    rw [askGap, ih, asked_ask, append_assoc, singleton_append, numbersFrom_succ]

lemma q_ask {answer : UInt16 → Option Packet} (h : F.Answers answer) (w : FecWalk F) (n : UInt16) :
    (w.ask n).q = recoverMissing answer w.q n 1 := by
  rw [ask, recoverMissing, recoverMissing, ← h w.fec n]
  obtain ⟨fecMp, fec⟩ := F.findMissingPacket w.fec n
  cases fecMp with
  | none => rfl
  | some mp => exact putq_q _ mp

lemma q_askGap {answer : UInt16 → Option Packet} (h : F.Answers answer) (w : FecWalk F) (diff : ℕ) (x : UInt16) :
    (w.askGap diff x).q = recoverMissing answer w.q x diff := by
  induction diff generalizing w x with
  | zero => rfl
  | succ diff ih =>
    rw [askGap, ih, q_ask h]
    rfl

/-- The loop on the packets of the queue. -/
def walk (w : FecWalk F) : ℕ → UInt16 → Option (FecWalk F)
  | 0, _ => none
  | turns + 1, refSeqNum =>
    match w.q[w.place]? with
    | none => some w
    | some mp =>
      let nextSeqNum := rtpGetSeqnumber mp
      let w :=
        if nextSeqNum < refSeqNum then w else w.askGap ((nextSeqNum - refSeqNum).toNat - 1) (refSeqNum + 1)
      walk { w with place := w.place + 1 } turns nextSeqNum

/-- More numbers go from the last packet delivered to the newest one of the queue than the queue has packets, as
integers. -/
def GapInQueue (lastSeqNum newestSeqNum : UInt16) (qMcount : ℕ) : Prop :=
  (newestSeqNum.toNat : ℤ) - lastSeqNum.toNat > (ofNat qMcount).toNat

instance (lastSeqNum newestSeqNum : UInt16) (qMcount : ℕ) : Decidable (GapInQueue lastSeqNum newestSeqNum qMcount) :=
  inferInstanceAs (Decidable (_ > _))

/-- `apply_fec_on_missing_packets`, within a number of turns of the loop on the queue. -/
def applyFecOnMissingPackets (F : FecStream) (turns : ℕ) (rcvLastSeq : UInt16) (q : List Packet) (fec : F.State) :
    Option (FecWalk F) :=
  match q.getLast? with
  | none => some ⟨q, 0, fec, [], []⟩
  | some newest =>
    if GapInQueue rcvLastSeq (rtpGetSeqnumber newest) q.length then walk ⟨q, 0, fec, [], []⟩ turns rcvLastSeq
    else some ⟨q, 0, fec, [], []⟩

end FecWalk

/-! ### The requests -/

/-- A queue in the serial order of its numbers, without duplicates. -/
def SortedQueue (q : List Packet) : Prop :=
  q.Pairwise fun mp mp' => RtpSeqIsStrictlyGreaterThan (rtpGetSeqnumber mp') (rtpGetSeqnumber mp)

instance (q : List Packet) : Decidable (SortedQueue q) := inferInstanceAs (Decidable (List.Pairwise _ _))

/-- A number between the last packet delivered and the newest one of the queue is not in the queue. -/
def MissingInQueue (rcvLastSeq : UInt16) (q : List Packet) (n : UInt16) : Prop :=
  ∃ newest, q.getLast? = some newest ∧ StrictlyBetween rcvLastSeq (rtpGetSeqnumber newest) n ∧ n ∉ q.map rtpGetSeqnumber

/-- The missing numbers are asked, each once, and the packets found are put in the queue in order. -/
structure AsksMissing {F : FecStream} (rcvLastSeq : UInt16) (q : List Packet) (w : FecWalk F) : Prop where
  nodup : w.asked.Nodup
  mem_iff : ∀ n, n ∈ w.asked ↔ MissingInQueue rcvLastSeq q n
  sorted : SortedQueue w.q
  perm : w.q.Perm (q ++ w.recovered)

def gaps : UInt16 → List UInt16 → List UInt16
  | _, [] => []
  | ref, n :: seqs => numbersFrom (ref + 1) (n.toNat - ref.toNat - 1) ++ gaps n seqs

section gaps

variable {ref n x : UInt16} {seqs : List UInt16}

lemma mem_numbersFrom_succ (h : ref < n) :
    x ∈ numbersFrom (ref + 1) (n.toNat - ref.toNat - 1) ↔ ref < x ∧ x < n := by
  have hlt := lt_iff_toNat_lt.1 h
  have hn := n.toNat_lt
  have hx := x.toNat_lt
  have hsucc : (ref + 1).toNat = ref.toNat + 1 := by
    rw [UInt16.toNat_add, show (1 : UInt16).toNat = 1 from rfl]
    omega
  rw [mem_numbersFrom (by omega), lt_iff_toNat_lt, lt_iff_toNat_lt]
  obtain ⟨hle, hsub⟩ | ⟨hlt', hsub⟩ := toNat_sub_cases x (ref + 1)
  · have hle' := le_iff_toNat_le.1 hle
    omega
  · have hlt'' := lt_iff_toNat_lt.1 hlt'
    omega

/-- The numbers of the gaps are those that are not in the list, as far as it goes. -/
lemma mem_gaps (h : (ref :: seqs).Pairwise (· < ·)) :
    x ∈ gaps ref seqs ↔ ref < x ∧ (∃ y ∈ seqs, x < y) ∧ x ∉ seqs := by
  induction seqs generalizing ref with
  | nil => simp [gaps]
  | cons n seqs ih =>
    obtain ⟨href, htail⟩ := pairwise_cons.1 h
    obtain ⟨hn, -⟩ := pairwise_cons.1 htail
    have hlt := href n mem_cons_self
    rw [gaps, mem_append, mem_numbersFrom_succ hlt, ih htail]
    constructor
    · rintro (⟨hx, hxn⟩ | ⟨hx, ⟨y, hy, hxy⟩, hnotin⟩)
      · refine ⟨hx, ⟨n, mem_cons_self, hxn⟩, fun hmem => ?_⟩
        rcases mem_cons.1 hmem with rfl | hmem
        · exact UInt16.lt_irrefl _ hxn
        · exact UInt16.lt_asymm hxn (hn x hmem)
      · refine ⟨UInt16.lt_trans hlt hx, ⟨y, mem_cons_of_mem _ hy, hxy⟩, fun hmem => ?_⟩
        rcases mem_cons.1 hmem with rfl | hmem
        · exact UInt16.lt_irrefl _ hx
        · exact hnotin hmem
    · rintro ⟨hx, ⟨y, hy, hxy⟩, hnotin⟩
      have hne : x ≠ n := fun heq => hnotin (heq ▸ mem_cons_self)
      rcases UInt16.lt_or_lt_of_ne hne with hxn | hnx
      · exact .inl ⟨hx, hxn⟩
      · refine .inr ⟨hnx, ⟨y, ?_, hxy⟩, fun hmem => hnotin (mem_cons_of_mem _ hmem)⟩
        rcases mem_cons.1 hy with rfl | hy
        · exact absurd hxy (UInt16.lt_asymm hnx)
        · exact hy

lemma nodup_gaps (h : (ref :: seqs).Pairwise (· < ·)) : (gaps ref seqs).Nodup := by
  induction seqs generalizing ref with
  | nil => exact nodup_nil
  | cons n seqs ih =>
    obtain ⟨href, htail⟩ := pairwise_cons.1 h
    have hn := n.toNat_lt
    refine nodup_append'.2 ⟨nodup_numbersFrom _ (by omega), ih htail, fun x hx hx' => ?_⟩
    have hxn := ((mem_numbersFrom_succ (href n mem_cons_self)).1 hx).2
    exact UInt16.lt_asymm hxn ((mem_gaps htail).1 hx').1

end gaps

/-! ### Packets found enter the queue -/

/-- A number of the half circle that ends with `top`, without going round. -/
def InWindow (top n : UInt16) : Prop := n.toNat ≤ top.toNat ∧ top.toNat < n.toNat + 2 ^ 15

/-- A queue whose numbers increase as integers, up to `top`. -/
structure Increasing (top : UInt16) (q : List Packet) : Prop where
  pairwise : (q.map rtpGetSeqnumber).Pairwise (· < ·)
  window : ∀ mp ∈ q, InWindow top (rtpGetSeqnumber mp)

section steady

variable {top a b : UInt16}

/-- In the half circle the serial order is the one of the integers. -/
lemma InWindow.greater_iff (ha : InWindow top a) (hb : InWindow top b) :
    RtpSeqIsStrictlyGreaterThan a b ↔ b < a := by
  obtain ⟨hatop, htopa⟩ := ha
  obtain ⟨hbtop, htopb⟩ := hb
  have h8000 : (0x8000 : UInt16).toNat = 2 ^ 15 := rfl
  rw [RtpSeqIsStrictlyGreaterThan, lt_iff_toNat_lt, lt_iff_toNat_lt, ne_eq, ← UInt16.toNat_inj, h8000]
  obtain ⟨hle, hsub⟩ | ⟨hlt, hsub⟩ := toNat_sub_cases a b
  · have hle' := le_iff_toNat_le.1 hle
    omega
  · have hlt' := lt_iff_toNat_lt.1 hlt
    omega

lemma Increasing.sortedQueue {q : List Packet} (h : Increasing top q) : SortedQueue q := by
  refine (pairwise_map.1 h.pairwise).imp_of_mem fun hmp hmp' hlt => ?_
  exact ((h.window _ hmp').greater_iff (h.window _ hmp)).2 hlt

variable {mp : Packet}

/-- A packet is linked between those of smaller and those of greater numbers. -/
lemma putqPlace_eq {lo hi : List Packet} (h : Increasing top (lo ++ hi)) (hmp : InWindow top (rtpGetSeqnumber mp))
    (hlo : ∀ tmp ∈ lo, rtpGetSeqnumber tmp < rtpGetSeqnumber mp)
    (hhi : ∀ tmp ∈ hi, rtpGetSeqnumber mp < rtpGetSeqnumber tmp) :
    putqPlace mp (lo ++ hi).reverse = some lo.length := by
  have hlow : putqPlace mp lo.reverse = some lo.length := by
    cases hrev : lo.reverse with
    | nil => rw [reverse_eq_nil_iff.1 hrev]; rfl
    | cons tmp q =>
      have hmem : tmp ∈ lo := mem_reverse.1 (hrev ▸ mem_cons_self)
      have hlt := hlo tmp hmem
      have hlength : lo.length = q.length + 1 := by
        rw [← length_reverse, hrev, length_cons]
      rw [putqPlace, if_neg (fun heq => UInt16.lt_irrefl _ (heq ▸ hlt)),
        if_pos ((hmp.greater_iff (h.window _ (mem_append_left _ hmem))).2 hlt), hlength]
  have hhigh (q : List Packet) (hq : ∀ tmp ∈ q, tmp ∈ hi) :
      putqPlace mp (q ++ lo.reverse) = putqPlace mp lo.reverse := by
    induction q with
    | nil => rfl
    | cons tmp q ih =>
      have hmem := hq tmp mem_cons_self
      have hlt := hhi tmp hmem
      have hnot : ¬ RtpSeqIsStrictlyGreaterThan (rtpGetSeqnumber mp) (rtpGetSeqnumber tmp) := fun hgreater =>
        UInt16.lt_asymm hlt ((hmp.greater_iff (h.window _ (mem_append_right _ hmem))).1 hgreater)
      rw [cons_append, putqPlace, if_neg (fun heq => UInt16.lt_irrefl _ (heq ▸ hlt)), if_neg hnot,
        ih fun tmp' h' => hq tmp' (mem_cons_of_mem _ h')]
  rw [reverse_append, hhigh _ fun tmp htmp => mem_reverse.1 htmp, hlow]

variable {F : FecStream} {q : List Packet} {lo hi : List Packet} {w : FecWalk F}

/-- The walk has come to the packets `hi` of the queue. -/
structure Steady (top : UInt16) (q lo hi : List Packet) (w : FecWalk F) : Prop where
  q_eq : w.q = lo ++ hi
  place_eq : w.place = lo.length
  increasing : Increasing top w.q
  perm : w.q.Perm (q ++ w.recovered)

lemma putq_eq (hq : w.q = lo ++ hi) (hplace : w.place = lo.length)
    (h : putqPlace mp (lo ++ hi).reverse = some lo.length) :
    w.putq mp = { w with q := lo ++ mp :: hi, place := lo.length + 1 } := by
  rw [FecWalk.putq, hq, h]
  dsimp only
  rw [hplace, if_pos le_rfl, take_left, drop_left]

lemma Increasing.insert (h : Increasing top (lo ++ hi)) (hmp : InWindow top (rtpGetSeqnumber mp))
    (hlo : ∀ tmp ∈ lo, rtpGetSeqnumber tmp < rtpGetSeqnumber mp)
    (hhi : ∀ tmp ∈ hi, rtpGetSeqnumber mp < rtpGetSeqnumber tmp) : Increasing top (lo ++ mp :: hi) := by
  obtain ⟨hpairwise, hwindow⟩ := h
  rw [pairwise_map] at hpairwise
  obtain ⟨hplo, hphi, hcross⟩ := pairwise_append.1 hpairwise
  refine ⟨pairwise_map.2 (pairwise_append.2 ⟨hplo, pairwise_cons.2 ⟨hhi, hphi⟩, ?_⟩), ?_⟩
  · intro tmp htmp tmp' htmp'
    rcases mem_cons.1 htmp' with rfl | htmp'
    · exact hlo tmp htmp
    · exact hcross tmp htmp tmp' htmp'
  · intro tmp htmp
    rcases mem_append.1 htmp with htmp | htmp
    · exact hwindow tmp (mem_append_left _ htmp)
    · rcases mem_cons.1 htmp with rfl | htmp
      · exact hmp
      · exact hwindow tmp (mem_append_right _ htmp)

/-- The packet found for a number between those walked and the others is linked between them. -/
lemma Steady.ask (h : Steady top q lo hi w) {n : UInt16} (hn : InWindow top n)
    (hlo : ∀ tmp ∈ lo, rtpGetSeqnumber tmp < n) (hhi : ∀ tmp ∈ hi, n < rtpGetSeqnumber tmp) :
    ∃ lo', Steady top q lo' hi (w.ask n) ∧ ∀ tmp ∈ lo', rtpGetSeqnumber tmp ≤ n := by
  have hle (tmp : Packet) (htmp : tmp ∈ lo) : rtpGetSeqnumber tmp ≤ n := UInt16.le_of_lt (hlo tmp htmp)
  rw [FecWalk.ask]
  cases hfind : F.findMissingPacket w.fec n with
  | mk fecMp fec =>
    dsimp only
    cases fecMp with
    | none => exact ⟨lo, ⟨h.q_eq, h.place_eq, h.increasing, h.perm⟩, hle⟩
    | some mp =>
      obtain rfl : rtpGetSeqnumber mp = n := F.seqnumber_eq (by rw [hfind])
      have hinc := h.q_eq ▸ h.increasing
      have hplace := putqPlace_eq hinc hn hlo hhi
      have hperm : (lo ++ mp :: hi).Perm (q ++ (w.recovered ++ [mp])) := by
        rw [← append_assoc]
        refine perm_middle.trans ?_
        exact ((h.q_eq ▸ h.perm).cons mp).trans (perm_append_singleton mp _).symm
      refine ⟨lo ++ [mp], ?_, ?_⟩
      · dsimp only
        rw [putq_eq (F := F) (w := { w with fec, asked := w.asked ++ [rtpGetSeqnumber mp] }) h.q_eq h.place_eq hplace]
        exact ⟨by simp, by simp, hinc.insert hn hlo hhi, hperm⟩
      · intro tmp htmp
        rcases mem_append.1 htmp with htmp | htmp
        · exact hle tmp htmp
        · rw [mem_singleton.1 htmp]
          exact UInt16.le_refl _

lemma toNat_succ_of_lt (h : a < b) : (a + 1).toNat = a.toNat + 1 := by
  have hlt := lt_iff_toNat_lt.1 h
  have hb := b.toNat_lt
  rw [UInt16.toNat_add, show (1 : UInt16).toNat = 1 from rfl]
  omega

/-- The numbers asked below the current packet. -/
lemma Steady.askGap (diff : ℕ) (h : Steady top q lo hi w) (hb : InWindow top b) {x : UInt16}
    (hx : top.toNat < x.toNat + 2 ^ 15) (hdiff : x.toNat + diff ≤ b.toNat)
    (hlo : ∀ tmp ∈ lo, rtpGetSeqnumber tmp < x) (hhi : ∀ tmp ∈ hi, b ≤ rtpGetSeqnumber tmp) :
    ∃ lo', Steady top q lo' hi (w.askGap diff x) := by
  induction diff generalizing lo w x with
  | zero => exact ⟨lo, h⟩
  | succ diff ih =>
    have hxb : x < b := lt_iff_toNat_lt.2 (by omega)
    have hsucc := toNat_succ_of_lt hxb
    obtain ⟨lo₁, h₁, hlo₁⟩ := h.ask ⟨by have := hb.1; omega, hx⟩ hlo fun tmp htmp =>
      UInt16.lt_of_lt_of_le hxb (hhi tmp htmp)
    exact ih (x := x + 1) h₁ (by omega) (by omega) fun tmp htmp => by
      have hle := le_iff_toNat_le.1 (hlo₁ tmp htmp)
      exact lt_iff_toNat_lt.2 (by omega)

lemma Steady.advance (h : Steady top q lo (mp :: hi) w) :
    Steady top q (lo ++ [mp]) hi { w with place := w.place + 1 } :=
  ⟨by rw [h.q_eq, append_assoc, singleton_append], by rw [length_append, h.place_eq]; rfl, h.increasing, h.perm⟩

/-- The numbers asked between two packets. -/
lemma Steady.gap (h : Steady top q lo (mp :: hi) w) {ref : UInt16} (href : top.toNat ≤ ref.toNat + 2 ^ 15)
    (hlo : ∀ tmp ∈ lo, rtpGetSeqnumber tmp ≤ ref) : ∃ lo' w', (if rtpGetSeqnumber mp < ref then w
        else w.askGap ((rtpGetSeqnumber mp - ref).toNat - 1) (ref + 1)) = w' ∧ Steady top q lo' (mp :: hi) w' ∧
      w'.asked = w.asked ++ numbersFrom (ref + 1) ((rtpGetSeqnumber mp).toNat - ref.toNat - 1) ∧
      ∀ answer, F.Answers answer → w'.q = if rtpGetSeqnumber mp < ref then w.q
        else recoverMissing answer w.q (ref + 1) ((rtpGetSeqnumber mp).toNat - ref.toNat - 1) := by
  by_cases hlt : ref < rtpGetSeqnumber mp
  · have hnot : ¬ rtpGetSeqnumber mp < ref := UInt16.lt_asymm hlt
    have hlt' := lt_iff_toNat_lt.1 hlt
    have hsub : (rtpGetSeqnumber mp - ref).toNat = (rtpGetSeqnumber mp).toNat - ref.toNat :=
      UInt16.toNat_sub_of_le _ _ (UInt16.le_of_lt hlt)
    have hsucc := toNat_succ_of_lt hlt
    have hmp := h.increasing.window mp (h.q_eq ▸ mem_append_right _ mem_cons_self)
    have hpairwise := (pairwise_append.1 (pairwise_map.1 (h.q_eq ▸ h.increasing).pairwise)).2.1
    obtain ⟨lo', h'⟩ := h.askGap ((rtpGetSeqnumber mp).toNat - ref.toNat - 1) (x := ref + 1) hmp
      (by omega) (by omega)
      (fun tmp htmp => lt_iff_toNat_lt.2 (by have := le_iff_toNat_le.1 (hlo tmp htmp); omega))
      (fun tmp htmp => by
        rcases mem_cons.1 htmp with rfl | htmp
        · exact UInt16.le_refl _
        · exact UInt16.le_of_lt ((pairwise_cons.1 hpairwise).1 tmp htmp))
    exact ⟨lo', _, by rw [if_neg hnot, hsub], h', FecWalk.asked_askGap _ _ _,
      fun answer hanswer => by rw [if_neg hnot, FecWalk.q_askGap hanswer]⟩
  · have hle := le_iff_toNat_le.1 (UInt16.not_lt.1 hlt)
    have hzero : (rtpGetSeqnumber mp).toNat - ref.toNat - 1 = 0 := by omega
    refine ⟨lo, w, ?_, h, by rw [hzero, numbersFrom, range_zero, map_nil, append_nil],
      fun answer _ => by rw [hzero, recoverMissing, ite_self]⟩
    by_cases hback : rtpGetSeqnumber mp < ref
    · rw [if_pos hback]
    · have heq : rtpGetSeqnumber mp = ref := UInt16.le_antisymm (UInt16.not_lt.1 hlt) (UInt16.not_lt.1 hback)
      rw [if_neg hback, heq, UInt16.sub_self]
      rfl

/-- The walk asks for the numbers of the gaps, and keeps the queue in order. -/
lemma Steady.walk (h : Steady top q lo hi w) {ref : UInt16} (href : top.toNat ≤ ref.toNat + 2 ^ 15)
    (hlo : ∀ tmp ∈ lo, rtpGetSeqnumber tmp ≤ ref) :
    ∃ lo' w', w.walk (hi.length + 1) ref = some w' ∧ Steady top q lo' [] w' ∧
      w'.asked = w.asked ++ gaps ref (hi.map rtpGetSeqnumber) ∧
      ∀ answer, F.Answers answer → w'.q = recoverGaps answer ref hi w.q := by
  induction hi generalizing lo w ref with
  | nil =>
    have hend : w.q[w.place]? = none := by
      rw [h.q_eq, h.place_eq, append_nil, getElem?_eq_none le_rfl]
    refine ⟨lo, w, ?_, h, (append_nil _).symm, fun answer _ => rfl⟩
    rw [FecWalk.walk, hend]
  | cons mp hi ih =>
    have hcurrent : w.q[w.place]? = some mp := by
      rw [h.q_eq, h.place_eq, getElem?_append_right le_rfl, Nat.sub_self]
      rfl
    obtain ⟨lo₁, w₁, hgap, h₁, hasked₁, hq₁⟩ := h.gap href hlo
    have hpairwise := pairwise_append.1 (pairwise_map.1 (h₁.q_eq ▸ h₁.increasing).pairwise)
    have hmp := h₁.increasing.window mp (h₁.q_eq ▸ mem_append_right _ mem_cons_self)
    obtain ⟨lo₂, w₂, hwalk, h₂, hasked₂, hq₂⟩ := ih h₁.advance hmp.2.le fun tmp htmp => by
      rcases mem_append.1 htmp with htmp | htmp
      · exact UInt16.le_of_lt (hpairwise.2.2 tmp htmp mp mem_cons_self)
      · rw [mem_singleton.1 htmp]
        exact UInt16.le_refl _
    refine ⟨lo₂, w₂, ?_, h₂, ?_, fun answer hanswer => ?_⟩
    · rw [length_cons, FecWalk.walk, hcurrent]
      dsimp only
      rw [hgap]
      exact hwalk
    · rw [hasked₂, map_cons, gaps, ← append_assoc]
      exact congrArg (· ++ gaps (rtpGetSeqnumber mp) (hi.map rtpGetSeqnumber)) hasked₁
    · rw [hq₂ answer hanswer, recoverGaps]
      dsimp only
      rw [hq₁ answer hanswer]

end steady

/-! ### The first gap -/

/-- The first gap between successive numbers, as integers. -/
inductive FirstGap : UInt16 → List UInt16 → UInt16 → UInt16 → Prop
  | here {ref n : UInt16} {seqs : List UInt16} (h : ref.toNat + 1 < n.toNat) : FirstGap ref (n :: seqs) ref n
  | later {ref n a b : UInt16} {seqs : List UInt16} (h : n.toNat ≤ ref.toNat + 1) (hgap : FirstGap n seqs a b) :
      FirstGap ref (n :: seqs) a b

lemma FirstGap.lt {ref a b : UInt16} {seqs : List UInt16} (h : FirstGap ref seqs a b) : a.toNat + 1 < b.toNat := by
  induction h with
  | here h => exact h
  | later _ _ ih => exact ih

section firstGap

variable {F : FecStream} {ref a b x : UInt16} {seqs : List UInt16} {w w' : FecWalk F} {turns : ℕ}

/-- A walk that ends has asked what it had asked on the way. -/
lemma asked_subset_of_walk (h : w.walk turns ref = some w') : w.asked ⊆ w'.asked := by
  induction turns generalizing w ref with
  | zero => cases h
  | succ turns ih =>
    rw [FecWalk.walk] at h
    cases hcurrent : w.q[w.place]? with
    | none =>
      rw [hcurrent] at h
      obtain rfl := some.inj h
      exact Subset.refl _
    | some mp =>
      rw [hcurrent] at h
      refine Subset.trans ?_ (ih h)
      dsimp only
      split_ifs
      · exact Subset.refl _
      · rw [FecWalk.asked_askGap]
        exact subset_append_left _ _

lemma getElem?_place_of_drop {mp : Packet} {rest : List Packet} (h : w.q.drop w.place = mp :: rest) :
    w.q[w.place]? = some mp ∧ w.q.drop (w.place + 1) = rest := by
  rw [← head?_drop, ← tail_drop, h]
  exact ⟨rfl, rfl⟩

lemma FirstGap.mem_asked (h : FirstGap ref seqs a b) (hseqs : (w.q.drop w.place).map rtpGetSeqnumber = seqs)
    (hwalk : w.walk turns ref = some w') (hax : a < x) (hxb : x < b) : x ∈ w'.asked := by
  induction h generalizing w turns with
  | @here ref n seqs hlt =>
    obtain ⟨mp, rest, hdrop, rfl, -⟩ := map_eq_cons_iff.1 hseqs
    cases turns with
    | zero => cases hwalk
    | succ turns =>
      have hlt' : ref < rtpGetSeqnumber mp := lt_iff_toNat_lt.2 (by omega)
      have hsub := UInt16.toNat_sub_of_le _ _ (UInt16.le_of_lt hlt')
      rw [FecWalk.walk, (getElem?_place_of_drop hdrop).1] at hwalk
      dsimp only at hwalk
      rw [if_neg (UInt16.lt_asymm hlt'), hsub] at hwalk
      refine asked_subset_of_walk hwalk ?_
      dsimp only
      rw [FecWalk.asked_askGap]
      exact mem_append_right _ ((mem_numbersFrom_succ hlt').2 ⟨hax, hxb⟩)
  | @later ref n a b seqs hle hgap ih =>
    obtain ⟨mp, rest, hdrop, rfl, hrest⟩ := map_eq_cons_iff.1 hseqs
    obtain ⟨hcurrent, hnext⟩ := getElem?_place_of_drop hdrop
    cases turns with
    | zero => cases hwalk
    | succ turns =>
      rw [FecWalk.walk, hcurrent] at hwalk
      dsimp only at hwalk
      by_cases hback : rtpGetSeqnumber mp < ref
      · rw [if_pos hback] at hwalk
        exact ih (by dsimp only; rw [hnext, hrest]) hwalk hax hxb
      · have hsub := UInt16.toNat_sub_of_le _ _ (UInt16.not_lt.1 hback)
        have hzero : (rtpGetSeqnumber mp - ref).toNat - 1 = 0 := by omega
        rw [if_neg hback, hzero, FecWalk.askGap] at hwalk
        exact ih (by dsimp only; rw [hnext, hrest]) hwalk hax hxb

/-- A number whose successor is not in an increasing list comes after its first gap, if the list goes on. -/
lemma exists_firstGap {n s : UInt16} (h : (n :: seqs).Pairwise (· < ·)) (hs : s ∈ n :: seqs)
    (hsucc : s + 1 ∉ n :: seqs) (hmore : ∃ t ∈ n :: seqs, s < t) : ∃ a b, FirstGap n seqs a b ∧ a ≤ s := by
  induction seqs generalizing n with
  | nil =>
    obtain ⟨t, ht, hst⟩ := hmore
    rw [mem_singleton.1 hs, mem_singleton.1 ht] at hst
    exact absurd hst (UInt16.lt_irrefl _)
  | cons t seqs ih =>
    obtain ⟨hn, htail⟩ := pairwise_cons.1 h
    have hnt := lt_iff_toNat_lt.1 (hn t mem_cons_self)
    by_cases hgap : n.toNat + 1 < t.toNat
    · refine ⟨n, t, .here hgap, ?_⟩
      rcases mem_cons.1 hs with rfl | hs
      · exact UInt16.le_refl _
      · exact UInt16.le_of_lt (hn s hs)
    · have hne : s ≠ n := by
        rintro rfl
        have heq : s + 1 = t := by
          rw [← UInt16.toNat_inj, toNat_succ_of_lt (lt_iff_toNat_lt.2 hnt)]
          omega
        exact hsucc (heq ▸ mem_cons_of_mem _ mem_cons_self)
      have hs' := mem_of_ne_of_mem hne hs
      obtain ⟨u, hu, hsu⟩ := hmore
      have hu' : u ∈ t :: seqs := by
        refine mem_of_ne_of_mem (fun heq => ?_) hu
        exact UInt16.lt_asymm hsu (heq ▸ hn s hs')
      obtain ⟨a, b, hab, hle⟩ := ih htail hs' (fun hmem => hsucc (mem_cons_of_mem _ hmem)) ⟨u, hu', hsu⟩
      exact ⟨a, b, .later (by omega) hab, hle⟩

end firstGap

/-! ### When the requests are right -/

/-- The comparisons of integers agree with the serial order: nothing is missing where the test sees no gap; where
it sees one, no number goes round, and those up to the last packet delivered follow one another. -/
def ComparesRight (rcvLastSeq : UInt16) (q : List Packet) : Prop :=
  ∀ newest, q.getLast? = some newest → if FecWalk.GapInQueue rcvLastSeq (rtpGetSeqnumber newest) q.length then
      rtpGetSeqnumber newest - rcvLastSeq ≤ 0x8000 ∧ ∀ n ∈ q.map rtpGetSeqnumber,
        n ≤ rtpGetSeqnumber newest ∧ (n < rcvLastSeq → n + 1 ∈ q.map rtpGetSeqnumber)
    else ∀ n, ¬ MissingInQueue rcvLastSeq q n

section requests

variable {F : FecStream} {rcvLastSeq : UInt16} {q : List Packet} {newest : Packet} {x : UInt16}

lemma toNat_lt_of_gapInQueue {a b : UInt16} {n : ℕ} (h : FecWalk.GapInQueue a b n) : a < b := by
  rw [FecWalk.GapInQueue] at h
  exact lt_iff_toNat_lt.2 (by omega)

lemma missingInQueue_iff (hnewest : q.getLast? = some newest) : MissingInQueue rcvLastSeq q x ↔
    StrictlyBetween rcvLastSeq (rtpGetSeqnumber newest) x ∧ x ∉ q.map rtpGetSeqnumber := by
  constructor
  · rintro ⟨newest', hnewest', h⟩
    obtain rfl := some.inj (hnewest.symm.trans hnewest')
    exact h
  · exact fun h => ⟨newest, hnewest, h⟩

lemma strictlyBetween_iff_of_lt {a b : UInt16} (hab : a < b) (hgap : b - a ≤ 0x8000) :
    StrictlyBetween a b x ↔ a < x ∧ x < b := by
  have hab' := lt_iff_toNat_lt.1 hab
  have hsub := UInt16.toNat_sub_of_le _ _ (UInt16.le_of_lt hab)
  have hb := b.toNat_lt
  rw [StrictlyBetween, lt_iff_toNat_lt, lt_iff_toNat_lt, lt_iff_toNat_lt,
    lt_iff_toNat_lt, hsub, show (0 : UInt16).toNat = 0 from rfl]
  obtain ⟨hle, hsubx⟩ | ⟨hlt, hsubx⟩ := toNat_sub_cases x a
  · have hle' := le_iff_toNat_le.1 hle
    constructor
    · rintro ⟨-, hpos, hlt⟩
      omega
    · rintro ⟨hax, hxb⟩
      exact ⟨hgap, by omega, by omega⟩
  · have hlt' := lt_iff_toNat_lt.1 hlt
    constructor
    · rintro ⟨-, -, hlt⟩
      omega
    · rintro ⟨hax, -⟩
      omega

/-- The packets of a sorted queue are in the half circle before the newest one. -/
lemma SortedQueue.sub_lt (h : SortedQueue q) (hnewest : q.getLast? = some newest) {mp : Packet} (hmp : mp ∈ q) :
    (rtpGetSeqnumber newest - rtpGetSeqnumber mp).toNat < 2 ^ 15 := by
  obtain ⟨init, rfl⟩ := getLast?_eq_some_iff.1 hnewest
  rcases mem_append.1 hmp with hinit | hlast
  · have hlt := ((pairwise_append.1 h).2.2 mp hinit newest (mem_singleton_self _)).1
    exact lt_iff_toNat_lt.1 hlt
  · rw [mem_singleton.1 hlast, UInt16.sub_self]
    decide

lemma SortedQueue.increasing (h : SortedQueue q) (hnewest : q.getLast? = some newest)
    (hle : ∀ n ∈ q.map rtpGetSeqnumber, n ≤ rtpGetSeqnumber newest) : Increasing (rtpGetSeqnumber newest) q := by
  have hwindow (mp : Packet) (hmp : mp ∈ q) : InWindow (rtpGetSeqnumber newest) (rtpGetSeqnumber mp) := by
    have hle := hle _ (mem_map_of_mem hmp)
    have hle' := le_iff_toNat_le.1 hle
    have hlt := h.sub_lt hnewest hmp
    rw [UInt16.toNat_sub_of_le _ _ hle] at hlt
    exact ⟨hle', by omega⟩
  refine ⟨pairwise_map.2 (h.imp_of_mem fun hmp hmp' hgreater => ?_), hwindow⟩
  exact ((hwindow _ hmp').greater_iff (hwindow _ hmp)).1 hgreater

/-- The numbers from one of the queue to the last packet delivered are in the queue, when each is followed by the
next one. -/
lemma mem_of_followed {seqs : List UInt16} {last s : UInt16} (hfollowed : ∀ n ∈ seqs, n < last → n + 1 ∈ seqs)
    (hs : s ∈ seqs) (hsx : s ≤ x) (hx : x ≤ last) : x ∈ seqs := by
  have hsx' := le_iff_toNat_le.1 hsx
  have hx' := le_iff_toNat_le.1 hx
  obtain ⟨d, hd⟩ : ∃ d, x.toNat = s.toNat + d := ⟨x.toNat - s.toNat, by omega⟩
  induction d generalizing x with
  | zero => rwa [UInt16.toNat_inj.1 hd]
  | succ d ih =>
    have hpos : (1 : UInt16) ≤ x := le_iff_toNat_le.2 (by rw [show (1 : UInt16).toNat = 1 from rfl]; omega)
    have hpred : (x - 1).toNat = x.toNat - 1 := UInt16.toNat_sub_of_le _ _ hpos
    have hmem : x - 1 ∈ seqs := ih (le_iff_toNat_le.2 (by omega)) (le_iff_toNat_le.2 (by omega))
      (by omega) (by omega) (by omega)
    have hnext := hfollowed (x - 1) hmem (lt_iff_toNat_lt.2 (by omega))
    rwa [UInt16.sub_add_cancel] at hnext

/-- The numbers of the gaps are the missing ones. -/
lemma gaps_exact {seqs : List UInt16} {last top : UInt16} (hpairwise : seqs.Pairwise (· < ·)) (htop : top ∈ seqs)
    (hle : ∀ n ∈ seqs, n ≤ top) (hfollowed : ∀ n ∈ seqs, n < last → n + 1 ∈ seqs) :
    (gaps last seqs).Nodup ∧ ∀ x, x ∈ gaps last seqs ↔ (last < x ∧ x < top) ∧ x ∉ seqs := by
  have hmore (x : UInt16) : (∃ y ∈ seqs, x < y) ↔ x < top :=
    ⟨fun ⟨y, hy, hxy⟩ => UInt16.lt_of_lt_of_le hxy (hle y hy), fun hx => ⟨top, htop, hx⟩⟩
  cases seqs with
  | nil => cases htop
  | cons n seqs =>
    obtain ⟨hn, htail⟩ := pairwise_cons.1 hpairwise
    by_cases hafter : last < n
    · have hall : (last :: n :: seqs).Pairwise (· < ·) := by
        refine pairwise_cons.2 ⟨fun m hm => ?_, hpairwise⟩
        rcases mem_cons.1 hm with rfl | hm
        · exact hafter
        · exact UInt16.lt_trans hafter (hn m hm)
      refine ⟨nodup_gaps hall, fun x => ?_⟩
      rw [mem_gaps hall, hmore, and_assoc]
    · have hbefore := UInt16.not_lt.1 hafter
      have hbefore' := le_iff_toNat_le.1 hbefore
      have hzero : n.toNat - last.toNat - 1 = 0 := by omega
      have hgaps : gaps last (n :: seqs) = gaps n seqs := by
        rw [gaps, hzero, numbersFrom, range_zero, map_nil, nil_append]
      rw [hgaps]
      refine ⟨nodup_gaps hpairwise, fun x => ?_⟩
      rw [mem_gaps hpairwise]
      constructor
      · rintro ⟨hnx, ⟨y, hy, hxy⟩, hnotin⟩
        have hnotin' : x ∉ n :: seqs := fun hmem => by
          rcases mem_cons.1 hmem with rfl | hmem
          · exact UInt16.lt_irrefl _ hnx
          · exact hnotin hmem
        refine ⟨⟨UInt16.not_le.1 fun hx => hnotin' ?_, (hmore x).1 ⟨y, mem_cons_of_mem _ hy, hxy⟩⟩, hnotin'⟩
        exact mem_of_followed hfollowed mem_cons_self (UInt16.le_of_lt hnx) hx
      · rintro ⟨⟨hx, hxtop⟩, hnotin⟩
        have hnx := UInt16.lt_of_le_of_lt hbefore hx
        refine ⟨hnx, ⟨top, mem_of_ne_of_mem (fun heq => ?_) htop, hxtop⟩, fun hmem => hnotin (mem_cons_of_mem _ hmem)⟩
        exact UInt16.lt_asymm hnx (heq ▸ hxtop)

/-- The walk, where the test sees a gap and the comparisons are right. -/
lemma ComparesRight.exists_walk (h : ComparesRight rcvLastSeq q) (hq : SortedQueue q)
    (hnewest : q.getLast? = some newest)
    (hgap : FecWalk.GapInQueue rcvLastSeq (rtpGetSeqnumber newest) q.length) (fec : F.State) :
    ∃ w, FecWalk.applyFecOnMissingPackets F (q.length + 1) rcvLastSeq q fec = some w ∧
      AsksMissing rcvLastSeq q w ∧ ∀ answer, F.Answers answer → w.q = recoverGaps answer rcvLastSeq q q := by
  have hright := h newest hnewest
  rw [if_pos hgap] at hright
  obtain ⟨hdistance, hall⟩ := hright
  have hlt := toNat_lt_of_gapInQueue hgap
  have hincreasing := hq.increasing hnewest fun n hn => (hall n hn).1
  have hsteady : Steady (rtpGetSeqnumber newest) q [] q (⟨q, 0, fec, [], []⟩ : FecWalk F) :=
    ⟨rfl, rfl, hincreasing, by simp⟩
  have hwindow : (rtpGetSeqnumber newest).toNat ≤ rcvLastSeq.toNat + 2 ^ 15 := by
    have hle := le_iff_toNat_le.1 hdistance
    rw [UInt16.toNat_sub_of_le _ _ (UInt16.le_of_lt hlt), show (0x8000 : UInt16).toNat = 2 ^ 15 from rfl] at hle
    omega
  obtain ⟨lo, w, hwalk, hw, hasked, hanswer⟩ := hsteady.walk hwindow fun tmp htmp => by cases htmp
  have htop : rtpGetSeqnumber newest ∈ q.map rtpGetSeqnumber := mem_map_of_mem (mem_of_getLast? hnewest)
  obtain ⟨hnodup, hmem⟩ := gaps_exact hincreasing.pairwise htop (fun n hn => (hall n hn).1)
    fun n hn => (hall n hn).2
  rw [nil_append] at hasked
  refine ⟨w, ?_, ⟨hasked ▸ hnodup, fun n => ?_, hw.increasing.sortedQueue, hw.perm⟩, hanswer⟩
  · rw [FecWalk.applyFecOnMissingPackets, hnewest]
    exact (if_pos hgap).trans hwalk
  · rw [hasked, hmem, missingInQueue_iff hnewest, strictlyBetween_iff_of_lt hlt hdistance]

/-- Where the comparisons are right, the requests are. -/
lemma ComparesRight.asksMissing (h : ComparesRight rcvLastSeq q) (hq : SortedQueue q) (fec : F.State) :
    ∃ turns w, FecWalk.applyFecOnMissingPackets F turns rcvLastSeq q fec = some w ∧ AsksMissing rcvLastSeq q w := by
  cases hnewest : q.getLast? with
  | none =>
    obtain rfl := getLast?_eq_none_iff.1 hnewest
    refine ⟨0, _, rfl, nodup_nil, fun n => ?_, hq, by simp⟩
    simp [MissingInQueue]
  | some newest =>
    by_cases hgap : FecWalk.GapInQueue rcvLastSeq (rtpGetSeqnumber newest) q.length
    · obtain ⟨w, hw, hasks, -⟩ := h.exists_walk hq hnewest hgap fec
      exact ⟨_, w, hw, hasks⟩
    · have hright := h newest hnewest
      rw [if_neg hgap] at hright
      refine ⟨0, ⟨q, 0, fec, [], []⟩, ?_, nodup_nil, fun n => ?_, hq, ?_⟩
      · rw [FecWalk.applyFecOnMissingPackets, hnewest]
        exact if_neg hgap
      · exact iff_of_false (by simp) (hright n)
      · simp

/-- There the queue is the one of the session whose FEC stream gives the same answers. -/
lemma ComparesRight.applyFecOnMissingPackets_rq {J : JitterControl} {session : RtpSession J}
    (h : ComparesRight session.rcvLastSeq session.rq) (hq : SortedQueue session.rq) (fec : F.State)
    {answer : UInt16 → Option Packet} (hanswer : F.Answers answer) :
    ∃ turns w, FecWalk.applyFecOnMissingPackets F turns session.rcvLastSeq session.rq fec = some w ∧
      w.q = (Ortp.applyFecOnMissingPackets answer session).rq := by
  rw [Ortp.applyFecOnMissingPackets]
  cases hnewest : session.rq.getLast? with
  | none => exact ⟨0, ⟨session.rq, 0, fec, [], []⟩, by rw [FecWalk.applyFecOnMissingPackets, hnewest], rfl⟩
  | some newest =>
    dsimp only
    have hsame : ((rtpGetSeqnumber newest).toNat : ℤ) - session.rcvLastSeq.toNat > (session.rq.length % 65536 : ℕ) ↔
        FecWalk.GapInQueue session.rcvLastSeq (rtpGetSeqnumber newest) session.rq.length := by
      rw [FecWalk.GapInQueue, toNat_ofNat']
    by_cases hgap : FecWalk.GapInQueue session.rcvLastSeq (rtpGetSeqnumber newest) session.rq.length
    · obtain ⟨w, hw, -, hq⟩ := h.exists_walk hq hnewest hgap fec
      refine ⟨_, w, hw, ?_⟩
      rw [if_pos (hsame.2 hgap)]
      exact hq answer hanswer
    · refine ⟨0, ⟨session.rq, 0, fec, [], []⟩, ?_, ?_⟩
      · rw [FecWalk.applyFecOnMissingPackets, hnewest]
        exact if_neg hgap
      · rw [if_neg (fun hgap' => hgap (hsame.1 hgap'))]

end requests

section failures

variable {F : FecStream} {rcvLastSeq x : UInt16} {q rest : List Packet} {newest first mp : Packet} {turns : ℕ}
  {fec : F.State} {w : FecWalk F}

/-- The packets of a sorted queue come after the first one. -/
lemma SortedQueue.first_sub_lt (h : SortedQueue (first :: rest)) (hmp : mp ∈ first :: rest) :
    (rtpGetSeqnumber mp - rtpGetSeqnumber first).toNat < 2 ^ 15 := by
  rcases mem_cons.1 hmp with rfl | hmp
  · rw [UInt16.sub_self]
    decide
  · exact lt_iff_toNat_lt.1 ((pairwise_cons.1 h).1 mp hmp).1

/-- The whole queue is away from a packet delivered more than half the circle before the newest one. -/
lemma SortedQueue.lt_first_of_far (h : SortedQueue (first :: rest)) (hnewest : (first :: rest).getLast? = some newest)
    (hfar : rcvLastSeq.toNat + 2 ^ 15 < (rtpGetSeqnumber newest).toNat) :
    rcvLastSeq.toNat + 1 < (rtpGetSeqnumber first).toNat := by
  have hfirst := h.sub_lt hnewest mem_cons_self
  obtain ⟨hle, hsub⟩ | ⟨hlt, hsub⟩ := toNat_sub_cases (rtpGetSeqnumber newest) (rtpGetSeqnumber first)
  · omega
  · have hlt' := lt_iff_toNat_lt.1 hlt
    omega

/-- Where the numbers go round, the first packet comes from before. -/
lemma SortedQueue.lt_first_of_round (h : SortedQueue (first :: rest))
    (hnewest : (first :: rest).getLast? = some newest) (hmp : mp ∈ first :: rest)
    (hround : (rtpGetSeqnumber newest).toNat < (rtpGetSeqnumber mp).toNat) :
    (rtpGetSeqnumber newest).toNat < (rtpGetSeqnumber first).toNat := by
  have hnewestmp := h.sub_lt hnewest hmp
  have hfirstmp := h.first_sub_lt hmp
  have hmax := (rtpGetSeqnumber mp).toNat_lt
  have hsub₁ := toNat_sub_cases (rtpGetSeqnumber newest) (rtpGetSeqnumber mp)
  have hsub₂ := toNat_sub_cases (rtpGetSeqnumber mp) (rtpGetSeqnumber first)
  simp only [le_iff_toNat_le, lt_iff_toNat_lt] at hsub₁ hsub₂
  omega

/-- The numbers of the first gap are missing, when the requests are right. -/
lemma AsksMissing.of_firstGap (h : AsksMissing rcvLastSeq q w) (hnewest : q.getLast? = some newest)
    (hgap : FecWalk.GapInQueue rcvLastSeq (rtpGetSeqnumber newest) q.length)
    (hw : FecWalk.applyFecOnMissingPackets F turns rcvLastSeq q fec = some w) {a b : UInt16}
    (hfirst : FirstGap rcvLastSeq (q.map rtpGetSeqnumber) a b) (hax : a < x) (hxb : x < b) :
    StrictlyBetween rcvLastSeq (rtpGetSeqnumber newest) x ∧ x ∉ q.map rtpGetSeqnumber := by
  refine (missingInQueue_iff hnewest).1 ((h.mem_iff x).1 ?_)
  rw [FecWalk.applyFecOnMissingPackets, hnewest] at hw
  dsimp only at hw
  rw [if_pos hgap] at hw
  exact hfirst.mem_asked rfl hw hax hxb

/-- A number up to the last packet delivered is not missing. -/
lemma not_strictlyBetween_of_le {a b : UInt16} (hab : a < b) (hx : x ≤ a) : ¬ StrictlyBetween a b x := by
  rintro ⟨hgap, hpos, hlt⟩
  have hbetween := ((strictlyBetween_iff_of_lt hab hgap).1 ⟨hgap, hpos, hlt⟩).1
  exact UInt16.not_lt.2 hx hbetween

/-- Requests that are right come from right comparisons. -/
lemma AsksMissing.comparesRight (h : AsksMissing rcvLastSeq q w) (hq : SortedQueue q)
    (hw : FecWalk.applyFecOnMissingPackets F turns rcvLastSeq q fec = some w) : ComparesRight rcvLastSeq q := by
  intro newest hnewest
  split_ifs with hgap
  · have hlt := toNat_lt_of_gapInQueue hgap
    have hlt' := lt_iff_toNat_lt.1 hlt
    have htop : rtpGetSeqnumber newest ∈ q.map rtpGetSeqnumber :=
      mem_map_of_mem (mem_of_getLast? hnewest)
    obtain ⟨first, rest, rfl⟩ : ∃ first rest, q = first :: rest :=
      exists_cons_of_ne_nil (by rintro rfl; cases hnewest)
    have hdistance : rtpGetSeqnumber newest - rcvLastSeq ≤ 0x8000 := by
      by_contra hfar
      have hfar' := lt_iff_toNat_lt.1 (UInt16.not_le.1 hfar)
      rw [UInt16.toNat_sub_of_le _ _ (UInt16.le_of_lt hlt), show (0x8000 : UInt16).toNat = 2 ^ 15 from rfl] at hfar'
      have hfirst : rcvLastSeq.toNat + 1 < (rtpGetSeqnumber first).toNat := hq.lt_first_of_far hnewest (by omega)
      have hsucc := toNat_succ_of_lt hlt
      have hmissing := h.of_firstGap (x := rcvLastSeq + 1) hnewest hgap hw (.here hfirst)
        (lt_iff_toNat_lt.2 (by omega)) (lt_iff_toNat_lt.2 (by omega))
      exact hfar hmissing.1.1
    have hle (n : UInt16) (hn : n ∈ (first :: rest).map rtpGetSeqnumber) : n ≤ rtpGetSeqnumber newest := by
      by_contra hround
      obtain ⟨mp, hmp, rfl⟩ := mem_map.1 hn
      have hfirst := hq.lt_first_of_round hnewest hmp (lt_iff_toNat_lt.1 (UInt16.not_le.1 hround))
      have hmissing := h.of_firstGap hnewest hgap hw (.here (by omega)) hlt (lt_iff_toNat_lt.2 hfirst)
      exact hmissing.2 htop
    refine ⟨hdistance, fun n hn => ⟨hle n hn, fun hbefore => ?_⟩⟩
    by_contra hnext
    have hpairwise := (hq.increasing hnewest hle).pairwise
    obtain ⟨a, b, hfirst, han⟩ := exists_firstGap hpairwise hn hnext ⟨_, htop, UInt16.lt_trans hbefore hlt⟩
    have hbefore' := lt_iff_toNat_lt.1 hbefore
    have han' := le_iff_toNat_le.1 han
    have hfirstn : (rtpGetSeqnumber first).toNat ≤ n.toNat := by
      rcases mem_cons.1 hn with heq | hn
      · rw [heq]
      · exact (lt_iff_toNat_lt.1 ((pairwise_cons.1 hpairwise).1 n hn)).le
    have hab := hfirst.lt
    have hsucc := toNat_succ_of_lt (lt_iff_toNat_lt.2 (Nat.lt_of_succ_lt hab))
    have hmissing := h.of_firstGap (x := a + 1) hnewest hgap hw (.later (by omega) hfirst)
      (lt_iff_toNat_lt.2 (by omega)) (lt_iff_toNat_lt.2 (by omega))
    exact not_strictlyBetween_of_le hlt (le_iff_toNat_le.2 (by omega)) hmissing.1
  · intro n hmissing
    have hmem := (h.mem_iff n).2 hmissing
    rw [FecWalk.applyFecOnMissingPackets, hnewest] at hw
    dsimp only at hw
    rw [if_neg hgap] at hw
    obtain rfl := some.inj hw
    cases hmem

end failures

/-- The requests are the missing numbers exactly where the comparisons of integers agree with the serial order. -/
theorem asksMissing_iff (F : FecStream) (fec : F.State) (rcvLastSeq : UInt16) (q : List Packet) (hq : SortedQueue q) :
    (∃ turns w, FecWalk.applyFecOnMissingPackets F turns rcvLastSeq q fec = some w ∧
      AsksMissing rcvLastSeq q w) ↔ ComparesRight rcvLastSeq q :=
  ⟨fun ⟨_, _, hw, h⟩ => h.comparesRight hq hw, fun h => h.asksMissing hq fec⟩

/-- A packet without payload. -/
def emptyPacket (n : UInt16) : Packet := [0x80, 0] ++ (Bytes.be16 n ++ [0, 0, 0, 0, 0, 0, 0, 0])

def generousFecStream : FecStream where
  State := Unit
  findMissingPacket _ n := (some (emptyPacket n), ())
  seqnumber_eq h := by
    obtain rfl := some.inj h
    exact Bytes.be16At_of_drop _ rfl

theorem asksMissing_iff_gaps : ∃ turns w,
    FecWalk.applyFecOnMissingPackets generousFecStream turns 10 [emptyPacket 12, emptyPacket 15] () = some w ∧
      AsksMissing 10 [emptyPacket 12, emptyPacket 15] w := by
  refine (asksMissing_iff generousFecStream () 10 [emptyPacket 12, emptyPacket 15] (by decide)).2 ?_
  intro newest hnewest
  obtain rfl := some.inj hnewest
  rw [if_pos (by decide)]
  have hnumbers : [emptyPacket 12, emptyPacket 15].map rtpGetSeqnumber = [12, 15] := by decide
  refine ⟨by decide, fun n hn => ?_⟩
  rw [hnumbers] at hn ⊢
  obtain rfl | hn := mem_cons.1 hn
  · exact ⟨by decide, by decide⟩
  · obtain rfl := mem_singleton.1 hn
    exact ⟨by decide, by decide⟩

/-- Nothing is asked where the numbers go round, and numbers already delivered are where an older packet waits. -/
theorem asksMissing_iff_fails : (SortedQueue [emptyPacket 1] ∧ MissingInQueue 65534 [emptyPacket 1] 65535 ∧
      ∀ turns, FecWalk.applyFecOnMissingPackets generousFecStream turns 65534 [emptyPacket 1] () =
        some ⟨[emptyPacket 1], 0, (), [], []⟩) ∧ SortedQueue [emptyPacket 8, emptyPacket 14] ∧
      (FecWalk.applyFecOnMissingPackets generousFecStream 10 10 [emptyPacket 8, emptyPacket 14] ()).map (·.asked) =
        some [9, 10, 11, 12, 13] ∧ ¬ MissingInQueue 10 [emptyPacket 8, emptyPacket 14] 9 := by
  refine ⟨⟨by decide, ⟨_, rfl, by decide, by decide⟩, fun turns => ?_⟩, by decide, by decide, ?_⟩
  · rfl
  · rintro ⟨newest, hnewest, hbetween, -⟩
    obtain rfl := some.inj hnewest
    exact absurd hbetween (by decide)

end Ortp
