import LinphoneSdk.Ortp.FecEncoder
import LinphoneSdk.Ortp.ReceiveCluster
import Mathlib.Data.List.Sort

/-!
# FEC recovery

`ReceiveCluster::repair` recovers the source packets from the repair packets that protect them. A repair packet
one of whose source packets misses gives it.
-/

namespace Ortp

open Bytes Parity List Option UInt16 Except ReceiveCluster
open scoped TimeIndex

namespace ReceiveCluster

/-- The loop of `repairOne`: the number of source packets that miss, the last of them, and the sum of the
bitstrings of the others. It stops when two miss. -/
def lookForLoss (cluster : ReceiveCluster) : List UInt16 → ℕ → UInt16 → Bitstring → ℕ × UInt16 × Bitstring
  | [], loss, seqnumToRepair, recoveryBs => (loss, seqnumToRepair, recoveryBs)
  | seqnum :: seqnumList, loss, seqnumToRepair, recoveryBs =>
    if 1 < loss then (loss, seqnumToRepair, recoveryBs)
    else match cluster.getSourcePacket seqnum with
      | none => cluster.lookForLoss seqnumList (loss + 1) seqnum recoveryBs
      | some source => cluster.lookForLoss seqnumList loss seqnumToRepair (recoveryBs.add source.mBitstring)

def addPayloads (cluster : ReceiveCluster) (seqnumList : List UInt16) (payload : Bytes) : Bytes :=
  seqnumList.foldl (fun payload seqnum => match cluster.getSourcePacket seqnum with
    | some source => addPayload payload source.payload
    | none => payload) payload

def recovery (cluster : ReceiveCluster) (repairPacket : FecRepairPacket) (seqnumList : List UInt16)
    (seqnumToRepair : UInt16) (recoveryBs : Bitstring) : FecSourcePacket :=
  let payload := replicate recoveryBs.length.toNat 0
  let payload := cluster.addPayloads (seqnumList.filter (· ≠ seqnumToRepair)) payload
  ⟨recoveryBs.write seqnumToRepair repairPacket.protectedSsrc ++ addPayload payload repairPacket.payload, recoveryBs⟩

def repairOne (cluster : ReceiveCluster) (repairPacket : FecRepairPacket) : ReceiveCluster × ℕ :=
  let seqnumList := repairPacket.createSequenceNumberList
  let (loss, seqnumToRepair, recoveryBs) := cluster.lookForLoss seqnumList 0 0 .zero
  if loss ≠ 1 then (cluster, 0)
  else
    let recoveryBs := recoveryBs.add repairPacket.bitstring
    let recovery := cluster.recovery repairPacket seqnumList seqnumToRepair recoveryBs
    ({ cluster with
      mSource := cluster.mSource.emplace seqnumToRepair recovery
      mSourceTimeStamp := TimeIndex.emplace recoveryBs.timestamp seqnumToRepair cluster.mSourceTimeStamp }, 1)

def repair1D (cluster : ReceiveCluster) : List FecRepairPacket → ReceiveCluster × ℕ
  | [] => (cluster, 0)
  | repairPacket :: repairPackets =>
    let (cluster, repaired) := cluster.repairOne repairPacket
    let (cluster, repaired') := cluster.repair1D repairPackets
    (cluster, repaired + repaired')

/-- The rounds over the row and the column repair packets, as long as one recovers a packet. -/
def repair2D (rowRepair colRepair : List FecRepairPacket) : ℕ → ReceiveCluster → ReceiveCluster
  | 0, cluster => cluster
  | n + 1, cluster =>
    let (cluster, rows) := cluster.repair1D rowRepair
    let (cluster, columns) := cluster.repair1D colRepair
    if 0 < rows + columns then repair2D rowRepair colRepair n cluster else cluster

/-- The numbers of source packets that miss, in the lists of some repair packets. -/
def missing (cluster : ReceiveCluster) (repairPackets : List FecRepairPacket) : List UInt16 :=
  (repairPackets.flatMap (·.createSequenceNumberList)).filter fun n => (cluster.getSourcePacket n).isNone

/-- The repair packets of some numbers, in the order of the numbers. -/
def repairForDecoding (cluster : ReceiveCluster) (found : RepairKind → List UInt16) (kind : RepairKind) :
    List FecRepairPacket :=
  ((found kind).dedup.insertionSort (· ≤ ·)).filterMap fun n => (cluster.mRepairAll kind).lookup n

/-- The rounds end, as each but the last leaves fewer packets missing. -/
def repair (cluster : ReceiveCluster) (seqNum : UInt16) : Except OutOfRange ReceiveCluster :=
  if (cluster.getSourcePacket seqNum).isSome then .ok cluster
  else do
    let found ← cluster.mFecGraph.getRepairPacketsToRecoverSource seqNum
    let rowRepair := cluster.repairForDecoding found .row
    let colRepair := cluster.repairForDecoding found .col
    .ok (cluster.repair2D rowRepair colRepair ((cluster.missing (rowRepair ++ colRepair)).length + 1))

end ReceiveCluster

/-! ### Packets of a stream -/

/-- The packet of a source with a sequence number. -/
structure IsOriginal (ssrc : UInt32) (n : UInt16) (mp : Packet) : Prop where
  header : RTP_FIXED_HEADER_SIZE ≤ mp.length
  length_lt : mp.length < RTP_FIXED_HEADER_SIZE + 65536
  version : rtpGetVersion mp = 2
  seqnum_eq : rtpGetSeqnumber mp = n
  ssrc_eq : rtpGetSsrc mp = ssrc

lemma version_and_flags {h0 : UInt8} (h : h0 >>> 6 = 2) : (2 : UInt8) <<< 6 ||| (h0 &&& 0x3F) = h0 := by
  have hall : ∀ x : Fin 256, UInt8.ofNat x >>> 6 = 2 → (2 : UInt8) <<< 6 ||| (UInt8.ofNat x &&& 0x3F) = .ofNat x := by
    decide +kernel
  have hx := hall ⟨h0.toNat, h0.toNat_lt⟩
  rw [UInt8.ofNat_toNat] at hx
  exact hx h

/-- A header is written back from the bitstring of a packet. -/
lemma IsOriginal.write_eq {ssrc : UInt32} {n : UInt16} {mp : Packet} (h : IsOriginal ssrc n mp) :
    (Bitstring.ofPacket mp).write n ssrc ++ mp.drop RTP_FIXED_HEADER_SIZE = mp := by
  obtain ⟨hheader, -, hversion, rfl, rfl⟩ := h
  have htake : mp.take RTP_FIXED_HEADER_SIZE = (range RTP_FIXED_HEADER_SIZE).map fun i => mp.getD i 0 := by
    refine ext_getElem ?_ fun i hi _ => ?_
    · rw [length_take, length_map, length_range]
      exact min_eq_left hheader
    · have hlt : i < mp.length := (length_take_le' ..).trans_lt' hi
      simp [hlt]
  have hwrite : (Bitstring.ofPacket mp).write (rtpGetSeqnumber mp) (rtpGetSsrc mp) = mp.take RTP_FIXED_HEADER_SIZE := by
    rw [htake, Bitstring.write, rtpGetSeqnumber, rtpGetSsrc, be16At, be32At, be16_word16, be32_word32]
    rw [Bitstring.ofPacket, rtpGetTimestamp, be32At, be32_word32, version_and_flags hversion]
    rfl
  rw [hwrite]
  exact take_append_drop ..

/-- The loss is found by its length. -/
lemma IsOriginal.length_eq {ssrc : UInt32} {n : UInt16} {mp : Packet} (h : IsOriginal ssrc n mp) :
    (Bitstring.ofPacket mp).length.toNat = (FecSourcePacket.ofPacket mp).payload.length := by
  rw [FecSourcePacket.payload, FecSourcePacket.ofPacket, length_drop]
  have hlt := h.length_lt
  exact toNat_ofNat_of_lt (Nat.sub_lt_left_of_lt_add h.header hlt)

structure ProtectsOriginals (ssrc : UInt32) (orig : UInt16 → Packet) (packet : FecRepairPacket) : Prop where
  nodup : packet.createSequenceNumberList.Nodup
  ssrc_eq : packet.protectedSsrc = ssrc
  parity : packet.IsParity (packet.createSequenceNumberList.map fun n => .ofPacket (orig n))

namespace ReceiveCluster

variable {cluster cluster' : ReceiveCluster} {ssrc : UInt32} {orig : UInt16 → Packet}

structure Exact (cluster : ReceiveCluster) (ssrc : UInt32) (orig : UInt16 → Packet) : Prop where
  source : ∀ n packet, cluster.mSource.lookup n = some packet → packet = .ofPacket (orig n)
  repair : ∀ kind n packet, (cluster.mRepairAll kind).lookup n = some packet → ProtectsOriginals ssrc orig packet

/-! ### Recovery of a packet -/

lemma lookForLoss_two (ns : List UInt16) (lost : UInt16) (bs : Bitstring) :
    (cluster.lookForLoss ns 2 lost bs).1 = 2 := by
  cases ns <;> rfl

def bitstringOf (cluster : ReceiveCluster) (n : UInt16) : Bitstring :=
  match cluster.getSourcePacket n with
  | some packet => packet.mBitstring
  | none => 0

/-- After one loss the others are there. -/
lemma lookForLoss_one {ns : List UInt16} {lost lost' : UInt16} {bs bs' : Bitstring}
    (h : cluster.lookForLoss ns 1 lost bs = (1, lost', bs')) :
    lost' = lost ∧ (∀ n ∈ ns, cluster.getSourcePacket n ≠ none) ∧ bs' = bs ^^^ parity cluster.bitstringOf ns := by
  induction ns generalizing bs with
  | nil =>
    obtain ⟨-, rfl, rfl⟩ := h
    exact ⟨rfl, fun n hn => absurd hn not_mem_nil, (LawfulXor.xor_zero _).symm⟩
  | cons n ns ih =>
    rw [lookForLoss, if_neg (lt_irrefl 1)] at h
    cases hn : cluster.getSourcePacket n with
    | none =>
      rw [hn] at h
      exact absurd ((lookForLoss_two ns n bs).symm.trans (congrArg Prod.fst h)) (by decide : (2 : ℕ) ≠ 1)
    | some packet =>
      rw [hn] at h
      obtain ⟨hlost, hothers, hbs⟩ := ih h
      refine ⟨hlost, fun n' hn' => ?_, ?_⟩
      · rcases mem_cons.mp hn' with rfl | hn'
        · exact hn ▸ some_ne_none packet
        · exact hothers n' hn'
      · rw [hbs, parity_cons, bitstringOf, hn, ← LawfulXor.xor_assoc]
        rfl

lemma lookForLoss_zero {ns : List UInt16} {lost lost' : UInt16} {bs bs' : Bitstring}
    (h : cluster.lookForLoss ns 0 lost bs = (1, lost', bs')) :
    lost' ∈ ns ∧ cluster.getSourcePacket lost' = none ∧ (∀ n ∈ ns.erase lost', cluster.getSourcePacket n ≠ none) ∧
      bs' = bs ^^^ parity cluster.bitstringOf (ns.erase lost') := by
  induction ns generalizing bs with
  | nil => exact absurd (congrArg Prod.fst h) (by simp [lookForLoss])
  | cons n ns ih =>
    rw [lookForLoss, if_neg (by decide)] at h
    cases hn : cluster.getSourcePacket n with
    | none =>
      rw [hn] at h
      obtain ⟨rfl, hothers, hbs⟩ := lookForLoss_one h
      rw [erase_cons_head]
      exact ⟨mem_cons_self, hn, hothers, hbs⟩
    | some packet =>
      rw [hn] at h
      obtain ⟨hmem, hlost, hothers, hbs⟩ := ih h
      have hne : n ≠ lost' := by
        rintro rfl
        exact absurd (hn.symm.trans hlost) (some_ne_none _)
      rw [erase_cons_tail (by simpa using hne)]
      refine ⟨mem_cons_of_mem _ hmem, hlost, fun n' hn' => ?_, ?_⟩
      · rcases mem_cons.mp hn' with rfl | hn'
        · exact hn ▸ some_ne_none packet
        · exact hothers n' hn'
      · rw [hbs, parity_cons, bitstringOf, hn, ← LawfulXor.xor_assoc]
        rfl

lemma length_addPayloads (ns : List UInt16) (payload : Bytes) :
    (cluster.addPayloads ns payload).length = payload.length := by
  induction ns generalizing payload with
  | nil => rfl
  | cons n ns ih =>
    rw [addPayloads, foldl_cons]
    refine (ih _).trans ?_
    cases cluster.getSourcePacket n with
    | none => rfl
    | some source => exact length_addPayload ..

lemma getD_addPayloads {ns : List UInt16} {payload : Bytes} {i : ℕ} (hi : i < payload.length)
    (hns : ∀ n ∈ ns, cluster.getSourcePacket n = some (.ofPacket (orig n))) :
    (cluster.addPayloads ns payload).getD i 0 = payload.getD i 0 ^^^
      parity (fun n => (FecSourcePacket.ofPacket (orig n)).payload.getD i 0) ns := by
  induction ns generalizing payload with
  | nil => exact (LawfulXor.xor_zero _).symm
  | cons n ns ih =>
    rw [addPayloads, foldl_cons, hns n mem_cons_self, parity_cons, ← LawfulXor.xor_assoc, ← getD_addPayload hi]
    exact ih (by rwa [length_addPayload]) fun n' hn' => hns n' (mem_cons_of_mem _ hn')

lemma recovery_eq {repairPacket : FecRepairPacket} (horig : ∀ n, IsOriginal ssrc n (orig n))
    (hprotects : ProtectsOriginals ssrc orig repairPacket) {lost : UInt16}
    (hlost : lost ∈ repairPacket.createSequenceNumberList)
    (hothers : ∀ n ∈ repairPacket.createSequenceNumberList.erase lost,
      cluster.getSourcePacket n = some (.ofPacket (orig n))) {bs : Bitstring}
    (hbs : bs = parity (fun n => Bitstring.ofPacket (orig n)) (repairPacket.createSequenceNumberList.erase lost)) :
    cluster.recovery repairPacket repairPacket.createSequenceNumberList lost (bs.add repairPacket.bitstring) =
      .ofPacket (orig lost) := by
  have hbitstring : bs.add repairPacket.bitstring = .ofPacket (orig lost) := by
    rw [hbs, hprotects.parity.bitstring, parity_map]
    exact parity_erase_xor hlost
  have hlength := (horig lost).length_eq
  let ns := repairPacket.createSequenceNumberList.erase lost
  let payload := replicate (Bitstring.ofPacket (orig lost)).length.toNat (0 : UInt8)
  have hpayload : addPayload (cluster.addPayloads ns payload) repairPacket.payload =
      (FecSourcePacket.ofPacket (orig lost)).payload := by
    have hsize : (cluster.addPayloads ns payload).length = (Bitstring.ofPacket (orig lost)).length.toNat :=
      (length_addPayloads ns payload).trans length_replicate
    refine ext_getElem ?_ fun i hi₁ hi' => ?_
    · rw [length_addPayload, hsize, hlength]
    · have hi : i < (cluster.addPayloads ns payload).length := by rwa [length_addPayload] at hi₁
      have hi₀ : i < payload.length := (length_addPayloads ns payload).symm ▸ hi
      have hzero : payload.getD i 0 = 0 := by
        rw [getD_eq_getElem?_getD, getElem?_getD_replicate_default_eq]
      have hbyte := getD_addPayload hi repairPacket.payload
      rw [getD_addPayloads hi₀ hothers, hprotects.parity.payload, parity_map, hzero, zero_xor] at hbyte
      have hrecovered := hbyte.trans
        (parity_erase_xor (f := fun n => (FecSourcePacket.ofPacket (orig n)).payload.getD i 0) hlost)
      rwa [getD_eq_getElem _ _ hi₁, getD_eq_getElem _ _ hi'] at hrecovered
  have hfilter : repairPacket.createSequenceNumberList.filter (fun n => n ≠ lost) = ns :=
    ((hprotects.nodup.erase_eq_filter lost).trans
      (filter_congr fun n _ => by rw [Bool.eq_iff_iff]; simp)).symm
  rw [recovery, hbitstring, hfilter, hpayload, hprotects.ssrc_eq]
  exact congrArg (FecSourcePacket.mk · _) (horig lost).write_eq

/-! ### Recovery of packets -/

section

variable (h : Exact cluster ssrc orig) (horig : ∀ n, IsOriginal ssrc n (orig n))
include h horig

lemma Exact.repairOne {repairPacket : FecRepairPacket} (hprotects : ProtectsOriginals ssrc orig repairPacket) :
    Exact (cluster.repairOne repairPacket).1 ssrc orig := by
  rcases hloss : cluster.lookForLoss repairPacket.createSequenceNumberList 0 0 .zero with ⟨loss, lost, bs⟩
  rw [ReceiveCluster.repairOne, hloss]
  dsimp only
  split_ifs with hone
  · exact h
  · obtain rfl := not_not.mp hone
    obtain ⟨hmem, hlost, hstored, hbs⟩ := lookForLoss_zero hloss
    have hothers (n : UInt16) (hn : n ∈ repairPacket.createSequenceNumberList.erase lost) :
        cluster.getSourcePacket n = some (.ofPacket (orig n)) := by
      obtain ⟨packet, hpacket⟩ := ne_none_iff_exists'.mp (hstored n hn)
      rw [hpacket, h.source n packet hpacket]
    have hbitstring (n : UInt16) (hn : n ∈ repairPacket.createSequenceNumberList.erase lost) :
        cluster.bitstringOf n = .ofPacket (orig n) := by
      rw [bitstringOf, hothers n hn]
      rfl
    rw [show Bitstring.zero = 0 from rfl, zero_xor, parity_congr hbitstring] at hbs
    rw [recovery_eq horig hprotects hmem hothers hbs]
    refine ⟨fun n packet hpacket => ?_, h.repair⟩
    by_cases hn : n = lost
    · subst hn
      dsimp only at hpacket
      rw [AList.lookup_emplace, show cluster.mSource.lookup n = none from hlost] at hpacket
      exact (some_inj.mp hpacket).symm
    · dsimp only at hpacket
      rw [AList.lookup_emplace_ne hn] at hpacket
      exact h.source n packet hpacket

lemma Exact.repair1D
    {repairPackets : List FecRepairPacket} (hprotects : ∀ packet ∈ repairPackets, ProtectsOriginals ssrc orig packet) :
    Exact (cluster.repair1D repairPackets).1 ssrc orig := by
  induction repairPackets generalizing cluster with
  | nil => exact h
  | cons packet packets ih =>
    exact ih (h.repairOne horig (hprotects packet mem_cons_self)) fun packet' hpacket' =>
      hprotects packet' (mem_cons_of_mem _ hpacket')

lemma Exact.repair2D {rowRepair colRepair : List FecRepairPacket}
    (hrow : ∀ packet ∈ rowRepair, ProtectsOriginals ssrc orig packet)
    (hcol : ∀ packet ∈ colRepair, ProtectsOriginals ssrc orig packet) (n : ℕ) :
    Exact (repair2D rowRepair colRepair n cluster) ssrc orig := by
  induction n generalizing cluster with
  | zero => exact h
  | succ n ih =>
    have hround := (h.repair1D horig hrow).repair1D horig hcol
    rw [repair2D]
    dsimp only
    split_ifs
    · exact ih hround
    · exact hround

lemma Exact.of_repair {seqNum : UInt16}
    (hrepair : cluster.repair seqNum = .ok cluster') : Exact cluster' ssrc orig := by
  rw [ReceiveCluster.repair] at hrepair
  split_ifs at hrepair
  · obtain rfl := ok.inj hrepair
    exact h
  · have hdecoding (found : RepairKind → List UInt16) (kind : RepairKind) (packet : FecRepairPacket)
        (hpacket : packet ∈ cluster.repairForDecoding found kind) : ProtectsOriginals ssrc orig packet := by
      obtain ⟨n, -, hn⟩ := mem_filterMap.mp hpacket
      exact h.repair kind n packet hn
    cases hfound : cluster.mFecGraph.getRepairPacketsToRecoverSource seqNum with
    | error e =>
      rw [hfound] at hrepair
      exact absurd hrepair (by simp [Bind.bind, Except.bind])
    | ok found =>
      rw [hfound] at hrepair
      obtain rfl := ok.inj hrepair
      exact h.repair2D horig (hdecoding found .row) (hdecoding found .col) _

end

variable {packet : FecRepairPacket} {packets used rowRepair colRepair : List FecRepairPacket}

/-- A recovery leaves one packet fewer missing, at least. -/
lemma length_missing_repairOne (cluster : ReceiveCluster) (hpacket : packet ∈ packets) :
    ((cluster.repairOne packet).1.missing packets).length + (cluster.repairOne packet).2 ≤
      (cluster.missing packets).length := by
  rcases hloss : cluster.lookForLoss packet.createSequenceNumberList 0 0 .zero with ⟨loss, lost, bs⟩
  rw [repairOne, hloss]
  dsimp only
  split_ifs with hone
  · exact le_rfl
  · obtain rfl := not_not.mp hone
    obtain ⟨hmem, hlost, -, -⟩ := lookForLoss_zero hloss
    have hmissing : lost ∈ cluster.missing packets :=
      List.mem_filter.mpr ⟨List.mem_flatMap.mpr ⟨packet, hpacket, hmem⟩, Option.isNone_iff_eq_none.mpr hlost⟩
    have hafter (cluster' : ReceiveCluster) (recovered : FecSourcePacket)
        (hcluster' : cluster'.mSource = cluster.mSource.emplace lost recovered) :
        cluster'.missing packets = (cluster.missing packets).filter (fun n => n ≠ lost) := by
      rw [missing, missing, List.filter_filter]
      refine List.filter_congr fun n _ => ?_
      rw [getSourcePacket, getSourcePacket, hcluster']
      by_cases hn : n = lost
      · subst hn
        simp [AList.lookup_emplace]
      · simp [AList.lookup_emplace_ne hn, hn]
    refine Nat.succ_le_of_lt ?_
    rw [hafter _ _ rfl]
    exact List.length_filter_lt_length_iff_exists.mpr ⟨lost, hmissing, by simp⟩

lemma length_missing_repair1D (cluster : ReceiveCluster) (hused : used ⊆ packets) :
    ((cluster.repair1D used).1.missing packets).length + (cluster.repair1D used).2 ≤
      (cluster.missing packets).length := by
  induction used generalizing cluster with
  | nil => exact le_rfl
  | cons packet used ih =>
    have hone := length_missing_repairOne cluster (hused mem_cons_self)
    have hrest := ih (cluster.repairOne packet).1 fun packet' hpacket' =>
      hused (mem_cons_of_mem _ hpacket')
    rw [repair1D]
    dsimp only
    omega

/-! ### Operations -/

/-- What a cluster stores was stored before. -/
def Forgets (cluster cluster' : ReceiveCluster) : Prop :=
  (∀ n packet, cluster'.mSource.lookup n = some packet → cluster.mSource.lookup n = some packet) ∧
    ∀ kind n packet, (cluster'.mRepairAll kind).lookup n = some packet →
      (cluster.mRepairAll kind).lookup n = some packet

lemma Exact.forget (h : Exact cluster ssrc orig) (hforgets : Forgets cluster cluster') : Exact cluster' ssrc orig :=
  ⟨fun n packet hpacket => h.source n packet (hforgets.1 n packet hpacket),
    fun kind n packet hpacket => h.repair kind n packet (hforgets.2 kind n packet hpacket)⟩

lemma Forgets.refl (cluster : ReceiveCluster) : Forgets cluster cluster :=
  ⟨fun _ _ h => h, fun _ _ _ h => h⟩

lemma Forgets.trans {cluster'' : ReceiveCluster} (h : Forgets cluster cluster') (h' : Forgets cluster' cluster'') :
    Forgets cluster cluster'' :=
  ⟨fun n packet hpacket => h.1 n packet (h'.1 n packet hpacket),
    fun kind n packet hpacket => h.2 kind n packet (h'.2 kind n packet hpacket)⟩

lemma forgets_cleanSource (cluster : ReceiveCluster) : Forgets cluster cluster.cleanSource := by
  refine ⟨fun n packet hpacket => lookup_of_lookup_cleanSource hpacket, ?_⟩
  rw [cleanSource]
  split_ifs <;> exact fun _ _ _ hpacket => hpacket

lemma forgets_eraseRepair {n : UInt16} {kind : RepairKind} (h : cluster.eraseRepair n kind = .ok cluster') :
    Forgets cluster cluster' := by
  rw [eraseRepair] at h
  split_ifs at h
  · cases hgraph : cluster.mFecGraph.cleanRepair kind n with
    | error e =>
      rw [hgraph] at h
      exact absurd h (by simp [Bind.bind, Except.bind])
    | ok graph =>
      rw [hgraph] at h
      obtain rfl := ok.inj h
      refine ⟨fun _ _ hpacket => hpacket, fun kind' n' packet hpacket => ?_⟩
      dsimp only at hpacket
      by_cases hkind : kind' = kind
      · subst hkind
        rw [Function.update_self] at hpacket
        by_cases hn : n' = n
        · subst hn
          rw [AList.lookup_erase] at hpacket
          exact absurd hpacket.symm (some_ne_none _)
        · rwa [AList.lookup_erase_ne hn] at hpacket
      · rwa [Function.update_of_ne hkind] at hpacket
  · obtain rfl := ok.inj h
    exact .refl _

lemma forgets_foldlM {ι : Type} {f : ReceiveCluster → ι → Except OutOfRange ReceiveCluster}
    (hf : ∀ cluster i cluster', f cluster i = .ok cluster' → Forgets cluster cluster') {is : List ι}
    (h : is.foldlM f cluster = .ok cluster') : Forgets cluster cluster' := by
  induction is generalizing cluster with
  | nil =>
    obtain rfl := ok.inj h
    exact .refl _
  | cons i is ih =>
    rw [foldlM_cons] at h
    cases hi : f cluster i with
    | error e =>
      rw [hi] at h
      exact absurd h (by simp [Bind.bind, Except.bind])
    | ok cluster₁ =>
      rw [hi] at h
      exact (hf _ _ _ hi).trans (ih h)

lemma forgets_cleanRepair (h : cluster.cleanRepair = .ok cluster') : Forgets cluster cluster' := by
  rw [cleanRepair] at h
  split_ifs at h
  · obtain rfl := ok.inj h
    exact .refl _
  · cases herase : cluster.eraseRepairs
      ((outOfWindow cluster.mRepairWindow cluster.mRepairTimeStamp).1.map (·.2)) with
    | error e =>
      dsimp only at h
      rw [herase] at h
      exact absurd h (by simp [Bind.bind, Except.bind])
    | ok cluster₁ =>
      dsimp only at h
      rw [herase] at h
      obtain rfl := ok.inj h
      have herased : Forgets cluster cluster₁ :=
        forgets_foldlM (fun _ _ _ => forgets_foldlM fun _ _ _ => forgets_eraseRepair) herase
      exact ⟨herased.1, herased.2⟩

lemma Exact.addSource (h : Exact cluster ssrc orig) (mp : Packet) (hmp : mp = orig (rtpGetSeqnumber mp)) :
    Exact (cluster.addSource mp) ssrc orig := by
  have hclean : Exact (cluster.indexSource (.ofPacket mp)).cleanSource ssrc orig :=
    Exact.forget ⟨h.source, h.repair⟩ (forgets_cleanSource _)
  constructor
  · intro n packet hpacket
    rcases lookup_addSource hpacket with hpacket | ⟨rfl, rfl, -⟩
    · exact hclean.source n packet hpacket
    · exact congrArg FecSourcePacket.ofPacket hmp
  · rw [ReceiveCluster.addSource]
    split_ifs <;> exact hclean.repair

lemma Exact.of_addRepair (h : Exact cluster ssrc orig) {packet : FecRepairPacket}
    (hpacket : ProtectsOriginals ssrc orig packet) (hadd : cluster.addRepair packet = .ok cluster') :
    Exact cluster' ssrc orig := by
  rw [addRepair] at hadd
  cases hclean : (cluster.indexRepair packet).cleanRepair with
  | error e =>
    rw [hclean] at hadd
    exact absurd hadd (by simp [Bind.bind, Except.bind])
  | ok cluster₁ =>
    rw [hclean] at hadd
    obtain rfl := ok.inj hadd
    have h₀ : Exact (cluster.indexRepair packet) ssrc orig := ⟨h.source, h.repair⟩
    have h₁ := h₀.forget (forgets_cleanRepair hclean)
    split_ifs
    · refine ⟨h₁.source, fun kind n stored hstored => ?_⟩
      rcases lookup_storeRepair hstored with hstored | ⟨rfl, rfl, rfl, -⟩
      · exact h₁.repair kind n stored hstored
      · exact hpacket
    · exact ⟨h₁.source, h₁.repair⟩

/-- A sequence number is of no packet that is stored or protected. -/
def Forgotten (cluster : ReceiveCluster) (n : UInt16) : Prop :=
  n ∉ cluster.mSource ∧ ∀ kind r packet, (cluster.mRepairAll kind).lookup r = some packet →
    n ∉ packet.createSequenceNumberList

end ReceiveCluster

/-! ### Deliveries of a stream -/

namespace SourceStream

variable {stream : SourceStream} {lo k : ℕ} {n : UInt16}

/-- The position of a sequence number among 65536 positions. -/
def position (stream : SourceStream) (lo : ℕ) (n : UInt16) : ℕ := lo + (n - stream.seqnum lo).toNat

/-- The packet of a sequence number among 65536 positions. -/
def original (stream : SourceStream) (lo : ℕ) (n : UInt16) : Packet := stream.packet (stream.position lo n)

lemma seqnum_position (lo : ℕ) (n : UInt16) : stream.seqnum (stream.position lo n) = n := by
  rw [position, seqnum_add, UInt16.ofNat_toNat]
  exact (UInt16.add_comm ..).trans (UInt16.sub_add_cancel ..)

lemma position_lt (lo : ℕ) (n : UInt16) : stream.position lo n < lo + 65536 :=
  Nat.add_lt_add_left (toNat_lt _) lo

lemma toNat_seqnum_sub {first d : ℕ} (hd : d < 65536) :
    (stream.seqnum (first + d) - stream.seqnum first).toNat = d := by
  have hsub : stream.seqnum first + ofNat d - stream.seqnum first = .ofNat d := by
    rw [UInt16.add_comm]
    exact UInt16.add_sub_cancel ..
  rw [seqnum_add, hsub]
  exact toNat_ofNat_of_lt' hd

lemma position_seqnum (hlo : lo ≤ k) (hk : k < lo + 65536) : stream.position lo (stream.seqnum k) = k := by
  obtain ⟨d, rfl⟩ := Nat.exists_eq_add_of_le hlo
  rw [position, toNat_seqnum_sub (Nat.lt_of_add_lt_add_left hk)]

lemma isOriginal (hlength : ∀ k, (stream.packet k).length < RTP_FIXED_HEADER_SIZE + 65536) (lo : ℕ) (n : UInt16) :
    IsOriginal stream.ssrc n (stream.original lo n) :=
  ⟨stream.header _, hlength _, stream.version _, (stream.seqnum_eq _).trans (seqnum_position lo n), stream.ssrc_eq _⟩

/-- What a cluster is given of 65536 consecutive packets of a stream. -/
inductive Delivery (stream : SourceStream) (encoder : FecEncoder) (seqNumber : UInt16) (lo : ℕ) :
    Operation → Prop where
  | source {k : ℕ} (hlo : lo ≤ k) (hk : k < lo + 65536) :
    Delivery stream encoder seqNumber lo (.addSource (stream.packet k))
  /-- The first packet that it protects is not before the others. -/
  | repair {k : ℕ} {packet : FecRepairPacket} (hsent : packet ∈ stream.sentWith encoder seqNumber k)
    (hk : k < lo + 65536) (hlo : lo + (stream.seqnum k - packet.mSeqnumBase).toNat ≤ k) :
    Delivery stream encoder seqNumber lo (.addRepair packet)
  | cleanSource : Delivery stream encoder seqNumber lo .cleanSource
  | cleanRepair : Delivery stream encoder seqNumber lo .cleanRepair
  | reset : Delivery stream encoder seqNumber lo .reset

/-- What a cluster becomes: it is given the packets of a stream, any of them in any order, and it is asked to
repair. The packets that it stores and that it is given are among 65536 consecutive ones, which go on when the first
of them are forgotten. -/
inductive Reaches (stream : SourceStream) (encoder : FecEncoder) (seqNumber : UInt16) (repairWindow : UInt32) :
    ℕ → ReceiveCluster → Prop where
  | new (lo : ℕ) : Reaches stream encoder seqNumber repairWindow lo (.new repairWindow)
  | deliver {lo : ℕ} {cluster cluster' : ReceiveCluster} {operation : Operation}
    (h : Reaches stream encoder seqNumber repairWindow lo cluster)
    (hdelivery : Delivery stream encoder seqNumber lo operation)
    (hstep : cluster.step operation = .ok cluster') : Reaches stream encoder seqNumber repairWindow lo cluster'
  | repair {lo : ℕ} {cluster cluster' : ReceiveCluster} {n : UInt16}
    (h : Reaches stream encoder seqNumber repairWindow lo cluster) (hrepair : cluster.repair n = .ok cluster') :
    Reaches stream encoder seqNumber repairWindow lo cluster'
  | advance {lo lo' : ℕ} {cluster : ReceiveCluster} (h : Reaches stream encoder seqNumber repairWindow lo cluster)
    (hlo : lo ≤ lo') (hforgotten : ∀ k, lo ≤ k → k < lo' → cluster.Forgotten (stream.seqnum k)) :
    Reaches stream encoder seqNumber repairWindow lo' cluster

lemma protectsOriginals {packet : FecRepairPacket} (h : FecSender.IsRepair stream k packet) (hk : k < lo + 65536)
    (hlo : lo + (stream.seqnum k - packet.mSeqnumBase).toNat ≤ k) :
    ProtectsOriginals stream.ssrc (stream.original lo) packet := by
  obtain ⟨first, positions, hbase, hfirst, hlast, hpositions, hprotects⟩ := h
  obtain ⟨d, rfl⟩ := Nat.exists_eq_add_of_le hfirst
  rw [hbase, toNat_seqnum_sub (Nat.lt_of_add_lt_add_left hlast)] at hlo
  have hpos (q : ℕ) (hq : q ∈ positions) : stream.position lo (stream.seqnum q) = q := by
    obtain ⟨hle, hge⟩ := hpositions q hq
    exact position_seqnum (by omega) (by omega)
  refine ⟨?_, hprotects.ssrc, ?_⟩
  · rw [hprotects.list_eq]
    refine hprotects.nodup.map_on fun q hq q' hq' heq => ?_
    rw [← hpos q hq, heq, hpos q' hq']
  · have hmap : (positions.map stream.seqnum).map (fun n => FecSourcePacket.ofPacket (stream.original lo n)) =
        positions.map stream.source := by
      rw [List.map_map]
      refine List.map_congr_left fun q hq => ?_
      rw [Function.comp_apply, original, hpos q hq, source]
    rw [hprotects.list_eq, hmap]
    exact hprotects.parity

/-- When the first packets are forgotten the others have the same originals. -/
lemma original_eq {lo' : ℕ} {cluster : ReceiveCluster} (hlo : lo ≤ lo')
    (hforgotten : ∀ k, lo ≤ k → k < lo' → cluster.Forgotten (stream.seqnum k)) (hn : ¬ cluster.Forgotten n) :
    stream.original lo n = stream.original lo' n := by
  have hge : lo' ≤ stream.position lo n := by
    refine Nat.le_of_not_lt fun hlt => hn ?_
    have hpassed := hforgotten (stream.position lo n) (Nat.le_add_right ..) hlt
    rwa [seqnum_position] at hpassed
  have hlt := stream.position_lt lo n
  have hposition : stream.position lo' (stream.seqnum (stream.position lo n)) = stream.position lo n :=
    position_seqnum hge (by omega)
  rw [seqnum_position] at hposition
  rw [original, original, hposition]

lemma Reaches.exact {encoder : FecEncoder} {seqNumber : UInt16} {repairWindow : UInt32} {cluster : ReceiveCluster}
    (hlength : ∀ k, (stream.packet k).length < RTP_FIXED_HEADER_SIZE + 65536)
    (hsent : ∀ k packet, packet ∈ stream.sentWith encoder seqNumber k → FecSender.IsRepair stream k packet)
    (h : Reaches stream encoder seqNumber repairWindow lo cluster) :
    cluster.Exact stream.ssrc (stream.original lo) := by
  induction h with
  | new lo => exact ⟨fun n packet hpacket => by simp [ReceiveCluster.new] at hpacket,
      fun kind n packet hpacket => by simp [ReceiveCluster.new] at hpacket⟩
  | deliver h hdelivery hstep ih =>
    cases hdelivery with
    | source hlo hk =>
      obtain rfl := ok.inj hstep
      refine ih.addSource _ ?_
      rw [original, stream.seqnum_eq]
      exact congrArg stream.packet (position_seqnum hlo hk).symm
    | repair hmem hk hlo => exact ih.of_addRepair (protectsOriginals (hsent _ _ hmem) hk hlo) hstep
    | cleanSource =>
      obtain rfl := ok.inj hstep
      exact ih.forget (ReceiveCluster.forgets_cleanSource _)
    | cleanRepair => exact ih.forget (ReceiveCluster.forgets_cleanRepair hstep)
    | reset =>
      obtain rfl := ok.inj hstep
      exact ⟨fun n packet hpacket => by simp [ReceiveCluster.reset, ReceiveCluster.new] at hpacket,
        fun kind n packet hpacket => by simp [ReceiveCluster.reset, ReceiveCluster.new] at hpacket⟩
  | repair h hrepair ih => exact ih.of_repair (isOriginal hlength _) hrepair
  | @advance lo lo' cluster h hlo hforgotten ih =>
    constructor
    · intro n packet hpacket
      have hstored : ¬ cluster.Forgotten n := fun hn =>
        hn.1 (AList.lookup_isSome.mp (isSome_of_eq_some hpacket))
      rw [← original_eq hlo hforgotten hstored]
      exact ih.source n packet hpacket
    · intro kind r packet hpacket
      obtain ⟨hnodup, hssrc, hparity⟩ := ih.repair kind r packet hpacket
      refine ⟨hnodup, hssrc, ?_⟩
      have hmap : packet.createSequenceNumberList.map (fun n => FecSourcePacket.ofPacket (stream.original lo' n)) =
          packet.createSequenceNumberList.map fun n => .ofPacket (stream.original lo n) := by
        refine map_congr_left fun n hn => ?_
        rw [original_eq hlo hforgotten fun hforgot => hforgot.2 kind r packet hpacket hn]
      rw [hmap]
      exact hparity

theorem recovered_eq (stream : SourceStream)
    (hlength : ∀ k, (stream.packet k).length < RTP_FIXED_HEADER_SIZE + 65536) {L D : UInt8} {is2D : Bool}
    (hL : 0 < L) (hcolumns : FecEncoder.ReadsColumns L D is2D) (seqNumber : UInt16) (repairWindow : UInt32)
    {cluster : ReceiveCluster}
    (h : Reaches stream (.new stream.ssrc L D is2D) seqNumber repairWindow lo cluster) {packet : FecSourcePacket}
    (hpacket : cluster.getSourcePacket n = some packet) :
    ∃ k, lo ≤ k ∧ k < lo + 65536 ∧ stream.seqnum k = n ∧ packet.mPacket = stream.packet k := by
  have hexact := h.exact hlength fun k packet hmem => stream.isRepair_of_mem_sentWith hL hcolumns hmem
  refine ⟨stream.position lo n, Nat.le_add_right .., stream.position_lt lo n, seqnum_position lo n, ?_⟩
  rw [hexact.source n packet hpacket]
  rfl

lemma version_cons {b : UInt8} {l : Bytes} (h : b >>> 6 = 2) : rtpGetVersion (b :: l) = 2 := h

def sample : SourceStream where
  ssrc := 7
  start := 0
  packet k := 0x80 :: 0 :: (be16 (.ofNat k) ++ be32 0 ++ be32 7 ++ [.ofNat (k + 1)])
  header _ := Nat.le_succ _
  version _ := version_cons (by decide)
  seqnum_eq k := (be16At_of_drop _ rfl).trans (UInt16.zero_add _).symm
  ssrc_eq _ := be32At_of_drop _ rfl

lemma length_sample (k : ℕ) : (sample.packet k).length = 13 := rfl

/-- The second packet of a row is recovered. -/
theorem recovered_eq_sample : ∃ cluster packet, Reaches sample (.new 7 2 0 false) 0 1000 0 cluster ∧
    cluster.getSourcePacket 1 = some packet ∧ ∃ k, 0 ≤ k ∧ k < 0 + 65536 ∧ sample.seqnum k = 1 ∧
      packet.mPacket = sample.packet k := by
  have h₀ : Reaches sample (.new 7 2 0 false) 0 1000 0 _ := .new 0
  have h₁ := h₀.deliver (.source (le_refl 0) (by decide)) rfl
  have hsent : ⟨0, 0, 7, ⟨0, 0, 0, 0⟩, 0, 2, 0, [3]⟩ ∈ sample.sentWith (.new 7 2 0 false) 0 1 := by decide +kernel
  have h₂ := h₁.deliver (.repair hsent (by decide) (by decide +kernel)) rfl
  have h₃ := h₂.repair (n := 1) rfl
  exact ⟨_, _, h₃, rfl, recovered_eq sample (fun k => by rw [length_sample]; decide) (by decide)
    (fun h => absurd h.1 (by decide)) 0 1000 h₃ rfl⟩

/-- A column of one packet is read as a row of two. -/
theorem not_recovered_eq : ∃ cluster packet, Reaches sample (.new 7 2 1 true) 0 1000 0 cluster ∧
    cluster.getSourcePacket 1 = some packet ∧ ∀ k, packet.mPacket ≠ sample.packet k := by
  have h₀ : Reaches sample (.new 7 2 1 true) 0 1000 0 _ := .new 0
  have h₁ := h₀.deliver (.source (le_refl 0) (by decide)) rfl
  have hsent : ⟨0, 0, 7, ⟨0x80, 0, 0, 1⟩, 0, 2, 1, [1]⟩ ∈ sample.sentWith (.new 7 2 1 true) 0 0 := by
    decide +kernel
  have h₂ := h₁.deliver (.repair hsent (by decide) (by decide +kernel)) rfl
  have h₃ := h₂.repair (n := 1) rfl
  refine ⟨_, ⟨[0x80, 0, 0, 1, 0, 0, 0, 0, 0, 0, 0, 7], .zero⟩, h₃, rfl, fun k heq => ?_⟩
  have hlength := congrArg length heq
  rw [length_sample] at hlength
  exact absurd hlength (by decide)

end SourceStream

end Ortp
