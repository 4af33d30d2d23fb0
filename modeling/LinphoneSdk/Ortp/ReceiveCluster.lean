import LinphoneSdk.Ortp.FecGraph

/-!
# Receive cluster

`ReceiveCluster` keeps the source and the repair packets received while they are in the repair window, and the
graph of the repair packets. The timestamps are compared without regard to their wrap-around.
-/

namespace Ortp

open List Option Function

open scoped TimeIndex

/-- The entries that leave the repair window of the last one, and those that stay. -/
def outOfWindow (mRepairWindow : UInt32) (index : List (UInt32 × UInt16)) :
    List (UInt32 × UInt16) × List (UInt32 × UInt16) :=
  match index.head?, index.getLast? with
  | some first, some last =>
    if mRepairWindow ≤ last.1 - first.1 then TimeIndex.expire (last.1 - mRepairWindow) index else ([], index)
  | _, _ => ([], index)

/-- An entry of an index is later than a time by the repair window at least. -/
def Expires (mRepairWindow : UInt32) (index : List (UInt32 × UInt16)) (timestamp : UInt32) : Prop :=
  ∃ e ∈ index, timestamp.toNat + mRepairWindow.toNat ≤ e.1.toNat

instance (mRepairWindow : UInt32) (index : List (UInt32 × UInt16)) (timestamp : UInt32) :
    Decidable (Expires mRepairWindow index timestamp) :=
  inferInstanceAs (Decidable (∃ e ∈ index, _))

variable {index : List (UInt32 × UInt16)} {window : UInt32}

section

variable (hindex : TimeIndex.Sorted index)
include hindex

lemma mem_outOfWindow (e : UInt32 × UInt16) :
    (e ∈ (outOfWindow window index).1 ↔ e ∈ index ∧ Expires window index e.1) ∧
      (e ∈ (outOfWindow window index).2 ↔ e ∈ index ∧ ¬ Expires window index e.1) := by
  cases index with
  | nil => simp [outOfWindow]
  | cons first index =>
    have hne : first :: index ≠ [] := cons_ne_nil first index
    let last := (first :: index).getLast hne
    have hfirst (e' : UInt32 × UInt16) (he' : e' ∈ first :: index) : first.1 ≤ e'.1 := by
      rcases mem_cons.mp he' with rfl | he'
      · exact le_rfl
      · exact (pairwise_cons.mp hindex).1 e' he'
    have hlast (e' : UInt32 × UInt16) (he' : e' ∈ first :: index) : e'.1 ≤ last.1 := hindex.le_getLast hne he'
    have hexpires (timestamp : UInt32) : Expires window (first :: index) timestamp ↔
        timestamp.toNat + window.toNat ≤ last.1.toNat := by
      constructor
      · rintro ⟨e', he', hle⟩
        exact le_trans hle (UInt32.le_iff_toNat_le.mp (hlast e' he'))
      · exact fun hle => ⟨last, getLast_mem hne, hle⟩
    have hspan : (last.1 - first.1).toNat = last.1.toNat - first.1.toNat :=
      UInt32.toNat_sub_of_le _ _ (hlast first mem_cons_self)
    rw [outOfWindow, head?_cons, getLast?_eq_some_getLast hne]
    dsimp only
    split_ifs with hwindow
    · have hle : window.toNat ≤ last.1.toNat - first.1.toNat := hspan ▸ UInt32.le_iff_toNat_le.mp hwindow
      have hlimit : (last.1 - window).toNat = last.1.toNat - window.toNat :=
        UInt32.toNat_sub_of_le _ _ (UInt32.le_iff_toNat_le.mpr (by omega))
      have hiff : e.1 ≤ last.1 - window ↔ Expires window (first :: index) e.1 := by
        rw [hexpires, UInt32.le_iff_toNat_le, hlimit]
        omega
      rw [← hiff, not_le]
      exact TimeIndex.mem_expire hindex
    · have hno (he : e ∈ first :: index) : ¬ Expires window (first :: index) e.1 := by
        rw [hexpires]
        have hlt : last.1.toNat - first.1.toNat < window.toNat := hspan ▸ Nat.lt_of_not_le
          fun hle => hwindow (UInt32.le_iff_toNat_le.mpr hle)
        have := UInt32.le_iff_toNat_le.mp (hfirst e he)
        omega
      exact ⟨iff_of_false not_mem_nil fun he => hno he.1 he.2, ⟨fun he => ⟨he, hno he⟩, And.left⟩⟩

lemma sorted_outOfWindow : TimeIndex.Sorted (outOfWindow window index).2 := by
  rw [outOfWindow]
  split
  · split_ifs
    · exact hindex.expire
    · exact hindex
  · exact hindex

/-- What stays is in a repair window. -/
lemma lt_of_mem_outOfWindow {e e' : UInt32 × UInt16}
    (he : e ∈ (outOfWindow window index).2) (he' : e' ∈ (outOfWindow window index).2) :
    e'.1.toNat < e.1.toNat + window.toNat := by
  obtain ⟨-, hstays⟩ := (mem_outOfWindow hindex e).2.mp he
  obtain ⟨hmem, -⟩ := (mem_outOfWindow hindex e').2.mp he'
  exact Nat.lt_of_not_le fun hle => hstays ⟨e', hmem, hle⟩

/-- An entry stays if one of the same time does. -/
lemma mem_outOfWindow_of_mem_map {timestamp : UInt32} {n : UInt16}
    (hn : (timestamp, n) ∈ index) (h : timestamp ∈ (outOfWindow window index).2.map (·.1)) :
    (timestamp, n) ∈ (outOfWindow window index).2 := by
  obtain ⟨e, he, rfl⟩ := mem_map.mp h
  exact (mem_outOfWindow hindex _).2.mpr ⟨hn, ((mem_outOfWindow hindex e).2.mp he).2⟩

end

def FecRepairPacket.kind (packet : FecRepairPacket) : RepairKind :=
  if 1 < packet.mD then .col else .row

structure ReceiveCluster where
  mRepairWindow : UInt32
  /-- The sequence numbers of the source packets, in the order of their timestamps. -/
  mSourceTimeStamp : List (UInt32 × UInt16)
  /-- The sequence numbers of the repair packets of both kinds, in the order of their timestamps. -/
  mRepairTimeStamp : List (UInt32 × UInt16)
  mSource : AList fun _ : UInt16 => FecSourcePacket
  /-- `mRowRepairAll` and `mColRepairAll`. -/
  mRepairAll : RepairKind → AList fun _ : UInt16 => FecRepairPacket
  /-- `mRowRepairCpt` and `mColRepairCpt`. -/
  mRepairCpt : RepairKind → UInt64
  mFecGraph : FecPacketsConnection

namespace ReceiveCluster

def new (repairWindow : UInt32) : ReceiveCluster :=
  ⟨repairWindow, [], [], ∅, fun _ => ∅, fun _ => 0, .empty⟩

/-- It is called when the index has an entry. -/
def cleanSource (cluster : ReceiveCluster) : ReceiveCluster :=
  if cluster.mSource.entries = [] then cluster
  else
    let (old, index) := outOfWindow cluster.mRepairWindow cluster.mSourceTimeStamp
    { cluster with mSource := cluster.mSource.eraseAll (old.map (·.2)), mSourceTimeStamp := index }

/-- A repair packet of a kind is erased, if it is there, and its node. -/
def eraseRepair (seqNum : UInt16) (cluster : ReceiveCluster) (kind : RepairKind) :
    Except OutOfRange ReceiveCluster :=
  if seqNum ∈ cluster.mRepairAll kind then do
    let graph ← cluster.mFecGraph.cleanRepair kind seqNum
    .ok { cluster with
      mRepairAll := update cluster.mRepairAll kind ((cluster.mRepairAll kind).erase seqNum)
      mFecGraph := graph }
  else .ok cluster

def eraseRepairs (seqNums : List UInt16) (cluster : ReceiveCluster) : Except OutOfRange ReceiveCluster :=
  seqNums.foldlM (fun cluster seqNum => [.row, .col].foldlM (eraseRepair seqNum) cluster) cluster

/-- Nothing is erased while no column repair packet is stored. -/
def cleanRepair (cluster : ReceiveCluster) : Except OutOfRange ReceiveCluster :=
  if (cluster.mRepairAll .col).entries = [] then .ok cluster
  else
    let (old, index) := outOfWindow cluster.mRepairWindow cluster.mRepairTimeStamp
    cluster.eraseRepairs (old.map (·.2)) >>= fun cluster => .ok { cluster with mRepairTimeStamp := index }

def indexSource (cluster : ReceiveCluster) (packet : FecSourcePacket) : ReceiveCluster :=
  { cluster with
    mSourceTimeStamp :=
      TimeIndex.emplace packet.mBitstring.timestamp packet.seqnum cluster.mSourceTimeStamp }

def addSource (cluster : ReceiveCluster) (mp : Packet) : ReceiveCluster :=
  let packet := FecSourcePacket.ofPacket mp
  let cluster := (cluster.indexSource packet).cleanSource
  if packet.mBitstring.timestamp ∈ cluster.mSourceTimeStamp.map (·.1) then
    { cluster with mSource := cluster.mSource.emplace packet.seqnum packet }
  else cluster

def indexRepair (cluster : ReceiveCluster) (packet : FecRepairPacket) : ReceiveCluster :=
  { cluster with
    mRepairTimeStamp := TimeIndex.emplace packet.timestamp packet.seqnum cluster.mRepairTimeStamp }

/-- A repair packet in the window is connected and stored. -/
def storeRepair (cluster : ReceiveCluster) (packet : FecRepairPacket) : ReceiveCluster :=
  let kind := packet.kind
  { cluster with
    mFecGraph := cluster.mFecGraph.addRepair kind packet.seqnum packet.createSequenceNumberList
    mRepairAll := update cluster.mRepairAll kind
      ((cluster.mRepairAll kind).emplace packet.seqnum packet) }

def addRepair (cluster : ReceiveCluster) (packet : FecRepairPacket) : Except OutOfRange ReceiveCluster := do
  let cluster ← (cluster.indexRepair packet).cleanRepair
  let cluster := { cluster with
    mRepairCpt := update cluster.mRepairCpt packet.kind (cluster.mRepairCpt packet.kind + 1) }
  .ok (if packet.timestamp ∈ cluster.mRepairTimeStamp.map (·.1) then cluster.storeRepair packet else cluster)

def getSourcePacket (cluster : ReceiveCluster) (seqnum : UInt16) : Option FecSourcePacket :=
  cluster.mSource.lookup seqnum

/-- The counters stay. -/
def reset (cluster : ReceiveCluster) : ReceiveCluster :=
  { new cluster.mRepairWindow with mRepairCpt := cluster.mRepairCpt }

/-! ### What the cluster keeps -/

def SourceInWindow (cluster : ReceiveCluster) : Prop :=
  ∀ n packet n' packet', cluster.mSource.lookup n = some packet → cluster.mSource.lookup n' = some packet' →
    packet'.mBitstring.timestamp.toNat ≤ packet.mBitstring.timestamp.toNat + cluster.mRepairWindow.toNat

def RepairInWindow (cluster : ReceiveCluster) : Prop :=
  ∀ kind n packet kind' n' packet', (cluster.mRepairAll kind).lookup n = some packet →
    (cluster.mRepairAll kind').lookup n' = some packet' →
    packet'.timestamp.toNat ≤ packet.timestamp.toNat + cluster.mRepairWindow.toNat

/-- The nodes of the graph are those of the repair packets stored. -/
structure Linked (cluster : ReceiveCluster) : Prop where
  consistent : cluster.mFecGraph.Consistent
  node_eq : ∀ kind n, (cluster.mFecGraph.mRepairNodes kind).lookup n =
    ((cluster.mRepairAll kind).lookup n).map fun packet => packet.createSequenceNumberList.dedup

/-- The packets stored are those of the indexes that stay. -/
structure Indexed (cluster : ReceiveCluster) : Prop where
  source_sorted : TimeIndex.Sorted cluster.mSourceTimeStamp
  repair_sorted : TimeIndex.Sorted cluster.mRepairTimeStamp
  source_mem : ∀ n packet, cluster.mSource.lookup n = some packet →
    (packet.mBitstring.timestamp, n) ∈ cluster.mSourceTimeStamp
  repair_mem : ∀ kind n packet, (cluster.mRepairAll kind).lookup n = some packet →
    (packet.timestamp, n) ∈ cluster.mRepairTimeStamp

/-- The invariant of the cluster. -/
structure WellFormed (cluster : ReceiveCluster) : Prop where
  indexed : Indexed cluster
  linked : Linked cluster
  source_window : SourceInWindow cluster
  repair_window : RepairInWindow cluster

lemma wellFormed_new (repairWindow : UInt32) : WellFormed (new repairWindow) where
  indexed := ⟨Pairwise.nil, Pairwise.nil, by simp [new], by simp [new]⟩
  linked := ⟨.empty, fun _ _ => rfl⟩
  source_window := by simp [SourceInWindow, new]
  repair_window := by simp [RepairInWindow, new]

lemma wellFormed_reset (cluster : ReceiveCluster) : WellFormed cluster.reset :=
  have h := wellFormed_new cluster.mRepairWindow
  ⟨⟨h.indexed.source_sorted, h.indexed.repair_sorted, h.indexed.source_mem, h.indexed.repair_mem⟩,
    ⟨h.linked.consistent, h.linked.node_eq⟩, h.source_window, h.repair_window⟩

/-! ### Source packets -/

lemma Indexed.cleanSource {cluster : ReceiveCluster} (h : Indexed cluster) : Indexed cluster.cleanSource := by
  rw [ReceiveCluster.cleanSource]
  split_ifs
  · exact h
  · refine ⟨sorted_outOfWindow h.source_sorted, h.repair_sorted, fun n packet hlookup => ?_, h.repair_mem⟩
    dsimp only at hlookup ⊢
    rw [AList.lookup_eraseAll] at hlookup
    split_ifs at hlookup with hn
    have hmem := h.source_mem n packet hlookup
    refine (mem_outOfWindow h.source_sorted _).2.mpr ⟨hmem, fun hexpires => hn ?_⟩
    exact mem_map.mpr ⟨_, (mem_outOfWindow h.source_sorted _).1.mpr ⟨hmem, hexpires⟩, rfl⟩

variable {cluster : ReceiveCluster}

lemma mSourceTimeStamp_addSource (mp : Packet) : (cluster.addSource mp).mSourceTimeStamp =
    (cluster.indexSource (.ofPacket mp)).cleanSource.mSourceTimeStamp := by
  rw [addSource]
  split_ifs <;> rfl

variable {n : UInt16} {stored : FecSourcePacket}

lemma lookup_addSource {mp : Packet} (h : (cluster.addSource mp).mSource.lookup n = some stored) :
    (cluster.indexSource (.ofPacket mp)).cleanSource.mSource.lookup n = some stored ∨
      n = stored.seqnum ∧ stored = .ofPacket mp ∧
        stored.mBitstring.timestamp ∈ (cluster.addSource mp).mSourceTimeStamp.map (·.1) := by
  rw [mSourceTimeStamp_addSource]
  rw [addSource] at h
  split_ifs at h with hindex
  · by_cases hn : n = (FecSourcePacket.ofPacket mp).seqnum
    · rw [hn] at h ⊢
      rw [AList.lookup_emplace, some_inj] at h
      cases hlookup : (cluster.indexSource (.ofPacket mp)).cleanSource.mSource.lookup
        (FecSourcePacket.ofPacket mp).seqnum with
      | none =>
        rw [hlookup, getD_none] at h
        subst h
        exact .inr ⟨rfl, rfl, hindex⟩
      | some stored' =>
        rw [hlookup, getD_some] at h
        exact .inl (congrArg some h)
    · rw [AList.lookup_emplace_ne hn] at h
      exact .inl h
  · exact .inl h

lemma Indexed.indexSource (h : Indexed cluster) (packet : FecSourcePacket) : Indexed (cluster.indexSource packet) :=
  ⟨h.source_sorted.emplace, h.repair_sorted,
    fun n stored hlookup => TimeIndex.mem_emplace.mpr (.inr (h.source_mem n stored hlookup)), h.repair_mem⟩

lemma mSourceTimeStamp_cleanSource (h : cluster.mSource.entries ≠ []) : cluster.cleanSource.mSourceTimeStamp =
    (outOfWindow cluster.mRepairWindow cluster.mSourceTimeStamp).2 := by
  rw [ReceiveCluster.cleanSource, if_neg h]

lemma mem_mSourceTimeStamp_cleanSource (h : Indexed cluster) {timestamp : UInt32}
    (hn : (timestamp, n) ∈ cluster.mSourceTimeStamp)
    (hstays : timestamp ∈ cluster.cleanSource.mSourceTimeStamp.map (·.1)) :
    (timestamp, n) ∈ cluster.cleanSource.mSourceTimeStamp := by
  by_cases hempty : cluster.mSource.entries = []
  · rw [ReceiveCluster.cleanSource, if_pos hempty]
    exact hn
  · rw [mSourceTimeStamp_cleanSource hempty] at hstays ⊢
    exact mem_outOfWindow_of_mem_map h.source_sorted hn hstays

lemma Indexed.source_mem_addSource (h : Indexed cluster) {mp : Packet}
    (hstored : (cluster.addSource mp).mSource.lookup n = some stored) :
    (stored.mBitstring.timestamp, n) ∈ (cluster.addSource mp).mSourceTimeStamp := by
  have hindexed := h.indexSource (.ofPacket mp)
  rcases lookup_addSource hstored with hstored | ⟨rfl, rfl, hstays⟩
  · rw [mSourceTimeStamp_addSource]
    exact hindexed.cleanSource.source_mem n stored hstored
  · rw [mSourceTimeStamp_addSource] at hstays ⊢
    exact mem_mSourceTimeStamp_cleanSource hindexed (TimeIndex.mem_emplace.mpr (.inl rfl)) hstays

lemma lookup_of_lookup_cleanSource (h : cluster.cleanSource.mSource.lookup n = some stored) :
    cluster.mSource.lookup n = some stored := by
  rw [ReceiveCluster.cleanSource] at h
  split_ifs at h
  · exact h
  · dsimp only at h
    rw [AList.lookup_eraseAll] at h
    split_ifs at h
    exact h

lemma WellFormed.cleanSource (h : WellFormed cluster) : WellFormed cluster.cleanSource := by
  obtain ⟨hall, hgraph, hwindow⟩ : cluster.cleanSource.mRepairAll = cluster.mRepairAll ∧
      cluster.cleanSource.mFecGraph = cluster.mFecGraph ∧
      cluster.cleanSource.mRepairWindow = cluster.mRepairWindow := by
    rw [ReceiveCluster.cleanSource]
    split_ifs <;> exact ⟨rfl, rfl, rfl⟩
  refine ⟨h.indexed.cleanSource, ⟨?_, ?_⟩, ?_, ?_⟩
  · rw [hgraph]
    exact h.linked.consistent
  · rw [hgraph, hall]
    exact h.linked.node_eq
  · intro n stored n' stored' hstored hstored'
    rw [hwindow]
    exact h.source_window n stored n' stored' (lookup_of_lookup_cleanSource hstored)
      (lookup_of_lookup_cleanSource hstored')
  · rw [RepairInWindow, hall, hwindow]
    exact h.repair_window

lemma WellFormed.addSource (h : WellFormed cluster) (mp : Packet) : WellFormed (cluster.addSource mp) := by
  have hindexed := h.indexed.indexSource (.ofPacket mp)
  have hrest : (cluster.addSource mp).mRepairTimeStamp = cluster.mRepairTimeStamp ∧
      (cluster.addSource mp).mRepairAll = cluster.mRepairAll ∧
      (cluster.addSource mp).mFecGraph = cluster.mFecGraph ∧
      (cluster.addSource mp).mRepairWindow = cluster.mRepairWindow := by
    rw [ReceiveCluster.addSource, ReceiveCluster.cleanSource]
    split_ifs <;> exact ⟨rfl, rfl, rfl, rfl⟩
  obtain ⟨hrepair, hall, hgraph, hwindow⟩ := hrest
  refine ⟨⟨?_, ?_, fun n stored hstored => h.indexed.source_mem_addSource hstored, ?_⟩, ⟨?_, ?_⟩, ?_, ?_⟩
  · rw [mSourceTimeStamp_addSource]
    exact hindexed.cleanSource.source_sorted
  · rw [hrepair]
    exact h.indexed.repair_sorted
  · rw [hrepair, hall]
    exact h.indexed.repair_mem
  · rw [hgraph]
    exact h.linked.consistent
  · rw [hgraph, hall]
    exact h.linked.node_eq
  · -- if packets were stored the index is cleaned; otherwise only the new packet is stored
    intro n packet n' packet' hpacket hpacket'
    by_cases hempty : (cluster.indexSource (.ofPacket mp)).mSource.entries = []
    · have hnew (n : UInt16) (stored : FecSourcePacket)
          (hstored : (cluster.addSource mp).mSource.lookup n = some stored) : stored = .ofPacket mp := by
        rcases lookup_addSource hstored with hstored | ⟨-, rfl, -⟩
        · rw [ReceiveCluster.cleanSource, if_pos hempty] at hstored
          have hm : cluster.mSource = ∅ := AList.ext hempty
          simp [indexSource, hm] at hstored
        · rfl
      rw [hnew n packet hpacket, hnew n' packet' hpacket']
      exact Nat.le_add_right _ _
    · have hmem := h.indexed.source_mem_addSource hpacket
      have hmem' := h.indexed.source_mem_addSource hpacket'
      rw [mSourceTimeStamp_addSource, mSourceTimeStamp_cleanSource hempty] at hmem hmem'
      rw [hwindow]
      exact le_of_lt (lt_of_mem_outOfWindow hindexed.source_sorted hmem hmem')
  · rw [RepairInWindow, hall, hwindow]
    exact h.repair_window

/-! ### Repair packets -/

/-- What leaves the window in `cleanRepair`, and what stays. -/
def repairExpiry (cluster : ReceiveCluster) : List (UInt32 × UInt16) × List (UInt32 × UInt16) :=
  if (cluster.mRepairAll .col).entries = [] then ([], cluster.mRepairTimeStamp)
  else outOfWindow cluster.mRepairWindow cluster.mRepairTimeStamp

lemma Linked.exists_eraseRepair (h : Linked cluster) (n : UInt16) (kind : RepairKind) :
    ∃ all graph, cluster.eraseRepair n kind = .ok { cluster with mRepairAll := all, mFecGraph := graph } ∧
      Linked { cluster with mRepairAll := all, mFecGraph := graph } ∧
      ∀ kind' n', (all kind').lookup n' =
        if kind' = kind ∧ n' = n then none else (cluster.mRepairAll kind').lookup n' := by
  rw [eraseRepair]
  split_ifs with hn
  · obtain ⟨graph, hgraph, hconsistent, hnodes⟩ := h.consistent.exists_cleanRepair kind n
    have hall (kind' : RepairKind) (n' : UInt16) :
        (update cluster.mRepairAll kind ((cluster.mRepairAll kind).erase n) kind').lookup n' =
          if kind' = kind ∧ n' = n then none else (cluster.mRepairAll kind').lookup n' := by
      by_cases hkind : kind' = kind
      · subst hkind
        rw [update_self]
        by_cases hn' : n' = n
        · subst hn'
          rw [AList.lookup_erase, if_pos ⟨rfl, rfl⟩]
        · rw [AList.lookup_erase_ne hn', if_neg fun heq => hn' heq.2]
      · rw [update_of_ne hkind, if_neg fun heq => hkind heq.1]
    refine ⟨_, graph, by rw [hgraph]; rfl, ⟨hconsistent, fun kind' n' => ?_⟩, hall⟩
    dsimp only
    rw [hnodes, hall, h.node_eq]
    split_ifs <;> rfl
  · refine ⟨cluster.mRepairAll, cluster.mFecGraph, rfl, h, fun kind' n' => ?_⟩
    split_ifs with heq
    · obtain ⟨rfl, rfl⟩ := heq
      exact AList.lookup_eq_none.mpr hn
    · rfl

lemma Linked.exists_eraseRepairs (h : Linked cluster) (ns : List UInt16) :
    ∃ all graph, cluster.eraseRepairs ns = .ok { cluster with mRepairAll := all, mFecGraph := graph } ∧
      Linked { cluster with mRepairAll := all, mFecGraph := graph } ∧
      ∀ kind n, (all kind).lookup n = if n ∈ ns then none else (cluster.mRepairAll kind).lookup n := by
  induction ns generalizing cluster with
  | nil => exact ⟨cluster.mRepairAll, cluster.mFecGraph, rfl, h, fun kind n => rfl⟩
  | cons n ns ih =>
    obtain ⟨all₁, graph₁, hrow, hlinked₁, hall₁⟩ := h.exists_eraseRepair n .row
    obtain ⟨all₂, graph₂, hcol, hlinked₂, hall₂⟩ := hlinked₁.exists_eraseRepair n .col
    obtain ⟨all₃, graph₃, hrest, hlinked₃, hall₃⟩ := ih hlinked₂
    refine ⟨all₃, graph₃, ?_, hlinked₃, fun kind n' => ?_⟩
    · rw [eraseRepairs, foldlM_cons, foldlM_cons, hrow]
      dsimp only [Bind.bind, Except.bind]
      rw [foldlM_cons, hcol]
      exact hrest
    · rw [hall₃, hall₂, hall₁]
      by_cases hn : n' = n
      · subst hn
        cases kind <;> simp
      · simp [hn]

lemma Linked.exists_cleanRepair (h : Linked cluster) : ∃ all graph, cluster.cleanRepair = .ok { cluster with
      mRepairTimeStamp := cluster.repairExpiry.2, mRepairAll := all, mFecGraph := graph } ∧
    Linked { cluster with
      mRepairTimeStamp := cluster.repairExpiry.2, mRepairAll := all, mFecGraph := graph } ∧
    ∀ kind n, (all kind).lookup n =
      if n ∈ cluster.repairExpiry.1.map (·.2) then none else (cluster.mRepairAll kind).lookup n := by
  rw [cleanRepair, repairExpiry]
  split_ifs
  · exact ⟨cluster.mRepairAll, cluster.mFecGraph, rfl, h, fun kind n => rfl⟩
  · obtain ⟨all, graph, hok, hlinked, hall⟩ := h.exists_eraseRepairs
      ((outOfWindow cluster.mRepairWindow cluster.mRepairTimeStamp).1.map (·.2))
    exact ⟨all, graph, by dsimp only; rw [hok]; rfl, ⟨hlinked.consistent, hlinked.node_eq⟩, hall⟩

lemma mem_repairExpiry (h : Indexed cluster) (e : UInt32 × UInt16) :
    (e ∈ cluster.repairExpiry.1 ↔ e ∈ cluster.mRepairTimeStamp ∧ (cluster.mRepairAll .col).entries ≠ [] ∧
      Expires cluster.mRepairWindow cluster.mRepairTimeStamp e.1) ∧
    (e ∈ cluster.repairExpiry.2 ↔ e ∈ cluster.mRepairTimeStamp ∧ ¬ ((cluster.mRepairAll .col).entries ≠ [] ∧
      Expires cluster.mRepairWindow cluster.mRepairTimeStamp e.1)) := by
  rw [repairExpiry]
  split_ifs with hcol
  · simp [hcol]
  · simpa [hcol] using mem_outOfWindow h.repair_sorted e

/-- The packet stored under a number leaves the window when a repair packet is added. -/
def Leaves (cluster : ReceiveCluster) (packet : FecRepairPacket) (n : UInt16) : Prop :=
  (cluster.mRepairAll .col).entries ≠ [] ∧ ∃ e ∈ (cluster.indexRepair packet).mRepairTimeStamp, e.2 = n ∧
    Expires cluster.mRepairWindow (cluster.indexRepair packet).mRepairTimeStamp e.1

/-- A repair packet is added without harm: while the window is not kept it has to be in the window itself, and a
number is used again for source packets that the packet stored under it protects. -/
structure Admits (cluster : ReceiveCluster) (packet : FecRepairPacket) : Prop where
  window : (cluster.mRepairAll .col).entries = [] → packet.seqnum ∉ cluster.mRepairAll packet.kind →
    ∀ kind n stored, (cluster.mRepairAll kind).lookup n = some stored →
      packet.timestamp.toNat ≤ stored.timestamp.toNat + cluster.mRepairWindow.toNat ∧
        stored.timestamp.toNat ≤ packet.timestamp.toNat + cluster.mRepairWindow.toNat
  number : ∀ stored, (cluster.mRepairAll packet.kind).lookup packet.seqnum = some stored →
    ¬ cluster.Leaves packet packet.seqnum →
    packet.createSequenceNumberList ⊆ stored.createSequenceNumberList

lemma Indexed.indexRepair (h : Indexed cluster) (packet : FecRepairPacket) : Indexed (cluster.indexRepair packet) :=
  ⟨h.source_sorted, h.repair_sorted.emplace, h.source_mem,
    fun kind n stored hlookup => TimeIndex.mem_emplace.mpr (.inr (h.repair_mem kind n stored hlookup))⟩

lemma Indexed.expire (h : Indexed cluster) {all : RepairKind → AList fun _ : UInt16 => FecRepairPacket}
    (hall : ∀ kind n, (all kind).lookup n =
      if n ∈ cluster.repairExpiry.1.map (·.2) then none else (cluster.mRepairAll kind).lookup n) :
    ∀ kind n stored, (all kind).lookup n = some stored → (stored.timestamp, n) ∈ cluster.repairExpiry.2 := by
  intro kind n stored hlookup
  rw [hall] at hlookup
  split_ifs at hlookup with hn
  have hmem := h.repair_mem kind n stored hlookup
  refine (mem_repairExpiry h _).2.mpr ⟨hmem, fun hexpires => hn ?_⟩
  exact mem_map.mpr ⟨_, (mem_repairExpiry h _).1.mpr ⟨hmem, hexpires⟩, rfl⟩

lemma mem_repairExpiry_of_mem_map (h : Indexed cluster) {timestamp : UInt32}
    (hn : (timestamp, n) ∈ cluster.mRepairTimeStamp) (hstays : timestamp ∈ cluster.repairExpiry.2.map (·.1)) :
    (timestamp, n) ∈ cluster.repairExpiry.2 := by
  obtain ⟨e, he, rfl⟩ := mem_map.mp hstays
  exact (mem_repairExpiry h _).2.mpr ⟨hn, ((mem_repairExpiry h e).2.mp he).2⟩

lemma sorted_repairExpiry (h : Indexed cluster) : TimeIndex.Sorted cluster.repairExpiry.2 := by
  rw [repairExpiry]
  split_ifs
  · exact h.repair_sorted
  · exact sorted_outOfWindow h.repair_sorted

lemma lookup_storeRepair {packet stored : FecRepairPacket} {kind : RepairKind}
    (h : ((cluster.storeRepair packet).mRepairAll kind).lookup n = some stored) :
    (cluster.mRepairAll kind).lookup n = some stored ∨ kind = packet.kind ∧ n = packet.seqnum ∧ stored = packet ∧
        packet.seqnum ∉ cluster.mRepairAll packet.kind := by
  rw [storeRepair] at h
  dsimp only at h
  by_cases hkind : kind = packet.kind
  · subst hkind
    rw [update_self] at h
    by_cases hn : n = packet.seqnum
    · subst hn
      rw [AList.lookup_emplace, some_inj] at h
      cases hlookup : (cluster.mRepairAll packet.kind).lookup packet.seqnum with
      | none =>
        rw [hlookup, getD_none] at h
        exact .inr ⟨rfl, rfl, h.symm, AList.lookup_eq_none.mp hlookup⟩
      | some stored' =>
        rw [hlookup, getD_some] at h
        exact .inl (congrArg some h)
    · rw [AList.lookup_emplace_ne hn] at h
      exact .inl h
  · rw [update_of_ne hkind] at h
    exact .inl h

variable {packet : FecRepairPacket}

lemma Linked.storeRepair (h : Linked cluster)
    (hnumber : ∀ stored, (cluster.mRepairAll packet.kind).lookup packet.seqnum = some stored →
      packet.createSequenceNumberList ⊆ stored.createSequenceNumberList) : Linked (cluster.storeRepair packet) := by
  constructor
  · refine h.consistent.addRepair fun sources' hlookup => ?_
    rw [h.node_eq, map_eq_some_iff] at hlookup
    obtain ⟨stored, hstored, rfl⟩ := hlookup
    exact fun s hs => mem_dedup.mpr (hnumber stored hstored hs)
  · intro kind n
    rw [ReceiveCluster.storeRepair]
    dsimp only
    rw [FecPacketsConnection.mRepairNodes_addRepair]
    by_cases hkind : kind = packet.kind
    · subst hkind
      rw [update_self, update_self]
      by_cases hn : n = packet.seqnum
      · subst hn
        rw [AList.lookup_emplace, AList.lookup_emplace, h.node_eq]
        cases (cluster.mRepairAll packet.kind).lookup packet.seqnum <;> rfl
      · rw [AList.lookup_emplace_ne hn, AList.lookup_emplace_ne hn, h.node_eq]
    · rw [update_of_ne hkind, update_of_ne hkind, h.node_eq]

lemma WellFormed.indexRepair (h : WellFormed cluster) (packet : FecRepairPacket) :
    WellFormed (cluster.indexRepair packet) :=
  ⟨h.indexed.indexRepair packet, ⟨h.linked.consistent, h.linked.node_eq⟩, h.source_window, h.repair_window⟩

lemma WellFormed.exists_cleanRepair (h : WellFormed cluster) : ∃ cluster', cluster.cleanRepair = .ok cluster' ∧
    WellFormed cluster' ∧ cluster'.mRepairWindow = cluster.mRepairWindow ∧
    cluster'.mRepairTimeStamp = cluster.repairExpiry.2 ∧ ∀ kind n, (cluster'.mRepairAll kind).lookup n =
      if n ∈ cluster.repairExpiry.1.map (·.2) then none else (cluster.mRepairAll kind).lookup n := by
  obtain ⟨all, graph, hclean, hlinked, hall⟩ := h.linked.exists_cleanRepair
  have hstays (kind : RepairKind) (n : UInt16) (stored : FecRepairPacket)
      (hstored : (all kind).lookup n = some stored) : (cluster.mRepairAll kind).lookup n = some stored := by
    rw [hall] at hstored
    split_ifs at hstored
    exact hstored
  have hwindow : RepairInWindow { cluster with
      mRepairTimeStamp := cluster.repairExpiry.2, mRepairAll := all, mFecGraph := graph } :=
    fun kind n stored kind' n' stored' hstored hstored' =>
      h.repair_window kind n stored kind' n' stored' (hstays _ _ _ hstored) (hstays _ _ _ hstored')
  exact ⟨_, hclean, ⟨⟨h.indexed.source_sorted, sorted_repairExpiry h.indexed, h.indexed.source_mem,
    h.indexed.expire hall⟩, hlinked, h.source_window, hwindow⟩, rfl, rfl, hall⟩

lemma WellFormed.storeRepair (h : WellFormed cluster)
    (hindex : (packet.timestamp, packet.seqnum) ∈ cluster.mRepairTimeStamp)
    (hnumber : ∀ stored, (cluster.mRepairAll packet.kind).lookup packet.seqnum = some stored →
      packet.createSequenceNumberList ⊆ stored.createSequenceNumberList)
    (hwindow : packet.seqnum ∉ cluster.mRepairAll packet.kind →
      ∀ kind n stored, (cluster.mRepairAll kind).lookup n = some stored →
        packet.timestamp.toNat ≤ stored.timestamp.toNat + cluster.mRepairWindow.toNat ∧
          stored.timestamp.toNat ≤ packet.timestamp.toNat + cluster.mRepairWindow.toNat) :
    WellFormed (cluster.storeRepair packet) := by
  refine ⟨⟨h.indexed.source_sorted, h.indexed.repair_sorted, h.indexed.source_mem, ?_⟩,
    h.linked.storeRepair hnumber, h.source_window, ?_⟩
  · intro kind n stored hstored
    rcases lookup_storeRepair hstored with hstored | ⟨rfl, rfl, rfl, -⟩
    · exact h.indexed.repair_mem kind n stored hstored
    · exact hindex
  · intro kind n stored kind' n' stored' hstored hstored'
    rcases lookup_storeRepair hstored with hbefore | ⟨rfl, rfl, rfl, hno⟩ <;>
      rcases lookup_storeRepair hstored' with hbefore' | ⟨rfl, rfl, rfl, hno'⟩
    · exact h.repair_window kind n stored kind' n' stored' hbefore hbefore'
    · exact (hwindow hno' kind n stored hbefore).1
    · exact (hwindow hno kind' n' stored' hbefore').2
    · exact Nat.le_add_right _ _

lemma WellFormed.exists_addRepair (h : WellFormed cluster) (hadmits : cluster.Admits packet) :
    ∃ cluster', cluster.addRepair packet = .ok cluster' ∧ WellFormed cluster' := by
  have hindexed := h.indexed.indexRepair packet
  obtain ⟨cluster₁, hclean, h₁, hwindow₁, hindex₁, hall₁⟩ := (h.indexRepair packet).exists_cleanRepair
  let cluster₂ := { cluster₁ with
    mRepairCpt := update cluster₁.mRepairCpt packet.kind (cluster₁.mRepairCpt packet.kind + 1) }
  have h₂ : WellFormed cluster₂ :=
    ⟨⟨h₁.indexed.source_sorted, h₁.indexed.repair_sorted, h₁.indexed.source_mem, h₁.indexed.repair_mem⟩,
      ⟨h₁.linked.consistent, h₁.linked.node_eq⟩, h₁.source_window, h₁.repair_window⟩
  have hadd : cluster.addRepair packet = .ok
      (if packet.timestamp ∈ cluster₁.mRepairTimeStamp.map (·.1) then cluster₂.storeRepair packet
        else cluster₂) := by
    rw [ReceiveCluster.addRepair, hclean]
    rfl
  by_cases hin : packet.timestamp ∈ cluster₁.mRepairTimeStamp.map (·.1)
  · rw [if_pos hin] at hadd
    have hentry : (packet.timestamp, packet.seqnum) ∈ cluster₁.mRepairTimeStamp := by
      rw [hindex₁] at hin ⊢
      exact mem_repairExpiry_of_mem_map hindexed (TimeIndex.mem_emplace.mpr (.inl rfl)) hin
    refine ⟨_, hadd, h₂.storeRepair hentry (fun stored hstored => ?_) fun hno kind n stored hstored => ?_⟩
    · -- the number has not left, so the condition is about the packet stored under it
      have hbefore := (hall₁ packet.kind packet.seqnum).symm.trans hstored
      split_ifs at hbefore with hgone
      refine hadmits.number stored hbefore fun hleaves => hgone ?_
      obtain ⟨hcol, e, he, hn, hexpires⟩ := hleaves
      exact mem_map.mpr ⟨e, (mem_repairExpiry hindexed e).1.mpr ⟨he, hcol, hexpires⟩, hn⟩
    · by_cases hcol : (cluster.mRepairAll .col).entries = []
      · -- nothing has left, so the condition is about the packets stored
        have hexpiry : (cluster.indexRepair packet).repairExpiry.1 = [] :=
          congrArg Prod.fst (if_pos hcol)
        simp only [hexpiry, map_nil, not_mem_nil, if_false] at hall₁
        rw [show cluster₂.mRepairWindow = cluster.mRepairWindow from hwindow₁]
        refine hadmits.window hcol ?_ kind n stored ((hall₁ kind n).symm.trans hstored)
        rw [← AList.lookup_eq_none] at hno ⊢
        exact (hall₁ packet.kind packet.seqnum).symm.trans hno
      · -- the index has been cleaned
        have hexpiry : cluster₁.mRepairTimeStamp = (outOfWindow (cluster.indexRepair packet).mRepairWindow
            (cluster.indexRepair packet).mRepairTimeStamp).2 :=
          hindex₁.trans (congrArg Prod.snd (if_neg hcol))
        have hstored' := h₁.indexed.repair_mem kind n stored hstored
        rw [hexpiry] at hentry hstored'
        rw [show cluster₂.mRepairWindow = (cluster.indexRepair packet).mRepairWindow from hwindow₁]
        exact ⟨le_of_lt (lt_of_mem_outOfWindow hindexed.repair_sorted hstored' hentry),
          le_of_lt (lt_of_mem_outOfWindow hindexed.repair_sorted hentry hstored')⟩
  · rw [if_neg hin] at hadd
    exact ⟨_, hadd, h₂⟩

/-! ### Runs -/

/-- What is done with a cluster. -/
inductive Operation where
  | addSource (mp : Packet)
  | addRepair (packet : FecRepairPacket)
  | cleanSource
  | cleanRepair
  | reset

def step (cluster : ReceiveCluster) : Operation → Except OutOfRange ReceiveCluster
  | .addSource mp => .ok (cluster.addSource mp)
  | .addRepair packet => cluster.addRepair packet
  | .cleanSource => .ok cluster.cleanSource
  | .cleanRepair => cluster.cleanRepair
  | .reset => .ok cluster.reset

def run : ReceiveCluster → List Operation → Except OutOfRange ReceiveCluster := foldlM step

/-- Each repair packet is added without harm. -/
def AllAdmitted : ReceiveCluster → List Operation → Prop
  | _, [] => True
  | cluster, operation :: operations =>
    (∀ packet, operation = .addRepair packet → cluster.Admits packet) ∧
      ∀ cluster', cluster.step operation = .ok cluster' → AllAdmitted cluster' operations

/-- A source node lists the repair packets that protect it and are stored, and no lookup is out of range. -/
structure GraphConsistent (cluster : ReceiveCluster) : Prop where
  lists_iff : ∀ kind s r, cluster.mFecGraph.Lists kind s r ↔
    cluster.mFecGraph.Protects kind r s ∧ r ∈ cluster.mRepairAll kind
  getRepairPackets : ∀ seqNum, ∃ found, cluster.mFecGraph.getRepairPacketsToRecoverSource seqNum = .ok found
  cleanRepair : ∀ kind seqNum, ∃ graph, cluster.mFecGraph.cleanRepair kind seqNum = .ok graph

lemma Linked.graphConsistent (h : Linked cluster) : GraphConsistent cluster where
  lists_iff kind s r := by
    rw [h.consistent.lists_iff, iff_self_and]
    rintro ⟨sources, hlookup, -⟩
    rw [h.node_eq, map_eq_some_iff] at hlookup
    obtain ⟨packet, hpacket, -⟩ := hlookup
    exact AList.lookup_isSome.mp (isSome_of_eq_some hpacket)
  getRepairPackets := h.consistent.exists_getRepairPackets
  cleanRepair kind seqNum := by
    obtain ⟨graph, hgraph, -⟩ := h.consistent.exists_cleanRepair kind seqNum
    exact ⟨graph, hgraph⟩

lemma WellFormed.exists_step (h : WellFormed cluster) {operation : Operation}
    (hadmits : ∀ packet, operation = .addRepair packet → cluster.Admits packet) :
    ∃ cluster', cluster.step operation = .ok cluster' ∧ WellFormed cluster' := by
  cases operation with
  | addSource mp => exact ⟨_, rfl, h.addSource mp⟩
  | addRepair packet => exact h.exists_addRepair (hadmits packet rfl)
  | cleanSource => exact ⟨_, rfl, h.cleanSource⟩
  | cleanRepair =>
    obtain ⟨cluster', hclean, hcluster', -⟩ := h.exists_cleanRepair
    exact ⟨cluster', hclean, hcluster'⟩
  | reset => exact ⟨_, rfl, wellFormed_reset cluster⟩

lemma WellFormed.exists_run (h : WellFormed cluster) {operations : List Operation}
    (hadmitted : cluster.AllAdmitted operations) :
    ∃ cluster', cluster.run operations = .ok cluster' ∧ WellFormed cluster' := by
  induction operations generalizing cluster with
  | nil => exact ⟨cluster, rfl, h⟩
  | cons operation operations ih =>
    obtain ⟨cluster₁, hstep, h₁⟩ := h.exists_step hadmitted.1
    obtain ⟨cluster₂, hrun, h₂⟩ := ih h₁ (hadmitted.2 cluster₁ hstep)
    refine ⟨cluster₂, ?_, h₂⟩
    rw [run, foldlM_cons, hstep]
    exact hrun

/-- After operations on a new cluster the packets are in the window and the graph is consistent. -/
def Keeps (repairWindow : UInt32) (operations : List Operation) : Prop :=
  ∃ cluster, (new repairWindow).run operations = .ok cluster ∧ cluster.SourceInWindow ∧
    cluster.RepairInWindow ∧ cluster.GraphConsistent

theorem keeps_of_allAdmitted (repairWindow : UInt32) (operations : List Operation)
    (h : (new repairWindow).AllAdmitted operations) : Keeps repairWindow operations := by
  obtain ⟨cluster, hrun, hcluster⟩ := (wellFormed_new repairWindow).exists_run h
  exact ⟨cluster, hrun, hcluster.source_window, hcluster.repair_window, hcluster.linked.graphConsistent⟩

def columnPacket (seqnum : UInt16) (timestamp : UInt32) (mD : UInt8) : FecRepairPacket where
  seqnum := seqnum
  timestamp := timestamp
  protectedSsrc := 7
  bitstring := .zero
  mSeqnumBase := 10
  mL := 1
  mD := mD
  payload := []

def rowPacket (seqnum : UInt16) (timestamp : UInt32) : FecRepairPacket := columnPacket seqnum timestamp 0

theorem keeps_of_allAdmitted_columns :
    Keeps 10 [.addRepair (columnPacket 1 0 2), .addRepair (columnPacket 2 100 3)] := by
  refine keeps_of_allAdmitted 10 _ ⟨?_, fun cluster₁ hstep₁ => ⟨?_, fun _ _ => trivial⟩⟩
  · rintro _ ⟨⟩
    exact ⟨fun _ _ kind n stored hstored => by simp [new] at hstored, fun stored hstored => by simp [new] at hstored⟩
  · rintro _ ⟨⟩
    obtain rfl := Except.ok.inj hstep₁
    exact ⟨fun hcol => absurd hcol (by decide +kernel), fun stored hstored =>
      absurd (show none = some stored from hstored) (some_ne_none stored).symm⟩

theorem not_keeps : ¬ Keeps 10 [.addRepair (rowPacket 1 0), .addRepair (rowPacket 2 100)] ∧
    ¬ Keeps 10 [.addRepair (columnPacket 1 0 2), .addRepair (columnPacket 1 1 3)] ∧
    ((new 10).run [.addRepair (columnPacket 1 0 2), .addRepair (columnPacket 1 1 3),
      .addRepair (columnPacket 2 100 2)] >>= fun cluster =>
        cluster.mFecGraph.getRepairPacketsToRecoverSource 12) = .error .outOfRange := by
  refine ⟨?_, ?_, rfl⟩
  · rintro ⟨cluster, hrun, -, hwindow, -⟩
    obtain rfl := Except.ok.inj hrun
    have hle := hwindow .row 1 (rowPacket 1 0) .row 2 (rowPacket 2 100) rfl rfl
    exact absurd hle (by decide)
  · rintro ⟨cluster, hrun, -, -, hgraph⟩
    obtain rfl := Except.ok.inj hrun
    obtain ⟨⟨sources, hsources, hmem⟩, -⟩ :=
      (hgraph.lists_iff .col 12 1).mp ⟨_, rfl, mem_singleton.mpr rfl⟩
    obtain rfl : [10, 11] = sources := some.inj hsources
    exact absurd hmem (by decide)

end ReceiveCluster

end Ortp
