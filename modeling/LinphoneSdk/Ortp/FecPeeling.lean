import LinphoneSdk.Lib.Peeling
import LinphoneSdk.Ortp.FecRecovery

/-!
# FEC recovery is peeling

`ReceiveCluster::repair` selects the repair packets linked to the packet that misses, in ten rounds of a search in
breadth, and uses them until none has exactly one source packet missing. What is then stored is what peeling
recovers, in any order.
-/

namespace Ortp

open Peeling List Option UInt16 Nat
open scoped TimeIndex

/-! ### The search -/

namespace FecPacketsConnection

variable {g : FecPacketsConnection} {seqNum s r : UInt16} {kind : RepairKind}

/-- The source packets that a search from one of them comes to in a round. -/
inductive Explored (g : FecPacketsConnection) (seqNum : UInt16) : ℕ → UInt16 → Prop
  | start : Explored g seqNum 0 seqNum
  | step {n : ℕ} {s s' r : UInt16} {kind : RepairKind} {sources : List UInt16} (h : Explored g seqNum n s)
      (hlists : g.Lists kind s r) (hnode : (g.mRepairNodes kind).lookup r = some sources) (hmem : s' ∈ sources)
      (hsource : s' ∈ g.mSourceNodes) : Explored g seqNum (n + 1) s'

def Found (g : FecPacketsConnection) (seqNum : UInt16) (rounds : ℕ) (kind : RepairKind) (r : UInt16) : Prop :=
  ∃ n < rounds, ∃ s, g.Explored seqNum n s ∧ g.Lists kind s r

def Dangling (g : FecPacketsConnection) (seqNum : UInt16) (rounds : ℕ) : Prop :=
  ∃ kind r, g.Found seqNum rounds kind r ∧ (g.mRepairNodes kind).lookup r = none

lemma mem_newRepairs {found : RepairKind → List UInt16} {sources : List UInt16} :
    r ∈ g.newRepairs found sources kind ↔ (∃ s ∈ sources, g.Lists kind s r) ∧ r ∉ found kind := by
  rw [newRepairs, mem_flatMap]
  constructor
  · rintro ⟨s, hs, hr⟩
    cases hlookup : g.mSourceNodes.lookup s with
    | none => simp [hlookup] at hr
    | some node =>
      simp only [hlookup, mem_filter, decide_eq_true_eq] at hr
      exact ⟨⟨s, hs, node, hlookup, hr.1⟩, hr.2⟩
  · rintro ⟨⟨s, hs, node, hlookup, hr⟩, hnew⟩
    refine ⟨s, hs, ?_⟩
    simp only [hlookup, mem_filter, decide_eq_true_eq]
    exact ⟨hr, hnew⟩

section lookups

variable {β : Type} {m : AList fun _ : UInt16 => β} {rs : List UInt16}

lemma mapM_mapAt_of_forall (h : ∀ r ∈ rs, m.lookup r ≠ none) : rs.mapM (mapAt m) = .ok (rs.filterMap m.lookup) := by
  induction rs with
  | nil => rfl
  | cons r rs ih =>
    obtain ⟨v, hv⟩ := ne_none_iff_exists'.1 (h r mem_cons_self)
    rw [mapM_cons, ih fun r' hr' => h r' (mem_cons_of_mem _ hr'), mapAt, hv,
      filterMap_cons_some (f := fun r => m.lookup r) hv]
    rfl

lemma mapM_mapAt_of_exists (h : ∃ r ∈ rs, m.lookup r = none) : rs.mapM (mapAt m) = .error .outOfRange := by
  induction rs with
  | nil =>
    obtain ⟨r, hr, -⟩ := h
    cases hr
  | cons r rs ih =>
    rw [mapM_cons, mapAt]
    cases hv : m.lookup r with
    | none => rfl
    | some v =>
      obtain ⟨r', hr', hnone⟩ := h
      have hne : r' ≠ r := by
        rintro rfl
        exact absurd (hv.symm.trans hnone) (some_ne_none v)
      rw [ih ⟨r', mem_of_ne_of_mem hne hr', hnone⟩]
      rfl

end lookups

lemma newSources_of_forall (explored : List UInt16) {repairs : List UInt16}
    (h : ∀ r ∈ repairs, (g.mRepairNodes kind).lookup r ≠ none) :
    ∃ sources, g.newSources explored kind repairs = .ok sources ∧ ∀ s, s ∈ sources ↔
      (∃ r ∈ repairs, ∃ ns, (g.mRepairNodes kind).lookup r = some ns ∧ s ∈ ns) ∧ s ∉ explored ∧ s ∈ g.mSourceNodes := by
  refine ⟨_, by rw [newSources, mapM_mapAt_of_forall h]; rfl, fun s => ?_⟩
  simp only [mem_filter, mem_flatten, mem_filterMap, decide_eq_true_eq]
  constructor
  · rintro ⟨⟨ns, ⟨r, hr, hns⟩, hs⟩, hnew⟩
    exact ⟨⟨r, hr, ns, hns, hs⟩, hnew⟩
  · rintro ⟨⟨r, hr, ns, hns, hs⟩, hnew⟩
    exact ⟨⟨ns, ⟨r, hr, hns⟩, hs⟩, hnew⟩

lemma newSources_of_exists {explored repairs : List UInt16} (h : ∃ r ∈ repairs, (g.mRepairNodes kind).lookup r = none) :
    g.newSources explored kind repairs = .error .outOfRange := by
  rw [newSources, mapM_mapAt_of_exists h]
  rfl

/-- What holds before a round of the search. -/
structure Searched (g : FecPacketsConnection) (seqNum : UInt16) (n : ℕ) (found : RepairKind → List UInt16)
    (explored added : List UInt16) : Prop where
  added_explored : ∀ s ∈ added, g.Explored seqNum n s
  explored_explored : ∀ s ∈ explored, ∃ k < n, g.Explored seqNum k s
  mem_of_explored : ∀ k ≤ n, ∀ s, g.Explored seqNum k s → s ∈ added ∨ s ∈ explored
  mem_found_iff : ∀ kind r, r ∈ found kind ↔ g.Found seqNum n kind r
  not_dangling : ¬ g.Dangling seqNum n

lemma searched_start (g : FecPacketsConnection) (seqNum : UInt16) :
    Searched g seqNum 0 (fun _ => []) [] [seqNum] where
  added_explored s hs := by
    rw [mem_singleton.1 hs]
    exact .start
  explored_explored s hs := by cases hs
  mem_of_explored k hk s hs := by
    obtain rfl := le_zero.1 hk
    cases hs
    exact .inl (mem_singleton_self _)
  mem_found_iff kind r := by
    refine iff_of_false not_mem_nil ?_
    rintro ⟨k, hk, -⟩
    exact Nat.not_lt_zero k hk
  not_dangling := by
    rintro ⟨kind, r, ⟨k, hk, -⟩, -⟩
    exact Nat.not_lt_zero k hk

variable {n : ℕ} {found : RepairKind → List UInt16} {explored added : List UInt16}

section

variable (h : Searched g seqNum n found explored added)
include h

/-- The repair packets found by the end of the round. -/
lemma Searched.mem_found_succ_iff (kind : RepairKind) (r : UInt16) :
    r ∈ g.newRepairs found added kind ++ found kind ↔ g.Found seqNum (n + 1) kind r := by
  rw [mem_append, mem_newRepairs, h.mem_found_iff]
  constructor
  · rintro (⟨⟨s, hs, hlists⟩, -⟩ | ⟨k, hk, s, hs, hlists⟩)
    · exact ⟨n, lt_succ_self n, s, h.added_explored s hs, hlists⟩
    · exact ⟨k, lt_succ_of_lt hk, s, hs, hlists⟩
  · rintro ⟨k, hk, s, hs, hlists⟩
    by_cases hfound : g.Found seqNum n kind r
    · exact .inr hfound
    · rcases h.mem_of_explored k (le_of_lt_succ hk) s hs with hadded | hexplored
      · exact .inl ⟨⟨s, hadded, hlists⟩, hfound⟩
      · obtain ⟨k', hk', hs'⟩ := h.explored_explored s hexplored
        exact absurd ⟨k', hk', s, hs', hlists⟩ hfound

/-- The repair packets without a node are among those found in the round. -/
lemma Searched.dangling_succ_iff : g.Dangling seqNum (n + 1) ↔
    ∃ kind, ∃ r ∈ g.newRepairs found added kind, (g.mRepairNodes kind).lookup r = none := by
  constructor
  · rintro ⟨kind, r, hfound, hnone⟩
    rcases mem_append.1 ((h.mem_found_succ_iff kind r).2 hfound) with hnew | hold
    · exact ⟨kind, r, hnew, hnone⟩
    · exact absurd ⟨kind, r, (h.mem_found_iff kind r).1 hold, hnone⟩ h.not_dangling
  · rintro ⟨kind, r, hnew, hnone⟩
    exact ⟨kind, r, (h.mem_found_succ_iff kind r).1 (mem_append_left _ hnew), hnone⟩

/-- What the source packets found in the round give. -/
lemma Searched.succ (added' : List UInt16)
    (hdangling : ¬ g.Dangling seqNum (n + 1))
    (hadded' : ∀ s, s ∈ added' ↔ (∃ kind, ∃ r ∈ g.newRepairs found added kind, ∃ ns,
      (g.mRepairNodes kind).lookup r = some ns ∧ s ∈ ns) ∧ s ∉ added ++ explored ∧ s ∈ g.mSourceNodes) :
    Searched g seqNum (n + 1) (fun kind => g.newRepairs found added kind ++ found kind) (added ++ explored)
      added' where
  added_explored s hs := by
    obtain ⟨⟨kind, r, hr, ns, hns, hmem⟩, -, hsource⟩ := (hadded' s).1 hs
    obtain ⟨⟨s₀, hs₀, hlists⟩, -⟩ := mem_newRepairs.1 hr
    exact .step (h.added_explored s₀ hs₀) hlists hns hmem hsource
  explored_explored s hs := by
    rcases mem_append.1 hs with hs | hs
    · exact ⟨n, lt_succ_self n, h.added_explored s hs⟩
    · obtain ⟨k, hk, hks⟩ := h.explored_explored s hs
      exact ⟨k, lt_succ_of_lt hk, hks⟩
  mem_of_explored k hk s hs := by
    have hearlier (k : ℕ) (hk : k ≤ n) (s : UInt16) (hs : g.Explored seqNum k s) : s ∈ added ++ explored :=
      mem_append.2 (h.mem_of_explored k hk s hs)
    rcases le_succ_iff.1 hk with hk | rfl
    · exact .inr (hearlier k hk s hs)
    · by_cases hold : s ∈ added ++ explored
      · exact .inr hold
      · cases hs with
        | @step _ s₀ _ r kind ns hs₀ hlists hns hmem hsource =>
          have hfound : g.Found seqNum (n + 1) kind r := ⟨n, lt_succ_self n, s₀, hs₀, hlists⟩
          rcases mem_append.1 ((h.mem_found_succ_iff kind r).2 hfound) with hnew | hprevious
          · exact .inl ((hadded' s).2 ⟨⟨kind, r, hnew, ns, hns, hmem⟩, hold, hsource⟩)
          · obtain ⟨k, hk, s₁, hs₁, hlists₁⟩ := (h.mem_found_iff kind r).1 hprevious
            exact .inr (hearlier (k + 1) hk s (.step hs₁ hlists₁ hns hmem hsource))
  mem_found_iff := h.mem_found_succ_iff
  not_dangling := hdangling

end

/-- A search that comes to nothing more has found all there is to find. -/
lemma Searched.found_iff (h : Searched g seqNum n found explored []) (m : ℕ) :
    g.Found seqNum (n + m) kind r ↔ g.Found seqNum n kind r := by
  have hstep (k : ℕ) (hk : k ≤ n) (s : UInt16) (hs : g.Explored seqNum k s) : ∃ k < n, g.Explored seqNum k s := by
    rcases h.mem_of_explored k hk s hs with hs | hs
    · cases hs
    · exact h.explored_explored s hs
  have hall (k : ℕ) (s : UInt16) (hs : g.Explored seqNum k s) : ∃ k < n, g.Explored seqNum k s := by
    induction hs with
    | start => exact hstep 0 (Nat.zero_le n) seqNum .start
    | step _ hlists hns hmem hsource ih =>
      obtain ⟨k, hk, hs⟩ := ih
      exact hstep (k + 1) hk _ (.step hs hlists hns hmem hsource)
  constructor
  · rintro ⟨k, -, s, hs, hlists⟩
    obtain ⟨k', hk', hs'⟩ := hall k s hs
    exact ⟨k', hk', s, hs', hlists⟩
  · rintro ⟨k, hk, s, hs, hlists⟩
    exact ⟨k, by omega, s, hs, hlists⟩

lemma Dangling.mono {m : ℕ} (h : g.Dangling seqNum n) (hnm : n ≤ m) : g.Dangling seqNum m := by
  obtain ⟨kind, r, ⟨k, hk, s, hs, hlists⟩, hnone⟩ := h
  exact ⟨kind, r, ⟨k, Nat.lt_of_lt_of_le hk hnm, s, hs, hlists⟩, hnone⟩

/-- A round that finds a repair packet without a node throws. -/
lemma exploreRepairs_of_dangling (h : Searched g seqNum n found explored added)
    (hdangling : g.Dangling seqNum (n + 1)) (rounds : ℕ) :
    g.exploreRepairs (rounds + 1) found explored added = .error .outOfRange := by
  obtain ⟨kind, r, hr, hnone⟩ := h.dangling_succ_iff.1 hdangling
  rw [exploreRepairs]
  dsimp only
  cases kind with
  | row =>
    rw [newSources_of_exists ⟨r, hr, hnone⟩]
    rfl
  | col =>
    have hthrows : g.newSources (added ++ explored) .col (g.newRepairs found added .col) = .error .outOfRange :=
      newSources_of_exists ⟨r, hr, hnone⟩
    rw [hthrows]
    cases g.newSources (added ++ explored) .row (g.newRepairs found added .row) with
    | error e => rfl
    | ok rowSources => rfl

/-- The search finds the repair packets of the rounds, or throws when one has no node. -/
lemma Searched.exploreRepairs (h : Searched g seqNum n found explored added) (rounds : ℕ) :
    (g.Dangling seqNum (n + rounds) ∧ g.exploreRepairs rounds found explored added = .error .outOfRange) ∨
      ¬ g.Dangling seqNum (n + rounds) ∧ ∃ found', g.exploreRepairs rounds found explored added = .ok found' ∧
        ∀ kind r, r ∈ found' kind ↔ g.Found seqNum (n + rounds) kind r := by
  induction rounds generalizing n found explored added with
  | zero => exact .inr ⟨h.not_dangling, found, rfl, h.mem_found_iff⟩
  | succ rounds ih =>
    by_cases hdangling : g.Dangling seqNum (n + 1)
    · exact .inl ⟨hdangling.mono (by omega), exploreRepairs_of_dangling h hdangling rounds⟩
    · have hnode (kind : RepairKind) (r : UInt16) (hr : r ∈ g.newRepairs found added kind) :
          (g.mRepairNodes kind).lookup r ≠ none := fun hnone =>
        hdangling (h.dangling_succ_iff.2 ⟨kind, r, hr, hnone⟩)
      obtain ⟨rowSources, hrow, hmemrow⟩ := newSources_of_forall (added ++ explored) (hnode .row)
      obtain ⟨colSources, hcol, hmemcol⟩ := newSources_of_forall (added ++ explored) (hnode .col)
      have hnext := h.succ (rowSources ++ colSources) hdangling fun s => by
        rw [mem_append, hmemrow, hmemcol, ← or_and_right]
        refine and_congr_left fun _ => ⟨?_, ?_⟩
        · rintro (hs | hs)
          · exact ⟨.row, hs⟩
          · exact ⟨.col, hs⟩
        · rintro ⟨kind, hs⟩
          cases kind with
          | row => exact .inl hs
          | col => exact .inr hs
      have hrounds : n + (rounds + 1) = n + 1 + rounds := by omega
      rw [FecPacketsConnection.exploreRepairs, hrow, hcol, hrounds]
      dsimp only [Bind.bind, Except.bind]
      split_ifs with hend
      · rw [hend] at hnext
        refine .inr ⟨?_, _, rfl, fun kind r => ?_⟩
        · rintro ⟨kind, r, hfound, hnone⟩
          exact hdangling ⟨kind, r, (hnext.found_iff rounds).1 hfound, hnone⟩
        · rw [hnext.found_iff rounds]
          exact hnext.mem_found_iff kind r
      · exact ih hnext

/-- The repair packets selected for a source packet, unless one has no node. -/
lemma getRepairPackets_cases (g : FecPacketsConnection) (seqNum : UInt16) :
    (g.Dangling seqNum 10 ∧ g.getRepairPacketsToRecoverSource seqNum = .error .outOfRange) ∨
      ¬ g.Dangling seqNum 10 ∧ ∃ found, g.getRepairPacketsToRecoverSource seqNum = .ok found ∧
        ∀ kind r, r ∈ found kind ↔ g.Found seqNum 10 kind r := by
  rw [getRepairPacketsToRecoverSource]
  split_ifs with hsource
  · have hsearch := (searched_start g seqNum).exploreRepairs 10
    rwa [Nat.zero_add] at hsearch
  · have hlists (kind : RepairKind) (r : UInt16) : ¬ g.Lists kind seqNum r := by
      rintro ⟨node, hlookup, -⟩
      exact hsource (AList.lookup_isSome.1 (isSome_of_eq_some hlookup))
    have hstart (k : ℕ) (s : UInt16) (hs : g.Explored seqNum k s) : s = seqNum := by
      induction hs with
      | start => rfl
      | step _ hstep _ _ _ ih => exact absurd (ih ▸ hstep) (hlists _ _)
    have hnone (kind : RepairKind) (r : UInt16) : ¬ g.Found seqNum 10 kind r := by
      rintro ⟨k, -, s, hs, hr⟩
      exact hlists kind r (hstart k s hs ▸ hr)
    refine .inr ⟨?_, _, rfl, fun kind r => iff_of_false not_mem_nil (hnone kind r)⟩
    rintro ⟨kind, r, hfound, -⟩
    exact hnone kind r hfound

end FecPacketsConnection

/-! ### One repair packet -/

namespace FecRepairPacket

def protects (packet : FecRepairPacket) : Set UInt16 := {n | n ∈ packet.createSequenceNumberList}

/-- A column of no width protects the same number again and again. -/
def Repeats (packet : FecRepairPacket) : Prop := 1 < packet.mD ∧ packet.mL = 0

instance (packet : FecRepairPacket) : Decidable packet.Repeats := inferInstanceAs (Decidable (_ ∧ _))

lemma sequenceNumbersFrom_eq (step seqnum : UInt16) (n : ℕ) :
    sequenceNumbersFrom step seqnum n = (List.range n).map fun i => seqnum + .ofNat (step.toNat * i) := by
  induction n generalizing seqnum with
  | zero => rfl
  | succ n ih =>
    rw [sequenceNumbersFrom, ih, List.range_succ_eq_map, List.map_cons, List.map_map]
    congr 1
    · rw [Nat.mul_zero]
      exact (UInt16.add_zero seqnum).symm
    · refine List.map_congr_left fun i _ => ?_
      rw [Function.comp_apply, succ_eq_add_one, Nat.mul_add_one, ofNat_add, UInt16.ofNat_toNat,
        UInt16.add_assoc, UInt16.add_comm step]

/-- Otherwise the numbers are different. -/
lemma nodup_createSequenceNumberList {packet : FecRepairPacket} (h : ¬ packet.Repeats) :
    packet.createSequenceNumberList.Nodup := by
  have hL := packet.mL.toNat_lt
  have hD := packet.mD.toNat_lt
  rw [Repeats, not_and] at h
  rw [createSequenceNumberList, sequenceNumbersFrom_eq]
  refine (nodup_map_iff_inj_on nodup_range).2 fun i hi j hj heq => ?_
  rw [mem_range] at hi hj
  have hwords := congrArg UInt16.toNat ((UInt16.add_right_inj _).1 heq)
  rw [toNat_ofNat', toNat_ofNat', UInt8.toNat_toUInt16] at hwords
  by_cases hrow : packet.mD ≤ 1
  · rw [if_pos hrow] at hi hj hwords
    rw [show (1 : UInt8).toNat = 1 from rfl] at hwords
    omega
  · have hcol := UInt8.not_le.1 hrow
    have hpos : 0 < packet.mL.toNat := Nat.pos_of_ne_zero fun hzero => h hcol (UInt8.toNat_inj.1 hzero)
    rw [if_neg hrow] at hi hj hwords
    have hlt (k : ℕ) (hk : k < max 1 packet.mD.toNat) : packet.mL.toNat * k < 2 ^ 16 := by
      have hle : packet.mL.toNat * k ≤ 255 * 255 := Nat.mul_le_mul (by omega) (by omega)
      omega
    rw [mod_eq_of_lt (hlt i hi), mod_eq_of_lt (hlt j hj)] at hwords
    exact Nat.eq_of_mul_eq_mul_left hpos hwords

lemma createSequenceNumberList_of_repeats {packet : FecRepairPacket} (h : packet.Repeats) :
    (∀ n ∈ packet.createSequenceNumberList, n = packet.mSeqnumBase) ∧
      packet.mSeqnumBase ∈ packet.createSequenceNumberList.erase packet.mSeqnumBase := by
  obtain ⟨hcol, hwidth⟩ := h
  have hcol' := UInt8.lt_iff_toNat_lt.1 hcol
  rw [show (1 : UInt8).toNat = 1 from rfl] at hcol'
  obtain ⟨size, hsize⟩ : ∃ size, max 1 packet.mD.toNat = size + 2 := ⟨packet.mD.toNat - 2, by omega⟩
  rw [createSequenceNumberList, if_neg (UInt8.not_le.2 hcol), if_neg (UInt8.not_le.2 hcol), hwidth, hsize]
  constructor
  · intro n hn
    rw [sequenceNumbersFrom_eq] at hn
    obtain ⟨i, -, rfl⟩ := mem_map.1 hn
    rw [show (0 : UInt8).toUInt16.toNat = 0 from rfl, Nat.zero_mul]
    exact UInt16.add_zero _
  · rw [sequenceNumbersFrom, sequenceNumbersFrom, erase_cons_head]
    refine mem_cons.2 (.inl ?_)
    exact (UInt16.add_zero _).symm

end FecRepairPacket

/-! ### The rounds -/

namespace ReceiveCluster

variable {cluster cluster' : ReceiveCluster} {packet : FecRepairPacket} {packets rowRepair colRepair : List FecRepairPacket}

def stored (cluster : ReceiveCluster) : Set UInt16 := {n | cluster.getSourcePacket n ≠ none}

/-- The numbers that some repair packets protect, but for those that protect one number again and again. -/
def equations (packets : List FecRepairPacket) : Set (Set UInt16) :=
  {e | ∃ packet ∈ packets, ¬ packet.Repeats ∧ packet.protects = e}

/-- Exactly one entry of the list of a repair packet is missing. -/
def LosesOne (cluster : ReceiveCluster) (packet : FecRepairPacket) (lost : UInt16) : Prop :=
  lost ∈ packet.createSequenceNumberList ∧ lost ∉ cluster.stored ∧
    ∀ n ∈ packet.createSequenceNumberList.erase lost, n ∈ cluster.stored

lemma losesOne_iff (h : ¬ packet.Repeats) {lost : UInt16} : cluster.LosesOne packet lost ↔
    lost ∈ packet.protects ∧ lost ∉ cluster.stored ∧ ∀ n ∈ packet.protects, n ≠ lost → n ∈ cluster.stored := by
  have hnodup := FecRepairPacket.nodup_createSequenceNumberList h
  refine and_congr_right fun _ => and_congr_right fun _ => ?_
  constructor
  · exact fun hothers n hn hne => hothers n (hnodup.mem_erase_iff.2 ⟨hne, hn⟩)
  · intro hothers n hn
    obtain ⟨hne, hn⟩ := hnodup.mem_erase_iff.1 hn
    exact hothers n hn hne

lemma not_losesOne_of_repeats (h : packet.Repeats) (lost : UInt16) : ¬ cluster.LosesOne packet lost := by
  rintro ⟨hmem, hlost, hothers⟩
  obtain ⟨hall, hagain⟩ := FecRepairPacket.createSequenceNumberList_of_repeats h
  obtain rfl := hall lost hmem
  exact hlost (hothers _ hagain)

lemma lookForLoss_one_of_forall {ns : List UInt16} (h : ∀ n ∈ ns, n ∈ cluster.stored) (lost : UInt16)
    (bs : Bitstring) : ∃ bs', cluster.lookForLoss ns 1 lost bs = (1, lost, bs') := by
  induction ns generalizing bs with
  | nil => exact ⟨bs, rfl⟩
  | cons n ns ih =>
    obtain ⟨source, hsource⟩ := ne_none_iff_exists'.1 (h n mem_cons_self)
    rw [lookForLoss, if_neg (lt_irrefl 1), hsource]
    exact ih (fun n' hn' => h n' (mem_cons_of_mem _ hn')) _

lemma lookForLoss_of_losesOne {ns : List UInt16} {lost : UInt16} (hmem : lost ∈ ns) (hlost : lost ∉ cluster.stored)
    (hothers : ∀ n ∈ ns.erase lost, n ∈ cluster.stored) (lost₀ : UInt16) (bs : Bitstring) :
    ∃ bs', cluster.lookForLoss ns 0 lost₀ bs = (1, lost, bs') := by
  induction ns generalizing bs with
  | nil => cases hmem
  | cons n ns ih =>
    rw [lookForLoss, if_neg (by decide)]
    by_cases hn : n = lost
    · subst hn
      rw [erase_cons_head] at hothers
      rw [not_not.1 hlost]
      exact lookForLoss_one_of_forall hothers n bs
    · rw [erase_cons_tail (by simpa using hn)] at hothers
      obtain ⟨source, hsource⟩ := ne_none_iff_exists'.1 (hothers n mem_cons_self)
      rw [hsource]
      exact ih (mem_of_ne_of_mem (Ne.symm hn) hmem) (fun n' hn' => hothers n' (mem_cons_of_mem _ hn')) _

/-- A repair packet with one entry missing gives it, another one gives nothing. -/
lemma repairOne_cases (cluster : ReceiveCluster) (packet : FecRepairPacket) :
    (cluster.repairOne packet = (cluster, 0) ∧ ∀ lost, ¬ cluster.LosesOne packet lost) ∨
      (cluster.repairOne packet).2 = 1 ∧ ∃ lost, cluster.LosesOne packet lost ∧
        (cluster.repairOne packet).1.stored = insert lost cluster.stored := by
  rcases hloss : cluster.lookForLoss packet.createSequenceNumberList 0 0 .zero with ⟨loss, lost, bs⟩
  rw [repairOne, hloss]
  dsimp only
  by_cases hone : loss = 1
  · subst hone
    obtain ⟨hmem, hlost, hothers, -⟩ := lookForLoss_zero hloss
    rw [if_neg (not_not.2 rfl)]
    refine .inr ⟨rfl, lost, ⟨hmem, not_not.2 hlost, hothers⟩, ?_⟩
    ext n
    rw [Set.mem_insert_iff, stored, stored, Set.mem_ofPred_eq, Set.mem_ofPred_eq, getSourcePacket, getSourcePacket]
    dsimp only
    by_cases hn : n = lost
    · subst hn
      rw [AList.lookup_emplace, show cluster.mSource.lookup n = none from hlost]
      simp
    · rw [AList.lookup_emplace_ne hn]
      simp [hn]
  · rw [if_pos hone]
    refine .inl ⟨rfl, ?_⟩
    rintro lost' ⟨hmem, hlost, hothers⟩
    refine hone ?_
    obtain ⟨bs', hbs'⟩ := lookForLoss_of_losesOne hmem hlost hothers 0 .zero
    exact congrArg Prod.fst (hloss.symm.trans hbs')

/-- What the rounds do to the packets stored: they recover some, by the equations. -/
structure Recovers (packets : List FecRepairPacket) (cluster cluster' : ReceiveCluster) : Prop where
  subset : cluster.stored ⊆ cluster'.stored
  peeled : ∀ n ∈ cluster'.stored, Peeled (equations packets) cluster.stored n

lemma Recovers.refl (packets : List FecRepairPacket) (cluster : ReceiveCluster) : Recovers packets cluster cluster :=
  ⟨subset_rfl, fun _ hn => .known hn⟩

lemma Recovers.trans {cluster'' : ReceiveCluster} (h : Recovers packets cluster cluster')
    (h' : Recovers packets cluster' cluster'') : Recovers packets cluster cluster'' :=
  ⟨h.subset.trans h'.subset, fun n hn => (h'.peeled n hn).trans h.peeled⟩

lemma recovers_repairOne (cluster : ReceiveCluster) (hpacket : packet ∈ packets) :
    Recovers packets cluster (cluster.repairOne packet).1 := by
  obtain ⟨hsame, -⟩ | ⟨-, lost, hloses, hstored⟩ := repairOne_cases cluster packet
  · rw [hsame]
    exact .refl packets cluster
  · have hrepeats : ¬ packet.Repeats := fun h => not_losesOne_of_repeats h lost hloses
    obtain ⟨hmem, -, hothers⟩ := (losesOne_iff hrepeats).1 hloses
    refine ⟨hstored ▸ Set.subset_insert lost cluster.stored, ?_⟩
    rw [hstored]
    exact Peeled.insert (fun _ hn => .known hn) ⟨packet, hpacket, hrepeats, rfl⟩ hmem hothers

lemma recovers_repair1D (cluster : ReceiveCluster) {used : List FecRepairPacket} (hused : used ⊆ packets) :
    Recovers packets cluster (cluster.repair1D used).1 := by
  induction used generalizing cluster with
  | nil => exact .refl packets cluster
  | cons packet used ih =>
    exact (recovers_repairOne cluster (hused mem_cons_self)).trans
      (ih _ fun packet' hpacket' => hused (mem_cons_of_mem _ hpacket'))

/-- A pass that recovers nothing changes nothing. -/
lemma repair1D_of_zero {used : List FecRepairPacket} (h : (cluster.repair1D used).2 = 0) :
    (cluster.repair1D used).1 = cluster ∧ ∀ packet ∈ used, ∀ lost, ¬ cluster.LosesOne packet lost := by
  induction used with
  | nil => exact ⟨rfl, fun packet hpacket => by cases hpacket⟩
  | cons packet used ih =>
    rw [repair1D] at h ⊢
    dsimp only at h ⊢
    obtain ⟨hsame, hnone⟩ | ⟨hone, -⟩ := repairOne_cases cluster packet
    · rw [hsame] at h ⊢
      dsimp only at h ⊢
      obtain ⟨hrest, hnone'⟩ := ih (by omega)
      refine ⟨hrest, fun packet' hpacket' => ?_⟩
      rcases mem_cons.1 hpacket' with rfl | hpacket'
      · exact hnone
      · exact hnone' packet' hpacket'
    · omega

/-- The loop of `repair2D`, until a round recovers nothing. -/
inductive Rounds (rowRepair colRepair : List FecRepairPacket) : ReceiveCluster → ReceiveCluster → Prop
  | last {cluster cluster₁ cluster₂ : ReceiveCluster} (hrow : cluster.repair1D rowRepair = (cluster₁, 0))
      (hcol : cluster₁.repair1D colRepair = (cluster₂, 0)) : Rounds rowRepair colRepair cluster cluster₂
  | next {cluster cluster₁ cluster₂ cluster' : ReceiveCluster} {rows columns : ℕ}
      (hrow : cluster.repair1D rowRepair = (cluster₁, rows))
      (hcol : cluster₁.repair1D colRepair = (cluster₂, columns)) (hrecovers : 0 < rows + columns)
      (hrounds : Rounds rowRepair colRepair cluster₂ cluster') : Rounds rowRepair colRepair cluster cluster'

/-- The rounds end before their number is reached. -/
lemma rounds_repair2D {n : ℕ} (hn : (cluster.missing (rowRepair ++ colRepair)).length < n) :
    Rounds rowRepair colRepair cluster (repair2D rowRepair colRepair n cluster) := by
  induction n generalizing cluster with
  | zero => exact absurd hn (Nat.not_lt_zero _)
  | succ n ih =>
    have hrow := length_missing_repair1D cluster (subset_append_left rowRepair colRepair)
    have hcol := length_missing_repair1D (cluster.repair1D rowRepair).1
      (subset_append_right rowRepair colRepair)
    rw [repair2D]
    dsimp only
    split_ifs with hround
    · exact .next rfl rfl hround (ih (by omega))
    · have hrows : (cluster.repair1D rowRepair).2 = 0 := by omega
      have hcolumns : ((cluster.repair1D rowRepair).1.repair1D colRepair).2 = 0 := by omega
      exact .last (Prod.ext rfl hrows) (Prod.ext rfl hcolumns)

/-- At the end no repair packet has one entry missing, and what is stored was recovered by the equations. -/
lemma Rounds.complete (h : Rounds rowRepair colRepair cluster cluster') :
    Recovers (rowRepair ++ colRepair) cluster cluster' ∧
      ∀ packet ∈ rowRepair ++ colRepair, ∀ lost, ¬ cluster'.LosesOne packet lost := by
  induction h with
  | @last cluster cluster₁ cluster₂ hrow hcol =>
    obtain ⟨hsame₁, hnone₁⟩ := repair1D_of_zero (congrArg Prod.snd hrow)
    obtain ⟨hsame₂, hnone₂⟩ := repair1D_of_zero (congrArg Prod.snd hcol)
    rw [hrow] at hsame₁
    rw [hcol] at hsame₂
    obtain rfl : cluster₁ = cluster := hsame₁
    obtain rfl : cluster₂ = cluster₁ := hsame₂
    refine ⟨.refl _ _, fun packet hpacket => ?_⟩
    rcases mem_append.1 hpacket with hpacket | hpacket
    · exact hnone₁ packet hpacket
    · exact hnone₂ packet hpacket
  | @next cluster cluster₁ cluster₂ cluster' rows columns hrow hcol _ _ ih =>
    have hrows := recovers_repair1D cluster (subset_append_left rowRepair colRepair)
    have hcolumns := recovers_repair1D cluster₁ (subset_append_right rowRepair colRepair)
    rw [hrow] at hrows
    rw [hcol] at hcolumns
    exact ⟨(hrows.trans hcolumns).trans ih.1, ih.2⟩

/-! ### The repair -/

variable {seqNum : UInt16}

/-- The repair packets that `repair` uses for a source packet. -/
def Selected (cluster : ReceiveCluster) (seqNum : UInt16) (packet : FecRepairPacket) : Prop :=
  ∃ kind r, cluster.mFecGraph.Found seqNum 10 kind r ∧ (cluster.mRepairAll kind).lookup r = some packet

def selectedEquations (cluster : ReceiveCluster) (seqNum : UInt16) : Set (Set UInt16) :=
  {e | ∃ packet, cluster.Selected seqNum packet ∧ packet.protects = e}

/-- The same, without those that protect one number again and again. -/
def plainEquations (cluster : ReceiveCluster) (seqNum : UInt16) : Set (Set UInt16) :=
  {e | ∃ packet, cluster.Selected seqNum packet ∧ ¬ packet.Repeats ∧ packet.protects = e}

/-- The loops end with a cluster. -/
def Terminates (cluster : ReceiveCluster) (seqNum : UInt16) (cluster' : ReceiveCluster) : Prop :=
  ∃ found, cluster.mFecGraph.getRepairPacketsToRecoverSource seqNum = .ok found ∧
    Rounds (cluster.repairForDecoding found .row) (cluster.repairForDecoding found .col) cluster cluster'

/-- The claim: the repair ends, no selected repair packet has exactly one source packet missing, and what is stored
is what peeling recovers. -/
def PeelsCompletely (cluster : ReceiveCluster) (seqNum : UInt16) : Prop :=
  ∃ cluster', cluster.repair seqNum = .ok cluster' ∧ cluster.Terminates seqNum cluster' ∧
    Closed (cluster.selectedEquations seqNum) cluster'.stored ∧
      ∀ n, n ∈ cluster'.stored ↔ Peeled (cluster.selectedEquations seqNum) cluster.stored n

/-- The search meets no repair packet without a node, and a number protected again and again can be recovered
without that. -/
structure Peelable (cluster : ReceiveCluster) (seqNum : UInt16) : Prop where
  not_dangling : ¬ cluster.mFecGraph.Dangling seqNum 10
  repeats : ∀ packet, cluster.Selected seqNum packet → packet.Repeats →
    Peeled (cluster.plainEquations seqNum) cluster.stored packet.mSeqnumBase

lemma mem_repairForDecoding {found : RepairKind → List UInt16} {kind : RepairKind} :
    packet ∈ cluster.repairForDecoding found kind ↔
      ∃ r ∈ found kind, (cluster.mRepairAll kind).lookup r = some packet := by
  rw [repairForDecoding, mem_filterMap]
  simp only [mem_insertionSort, mem_dedup]

/-- The repair fails on a repair packet without a node, and else does the rounds of the selected ones. -/
lemma repair_cases (h : cluster.getSourcePacket seqNum = none) :
    (cluster.mFecGraph.Dangling seqNum 10 ∧ cluster.repair seqNum = .error .outOfRange) ∨
      ¬ cluster.mFecGraph.Dangling seqNum 10 ∧ ∃ cluster' packets, cluster.repair seqNum = .ok cluster' ∧
        cluster.Terminates seqNum cluster' ∧ (∀ packet, packet ∈ packets ↔ cluster.Selected seqNum packet) ∧
          Recovers packets cluster cluster' ∧ ∀ packet ∈ packets, ∀ lost, ¬ cluster'.LosesOne packet lost := by
  rw [repair, h, if_neg (by decide)]
  obtain ⟨hdangling, hsearch⟩ | ⟨hdangling, found, hsearch, hfound⟩ :=
    cluster.mFecGraph.getRepairPackets_cases seqNum
  · refine .inl ⟨hdangling, ?_⟩
    rw [hsearch]
    rfl
  · have hrounds := rounds_repair2D (lt_succ_self (cluster.missing
      (cluster.repairForDecoding found .row ++ cluster.repairForDecoding found .col)).length)
    obtain ⟨hrecovers, hnone⟩ := hrounds.complete
    refine .inr ⟨hdangling, _, _, by rw [hsearch]; rfl, ⟨found, hsearch, hrounds⟩, fun packet => ?_, hrecovers, hnone⟩
    rw [mem_append, mem_repairForDecoding, mem_repairForDecoding]
    constructor
    · rintro (⟨r, hr, hlookup⟩ | ⟨r, hr, hlookup⟩)
      · exact ⟨.row, r, (hfound .row r).1 hr, hlookup⟩
      · exact ⟨.col, r, (hfound .col r).1 hr, hlookup⟩
    · rintro ⟨kind, r, hr, hlookup⟩
      cases kind with
      | row => exact .inl ⟨r, (hfound .row r).2 hr, hlookup⟩
      | col => exact .inr ⟨r, (hfound .col r).2 hr, hlookup⟩

lemma equations_eq (hpackets : ∀ packet, packet ∈ packets ↔ cluster.Selected seqNum packet) :
    equations packets = cluster.plainEquations seqNum := by
  ext e
  exact exists_congr fun packet => and_congr_left fun _ => hpackets packet

lemma plainEquations_subset (cluster : ReceiveCluster) (seqNum : UInt16) :
    cluster.plainEquations seqNum ⊆ cluster.selectedEquations seqNum :=
  fun _ ⟨packet, hselected, _, he⟩ => ⟨packet, hselected, he⟩

lemma closed_equations (h : ∀ packet ∈ packets, ∀ lost, ¬ cluster.LosesOne packet lost) :
    Closed (equations packets) cluster.stored := by
  rintro e ⟨packet, hpacket, hrepeats, rfl⟩ ⟨lost, hmissing⟩
  exact h packet hpacket lost ((losesOne_iff hrepeats).2 hmissing)

lemma eq_of_protects (hrepeats : packet.Repeats) {n : UInt16} (h : n ∈ packet.protects) : n = packet.mSeqnumBase :=
  (FecRepairPacket.createSequenceNumberList_of_repeats hrepeats).1 n h

/-- The repair peels completely where it can. -/
theorem peelsCompletely_iff (cluster : ReceiveCluster) (seqNum : UInt16) (h : cluster.getSourcePacket seqNum = none) :
    cluster.PeelsCompletely seqNum ↔ cluster.Peelable seqNum := by
  obtain ⟨hdangling, herror⟩ | ⟨hdangling, cluster', packets, hrepair, hterminates, hpackets, hrecovers, hnone⟩ :=
    repair_cases h
  · refine iff_of_false ?_ fun hpeelable => hpeelable.not_dangling hdangling
    rintro ⟨cluster', hok, -⟩
    rw [herror] at hok
    cases hok
  have hclosed := closed_equations hnone
  have hpeeled := hrecovers.peeled
  rw [equations_eq hpackets] at hclosed hpeeled
  constructor
  · rintro ⟨cluster'', hrepair', -, hall, -⟩
    obtain rfl := Except.ok.inj (hrepair.symm.trans hrepair')
    refine ⟨hdangling, fun packet hselected hrepeats => hpeeled _ ?_⟩
    by_contra hmissing
    refine hall _ ⟨packet, hselected, rfl⟩ ⟨packet.mSeqnumBase, ?_, hmissing, fun n hn hne => ?_⟩
    · exact mem_of_mem_erase (FecRepairPacket.createSequenceNumberList_of_repeats hrepeats).2
    · exact absurd (eq_of_protects hrepeats hn) hne
  · intro hpeelable
    have hall : Closed (cluster.selectedEquations seqNum) cluster'.stored := by
      rintro e ⟨packet, hselected, rfl⟩ hmisses
      by_cases hrepeats : packet.Repeats
      · obtain ⟨n, hn, hmissing, -⟩ := hmisses
        have hstored := hclosed.mem hrecovers.subset (hpeelable.repeats packet hselected hrepeats)
        exact hmissing (eq_of_protects hrepeats hn ▸ hstored)
      · exact hclosed _ ⟨packet, hselected, hrepeats, rfl⟩ hmisses
    have hplain := plainEquations_subset cluster seqNum
    exact ⟨cluster', hrepair, hterminates, hall, fun n =>
      hall.mem_iff hrecovers.subset fun n hn => (hpeeled n hn).mono hplain⟩

def peelingSample : ReceiveCluster :=
  ((new 10).addSource ([0x80, 0, 0, 11, 0, 0, 0, 0, 0, 0, 0, 0] ++ [1])).storeRepair (columnPacket 1 0 2)

theorem peelsCompletely_iff_peelingSample : peelingSample.PeelsCompletely 10 := by
  refine (peelsCompletely_iff peelingSample 10 rfl).2 ⟨?_, ?_⟩
  · obtain ⟨-, herror⟩ | ⟨hdangling, -⟩ := peelingSample.mFecGraph.getRepairPackets_cases 10
    · obtain ⟨found, hok⟩ : ∃ found, peelingSample.mFecGraph.getRepairPacketsToRecoverSource 10 = .ok found :=
        ⟨_, rfl⟩
      rw [hok] at herror
      cases herror
    · exact hdangling
  · rintro packet ⟨kind, r, -, hlookup⟩ hrepeats
    have hpacket : packet = columnPacket 1 0 2 := by
      cases kind with
      | row => cases hlookup
      | col =>
        by_cases hr : r = 1
        · subst hr
          exact (some.inj hlookup).symm
        · have hnone : (peelingSample.mRepairAll .col).lookup r = none :=
            (AList.lookup_emplace_ne hr (columnPacket 1 0 2) ∅).trans (AList.lookup_empty r)
          rw [hnone] at hlookup
          cases hlookup
    rw [hpacket] at hrepeats
    exact absurd hrepeats (by decide)

def repeatingPacket : FecRepairPacket := { columnPacket 1 0 2 with mL := 0 }

/-- The number of a repair packet is used again for other packets, and the search throws once the first one has left;
a column of no width has one packet missing, and it stays so. -/
theorem peelsCompletely_iff_fails :
    (∃ cluster, (new 10).run [.addRepair (columnPacket 1 0 2), .addRepair (columnPacket 1 1 3),
        .addRepair (columnPacket 2 100 2)] = .ok cluster ∧ cluster.getSourcePacket 12 = none ∧
          ¬ cluster.PeelsCompletely 12) ∧
    ∃ cluster', ((new 10).storeRepair repeatingPacket).repair 10 = .ok cluster' ∧
      ((new 10).storeRepair repeatingPacket).Selected 10 repeatingPacket ∧
        MissesOne cluster'.stored repeatingPacket.protects := by
  constructor
  · refine ⟨_, rfl, rfl, ?_⟩
    rintro ⟨cluster', hok, -⟩
    cases hok
  · refine ⟨_, rfl, ⟨.col, 1, ⟨0, by decide, 10, .start, _, rfl, mem_singleton_self 1⟩, rfl⟩, 10,
      mem_cons_self, fun hstored => hstored rfl, fun n hn hne => ?_⟩
    exact absurd (eq_of_protects (by decide) hn) hne

end ReceiveCluster

end Ortp
