import LinphoneSdk.Lib.Containers
import LinphoneSdk.Ortp.FecPackets
import Mathlib.Data.List.Dedup

/-!
# Graph of the FEC packets

`FecPacketsConnection`: the repair packets received and the source packets that they protect. A source node
lists its repair packets, a repair node the source packets that it protects.
-/

namespace Ortp

open List Function

inductive RepairKind where
  | row
  | col
deriving DecidableEq

/-- The exception of `std::map::at`. -/
inductive OutOfRange where
  | outOfRange

def mapAt {β : Type} (m : AList fun _ : UInt16 => β) (k : UInt16) : Except OutOfRange β :=
  match m.lookup k with
  | some v => .ok v
  | none => .error .outOfRange

/-! ### Nodes -/

/-- The repair packets that protect a source packet: `mRowRepairSeqNum` and `mColRepairSeqNum`. -/
structure FecSourceNode where
  mRepairSeqNum : RepairKind → List UInt16

namespace FecSourceNode

def empty : FecSourceNode := ⟨fun _ => []⟩

def addRepair (kind : RepairKind) (seqNum : UInt16) (node : FecSourceNode) : FecSourceNode :=
  ⟨update node.mRepairSeqNum kind ((node.mRepairSeqNum kind).insert seqNum)⟩

def addRowRepair : UInt16 → FecSourceNode → FecSourceNode := addRepair .row

def addColRepair : UInt16 → FecSourceNode → FecSourceNode := addRepair .col

/-- The node that is left, and whether it has no more connections. -/
def removeRepair (kind : RepairKind) (repairSeqNum : UInt16) (node : FecSourceNode) : FecSourceNode × Bool :=
  let node := ⟨update node.mRepairSeqNum kind ((node.mRepairSeqNum kind).filter (· ≠ repairSeqNum))⟩
  (node, (node.mRepairSeqNum .row).isEmpty && (node.mRepairSeqNum .col).isEmpty)

def removeRowRepair : UInt16 → FecSourceNode → FecSourceNode × Bool := removeRepair .row

def removeColRepair : UInt16 → FecSourceNode → FecSourceNode × Bool := removeRepair .col

variable {kind kind' : RepairKind} {r r' : UInt16} {node : FecSourceNode}

lemma mem_addRepair : r' ∈ (node.addRepair kind r).mRepairSeqNum kind' ↔
    r' ∈ node.mRepairSeqNum kind' ∨ kind' = kind ∧ r' = r := by
  by_cases hkind : kind' = kind
  · subst hkind
    simp [addRepair, or_comm]
  · simp [addRepair, hkind]

lemma mem_removeRepair : r' ∈ (node.removeRepair kind r).1.mRepairSeqNum kind' ↔
    r' ∈ node.mRepairSeqNum kind' ∧ ¬ (kind' = kind ∧ r' = r) := by
  by_cases hkind : kind' = kind
  · subst hkind
    simp [removeRepair]
  · simp [removeRepair, hkind]

lemma not_mem_of_isolated (h : (node.removeRepair kind r).2 = true) :
    r' ∉ (node.removeRepair kind r).1.mRepairSeqNum kind' := by
  obtain ⟨hrow, hcol⟩ := Bool.and_eq_true_iff.mp h
  cases kind' with
  | row => exact eq_nil_iff_forall_not_mem.mp (List.isEmpty_iff.mp hrow) r'
  | col => exact eq_nil_iff_forall_not_mem.mp (List.isEmpty_iff.mp hcol) r'

end FecSourceNode

structure FecPacketsConnection where
  mSourceNodes : AList fun _ : UInt16 => FecSourceNode
  /-- The source packets that each repair packet protects: `mRowRepairNodes` and `mColRepairNodes`. -/
  mRepairNodes : RepairKind → AList fun _ : UInt16 => List UInt16

namespace FecPacketsConnection

def empty : FecPacketsConnection := ⟨∅, fun _ => ∅⟩

/-- A source node lists a repair packet. -/
def link (kind : RepairKind) (repairSeqNum : UInt16) (g : FecPacketsConnection) (seqNum : UInt16) :
    FecPacketsConnection :=
  let node := (g.mSourceNodes.lookup seqNum).getD .empty
  { g with mSourceNodes := g.mSourceNodes.insert seqNum (node.addRepair kind repairSeqNum) }

def addRepair (kind : RepairKind) (g : FecPacketsConnection) (repairSeqNum : UInt16)
    (sequenceNumberProtected : List UInt16) : FecPacketsConnection :=
  let nodes := (g.mRepairNodes kind).emplace repairSeqNum sequenceNumberProtected.dedup
  sequenceNumberProtected.foldl (link kind repairSeqNum)
    { g with mRepairNodes := update g.mRepairNodes kind nodes }

def addRowRepair : FecPacketsConnection → UInt16 → List UInt16 → FecPacketsConnection := addRepair .row

def addColRepair : FecPacketsConnection → UInt16 → List UInt16 → FecPacketsConnection := addRepair .col

def unlink (kind : RepairKind) (repairSeqNum : UInt16) (g : FecPacketsConnection) (source : UInt16) :
    Except OutOfRange FecPacketsConnection := do
  let node ← mapAt g.mSourceNodes source
  let (node, isolated) := node.removeRepair kind repairSeqNum
  .ok { g with
    mSourceNodes := if isolated then g.mSourceNodes.erase source else g.mSourceNodes.insert source node }

def cleanRepair (kind : RepairKind) (g : FecPacketsConnection) (seqNum : UInt16) :
    Except OutOfRange FecPacketsConnection :=
  match (g.mRepairNodes kind).lookup seqNum with
  | none => .ok g
  | some sources => do
    let g ← sources.foldlM (unlink kind seqNum) g
    .ok { g with mRepairNodes := update g.mRepairNodes kind ((g.mRepairNodes kind).erase seqNum) }

def cleanRowRepair : FecPacketsConnection → UInt16 → Except OutOfRange FecPacketsConnection := cleanRepair .row

def cleanColRepair : FecPacketsConnection → UInt16 → Except OutOfRange FecPacketsConnection := cleanRepair .col

def newRepairs (g : FecPacketsConnection) (found : RepairKind → List UInt16) (sources : List UInt16)
    (kind : RepairKind) : List UInt16 :=
  sources.flatMap fun source => match g.mSourceNodes.lookup source with
    | some node => (node.mRepairSeqNum kind).filter (· ∉ found kind)
    | none => []

/-- The source packets that some repair packets protect, among those that are not explored. -/
def newSources (g : FecPacketsConnection) (explored : List UInt16) (kind : RepairKind) (repairs : List UInt16) :
    Except OutOfRange (List UInt16) := do
  let sources ← repairs.mapM (mapAt (g.mRepairNodes kind))
  .ok (sources.flatten.filter fun source => source ∉ explored ∧ source ∈ g.mSourceNodes)

/-- The loop of `getRepairPacketsToRecoverSource`. -/
def exploreRepairs (g : FecPacketsConnection) : ℕ → (RepairKind → List UInt16) → List UInt16 → List UInt16 →
    Except OutOfRange (RepairKind → List UInt16)
  | 0, found, _, _ => .ok found
  | n + 1, found, explored, added => do
    let repairs := g.newRepairs found added
    let explored := added ++ explored
    let rowSources ← g.newSources explored .row (repairs .row)
    let colSources ← g.newSources explored .col (repairs .col)
    let found := fun kind => repairs kind ++ found kind
    if rowSources ++ colSources = [] then .ok found
    else exploreRepairs g n found explored (rowSources ++ colSources)

/-- The row and column repair packets from which a source packet may be recovered. -/
def getRepairPacketsToRecoverSource (g : FecPacketsConnection) (seqNum : UInt16) :
    Except OutOfRange (RepairKind → List UInt16) :=
  if seqNum ∈ g.mSourceNodes then g.exploreRepairs 10 (fun _ => []) [] [seqNum] else .ok fun _ => []

/-! ### Links -/

def Lists (g : FecPacketsConnection) (kind : RepairKind) (seqNum repairSeqNum : UInt16) : Prop :=
  ∃ node, g.mSourceNodes.lookup seqNum = some node ∧ repairSeqNum ∈ node.mRepairSeqNum kind

def Protects (g : FecPacketsConnection) (kind : RepairKind) (repairSeqNum seqNum : UInt16) : Prop :=
  ∃ sources, (g.mRepairNodes kind).lookup repairSeqNum = some sources ∧ seqNum ∈ sources

variable {g : FecPacketsConnection} {kind kind' : RepairKind} {r r' s s' : UInt16}

lemma lists_link : (link kind r g s).Lists kind' s' r' ↔ g.Lists kind' s' r' ∨ kind' = kind ∧ s' = s ∧ r' = r := by
  by_cases hs : s' = s
  · subst hs
    simp only [Lists, link, AList.lookup_insert, Option.some_inj, exists_eq_left', true_and,
      FecSourceNode.mem_addRepair]
    cases g.mSourceNodes.lookup s' with
    | none => simp [FecSourceNode.empty]
    | some node => simp
  · simp only [Lists, link, AList.lookup_insert_ne hs, hs, false_and, and_false, or_false]

variable {sources : List UInt16}

lemma lists_links : (sources.foldl (link kind r) g).Lists kind' s' r' ↔
    g.Lists kind' s' r' ∨ kind' = kind ∧ s' ∈ sources ∧ r' = r := by
  induction sources generalizing g with
  | nil => simp
  | cons source sources ih =>
    rw [foldl_cons, ih, lists_link, mem_cons, or_assoc, or_and_right, and_or_left]

lemma mRepairNodes_links (sources : List UInt16) : (sources.foldl (link kind r) g).mRepairNodes = g.mRepairNodes := by
  induction sources generalizing g with
  | nil => rfl
  | cons source sources ih => exact ih

/-- A link that is there is removed, and no other. -/
lemma exists_unlink (h : g.Lists kind s r) : ∃ g', unlink kind r g s = .ok g' ∧
    g'.mRepairNodes = g.mRepairNodes ∧ ∀ kind' s' r', g'.Lists kind' s' r' ↔
      g.Lists kind' s' r' ∧ ¬ (kind' = kind ∧ s' = s ∧ r' = r) := by
  obtain ⟨node, hnode, hr⟩ := h
  let node' := node.removeRepair kind r
  refine ⟨{ g with
    mSourceNodes := if node'.2 then g.mSourceNodes.erase s else g.mSourceNodes.insert s node'.1 },
    ?_, rfl, fun kind' s' r' => ?_⟩
  · rw [unlink, mapAt, hnode]
    rfl
  · by_cases hs : s' = s
    · subst hs
      simp only [Lists, hnode, Option.some_inj, exists_eq_left', true_and]
      rw [← FecSourceNode.mem_removeRepair]
      split_ifs with hisolated
      · rw [AList.lookup_erase]
        simp [FecSourceNode.not_mem_of_isolated hisolated]
      · rw [AList.lookup_insert]
        simp [node']
    · simp only [Lists, hs, false_and, and_false, not_false_eq_true, and_true]
      split_ifs
      · rw [AList.lookup_erase_ne hs]
      · rw [AList.lookup_insert_ne hs]

lemma exists_unlinks (hnodup : sources.Nodup) (h : ∀ source ∈ sources, g.Lists kind source r) :
    ∃ g', sources.foldlM (unlink kind r) g = .ok g' ∧ g'.mRepairNodes = g.mRepairNodes ∧
      ∀ kind' s' r', g'.Lists kind' s' r' ↔ g.Lists kind' s' r' ∧ ¬ (kind' = kind ∧ s' ∈ sources ∧ r' = r) := by
  induction sources generalizing g with
  | nil => exact ⟨g, rfl, rfl, by simp⟩
  | cons source sources ih =>
    obtain ⟨hsource, hsources⟩ := nodup_cons.mp hnodup
    obtain ⟨g₁, hg₁, hnodes₁, hlists₁⟩ := exists_unlink (h source mem_cons_self)
    have hrest (source' : UInt16) (hs : source' ∈ sources) : g₁.Lists kind source' r := by
      refine (hlists₁ kind source' r).mpr ⟨h source' (mem_cons_of_mem _ hs), ?_⟩
      rintro ⟨-, rfl, -⟩
      exact hsource hs
    obtain ⟨g₂, hg₂, hnodes₂, hlists₂⟩ := ih hsources hrest
    refine ⟨g₂, ?_, hnodes₂.trans hnodes₁, fun kind' s' r' => ?_⟩
    · rw [foldlM_cons, hg₁]
      exact hg₂
    · rw [hlists₂, hlists₁, mem_cons, and_assoc, ← not_or]
      refine and_congr_right fun _ => not_congr ?_
      rw [or_and_right, and_or_left]

/-! ### Consistent graphs -/

structure Consistent (g : FecPacketsConnection) : Prop where
  lists_iff : ∀ kind s r, g.Lists kind s r ↔ g.Protects kind r s
  nodup : ∀ kind r sources, (g.mRepairNodes kind).lookup r = some sources → sources.Nodup

lemma Consistent.empty : Consistent empty :=
  ⟨by simp [Lists, Protects, FecPacketsConnection.empty], by simp [FecPacketsConnection.empty]⟩

lemma mRepairNodes_addRepair (sources : List UInt16) : (addRepair kind g r sources).mRepairNodes =
    update g.mRepairNodes kind ((g.mRepairNodes kind).emplace r sources.dedup) :=
  mRepairNodes_links sources

/-- A repair packet may be added again if it protects no other source packet. -/
lemma Consistent.addRepair (h : Consistent g)
    (hsources : ∀ sources', (g.mRepairNodes kind).lookup r = some sources' → sources ⊆ sources') :
    Consistent (addRepair kind g r sources) := by
  have hnodes := @mRepairNodes_addRepair g kind r sources
  constructor
  · intro kind' s' r'
    have hlists : (FecPacketsConnection.addRepair kind g r sources).Lists kind' s' r' ↔
        g.Lists kind' s' r' ∨ kind' = kind ∧ s' ∈ sources ∧ r' = r := lists_links
    rw [hlists, h.lists_iff, Protects, Protects, hnodes]
    by_cases hkind : kind' = kind
    · subst hkind
      rw [update_self]
      by_cases hr : r' = r
      · subst hr
        rw [AList.lookup_emplace]
        cases hlookup : (g.mRepairNodes kind').lookup r' with
        | none => simp
        | some sources' =>
          simp only [Option.some_inj, exists_eq_left', Option.getD_some, true_and, and_true]
          exact or_iff_left_of_imp fun hs => hsources sources' hlookup hs
      · simp only [AList.lookup_emplace_ne hr, hr, and_false, or_false]
    · simp only [update_of_ne hkind, hkind, false_and, or_false]
  · intro kind' r' sources' hlookup
    rw [hnodes] at hlookup
    by_cases hkind : kind' = kind
    · subst hkind
      rw [update_self] at hlookup
      by_cases hr : r' = r
      · subst hr
        rw [AList.lookup_emplace, Option.some_inj] at hlookup
        cases hlookup' : (g.mRepairNodes kind').lookup r' with
        | none =>
          rw [hlookup', Option.getD_none] at hlookup
          exact hlookup ▸ nodup_dedup sources
        | some sources'' =>
          rw [hlookup', Option.getD_some] at hlookup
          exact h.nodup kind' r' sources' (hlookup ▸ hlookup')
      · rw [AList.lookup_emplace_ne hr] at hlookup
        exact h.nodup kind' r' sources' hlookup
    · rw [update_of_ne hkind] at hlookup
      exact h.nodup kind' r' sources' hlookup

/-- A repair packet is removed, and no other. -/
lemma Consistent.exists_cleanRepair (h : Consistent g) (kind : RepairKind) (r : UInt16) :
    ∃ g', cleanRepair kind g r = .ok g' ∧ Consistent g' ∧ ∀ kind' r', (g'.mRepairNodes kind').lookup r' =
        if kind' = kind ∧ r' = r then none else (g.mRepairNodes kind').lookup r' := by
  cases hlookup : (g.mRepairNodes kind).lookup r with
  | none =>
    refine ⟨g, by rw [cleanRepair, hlookup], h, fun kind' r' => ?_⟩
    split_ifs with heq
    · obtain ⟨rfl, rfl⟩ := heq
      exact hlookup
    · rfl
  | some sources =>
    have hlisted (source : UInt16) (hs : source ∈ sources) : g.Lists kind source r :=
      (h.lists_iff kind source r).mpr ⟨sources, hlookup, hs⟩
    obtain ⟨g₁, hg₁, hnodes₁, hlists₁⟩ := exists_unlinks (h.nodup kind r sources hlookup) hlisted
    have hlookups (kind' : RepairKind) (r' : UInt16) :
        (update g₁.mRepairNodes kind ((g₁.mRepairNodes kind).erase r) kind').lookup r' =
          if kind' = kind ∧ r' = r then none else (g.mRepairNodes kind').lookup r' := by
      rw [hnodes₁]
      by_cases hkind : kind' = kind
      · subst hkind
        rw [update_self]
        by_cases hr : r' = r
        · subst hr
          rw [AList.lookup_erase, if_pos ⟨rfl, rfl⟩]
        · rw [AList.lookup_erase_ne hr, if_neg fun heq => hr heq.2]
      · rw [update_of_ne hkind, if_neg fun heq => hkind heq.1]
    refine ⟨_, by rw [cleanRepair, hlookup]; simp only [hg₁]; rfl, ⟨fun kind' s' r' => ?_, ?_⟩, hlookups⟩
    · rw [Protects, hlookups]
      refine (hlists₁ kind' s' r').trans ?_
      split_ifs with heq
      · obtain ⟨rfl, rfl⟩ := heq
        rw [h.lists_iff]
        simp only [Protects, hlookup, Option.some_inj, exists_eq_left', true_and, and_true]
        simp
      · rw [h.lists_iff]
        exact and_iff_left fun hlinked => heq ⟨hlinked.1, hlinked.2.2⟩
    · intro kind' r' sources' hsources'
      rw [hlookups] at hsources'
      split_ifs at hsources'
      exact h.nodup kind' r' sources' hsources'

/-! ### Repair packets to recover a source packet -/

lemma Consistent.exists_mapAt (h : Consistent g) (hr : g.Lists kind s r) :
    ∃ sources, mapAt (g.mRepairNodes kind) r = .ok sources := by
  obtain ⟨sources, hsources, -⟩ := (h.lists_iff kind s r).mp hr
  exact ⟨sources, by rw [mapAt, hsources]⟩

lemma lists_of_newRepairs {found : RepairKind → List UInt16} (hr : r ∈ g.newRepairs found sources kind) :
    ∃ source, g.Lists kind source r := by
  obtain ⟨source, -, hsource⟩ := mem_flatMap.mp hr
  cases hlookup : g.mSourceNodes.lookup source with
  | none => simp [hlookup] at hsource
  | some node =>
    simp only [hlookup, mem_filter] at hsource
    exact ⟨source, node, hlookup, hsource.1⟩

lemma Consistent.exists_newSources (h : Consistent g) (explored : List UInt16) {repairs : List UInt16}
    (hrepairs : ∀ repair ∈ repairs, ∃ source, g.Lists kind source repair) :
    ∃ sources, g.newSources explored kind repairs = .ok sources := by
  have hmapM : ∃ sources, repairs.mapM (mapAt (g.mRepairNodes kind)) = .ok sources := by
    induction repairs with
    | nil => exact ⟨[], rfl⟩
    | cons repair repairs ih =>
      obtain ⟨source, hsource⟩ := hrepairs repair mem_cons_self
      obtain ⟨sources, hsources⟩ := h.exists_mapAt hsource
      obtain ⟨sources', hsources'⟩ := ih fun repair' hr => hrepairs repair' (mem_cons_of_mem _ hr)
      refine ⟨sources :: sources', ?_⟩
      rw [mapM_cons, hsources, hsources']
      rfl
  obtain ⟨sources, hsources⟩ := hmapM
  exact ⟨_, by rw [newSources, hsources]; rfl⟩

lemma Consistent.exists_exploreRepairs (h : Consistent g) (n : ℕ) (found : RepairKind → List UInt16)
    (explored added : List UInt16) : ∃ found', g.exploreRepairs n found explored added = .ok found' := by
  induction n generalizing found explored added with
  | zero => exact ⟨found, rfl⟩
  | succ n ih =>
    have hrepairs (kind : RepairKind) (repair : UInt16) (hr : repair ∈ g.newRepairs found added kind) :
        ∃ source, g.Lists kind source repair := lists_of_newRepairs hr
    obtain ⟨rowSources, hrow⟩ := h.exists_newSources (added ++ explored) (hrepairs .row)
    obtain ⟨colSources, hcol⟩ := h.exists_newSources (added ++ explored) (hrepairs .col)
    rw [exploreRepairs, hrow]
    dsimp only [Bind.bind, Except.bind]
    rw [hcol]
    dsimp only
    by_cases hsources : rowSources ++ colSources = []
    · exact ⟨_, if_pos hsources⟩
    · obtain ⟨found', hfound'⟩ := ih _ _ (rowSources ++ colSources)
      exact ⟨found', (if_neg hsources).trans hfound'⟩

lemma Consistent.exists_getRepairPackets (h : Consistent g) (seqNum : UInt16) :
    ∃ found, g.getRepairPacketsToRecoverSource seqNum = .ok found := by
  rw [getRepairPacketsToRecoverSource]
  split_ifs
  · exact h.exists_exploreRepairs 10 _ _ _
  · exact ⟨_, rfl⟩

end FecPacketsConnection

end Ortp
