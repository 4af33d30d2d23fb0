import LinphoneSdk.Lib.OrderedMap
import Mathlib.Algebra.Group.Nat.Defs
import Mathlib.Algebra.Ring.Int.Defs
import Mathlib.Data.List.Dedup
import Mathlib.Data.List.Sort

/-!
# Indexes of the potential configuration graph

The graph of the capabilities of a session (RFC 5939): attribute and transport capabilities, of the
session and of each stream, and the configurations of each stream. Each kind has its own indexes, and
`getFreeIdx` finds one that is not used. It looks for the first gap in a sorted copy of the indexes, but
takes the index before the gap from the list as it was given.
-/

namespace Sal

open TimeIndex List Option UInt32

/-! ### Free indexes -/

namespace PotentialCfgGraph

/-- `std::minus<int>` on two indexes, `none` where the difference overflows. -/
def minus (x y : UInt32) : Option ℤ :=
  let d := x.toInt32.toInt - y.toInt32.toInt
  if -2 ^ 31 ≤ d ∧ d < 2 ^ 31 then some d else none

/-- The indexes sorted, without duplicates. -/
def sorted (l : List UInt32) : List UInt32 := l.dedup.insertionSort (· ≤ ·)

/-- The indexes with the one that follows. -/
def consecutive (s : List UInt32) : List (UInt32 × UInt32) := s.zip s.tail

def getFreeIdx (l : List UInt32) : Option UInt32 :=
  if l = [] then some 1
  else do
    let lCopy := sorted l
    let lResult ← (consecutive lCopy).mapM fun p => minus p.2 p.1
    match lResult.findIdx? (· ≠ 1) with
    | none =>
      -- the ends of the sorted copy are the least and the greatest of the list
      let listMinEl := lCopy.headD 0
      if 1 < listMinEl then some (listMinEl - 1) else some (lCopy.getLastD 0 + 1)
    | some elIdx => l[elIdx]?.map (· + 1)

/-- Two indexes on both sides of `2 ^ 31` that are less than `2 ^ 31` apart. -/
def Straddles (p : UInt32 × UInt32) : Prop :=
  p.1.toNat < 2 ^ 31 ∧ 2 ^ 31 ≤ p.2.toNat ∧ p.2.toNat - p.1.toNat < 2 ^ 31

/-- The place of the first gap in sorted indexes. -/
def firstGap (s : List UInt32) : Option ℕ := (consecutive s).findIdx? fun p => p.2 ≠ p.1 + 1

/-- The indexes for which a free one is found: no difference overflows, and the element that the given
list has at the place of the first gap of the sorted one is followed by no other. -/
structure FindsFree (l : List UInt32) : Prop where
  not_straddles : ∀ p ∈ consecutive (sorted l), ¬ Straddles p
  gap : ∀ n ∈ firstGap (sorted l), ∀ el ∈ l[n]?, el + 1 ≠ 0 ∧ el + 1 ∉ l

variable {l s : List UInt32} {p : UInt32 × UInt32} {a : UInt32}

lemma mem_sorted : a ∈ sorted l ↔ a ∈ l := by
  rw [sorted, mem_insertionSort, mem_dedup]

lemma sorted_pairwise (l : List UInt32) : (sorted l).Pairwise (· < ·) := by
  have hnodup : (sorted l).Nodup :=
    (perm_insertionSort (· ≤ ·) l.dedup).nodup_iff.mpr (nodup_dedup l)
  exact ((pairwise_insertionSort (· ≤ ·) l.dedup).and hnodup).imp fun h => lt_of_le_of_ne h.1 h.2

lemma length_sorted_le (l : List UInt32) : (sorted l).length ≤ l.length := by
  rw [sorted, length_insertionSort]
  exact (dedup_sublist l).length_le

lemma lt_of_mem_consecutive (hs : s.Pairwise (· < ·)) (hp : p ∈ consecutive s) : p.1.toNat < p.2.toNat := by
  induction s with
  | nil => cases hp
  | cons a s ih =>
    obtain ⟨ha, hs⟩ := pairwise_cons.mp hs
    cases s with
    | nil => cases hp
    | cons b s =>
      rcases mem_cons.mp hp with rfl | hp
      · exact lt_iff_toNat_lt.mp (ha b mem_cons_self)
      · exact ih hs hp

lemma toInt_toInt32 (x : UInt32) :
    x.toInt32.toInt = if 2 * x.toNat < 2 ^ 32 then (x.toNat : ℤ) else x.toNat - 2 ^ 32 :=
  BitVec.toInt_eq_toNat_cond x.toBitVec

/-- The difference of two indexes in order. -/
lemma minus_eq (h : p.1.toNat < p.2.toNat) :
    (minus p.2 p.1 = none ↔ Straddles p) ∧ ∀ d, minus p.2 p.1 = some d → (d = 1 ↔ p.2 = p.1 + 1) := by
  have hlt := p.2.toNat_lt
  have hsucc : p.2 = p.1 + 1 ↔ p.2.toNat = p.1.toNat + 1 := by
    rw [← UInt32.toNat_inj, UInt32.toNat_add, toNat_one]
    omega
  rw [hsucc, minus, toInt_toInt32, toInt_toInt32, Straddles]
  constructor
  · split_ifs <;> simp <;> omega
  · intro d
    split_ifs <;> simp <;> omega

/-- The differences of indexes in order are 1 up to the first gap. -/
lemma mapM_minus {ps : List (UInt32 × UInt32)} (hps : ∀ p ∈ ps, p.1.toNat < p.2.toNat)
    (h : ∀ p ∈ ps, ¬ Straddles p) : ∃ lResult, (ps.mapM fun p => minus p.2 p.1) = some lResult ∧
      lResult.findIdx? (· ≠ 1) = ps.findIdx? fun p => p.2 ≠ p.1 + 1 := by
  induction ps with
  | nil => exact ⟨[], rfl, rfl⟩
  | cons p ps ih =>
    rw [forall_mem_cons] at hps h
    obtain ⟨lResult, hmap, hfind⟩ := ih hps.2 h.2
    obtain ⟨d, hd⟩ := ne_none_iff_exists'.mp (mt (minus_eq hps.1).1.mp h.1)
    have hone := (minus_eq hps.1).2 d hd
    refine ⟨d :: lResult, by simp [hd, hmap], ?_⟩
    rw [findIdx?_cons, findIdx?_cons, hfind]
    simp only [ne_eq, hone]

lemma not_straddles_of_mapM {ps : List (UInt32 × UInt32)} {lResult : List ℤ} (hps : ∀ p ∈ ps, p.1.toNat < p.2.toNat)
    (h : (ps.mapM fun p => minus p.2 p.1) = some lResult) : ∀ p ∈ ps, ¬ Straddles p := by
  induction ps generalizing lResult with
  | nil => simp
  | cons p ps ih =>
    rw [forall_mem_cons] at hps ⊢
    rw [mapM_cons] at h
    obtain ⟨d, hd, h⟩ := bind_eq_some_iff.mp h
    obtain ⟨lResult', h, -⟩ := bind_eq_some_iff.mp h
    exact ⟨fun hstraddles => by simp [(minus_eq hps.1).1.mpr hstraddles] at hd, ih hps.2 h⟩

/-- Consecutive indexes stay below `2 ^ 31` when the first one is. -/
lemma lt_of_consecutive (h : ∀ p ∈ consecutive (a :: s), p.2 = p.1 + 1 ∧ ¬ Straddles p)
    (ha : a.toNat < 2 ^ 31) : ∀ b ∈ a :: s, b.toNat < 2 ^ 31 := by
  induction s generalizing a with
  | nil => simpa using ha
  | cons b s ih =>
    obtain ⟨hb, hnot⟩ := h (a, b) mem_cons_self
    have hb : b.toNat < 2 ^ 31 := by
      have hsucc := congrArg UInt32.toNat hb
      simp only [Straddles, UInt32.toNat_add, toNat_one] at hnot hsucc
      omega
    exact forall_mem_cons.mpr ⟨ha, ih (fun p hp => h p (mem_cons_of_mem _ hp)) hb⟩

/-- An index below or above all the others is free when there is no gap. -/
lemma free_of_no_gap (hs : (a :: s).Pairwise (· < ·)) (h : ∀ p ∈ consecutive (a :: s), p.2 = p.1 + 1 ∧ ¬ Straddles p) :
    (1 < a → a - 1 ≠ 0 ∧ a - 1 ∉ a :: s) ∧
      (¬ 1 < a → (a :: s).getLastD 0 + 1 ≠ 0 ∧ (a :: s).getLastD 0 + 1 ∉ a :: s) := by
  constructor
  · intro ha
    rw [lt_iff_toNat_lt, toNat_one] at ha
    have hpred : (a - 1).toNat = a.toNat - 1 :=
      UInt32.toNat_sub_of_le a 1 (by rw [le_iff_toNat_le, toNat_one]; omega)
    refine ⟨fun hzero => ?_, fun hmem => ?_⟩
    · rw [hzero, UInt32.toNat_zero] at hpred
      omega
    · rcases mem_cons.mp hmem with heq | hmem
      · have := congrArg UInt32.toNat heq
        omega
      · have := lt_iff_toNat_lt.mp (rel_of_pairwise_cons hs hmem)
        omega
  · intro ha
    rw [lt_iff_toNat_lt, toNat_one] at ha
    have hbound := lt_of_consecutive h (by omega)
    rw [getLastD_eq_getLast?, getLast?_eq_getLast_of_ne_nil (cons_ne_nil a s), getD_some]
    have hlast := hbound _ (getLast_mem (cons_ne_nil a s))
    have hsucc : ((a :: s).getLast (cons_ne_nil a s) + 1).toNat = ((a :: s).getLast (cons_ne_nil a s)).toNat + 1 := by
      rw [UInt32.toNat_add, toNat_one]
      omega
    refine ⟨fun hzero => ?_, fun hmem => ?_⟩
    · rw [hzero, UInt32.toNat_zero] at hsucc
      omega
    · have hle := le_iff_toNat_le.mp ((hs.imp fun h => le_of_lt h).rel_getLast hmem)
      omega

/-- The computation of `getFreeIdx`, when no difference overflows. -/
lemma getFreeIdx_eq (hl : sorted l = a :: s) (h : ∀ p ∈ consecutive (sorted l), ¬ Straddles p) :
    (firstGap (sorted l) = none → getFreeIdx l = if 1 < a then some (a - 1) else some ((a :: s).getLastD 0 + 1)) ∧
    ∀ n, firstGap (sorted l) = some n → getFreeIdx l = l[n]?.map (· + 1) := by
  have hne : l ≠ [] := by
    rintro rfl
    cases hl
  obtain ⟨lResult, hmap, hfind⟩ := mapM_minus
    (fun p => lt_of_mem_consecutive (sorted_pairwise l)) h
  rw [← firstGap] at hfind
  rw [getFreeIdx, if_neg hne]
  constructor
  · intro hgap
    rw [hl] at hmap hfind hgap
    simp only [hl, hmap, bind_eq_bind, bind_some, hfind, hgap, headD_cons]
  · intro n hgap
    simp only [hmap, bind_eq_bind, bind_some, hfind, hgap]

/-- Exactly when the index returned is a new one. -/
lemma exists_free_iff (l : List UInt32) : (∃ i, getFreeIdx l = some i ∧ i ≠ 0 ∧ i ∉ l) ↔ FindsFree l := by
  cases hsorted : sorted l with
  | nil =>
    obtain rfl : l = [] := eq_nil_iff_forall_not_mem.mpr fun a ha => by
      simpa [hsorted] using mem_sorted.mpr ha
    exact iff_of_true ⟨1, rfl, by decide, not_mem_nil⟩ ⟨nofun, nofun⟩
  | cons a s =>
    have hne : l ≠ [] := by
      rintro rfl
      cases hsorted
    constructor
    · rintro ⟨i, hi, hzero, hmem⟩
      have hnot : ∀ p ∈ consecutive (sorted l), ¬ Straddles p := by
        rw [getFreeIdx, if_neg hne] at hi
        obtain ⟨lResult, hmap, -⟩ := bind_eq_some_iff.mp hi
        exact not_straddles_of_mapM (fun p => lt_of_mem_consecutive (sorted_pairwise l)) hmap
      refine ⟨hnot, fun n hn el hel => ?_⟩
      rw [(getFreeIdx_eq hsorted hnot).2 n hn, hel] at hi
      obtain rfl := some.inj hi
      exact ⟨hzero, hmem⟩
    · rintro ⟨hnot, hgap⟩
      cases hfirst : firstGap (sorted l) with
      | none =>
        have hfree := free_of_no_gap (hsorted ▸ sorted_pairwise l) fun p hp => by
          rw [← hsorted] at hp
          exact ⟨by simpa using findIdx?_eq_none_iff.mp hfirst p hp, hnot p hp⟩
        simp only [← hsorted, mem_sorted] at hfree
        rw [(getFreeIdx_eq hsorted hnot).1 hfirst]
        split_ifs with ha
        · exact ⟨_, rfl, hfree.1 ha⟩
        · exact ⟨_, rfl, hsorted ▸ hfree.2 ha⟩
      | some n =>
        have hn : n < l.length := by
          obtain ⟨hlt, -⟩ := findIdx?_eq_some_iff_getElem.mp hfirst
          have hle := length_sorted_le l
          rw [consecutive, length_zip] at hlt
          omega
        have hel := getElem?_eq_getElem hn
        rw [(getFreeIdx_eq hsorted hnot).2 n hfirst, hel]
        exact ⟨_, rfl, hgap n hfirst _ hel⟩

end PotentialCfgGraph

/-! ### The graph -/

structure Capability where
  index : UInt32
  value : String
  deriving DecidableEq, Repr

structure ACapability extends Capability where
  name : String
  deriving DecidableEq, Repr

structure ConfigCapability (C : Type) where
  cap : C
  mandatory : Bool

structure ConfigAttribute where
  acap : List (List (ConfigCapability ACapability))
  tcap : List (ConfigCapability Capability)
  delete_media_attributes : Bool
  delete_session_attributes : Bool

structure PotentialCfgGraph where
  globalAcap : List ACapability
  globalTcap : List Capability
  cfgs : OrderedMap UInt32 (OrderedMap UInt32 ConfigAttribute)
  acap : OrderedMap UInt32 (List ACapability)
  tcap : OrderedMap UInt32 (List Capability)

namespace PotentialCfgGraph

section capabilities

variable {C : Type} (index : C → UInt32) (global : List C) (streams : OrderedMap UInt32 (List C))

/-- The indexes of a kind of capabilities, the ones of the session first. -/
def indexes : List UInt32 := global.map index ++ streams.entries.flatMap fun e => e.2.map index

def canFindWithIdx (idx : UInt32) : Bool :=
  global.any (index · = idx) || streams.entries.any fun e => e.2.any (index · = idx)

/-- The capability goes to the end of the list of its stream. -/
def pushBack (streamIdx : UInt32) (c : C) : OrderedMap UInt32 (List C) :=
  (streams.emplace streamIdx []).modify streamIdx (· ++ [c])

/-- The capabilities of the indexes, up to the first one that is not found. -/
def createList (caps : List C) : List (UInt32 × Bool) → List (ConfigCapability C)
  | [] => []
  | (idx, mandatory) :: idxs =>
    match caps.find? (index · = idx) with
    | none => []
    | some cap => ⟨cap, mandatory⟩ :: createList caps idxs

variable {index global streams} {idx streamIdx : UInt32} {c : C}

lemma canFindWithIdx_iff : canFindWithIdx index global streams idx ↔ idx ∈ indexes index global streams := by
  simp [canFindWithIdx, indexes]

lemma indexes_append : (indexes index (global ++ [c]) streams).Perm (index c :: indexes index global streams) := by
  rw [indexes, indexes, map_append, append_assoc]
  exact perm_middle

lemma flatMap_place {entries : List (UInt32 × List C)} (h : entries.Pairwise (·.1 < ·.1)) :
    (((OrderedMap.place streamIdx [] entries).map
        fun e => (e.1, if e.1 = streamIdx then e.2 ++ [c] else e.2)).flatMap
      fun e => e.2.map index).Perm (index c :: entries.flatMap fun e => e.2.map index) := by
  have hsame {l : List (UInt32 × List C)} (hl : ∀ e ∈ l, streamIdx < e.1) :
      l.map (fun e => (e.1, if e.1 = streamIdx then e.2 ++ [c] else e.2)) = l :=
    (map_congr_left fun e he => by rw [if_neg (ne_of_gt (hl e he)), id]).trans (map_id l)
  induction entries with
  | nil => simp [OrderedMap.place]
  | cons e entries ih =>
    obtain ⟨he, hentries⟩ := pairwise_cons.mp h
    rw [OrderedMap.place]
    split_ifs with hlt heq
    · have hall : ∀ e' ∈ e :: entries, streamIdx < e'.1 :=
        forall_mem_cons.mpr ⟨hlt, fun e' he' => hlt.trans (he e' he')⟩
      rw [map_cons, hsame hall]
      simp
    · rw [map_cons, hsame (fun e' he' => heq ▸ he e' he')]
      simp [heq]
    · rw [map_cons, flatMap_cons, flatMap_cons, if_neg (Ne.symm heq)]
      exact ((ih hentries).append_left _).trans perm_middle

lemma indexes_pushBack : (indexes index global (pushBack streams streamIdx c)).Perm
    (index c :: indexes index global streams) := by
  rw [indexes, indexes]
  exact ((flatMap_place streams.sorted).append_left _).trans perm_middle

end capabilities

variable (g : PotentialCfgGraph)

def acapIndexes : List UInt32 := indexes (·.index) g.globalAcap g.acap

def tcapIndexes : List UInt32 := indexes (·.index) g.globalTcap g.tcap

def getFreeAcapIdx : Option UInt32 := getFreeIdx g.acapIndexes

def getFreeTcapIdx : Option UInt32 := getFreeIdx g.tcapIndexes

variable (streamIdx : UInt32)

def getCfgForStream : OrderedMap UInt32 ConfigAttribute :=
  (g.cfgs.find streamIdx).getD .empty

def cfgIndexes : List UInt32 := (g.getCfgForStream streamIdx).entries.map Prod.fst

def getFreeCfgIdx : Option UInt32 := getFreeIdx (g.cfgIndexes streamIdx)

def canFindAcapWithIdx (idx : UInt32) : Bool := canFindWithIdx (·.index) g.globalAcap g.acap idx

def canFindTcapWithIdx (idx : UInt32) : Bool := canFindWithIdx (·.index) g.globalTcap g.tcap idx

def getAllAcapForStream : List ACapability :=
  (g.acap.find streamIdx).getD [] ++ g.globalAcap

def getAllTcapForStream : List Capability :=
  (g.tcap.find streamIdx).getD [] ++ g.globalTcap

def addGlobalAcap (idx : UInt32) (name value : String) : PotentialCfgGraph × Bool :=
  if g.canFindAcapWithIdx idx then (g, false)
  else ({ g with globalAcap := g.globalAcap ++ [{ index := idx, value, name }] }, true)

def addGlobalTcap (idx : UInt32) (value : String) : PotentialCfgGraph × Bool :=
  if g.canFindTcapWithIdx idx then (g, false)
  else ({ g with globalTcap := g.globalTcap ++ [{ index := idx, value }] }, true)

def addAcapToStream (streamIdx capIdx : UInt32) (capName capValue : String) : PotentialCfgGraph × Bool :=
  if g.canFindAcapWithIdx capIdx then (g, false)
  else
    ({ g with acap := pushBack g.acap streamIdx { index := capIdx, value := capValue, name := capName } }, true)

def addTcapToStream (streamIdx capIdx : UInt32) (capValue : String) : PotentialCfgGraph × Bool :=
  if g.canFindTcapWithIdx capIdx then (g, false)
  else ({ g with tcap := pushBack g.tcap streamIdx { index := capIdx, value := capValue } }, true)

def createCfgAttr (acapIdxs : List (OrderedMap UInt32 Bool)) (tcapIdx : List UInt32)
    (delete_media_attributes delete_session_attributes : Bool) : ConfigAttribute where
  acap := acapIdxs.map fun acapIdx =>
    createList (·.index) (g.getAllAcapForStream streamIdx) acapIdx.entries
  tcap := createList (·.index) (g.getAllTcapForStream streamIdx) (tcapIdx.map fun idx => (idx, false))
  delete_media_attributes
  delete_session_attributes

def addCfg (streamIdx cfgIdx : UInt32) (acapIdxs : List (OrderedMap UInt32 Bool)) (tcapIdx : List UInt32)
    (delete_media_attributes delete_session_attributes : Bool) : PotentialCfgGraph :=
  let cfg := (g.getCfgForStream streamIdx).assign cfgIdx
    (g.createCfgAttr streamIdx acapIdxs tcapIdx delete_media_attributes delete_session_attributes)
  { g with cfgs := g.cfgs.assign streamIdx cfg }

/-! ### Additions with a free index -/

inductive Addition where
  | globalAcap (name value : String)
  | globalTcap (value : String)
  | acapToStream (streamIdx : UInt32) (name value : String)
  | tcapToStream (streamIdx : UInt32) (value : String)
  | cfg (streamIdx : UInt32) (acapIdxs : List (OrderedMap UInt32 Bool)) (tcapIdx : List UInt32)
      (delete_media_attributes delete_session_attributes : Bool)

/-- The indexes among which an addition needs a new one. -/
def Addition.indexes : Addition → List UInt32
  | .globalAcap .. | .acapToStream .. => g.acapIndexes
  | .globalTcap .. | .tcapToStream .. => g.tcapIndexes
  | .cfg streamIdx .. => g.cfgIndexes streamIdx

def Addition.add (idx : UInt32) : Addition → PotentialCfgGraph × Bool
  | .globalAcap name value => g.addGlobalAcap idx name value
  | .globalTcap value => g.addGlobalTcap idx value
  | .acapToStream streamIdx name value => g.addAcapToStream streamIdx idx name value
  | .tcapToStream streamIdx value => g.addTcapToStream streamIdx idx value
  | .cfg streamIdx acapIdxs tcapIdx media session =>
    (g.addCfg streamIdx idx acapIdxs tcapIdx media session, true)

def Addition.apply (a : Addition) : Option (PotentialCfgGraph × Bool) :=
  (getFreeIdx (a.indexes g)).map fun idx => a.add g idx

/-- The capabilities of a kind have different indexes. -/
structure Unique : Prop where
  acap : g.acapIndexes.Nodup
  tcap : g.tcapIndexes.Nodup

/-- No configuration of a graph is lost or changed in another. -/
def KeepsCfgs (g' : PotentialCfgGraph) : Prop :=
  ∀ streamIdx cfgIdx attr, (g.getCfgForStream streamIdx).find cfgIdx = some attr →
    (g'.getCfgForStream streamIdx).find cfgIdx = some attr

/-- Additions one after the other, each where a free index is found. -/
inductive Run : PotentialCfgGraph → PotentialCfgGraph → Prop
  | refl (g : PotentialCfgGraph) : Run g g
  | step {g g' : PotentialCfgGraph} {r : PotentialCfgGraph × Bool} (h : Run g g') (a : Addition)
      (hfree : FindsFree (a.indexes g')) (hadd : a.apply g' = some r) : Run g r.1

variable {g} {idx streamIdx : UInt32}

lemma find_eq_none_of_notMem (h : idx ∉ g.cfgIndexes streamIdx) : (g.getCfgForStream streamIdx).find idx = none :=
  OrderedMap.find_eq_none.mpr fun _ hmem => h (mem_map_of_mem hmem)

/-- An addition with a new index is taken, and keeps the indexes distinct and the configurations. -/
lemma Unique.add (h : g.Unique) (a : Addition) (hidx : idx ∉ a.indexes g) :
    (a.add g idx).2 = true ∧ (a.add g idx).1.Unique ∧ g.KeepsCfgs (a.add g idx).1 := by
  cases a with
  | globalAcap name value =>
    have hfind : ¬ g.canFindAcapWithIdx idx := mt canFindWithIdx_iff.mp hidx
    rw [Addition.add, addGlobalAcap, if_neg hfind]
    exact ⟨rfl, ⟨indexes_append.nodup_iff.mpr (nodup_cons.mpr ⟨hidx, h.acap⟩), h.tcap⟩, fun _ _ _ hattr => hattr⟩
  | globalTcap value =>
    have hfind : ¬ g.canFindTcapWithIdx idx := mt canFindWithIdx_iff.mp hidx
    rw [Addition.add, addGlobalTcap, if_neg hfind]
    exact ⟨rfl, ⟨h.acap, indexes_append.nodup_iff.mpr (nodup_cons.mpr ⟨hidx, h.tcap⟩)⟩, fun _ _ _ hattr => hattr⟩
  | acapToStream streamIdx name value =>
    have hfind : ¬ g.canFindAcapWithIdx idx := mt canFindWithIdx_iff.mp hidx
    rw [Addition.add, addAcapToStream, if_neg hfind]
    exact ⟨rfl, ⟨indexes_pushBack.nodup_iff.mpr (nodup_cons.mpr ⟨hidx, h.acap⟩), h.tcap⟩, fun _ _ _ hattr => hattr⟩
  | tcapToStream streamIdx value =>
    have hfind : ¬ g.canFindTcapWithIdx idx := mt canFindWithIdx_iff.mp hidx
    rw [Addition.add, addTcapToStream, if_neg hfind]
    exact ⟨rfl, ⟨h.acap, indexes_pushBack.nodup_iff.mpr (nodup_cons.mpr ⟨hidx, h.tcap⟩)⟩, fun _ _ _ hattr => hattr⟩
  | cfg streamIdx acapIdxs tcapIdx media session =>
    refine ⟨rfl, ⟨h.acap, h.tcap⟩, fun streamIdx' cfgIdx attr hattr => ?_⟩
    rw [Addition.add, getCfgForStream, addCfg]
    by_cases hstream : streamIdx' = streamIdx
    · subst hstream
      have hne : cfgIdx ≠ idx := by
        rintro rfl
        rw [find_eq_none_of_notMem hidx] at hattr
        cases hattr
      rw [OrderedMap.find_assign_self, getD_some, OrderedMap.find_assign_of_ne _ _ hne]
      exact hattr
    · rw [OrderedMap.find_assign_of_ne _ _ hstream]
      exact hattr

lemma Addition.exists_apply (a : Addition) (hfree : FindsFree (a.indexes g)) :
    ∃ idx, a.apply g = some (a.add g idx) ∧ idx ∉ a.indexes g := by
  obtain ⟨idx, hidx, -, hmem⟩ := (exists_free_iff _).mpr hfree
  exact ⟨idx, by rw [Addition.apply, hidx, map_some], hmem⟩

lemma Run.keeps {g' : PotentialCfgGraph} (h : g.Unique) (hrun : Run g g') : g'.Unique ∧ g.KeepsCfgs g' := by
  induction hrun with
  | refl => exact ⟨h, fun _ _ _ hattr => hattr⟩
  | step _ a hfree hadd ih =>
    obtain ⟨hunique, hcfgs⟩ := ih
    obtain ⟨idx, happly, hidx⟩ := a.exists_apply hfree
    obtain rfl := some.inj (happly.symm.trans hadd)
    obtain ⟨-, hunique', hcfgs'⟩ := hunique.add a hidx
    exact ⟨hunique', fun streamIdx cfgIdx attr hattr =>
      hcfgs' streamIdx cfgIdx attr (hcfgs streamIdx cfgIdx attr hattr)⟩

/-- The index returned is positive and new exactly when the list is one where a free index is found.
After additions of that kind alone, the indexes are distinct, the configurations are all there, and the
next addition of that kind is taken. -/
theorem indexes_unique (l : List UInt32) : ((∃ i, getFreeIdx l = some i ∧ i ≠ 0 ∧ i ∉ l) ↔ FindsFree l) ∧
      ∀ g g' : PotentialCfgGraph, g.Unique → Run g g' → g'.Unique ∧ g.KeepsCfgs g' ∧
          ∀ a : Addition, FindsFree (a.indexes g') → ∃ g'', a.apply g' = some (g'', true) := by
  refine ⟨exists_free_iff l, fun g g' hunique hrun => ?_⟩
  obtain ⟨hunique', hcfgs⟩ := hrun.keeps hunique
  refine ⟨hunique', hcfgs, fun a hfree => ?_⟩
  obtain ⟨idx, happly, hidx⟩ := a.exists_apply hfree
  have hadded := (hunique'.add a hidx).1
  exact ⟨(a.add g' idx).1, by rw [happly, ← hadded]⟩

/-- A graph without any capability. -/
def empty : PotentialCfgGraph := ⟨[], [], .empty, .empty, .empty⟩

/-- Two attributes, one of the session and one of a stream. -/
def twoAcaps : PotentialCfgGraph := ((empty.addGlobalAcap 1 "setup" "active").1.addAcapToStream 0 2 "crypto" "1").1

theorem indexes_unique_twoAcaps : twoAcaps.Unique ∧ empty.KeepsCfgs twoAcaps ∧
    ∀ a : Addition, FindsFree (a.indexes twoAcaps) → ∃ g, a.apply twoAcaps = some (g, true) := by
  have hfirst : FindsFree (Addition.indexes empty (.globalAcap "setup" "active")) := (exists_free_iff _).mp (by decide)
  have hsecond : FindsFree (Addition.indexes (empty.addGlobalAcap 1 "setup" "active").1
    (.acapToStream 0 "crypto" "1")) := (exists_free_iff _).mp ⟨2, by decide, by decide, by decide⟩
  exact (indexes_unique []).2 empty twoAcaps ⟨.nil, .nil⟩
    (.step (.step (.refl empty) _ hfirst rfl) _ hsecond rfl)

/-- The place of the gap of the sorted list is the one of the index 1 in the list as given. -/
theorem not_free_unsorted : ¬ ∃ i, getFreeIdx [5, 1, 2] = some i ∧ i ≠ 0 ∧ i ∉ [5, 1, 2] := by
  rintro ⟨i, hi, -, hmem⟩
  have hused : getFreeIdx [5, 1, 2] = some 2 := by decide
  rw [hused, some_inj] at hi
  subst hi
  exact hmem (by decide)

end PotentialCfgGraph

end Sal
