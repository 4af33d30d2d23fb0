import LinphoneSdk.Ice.Processing
import LinphoneSdk.Lib.Pruning

/-!
# The formation of check lists

What `ice_check_list_pair_candidates` makes of the local and the remote candidates: a pair keeps the priority of the
candidates it was formed with when its server reflexive candidate gives way to its base, the pairs of the same
combination are pruned by first match, and the first pairs in the order of the priorities are checked. A change of role
computes the priorities again, and leaves the order of the check list.
-/

namespace Ice

open Pruning List Option UInt64 Nat

def IceCandidate.look (c : IceCandidate) : IceCandidateType × IceTransportAddress × UInt16 × UInt32 :=
  (c.type, c.taddr, c.componentID, c.priority)

structure FormedPair where
  local_candidate : CandidateId
  remote_candidate : CandidateId
  priority : UInt64

lemma sameCandidate_iff {c1 c2 : IceCandidate} : sameCandidate c1 c2 = true ↔ c1.look = c2.look := by
  simp [sameCandidate, IceCandidate.look]

namespace IceCheckList

variable (cl : IceCheckList) (role : IceRole) (check_message_integrity : Bool)

def content (p : PairId) : FormedPair :=
  ⟨(cl.pair p).local_candidate, (cl.pair p).remote_candidate, (cl.pair p).priority⟩

def combination (t : FormedPair) : (IceCandidateType × IceTransportAddress × UInt16 × UInt32) ×
      (IceCandidateType × IceTransportAddress × UInt16 × UInt32) :=
  ((cl.candidate t.local_candidate).look, (cl.candidate t.remote_candidate).look)

def HasBase (c : CandidateId) : Prop := (cl.candidate c).type = .serverReflexive → (cl.candidate c).base.isSome = true

def standIn (c : CandidateId) : CandidateId :=
  if (cl.candidate c).type = .serverReflexive then (cl.candidate c).base.getD c else c

def formedPairs : List FormedPair :=
  cl.pairsToForm.map fun lr =>
    ⟨cl.standIn lr.1, lr.2, pairPriority role (cl.candidate lr.1).priority (cl.candidate lr.2).priority⟩

def recomputed (t : FormedPair) : UInt64 :=
  pairPriority role (cl.candidate t.local_candidate).priority (cl.candidate t.remote_candidate).priority

/-- One pair for each combination, in the order of the priorities, up to a number of them. -/
def bestPairs (max_connectivity_checks : ℕ) : List FormedPair :=
  (((cl.formedPairs role).reverse.pwFilter fun t u => cl.combination t ≠ cl.combination u).insertionSort
    fun t u => u.priority ≤ t.priority).take max_connectivity_checks

/-! ### Forming -/

def unpaired : IceCheckList := { cl with pairs := [] }

/-- The pairs are stored one after the other. -/
lemma exists_formed (lrs : List (CandidateId × CandidateId)) :
    ∃ ids : List PairId,
      let formed := lrs.foldl (fun cl lr => cl.addPair (cl.pairNew role check_message_integrity lr.1 lr.2)) cl
      formed.pairs = cl.pairs ++ ids ∧ formed.candidate = cl.candidate ∧
        (∀ p < cl.nb_pairs, formed.pair p = cl.pair p) ∧
        (∀ p ∈ ids, cl.nb_pairs ≤ p) ∧ ids.Nodup ∧
        ids.map formed.content = lrs.map fun lr =>
          ⟨lr.1, lr.2, pairPriority role (cl.candidate lr.1).priority (cl.candidate lr.2).priority⟩ := by
  induction lrs generalizing cl with
  | nil => exact ⟨[], by simp⟩
  | cons lr lrs ih =>
    obtain ⟨ids, hpairs, hcandidate, hframe, hfresh, hnodup, hcontent⟩ :=
      ih (cl.addPair (cl.pairNew role check_message_integrity lr.1 lr.2))
    refine ⟨cl.nb_pairs :: ids, ?_, hcandidate, fun p hp => ?_, fun p hp => ?_, ?_, ?_⟩
    · rw [foldl_cons, hpairs, addPair, append_assoc, singleton_append]
    · rw [foldl_cons, hframe p (lt_succ_of_lt hp), addPair]
      exact Function.update_of_ne hp.ne _ _
    · obtain rfl | hp := mem_cons.1 hp
      · exact le_rfl
      · exact (le_succ _).trans (hfresh p hp)
    · exact nodup_cons.2 ⟨fun hmem => absurd (hfresh _ hmem) (not_succ_le_self _), hnodup⟩
    · rw [map_cons, map_cons, foldl_cons, hcontent]
      refine congrArg (· :: _) ?_
      rw [content, hframe cl.nb_pairs (lt_succ_self _), addPair]
      simp [pairNew]

/-- The local candidates of some pairs give way to their bases. -/
def replaced (ids : List PairId) : IceCheckList :=
  { cl with
    pair := fun p =>
      if p ∈ ids then { cl.pair p with local_candidate := cl.standIn (cl.pair p).local_candidate } else cl.pair p }

lemma replaceSrflxByBase_eq_some {p : PairId} {cl' : IceCheckList} :
    cl.replaceSrflxByBase p = some cl' ↔ cl.HasBase (cl.pair p).local_candidate ∧ cl.replaced [p] = cl' := by
  by_cases htype : (cl.localOf p).type = .serverReflexive
  · have hstand (base : CandidateId) (hbase : (cl.localOf p).base = some base) :
        cl.replaced [p] = cl.setPair p fun pair => { pair with local_candidate := base } := by
      refine congrArg (fun pair => { cl with pair := pair }) (funext fun q => ?_)
      by_cases hq : q = p
      · subst hq
        rw [localOf] at htype hbase
        simp [standIn, htype, hbase]
      · simp [hq]
    rw [replaceSrflxByBase, if_pos htype, map_eq_some_iff]
    constructor
    · rintro ⟨base, hbase, rfl⟩
      exact ⟨fun _ => by rw [← localOf, hbase, isSome_some], hstand base hbase⟩
    · rintro ⟨hsome, rfl⟩
      obtain ⟨base, hbase⟩ := isSome_iff_exists.1 (hsome htype)
      exact ⟨base, hbase, (hstand base hbase).symm⟩
  · have hsame : cl.replaced [p] = cl := by
      refine congrArg (fun pair => { cl with pair := pair }) (funext fun q => ?_)
      by_cases hq : q = p
      · subst hq
        rw [localOf] at htype
        simp [standIn, htype]
      · simp [hq]
    rw [replaceSrflxByBase, if_neg htype, hsame, some.injEq]
    exact (and_iff_right fun h => absurd h htype).symm

lemma foldlM_replaceSrflxByBase {ids : List PairId} (hnodup : ids.Nodup) {cl' : IceCheckList} :
    ids.foldlM replaceSrflxByBase cl = some cl' ↔
      (∀ p ∈ ids, cl.HasBase (cl.pair p).local_candidate) ∧ cl.replaced ids = cl' := by
  induction ids generalizing cl with
  | nil => simp [replaced]
  | cons p ids ih =>
    obtain ⟨hp, hnodup⟩ := nodup_cons.1 hnodup
    have hother {q : PairId} (hq : q ∈ ids) : (cl.replaced [p]).pair q = cl.pair q := by
      refine if_neg fun hmem => hp ?_
      rwa [← mem_singleton.1 hmem]
    have hreplaced : (cl.replaced [p]).replaced ids = cl.replaced (p :: ids) := by
      refine congrArg (fun pair => { cl with pair := pair }) (funext fun q => ?_)
      by_cases hq : q ∈ ids
      · rw [if_pos hq, hother hq, if_pos (mem_cons_of_mem p hq)]
        rfl
      · rw [if_neg hq]
        simp [replaced, hq]
    rw [foldlM_cons, bind_eq_bind, bind_eq_some_iff]
    constructor
    · rintro ⟨cl₁, hfirst, hrest⟩
      obtain ⟨hbase, rfl⟩ := (cl.replaceSrflxByBase_eq_some).1 hfirst
      obtain ⟨hbases, rfl⟩ := (ih _ hnodup).1 hrest
      refine ⟨forall_mem_cons.2 ⟨hbase, fun q hq => ?_⟩, hreplaced.symm⟩
      rw [← hother hq]
      exact hbases q hq
    · rintro ⟨hbases, rfl⟩
      refine ⟨_, (cl.replaceSrflxByBase_eq_some).2 ⟨hbases p mem_cons_self, rfl⟩, (ih _ hnodup).2 ⟨?_, hreplaced⟩⟩
      intro q hq
      rw [hother hq]
      exact hbases q (mem_cons_of_mem p hq)

/-! ### Pruning -/

lemma comparePairs_iff (p q : PairId) :
    cl.comparePairs p q = true ↔ cl.combination (cl.content p) = cl.combination (cl.content q) := by
  rw [comparePairs, Bool.and_eq_true, sameCandidate_iff, sameCandidate_iff]
  exact Prod.mk_inj.symm

lemma isPruned_eq (p : PairId) : cl.isPruned p =
      Pruning.isPruned (fun p => cl.combination (cl.content p)) (fun p => (cl.content p).priority) cl.pairs p := by
  have hcompare : (fun q => cl.comparePairs q p) =
      fun q => decide (cl.combination (cl.content q) = cl.combination (cl.content p)) :=
    funext fun q => by rw [Bool.eq_iff_iff, comparePairs_iff, decide_eq_true_iff]
  rw [isPruned, Pruning.isPruned, first, hcompare]
  cases cl.pairs.find? _ <;> rfl

lemma foldl_pruneDuplicatePair (l : List PairId) :
    l.foldl pruneDuplicatePair cl = let pruned := l.foldl pruneDuplicatePair cl
      { cl with
        pairs := l.foldl (fun pairs p =>
          if Pruning.isPruned (fun p => cl.combination (cl.content p)) (fun p => (cl.content p).priority) pairs p then
            pairs.erase p
          else pairs) cl.pairs
        check_list := pruned.check_list
        valid_list := pruned.valid_list } := by
  induction l generalizing cl with
  | nil => rfl
  | cons p l ih =>
    rw [foldl_cons, foldl_cons, ← isPruned_eq]
    by_cases hp : cl.isPruned p = true
    · rw [pruneDuplicatePair, if_pos hp, if_pos hp]
      exact ih (cl.removePair p)
    · rw [pruneDuplicatePair, if_neg hp, if_neg hp]
      exact ih cl

/-- The loop over the pairs never stops at the first one, which is not pruned. -/
lemma pruneLoop_eq (hnodup : cl.pairs.Nodup) :
    ∃ check_list valid_list, cl.pruneLoop cl.pairs = { cl with
        pairs := prune (fun p => cl.combination (cl.content p)) (fun p => (cl.content p).priority) [] cl.pairs
        check_list := check_list
        valid_list := valid_list } := by
  have hprune := @foldl_erase_eq _ _ _ _ _ _ (fun p => cl.combination (cl.content p))
    (fun p => (cl.content p).priority) _ UInt64.lt_irrefl cl.pairs [] [] (fun _ => rfl) hnodup
  have hloop : cl.pruneLoop cl.pairs = cl.pairs.foldl pruneDuplicatePair cl := by
    cases hpairs : cl.pairs with
    | nil => rfl
    | cons p list =>
      have hp : cl.isPruned p = false := by
        rw [isPruned_eq, hpairs]
        exact (@isPruned_append_self _ _ _ _ _ _ _ _ [] _ UInt64.lt_irrefl list).trans rfl
      rw [pruneLoop, hp, foldl_cons, pruneDuplicatePair, hp]
      rfl
  rw [nil_append, nil_append] at hprune
  rw [hloop, foldl_pruneDuplicatePair]
  dsimp only
  rw [hprune]
  exact ⟨_, _, rfl⟩

/-! ### Sorting and limiting -/

def SortedByPriority : Prop := cl.check_list.Pairwise fun p q => (cl.pair q).priority ≤ (cl.pair p).priority

instance instDecidableSortedByPriority : Decidable cl.SortedByPriority :=
  inferInstanceAs (Decidable (cl.check_list.Pairwise fun p q => (cl.pair q).priority ≤ (cl.pair p).priority))

lemma check_list_createCheckList : cl.createCheckList.check_list =
      cl.pairs.reverse.insertionSort fun p q => (cl.pair q).priority ≤ (cl.pair p).priority := by
  rw [createCheckList, insertionSort, foldr_reverse]
  rfl

lemma sorted_createCheckList : cl.createCheckList.SortedByPriority := by
  have htotal : Std.Total fun p q : PairId => (cl.pair q).priority ≤ (cl.pair p).priority :=
    ⟨fun p q => UInt64.le_total (cl.pair q).priority (cl.pair p).priority⟩
  have htrans : IsTrans PairId fun p q => (cl.pair q).priority ≤ (cl.pair p).priority :=
    ⟨fun _ _ _ h h' => UInt64.le_trans h' h⟩
  rw [SortedByPriority, check_list_createCheckList]
  exact pairwise_insertionSort _ _

lemma foldl_removePair (l : List PairId) :
    ∃ pairs valid_list, l.foldl removePair cl =
        { cl with pairs := pairs, check_list := cl.check_list.filter (· ∉ l), valid_list := valid_list } ∧
      ∀ p ∈ cl.pairs, p ∉ l → p ∈ pairs := by
  induction l generalizing cl with
  | nil => exact ⟨cl.pairs, cl.valid_list, by simp, fun p hp _ => hp⟩
  | cons p l ih =>
    obtain ⟨pairs, valid_list, heq, hmem⟩ := ih (cl.removePair p)
    refine ⟨pairs, valid_list, ?_, fun q hq hnot => ?_⟩
    · rw [List.foldl_cons, heq]
      simp [removePair, freeCandidatePair, List.filter_filter, Bool.and_comm]
    · obtain ⟨hne, hnot⟩ := not_or.1 (mt List.mem_cons.2 hnot)
      exact hmem q ((List.mem_erase_of_ne hne).2 hq) hnot

/-- The first pairs of the check list stay. -/
lemma limitChecks_eq (max_connectivity_checks : ℕ) (hnodup : cl.check_list.Nodup)
    (hsub : ∀ p ∈ cl.check_list, p ∈ cl.pairs) :
    ∃ pairs valid_list, cl.limitChecks max_connectivity_checks = { cl with
          pairs := pairs, check_list := cl.check_list.take max_connectivity_checks, valid_list := valid_list } ∧
      ∀ p ∈ cl.check_list.take max_connectivity_checks, p ∈ pairs := by
  obtain ⟨pairs, valid_list, heq, hmem⟩ := cl.foldl_removePair (cl.check_list.drop max_connectivity_checks).reverse
  have hsplit := take_append_drop max_connectivity_checks cl.check_list
  have hdisjoint {p : PairId} (hp : p ∈ cl.check_list.take max_connectivity_checks) :
      p ∉ (cl.check_list.drop max_connectivity_checks).reverse := by
    intro hdrop
    rw [← hsplit] at hnodup
    exact (nodup_append.1 hnodup).2.2 p hp p (mem_reverse.1 hdrop) rfl
  refine ⟨pairs, valid_list, ?_, fun p hp => hmem p (hsub p (mem_of_mem_take hp)) (hdisjoint hp)⟩
  have htake : cl.check_list.filter (· ∉ (cl.check_list.drop max_connectivity_checks).reverse) =
      cl.check_list.take max_connectivity_checks := by
    conv_lhs => rw [← hsplit]
    rw [filter_append, filter_eq_self.2 fun p hp => by simpa using hdisjoint hp, filter_eq_nil_iff.2, append_nil]
    intro p hp
    simpa using hp
  rw [limitChecks, heq, htake]

/-! ### Changes of role -/

def changeRoles (cl : IceCheckList) (role : IceRole) : List IceRole → IceCheckList
  | [] => cl
  | role' :: roles => (if role = role' then cl else cl.computePairPriorities role').changeRoles role' roles

lemma foldl_computePairPriority (l : List PairId) :
    l.foldl (fun cl p => cl.computePairPriority role p) cl = { cl with
        pair := fun p =>
          if p ∈ l then { cl.pair p with priority := cl.recomputed role (cl.content p) } else cl.pair p } := by
  induction l generalizing cl with
  | nil => simp
  | cons q l ih =>
    rw [foldl_cons, ih]
    refine congrArg (fun pair => { cl with pair := pair }) (funext fun p => ?_)
    by_cases hq : p = q
    · subst hq
      by_cases hl : p ∈ l <;> simp [hl, computePairPriority, setPair, recomputed, content]
    · by_cases hl : p ∈ l <;> simp [hl, hq, computePairPriority, setPair, recomputed, content]

lemma sorted_changeRoles_iff (hsub : ∀ p ∈ cl.check_list, p ∈ cl.pairs) (hsorted : cl.SortedByPriority) :
    (∀ roles, (cl.changeRoles role roles).SortedByPriority) ↔ ∀ role', cl.check_list.Pairwise fun p q =>
        cl.recomputed role' (cl.content q) ≤ cl.recomputed role' (cl.content p) := by
  have hcompute (cl : IceCheckList) (role' : IceRole) (hsub : ∀ p ∈ cl.check_list, p ∈ cl.pairs) :
      (cl.computePairPriorities role').SortedByPriority ↔ cl.check_list.Pairwise fun p q =>
        cl.recomputed role' (cl.content q) ≤ cl.recomputed role' (cl.content p) := by
    rw [computePairPriorities, foldl_computePairPriority, SortedByPriority]
    refine Pairwise.iff_of_mem fun {p q} hp hq => ?_
    simp only [if_pos (hsub p hp), if_pos (hsub q hq)]
  have hlist (cl : IceCheckList) (role' : IceRole) :
      (cl.computePairPriorities role').check_list = cl.check_list ∧ (cl.computePairPriorities role').pairs = cl.pairs ∧
        ∀ role'' p, (cl.computePairPriorities role').recomputed role'' ((cl.computePairPriorities role').content p) =
          cl.recomputed role'' (cl.content p) := by
    rw [computePairPriorities, foldl_computePairPriority]
    refine ⟨rfl, rfl, fun role'' p => ?_⟩
    by_cases hp : p ∈ cl.pairs <;> simp [content, recomputed, hp]
  constructor
  · intro h role'
    obtain ⟨other, hother⟩ : ∃ other, other ≠ role := by
      cases role
      · exact ⟨.controlled, by decide⟩
      · exact ⟨.controlling, by decide⟩
    by_cases hrole : role' = role
    · subst hrole
      have hback := h [other, role']
      rw [changeRoles, changeRoles, changeRoles, if_neg hother.symm, if_neg hother,
        hcompute _ _ (by rwa [(hlist cl other).1, (hlist cl other).2.1]), (hlist cl other).1] at hback
      simpa only [(hlist cl other).2.2] using hback
    · have hthere := h [role']
      rwa [changeRoles, changeRoles, if_neg (Ne.symm hrole), hcompute cl role' hsub] at hthere
  · intro h roles
    induction roles generalizing cl role with
    | nil => exact hsorted
    | cons role' roles ih =>
      rw [changeRoles]
      by_cases hrole : role = role'
      · rw [if_pos hrole]
        exact ih cl role' hsub hsorted h
      · rw [if_neg hrole]
        refine ih _ role' ?_ ((hcompute cl role' hsub).2 (h role')) fun role'' => ?_
        · rwa [(hlist cl role').1, (hlist cl role').2.1]
        · rw [(hlist cl role').1]
          simpa only [(hlist cl role').2.2] using h role''

/-! ### The whole formation -/

def formCheckList : Option IceCheckList :=
  let cl := cl.unpaired.formCandidatePairs role check_message_integrity
  (cl.pairs.foldlM replaceSrflxByBase cl).map fun cl => (cl.pruneLoop cl.pairs).createCheckList

lemma pruneCandidatePairs_eq (max_connectivity_checks : UInt8) :
    (cl.unpaired.formCandidatePairs role check_message_integrity).pruneCandidatePairs max_connectivity_checks =
      (cl.formCheckList role check_message_integrity).map fun cl => cl.limitChecks max_connectivity_checks.toNat := by
  rw [pruneCandidatePairs, formCheckList]
  cases foldlM replaceSrflxByBase _ _ <;> rfl

lemma combination_congr {cl cl' : IceCheckList} (h : cl'.candidate = cl.candidate) :
    cl'.combination = cl.combination := by
  funext t
  rw [combination, combination, h]

lemma recomputed_congr {cl cl' : IceCheckList} (h : cl'.candidate = cl.candidate) :
    cl'.recomputed = cl.recomputed := by
  funext role t
  rw [recomputed, recomputed, h]

lemma formCandidatePairs_spec :
    ∃ ids : List PairId, (cl.unpaired.formCandidatePairs role check_message_integrity).pairs = ids ∧
      (cl.unpaired.formCandidatePairs role check_message_integrity).candidate = cl.candidate ∧ ids.Nodup ∧
      ids.map (cl.unpaired.formCandidatePairs role check_message_integrity).content = cl.pairsToForm.map fun lr =>
        ⟨lr.1, lr.2, pairPriority role (cl.candidate lr.1).priority (cl.candidate lr.2).priority⟩ := by
  obtain ⟨ids, hpairs, hcandidate, -, -, hnodup, hcontent⟩ :=
    cl.unpaired.exists_formed role check_message_integrity cl.pairsToForm
  exact ⟨ids, hpairs, hcandidate, hnodup, hcontent⟩

structure FormedFrom (full : IceCheckList) (ids : List PairId) : Prop where
  candidate : full.candidate = cl.candidate
  nodup : ids.Nodup
  contents : ids.map full.content = cl.formedPairs role
  pairs : full.pairs = prune (fun p => cl.combination (full.content p)) (fun p => (full.content p).priority) [] ids
  check_list :
    full.check_list = full.pairs.reverse.insertionSort fun p q => (full.pair q).priority ≤ (full.pair p).priority
  sorted : full.SortedByPriority

lemma formCheckList_spec : (∀ full, cl.formCheckList role check_message_integrity = some full →
      (∀ lr ∈ cl.pairsToForm, cl.HasBase lr.1) ∧ ∃ ids, cl.FormedFrom role full ids) ∧
    ((∀ lr ∈ cl.pairsToForm, cl.HasBase lr.1) → (cl.formCheckList role check_message_integrity).isSome = true) := by
  obtain ⟨ids, hpairs, hcandidate, hnodup, hcontent⟩ := cl.formCandidatePairs_spec role check_message_integrity
  rw [formCheckList]
  generalize cl.unpaired.formCandidatePairs role check_message_integrity = formed at *
  subst hpairs
  have hlocal := congrArg (List.map FormedPair.local_candidate) hcontent
  rw [List.map_map, List.map_map] at hlocal
  have hbases : (∀ p ∈ formed.pairs, formed.HasBase (formed.pair p).local_candidate) ↔
      ∀ lr ∈ cl.pairsToForm, cl.HasBase lr.1 := by
    have hmap : (∀ c ∈ formed.pairs.map (FormedPair.local_candidate ∘ formed.content), cl.HasBase c) ↔
        ∀ lr ∈ cl.pairsToForm, cl.HasBase lr.1 := by
      rw [hlocal]
      exact List.forall_mem_map
    have hbase : formed.HasBase = cl.HasBase := by
      funext c
      rw [HasBase, HasBase, hcandidate]
    rw [← hmap, List.forall_mem_map, hbase]
    rfl
  constructor
  · intro full hfull
    obtain ⟨cl₂, hreplace, rfl⟩ := Option.map_eq_some_iff.1 hfull
    obtain ⟨hbase, rfl⟩ := (formed.foldlM_replaceSrflxByBase hnodup).1 hreplace
    refine ⟨hbases.1 hbase, formed.pairs, ?_⟩
    obtain ⟨check_list, valid_list, hprune⟩ := (formed.replaced formed.pairs).pruneLoop_eq hnodup
    have hcombination : (formed.replaced formed.pairs).combination = cl.combination := combination_congr hcandidate
    rw [hcombination] at hprune
    exact {
      candidate := by rw [hprune]; exact hcandidate
      nodup := hnodup
      contents := by
        have hstand : formed.standIn = cl.standIn := by
          funext c
          rw [standIn, standIn, hcandidate]
        have hmap : formed.pairs.map (formed.replaced formed.pairs).content =
            (formed.pairs.map formed.content).map fun t =>
              ⟨cl.standIn t.local_candidate, t.remote_candidate, t.priority⟩ := by
          rw [List.map_map]
          refine List.map_congr_left fun p hp => ?_
          simp [content, replaced, hp, hstand]
        rw [hcontent, List.map_map] at hmap
        rw [hprune]
        exact hmap
      pairs := by rw [hprune]; rfl
      check_list := check_list_createCheckList _
      sorted := sorted_createCheckList _ }
  · intro hbase
    rw [Option.isSome_map, (formed.foldlM_replaceSrflxByBase hnodup).2 ⟨hbases.2 hbase, rfl⟩]
    rfl

end IceCheckList

/-! ### Priorities of pairs -/

def IceRole.other : IceRole → IceRole
  | controlling => controlled
  | controlled => controlling

/-- Both agents give the same priority to a pair. -/
lemma pairPriority_other (role : IceRole) (l r : UInt32) : pairPriority role.other r l = pairPriority role l r := by
  cases role <;> rfl

/-- The formula for the priority of a pair: `G` is the priority of the candidate of the controlling agent. -/
def formula (role : IceRole) (l r : UInt32) : ℕ :=
  let G := match role with | .controlling => l | .controlled => r
  let D := match role with | .controlling => r | .controlled => l
  2 ^ 32 * min G.toNat D.toNat + 2 * max G.toNat D.toNat + (if D < G then 1 else 0)

/-- The fields of a priority do not overlap. -/
def FieldsApart (l r : UInt32) : Prop := max l.toNat r.toNat < 2 ^ 31 ∨ min l.toNat r.toNat % 2 = 0

lemma or_bit {least bit : ℕ} (h : bit < 2) : least ||| bit = least + bit ↔ bit = 0 ∨ least % 2 = 0 := by
  have hor (k : ℕ) : 2 * k ||| 1 = 2 * k + 1 := (two_pow_add_eq_or_of_lt (i := 1) (by decide) k).symm
  obtain rfl | rfl : bit = 0 ∨ bit = 1 := by omega
  · simp
  · obtain ⟨k, hk | hk⟩ : ∃ k, least = 2 * k ∨ least = 2 * k + 1 := ⟨least / 2, by omega⟩
    · rw [hk, hor]
      omega
    · have hsame : least ||| 1 = least := by rw [hk, ← hor, Nat.or_assoc, Nat.or_self]
      rw [hsame]
      omega

/-- The lowest bit of the first field may meet the highest one of the second. -/
lemma or_fields {least greatest above : ℕ} (hgreatest : greatest < 2 ^ 32) (habove : above < 2) :
    least <<< 32 ||| greatest <<< 1 ||| above = 2 ^ 32 * least + 2 * greatest + above ↔
      greatest < 2 ^ 31 ∨ least % 2 = 0 := by
  have hadd (a : ℕ) {b i : ℕ} (hb : b < 2 ^ i) : a <<< i ||| b = 2 ^ i * a + b := by
    rw [shiftLeft_eq, mul_comm, two_pow_add_eq_or_of_lt hb]
  have hmod : (2 * greatest + above) % 2 ^ 32 < 2 ^ 32 := mod_lt _ (by decide)
  have hsplit : greatest <<< 1 ||| above = (greatest / 2 ^ 31) <<< 32 ||| (2 * greatest + above) % 2 ^ 32 := by
    rw [hadd greatest habove, hadd _ hmod]
    omega
  rw [Nat.or_assoc, hsplit, ← Nat.or_assoc, ← shiftLeft_or_distrib, hadd _ hmod]
  have hbit := @or_bit least (greatest / 2 ^ 31) (by omega)
  omega

lemma toNat_pairPriority_iff (role : IceRole) (l r : UInt32) :
    (pairPriority role l r).toNat = formula role l r ↔ FieldsApart l r := by
  have hfields (G D : UInt32) :
      ((if G.toUInt64 < D.toUInt64 then G.toUInt64 else D.toUInt64) <<< 32 |||
          (if G.toUInt64 < D.toUInt64 then D.toUInt64 else G.toUInt64) <<< 1 |||
          (if D.toUInt64 < G.toUInt64 then 1 else 0 : UInt64)).toNat =
        2 ^ 32 * min G.toNat D.toNat + 2 * max G.toNat D.toNat + (if D < G then 1 else 0) ↔ FieldsApart G D := by
    have hless (a b : UInt32) : a.toUInt64 < b.toUInt64 ↔ a.toNat < b.toNat := by simp [lt_iff_toNat_lt]
    have hmin : (if G.toUInt64 < D.toUInt64 then G.toUInt64 else D.toUInt64).toNat = min G.toNat D.toNat := by
      simp only [apply_ite UInt64.toNat, hless, UInt32.toNat_toUInt64]
      split_ifs <;> omega
    have hmax : (if G.toUInt64 < D.toUInt64 then D.toUInt64 else G.toUInt64).toNat = max G.toNat D.toNat := by
      simp only [apply_ite UInt64.toNat, hless, UInt32.toNat_toUInt64]
      split_ifs <;> omega
    have habove : (if D.toUInt64 < G.toUInt64 then 1 else 0 : UInt64).toNat = if D < G then 1 else 0 := by
      simp only [hless, UInt32.lt_iff_toNat_lt]
      split_ifs <;> rfl
    have hG := G.toNat_lt
    have hD := D.toNat_lt
    have hleast : (min G.toNat D.toNat) <<< 32 % 2 ^ 64 = (min G.toNat D.toNat) <<< 32 := by
      rw [shiftLeft_eq]
      omega
    have hgreatest : (max G.toNat D.toNat) <<< 1 % 2 ^ 64 = (max G.toNat D.toNat) <<< 1 := by
      rw [shiftLeft_eq]
      omega
    rw [UInt64.toNat_or, UInt64.toNat_or, UInt64.toNat_shiftLeft, UInt64.toNat_shiftLeft, hmin, hmax, habove]
    refine (Eq.congr (congrArg₂ (· ||| ·) (congrArg₂ (· ||| ·) hleast hgreatest) rfl) rfl).trans ?_
    exact or_fields (by omega) (by split_ifs <;> decide)
  cases role with
  | controlling => exact hfields l r
  | controlled =>
    rw [FieldsApart, max_comm, min_comm]
    exact hfields r l

/-! ### Check lists that are formed as they should be -/

namespace IceCheckList

variable (cl : IceCheckList) (role : IceRole) (check_message_integrity : Bool)

/-- A check list that is formed, and what is left of it when the checks are limited. -/
structure CheckListFormed (max_connectivity_checks : ℕ) (full checked : IceCheckList) : Prop where
  sorted : full.SortedByPriority
  distinct : full.check_list.Pairwise fun p q =>
    full.combination (full.content p) ≠ full.combination (full.content q)
  formed : ∀ p ∈ full.check_list, full.content p ∈ cl.formedPairs role
  best : ∀ t ∈ cl.formedPairs role, ∃ p ∈ full.check_list,
    full.combination (full.content p) = full.combination t ∧ t.priority ≤ (full.pair p).priority
  limited : checked.check_list = full.check_list.take max_connectivity_checks
  kept : checked.pair = full.pair
  formula : ∀ lr ∈ cl.pairsToForm, (pairPriority role (cl.candidate lr.1).priority (cl.candidate lr.2).priority).toNat =
      formula role (cl.candidate lr.1).priority (cl.candidate lr.2).priority
  agents : ∀ l r, pairPriority role.other r l = pairPriority role l r
  roles : ∀ roles, (checked.changeRoles role roles).SortedByPriority

/-- When the formation of a check list goes well. -/
structure Ranked (max_connectivity_checks : ℕ) : Prop where
  bases : ∀ lr ∈ cl.pairsToForm, cl.HasBase lr.1
  best : FirstBest cl.combination FormedPair.priority [] (cl.formedPairs role)
  fields : ∀ lr ∈ cl.pairsToForm, FieldsApart (cl.candidate lr.1).priority (cl.candidate lr.2).priority
  roles : ∀ role', (cl.bestPairs role max_connectivity_checks).Pairwise fun t u =>
    cl.recomputed role' u ≤ cl.recomputed role' t

variable {cl role} {full : IceCheckList} {ids : List PairId}

namespace FormedFrom

section

variable (h : cl.FormedFrom role full ids)
include h

lemma perm : full.check_list.Perm full.pairs := by
  rw [h.check_list]
  exact (perm_insertionSort _ _).trans (reverse_perm _)

lemma sublist : full.pairs.Sublist ids := by
  rw [h.pairs]
  exact prune_sublist [] ids

lemma firstBest_iff :
    FirstBest (fun p => cl.combination (full.content p)) (fun p => (full.content p).priority) [] ids ↔
      FirstBest cl.combination FormedPair.priority [] (cl.formedPairs role) := by
  rw [← h.contents]
  exact (@firstBest_map _ _ _ _ _ _ cl.combination FormedPair.priority full.content [] ids).symm

/-- The combinations are pruned to one pair each if the first pairs are the best ones. -/
lemma distinct_iff :
    (full.check_list.Pairwise fun p q => full.combination (full.content p) ≠ full.combination (full.content q)) ↔
      FirstBest cl.combination FormedPair.priority [] (cl.formedPairs role) := by
  rw [combination_congr h.candidate, h.perm.pairwise_iff fun hne => Ne.symm hne, h.pairs, ← h.firstBest_iff]
  have hprune := @pairwise_prune_iff _ _ _ _ _ _ (fun p => cl.combination (full.content p))
    (fun p => (full.content p).priority) ids [] [] fun _ => rfl
  rw [nil_append] at hprune
  exact hprune.trans (and_iff_right Pairwise.nil)

lemma contents_check_list
    (hbest : FirstBest cl.combination FormedPair.priority [] (cl.formedPairs role)) (max_connectivity_checks : ℕ) :
    (full.check_list.take max_connectivity_checks).map full.content = cl.bestPairs role max_connectivity_checks := by
  have hreverse := reverse_prune ids [] [] (h.firstBest_iff.2 hbest) (fun _ => rfl) rfl
  rw [nil_append, nil_append, ← h.pairs] at hreverse
  have hsort := map_insertionSort (fun p q => (full.pair q).priority ≤ (full.pair p).priority)
    (fun t u : FormedPair => u.priority ≤ t.priority) full.content full.pairs.reverse fun _ _ _ _ => Iff.rfl
  rw [map_take, bestPairs, h.check_list, hsort, hreverse, ← h.contents, ← map_reverse, pwFilter_map]

lemma exists_best (hbest : FirstBest cl.combination FormedPair.priority [] (cl.formedPairs role)) {t : FormedPair}
    (ht : t ∈ cl.formedPairs role) : ∃ p ∈ full.check_list, full.combination (full.content p) = full.combination t ∧
      t.priority ≤ (full.pair p).priority := by
  rw [← h.contents] at ht
  obtain ⟨q, hq, rfl⟩ := mem_map.1 ht
  obtain ⟨p, hp, hkey, hrank⟩ := Pruning.exists_best ids [] [] (h.firstBest_iff.2 hbest) (fun _ => rfl)
    (fun _ hx => absurd hx not_mem_nil) q hq
  rw [nil_append, ← h.pairs] at hp
  refine ⟨p, h.perm.mem_iff.2 hp, by rw [combination_congr h.candidate]; exact hkey, ?_⟩
  obtain rfl | hlt := hrank
  · exact UInt64.le_refl _
  · exact UInt64.le_of_lt hlt

/-- What is left when the checks are limited. -/
lemma limit (max_connectivity_checks : ℕ) :
    (full.limitChecks max_connectivity_checks).check_list = full.check_list.take max_connectivity_checks ∧
      (full.limitChecks max_connectivity_checks).pair = full.pair ∧
      ((∀ roles, ((full.limitChecks max_connectivity_checks).changeRoles role roles).SortedByPriority) ↔
        ∀ role', ((full.check_list.take max_connectivity_checks).map full.content).Pairwise fun t u =>
          cl.recomputed role' u ≤ cl.recomputed role' t) := by
  obtain ⟨pairs, valid_list, heq, hmem⟩ := full.limitChecks_eq max_connectivity_checks
    (h.perm.nodup_iff.2 (h.nodup.sublist h.sublist)) fun p hp => h.perm.mem_iff.1 hp
  have hiff := (full.limitChecks max_connectivity_checks).sorted_changeRoles_iff role (by rw [heq]; exact hmem)
    (by rw [heq]; exact h.sorted.sublist (take_sublist _ _))
  refine ⟨by rw [heq], by rw [heq], hiff.trans ?_⟩
  rw [← recomputed_congr h.candidate]
  simp only [pairwise_map]
  rw [heq]
  rfl

end

end FormedFrom

/-- The check list is formed as it should be exactly when no base is missing, the first pair of each combination is the
best one, the fields of the priorities do not overlap, and no change of role disturbs the best pairs. -/
theorem checkListFormed_iff (cl : IceCheckList) (role : IceRole) (check_message_integrity : Bool)
    (max_connectivity_checks : UInt8) : (∃ full limited, cl.formCheckList role check_message_integrity = some full ∧
      (cl.unpaired.formCandidatePairs role check_message_integrity).pruneCandidatePairs max_connectivity_checks =
          some limited ∧ cl.CheckListFormed role max_connectivity_checks.toNat full limited) ↔
      cl.Ranked role max_connectivity_checks.toNat := by
  obtain ⟨hspec, hsome⟩ := cl.formCheckList_spec role check_message_integrity
  rw [pruneCandidatePairs_eq]
  constructor
  · rintro ⟨full, limited, hfull, hlimited, hwell⟩
    rw [hfull] at hlimited
    obtain rfl := some.inj hlimited
    obtain ⟨hbases, ids, hformed⟩ := hspec full hfull
    have hbest := hformed.distinct_iff.1 hwell.distinct
    refine ⟨hbases, hbest, fun lr hlr => (toNat_pairPriority_iff _ _ _).1 (hwell.formula lr hlr), ?_⟩
    rw [← hformed.contents_check_list hbest]
    exact (hformed.limit _).2.2.1 hwell.roles
  · intro hranked
    obtain ⟨full, hfull⟩ := isSome_iff_exists.1 (hsome hranked.bases)
    obtain ⟨-, ids, hformed⟩ := hspec full hfull
    obtain ⟨hcheck, hpair, hroles⟩ := hformed.limit max_connectivity_checks.toNat
    refine ⟨full, full.limitChecks max_connectivity_checks.toNat, hfull, by rw [hfull]; rfl, ?_⟩
    exact {
      sorted := hformed.sorted
      distinct := hformed.distinct_iff.2 hranked.best
      formed := fun p hp => by
        rw [← hformed.contents]
        exact mem_map_of_mem (hformed.sublist.subset (hformed.perm.mem_iff.1 hp))
      best := fun t ht => hformed.exists_best hranked.best ht
      limited := hcheck
      kept := hpair
      formula := fun lr hlr => (toNat_pairPriority_iff _ _ _).2 (hranked.fields lr hlr)
      agents := pairPriority_other role
      roles := by
        rw [hroles, hformed.contents_check_list hranked.best]
        exact hranked.roles }

/-- Host and relayed candidates of both agents, with the priorities that they are given. -/
def hostsAndRelays : IceCheckList :=
  { IceCheckList.new .zero false with
    candidate := fun c =>
      candidateNew (if c % 2 = 0 then .host else .relayed)
        ⟨.ofBytes [49, 48, 46, 48, 46, 48, 46, 49 + .ofNat c], 7078, AF_INET⟩ ICE_RTP_COMPONENT_ID
    nb_candidates := 4
    local_candidates := [0, 1]
    remote_candidates := [2, 3] }

/-- The pairs of a host candidate and of a relayed one change places with the role, but not in the check list. -/
theorem not_checkListFormed_hostsAndRelays :
    ¬∃ full checked, hostsAndRelays.formCheckList .controlling true = some full ∧
      (hostsAndRelays.unpaired.formCandidatePairs .controlling true).pruneCandidatePairs 128 = some checked ∧
        hostsAndRelays.CheckListFormed .controlling 128 full checked := by
  rintro ⟨full, checked, -, hchecked, h⟩
  have hsorted := h.roles [.controlled]
  have hcheck : ((hostsAndRelays.unpaired.formCandidatePairs .controlling true).pruneCandidatePairs 128).map
      (fun cl => decide (cl.changeRoles .controlling [.controlled]).SortedByPriority) = some false := by
    decide +kernel
  rw [hchecked, map_some, decide_eq_true hsorted] at hcheck
  exact absurd hcheck (by decide)

end IceCheckList

end Ice
