import LinphoneSdk.Belr.Derivations
import LinphoneSdk.Belr.ParserContext
import Mathlib.Data.Set.Insert

/-!
# The contexts of the parser

A context that was given to a parent, or that is the root, is kept: nothing changes it any more, and it is not used again.
The other contexts are on the stack, each once, or they are recycled and have no assignments.
-/

namespace Belr

open List Function

variable {H C : Type} {s : ParserState H C} {K K' : Set ℕ} {ctx : HandlerContext H} {rest : List (HandlerContext H)}

/-- A context that a handler may use again. -/
structure Free (s : ParserState H C) (K : Set ℕ) (h : H) (ctx : HandlerContext H) : Prop where
  mHandler : ctx.mHandler = h
  lt : ctx.address < s.next
  notMem : ctx.address ∉ K
  notMem_stack : ctx.address ∉ s.mHandlerStack.map HandlerContext.address
  empty : s.mAssignments ctx.address = []

/-- The contexts whose addresses are in `K` are kept. -/
structure Wf (s : ParserState H C) (K : Set ℕ) : Prop where
  nodup : (s.mHandlerStack.map HandlerContext.address).Nodup
  lt : ∀ a ∈ s.mHandlerStack.map HandlerContext.address, a < s.next
  notMem : ∀ a ∈ s.mHandlerStack.map HandlerContext.address, a ∉ K
  kept_lt : ∀ a ∈ K, a < s.next
  cached : ∀ h ctx, s.mCachedContext h = some ctx → Free s K h ctx
  cached_inj : ∀ h h' ctx ctx', s.mCachedContext h = some ctx → s.mCachedContext h' = some ctx' →
    ctx.address = ctx'.address → h = h'

/-- The assignments, in the contexts, are what was collected. -/
inductive Denotes (mAssignments : ℕ → List (Assignment H C)) (K : Set ℕ) :
    List (Assignment H C) → List (Collected H C) → Prop where
  | nil : Denotes mAssignments K [] []
  | value {assignments collected} (collector : C) (pos count : ℕ) (rest : Denotes mAssignments K assignments collected) :
      Denotes mAssignments K (⟨collector, pos, count, none⟩ :: assignments) (.value collector pos count :: collected)
  | child {assignments collected} (collector : C) (pos count : ℕ) {ctx : HandlerContext H}
      {inner : List (Collected H C)} (mem : ctx.address ∈ K)
      (denotes : Denotes mAssignments K (mAssignments ctx.address) inner)
      (rest : Denotes mAssignments K assignments collected) :
      Denotes mAssignments K (⟨collector, pos, count, some ctx⟩ :: assignments)
        (.child collector pos count ctx.mHandler inner :: collected)

namespace Denotes

variable {mAssignments mAssignments' : ℕ → List (Assignment H C)} {l l' : List (Assignment H C)}
  {collected collected' : List (Collected H C)}

/-- Contexts that are kept denote what they denoted. -/
lemma mono (h : Denotes mAssignments K l collected) (hkept : ∀ a ∈ K, mAssignments' a = mAssignments a) (hsub : K ⊆ K') :
    Denotes mAssignments' K' l collected := by
  induction h with
  | nil => exact nil
  | value collector pos count _ ih => exact value collector pos count ih
  | child collector pos count mem _ _ ihinner ih =>
    rw [← hkept _ mem] at ihinner
    exact child collector pos count (hsub mem) ihinner ih

lemma append (h : Denotes mAssignments K l collected) (h' : Denotes mAssignments K l' collected') :
    Denotes mAssignments K (l ++ l') (collected ++ collected') := by
  induction h with
  | nil => exact h'
  | value collector pos count _ ih => exact value collector pos count ih
  | child collector pos count mem inner _ _ ih => exact child collector pos count mem inner ih

end Denotes

/-! ### Operations on contexts -/

section

variable (s : ParserState H C) (ctx : HandlerContext H) (l : List (Assignment H C))

@[simp] lemma setAssignments_stack : (s.setAssignments ctx l).mHandlerStack = s.mHandlerStack := rfl

@[simp] lemma setAssignments_root : (s.setAssignments ctx l).mRoot = s.mRoot := rfl

@[simp] lemma setAssignments_self : (s.setAssignments ctx l).mAssignments ctx.address = l := update_self ..

end

lemma setAssignments_of_ne (s : ParserState H C) {ctx : HandlerContext H} {a : ℕ} (h : a ≠ ctx.address)
    (l : List (Assignment H C)) : (s.setAssignments ctx l).mAssignments a = s.mAssignments a :=
  update_of_ne h ..

lemma Wf.setAssignments (h : Wf s K) (hmem : ctx.address ∈ s.mHandlerStack.map HandlerContext.address)
    (l : List (Assignment H C)) : Wf (s.setAssignments ctx l) K where
  nodup := h.nodup
  lt := h.lt
  notMem := h.notMem
  kept_lt := h.kept_lt
  cached_inj := h.cached_inj
  cached own cached hcached := by
    have hfree := h.cached own cached hcached
    refine ⟨hfree.mHandler, hfree.lt, hfree.notMem, hfree.notMem_stack, ?_⟩
    rw [setAssignments_of_ne, hfree.empty]
    intro heq
    exact hfree.notMem_stack (heq ▸ hmem)

/-- The last context of the stack is removed from it, and kept. -/
lemma Wf.keep (h : Wf s K) (hstack : s.mHandlerStack = ctx :: rest) :
    Wf { s with mHandlerStack := rest } (insert ctx.address K) := by
  have hnodup := h.nodup
  have hlt := h.lt
  have hnotMem := h.notMem
  rw [hstack, map_cons] at hnodup hlt hnotMem
  obtain ⟨hgone, hrest⟩ := nodup_cons.mp hnodup
  refine ⟨hrest, fun a ha => hlt a (mem_cons_of_mem _ ha), ?_, ?_, ?_, h.cached_inj⟩
  · rintro a ha (rfl | hK)
    · exact hgone ha
    · exact hnotMem a (mem_cons_of_mem _ ha) hK
  · rintro a (rfl | hK)
    · exact hlt _ mem_cons_self
    · exact h.kept_lt a hK
  · intro own cached hcached
    have hfree := h.cached own cached hcached
    have hstack' := hfree.notMem_stack
    rw [hstack, map_cons, mem_cons, not_or] at hstack'
    refine ⟨hfree.mHandler, hfree.lt, ?_, hstack'.2, hfree.empty⟩
    rintro (heq | hK)
    · exact hstack'.1 heq
    · exact hfree.notMem hK

section Recycle

variable [DecidableEq H]

section

variable (s : ParserState H C) (ctx : HandlerContext H)

@[simp] lemma recycle_stack : (s.recycle ctx).mHandlerStack = s.mHandlerStack := by
  simp only [ParserState.recycle]
  split <;> rfl

@[simp] lemma recycle_root : (s.recycle ctx).mRoot = s.mRoot := by
  simp only [ParserState.recycle]
  split <;> rfl

@[simp] lemma recycle_next : (s.recycle ctx).next = s.next := by
  simp only [ParserState.recycle]
  split <;> rfl

@[simp] lemma recycle_self : (s.recycle ctx).mAssignments ctx.address = [] := by
  simp only [ParserState.recycle]
  split <;> exact setAssignments_self s ctx []

end

/-- The handler keeps what it kept, or the context. -/
lemma cached_of_recycle {h : H} {cached : HandlerContext H} (hcached : (s.recycle ctx).mCachedContext h = some cached) :
    s.mCachedContext h = some cached ∨ h = ctx.mHandler ∧ cached = ctx := by
  simp only [ParserState.recycle] at hcached
  split at hcached
  · exact .inl hcached
  · by_cases heq : h = ctx.mHandler
    · subst heq
      have hself := (update_self ..).symm.trans hcached
      exact .inr ⟨rfl, (Option.some.inj hself).symm⟩
    · exact .inl ((update_of_ne heq ..).symm.trans hcached)

lemma recycle_of_ne (s : ParserState H C) {ctx : HandlerContext H} {a : ℕ} (h : a ≠ ctx.address) :
    (s.recycle ctx).mAssignments a = s.mAssignments a := by
  simp only [ParserState.recycle]
  split <;> exact setAssignments_of_ne s h []

lemma Wf.recycle (h : Wf s K) (hmem : ctx ∈ s.mHandlerStack) :
    Wf ({ s with mHandlerStack := s.mHandlerStack.erase ctx }.recycle ctx) K := by
  have haddress := mem_map_of_mem (f := HandlerContext.address) hmem
  have hsub {a : ℕ} (ha : a ∈ (s.mHandlerStack.erase ctx).map HandlerContext.address) :
      a ∈ s.mHandlerStack.map HandlerContext.address :=
    (erase_sublist.map _).subset ha
  -- the addresses of the stack are distinct
  have hgone : ctx.address ∉ (s.mHandlerStack.erase ctx).map HandlerContext.address := by
    have hperm := (perm_cons_erase hmem).map HandlerContext.address
    have hnodup := hperm.nodup_iff.mp h.nodup
    rw [map_cons, nodup_cons] at hnodup
    exact hnodup.1
  have hold {own : H} {cached : HandlerContext H} (hcached : s.mCachedContext own = some cached) :
      cached.address ≠ ctx.address := by
    intro heq
    exact (h.cached own cached hcached).notMem_stack (heq ▸ haddress)
  refine ⟨?_, ?_, ?_, ?_, ?_, ?_⟩
  · rw [recycle_stack]
    exact h.nodup.sublist (erase_sublist.map _)
  · rw [recycle_stack, recycle_next]
    exact fun a ha => h.lt a (hsub ha)
  · rw [recycle_stack]
    exact fun a ha => h.notMem a (hsub ha)
  · rw [recycle_next]
    exact h.kept_lt
  · intro own cached hcached
    obtain hcached | ⟨rfl, rfl⟩ := cached_of_recycle hcached
    · have hfree := h.cached own cached hcached
      refine ⟨hfree.mHandler, ?_, hfree.notMem, ?_, ?_⟩
      · rw [recycle_next]
        exact hfree.lt
      · rw [recycle_stack]
        exact fun ha => hfree.notMem_stack (hsub ha)
      · rw [recycle_of_ne _ (hold hcached), hfree.empty]
    · refine ⟨rfl, ?_, h.notMem _ haddress, ?_, recycle_self _ _⟩
      · rw [recycle_next]
        exact h.lt _ haddress
      · rw [recycle_stack]
        exact hgone
  · intro own own' cached cached' hcached hcached' heq
    obtain hcached | ⟨rfl, rfl⟩ := cached_of_recycle hcached
    · obtain hcached' | ⟨rfl, rfl⟩ := cached_of_recycle hcached'
      · exact h.cached_inj own own' cached cached' hcached hcached' heq
      · exact absurd heq (hold hcached)
    · obtain hcached' | ⟨rfl, -⟩ := cached_of_recycle hcached'
      · exact absurd heq.symm (hold hcached')
      · rfl

/-- What pushing a context does: the context is empty, and nothing else changes. -/
structure Pushed (s : ParserState H C) (K : Set ℕ) (h : H) (ctx : HandlerContext H) (s' : ParserState H C) : Prop where
  wf : Wf s' K
  mHandler : ctx.mHandler = h
  stack : s'.mHandlerStack = ctx :: s.mHandlerStack
  root : s'.mRoot = s.mRoot
  empty : s'.mAssignments ctx.address = []
  frame : ∀ a, a ≠ ctx.address → s'.mAssignments a = s.mAssignments a

lemma Wf.push (hwf : Wf s K) (h : H) : Pushed s K h (s.push h).1 (s.push h).2 := by
  cases hcached : s.mCachedContext h with
  | some ctx =>
    have hfree := hwf.cached h ctx hcached
    have hpush : s.push h = (ctx, { s.setCached h none with mHandlerStack := ctx :: s.mHandlerStack }) := by
      simp [ParserState.push, ParserState.createContext, hcached, ParserState.setCached]
    rw [hpush]
    -- the other handlers keep other contexts
    have hother {own : H} {cached : HandlerContext H} (h' : (s.setCached h none).mCachedContext own = some cached) :
        own ≠ h ∧ s.mCachedContext own = some cached := by
      have hne : own ≠ h := by
        rintro rfl
        simp [ParserState.setCached] at h'
      exact ⟨hne, (update_of_ne hne ..).symm.trans h'⟩
    refine ⟨⟨?_, ?_, ?_, hwf.kept_lt, ?_, ?_⟩, hfree.mHandler, rfl, rfl, hfree.empty, fun a _ => rfl⟩
    · exact nodup_cons.mpr ⟨hfree.notMem_stack, hwf.nodup⟩
    · intro a ha
      obtain rfl | ha := mem_cons.mp ha
      · exact hfree.lt
      · exact hwf.lt a ha
    · intro a ha
      obtain rfl | ha := mem_cons.mp ha
      · exact hfree.notMem
      · exact hwf.notMem a ha
    · intro own cached h'
      obtain ⟨hne, h'⟩ := hother h'
      have hfree' := hwf.cached own cached h'
      refine ⟨hfree'.mHandler, hfree'.lt, hfree'.notMem, ?_, hfree'.empty⟩
      intro ha
      obtain heq | ha := mem_cons.mp ha
      · exact hne (hwf.cached_inj own h cached ctx h' hcached heq)
      · exact hfree'.notMem_stack ha
    · intro own own' cached cached' h' h'' heq
      exact hwf.cached_inj own own' cached cached' (hother h').2 (hother h'').2 heq
  | none =>
    have hpush : s.push h = (⟨s.next, h⟩, { { s with next := s.next + 1 }.setAssignments ⟨s.next, h⟩ [] with
        mHandlerStack := ⟨s.next, h⟩ :: s.mHandlerStack }) := by
      simp [ParserState.push, ParserState.createContext, hcached, ParserState.setAssignments]
    rw [hpush]
    refine ⟨⟨?_, ?_, ?_, ?_, ?_, hwf.cached_inj⟩, rfl, rfl, rfl, setAssignments_self _ _ _, ?_⟩
    · refine nodup_cons.mpr ⟨?_, hwf.nodup⟩
      intro ha
      exact Nat.lt_irrefl _ (hwf.lt _ ha)
    · intro a ha
      obtain rfl | ha := mem_cons.mp ha
      · exact Nat.lt_succ_self _
      · exact Nat.lt_succ_of_lt (hwf.lt a ha)
    · intro a ha
      obtain rfl | ha := mem_cons.mp ha
      · exact fun hK => Nat.lt_irrefl _ (hwf.kept_lt _ hK)
      · exact hwf.notMem a ha
    · exact fun a ha => Nat.lt_succ_of_lt (hwf.kept_lt a ha)
    · intro own cached h'
      have hfree := hwf.cached own cached h'
      have hne : cached.address ≠ s.next := Nat.ne_of_lt hfree.lt
      refine ⟨hfree.mHandler, Nat.lt_succ_of_lt hfree.lt, hfree.notMem, ?_, ?_⟩
      · intro ha
        obtain heq | ha := mem_cons.mp ha
        · exact hne heq
        · exact hfree.notMem_stack ha
      · exact (setAssignments_of_ne _ hne []).trans hfree.empty
    · exact fun a ha => setAssignments_of_ne _ ha []

end Recycle

end Belr
