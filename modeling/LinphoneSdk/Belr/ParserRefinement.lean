import LinphoneSdk.Belr.Contexts
import LinphoneSdk.Lib.Exec

/-!
# The parser builds the derivation that wins

Feeding a recognizer adds to the last context of the stack what the derivation collects, and leaves the stack and the
other contexts as they were.
-/

namespace Belr

open Exec List Option

variable {H C : Type} {s s' s₀ s₁ s₂ : ParserState H C} {K K' K₀ K₁ K₂ : Set ℕ} {ctx top : HandlerContext H}
  {rest : List (HandlerContext H)} {collected collected' : List (Collected H C)}

/-- What was collected was added to the last context of the stack; the other contexts of the stack and those that were
kept are as they were. -/
structure Grows (s : ParserState H C) (K : Set ℕ) (top : HandlerContext H) (rest : List (HandlerContext H))
    (collected : List (Collected H C)) (s' : ParserState H C) (K' : Set ℕ) : Prop where
  wf : Wf s' K'
  stack : s'.mHandlerStack = top :: rest
  root : s'.mRoot = s.mRoot
  subset : K ⊆ K'
  kept : ∀ a ∈ K, s'.mAssignments a = s.mAssignments a
  below : ∀ ctx ∈ rest, s'.mAssignments ctx.address = s.mAssignments ctx.address
  grown : ∃ assignments, s'.mAssignments top.address = s.mAssignments top.address ++ assignments ∧
    Denotes s'.mAssignments K' assignments collected

namespace Grows

lemma refl (hwf : Wf s K) (hstack : s.mHandlerStack = top :: rest) : Grows s K top rest [] s K where
  wf := hwf
  stack := hstack
  root := rfl
  subset := subset_rfl
  kept _ _ := rfl
  below _ _ := rfl
  grown := ⟨[], (append_nil _).symm, .nil⟩

lemma trans (h : Grows s K top rest collected s₁ K₁) (h' : Grows s₁ K₁ top rest collected' s₂ K₂) :
    Grows s K top rest (collected ++ collected') s₂ K₂ where
  wf := h'.wf
  stack := h'.stack
  root := h'.root.trans h.root
  subset := h.subset.trans h'.subset
  kept a ha := (h'.kept a (h.subset ha)).trans (h.kept a ha)
  below ctx hmem := (h'.below ctx hmem).trans (h.below ctx hmem)
  grown := by
    obtain ⟨l, hl, hdenotes⟩ := h.grown
    obtain ⟨l', hl', hdenotes'⟩ := h'.grown
    refine ⟨l ++ l', ?_, (hdenotes.mono h'.kept h'.subset).append hdenotes'⟩
    rw [hl', hl, append_assoc]

end Grows

/-- A match of the derivation, and the state after the recognizer was fed. If nothing matches, some assignments may be
left over. -/
def Fed (s : ParserState H C) (K : Set ℕ) (top : HandlerContext H) (rest : List (HandlerContext H))
    (derived : Except Failure (Match H C)) (matched : Option ℕ) (s' : ParserState H C) : Prop :=
  ∃ collected K', derived = .ok (matched.map fun n => (n, collected)) ∧ Grows s K top rest collected s' K'

/-- Nothing is left over, and a match of no character collects nothing. -/
def FedClean (s : ParserState H C) (K : Set ℕ) (top : HandlerContext H) (rest : List (HandlerContext H))
    (derived : Except Failure (Match H C)) (matched : Option ℕ) (s' : ParserState H C) : Prop :=
  ∃ collected K', derived = .ok (matched.map fun n => (n, collected)) ∧ (matched.getD 0 = 0 → collected = []) ∧
    Grows s K top rest collected s' K'

def Fails {α : Type} (derived : Except Failure α) (stop : Stop) (_ : ParserState H C) : Prop :=
  ∃ failure, stop = .failure failure ∧ derived = .error failure

lemma Fails.bind {α β : Type} {derived : Except Failure α} {f : α → Except Failure β} {stop : Stop}
    (h : Fails derived stop s) : Fails (derived >>= f) stop s := by
  obtain ⟨failure, rfl, rfl⟩ := h
  exact ⟨failure, rfl, rfl⟩

/-- The parser does what the derivation says, wherever it is on the stack. -/
def Follows (feed : ℕ → ℕ → ParserM H C (Option ℕ)) (derive : H → ℕ → ℕ → Except Failure (Match H C)) : Prop :=
  ∀ {s : ParserState H C} {K : Set ℕ} {top rest} (recognizer pos : ℕ), Wf s K → s.mHandlerStack = top :: rest →
    wp (feed recognizer pos) (FedClean s K top rest (derive top.mHandler recognizer pos))
      (Fails (derive top.mHandler recognizer pos)) s

variable {feed : ℕ → ℕ → ParserM H C (Option ℕ)} {derive : H → ℕ → ℕ → Except Failure (Match H C)}

/-! ### Sequences, loops and exclusive selectors -/

lemma wp_sequenceFeed (hfeed : Follows feed derive) (elements : List ℕ) (pos : ℕ) (hwf : Wf s K)
    (hstack : s.mHandlerStack = top :: rest) :
    wp (sequenceFeed feed elements pos) (Fed s K top rest (deriveSequence (derive top.mHandler) elements pos))
      (Fails (deriveSequence (derive top.mHandler) elements pos)) s := by
  induction elements generalizing s K pos with
  | nil => exact ⟨[], K, rfl, .refl hwf hstack⟩
  | cons element elements ih =>
    rw [sequenceFeed, deriveSequence, wp_bind]
    refine wp_mono (hfeed element pos hwf hstack) ?_ ?_
    · rintro matched s₁ ⟨collected, K₁, hderive, -, hgrows⟩
      rw [hderive]
      cases matched with
      | none => exact ⟨collected, K₁, rfl, hgrows⟩
      | some n =>
        simp only [wp_bind]
        refine wp_mono (ih (pos + n) hgrows.wf hgrows.stack) ?_ ?_
        · rintro total s₂ ⟨collected', K₂, hrest, hgrows'⟩
          simp only [map_some, bind, Except.bind, hrest]
          cases total with
          | none => exact ⟨_, K₂, rfl, hgrows.trans hgrows'⟩
          | some m => exact ⟨_, K₂, rfl, hgrows.trans hgrows'⟩
        · rintro stop s₂ ⟨failure, rfl, hrest⟩
          refine ⟨failure, rfl, ?_⟩
          simp only [map_some, bind, Except.bind, hrest]
    · exact fun _ _ h => h.bind

lemma wp_exclusiveFeed (hfeed : Follows feed derive) (elements : List ℕ) (pos : ℕ) (hwf : Wf s K)
    (hstack : s.mHandlerStack = top :: rest) :
    wp (exclusiveFeed feed pos elements) (Fed s K top rest (deriveFirst (derive top.mHandler) pos elements))
      (Fails (deriveFirst (derive top.mHandler) pos elements)) s := by
  induction elements generalizing s K with
  | nil => exact ⟨[], K, rfl, .refl hwf hstack⟩
  | cons element elements ih =>
    rw [exclusiveFeed, deriveFirst, wp_bind]
    refine wp_mono (hfeed element pos hwf hstack) ?_ ?_
    · rintro matched s₁ ⟨collected, K₁, hderive, hempty, hgrows⟩
      rw [hderive]
      -- an element that matches no character has collected nothing
      have hnext (hnil : collected = []) : wp (exclusiveFeed feed pos elements)
          (Fed s K top rest (deriveFirst (derive top.mHandler) pos elements))
          (Fails (deriveFirst (derive top.mHandler) pos elements)) s₁ := by
        subst hnil
        refine wp_mono (ih hgrows.wf hgrows.stack) ?_ (fun _ _ h => h)
        rintro matched s₂ ⟨collected, K₂, hrest, hgrows'⟩
        exact ⟨_, K₂, hrest, hgrows.trans hgrows'⟩
      match matched with
      | none => exact hnext (hempty rfl)
      | some 0 => exact hnext (hempty rfl)
      | some (n + 1) => exact ⟨collected, K₁, rfl, hgrows⟩
    · exact fun _ _ h => h.bind

/-- What a loop has done: the iterations, what they match and what they collect. -/
def FedLoop (s : ParserState H C) (K : Set ℕ) (top : HandlerContext H) (rest : List (HandlerContext H))
    (derived : Except Failure (ℕ × ℕ × List (Collected H C))) (result : ℕ × ℕ) (s' : ParserState H C) : Prop :=
  ∃ collected K', derived = .ok (result.1, result.2, collected) ∧ Grows s K top rest collected s' K'

lemma wp_loopFeed (hfeed : Follows feed derive) (input : Input) (mRecognizer : ℕ) (mMax : ℤ) (fuel repeats pos : ℕ)
    (hwf : Wf s K) (hstack : s.mHandlerStack = top :: rest) :
    wp (loopFeed feed input mRecognizer mMax fuel repeats pos)
      (FedLoop s K top rest (deriveIterations (derive top.mHandler) input mRecognizer mMax fuel repeats pos))
      (Fails (deriveIterations (derive top.mHandler) input mRecognizer mMax fuel repeats pos)) s := by
  induction fuel generalizing s K repeats pos with
  | zero => exact ⟨.outOfFuel, rfl, rfl⟩
  | succ fuel ih =>
    rw [loopFeed, deriveIterations]
    by_cases hloops : loops mMax repeats input pos
    · rw [if_pos hloops, if_pos hloops, wp_bind]
      refine wp_mono (hfeed mRecognizer pos hwf hstack) ?_ ?_
      · rintro matched s₁ ⟨collected, K₁, hderive, hempty, hgrows⟩
        rw [hderive]
        cases matched with
        | none =>
          -- the failed iteration has left nothing over
          obtain rfl := hempty rfl
          exact ⟨[], K₁, rfl, hgrows⟩
        | some n =>
          simp only [wp_bind]
          refine wp_mono (ih (repeats + 1) (pos + n) hgrows.wf hgrows.stack) ?_ ?_
          · rintro ⟨repeats', total⟩ s₂ ⟨collected', K₂, hrest, hgrows'⟩
            refine ⟨_, K₂, ?_, hgrows.trans hgrows'⟩
            simp only [map_some, bind, Except.bind, hrest]
            rfl
          · rintro stop s₂ ⟨failure, rfl, hrest⟩
            refine ⟨failure, rfl, ?_⟩
            simp only [map_some, bind, Except.bind, hrest]
      · exact fun _ _ h => h.bind
    · rw [if_neg hloops, if_neg hloops]
      exact ⟨[], K, rfl, .refl hwf hstack⟩

/-! ### Selectors -/

lemma wp_back {Q : HandlerContext H × List (HandlerContext H) → ParserState H C → Prop}
    {E : Stop → ParserState H C → Prop} (hstack : s.mHandlerStack = top :: rest) : wp back Q E s ↔ Q (top, rest) s := by
  rw [back, wp_bind, wp_get, hstack]
  rfl

/-- The contexts below are other ones. -/
lemma Wf.address_ne (hwf : Wf s K) (hstack : s.mHandlerStack = top :: rest) {ctx : HandlerContext H} (hmem : ctx ∈ rest) :
    ctx.address ≠ top.address := by
  have hnodup := hwf.nodup
  rw [hstack, map_cons, nodup_cons] at hnodup
  intro heq
  exact hnodup.1 (heq ▸ mem_map_of_mem hmem)

/-- No context of the stack is kept. -/
lemma Wf.ne_of_mem (hwf : Wf s K) (hmem : ctx ∈ s.mHandlerStack) {a : ℕ} (ha : a ∈ K) : a ≠ ctx.address := by
  rintro rfl
  exact hwf.notMem _ (mem_map_of_mem hmem) ha

/-- A pushed context is none of those that were there. -/
lemma Pushed.ne_of_mem {h : H} {br : HandlerContext H} (hpushed : Pushed s K h br s₁) {a : ℕ} (ha : a ∈ K) :
    a ≠ br.address := hpushed.wf.ne_of_mem (hpushed.stack ▸ mem_cons_self) ha

lemma Pushed.address_ne {h : H} {br : HandlerContext H} (hpushed : Pushed s K h br s₁) (hmem : ctx ∈ s.mHandlerStack) :
    ctx.address ≠ br.address := hpushed.wf.address_ne hpushed.stack hmem

/-- The best branch so far lies on the stack. -/
structure Branched (s : ParserState H C) (K : Set ℕ) (top : HandlerContext H) (rest : List (HandlerContext H))
    (ctx : HandlerContext H) (collected : List (Collected H C)) (s' : ParserState H C) (K' : Set ℕ) : Prop where
  wf : Wf s' K'
  stack : s'.mHandlerStack = ctx :: top :: rest
  mHandler : ctx.mHandler = top.mHandler
  root : s'.mRoot = s.mRoot
  subset : K ⊆ K'
  kept : ∀ a ∈ K, s'.mAssignments a = s.mAssignments a
  below : ∀ ctx ∈ top :: rest, s'.mAssignments ctx.address = s.mAssignments ctx.address
  denotes : Denotes s'.mAssignments K' (s'.mAssignments ctx.address) collected

/-- The best branch stays as it is. -/
lemma Branched.trans (h : Branched s K top rest ctx collected s₁ K₁) (h' : Grows s₁ K₁ ctx (top :: rest) [] s₂ K₂) :
    Branched s K top rest ctx collected s₂ K₂ := by
  obtain ⟨l, hl, hdenotes⟩ := h'.grown
  cases hdenotes
  rw [append_nil] at hl
  refine ⟨h'.wf, h'.stack, h.mHandler, h'.root.trans h.root, h.subset.trans h'.subset, ?_, ?_, ?_⟩
  · exact fun a ha => (h'.kept a (h.subset ha)).trans (h.kept a ha)
  · exact fun ctx hctx => (h'.below ctx hctx).trans (h.below ctx hctx)
  · rw [hl]
    exact h.denotes.mono h'.kept h'.subset

/-- The first branch that matches. -/
lemma Branched.of_grows {br : HandlerContext H} (hs : Grows s K top rest [] s₀ K₀)
    (hpushed : Pushed s₀ K₀ top.mHandler br s₁) (h : Grows s₁ K₀ br (top :: rest) collected s₂ K₂) :
    Branched s K top rest br collected s₂ K₂ := by
  obtain ⟨l, hl, hdenotes⟩ := hs.grown
  obtain ⟨l', hl', hdenotes'⟩ := h.grown
  cases hdenotes
  rw [append_nil] at hl
  rw [hpushed.empty, nil_append] at hl'
  refine ⟨h.wf, h.stack, hpushed.mHandler, ?_, hs.subset.trans h.subset, ?_, ?_, hl' ▸ hdenotes'⟩
  · exact h.root.trans (hpushed.root.trans hs.root)
  · intro a ha
    have hne := hpushed.ne_of_mem (hs.subset ha)
    exact (h.kept a (hs.subset ha)).trans ((hpushed.frame a hne).trans (hs.kept a ha))
  · intro ctx hctx
    have hne : ctx.address ≠ br.address := hpushed.address_ne (hs.stack ▸ hctx)
    refine (h.below ctx hctx).trans ((hpushed.frame _ hne).trans ?_)
    obtain rfl | hctx := mem_cons.mp hctx
    · exact hl
    · exact hs.below ctx hctx

section Selector

variable [DecidableEq H]

variable {E : Stop → ParserState H C → Prop}

lemma wp_branch {Q : HandlerContext H → ParserState H C → Prop} (hstack : s.mHandlerStack = top :: rest) :
    wp branch Q E s ↔ Q (s.push top.mHandler).1 (s.push top.mHandler).2 := by
  rw [branch, wp_bind, wp_get, hstack]
  rfl

lemma wp_removeBranch {Q : Unit → ParserState H C → Prop} (hmem : ctx ∈ s.mHandlerStack) :
    wp (removeBranch ctx) Q E s ↔ Q () ({ s with mHandlerStack := s.mHandlerStack.erase ctx }.recycle ctx) := by
  rw [removeBranch, wp_bind, wp_get, if_neg (not_not.mpr hmem)]
  rfl

/-- No branch that is merged is elsewhere than at the end of the stack. -/
lemma wp_merge {Q : Unit → ParserState H C → Prop} (hstack : s.mHandlerStack = ctx :: top :: rest) :
    wp (merge ctx) Q E s ↔ Q () (({ s with mHandlerStack := top :: rest }.setAssignments top
      (s.mAssignments top.address ++ s.mAssignments ctx.address)).recycle ctx) := by
  rw [merge, wp_bind, wp_back hstack]
  simp only [ne_eq, not_true_eq_false, ↓reduceIte]
  rfl

/-- The branch that failed, or that is not better, is removed. -/
lemma Grows.removeBranch {own : H} {br : HandlerContext H} (hpushed : Pushed s K own br s₁)
    (hstack : s.mHandlerStack = top :: rest) (h : Grows s₁ K br (top :: rest) collected s₂ K₂) :
    Grows s K top rest [] ({ s₂ with mHandlerStack := s₂.mHandlerStack.erase br }.recycle br) K₂ := by
  have hmem : br ∈ s₂.mHandlerStack := h.stack ▸ mem_cons_self
  have hbelow {ctx : HandlerContext H} (hctx : ctx ∈ top :: rest) :
      ({ s₂ with mHandlerStack := s₂.mHandlerStack.erase br }.recycle br).mAssignments ctx.address =
        s.mAssignments ctx.address := by
    have hne : ctx.address ≠ br.address := hpushed.address_ne (hstack ▸ hctx)
    rw [recycle_of_ne _ hne]
    exact (h.below ctx hctx).trans (hpushed.frame _ hne)
  refine ⟨h.wf.recycle hmem, ?_, ?_, h.subset, ?_, fun ctx hctx => hbelow (mem_cons_of_mem _ hctx), [], ?_, .nil⟩
  · rw [recycle_stack, h.stack, erase_cons_head]
  · rw [recycle_root]
    exact h.root.trans hpushed.root
  · intro a ha
    have hne := hpushed.ne_of_mem ha
    rw [recycle_of_ne _ hne]
    exact (h.kept a ha).trans (hpushed.frame a hne)
  · rw [append_nil]
    exact hbelow mem_cons_self

/-- A longer branch takes the place of the best one. -/
lemma Branched.replace {br : HandlerContext H} (hs : Branched s K top rest ctx collected s₀ K₀)
    (hpushed : Pushed s₀ K₀ ctx.mHandler br s₁) (h : Grows s₁ K₀ br (ctx :: top :: rest) collected' s₂ K₂) :
    Branched s K top rest br collected' ({ s₂ with mHandlerStack := s₂.mHandlerStack.erase ctx }.recycle ctx) K₂ := by
  have hmem : ctx ∈ s₂.mHandlerStack := h.stack ▸ mem_cons_of_mem _ mem_cons_self
  have hbr : ctx.address ≠ br.address := h.wf.address_ne h.stack mem_cons_self
  obtain ⟨l, hl, hdenotes⟩ := h.grown
  rw [hpushed.empty, nil_append] at hl
  refine ⟨h.wf.recycle hmem, ?_, hpushed.mHandler.trans hs.mHandler, ?_, hs.subset.trans h.subset, ?_, ?_, ?_⟩
  · have hne : br ≠ ctx := fun heq => hbr (heq ▸ rfl)
    rw [recycle_stack, h.stack, erase_cons_tail (by simpa using hne), erase_cons_head]
  · rw [recycle_root]
    exact h.root.trans (hpushed.root.trans hs.root)
  · intro a ha
    have ha₀ := hs.subset ha
    rw [recycle_of_ne _ (hs.wf.ne_of_mem (hs.stack ▸ mem_cons_self) ha₀)]
    exact (h.kept a ha₀).trans ((hpushed.frame a (hpushed.ne_of_mem ha₀)).trans (hs.kept a ha))
  · intro below hbelow
    have hne : below.address ≠ br.address := hpushed.address_ne (hs.stack ▸ mem_cons_of_mem _ hbelow)
    rw [recycle_of_ne _ (hs.wf.address_ne hs.stack hbelow)]
    exact (h.below below (mem_cons_of_mem _ hbelow)).trans ((hpushed.frame _ hne).trans (hs.below below hbelow))
  · rw [recycle_of_ne _ hbr.symm]
    rw [← hl] at hdenotes
    exact hdenotes.mono (fun a ha => recycle_of_ne _ (h.wf.ne_of_mem hmem ha)) subset_rfl

/-- The best branch is merged. -/
lemma Branched.merge (h : Branched s K top rest ctx collected s₁ K₁) :
    Grows s K top rest collected (({ s₁ with mHandlerStack := top :: rest }.setAssignments top
      (s₁.mAssignments top.address ++ s₁.mAssignments ctx.address)).recycle ctx) K₁ := by
  have hmem : ctx ∈ s₁.mHandlerStack := h.stack ▸ mem_cons_self
  have htop : top ∈ s₁.mHandlerStack := h.stack ▸ mem_cons_of_mem _ mem_cons_self
  have hne : top.address ≠ ctx.address := h.wf.address_ne h.stack mem_cons_self
  refine ⟨?_, ?_, ?_, h.subset, ?_, ?_, s₁.mAssignments ctx.address, ?_, ?_⟩
  · have hwf := (h.wf.setAssignments (mem_map_of_mem htop)
      (s₁.mAssignments top.address ++ s₁.mAssignments ctx.address)).recycle hmem
    rwa [setAssignments_stack, h.stack, erase_cons_head] at hwf
  · rw [recycle_stack, setAssignments_stack]
  · rw [recycle_root, setAssignments_root]
    exact h.root
  · intro a ha
    rw [recycle_of_ne _ (h.wf.ne_of_mem hmem (h.subset ha)),
      setAssignments_of_ne _ (h.wf.ne_of_mem htop (h.subset ha))]
    exact h.kept a ha
  · intro below hbelow
    have hrest : { s₁ with mHandlerStack := top :: rest }.mHandlerStack = top :: rest := rfl
    rw [recycle_of_ne _ (h.wf.address_ne h.stack (mem_cons_of_mem _ hbelow)), setAssignments_of_ne]
    · exact h.below below (mem_cons_of_mem _ hbelow)
    · have hnodup := h.wf.nodup
      rw [h.stack, map_cons, nodup_cons, map_cons, nodup_cons] at hnodup
      intro heq
      exact hnodup.2.1 (heq ▸ mem_map_of_mem hbelow)
  · rw [recycle_of_ne _ hne, setAssignments_self, h.below top mem_cons_self]
  · refine h.denotes.mono (fun a ha => ?_) subset_rfl
    rw [recycle_of_ne _ (h.wf.ne_of_mem hmem ha), setAssignments_of_ne _ (h.wf.ne_of_mem htop ha)]

/-- The best branch so far, and the best derivation so far. -/
def Best (s : ParserState H C) (K : Set ℕ) (top : HandlerContext H) (rest : List (HandlerContext H)) :
    Option (ℕ × HandlerContext H) → Match H C → ParserState H C → Set ℕ → Prop
  | none, none, s', K' => Grows s K top rest [] s' K'
  | some (n, ctx), some (m, collected), s', K' => n = m ∧ Branched s K top rest ctx collected s' K'
  | _, _, _, _ => False

lemma wp_selectorFeed (hfeed : Follows feed derive) (elements : List ℕ) (pos : ℕ) {best : Option (ℕ × HandlerContext H)}
    {derived : Match H C} (hbest : Best s K top rest best derived s₁ K₁) :
    wp (selectorFeed feed pos elements best) (fun best' s' => ∃ derived' K',
        deriveLongest (derive top.mHandler) pos elements derived = .ok derived' ∧ Best s K top rest best' derived' s' K')
      (Fails (deriveLongest (derive top.mHandler) pos elements derived)) s₁ := by
  induction elements generalizing best derived s₁ K₁ with
  | nil => exact ⟨derived, K₁, rfl, hbest⟩
  | cons element elements ih =>
    rw [selectorFeed, deriveLongest, wp_bind]
    match best, derived, hbest with
    | none, none, hgrows =>
      have hpushed := hgrows.wf.push top.mHandler
      have hfed := hfeed element pos hpushed.wf (hpushed.stack.trans (congrArg _ hgrows.stack))
      rw [hpushed.mHandler] at hfed
      rw [wp_branch hgrows.stack, wp_bind]
      refine wp_mono hfed ?_ ?_
      · rintro matched s₂ ⟨collected, K₂, hderive, -, hgrows'⟩
        rw [hderive]
        cases matched with
        | none =>
          have hmem : (s₁.push top.mHandler).1 ∈ s₂.mHandlerStack := hgrows'.stack ▸ mem_cons_self
          have hnext := hgrows.trans (Grows.removeBranch hpushed hgrows.stack hgrows')
          rw [wp_bind, wp_removeBranch hmem]
          exact @ih _ _ none none hnext
        | some n =>
          have hnext := Branched.of_grows hgrows hpushed hgrows'
          exact @ih _ _ (some (n, _)) (some (n, collected)) ⟨rfl, hnext⟩
      · exact fun _ _ h => h.bind
    | some (m, ctx), some (_, collected), ⟨rfl, hbranched⟩ =>
      have hpushed := hbranched.wf.push ctx.mHandler
      have hfed := hfeed element pos hpushed.wf (hpushed.stack.trans (congrArg _ hbranched.stack))
      rw [hpushed.mHandler.trans hbranched.mHandler] at hfed
      rw [wp_branch hbranched.stack, wp_bind]
      refine wp_mono hfed ?_ ?_
      · rintro matched s₂ ⟨collected', K₂, hderive, -, hgrows⟩
        rw [hderive]
        have hmem : (s₁.push ctx.mHandler).1 ∈ s₂.mHandlerStack := hgrows.stack ▸ mem_cons_self
        have hctx : ctx ∈ s₂.mHandlerStack := hgrows.stack ▸ mem_cons_of_mem _ mem_cons_self
        have hstay := hbranched.trans (Grows.removeBranch hpushed hbranched.stack hgrows)
        cases matched with
        | none =>
          rw [wp_bind, wp_removeBranch hmem]
          exact @ih _ _ (some (m, ctx)) (some (m, collected)) ⟨rfl, hstay⟩
        | some n =>
          by_cases hlt : m < n
          · simp only [hlt, ↓reduceIte, map_some, ok_bind]
            rw [wp_bind, wp_removeBranch hctx]
            exact @ih _ _ (some (n, _)) (some (n, collected')) ⟨rfl, hbranched.replace hpushed hgrows⟩
          · simp only [hlt, ↓reduceIte, map_some, ok_bind]
            rw [wp_bind, wp_removeBranch hmem]
            exact @ih _ _ (some (m, ctx)) (some (m, collected)) ⟨rfl, hstay⟩
      · exact fun _ _ h => h.bind

lemma wp_kindFeed (hfeed : Follows feed derive) (input : Input) (fuel pos : ℕ) (kind : Kind) (hwf : Wf s K)
    (hstack : s.mHandlerStack = top :: rest) :
    wp (kindFeed feed input fuel pos kind) (Fed s K top rest (deriveKind (derive top.mHandler) input fuel pos kind))
      (Fails (deriveKind (derive top.mHandler) input fuel pos kind)) s := by
  have hrefl : Grows s K top rest [] s K := .refl hwf hstack
  have hpointed (pointed : ℕ) : wp (feed pointed pos) (Fed s K top rest (derive top.mHandler pointed pos))
      (Fails (derive top.mHandler pointed pos)) s := by
    refine wp_mono (hfeed pointed pos hwf hstack) ?_ (fun _ _ h => h)
    rintro matched s₁ ⟨collected, K₁, hderive, -, hgrows⟩
    exact ⟨collected, K₁, hderive, hgrows⟩
  cases kind with
  | charRecognizer mToRecognize mCaseSensitive => exact ⟨[], K, rfl, hrefl⟩
  | charRange mBegin mEnd => exact ⟨[], K, rfl, hrefl⟩
  | literal mLiteral => exact ⟨[], K, rfl, hrefl⟩
  | selector mIsExclusive mElements =>
    cases mIsExclusive with
    | true => exact wp_exclusiveFeed hfeed mElements pos hwf hstack
    | false =>
      rw [kindFeed, deriveKind, wp_bind]
      refine wp_mono (@wp_selectorFeed _ _ _ _ _ _ _ _ _ _ _ hfeed mElements pos none none hrefl) ?_ (fun _ _ h => h)
      rintro best s₁ ⟨derived, K₁, hderive, hbest⟩
      rcases best with _ | ⟨n, ctx⟩ <;> rcases derived with _ | ⟨m, collected⟩
      · exact ⟨[], K₁, hderive, hbest⟩
      · cases hbest
      · cases hbest
      · obtain ⟨rfl, hbranched⟩ := hbest
        rw [wp_bind, wp_merge hbranched.stack]
        exact ⟨collected, K₁, hderive, hbranched.merge⟩
  | exclusiveSelector mElements => exact wp_exclusiveFeed hfeed mElements pos hwf hstack
  | sequence mElements => exact wp_sequenceFeed hfeed mElements pos hwf hstack
  | loop mRecognizer mMin mMax =>
    rw [kindFeed, deriveKind, wp_bind]
    refine wp_mono (wp_loopFeed hfeed input mRecognizer mMax fuel 0 pos hwf hstack) ?_ ?_
    · rintro ⟨repeats, total⟩ s₁ ⟨collected, K₁, hderive, hgrows⟩
      rw [hderive, ok_bind]
      by_cases hlt : (repeats : ℤ) < mMin
      · simp only [hlt, ↓reduceIte]
        exact ⟨collected, K₁, rfl, hgrows⟩
      · simp only [hlt, ↓reduceIte]
        exact ⟨collected, K₁, rfl, hgrows⟩
    · exact fun _ _ h => h.bind
  | recognizerPointer mRecognizer =>
    cases mRecognizer with
    | none => exact ⟨.undefinedRecognizer, rfl, rfl⟩
    | some pointed => exact hpointed pointed
  | recognizerAlias mRecognizer =>
    cases mRecognizer with
    | none => exact ⟨.undefinedRecognizer, rfl, rfl⟩
    | some pointed => exact hpointed pointed

end Selector

/-! ### Recognizers -/

namespace Grows

lemma add (h : Grows s K top rest collected s₂ K₂) {l : List (Assignment H C)}
    (hl : Denotes s₂.mAssignments K₂ l collected') : Grows s K top rest (collected ++ collected')
      (s₂.setAssignments top (s₂.mAssignments top.address ++ l)) K₂ := by
  have htop : top ∈ s₂.mHandlerStack := h.stack ▸ mem_cons_self
  have hkept {a : ℕ} (ha : a ∈ K₂) :
      (s₂.setAssignments top (s₂.mAssignments top.address ++ l)).mAssignments a = s₂.mAssignments a :=
    setAssignments_of_ne _ (h.wf.ne_of_mem htop ha) _
  obtain ⟨l₀, hl₀, hdenotes⟩ := h.grown
  refine ⟨h.wf.setAssignments (mem_map_of_mem htop) _, h.stack, h.root, h.subset, ?_, ?_, l₀ ++ l, ?_, ?_⟩
  · exact fun a ha => (hkept (h.subset ha)).trans (h.kept a ha)
  · intro below hbelow
    rw [setAssignments_of_ne _ (h.wf.address_ne h.stack hbelow)]
    exact h.below below hbelow
  · rw [setAssignments_self, hl₀, append_assoc]
  · exact (hdenotes.append hl).mono (fun a ha => hkept ha) subset_rfl

/-- What was left over is removed. -/
lemma undo (h : Grows s K top rest collected s₂ K₂) : Grows s K top rest []
      (s₂.setAssignments top ((s₂.mAssignments top.address).take (s.mAssignments top.address).length)) K₂ := by
  have htop : top ∈ s₂.mHandlerStack := h.stack ▸ mem_cons_self
  obtain ⟨l₀, hl₀, -⟩ := h.grown
  refine ⟨h.wf.setAssignments (mem_map_of_mem htop) _, h.stack, h.root, h.subset, ?_, ?_, [], ?_, .nil⟩
  · intro a ha
    rw [setAssignments_of_ne _ (h.wf.ne_of_mem htop (h.subset ha))]
    exact h.kept a ha
  · intro below hbelow
    rw [setAssignments_of_ne _ (h.wf.address_ne h.stack hbelow)]
    exact h.below below hbelow
  · rw [setAssignments_self, hl₀, take_left', append_nil]
    rfl

/-- The context of a rule is taken from the stack, and kept. -/
lemma pop {own : H} (hpushed : Pushed s K own ctx s₁) (hstack : s.mHandlerStack = top :: rest)
    (h : Grows s₁ K ctx (top :: rest) collected s₂ K₂) :
    Grows s K top rest [] { s₂ with mHandlerStack := top :: rest } (insert ctx.address K₂) ∧
      Denotes s₂.mAssignments (insert ctx.address K₂) (s₂.mAssignments ctx.address) collected := by
  obtain ⟨l, hl, hdenotes⟩ := h.grown
  rw [hpushed.empty, nil_append] at hl
  have hbelow {below : HandlerContext H} (hmem : below ∈ top :: rest) :
      s₂.mAssignments below.address = s.mAssignments below.address :=
    (h.below below hmem).trans (hpushed.frame _ (hpushed.address_ne (hstack ▸ hmem)))
  constructor
  · refine ⟨h.wf.keep h.stack, rfl, h.root.trans hpushed.root, h.subset.trans (Set.subset_insert _ _), ?_, ?_, [], ?_,
      .nil⟩
    · exact fun a ha => (h.kept a ha).trans (hpushed.frame a (hpushed.ne_of_mem ha))
    · exact fun below hmem => hbelow (mem_cons_of_mem _ hmem)
    · rw [append_nil]
      exact hbelow mem_cons_self
  · rw [hl]
    exact hdenotes.mono (fun _ _ => rfl) (Set.subset_insert _ _)

end Grows

section Feed

variable (handlers : Handlers H C) {mId pos n : ℕ} {own : H}

/-- What a rule with a handler collects is given to the rule around it. -/
lemma Grows.child (hhandler : handlers.getHandler mId = some own) (hpushed : Pushed s K own ctx s₁)
    (hstack : s.mHandlerStack = top :: rest) (h : Grows s₁ K ctx (top :: rest) collected s₂ K₂) :
    Grows s K top rest (collect handlers top.mHandler mId pos n collected)
      ({ s₂ with mHandlerStack := top :: rest }.setChild handlers top mId pos n (some ctx)) (insert ctx.address K₂) := by
  obtain ⟨hpop, hdenotes⟩ := Grows.pop hpushed hstack h
  simp only [collect, hhandler, ParserState.setChild]
  cases hcollector : handlers.getCollector top.mHandler mId with
  | none => exact hpop
  | some collector =>
    have hchild := Denotes.child collector pos n (Set.mem_insert _ _) hdenotes .nil
    rw [hpushed.mHandler] at hchild
    exact hpop.add hchild

/-- A rule without a handler adds to what the rule around it collects. -/
lemma Grows.value (hhandler : handlers.getHandler mId = none) (h : Grows s K top rest collected s₂ K₂) :
    Grows s K top rest (collect handlers top.mHandler mId pos n collected)
      (if mId ≠ 0 then s₂.setChild handlers top mId pos n none else s₂) K₂ := by
  simp only [collect, hhandler, ParserState.setChild]
  by_cases hmId : mId ≠ 0
  · rw [if_pos hmId, if_pos hmId]
    cases hcollector : handlers.getCollector top.mHandler mId with
    | none => exact h
    | some collector => exact h.add (.value collector pos n .nil)
  · rw [if_neg hmId, if_neg hmId]
    exact h

variable [DecidableEq H] (grammar : Recognizers) (input : Input) {mAssignmentPos : ℕ}
  {Q : Unit → ParserState H C → Prop} {E : Stop → ParserState H C → Prop}

lemma wp_beginParse_of_handler {Q : Option (HandlerContext H) × ℕ → ParserState H C → Prop}
    (hhandler : handlers.getHandler mId = some own) (hpushed : Pushed s K own (s.push own).1 (s.push own).2) :
    wp (beginParse handlers mId) Q E s ↔ Q (some (s.push own).1, 0) (s.push own).2 := by
  rw [beginParse, hhandler]
  simp only [wp_bind, wp_modifyGet, wp_get, hpushed.stack, hpushed.empty]
  rfl

lemma wp_beginParse {Q : Option (HandlerContext H) × ℕ → ParserState H C → Prop}
    (hhandler : handlers.getHandler mId = none) (hstack : s.mHandlerStack = top :: rest) :
    wp (beginParse handlers mId) Q E s ↔ Q (none, (s.mAssignments top.address).length) s := by
  rw [beginParse, hhandler]
  simp only [wp_bind, wp_pure, wp_get, hstack]

lemma wp_endParse_child (hstack : s.mHandlerStack = ctx :: top :: rest) :
    wp (endParse handlers mId pos (some (n + 1)) (some ctx, mAssignmentPos)) Q E s ↔
      Q () ({ s with mHandlerStack := top :: rest }.setChild handlers top mId pos (n + 1) (some ctx)) := by
  rw [endParse, wp_bind, wp_back hstack]
  rfl

lemma wp_endParse_root (hstack : s.mHandlerStack = [ctx]) :
    wp (endParse handlers mId pos (some (n + 1)) (some ctx, mAssignmentPos)) Q E s ↔
      Q () { s with mHandlerStack := [], mRoot := some ctx } := by
  rw [endParse, wp_bind, wp_back hstack]
  rfl

lemma wp_endParse_recycle (hstack : s.mHandlerStack = ctx :: rest) {matched : Option ℕ} (hmatched : matched.getD 0 = 0) :
    wp (endParse handlers mId pos matched (some ctx, mAssignmentPos)) Q E s ↔
      Q () ({ s with mHandlerStack := s.mHandlerStack.erase ctx }.recycle ctx) := by
  rw [endParse, wp_bind, wp_back hstack, hstack, erase_cons_head]
  match matched, hmatched with
  | none, _ => rfl
  | some 0, _ => rfl

lemma wp_endParse_value (hstack : s.mHandlerStack = top :: rest) :
    wp (endParse handlers mId pos (some (n + 1)) (none, mAssignmentPos)) Q E s ↔
      Q () (if mId ≠ 0 then s.setChild handlers top mId pos (n + 1) none else s) := by
  rw [endParse, wp_bind, wp_back hstack]
  by_cases hmId : mId ≠ 0
  · simp only [if_pos hmId]
    rfl
  · simp only [if_neg hmId]
    rfl

lemma wp_endParse_undo (hstack : s.mHandlerStack = top :: rest) {matched : Option ℕ} (hmatched : matched.getD 0 = 0) :
    wp (endParse handlers mId pos matched (none, mAssignmentPos)) Q E s ↔
      Q () (s.setAssignments top ((s.mAssignments top.address).take mAssignmentPos)) := by
  rw [endParse, wp_bind, wp_back hstack]
  match matched, hmatched with
  | none, _ => rfl
  | some 0, _ => rfl

lemma follows_feed (fuel : ℕ) : Follows (Belr.feed handlers grammar input fuel)
    (Belr.derive handlers grammar input fuel) := by
  induction fuel with
  | zero => exact fun _ _ _ _ => ⟨.outOfFuel, rfl, rfl⟩
  | succ fuel ih =>
    intro s K top rest recognizer pos hwf hstack
    rw [Belr.feed, Belr.derive, wp_bind]
    cases hhandler : handlers.getHandler (grammar recognizer).mId with
    | some own =>
      have hpushed := hwf.push own
      have hkind := wp_kindFeed ih input fuel pos (grammar recognizer).kind hpushed.wf
        (hpushed.stack.trans (congrArg _ hstack))
      rw [hpushed.mHandler] at hkind
      rw [wp_beginParse_of_handler handlers hhandler hpushed, wp_bind, getD_some]
      refine wp_mono hkind ?_ ?_
      · rintro matched s₂ ⟨collected, K₂, hderive, hgrows⟩
        rw [hderive, wp_bind]
        have hremoved := Grows.removeBranch hpushed hstack hgrows
        match matched with
        | none =>
          rw [wp_endParse_recycle handlers hgrows.stack rfl]
          exact ⟨[], K₂, rfl, fun _ => rfl, hremoved⟩
        | some 0 =>
          rw [wp_endParse_recycle handlers hgrows.stack rfl]
          exact ⟨[], K₂, rfl, fun _ => rfl, hremoved⟩
        | some (n + 1) =>
          rw [wp_endParse_child handlers hgrows.stack]
          exact ⟨_, _, rfl, by simp, Grows.child handlers hhandler hpushed hstack hgrows⟩
      · exact fun _ _ h => h.bind
    | none =>
      have hkind := wp_kindFeed ih input fuel pos (grammar recognizer).kind hwf hstack
      rw [wp_beginParse handlers hhandler hstack, wp_bind, getD_none]
      refine wp_mono hkind ?_ ?_
      · rintro matched s₂ ⟨collected, K₂, hderive, hgrows⟩
        rw [hderive, wp_bind]
        match matched with
        | none =>
          rw [wp_endParse_undo handlers hgrows.stack rfl]
          exact ⟨[], K₂, rfl, fun _ => rfl, hgrows.undo⟩
        | some 0 =>
          rw [wp_endParse_undo handlers hgrows.stack rfl]
          exact ⟨[], K₂, rfl, fun _ => rfl, hgrows.undo⟩
        | some (n + 1) =>
          rw [wp_endParse_value handlers hgrows.stack]
          exact ⟨_, _, rfl, by simp, Grows.value handlers hhandler hgrows⟩
      · exact fun _ _ h => h.bind

end Feed

end Belr
