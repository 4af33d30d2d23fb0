import LinphoneSdk.Belr.DerivationOrder
import LinphoneSdk.Belr.ParserRefinement

/-!
# The objects that the parser builds

The object that is realized from the contexts is the one that is built from the derivation. This holds for any calls of
one parser, whose handlers keep recycled contexts from one call to the next.
-/

namespace Belr

open Exec List

variable {H C E W : Type} {s : ParserState H C} {K : Set ℕ} (handlers : Handlers H C) (grammar : Recognizers)
  (application : Application H C E W)

/-! ### Realization -/

variable {mAssignments : ℕ → List (Assignment H C)} {collected : List (Collected H C)}

lemma realize_succ (input : Input) {ctx : HandlerContext H} {d : ℕ}
    (h : ∀ (parent : E) (w : W), (mAssignments ctx.address).foldlM
      (Assignment.invoke input application (realize input application mAssignments d) parent) w =
        some (assignAll input application parent collected w)) (pos count : ℕ) (w : W) :
    realize input application mAssignments (d + 1) ctx pos count w =
      some (build input application ctx.mHandler pos count collected w) := by
  rw [realize]
  simp only [h]
  rfl

/-- What the assignments of a context do is what is done for what they denote. -/
lemma foldlM_invoke (input : Input) {l : List (Assignment H C)} (h : Denotes mAssignments K l collected) :
    ∃ depth, ∀ d ≥ depth, ∀ (parent : E) (w : W),
      l.foldlM (Assignment.invoke input application (realize input application mAssignments d) parent) w =
        some (assignAll input application parent collected w) := by
  induction h with
  | nil => exact ⟨0, fun _ _ _ _ => rfl⟩
  | value collector pos count _ ih =>
    obtain ⟨depth, hdepth⟩ := ih
    refine ⟨depth, fun d hd parent w => ?_⟩
    rw [foldlM_cons, assignAll, ← hdepth d hd]
    rfl
  | @child assignments collected collector pos count ctx inner _ _ _ ihinner ih =>
    obtain ⟨depth, hdepth⟩ := ih
    obtain ⟨depth', hdepth'⟩ := ihinner
    refine ⟨max depth (depth' + 1), fun d hd parent w => ?_⟩
    obtain ⟨d, rfl⟩ : ∃ d', d = d' + 1 := ⟨d - 1, by omega⟩
    have hrealize := realize_succ application input (hdepth' d (by omega)) pos count w
    rw [foldlM_cons, assignAll, ← hdepth (d + 1) (by omega)]
    simp only [Assignment.invoke, hrealize]
    rfl

lemma realize_eq (input : Input) {ctx : HandlerContext H}
    (h : Denotes mAssignments K (mAssignments ctx.address) collected) (pos count : ℕ) :
    ∃ depth, ∀ d ≥ depth, ∀ w, realize input application mAssignments d ctx pos count w =
      some (build input application ctx.mHandler pos count collected w) := by
  obtain ⟨depth, hdepth⟩ := foldlM_invoke application input h
  refine ⟨depth + 1, fun d hd w => ?_⟩
  obtain ⟨d, rfl⟩ : ∃ d', d = d' + 1 := ⟨d - 1, by omega⟩
  exact realize_succ application input (hdepth d (by omega)) pos count w

/-! ### The root -/

/-- The root is the context of the rule that is parsed, if it matches a character. -/
def Rooted (own : H) (s : ParserState H C) (K : Set ℕ) (collected : List (Collected H C)) : Option ℕ → Prop
  | some (_ + 1) => ∃ ctx, s.mRoot = some ctx ∧ ctx.mHandler = own ∧
      Denotes s.mAssignments K (s.mAssignments ctx.address) collected
  | _ => s.mRoot = none

lemma Wf.reset (h : Wf s K) (mRoot : Option (HandlerContext H)) : Wf { s with mHandlerStack := [], mRoot } K where
  nodup := nodup_nil
  lt _ ha := absurd ha not_mem_nil
  notMem _ ha := absurd ha not_mem_nil
  kept_lt := h.kept_lt
  cached_inj := h.cached_inj
  cached own ctx hcached := by
    have hfree := h.cached own ctx hcached
    exact ⟨hfree.mHandler, hfree.lt, hfree.notMem, not_mem_nil, hfree.empty⟩

section Root

variable [DecidableEq H]

lemma wp_feed_root {own : H} {rule : ℕ} (hhandler : handlers.getHandler (grammar rule).mId = some own) (hwf : Wf s K)
    (hstack : s.mHandlerStack = []) (hroot : s.mRoot = none) (input : Input) (fuel : ℕ) :
    wp (feed handlers grammar input fuel rule 0) (fun matched s' => ∃ collected K',
        deriveRule handlers grammar input own rule fuel = .ok (matched.map fun n => (n, collected)) ∧ Wf s' K' ∧
          Rooted own s' K' collected matched) (Fails (deriveRule handlers grammar input own rule fuel)) s := by
  cases fuel with
  | zero => exact ⟨.outOfFuel, rfl, rfl⟩
  | succ fuel =>
    rw [feed, deriveRule, wp_bind]
    have hpushed := hwf.push own
    have hkind := wp_kindFeed (follows_feed handlers grammar input fuel) input fuel 0 (grammar rule).kind hpushed.wf
      (hpushed.stack.trans (congrArg _ hstack))
    rw [hpushed.mHandler] at hkind
    rw [wp_beginParse_of_handler handlers hhandler hpushed, wp_bind]
    refine wp_mono hkind ?_ (fun _ _ h => h)
    rintro matched s₂ ⟨collected, K₂, hderive, hgrows⟩
    rw [wp_bind]
    have hmem : (s.push own).1 ∈ s₂.mHandlerStack := by
      rw [hgrows.stack]
      exact mem_cons_self
    have hnoroot : s₂.mRoot = none := hgrows.root.trans (hpushed.root.trans hroot)
    rcases matched with _ | _ | n
    · rw [wp_endParse_recycle handlers hgrows.stack rfl]
      exact ⟨collected, K₂, hderive, hgrows.wf.recycle hmem, (recycle_root _ _).trans hnoroot⟩
    · rw [wp_endParse_recycle handlers hgrows.stack rfl]
      exact ⟨collected, K₂, hderive, hgrows.wf.recycle hmem, (recycle_root _ _).trans hnoroot⟩
    · rw [wp_endParse_root handlers hgrows.stack]
      obtain ⟨l, hl, hdenotes⟩ := hgrows.grown
      rw [hpushed.empty, nil_append] at hl
      rw [← hl] at hdenotes
      refine ⟨collected, _, hderive, (hgrows.wf.keep hgrows.stack).reset _, _, rfl, hpushed.mHandler, ?_⟩
      exact hdenotes.mono (fun _ _ => rfl) (Set.subset_insert _ _)

/-! ### Calls -/

lemma parseInput_of_feed {call : Call} {own : H} (hhandler : handlers.getHandler (grammar call.rule).mId = some own)
    {parsed : Option ℕ} {s' : ParserState H C} {fuel : ℕ}
    (hfeed : feed handlers grammar call.input fuel call.rule 0 { s with mHandlerStack := [], mRoot := none } =
      .ok parsed s') (depth : ℕ) (w : W) :
    parseInput handlers grammar application fuel depth call w s =
      if call.fullMatch ∧ parsed ≠ some call.input.text.length then .ok (parsed, none, w) s'
      else match createRootObject call.input application depth parsed w s' with
        | none => .error (.failure .outOfFuel) s'
        | some (object, w) => .ok (parsed, object, w) s' := by
  simp only [parseInput, hhandler, Option.isNone_some, Bool.false_eq_true, ↓reduceIte, bind, EStateM.bind,
    modify_apply, hfeed, pure]
  by_cases hfull : call.fullMatch ∧ parsed ≠ some call.input.text.length
  · rw [if_pos hfull, if_pos hfull]
    rfl
  · rw [if_neg hfull, if_neg hfull]
    show (match createRootObject call.input application depth parsed w s' with
      | none => throw (.failure .outOfFuel)
      | some (object, w) => pure (parsed, object, w) : ParserM H C (Option ℕ × Option E × W)) s' = _
    cases createRootObject call.input application depth parsed w s' <;> rfl

/-- A call gives what is built from the derivation, and the parser can be used again. -/
lemma parseInput_eq (hwf : Wf s K) (fuel : ℕ) (call : Call) (w : W) :
    (∃ failure, buildInput handlers grammar application fuel call w = .error failure ∧
      ∀ depth, ∃ s', parseInput handlers grammar application fuel depth call w s = .error (.failure failure) s') ∨
    ∃ result s' K' depth, buildInput handlers grammar application fuel call w = .ok result ∧ Wf s' K' ∧
      ∀ d ≥ depth, parseInput handlers grammar application fuel d call w s = .ok result s' := by
  cases hhandler : handlers.getHandler (grammar call.rule).mId with
  | none =>
    refine .inl ⟨.noHandler, ?_, fun depth => ⟨{ s with mHandlerStack := [], mRoot := none }, ?_⟩⟩
    · rw [buildInput, hhandler]
      rfl
    · rw [parseInput, hhandler]
      rfl
  | some own =>
    have hfed := wp_feed_root handlers grammar hhandler (hwf.reset none) rfl rfl call.input fuel
    cases hfeed : feed handlers grammar call.input fuel call.rule 0 { s with mHandlerStack := [], mRoot := none } with
    | error stop s' =>
      obtain ⟨failure, rfl, hderive⟩ := wp_of_error hfed hfeed
      refine .inl ⟨failure, ?_, fun depth => ⟨s', ?_⟩⟩
      · simp only [buildInput, hhandler, hderive]
        rfl
      · simp only [parseInput, hhandler, Option.isNone_some, Bool.false_eq_true, ↓reduceIte, bind, EStateM.bind,
          modify_apply, hfeed, pure]
    | ok parsed s' =>
      obtain ⟨collected, K', hderive, hwf', hrooted⟩ := wp_of_ok hfed hfeed
      have hparse := parseInput_of_feed handlers grammar application hhandler hfeed
      refine .inr ?_
      have hnoroot (hroot : s'.mRoot = none) (depth : ℕ) :
          parseInput handlers grammar application fuel depth call w s = .ok (parsed, none, w) s' := by
        rw [hparse, createRootObject, hroot]
        simp
      rcases parsed with _ | _ | n
      · refine ⟨(none, none, w), s', K', 0, ?_, hwf', fun d _ => hnoroot hrooted d⟩
        simp only [buildInput, hhandler, hderive]
        rfl
      · refine ⟨(some 0, none, w), s', K', 0, ?_, hwf', fun d _ => hnoroot hrooted d⟩
        simp only [buildInput, hhandler, hderive]
        rfl
      · by_cases hfull : call.fullMatch ∧ n + 1 ≠ call.input.text.length
        · refine ⟨(some (n + 1), none, w), s', K', 0, ?_, hwf', fun d _ => ?_⟩
          · simp only [buildInput, hhandler, hderive, Option.map_some, ok_bind, if_pos hfull]
            rfl
          · rw [hparse, if_pos (by simpa using hfull)]
        · have hbuild : buildInput handlers grammar application fuel call w =
              .ok (some (n + 1), (build call.input application own 0 (n + 1) collected w).map some id) := by
            simp only [buildInput, hhandler, hderive, Option.map_some, ok_bind, if_neg hfull]
            rfl
          obtain ⟨ctx, hroot, rfl, hdenotes⟩ := hrooted
          obtain ⟨depth, hdepth⟩ := realize_eq application call.input hdenotes 0 (n + 1)
          refine ⟨_, s', K', depth, hbuild, hwf', fun d hd => ?_⟩
          rw [hparse, if_neg (by simpa using hfull), createRootObject, hroot]
          simp only [Option.getD_some, hdepth d hd]
          rfl

/-- What a routine returns, or why it stops. -/
def outcome {α : Type} : EStateM.Result Stop (ParserState H C) α → Except Stop α
  | .ok a _ => .ok a
  | .error stop _ => .error stop

lemma parseInputs_eq (hwf : Wf s K) (fuel : ℕ) (calls : List Call) (w : W) :
    ∃ depth, ∀ d ≥ depth, outcome (parseInputs handlers grammar application fuel d calls w s) =
      (buildInputs handlers grammar application fuel calls w).mapError .failure := by
  induction calls generalizing s K w with
  | nil => exact ⟨0, fun _ _ => rfl⟩
  | cons call calls ih =>
    obtain ⟨failure, hbuild, hparse⟩ | ⟨⟨parsed, object, w'⟩, s', K', depth, hbuild, hwf', hparse⟩ :=
      parseInput_eq handlers grammar application hwf fuel call w
    · refine ⟨0, fun d _ => ?_⟩
      obtain ⟨s', hparse⟩ := hparse d
      simp only [parseInputs, buildInputs, hbuild, bind, EStateM.bind, hparse]
      rfl
    · obtain ⟨depth', hdepth'⟩ := ih hwf' w'
      refine ⟨max depth depth', fun d hd => ?_⟩
      have hrest := hdepth' d (by omega)
      simp only [parseInputs, buildInputs, hbuild, bind, EStateM.bind, hparse d (by omega)]
      simp only [Except.bind]
      cases hresults : parseInputs handlers grammar application fuel d calls w' s' with
      | ok results s'' =>
        rw [hresults, outcome] at hrest
        cases hbuilt : buildInputs handlers grammar application fuel calls w' with
        | error failure =>
          rw [hbuilt] at hrest
          cases hrest
        | ok results' =>
          rw [hbuilt] at hrest
          cases hrest
          rfl
      | error stop s'' =>
        rw [hresults, outcome] at hrest
        cases hbuilt : buildInputs handlers grammar application fuel calls w' with
        | error failure =>
          rw [hbuilt] at hrest
          simpa only [outcome, Except.mapError] using hrest
        | ok results' =>
          rw [hbuilt] at hrest
          cases hrest

/-- For any grammar, handlers, collectors and inputs, the objects are those that are built from the derivations that win;
nothing that is fatal for the stack of contexts happens. What is collected in a derivation is in the order of the
input. -/
theorem parser_builds_derivation (fuel : ℕ) (calls : List Call) (w : W) :
    (∃ depth, ∀ d ≥ depth, outcome (parseInputs handlers grammar application fuel d calls w Parser) =
      (buildInputs handlers grammar application fuel calls w).mapError .failure) ∧
    ∀ call ∈ calls, ∀ (handler : H) (n : ℕ) (collected : List (Collected H C)),
      deriveRule handlers grammar call.input handler call.rule fuel = .ok (some (n, collected)) →
        InOrder 0 n collected := by
  constructor
  · refine @parseInputs_eq _ _ _ _ Parser ∅ handlers grammar application _ ?_ fuel calls w
    exact ⟨nodup_nil, by simp [Parser], by simp [Parser], by simp, by simp [Parser], by simp [Parser]⟩
  · intro call _ handler n collected hderive
    simpa only [Nat.zero_add] using ordered_deriveRule handlers grammar call.input fuel handler call.rule n collected
      hderive

end Root

end Belr
