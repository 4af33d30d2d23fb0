import LinphoneSdk.Belr.Fuel
import LinphoneSdk.Belr.ParserRuns
import LinphoneSdk.Belr.InputBounds
import Mathlib.Data.Set.Finite.Basic
import Mathlib.Data.Set.Finite.Lattice
import Mathlib.Data.Fintype.EquivFin
import Mathlib.Order.WellFounded

/-!
# Termination

Recognition ends unless a loop goes round without any progress, or goes on behind the end of the input. This holds for
grammars without left recursion.
-/

namespace Belr

open Option

/-! ### Left recursion -/

def Kind.elements : Kind → List ℕ
  | .charRecognizer .. | .charRange .. | .literal _ => []
  | .selector _ mElements | .exclusiveSelector mElements | .sequence mElements => mElements
  | .loop mRecognizer _ _ => [mRecognizer]
  | .recognizerPointer mRecognizer | .recognizerAlias mRecognizer => mRecognizer.toList

def Recognizers.Finite (grammar : Recognizers) : Prop :=
  ∃ bound, ∀ recognizer, ∀ element ∈ (grammar recognizer).kind.elements, element < bound

variable (grammar : Recognizers)

/-- The recognizers that can match no character. An exclusive selector never does. -/
inductive Nullable : ℕ → Prop
  | literal {recognizer : ℕ} : (grammar recognizer).kind = .literal [] → Nullable recognizer
  | selector {recognizer element : ℕ} {mElements : List ℕ} : (grammar recognizer).kind = .selector false mElements →
      element ∈ mElements → Nullable element → Nullable recognizer
  | sequence {recognizer : ℕ} {mElements : List ℕ} : (grammar recognizer).kind = .sequence mElements →
      (∀ element ∈ mElements, Nullable element) → Nullable recognizer
  | noIteration {recognizer mRecognizer : ℕ} {mMin mMax : ℤ} :
      (grammar recognizer).kind = .loop mRecognizer mMin mMax → mMin ≤ 0 → Nullable recognizer
  | loop {recognizer mRecognizer : ℕ} {mMin mMax : ℤ} : (grammar recognizer).kind = .loop mRecognizer mMin mMax →
      Nullable mRecognizer → Nullable recognizer
  | pointer {recognizer mRecognizer : ℕ} : (grammar recognizer).kind = .recognizerPointer (some mRecognizer) →
      Nullable mRecognizer → Nullable recognizer
  | alias {recognizer mRecognizer : ℕ} : (grammar recognizer).kind = .recognizerAlias (some mRecognizer) →
      Nullable mRecognizer → Nullable recognizer

/-- The recognizers that a recognizer may feed where it is fed itself. -/
def LeftCalls (recognizer element : ℕ) : Prop :=
  match (grammar recognizer).kind with
  | .sequence mElements => ∃ front rest, mElements = front ++ element :: rest ∧ ∀ first ∈ front, Nullable grammar first
  | kind => element ∈ kind.elements

def LeftRecursive (recognizer : ℕ) : Prop := Relation.TransGen (LeftCalls grammar) recognizer recognizer

variable {grammar}

lemma mem_elements_of_leftCalls {recognizer element : ℕ} (h : LeftCalls grammar recognizer element) :
    element ∈ (grammar recognizer).kind.elements := by
  rw [LeftCalls] at h
  split at h
  · rename_i heq
    obtain ⟨front, rest, rfl, -⟩ := h
    simp [heq, Kind.elements]
  · exact h

/-- Chains of recognizers that are fed at one position end. -/
lemma wellFounded_leftCalls (hfinite : grammar.Finite) (hleft : ∀ recognizer, ¬ LeftRecursive grammar recognizer) :
    WellFounded fun element recognizer => LeftCalls grammar recognizer element := by
  obtain ⟨bound, hbound⟩ := hfinite
  have hwf : WellFounded fun element recognizer : Fin bound =>
      Relation.TransGen (LeftCalls grammar) recognizer.val element.val :=
    @Finite.wellFounded_of_trans_of_irrefl _ _ _ ⟨fun _ _ _ h h' => h'.trans h⟩ ⟨fun _ h => hleft _ h⟩
  have hacc (recognizer : Fin bound) : Acc (fun element recognizer => LeftCalls grammar recognizer element)
      recognizer.val := by
    induction recognizer using hwf.induction with
    | _ recognizer ih =>
      refine ⟨_, fun element h => ?_⟩
      exact ih ⟨element, hbound _ _ (mem_elements_of_leftCalls h)⟩ (.single h)
  exact ⟨fun recognizer => ⟨_, fun element h => hacc ⟨element, hbound _ _ (mem_elements_of_leftCalls h)⟩⟩⟩

/-! ### Runs -/

variable (grammar) (input : Input)

/-- Without any handler nothing is collected. -/
def noHandlers : Handlers Unit Unit := ⟨fun _ => none, fun _ _ => none⟩

def recognize (fuel recognizer pos : ℕ) : Except Failure (Match Unit Unit) :=
  derive noHandlers grammar input fuel () recognizer pos

def Returns (recognizer pos : ℕ) (matched : Option ℕ) : Prop :=
  ∃ fuel collected, recognize grammar input fuel recognizer pos = .ok collected ∧ collected.map Prod.fst = matched

/-- The elements match one after the other. -/
inductive Sequences : List ℕ → ℕ → ℕ → Prop
  | nil {pos : ℕ} : Sequences [] pos pos
  | cons {element : ℕ} {elements : List ℕ} {pos n pos' : ℕ} : Returns grammar input element pos (some n) →
      Sequences elements (pos + n) pos' → Sequences (element :: elements) pos pos'

/-- A loop goes round as many times. -/
inductive Iterates (mRecognizer : ℕ) (mMax : ℤ) (pos : ℕ) : ℕ → ℕ → Prop
  | zero : Iterates mRecognizer mMax pos 0 pos
  | succ {repeats pos' n : ℕ} : Iterates mRecognizer mMax pos repeats pos' → loops mMax repeats input pos' →
      Returns grammar input mRecognizer pos' (some n) → Iterates mRecognizer mMax pos (repeats + 1) (pos' + n)

/-- A recognizer that is fed at a position feeds another one at a position. -/
def Feeds (node next : ℕ × ℕ) : Prop :=
  match (grammar node.1).kind with
  | .charRecognizer .. | .charRange .. | .literal _ => False
  | .selector false mElements => next.2 = node.2 ∧ ∃ front rest, mElements = front ++ next.1 :: rest ∧
      ∀ element ∈ front, ∃ matched, Returns grammar input element node.2 matched
  | .selector true mElements | .exclusiveSelector mElements => next.2 = node.2 ∧
      ∃ front rest, mElements = front ++ next.1 :: rest ∧
        ∀ element ∈ front, ∃ matched, Returns grammar input element node.2 matched ∧ matched.getD 0 = 0
  | .sequence mElements => ∃ front rest, mElements = front ++ next.1 :: rest ∧
      Sequences grammar input front node.2 next.2
  | .loop mRecognizer _ mMax => next.1 = mRecognizer ∧ ∃ repeats,
      Iterates grammar input mRecognizer mMax node.2 repeats next.2 ∧ loops mMax repeats input next.2
  | .recognizerPointer mRecognizer | .recognizerAlias mRecognizer => mRecognizer = some next.1 ∧ next.2 = node.2

abbrev Reaches : ℕ × ℕ → ℕ × ℕ → Prop := Relation.ReflTransGen (Feeds grammar input)

/-- An unbounded loop comes to a character, and its element matches nothing there. -/
def Stuck (node : ℕ × ℕ) : Prop :=
  ∃ mRecognizer mMin repeats pos, (grammar node.1).kind = .loop mRecognizer mMin (-1) ∧
    Iterates grammar input mRecognizer (-1) node.2 repeats pos ∧ input.get pos ≠ 0 ∧
      Returns grammar input mRecognizer pos (some 0)

def Terminates (recognizer pos : ℕ) : Prop := ∃ fuel, recognize grammar input fuel recognizer pos ≠ .error .outOfFuel

variable {grammar input} {fuel recognizer pos pos' : ℕ}

lemma approx_recognize {fuel fuel' : ℕ} (hfuel : fuel ≤ fuel') (recognizer pos : ℕ) :
    Approx (recognize grammar input fuel recognizer pos) (recognize grammar input fuel' recognizer pos) :=
  approx_derive noHandlers grammar input hfuel () recognizer pos

variable {matched : Match Unit Unit}

lemma recognize_of_ok {fuel fuel' : ℕ} (hfuel : fuel ≤ fuel')
    (h : recognize grammar input fuel recognizer pos = .ok matched) :
    recognize grammar input fuel' recognizer pos = .ok matched :=
  ((approx_recognize hfuel recognizer pos).eq (by simp [h])).symm.trans h

lemma Approx.ne {α : Type} {x y : Except Failure α} (h : Approx x y) (hx : x ≠ .error .outOfFuel) :
    y ≠ .error .outOfFuel := by
  rwa [← h.eq hx]

/-- With any fuel that is enough the same is returned. -/
lemma Returns.recognize_eq {matched : Option ℕ} (h : Returns grammar input recognizer pos matched)
    (hfuel : recognize grammar input fuel recognizer pos ≠ .error .outOfFuel) :
    ∃ collected, recognize grammar input fuel recognizer pos = .ok collected ∧ collected.map Prod.fst = matched := by
  obtain ⟨fuel', collected, hok, hmatched⟩ := h
  have hmax := recognize_of_ok (Nat.le_max_right fuel fuel') hok
  have heq := (approx_recognize (Nat.le_max_left fuel fuel') recognizer pos).eq hfuel
  exact ⟨collected, heq.trans hmax, hmatched⟩

lemma Returns.unique {matched matched' : Option ℕ} (h : Returns grammar input recognizer pos matched)
    (h' : Returns grammar input recognizer pos matched') : matched = matched' := by
  obtain ⟨fuel, collected, hok, hmatched⟩ := id h
  have hfuel : recognize grammar input fuel recognizer pos ≠ .error .outOfFuel := by simp [hok]
  obtain ⟨collected', hok', hmatched'⟩ := h'.recognize_eq hfuel
  cases hok.symm.trans hok'
  exact hmatched.symm.trans hmatched'

lemma Returns.of_ok {collected : Match Unit Unit} (h : recognize grammar input fuel recognizer pos = .ok collected) :
    Returns grammar input recognizer pos (collected.map Prod.fst) :=
  ⟨fuel, collected, h, rfl⟩

/-- A recognizer matches what its class matches. -/
lemma recognize_succ (fuel recognizer pos : ℕ) :
    (recognize grammar input (fuel + 1) recognizer pos).map (Option.map Prod.fst) =
      (deriveKind (recognize grammar input fuel) input fuel pos (grammar recognizer).kind).map
        (Option.map Prod.fst) := by
  rw [recognize, derive]
  have hown : (noHandlers.getHandler (grammar recognizer).mId).getD () = () := rfl
  rw [hown]
  change Except.map _ (deriveKind (recognize grammar input fuel) input fuel pos (grammar recognizer).kind >>= _) = _
  cases deriveKind (recognize grammar input fuel) input fuel pos (grammar recognizer).kind with
  | error failure => rfl
  | ok matched => rcases matched with _ | ⟨_ | n, collected⟩ <;> rfl

lemma recognize_succ_ne_iff : recognize grammar input (fuel + 1) recognizer pos ≠ .error .outOfFuel ↔
    deriveKind (recognize grammar input fuel) input fuel pos (grammar recognizer).kind ≠ .error .outOfFuel := by
  have h := @recognize_succ grammar input fuel recognizer pos
  cases hleft : recognize grammar input (fuel + 1) recognizer pos <;>
    cases hright : deriveKind (recognize grammar input fuel) input fuel pos (grammar recognizer).kind <;>
      simp_all [Except.map]

/-! ### What is fed by a run that ends -/

def longer (matched best : Match Unit Unit) : Match Unit Unit :=
  match matched, best with
  | some (n, collected), some (m, collected') => if m < n then some (n, collected) else some (m, collected')
  | some matched, none => some matched
  | none, best => best

variable {element : ℕ}

lemma deriveLongest_cons {derive : ℕ → ℕ → Except Failure (Match Unit Unit)} (h : derive element pos = .ok matched)
    (elements : List ℕ) (best : Match Unit Unit) :
    deriveLongest derive pos (element :: elements) best = deriveLongest derive pos elements (longer matched best) := by
  rw [deriveLongest, h, ok_bind]
  rcases matched with _ | ⟨n, collected⟩
  · rfl
  rcases best with _ | ⟨m, collected'⟩
  · rfl
  · by_cases hlonger : m < n <;> simp [longer, hlonger]

lemma deriveFirst_cons {derive : ℕ → ℕ → Except Failure (Match Unit Unit)} (h : derive element pos = .ok matched)
    (hmatched : (matched.map Prod.fst).getD 0 = 0) (elements : List ℕ) :
    deriveFirst derive pos (element :: elements) = deriveFirst derive pos elements := by
  rw [deriveFirst, h, ok_bind]
  rcases matched with _ | ⟨_ | n, collected⟩
  · rfl
  · rfl
  · cases hmatched

lemma recognize_ne_of_deriveLongest {front rest : List ℕ} {best : Match Unit Unit}
    (h : deriveLongest (recognize grammar input fuel) pos (front ++ element :: rest) best ≠ .error .outOfFuel)
    (hfront : ∀ first ∈ front, ∃ matched, Returns grammar input first pos matched) :
    recognize grammar input fuel element pos ≠ .error .outOfFuel := by
  induction front generalizing best with
  | nil => exact bind_ne_outOfFuel h
  | cons first front ih =>
    obtain ⟨matched, hmatched⟩ := hfront first (.head _)
    obtain ⟨collected, hok, -⟩ := hmatched.recognize_eq (bind_ne_outOfFuel h)
    rw [List.cons_append, deriveLongest_cons hok] at h
    exact ih h fun first hfirst => hfront first (.tail _ hfirst)

lemma recognize_ne_of_deriveFirst {front rest : List ℕ}
    (h : deriveFirst (recognize grammar input fuel) pos (front ++ element :: rest) ≠ .error .outOfFuel)
    (hfront : ∀ first ∈ front, ∃ matched, Returns grammar input first pos matched ∧ matched.getD 0 = 0) :
    recognize grammar input fuel element pos ≠ .error .outOfFuel := by
  induction front with
  | nil => exact bind_ne_outOfFuel h
  | cons first front ih =>
    obtain ⟨matched, hmatched, hzero⟩ := hfront first (.head _)
    obtain ⟨collected, hok, rfl⟩ := hmatched.recognize_eq (bind_ne_outOfFuel h)
    rw [List.cons_append, deriveFirst_cons hok hzero] at h
    exact ih h fun first hfirst => hfront first (.tail _ hfirst)

lemma recognize_ne_of_deriveSequence {front rest : List ℕ} (hfront : Sequences grammar input front pos pos')
    (h : deriveSequence (recognize grammar input fuel) (front ++ element :: rest) pos ≠ .error .outOfFuel) :
    recognize grammar input fuel element pos' ≠ .error .outOfFuel := by
  induction hfront with
  | nil => exact bind_ne_outOfFuel h
  | cons hfirst _ ih =>
    obtain ⟨collected, hok, hmatched⟩ := hfirst.recognize_eq (bind_ne_outOfFuel h)
    obtain ⟨⟨n, collected⟩, rfl, rfl⟩ := map_eq_some_iff.mp hmatched
    rw [List.cons_append, deriveSequence, hok, ok_bind] at h
    exact ih (bind_ne_outOfFuel h)

/-- After some iterations of a run that ends, the others end too. -/
lemma deriveIterations_ne_of_iterates {mRecognizer : ℕ} {mMax : ℤ} {fuel' repeats : ℕ}
    (hiterates : Iterates grammar input mRecognizer mMax pos repeats pos')
    (h : deriveIterations (recognize grammar input fuel) input mRecognizer mMax fuel' 0 pos ≠ .error .outOfFuel) :
    repeats < fuel' ∧ deriveIterations (recognize grammar input fuel) input mRecognizer mMax (fuel' - repeats) repeats
      pos' ≠ .error .outOfFuel := by
  have hlt {n repeats pos : ℕ}
      (h : deriveIterations (recognize grammar input fuel) input mRecognizer mMax n repeats pos ≠ .error .outOfFuel) :
      n ≠ 0 := by
    rintro rfl
    exact h rfl
  induction hiterates with
  | zero => exact ⟨Nat.pos_of_ne_zero (hlt h), by simpa using h⟩
  | @succ repeats pos' n _ hloops hreturns ih =>
    obtain ⟨hrepeats, hrest⟩ := ih
    obtain ⟨k, hk⟩ : ∃ k, fuel' - repeats = k + 1 := ⟨fuel' - repeats - 1, by omega⟩
    rw [hk, deriveIterations, if_pos hloops] at hrest
    obtain ⟨collected, hok, hmatched⟩ := hreturns.recognize_eq (bind_ne_outOfFuel hrest)
    obtain ⟨⟨n, collected⟩, rfl, rfl⟩ := map_eq_some_iff.mp hmatched
    rw [hok, ok_bind] at hrest
    replace hrest := bind_ne_outOfFuel hrest
    obtain rfl : k = fuel' - (repeats + 1) := by omega
    exact ⟨by have := hlt hrest; omega, hrest⟩

/-- What is fed by a run that ends ends too. -/
lemma recognize_ne_of_feeds {node next : ℕ × ℕ} (hfeeds : Feeds grammar input node next)
    (h : recognize grammar input (fuel + 1) node.1 node.2 ≠ .error .outOfFuel) :
    recognize grammar input fuel next.1 next.2 ≠ .error .outOfFuel := by
  rw [recognize_succ_ne_iff] at h
  rw [Feeds] at hfeeds
  generalize (grammar node.1).kind = kind at h hfeeds
  match kind with
  | .selector false elements =>
    obtain ⟨hpos, front, rest, rfl, hfront⟩ := hfeeds
    rw [hpos]
    exact recognize_ne_of_deriveLongest h hfront
  | .selector true elements | .exclusiveSelector elements =>
    obtain ⟨hpos, front, rest, rfl, hfront⟩ := hfeeds
    rw [hpos]
    exact recognize_ne_of_deriveFirst h hfront
  | .sequence elements =>
    obtain ⟨front, rest, rfl, hfront⟩ := hfeeds
    exact recognize_ne_of_deriveSequence hfront h
  | .loop mRecognizer mMin mMax =>
    obtain ⟨rfl, repeats, hiterates, hloops⟩ := hfeeds
    obtain ⟨hlt, hrest⟩ := deriveIterations_ne_of_iterates hiterates (bind_ne_outOfFuel h)
    obtain ⟨k, hk⟩ : ∃ k, fuel - repeats = k + 1 := ⟨fuel - repeats - 1, by omega⟩
    rw [hk, deriveIterations, if_pos hloops] at hrest
    exact bind_ne_outOfFuel hrest
  | .recognizerPointer _ | .recognizerAlias _ =>
    obtain ⟨rfl, hpos⟩ := hfeeds
    rw [hpos]
    exact h

lemma terminates_of_reaches {node next : ℕ × ℕ} (h : Reaches grammar input node next)
    (hnode : Terminates grammar input node.1 node.2) : Terminates grammar input next.1 next.2 := by
  induction h with
  | refl => exact hnode
  | tail _ hfeeds ih =>
    obtain ⟨fuel, hfuel⟩ := ih
    exact ⟨fuel, recognize_ne_of_feeds hfeeds ((approx_recognize (Nat.le_succ fuel) _ _).ne hfuel)⟩

/-- A loop whose element matches nothing at a character goes round for ever. -/
lemma deriveIterations_stuck {mRecognizer : ℕ} (hget : input.get pos ≠ 0) {collected : List (Collected Unit Unit)}
    (hok : recognize grammar input fuel mRecognizer pos = .ok (some (0, collected))) (fuel' repeats : ℕ) :
    deriveIterations (recognize grammar input fuel) input mRecognizer (-1) fuel' repeats pos = .error .outOfFuel := by
  induction fuel' generalizing repeats with
  | zero => rfl
  | succ fuel' ih =>
    have hloops : loops (-1) repeats input pos := by simp [loops, hget]
    rw [deriveIterations, if_pos hloops, hok, ok_bind]
    simp only [Nat.add_zero, ih (repeats + 1)]
    rfl

lemma not_terminates_of_stuck {node : ℕ × ℕ} (h : Stuck grammar input node) :
    ¬ Terminates grammar input node.1 node.2 := by
  rintro ⟨fuel, hfuel⟩
  obtain ⟨mRecognizer, mMin, repeats, pos, hkind, hiterates, hget, hreturns⟩ := h
  replace hfuel := (approx_recognize (Nat.le_succ fuel) _ _).ne hfuel
  rw [recognize_succ_ne_iff, hkind] at hfuel
  obtain ⟨hlt, hrest⟩ := deriveIterations_ne_of_iterates hiterates (bind_ne_outOfFuel hfuel)
  obtain ⟨k, hk⟩ : ∃ k, fuel - repeats = k + 1 := ⟨fuel - repeats - 1, by omega⟩
  have hfirst : recognize grammar input fuel mRecognizer pos ≠ .error .outOfFuel := by
    have hloops : loops (-1) repeats input pos := by simp [loops, hget]
    rw [hk, deriveIterations, if_pos hloops] at hrest
    exact bind_ne_outOfFuel hrest
  obtain ⟨collected, hok, hmatched⟩ := hreturns.recognize_eq hfirst
  obtain ⟨⟨n, collected⟩, rfl, rfl⟩ := map_eq_some_iff.mp hmatched
  exact hrest (deriveIterations_stuck hget hok _ _)

/-! ### A run that ends reaches finitely many positions -/

lemma Sequences.unique {elements : List ℕ} {pos'' : ℕ} (h : Sequences grammar input elements pos pos')
    (h' : Sequences grammar input elements pos pos'') : pos' = pos'' := by
  induction h with
  | nil => cases h'; rfl
  | cons hfirst _ ih =>
    cases h' with
    | cons hfirst' hrest' =>
      cases hfirst.unique hfirst'
      exact ih hrest'

lemma Iterates.unique {mRecognizer repeats pos'' : ℕ} {mMax : ℤ}
    (h : Iterates grammar input mRecognizer mMax pos repeats pos')
    (h' : Iterates grammar input mRecognizer mMax pos repeats pos'') : pos' = pos'' := by
  induction h generalizing pos'' with
  | zero => cases h'; rfl
  | succ _ _ hreturns ih =>
    cases h' with
    | succ hiterates' _ hreturns' =>
      cases ih hiterates'
      cases hreturns.unique hreturns'
      rfl

lemma finite_feeds {node : ℕ × ℕ} (h : recognize grammar input (fuel + 1) node.1 node.2 ≠ .error .outOfFuel) :
    {next | Feeds grammar input node next}.Finite := by
  rw [recognize_succ_ne_iff] at h
  simp only [Feeds]
  generalize (grammar node.1).kind = kind at h
  have hselector (elements : List ℕ) : {next : ℕ × ℕ | next.2 = node.2 ∧ next.1 ∈ elements}.Finite :=
    (List.finite_toSet (elements.map fun element => (element, node.2))).subset fun next hnext =>
      List.mem_map.mpr ⟨next.1, hnext.2, Prod.ext rfl hnext.1.symm⟩
  match kind with
  | .charRecognizer .. | .charRange .. | .literal _ => exact Set.finite_empty
  | .selector false elements | .selector true elements | .exclusiveSelector elements =>
    refine (hselector elements).subset fun next hnext => ⟨hnext.1, ?_⟩
    obtain ⟨-, front, rest, hmem, -⟩ := hnext
    simp [hmem]
  | .sequence elements =>
    refine ((Set.finite_lt_nat elements.length).biUnion (t := fun i =>
      {next | next.1 = elements.getD i 0 ∧ Sequences grammar input (elements.take i) node.2 next.2})
        fun i _ => ?_).subset ?_
    · refine Set.Subsingleton.finite fun next hnext next' hnext' => ?_
      exact Prod.ext (hnext.1.trans hnext'.1.symm) (hnext.2.unique hnext'.2)
    · rintro next ⟨front, rest, rfl, hfront⟩
      exact Set.mem_biUnion (show front.length < _ by simp) ⟨by simp, by simpa using hfront⟩
  | .loop mRecognizer mMin mMax =>
    refine ((Set.finite_lt_nat fuel).biUnion (t := fun repeats =>
      {next | next.1 = mRecognizer ∧ Iterates grammar input mRecognizer mMax node.2 repeats next.2})
        fun i _ => ?_).subset ?_
    · refine Set.Subsingleton.finite fun next hnext next' hnext' => ?_
      exact Prod.ext (hnext.1.trans hnext'.1.symm) (hnext.2.unique hnext'.2)
    · rintro next ⟨hfirst, repeats, hiterates, -⟩
      have hlt := (deriveIterations_ne_of_iterates hiterates (bind_ne_outOfFuel h)).1
      exact Set.mem_biUnion (show repeats < fuel from hlt) ⟨hfirst, hiterates⟩
  | .recognizerPointer none | .recognizerAlias none =>
    refine Set.finite_empty.subset fun next hnext => ?_
    cases hnext.1
  | .recognizerPointer (some mRecognizer) | .recognizerAlias (some mRecognizer) =>
    refine (Set.finite_singleton (mRecognizer, node.2)).subset fun next hnext => ?_
    exact Prod.ext (some.inj hnext.1).symm hnext.2

lemma finite_reaches {node : ℕ × ℕ} (h : recognize grammar input fuel node.1 node.2 ≠ .error .outOfFuel) :
    {next | Reaches grammar input node next}.Finite := by
  induction fuel generalizing node with
  | zero => exact absurd rfl h
  | succ fuel ih =>
    refine ((Set.finite_singleton node).union ((finite_feeds h).biUnion fun next hnext =>
      ih (recognize_ne_of_feeds hnext h))).subset fun last hlast => ?_
    rcases Relation.ReflTransGen.cases_head hlast with rfl | ⟨next, hnext, hrest⟩
    · exact .inl rfl
    · exact .inr (Set.mem_biUnion hnext hrest)

end Belr
