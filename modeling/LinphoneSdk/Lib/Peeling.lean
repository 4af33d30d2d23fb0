import Mathlib.Data.Set.Insert
import Mathlib.Tactic.Common

/-!
# Peeling

Each equation binds some items, and gives one of them once all its others are known. The items that are
recovered do not depend on the order in which the equations are used.
-/

namespace Peeling

variable {α : Type*}

/-- The items that can be recovered from the known ones. -/
inductive Peeled (E : Set (Set α)) (S : Set α) : α → Prop
  | known {x : α} (h : x ∈ S) : Peeled E S x
  | recovered {e : Set α} {x : α} (he : e ∈ E) (hx : x ∈ e) (hothers : ∀ y ∈ e, y ≠ x → Peeled E S y) :
      Peeled E S x

/-- Exactly one item of the equation is unknown. -/
def MissesOne (S e : Set α) : Prop := ∃ x ∈ e, x ∉ S ∧ ∀ y ∈ e, y ≠ x → y ∈ S

/-- No equation gives an item more. -/
def Closed (E : Set (Set α)) (S : Set α) : Prop := ∀ e ∈ E, ¬ MissesOne S e

variable {E E' : Set (Set α)} {S T U : Set α} {x : α}

/-- More equations recover more items. -/
lemma Peeled.mono (h : Peeled E S x) (hE : E ⊆ E') : Peeled E' S x := by
  induction h with
  | known h => exact .known h
  | recovered he hx _ ih => exact .recovered (hE he) hx ih

lemma Peeled.trans (h : Peeled E T x) (hT : ∀ y ∈ T, Peeled E S y) : Peeled E S x := by
  induction h with
  | known h => exact hT _ h
  | recovered he hx _ ih => exact .recovered he hx ih

/-- A closed set that has the known items has the recovered ones. -/
lemma Closed.mem (h : Closed E T) (hST : S ⊆ T) (hx : Peeled E S x) : x ∈ T := by
  induction hx with
  | known hx => exact hST hx
  | recovered he hx _ ih => exact by_contra fun hmissing => h _ he ⟨_, hx, hmissing, ih⟩

/-- A closed set reached by recoveries is the set of the recovered items. -/
theorem Closed.mem_iff (h : Closed E T) (hST : S ⊆ T) (hT : ∀ y ∈ T, Peeled E S y) : x ∈ T ↔ Peeled E S x :=
  ⟨hT x, h.mem hST⟩

/-- An equation all but one of whose items are known recovers the last one. -/
lemma Peeled.insert {e : Set α} (hT : ∀ y ∈ T, Peeled E S y) (he : e ∈ E) (hx : x ∈ e)
    (hothers : ∀ y ∈ e, y ≠ x → y ∈ T) : ∀ y ∈ insert x T, Peeled E S y := by
  intro y hy
  rcases Set.mem_insert_iff.1 hy with rfl | hy
  · exact .recovered he hx fun z hz hne => hT z (hothers z hz hne)
  · exact hT y hy

end Peeling
