import Mathlib.Data.List.Pairwise

/-!
# Pruning by first match

The elements of a list have a key and a rank. An element is pruned when the first element with its key has a greater
rank. The first element of each key stays, and it is the only one when its rank is strictly the greatest.
-/

namespace Pruning

open List Option

variable {α β κ γ : Type*} [DecidableEq κ] [LT β] [DecidableLT β] (key : α → κ) (rank : α → β)

/-- The first element with the key of another one. -/
def first (l : List α) (x : α) : Option α := l.find? fun y => key y = key x

def isPruned (l : List α) (x : α) : Bool := (first key l x).any fun y => rank x < rank y

def prune (seen : List α) : List α → List α
  | [] => []
  | x :: l => if isPruned key rank seen x then prune (seen ++ [x]) l else x :: prune (seen ++ [x]) l

/-- Each element has a smaller rank than the first one of its key, if that one comes before. -/
def FirstBest (seen : List α) : List α → Prop
  | [] => True
  | x :: l => (∀ y ∈ first key seen x, rank x < rank y) ∧ FirstBest (seen ++ [x]) l

variable {key rank} {kept seen l : List α} {x y : α}

lemma first_append_self (l' : List α) : first key (l ++ x :: l') x = (first key l x).or (some x) := by
  rw [first, find?_append, find?_cons_of_pos (by simp)]
  rfl

lemma first_eq_none : first key l x = none ↔ ∀ y ∈ l, key y ≠ key x := by
  simp [first]

lemma key_of_mem_first (h : y ∈ first key l x) : y ∈ l ∧ key y = key x :=
  ⟨mem_of_find?_eq_some h, by simpa using find?_some h⟩

/-- An element does not prune itself. -/
lemma isPruned_append_self (hirrefl : ∀ b : β, ¬b < b) (l' : List α) :
    isPruned key rank (l ++ x :: l') x = isPruned key rank l x := by
  rw [isPruned, isPruned, first_append_self]
  cases first key l x <;> simp [hirrefl]

/-- When an element is pruned, the first elements stay the same. -/
lemma first_append_of_isPruned (h : ∀ z, first key kept z = first key seen z) (hx : isPruned key rank seen x = true)
    (z : α) : first key kept z = first key (seen ++ [x]) z := by
  obtain ⟨y, hy, -⟩ := (any_eq_true _ _).1 hx
  rw [h z, first, first, find?_append]
  by_cases hkey : key x = key z
  · rw [first, hkey] at hy
    rw [hy, some_or]
  · simp [hkey]

lemma first_append_congr (h : ∀ z, first key kept z = first key seen z) (z : α) :
    first key (kept ++ [x]) z = first key (seen ++ [x]) z := by
  have hz := h z
  rw [first, first] at hz ⊢
  rw [find?_append, find?_append, hz]

lemma prune_sublist (seen l : List α) : (prune key rank seen l).Sublist l := by
  induction l generalizing seen with
  | nil => exact .slnil
  | cons x l ih =>
    rw [prune]
    split
    · exact (ih _).cons x
    · exact (ih _).cons_cons x

/-- Elements that are erased one after the other, while the list that is searched shrinks. -/
theorem foldl_erase_eq [DecidableEq α] (hirrefl : ∀ b : β, ¬b < b) (l kept seen : List α)
    (hfirst : ∀ z, first key kept z = first key seen z) (hnodup : (kept ++ l).Nodup) :
    l.foldl (fun l x => if isPruned key rank l x then l.erase x else l) (kept ++ l) =
      kept ++ prune key rank seen l := by
  induction l generalizing kept seen with
  | nil => rfl
  | cons x l ih =>
    have hpruned : isPruned key rank (kept ++ x :: l) x = isPruned key rank seen x := by
      rw [isPruned_append_self hirrefl, isPruned, isPruned, hfirst]
    rw [foldl_cons, hpruned, prune]
    by_cases hx : isPruned key rank seen x = true
    · have hmem : x ∉ kept := fun h => (nodup_append.1 hnodup).2.2 x h x mem_cons_self rfl
      rw [if_pos hx, if_pos hx, erase_append_right _ hmem, erase_cons_head]
      exact ih kept (seen ++ [x]) (first_append_of_isPruned hfirst hx)
        (hnodup.sublist ((sublist_cons_self x l).append_left kept))
    · rw [if_neg hx, if_neg hx]
      have h := ih (kept ++ [x]) (seen ++ [x]) (first_append_congr hfirst) (by simpa using hnodup)
      rw [append_assoc, append_assoc] at h
      exact h

lemma pairwise_concat_iff (hfirst : ∀ z, first key kept z = first key seen z) :
    (kept ++ [x]).Pairwise (fun y z => key y ≠ key z) ↔
      kept.Pairwise (fun y z => key y ≠ key z) ∧ first key seen x = none := by
  rw [← hfirst, first_eq_none, pairwise_append]
  simp

/-- The keys of what is left are different exactly if the first elements are the best ones. -/
theorem pairwise_prune_iff (l kept seen : List α) (hfirst : ∀ z, first key kept z = first key seen z) :
    (kept ++ prune key rank seen l).Pairwise (fun y z => key y ≠ key z) ↔
      kept.Pairwise (fun y z => key y ≠ key z) ∧ FirstBest key rank seen l := by
  induction l generalizing kept seen with
  | nil => simp [prune, FirstBest]
  | cons x l ih =>
    rw [prune, FirstBest]
    by_cases hx : isPruned key rank seen x = true
    · have hlt : ∀ y ∈ first key seen x, rank x < rank y := by
        obtain ⟨y, hy, hlt⟩ := (any_eq_true _ _).1 hx
        intro z hz
        obtain rfl := some.inj (hy.symm.trans hz)
        exact of_decide_eq_true hlt
      rw [if_pos hx, ih kept (seen ++ [x]) (first_append_of_isPruned hfirst hx)]
      exact and_congr_right fun _ => (and_iff_right hlt).symm
    · rw [if_neg hx, append_cons kept, ih (kept ++ [x]) (seen ++ [x]) (first_append_congr hfirst),
        pairwise_concat_iff hfirst, and_assoc]
      refine and_congr_right fun _ => and_congr_left fun _ => ?_
      cases hy : first key seen x with
      | none => simp
      | some y => simpa [isPruned, hy] using hx

/-- The first elements are left, and are the best ones. -/
theorem exists_best (l kept seen : List α) (hbest : FirstBest key rank seen l)
    (hfirst : ∀ z, first key kept z = first key seen z)
    (hseen : ∀ x ∈ seen, ∃ y ∈ kept, key y = key x ∧ (y = x ∨ rank x < rank y)) :
    ∀ x ∈ seen ++ l, ∃ y ∈ kept ++ prune key rank seen l, key y = key x ∧ (y = x ∨ rank x < rank y) := by
  induction l generalizing kept seen with
  | nil => simpa [prune] using hseen
  | cons x l ih =>
    rw [append_cons, prune]
    by_cases hx : isPruned key rank seen x = true
    · rw [if_pos hx]
      refine ih kept (seen ++ [x]) hbest.2 (first_append_of_isPruned hfirst hx) fun z hz => ?_
      obtain hz | hz := mem_append.1 hz
      · exact hseen z hz
      · obtain rfl := mem_singleton.1 hz
        obtain ⟨y, hy, hlt⟩ := (any_eq_true _ _).1 hx
        obtain ⟨hmem, hkey⟩ := key_of_mem_first ((hfirst z).trans hy)
        exact ⟨y, hmem, hkey, Or.inr (of_decide_eq_true hlt)⟩
    · rw [if_neg hx, append_cons kept]
      refine ih (kept ++ [x]) (seen ++ [x]) hbest.2 (first_append_congr hfirst) fun z hz => ?_
      obtain hz | hz := mem_append.1 hz
      · obtain ⟨y, hy, hyz⟩ := hseen z hz
        exact ⟨y, mem_append_left _ hy, hyz⟩
      · obtain rfl := mem_singleton.1 hz
        exact ⟨z, mem_append_right _ hz, rfl, Or.inl rfl⟩

/-- What is left is one element for each key. -/
theorem reverse_prune (l kept seen : List α) (hbest : FirstBest key rank seen l)
    (hfirst : ∀ z, first key kept z = first key seen z)
    (hkept : kept.reverse = seen.reverse.pwFilter fun y z => key y ≠ key z) :
    (kept ++ prune key rank seen l).reverse = (seen ++ l).reverse.pwFilter fun y z => key y ≠ key z := by
  induction l generalizing kept seen with
  | nil => simpa [prune] using hkept
  | cons x l ih =>
    have hmem : (∀ z ∈ seen.reverse.pwFilter fun y z => key y ≠ key z, key x ≠ key z) ↔ first key seen x = none := by
      rw [← hkept, ← hfirst, first_eq_none]
      simp [eq_comm]
    rw [append_cons, prune]
    by_cases hx : isPruned key rank seen x = true
    · have hsome : ¬first key seen x = none := by
        intro hnone
        rw [isPruned, hnone] at hx
        exact absurd hx Bool.false_ne_true
      rw [if_pos hx]
      refine ih kept (seen ++ [x]) hbest.2 (first_append_of_isPruned hfirst hx) ?_
      rw [reverse_append, reverse_singleton, singleton_append, pwFilter_cons_of_neg (by rwa [hmem]), hkept]
    · have hnone : first key seen x = none := by
        refine eq_none_iff_forall_not_mem.2 fun y hy => hx ?_
        exact (any_eq_true _ _).2 ⟨y, hy, decide_eq_true (hbest.1 y hy)⟩
      rw [if_neg hx, append_cons]
      refine ih (kept ++ [x]) (seen ++ [x]) hbest.2 (first_append_congr hfirst) ?_
      rw [reverse_append, reverse_append, reverse_singleton, singleton_append,
        singleton_append, pwFilter_cons_of_pos (hmem.2 hnone), hkept]

omit [DecidableLT β] in
/-- The elements may be seen through a function. -/
lemma firstBest_map (f : γ → α) (seen l : List γ) :
    FirstBest key rank (seen.map f) (l.map f) ↔ FirstBest (key ∘ f) (rank ∘ f) seen l := by
  induction l generalizing seen with
  | nil => simp [FirstBest]
  | cons x l ih =>
    have hfirst : first key (seen.map f) (f x) = (first (key ∘ f) seen x).map f := find?_map
    have hih := ih (seen ++ [x])
    rw [map_append, map_singleton] at hih
    rw [map_cons, FirstBest, FirstBest, hih, hfirst]
    simp

end Pruning
