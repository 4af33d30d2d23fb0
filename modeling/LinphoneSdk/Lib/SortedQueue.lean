import Mathlib.Tactic.Common
import Mathlib.Order.Lattice

/-!
# Sorted queues

A queue is sorted by the keys of its elements, which are pairwise different. It is searched from the
greatest key down, since most elements come in order.
-/

namespace SortedQueue

open List Option

variable {α β κ κ' : Type*}

/-- An element enters a queue whose greatest key comes first: nothing when its key is there. -/
def insert [DecidableEq κ] (after : κ → κ → Prop) [DecidableRel after] (key : α → κ) (x : α) :
    List α → Option (List α)
  | [] => some [x]
  | y :: q =>
    if key x = key y then none
    else if after (key x) (key y) then some (x :: y :: q)
    else (insert after key x q).map (y :: ·)

/-- An element enters a queue of a given size, whose least key comes first: the least ones leave a full
queue. -/
def enqueue [DecidableEq κ] (after : κ → κ → Prop) [DecidableRel after] (key : α → κ) (size : ℕ) (x : α)
    (q : List α) : List α :=
  match insert after key x q.reverse with
  | none => q
  | some q => q.reverse.drop (q.length - size)

section Keys

variable [DecidableEq κ] {after : κ → κ → Prop} [DecidableRel after] {key : α → κ}
  [DecidableEq κ'] {after' : κ' → κ' → Prop} [DecidableRel after'] {key' : β → κ'}

/-- Only the comparisons with the elements of the queue matter. -/
lemma insert_map (f : β → α) {x : β} {q : List β} (h : ∀ y ∈ q, (key (f x) = key (f y) ↔ key' x = key' y) ∧
      (after (key (f x)) (key (f y)) ↔ after' (key' x) (key' y))) :
    insert after key (f x) (q.map f) = (insert after' key' x q).map (List.map f) := by
  induction q with
  | nil => rfl
  | cons y q ih =>
    obtain ⟨heq, hafter⟩ := h y (List.mem_cons_self)
    rw [List.map_cons, insert, insert, ih fun z hz => h z (List.mem_cons_of_mem _ hz)]
    simp only [heq, hafter]
    split_ifs
    · rfl
    · rfl
    · rw [Option.map_map, Option.map_map]
      rfl

lemma enqueue_map (f : β → α) {size : ℕ} {x : β} {q : List β} (h : ∀ y ∈ q, (key (f x) = key (f y) ↔ key' x = key' y) ∧
      (after (key (f x)) (key (f y)) ↔ after' (key' x) (key' y))) :
    enqueue after key size (f x) (q.map f) = (enqueue after' key' size x q).map f := by
  rw [enqueue, enqueue, ← map_reverse, insert_map f fun y hy => h y (mem_reverse.mp hy)]
  cases insert after' key' x q.reverse with
  | none => rfl
  | some q => simp

lemma enqueue_congr {key' : α → κ'} {size : ℕ} {x : α} {q : List α} (h : ∀ y ∈ q, (key x = key y ↔ key' x = key' y) ∧
      (after (key x) (key y) ↔ after' (key' x) (key' y))) :
    enqueue after key size x q = enqueue after' key' size x q := by
  have hmap := @enqueue_map _ _ _ _ _ after _ key _ after' _ key' id size x q h
  rwa [List.map_id, List.map_id] at hmap

lemma mem_insert {a x : α} {q q' : List α} (h : insert after key x q = some q') : a ∈ q' ↔ a = x ∨ a ∈ q := by
  induction q generalizing q' with
  | nil =>
    obtain rfl := some_inj.mp h
    simp
  | cons y q ih =>
    rw [insert] at h
    split_ifs at h
    · obtain rfl := some_inj.mp h
      simp
    · obtain ⟨q', hq', rfl⟩ := map_eq_some_iff.mp h
      rw [mem_cons, ih hq', mem_cons]
      exact or_left_comm

/-- An element does not enter a queue that has one with its key. -/
lemma exists_of_insert_eq_none {x : α} {q : List α} (h : insert after key x q = none) : ∃ y ∈ q, key y = key x := by
  induction q with
  | nil => cases h
  | cons y q ih =>
    rw [insert] at h
    split_ifs at h with heq
    · exact ⟨y, mem_cons_self, heq.symm⟩
    · obtain ⟨z, hz, hkey⟩ := ih (map_eq_none_iff.mp h)
      exact ⟨z, mem_cons_of_mem y hz, hkey⟩

lemma length_insert {x : α} {q q' : List α} (h : insert after key x q = some q') : q'.length = q.length + 1 := by
  induction q generalizing q' with
  | nil =>
    obtain rfl := some_inj.mp h
    rfl
  | cons y q ih =>
    rw [insert] at h
    split_ifs at h
    · obtain rfl := some_inj.mp h
      rfl
    · obtain ⟨q', hq', rfl⟩ := map_eq_some_iff.mp h
      rw [length_cons, ih hq', length_cons]

/-- No element leaves a queue that has room. -/
lemma enqueue_of_lt {x : α} {size : ℕ} {q : List α} (h : q.length < size) :
    enqueue after key size x q = ((insert after key x q.reverse).map reverse).getD q := by
  rw [enqueue]
  cases hinsert : insert after key x q.reverse with
  | none => rfl
  | some q' =>
    have hlength := length_insert hinsert
    rw [length_reverse] at hlength
    simp only [show q'.length - size = 0 by omega, drop_zero]
    rfl

lemma mem_of_mem_enqueue {a x : α} {size : ℕ} {q : List α} (h : a ∈ enqueue after key size x q) : a = x ∨ a ∈ q := by
  rw [enqueue] at h
  cases hinsert : insert after key x q.reverse with
  | none =>
    rw [hinsert] at h
    exact .inr h
  | some q' =>
    rw [hinsert] at h
    have hmem := (mem_insert hinsert).mp (mem_reverse.mp (mem_of_mem_drop h))
    simpa using hmem

end Keys

section LinearOrder

variable [LinearOrder κ] {key : α → κ} {x : α} {q : List α}

lemma pairwise_insert {q' : List α} (h : insert (· > ·) key x q = some q')
    (hq : q.Pairwise (key · > key ·)) : q'.Pairwise (key · > key ·) := by
  induction q generalizing q' with
  | nil =>
    obtain rfl := some_inj.mp h
    exact pairwise_singleton _ _
  | cons y q ih =>
    rw [insert] at h
    obtain ⟨hy, hq⟩ := pairwise_cons.mp hq
    split_ifs at h with heq hlt
    · obtain rfl := some_inj.mp h
      refine pairwise_cons.mpr ⟨fun z hz => ?_, pairwise_cons.mpr ⟨hy, hq⟩⟩
      rcases mem_cons.mp hz with rfl | hz
      · exact hlt
      · exact lt_trans (hy z hz) hlt
    · obtain ⟨q', hq', rfl⟩ := map_eq_some_iff.mp h
      refine pairwise_cons.mpr ⟨fun z hz => ?_, ih hq' hq⟩
      rcases (mem_insert hq').mp hz with rfl | hz
      · exact lt_of_le_of_ne (not_lt.mp hlt) heq
      · exact hy z hz

lemma pairwise_enqueue {size : ℕ} (hq : q.Pairwise (key · < key ·)) :
    (enqueue (· > ·) key size x q).Pairwise (key · < key ·) := by
  rw [enqueue]
  cases hinsert : insert (· > ·) key x q.reverse with
  | none => exact hq
  | some q' =>
    have hsorted := pairwise_insert hinsert (pairwise_reverse.mpr hq)
    exact (pairwise_reverse.mpr hsorted).sublist (drop_sublist _ _)

/-- The least element goes last. -/
lemma insert_of_lt (h : ∀ y ∈ q, key x < key y) : insert (· > ·) key x q = some (q ++ [x]) := by
  induction q with
  | nil => rfl
  | cons y q ih =>
    have hlt := h y mem_cons_self
    rw [insert, if_neg (ne_of_lt hlt), if_neg (not_lt_of_gt hlt), ih fun z hz => h z (mem_cons_of_mem _ hz)]
    rfl

/-- The least element does not enter a full queue. -/
lemma mem_of_mem_enqueue_of_lt {a : α} {size : ℕ} (h : ∀ y ∈ q, key x < key y) (hfull : size ≤ q.length)
    (ha : a ∈ enqueue (· > ·) key size x q) : a ∈ q := by
  rw [enqueue, insert_of_lt fun y hy => h y (mem_reverse.mp hy)] at ha
  obtain ⟨k, hk⟩ : ∃ k, (q.reverse ++ [x]).length - size = k + 1 := ⟨q.length - size, by simp; omega⟩
  simp only [hk, reverse_append, reverse_singleton, reverse_reverse, singleton_append, drop_succ_cons] at ha
  exact mem_of_mem_drop ha

end LinearOrder

end SortedQueue
