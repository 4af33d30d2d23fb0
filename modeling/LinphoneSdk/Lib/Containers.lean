import Mathlib.Data.List.AList
import Mathlib.Order.Lattice
import Mathlib.Tactic.Common

/-!
# Maps and time indexes

Maps where the first value of a key stays, and indexes of keys by time, from which the oldest ones expire.
-/

namespace AList

variable {α β : Type*} [DecidableEq α]

/-- The value of a key that is there stays. -/
def emplace (k : α) (v : β) (m : AList fun _ : α => β) : AList fun _ : α => β :=
  if k ∈ m then m else m.insert k v

lemma lookup_emplace (k : α) (v : β) (m : AList fun _ : α => β) :
    (m.emplace k v).lookup k = some ((m.lookup k).getD v) := by
  rw [emplace]
  split_ifs with h
  · obtain ⟨v', hv'⟩ := Option.isSome_iff_exists.mp (lookup_isSome.mpr h)
    rw [hv']
    rfl
  · rw [lookup_insert, lookup_eq_none.mpr h]
    rfl

lemma lookup_emplace_ne {k k' : α} (h : k' ≠ k) (v : β) (m : AList fun _ : α => β) :
    (m.emplace k v).lookup k' = m.lookup k' := by
  rw [emplace]
  split_ifs
  · rfl
  · exact lookup_insert_ne h

def eraseAll (ks : List α) (m : AList fun _ : α => β) : AList fun _ : α => β :=
  ks.foldl (fun m k => m.erase k) m

lemma lookup_eraseAll (ks : List α) (m : AList fun _ : α => β) (k : α) :
    (m.eraseAll ks).lookup k = if k ∈ ks then none else m.lookup k := by
  induction ks generalizing m with
  | nil => rfl
  | cons k' ks ih =>
    refine (ih (m.erase k')).trans ?_
    by_cases hk : k = k'
    · subst hk
      rw [lookup_erase, ite_self, if_pos List.mem_cons_self]
    · rw [lookup_erase_ne hk]
      simp [hk]

end AList

namespace TimeIndex

/-- Timestamps in the order of their values. -/
scoped instance instLinearOrderUInt32 : LinearOrder UInt32 where
  le_refl := UInt32.le_refl
  le_trans _ _ _ := UInt32.le_trans
  le_antisymm _ _ := UInt32.le_antisymm
  le_total := UInt32.le_total
  lt_iff_le_not_ge a b := by rw [UInt32.not_le, iff_and_self]; exact UInt32.le_of_lt
  toDecidableLE := inferInstance
  toDecidableEq := inferInstance
  toDecidableLT := inferInstance

variable {τ κ : Type*} [LinearOrder τ]

/-- An entry goes after those that are not later. -/
def emplace (t : τ) (k : κ) : List (τ × κ) → List (τ × κ)
  | [] => [(t, k)]
  | e :: index => if t < e.1 then (t, k) :: e :: index else e :: emplace t k index

/-- The entries that expire at a time, and those that stay. -/
def expire (limit : τ) (index : List (τ × κ)) : List (τ × κ) × List (τ × κ) :=
  (index.takeWhile (·.1 ≤ limit), index.dropWhile (·.1 ≤ limit))

/-- The entries are in the order of their times. -/
def Sorted (index : List (τ × κ)) : Prop := index.Pairwise (·.1 ≤ ·.1)

variable {t limit : τ} {k : κ} {e : τ × κ} {index : List (τ × κ)}

lemma mem_emplace : e ∈ emplace t k index ↔ e = (t, k) ∨ e ∈ index := by
  induction index with
  | nil => simp [emplace]
  | cons e' index ih =>
    rw [emplace]
    split_ifs
    · rw [List.mem_cons]
    · rw [List.mem_cons, ih, List.mem_cons]
      exact or_left_comm

lemma Sorted.emplace (h : Sorted index) : Sorted (emplace t k index) := by
  induction index with
  | nil => exact List.pairwise_singleton _ _
  | cons e' index ih =>
    obtain ⟨he', hindex⟩ := List.pairwise_cons.mp h
    rw [TimeIndex.emplace]
    split_ifs with hlt
    · refine List.pairwise_cons.mpr ⟨fun e he => ?_, h⟩
      rcases List.mem_cons.mp he with rfl | he
      · exact le_of_lt hlt
      · exact le_trans (le_of_lt hlt) (he' e he)
    · refine List.pairwise_cons.mpr ⟨fun e he => ?_, ih hindex⟩
      rcases mem_emplace.mp he with rfl | he
      · exact not_lt.mp hlt
      · exact he' e he

lemma mem_expire (h : Sorted index) : (e ∈ (expire limit index).1 ↔ e ∈ index ∧ e.1 ≤ limit) ∧
      (e ∈ (expire limit index).2 ↔ e ∈ index ∧ limit < e.1) := by
  rw [expire]
  induction index with
  | nil => simp
  | cons e' index ih =>
    obtain ⟨he', hindex⟩ := List.pairwise_cons.mp h
    obtain ⟨htake, hdrop⟩ := ih hindex
    by_cases hle : e'.1 ≤ limit
    · simp only [List.takeWhile_cons, List.dropWhile_cons, decide_eq_true_eq, hle, if_true, List.mem_cons]
      constructor
      · rw [htake]
        constructor
        · rintro (rfl | ⟨he, hlimit⟩)
          · exact ⟨.inl rfl, hle⟩
          · exact ⟨.inr he, hlimit⟩
        · rintro ⟨rfl | he, hlimit⟩
          · exact .inl rfl
          · exact .inr ⟨he, hlimit⟩
      · rw [hdrop]
        constructor
        · rintro ⟨he, hlimit⟩
          exact ⟨.inr he, hlimit⟩
        · rintro ⟨rfl | he, hlimit⟩
          · exact absurd hle (not_le.mpr hlimit)
          · exact ⟨he, hlimit⟩
    · have hlater (e : τ × κ) (he : e ∈ e' :: index) : limit < e.1 := by
        rcases List.mem_cons.mp he with rfl | he
        · exact not_le.mp hle
        · exact lt_of_lt_of_le (not_le.mp hle) (he' e he)
      simp only [List.takeWhile_cons, List.dropWhile_cons, decide_eq_true_eq, hle, if_false, List.not_mem_nil,
        false_iff, not_and, not_le]
      exact ⟨hlater e, fun he => ⟨he, hlater e he⟩, fun he => he.1⟩

lemma Sorted.expire (h : Sorted index) : Sorted (expire limit index).2 :=
  h.sublist (List.dropWhile_sublist _)

/-- The last entry is the latest, the first one the earliest. -/
lemma Sorted.le_getLast (h : Sorted index) (hne : index ≠ []) (he : e ∈ index) : e.1 ≤ (index.getLast hne).1 := by
  induction index generalizing e with
  | nil => exact absurd rfl hne
  | cons e' index ih =>
    obtain ⟨he', hindex⟩ := List.pairwise_cons.mp h
    cases index with
    | nil =>
      obtain rfl := List.mem_singleton.mp he
      exact le_rfl
    | cons e'' index =>
      rw [List.getLast_cons_cons]
      rcases List.mem_cons.mp he with rfl | he
      · exact le_trans (he' e'' List.mem_cons_self)
          (ih hindex (List.cons_ne_nil _ _) List.mem_cons_self)
      · exact ih hindex (List.cons_ne_nil _ _) he

end TimeIndex
