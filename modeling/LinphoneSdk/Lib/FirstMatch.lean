import Mathlib.Data.List.Basic

/-!
# The first match in a list

Lists that are searched from the front for what satisfies a predicate: the first match is changed, found or removed.
-/

namespace FirstMatch

open List

/-- Change the first element that satisfies `p`. -/
def updateFirst {α : Type*} (p : α → Bool) (f : α → α) : List α → List α
  | [] => []
  | a :: l => if p a then f a :: l else a :: updateFirst p f l

variable {α : Type*} {p : α → Bool} {f : α → α}

@[simp] lemma updateFirst_append_cons {l r : List α} {a : α} (hl : ∀ x ∈ l, p x = false) (ha : p a = true) :
    updateFirst p f (l ++ a :: r) = l ++ f a :: r := by
  induction l with
  | nil => simp [updateFirst, ha]
  | cons b l ih =>
    have hb := hl b (by simp)
    simp only [cons_append, updateFirst, hb, Bool.false_eq_true, if_false]
    rw [ih fun x hx => hl x (mem_cons_of_mem b hx)]

lemma updateFirst_of_forall_not {l : List α} (hl : ∀ x ∈ l, p x = false) : updateFirst p f l = l := by
  induction l with
  | nil => rfl
  | cons b l ih =>
    have hb := hl b (by simp)
    simp only [updateFirst, hb, Bool.false_eq_true, if_false]
    rw [ih fun x hx => hl x (mem_cons_of_mem b hx)]

lemma find?_append_cons {l r : List α} {a : α} (hl : ∀ x ∈ l, p x = false) (ha : p a = true) :
    (l ++ a :: r).find? p = some a := by
  rw [find?_append, find?_eq_none.2 fun x hx => by simp [hl x hx]]
  simp [ha]

lemma eraseP_append_cons {l r : List α} {a : α} (hl : ∀ x ∈ l, p x = false) (ha : p a = true) :
    (l ++ a :: r).eraseP p = l ++ r := by
  rw [eraseP_append_right _ fun x hx => by simp [hl x hx]]
  simp [ha]

/-- What has a key that comes once splits the list in two parts without it. -/
lemma exists_split {κ : Type*} {key : α → κ} {l : List α} (h : (l.map key).Nodup) {a : α} (ha : a ∈ l) :
    ∃ l₁ l₂, l = l₁ ++ a :: l₂ ∧ (∀ x ∈ l₁, key x ≠ key a) ∧ ∀ x ∈ l₂, key x ≠ key a := by
  obtain ⟨l₁, l₂, rfl⟩ := append_of_mem ha
  refine ⟨l₁, l₂, rfl, ?_, ?_⟩
  · intro x hx heq
    rw [map_append, nodup_append] at h
    exact h.2.2 _ (mem_map_of_mem hx) _ (by simp) heq
  · intro x hx heq
    rw [map_append, map_cons, nodup_append] at h
    have := (nodup_cons.1 h.2.1).1
    exact this (heq ▸ mem_map_of_mem hx)

/-- A view that the change keeps is kept. -/
lemma map_updateFirst {β : Type*} {g : α → β} (hf : ∀ a, g (f a) = g a) (l : List α) :
    (updateFirst p f l).map g = l.map g := by
  induction l with
  | nil => rfl
  | cons b l ih =>
    simp only [updateFirst]
    split_ifs
    · simp [hf]
    · simp [ih]

lemma mem_updateFirst {l : List α} {x : α} (hx : x ∈ updateFirst p f l) : x ∈ l ∨ ∃ a ∈ l, p a = true ∧ x = f a := by
  induction l with
  | nil => cases hx
  | cons b l ih =>
    simp only [updateFirst] at hx
    split_ifs at hx with hb
    · rcases mem_cons.1 hx with rfl | hx
      · exact .inr ⟨b, by simp, hb, rfl⟩
      · exact .inl (mem_cons_of_mem b hx)
    · rcases mem_cons.1 hx with rfl | hx
      · exact .inl (by simp)
      · rcases ih hx with hmem | ⟨a, ha, hpa, rfl⟩
        · exact .inl (mem_cons_of_mem b hmem)
        · exact .inr ⟨a, mem_cons_of_mem b ha, hpa, rfl⟩

lemma find?_eraseP_of_ne {q : α → Bool} {l : List α} (h : ∀ a ∈ l, p a = true → q a = false) :
    (l.eraseP p).find? q = l.find? q := by
  induction l with
  | nil => rfl
  | cons a l ih =>
    by_cases ha : p a = true
    · rw [eraseP_cons_of_pos ha, find?_cons, h a (by simp) ha]
    · rw [eraseP_cons_of_neg ha, find?_cons, find?_cons, ih fun b hb => h b (mem_cons_of_mem a hb)]

/-- What has a key that comes once is not found any more once it is removed. -/
lemma find?_eraseP_self {κ : Type*} {key : α → κ} {l : List α} (hnodup : (l.map key).Nodup) {k : κ}
    (hp : ∀ {a}, p a = true ↔ key a = k) : (l.eraseP p).find? p = none := by
  rcases hfind : l.find? p with _ | a
  · rw [eraseP_of_forall_not (find?_eq_none.mp hfind)]
    exact hfind
  · have ha := hp.mp (find?_some hfind)
    obtain ⟨l₁, l₂, rfl, h₁, h₂⟩ := exists_split hnodup (mem_of_find?_eq_some hfind)
    rw [ha] at h₁ h₂
    rw [eraseP_append_cons (fun x hx => Bool.eq_false_iff.mpr fun h => h₁ x hx (hp.mp h)) (hp.mpr ha), find?_eq_none]
    intro x hx
    rw [hp]
    exact (mem_append.mp hx).elim (h₁ x) (h₂ x)

end FirstMatch
