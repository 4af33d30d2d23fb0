import LinphoneSdk.Lib.Containers

/-!
# Ordered maps

A map keeps its entries in the order of their keys, which is the order in which it is searched for an entry by its
value. A multimap keeps the entries of one key in the order in which they came.
-/

structure OrderedMap (κ β : Type*) [LinearOrder κ] where
  entries : List (κ × β)
  sorted : entries.Pairwise (·.1 < ·.1)

namespace OrderedMap

/-- Octets in the order of their values. -/
scoped instance instLinearOrderUInt8 : LinearOrder UInt8 where
  le_refl := UInt8.le_refl
  le_trans _ _ _ := UInt8.le_trans
  le_antisymm _ _ := UInt8.le_antisymm
  le_total := UInt8.le_total
  lt_iff_le_not_ge a b := by rw [UInt8.not_le, iff_and_self]; exact UInt8.le_of_lt
  toDecidableLE := inferInstance
  toDecidableEq := inferInstance
  toDecidableLT := inferInstance

variable {κ β : Type*} [LinearOrder κ]

def empty : OrderedMap κ β := ⟨[], .nil⟩

def find (m : OrderedMap κ β) (k : κ) : Option β := (m.entries.find? (·.1 = k)).map Prod.snd

/-- The first entry, in the order of the keys, that has a property. -/
def first (m : OrderedMap κ β) (p : κ × β → Bool) : Option (κ × β) := m.entries.find? p

/-- An entry goes to its place, unless there is one with its key. -/
def place (k : κ) (v : β) : List (κ × β) → List (κ × β)
  | [] => [(k, v)]
  | e :: entries =>
    if k < e.1 then (k, v) :: e :: entries else if k = e.1 then e :: entries else e :: place k v entries

variable {entries : List (κ × β)}

lemma mem_place {k : κ} {v : β} {e : κ × β} (h : e ∈ place k v entries) : e = (k, v) ∨ e ∈ entries := by
  induction entries with
  | nil => exact .inl (List.mem_singleton.mp h)
  | cons e' entries ih =>
    rw [place] at h
    split_ifs at h
    · exact List.mem_cons.mp h
    · exact .inr h
    · rcases List.mem_cons.mp h with rfl | h
      · exact .inr List.mem_cons_self
      · exact (ih h).imp_right (List.mem_cons_of_mem _)

lemma sorted_place {k : κ} {v : β} (h : entries.Pairwise (·.1 < ·.1)) : (place k v entries).Pairwise (·.1 < ·.1) := by
  induction entries with
  | nil => exact List.pairwise_singleton _ _
  | cons e entries ih =>
    obtain ⟨he, hentries⟩ := List.pairwise_cons.mp h
    rw [place]
    split_ifs with hlt heq
    · refine List.pairwise_cons.mpr ⟨fun e' he' => ?_, h⟩
      rcases List.mem_cons.mp he' with rfl | he'
      · exact hlt
      · exact lt_trans hlt (he e' he')
    · exact h
    · refine List.pairwise_cons.mpr ⟨fun e' he' => ?_, ih hentries⟩
      rcases mem_place he' with rfl | he'
      · exact lt_of_le_of_ne (not_lt.mp hlt) (Ne.symm heq)
      · exact he e' he'

/-- An entry is added, unless there is one with its key. -/
def emplace (m : OrderedMap κ β) (k : κ) (v : β) : OrderedMap κ β := ⟨place k v m.entries, sorted_place m.sorted⟩

def erase (m : OrderedMap κ β) (k : κ) : OrderedMap κ β := ⟨m.entries.filter (·.1 ≠ k), m.sorted.filter _⟩

/-- The value of a key is changed in place. -/
def modify (m : OrderedMap κ β) (k : κ) (f : β → β) : OrderedMap κ β where
  entries := m.entries.map fun e => (e.1, if e.1 = k then f e.2 else e.2)
  sorted := List.pairwise_map.mpr m.sorted

/-- The key gets the value, whether it has one or not. -/
def assign (m : OrderedMap κ β) (k : κ) (v : β) : OrderedMap κ β := (m.emplace k v).modify k fun _ => v

variable {m : OrderedMap κ β} {k k' : κ} {v : β}

lemma find_eq_some : m.find k = some v ↔ (k, v) ∈ m.entries := by
  obtain ⟨entries, sorted⟩ := m
  rw [find]
  induction entries with
  | nil => simp
  | cons e entries ih =>
    obtain ⟨he, hentries⟩ := List.pairwise_cons.mp sorted
    rw [List.find?_cons]
    by_cases hk : e.1 = k
    · have hnotin : (k, v) ∉ entries := fun h => absurd hk (ne_of_lt (he _ h))
      simp only [hk, decide_true, List.mem_cons, hnotin, or_false, Option.map_some, Option.some.injEq]
      rw [Prod.ext_iff, and_iff_right hk.symm, eq_comm]
    · have hne : (k, v) ≠ e := fun h => hk (congrArg Prod.fst h).symm
      simp only [hk, decide_false, List.mem_cons, hne, false_or]
      exact ih hentries

lemma find_eq_none : m.find k = none ↔ ∀ v, (k, v) ∉ m.entries := by
  rw [← Option.not_isSome_iff_eq_none, Option.isSome_iff_exists, not_exists]
  exact forall_congr' fun v => not_congr find_eq_some

/-- The entry is there when its key was not. -/
lemma mem_place_self (h : ∀ v', (k, v') ∉ entries) : (k, v) ∈ place k v entries := by
  induction entries with
  | nil => exact List.mem_singleton_self _
  | cons e entries ih =>
    rw [place]
    split_ifs with hlt heq
    · exact List.mem_cons_self
    · subst heq
      exact absurd List.mem_cons_self (h e.2)
    · exact List.mem_cons_of_mem _ (ih fun v' hv' => h v' (List.mem_cons_of_mem _ hv'))

/-- No other entry is lost. -/
lemma mem_place_of_mem {e : κ × β} (h : e ∈ entries) : e ∈ place k v entries := by
  induction entries with
  | nil => exact absurd h List.not_mem_nil
  | cons e' entries ih =>
    rw [place]
    split_ifs
    · exact List.mem_cons_of_mem _ h
    · exact h
    · rcases List.mem_cons.mp h with rfl | h
      · exact List.mem_cons_self
      · exact List.mem_cons_of_mem _ (ih h)

lemma find_emplace_self (m : OrderedMap κ β) (k : κ) (v : β) : (m.emplace k v).find k = some ((m.find k).getD v) := by
  cases hfind : m.find k with
  | none => exact find_eq_some.mpr (mem_place_self (find_eq_none.mp hfind))
  | some v' => exact find_eq_some.mpr (mem_place_of_mem (find_eq_some.mp hfind))

lemma find_emplace_of_ne (m : OrderedMap κ β) (v : β) (h : k' ≠ k) : (m.emplace k v).find k' = m.find k' := by
  refine Option.ext fun v' => ?_
  rw [find_eq_some, find_eq_some]
  constructor
  · intro hmem
    rcases mem_place hmem with heq | hmem
    · exact absurd (congrArg Prod.fst heq) h
    · exact hmem
  · exact mem_place_of_mem

lemma find_erase_self (m : OrderedMap κ β) (k : κ) : (m.erase k).find k = none := by
  rw [find_eq_none]
  simp [erase]

lemma find_erase_of_ne (m : OrderedMap κ β) (h : k' ≠ k) : (m.erase k).find k' = m.find k' := by
  refine Option.ext fun v => ?_
  rw [find_eq_some, find_eq_some]
  simp [erase, h]

lemma find_modify (m : OrderedMap κ β) (k k' : κ) (f : β → β) :
    (m.modify k f).find k' = (m.find k').map fun v => if k' = k then f v else v := by
  rw [find, find, modify, List.find?_map, Option.map_map, Option.map_map]
  change (m.entries.find? (fun e => decide (e.1 = k'))).map _ = (m.entries.find? (fun e => decide (e.1 = k'))).map _
  cases h : m.entries.find? (fun e => decide (e.1 = k')) with
  | none => rfl
  | some e =>
    have hkey : e.1 = k' := by simpa using List.find?_some h
    simp [hkey]

@[simp] lemma find_assign_self (m : OrderedMap κ β) (k : κ) (v : β) : (m.assign k v).find k = some v := by
  rw [assign, find_modify, find_emplace_self]
  simp

lemma find_assign_of_ne (m : OrderedMap κ β) (v : β) (h : k' ≠ k) : (m.assign k v).find k' = m.find k' := by
  rw [assign, find_modify, find_emplace_of_ne m v h]
  simp [h]

/-- The first entry comes before the others that have the property. -/
lemma find_of_first {p : κ × β → Bool} (h : m.first p = some (k, v)) :
    m.find k = some v ∧ p (k, v) = true ∧ ∀ k' < k, ∀ v', m.find k' = some v' → p (k', v') = false := by
  obtain ⟨hp, before, after, hentries, hbefore⟩ := List.find?_eq_some_iff_append.mp h
  refine ⟨find_eq_some.mpr (List.mem_of_find?_eq_some h), hp, fun k' hlt v' hv' => ?_⟩
  have hmem := find_eq_some.mp hv'
  have hsorted := m.sorted
  rw [hentries] at hmem hsorted
  have hafter := (List.pairwise_cons.mp (List.pairwise_append.mp hsorted).2.1).1
  rcases List.mem_append.mp hmem with hmem | hmem
  · simpa using hbefore _ hmem
  · rcases List.mem_cons.mp hmem with heq | hmem
    · exact absurd (congrArg Prod.fst heq) (ne_of_lt hlt)
    · exact absurd (hafter _ hmem) (lt_asymm hlt)

lemma eq_false_of_first {p : κ × β → Bool} (h : m.first p = none) (hfind : m.find k = some v) : p (k, v) = false := by
  simpa using List.find?_eq_none.mp h _ (find_eq_some.mp hfind)

end OrderedMap

namespace TimeIndex

variable {τ κ : Type*} [LinearOrder τ] {t : τ} {k : κ} {index : List (τ × κ)} {q : τ × κ → Bool}

/-- An entry that a filter drops does not show. -/
lemma filter_emplace_of_false (hq : q (t, k) = false) : (emplace t k index).filter q = index.filter q := by
  induction index with
  | nil => simp [emplace, hq]
  | cons e index ih =>
    rw [emplace]
    split_ifs
    · rw [List.filter_cons_of_neg (by simp [hq])]
    · rw [List.filter_cons, List.filter_cons, ih]

lemma filter_emplace_of_nil (hq : q (t, k) = true) (hnil : index.filter q = []) :
    (emplace t k index).filter q = [(t, k)] := by
  induction index with
  | nil => simp [emplace, hq]
  | cons e index ih =>
    rw [emplace]
    split_ifs
    · rw [List.filter_cons_of_pos hq, hnil]
    · rw [List.filter_cons] at hnil ⊢
      split_ifs at hnil ⊢
      exact ih hnil

end TimeIndex

namespace List

variable {α : Type*} {p q : α → Bool} {l : List α} {a : α}

/-- The removal of an element that a filter drops does not show. -/
lemma filter_eraseP_of_find (h : l.find? p = some a) (hq : q a = false) : (l.eraseP p).filter q = l.filter q := by
  obtain ⟨hp, before, after, rfl, hbefore⟩ := List.find?_eq_some_iff_append.mp h
  have hnone : ∀ b ∈ before, ¬ p b := by simpa using hbefore
  rw [List.eraseP_append_right _ hnone, List.eraseP_cons_of_pos hp]
  simp [hq]

/-- The removal of the only element that a filter keeps. -/
lemma filter_eraseP_eq_nil (h : l.find? p = some a) (hq : q a = true) {b : α} (hl : l.filter q = [b]) :
    (l.eraseP p).filter q = [] := by
  obtain ⟨hp, before, after, rfl, hbefore⟩ := List.find?_eq_some_iff_append.mp h
  have hnone : ∀ b ∈ before, ¬ p b := by simpa using hbefore
  rw [List.eraseP_append_right _ hnone, List.eraseP_cons_of_pos hp]
  rw [List.filter_append, List.filter_cons_of_pos hq] at hl
  have hlength := congrArg List.length hl
  simp only [List.length_append, List.length_cons, List.length_nil] at hlength
  rw [List.filter_append, List.append_eq_nil_iff]
  constructor <;> exact List.length_eq_zero_iff.mp (by omega)

end List
