import LinphoneSdk.Lib.Containers
import Mathlib.Algebra.Group.Nat.Defs
import Mathlib.Algebra.Ring.Int.Defs
import Mathlib.Data.List.Induction
import Mathlib.Data.List.Nodup

/-!
# LRU cache

The cache of `LruCache`: a list of keys, the last inserted first, and a map from the keys to the place
of the key in the list with its value. The constructor raises its parameter to `MinCapacity`, not the
capacity it has just set from it, so a cache works with the capacity that it was given.
-/

namespace LruCache

open List

variable {κ β : Type} [DecidableEq κ]

def MinCapacity : ℤ := 10

/-- A cache, with the number of places made so far: each place of `mKeys` has its own number. -/
structure Cache (κ β : Type) where
  mCapacity : Int32
  mKeys : List (ℕ × κ)
  mKeyToPair : AList fun _ : κ => ℕ × β
  places : ℕ

namespace Cache

def new (capacity : Int32) : Cache κ β := ⟨capacity, [], ∅, 0⟩

/-- The number of elements of the map. -/
def size (c : Cache κ β) : ℕ := c.mKeyToPair.keys.length

def lookup (c : Cache κ β) (key : κ) : Option β := (c.mKeyToPair.lookup key).map Prod.snd

def erase (place : ℕ) (key : κ) (c : Cache κ β) : Option (Cache κ β) :=
  if place ∈ c.mKeys.map Prod.fst then
    some { c with mKeys := c.mKeys.filter (·.1 ≠ place), mKeyToPair := c.mKeyToPair.erase key }
  else none

/-- Erase the last key of the list, `none` where the list has none. -/
def evict (c : Cache κ β) : Option (Cache κ β) :=
  c.mKeys.getLast?.map fun last =>
    { c with mKeys := c.mKeys.dropLast, mKeyToPair := c.mKeyToPair.erase last.2 }

def makeRoom (key : κ) (c : Cache κ β) : Option (Cache κ β) :=
  match c.mKeyToPair.lookup key with
  | some it => c.erase it.1 key
  | none => if Int32.ofNat c.size = c.mCapacity then c.evict else some c

def pushFront (key : κ) (value : β) (c : Cache κ β) : Cache κ β :=
  { c with
    mKeys := (c.places, key) :: c.mKeys
    mKeyToPair := c.mKeyToPair.emplace key (c.places, value)
    places := c.places + 1 }

def insert (key : κ) (value : β) (c : Cache κ β) : Option (Cache κ β) :=
  (c.makeRoom key).map (pushFront key value)

/-- The overload that takes the value over. -/
def insertMoved (key : κ) (value : β) (c : Cache κ β) : Option (Cache κ β) := c.insert key value

def clear (c : Cache κ β) : Cache κ β := { c with mKeys := [], mKeyToPair := ∅ }

end Cache

inductive Op (κ β : Type) where
  | insert (key : κ) (value : β)
  | insertMoved (key : κ) (value : β)
  | lookup (key : κ)
  | clear

def Op.apply : Op κ β → Cache κ β → Option (Cache κ β)
  | .insert key value, c => c.insert key value
  | .insertMoved key value, c => c.insertMoved key value
  | .lookup _, c => some c
  | .clear, c => some c.clear

def run (capacity : Int32) (ops : List (Op κ β)) : Option (Cache κ β) :=
  ops.foldlM (fun c op => op.apply c) (.new capacity)

/-! ### What was inserted -/

/-- The keys inserted since the last `clear` with their last values, the last inserted first. -/
def Op.record : List (κ × β) → Op κ β → List (κ × β)
  | recent, .insert key value => (key, value) :: recent.filter (·.1 ≠ key)
  | recent, .insertMoved key value => (key, value) :: recent.filter (·.1 ≠ key)
  | recent, .lookup _ => recent
  | _, .clear => []

def recency (ops : List (Op κ β)) : List (κ × β) := ops.foldl Op.record []

/-- The list and the map have the same keys, without repetition and not too many; they are the last
inserted, with their last values. The older ones left a full cache. -/
structure Sound (capacity : Int32) (recent : List (κ × β)) (c : Cache κ β) : Prop where
  same : ∀ key, key ∈ c.mKeyToPair ↔ key ∈ c.mKeys.map Prod.snd
  nodup : (c.mKeys.map Prod.snd).Nodup
  size_le : (c.size : ℤ) ≤ max capacity.toInt MinCapacity
  kept : ∃ content evicted, recent = content ++ evicted ∧ c.mKeys.map Prod.snd = content.map Prod.fst ∧
    (∀ key value, c.lookup key = some value ↔ (key, value) ∈ content) ∧
    (evicted ≠ [] → (c.size : ℤ) = capacity.toInt)

lemma nodup_recency (ops : List (Op κ β)) : ((recency ops).map Prod.fst).Nodup := by
  induction ops using reverseRecOn with
  | nil => exact nodup_nil
  | append_singleton ops op ih =>
    rw [recency, foldl_append, foldl_cons, foldl_nil, ← recency]
    have hinsert (key : κ) (value : β) :
        (((key, value) :: (recency ops).filter (·.1 ≠ key)).map Prod.fst).Nodup := by
      refine nodup_cons.mpr ⟨?_, (filter_sublist.map Prod.fst).nodup ih⟩
      simp
    cases op with
    | insert key value => exact hinsert key value
    | insertMoved key value => exact hinsert key value
    | lookup key => exact ih
    | clear => exact nodup_nil

/-! ### The two structures -/

structure Entry (κ β : Type) where
  place : ℕ
  key : κ
  value : β

def Entry.pair (e : Entry κ β) : κ × β := (e.key, e.value)

/-- The list and the map of a cache show the same entries. -/
structure Represents (c : Cache κ β) (entries : List (Entry κ β)) : Prop where
  mKeys : c.mKeys = entries.map fun e => (e.place, e.key)
  mKeyToPair : ∀ key it, c.mKeyToPair.lookup key = some it ↔ ⟨it.1, key, it.2⟩ ∈ entries
  places : (entries.map Entry.place).Nodup
  keys : (entries.map Entry.key).Nodup
  lt : ∀ e ∈ entries, e.place < c.places

namespace Represents

variable {c : Cache κ β} {entries l l' : List (Entry κ β)} {e : Entry κ β} {key : κ} {value : β}

lemma keys_eq (h : Represents c entries) : c.mKeys.map Prod.snd = entries.map Entry.key := by
  rw [h.mKeys, map_map]
  rfl

lemma mem_iff (h : Represents c entries) : key ∈ c.mKeyToPair ↔ key ∈ entries.map Entry.key := by
  rw [← AList.lookup_isSome, Option.isSome_iff_exists, mem_map]
  constructor
  · rintro ⟨it, hit⟩
    exact ⟨_, (h.mKeyToPair key it).mp hit, rfl⟩
  · rintro ⟨e, he, rfl⟩
    exact ⟨(e.place, e.value), (h.mKeyToPair e.key _).mpr he⟩

lemma size_eq (h : Represents c entries) : c.size = entries.length := by
  have hperm : c.mKeyToPair.keys.Perm (entries.map Entry.key) :=
    (perm_ext_iff_of_nodup c.mKeyToPair.keys_nodup h.keys).mpr fun _ => h.mem_iff
  rw [Cache.size, hperm.length_eq, length_map]

lemma lookup_iff (h : Represents c entries) : c.lookup key = some value ↔ (key, value) ∈ entries.map Entry.pair := by
  rw [Cache.lookup, Option.map_eq_some_iff, mem_map]
  constructor
  · rintro ⟨it, hit, rfl⟩
    exact ⟨_, (h.mKeyToPair key it).mp hit, rfl⟩
  · rintro ⟨e, he, hpair⟩
    obtain ⟨rfl, rfl⟩ := Prod.mk.inj hpair
    exact ⟨(e.place, e.value), (h.mKeyToPair e.key _).mpr he, rfl⟩

lemma new (capacity : Int32) : Represents (.new capacity : Cache κ β) [] :=
  ⟨rfl, by simp [Cache.new], nodup_nil, nodup_nil, by simp⟩

lemma clear (c : Cache κ β) : Represents c.clear [] :=
  ⟨rfl, by simp [Cache.clear], nodup_nil, nodup_nil, by simp⟩

/-- One entry less. -/
lemma remove (h : Represents c (l ++ e :: l')) :
    Represents { c with
      mKeys := (l ++ l').map fun e => (e.place, e.key)
      mKeyToPair := c.mKeyToPair.erase e.key } (l ++ l') := by
  have hsub : (l ++ l').Sublist (l ++ e :: l') := (sublist_cons_self e l').append_left l
  refine ⟨rfl, fun key it => ?_, (hsub.map _).nodup h.places, (hsub.map _).nodup h.keys,
    fun e' he' => h.lt e' (hsub.subset he')⟩
  have hkeys := h.keys
  rw [map_append, map_cons, nodup_middle, nodup_cons, ← map_append] at hkeys
  by_cases hkey : key = e.key
  · subst hkey
    rw [AList.lookup_erase]
    exact ⟨nofun, fun hmem => absurd (mem_map_of_mem hmem) hkeys.1⟩
  · have hne : ⟨it.1, key, it.2⟩ ≠ e := fun heq => hkey (congrArg Entry.key heq)
    rw [AList.lookup_erase_ne hkey, h.mKeyToPair key it]
    simp [hne]

lemma erase_eq (h : Represents c (l ++ e :: l')) :
    ∃ c', c.erase e.place e.key = some c' ∧ c'.mCapacity = c.mCapacity ∧ Represents c' (l ++ l') := by
  have hplaces := h.places
  rw [map_append, map_cons, nodup_middle, nodup_cons, ← map_append] at hplaces
  have hmem : e.place ∈ c.mKeys.map Prod.fst := by simp [h.mKeys]
  have hfilter : c.mKeys.filter (·.1 ≠ e.place) = (l ++ l').map fun e => (e.place, e.key) := by
    have hne : ∀ a ∈ l ++ l', a.place ≠ e.place := fun a ha heq =>
      hplaces.1 (heq ▸ mem_map_of_mem ha)
    rw [h.mKeys, filter_map, filter_append, filter_cons_of_neg (by simp),
      ← filter_append, filter_eq_self.mpr fun a ha => by simpa using hne a ha]
  rw [Cache.erase, if_pos hmem, hfilter]
  exact ⟨_, rfl, rfl, h.remove⟩

lemma evict_eq (h : Represents c (l ++ [e])) :
    ∃ c', c.evict = some c' ∧ c'.mCapacity = c.mCapacity ∧ Represents c' l := by
  have hremove := h.remove
  rw [append_nil] at hremove
  have hlast : c.mKeys.getLast? = some (e.place, e.key) := by simp [h.mKeys]
  have hinit : c.mKeys.dropLast = l.map fun e => (e.place, e.key) := by simp [h.mKeys]
  rw [Cache.evict, hlast, Option.map_some, hinit]
  exact ⟨_, rfl, rfl, hremove⟩

lemma pushFront (h : Represents c entries) (hkey : key ∉ entries.map Entry.key) (value : β) :
    Represents (c.pushFront key value) (⟨c.places, key, value⟩ :: entries) where
  mKeys := by simp [Cache.pushFront, h.mKeys]
  mKeyToPair key' it := by
    have hnot : key ∉ c.mKeyToPair := fun hmem => hkey (h.mem_iff.mp hmem)
    rw [Cache.pushFront, mem_cons]
    by_cases hk : key' = key
    · subst hk
      have hentry : ⟨it.1, key', it.2⟩ ∉ entries := fun hmem => hkey (mem_map_of_mem hmem)
      rw [AList.lookup_emplace, AList.lookup_eq_none.mpr hnot]
      simp [hentry, Prod.ext_iff, eq_comm]
    · rw [AList.lookup_emplace_ne hk, h.mKeyToPair]
      simp [hk]
  places := by
    refine nodup_cons.mpr ⟨fun hmem => ?_, h.places⟩
    obtain ⟨e, he, heq⟩ := mem_map.mp hmem
    exact absurd (h.lt e he) (by rw [heq]; exact Nat.lt_irrefl _)
  keys := nodup_cons.mpr ⟨hkey, h.keys⟩
  lt e he := by
    rcases mem_cons.mp he with rfl | he
    · exact Nat.lt_succ_self _
    · exact (h.lt e he).trans (Nat.lt_succ_self _)

end Represents

/-! ### Insertions -/

omit [DecidableEq κ] in
lemma map_fst_pair (entries : List (Entry κ β)) : (entries.map Entry.pair).map Prod.fst = entries.map Entry.key := by
  rw [map_map]
  rfl

lemma filter_ne_of_notMem {key : κ} {l : List (κ × β)} (h : key ∉ l.map Prod.fst) : l.filter (·.1 ≠ key) = l :=
  filter_eq_self.mpr fun _ ha => decide_eq_true fun heq => h (heq ▸ mem_map_of_mem ha)

/-- The cache has the entries last inserted; the others left it full. -/
structure Keeps (capacity : Int32) (recent : List (κ × β)) (c : Cache κ β) : Prop where
  mCapacity : c.mCapacity = capacity
  kept : ∃ entries evicted, Represents c entries ∧ recent = entries.map Entry.pair ++ evicted ∧
    (evicted ≠ [] → (entries.length : ℤ) = capacity.toInt)

/-- The same with room for a key, made in a cache of `size` elements. -/
structure HasRoom (capacity : Int32) (recent : List (κ × β)) (key : κ) (size : ℕ) (c : Cache κ β) :
    Prop where
  mCapacity : c.mCapacity = capacity
  kept : ∃ entries evicted, Represents c entries ∧ key ∉ entries.map Entry.key ∧
    recent.filter (·.1 ≠ key) = entries.map Entry.pair ++ evicted ∧
    (evicted ≠ [] → (entries.length + 1 : ℤ) = capacity.toInt) ∧
    (entries.length + 1 = size ∨ (size : ℤ) ≠ capacity.toInt ∧ entries.length = size)

namespace Keeps

variable {capacity : Int32} {recent : List (κ × β)} {c : Cache κ β} {key : κ}

/-- The key itself goes. -/
lemma hasRoom_of_mem {it : ℕ × β} (h : Keeps capacity recent c) (hnodup : (recent.map Prod.fst).Nodup)
    (hlookup : c.mKeyToPair.lookup key = some it) :
    ∃ c', c.makeRoom key = some c' ∧ HasRoom capacity recent key c.size c' := by
  obtain ⟨entries, evicted, hrep, rfl, hfull⟩ := h.kept
  obtain ⟨l, l', rfl⟩ := append_of_mem ((hrep.mKeyToPair key it).mp hlookup)
  obtain ⟨c', herase, hcapacity, hrep'⟩ := hrep.erase_eq
  rw [map_append, map_fst_pair, map_append, map_cons, append_assoc,
    cons_append, nodup_middle, nodup_cons, ← append_assoc, ← map_append,
    mem_append, not_or] at hnodup
  refine ⟨c', ?_, hcapacity.trans h.mCapacity, l ++ l', evicted, hrep', hnodup.1.1, ?_, fun hne => ?_, .inl ?_⟩
  · rw [Cache.makeRoom, hlookup]
    exact herase
  · have hl := hnodup.1.1
    rw [← map_fst_pair] at hl
    rw [filter_append, filter_ne_of_notMem hnodup.1.2, map_append, map_cons,
      filter_append, filter_cons_of_neg (by simp [Entry.pair]), ← filter_append,
      ← map_append, filter_ne_of_notMem hl]
  · rw [← hfull hne]
    simp only [length_append, length_cons]
    omega
  · rw [hrep.size_eq]
    simp only [length_append, length_cons]
    omega

section

variable (h : Keeps capacity recent c)
include h

/-- The last key goes. -/
lemma hasRoom_of_full (hlookup : c.mKeyToPair.lookup key = none)
    (hfull : Int32.ofNat c.size = c.mCapacity) (hsize : (c.size : ℤ) = capacity.toInt)
    (hpos : c.size ≠ 0) : ∃ c', c.makeRoom key = some c' ∧ HasRoom capacity recent key c.size c' := by
  obtain ⟨entries, evicted, hrep, rfl, -⟩ := h.kept
  have hkey : key ∉ entries.map Entry.key := fun hmem =>
    AList.lookup_eq_none.mp hlookup (hrep.mem_iff.mpr hmem)
  have hlength := hrep.size_eq
  rcases eq_nil_or_concat' entries with rfl | ⟨l, e, rfl⟩
  · exact absurd hlength hpos
  · obtain ⟨c', hevict, hcapacity, hrep'⟩ := hrep.evict_eq
    rw [map_append, mem_append, not_or] at hkey
    rw [length_append, length_singleton] at hlength
    refine ⟨c', ?_, hcapacity.trans h.mCapacity, l, (e.pair :: evicted).filter (·.1 ≠ key), hrep',
      hkey.1, ?_, fun _ => ?_, .inl hlength.symm⟩
    · rw [Cache.makeRoom, hlookup]
      simpa only [if_pos hfull] using hevict
    · have hl := hkey.1
      rw [← map_fst_pair] at hl
      rw [map_append, append_assoc, filter_append, filter_ne_of_notMem hl]
      rfl
    · rw [← hsize, hlength]
      rfl

/-- No key goes from a cache that is not full: none has left it before. -/
lemma hasRoom_of_not_full (hlookup : c.mKeyToPair.lookup key = none)
    (hfull : Int32.ofNat c.size ≠ c.mCapacity) (hsize : (c.size : ℤ) ≠ capacity.toInt) :
    ∃ c', c.makeRoom key = some c' ∧ HasRoom capacity recent key c.size c' := by
  obtain ⟨entries, evicted, hrep, rfl, hevicted⟩ := h.kept
  have hkey : key ∉ entries.map Entry.key := fun hmem =>
    AList.lookup_eq_none.mp hlookup (hrep.mem_iff.mpr hmem)
  have hlength := hrep.size_eq
  have hnil : evicted = [] := by
    by_contra hne
    exact hsize (hlength ▸ hevicted hne)
  refine ⟨c, ?_, h.mCapacity, entries, [], hrep, hkey, ?_, fun hne => absurd rfl hne, .inr ⟨hsize, hlength.symm⟩⟩
  · rw [Cache.makeRoom, hlookup]
    exact if_neg hfull
  · rw [← map_fst_pair] at hkey
    rw [hnil, append_nil, filter_ne_of_notMem hkey]

/-- A key is inserted in front of the others. The cache grows only when it is not full. -/
lemma insert (hnodup : (recent.map Prod.fst).Nodup)
    (hcapacity : capacity.toInt ≠ 0) (hsize : c.size < 2 ^ 31) (key : κ) (value : β) :
    ∃ c', c.insert key value = some c' ∧ Keeps capacity ((key, value) :: recent.filter (·.1 ≠ key)) c' ∧
      (c'.size = c.size ∨ (c.size : ℤ) ≠ capacity.toInt ∧ c'.size = c.size + 1) := by
  have hroom : Int32.ofNat c.size = c.mCapacity ↔ (c.size : ℤ) = capacity.toInt := by
    rw [← Int32.toInt_inj, Int32.toInt_ofNat_of_lt hsize, h.mCapacity]
  obtain ⟨c', hmake, hhas⟩ : ∃ c', c.makeRoom key = some c' ∧ HasRoom capacity recent key c.size c' := by
    cases hlookup : c.mKeyToPair.lookup key with
    | some it => exact h.hasRoom_of_mem hnodup hlookup
    | none =>
      by_cases hfull : Int32.ofNat c.size = c.mCapacity
      · have hsize' := hroom.mp hfull
        exact h.hasRoom_of_full hlookup hfull hsize' fun hzero => hcapacity (by simp [← hsize', hzero])
      · exact h.hasRoom_of_not_full hlookup hfull (mt hroom.mpr hfull)
  obtain ⟨entries, evicted, hrep, hkey, hrecent, hevicted, hlength⟩ := hhas.kept
  have hrep' := hrep.pushFront hkey value
  refine ⟨c'.pushFront key value, ?_, ⟨hhas.mCapacity, _, evicted, hrep', ?_, ?_⟩, ?_⟩
  · rw [Cache.insert, hmake, Option.map_some]
  · rw [hrecent]
    rfl
  · simpa using hevicted
  · rw [hrep'.size_eq, length_cons]
    omega

lemma size_le_length : c.size ≤ recent.length := by
  obtain ⟨entries, evicted, hrep, rfl, -⟩ := h.kept
  rw [hrep.size_eq, length_append, length_map]
  exact Nat.le_add_right _ _

/-- A sound cache, as long as it is not too large. -/
lemma sound (hsize : (c.size : ℤ) ≤ max capacity.toInt MinCapacity) : Sound capacity recent c := by
  obtain ⟨entries, evicted, hrep, hrecent, hevicted⟩ := h.kept
  refine ⟨fun key => ?_, ?_, hsize, entries.map Entry.pair, evicted, hrecent, ?_, ?_, ?_⟩
  · rw [hrep.keys_eq]
    exact hrep.mem_iff
  · rw [hrep.keys_eq]
    exact hrep.keys
  · rw [hrep.keys_eq, map_fst_pair]
  · exact fun key value => hrep.lookup_iff
  · rw [hrep.size_eq]
    exact hevicted

end

end Keeps

/-! ### Runs -/

/-- How many keys may have been inserted since the last `clear` when the capacity is not positive. -/
def allowed (capacity : Int32) : ℕ := if capacity.toInt = 0 then 0 else MinCapacity.toNat

section runs

variable {capacity : Int32} {ops : List (Op κ β)} {op : Op κ β}

lemma run_concat : run capacity (ops ++ [op]) = (run capacity ops).bind op.apply := by
  simp [run, foldlM_append]

lemma recency_concat : recency (ops ++ [op]) = Op.record (recency ops) op := by
  simp [recency]

/-- The most elements of a cache that works. -/
def limit (capacity : Int32) : ℤ := if 0 < capacity.toInt then capacity.toInt else MinCapacity

lemma limit_le (capacity : Int32) : limit capacity ≤ max capacity.toInt MinCapacity := by
  rw [limit]
  split_ifs
  · exact Int.le_max_left _ _
  · exact Int.le_max_right _ _

lemma limit_lt (capacity : Int32) : limit capacity < 2 ^ 31 := by
  have hlt := capacity.toInt_lt
  rw [limit, MinCapacity]
  split_ifs <;> omega

/-- One insertion of a run. -/
lemma exists_insert {c : Cache κ β} {key : κ} {value : β} (h : Keeps capacity (recency ops) c)
    (hsize : (c.size : ℤ) ≤ limit capacity)
    (hle : 0 < capacity.toInt ∨ ((key, value) :: (recency ops).filter (·.1 ≠ key)).length ≤ allowed capacity) :
    ∃ c', c.insert key value = some c' ∧ Keeps capacity ((key, value) :: (recency ops).filter (·.1 ≠ key)) c' ∧
      (c'.size : ℤ) ≤ limit capacity := by
  have hlt := limit_lt capacity
  have hcapacity : capacity.toInt ≠ 0 := by
    rcases hle with hpos | hle
    · exact Int.ne_of_gt hpos
    · intro hzero
      rw [allowed, if_pos hzero, length_cons] at hle
      exact Nat.not_succ_le_zero _ hle
  obtain ⟨c', hinsert, hkeeps, hgrow⟩ := h.insert (nodup_recency ops) hcapacity (by omega) key value
  refine ⟨c', hinsert, hkeeps, ?_⟩
  rcases hgrow with hsame | ⟨hne, hgrow⟩
  · rwa [hsame]
  · by_cases hpos : 0 < capacity.toInt
    · rw [limit, if_pos hpos] at hsize ⊢
      omega
    · have hsmall := hkeeps.size_le_length.trans (hle.resolve_left hpos)
      rw [allowed, if_neg hcapacity] at hsmall
      rw [limit, if_neg hpos]
      exact (Int.le_toNat (by decide)).mp hsmall

/-- Within the condition, the cache keeps the entries last inserted and stays within its limit. -/
lemma exists_run (hops : 0 < capacity.toInt ∨ ∀ ops', ops' <+: ops → (recency ops').length ≤ allowed capacity) :
    ∃ c, run capacity ops = some c ∧ Keeps capacity (recency ops) c ∧ (c.size : ℤ) ≤ limit capacity := by
  have hempty {c : Cache κ β} (hrep : Represents c []) : (c.size : ℤ) ≤ limit capacity := by
    rw [hrep.size_eq, limit, MinCapacity]
    split_ifs with hpos
    · exact Int.le_of_lt hpos
    · simp
  induction ops using reverseRecOn with
  | nil =>
    have hrep := @Represents.new κ β _ capacity
    exact ⟨.new capacity, rfl, ⟨rfl, [], [], hrep, rfl, fun hne => absurd rfl hne⟩, hempty hrep⟩
  | append_singleton ops op ih =>
    obtain ⟨c, hrun, hkeeps, hsize⟩ := ih (hops.imp_right fun h ops' hops' =>
      h ops' (hops'.trans (prefix_append ops [op])))
    have hlast := hops.imp_right fun h => h (ops ++ [op]) (prefix_refl _)
    rw [recency_concat] at hlast ⊢
    rw [run_concat, hrun, Option.bind_some]
    cases op with
    | insert key value => exact exists_insert hkeeps hsize hlast
    | insertMoved key value => exact exists_insert hkeeps hsize hlast
    | lookup key => exact ⟨c, rfl, hkeeps, hsize⟩
    | clear =>
      have hrep := Represents.clear c
      exact ⟨c.clear, rfl, ⟨hkeeps.mCapacity, [], [], hrep, rfl, fun hne => absurd rfl hne⟩, hempty hrep⟩

/-- With the capacity 0, the first insertion takes the last key of an empty list. -/
lemma recency_of_run {c : Cache κ β} (hzero : capacity.toInt = 0) (hrun : run capacity ops = some c) :
    recency ops = [] ∧ c.mKeys = [] ∧ c.mKeyToPair = ∅ ∧ c.mCapacity = capacity := by
  induction ops using reverseRecOn generalizing c with
  | nil =>
    obtain rfl := Option.some.inj hrun
    exact ⟨rfl, rfl, rfl, rfl⟩
  | append_singleton ops op ih =>
    rw [run_concat, Option.bind_eq_some_iff] at hrun
    obtain ⟨c', hrun, hop⟩ := hrun
    obtain ⟨hrecency, hkeys, hmap, hcapacity⟩ := ih hrun
    have hinsert (key : κ) (value : β) : c'.insert key value = none := by
      have hfull : Int32.ofNat c'.size = c'.mCapacity := by
        rw [← Int32.toInt_inj, hcapacity, hzero, Cache.size, hmap]
        rfl
      rw [Cache.insert, Cache.makeRoom, hmap, AList.lookup_empty]
      simp [hfull, Cache.evict, hkeys]
    rw [recency_concat]
    cases op with
    | insert key value => exact absurd hop (by rw [Op.apply, hinsert]; exact nofun)
    | insertMoved key value =>
      exact absurd hop (by rw [Op.apply, Cache.insertMoved, hinsert]; exact nofun)
    | lookup key =>
      obtain rfl := Option.some.inj hop
      exact ⟨hrecency, hkeys, hmap, hcapacity⟩
    | clear =>
      obtain rfl := Option.some.inj hop
      exact ⟨rfl, rfl, rfl, hcapacity⟩

end runs

/-- The run never touches an empty list and is sound at each of its steps, if and only if the capacity
is positive or, when it is negative, the keys inserted since the last `clear` are never more than
`MinCapacity` (when it is 0, none is ever inserted). -/
theorem soundRun_iff (capacity : Int32) (ops : List (Op κ β)) :
    (∀ ops', ops' <+: ops → ∃ c, run capacity ops' = some c ∧ Sound capacity (recency ops') c) ↔
      0 < capacity.toInt ∨ ∀ ops', ops' <+: ops → (recency ops').length ≤ allowed capacity := by
  constructor
  · intro h
    by_cases hpos : 0 < capacity.toInt
    · exact .inl hpos
    · refine .inr fun ops' hops' => ?_
      obtain ⟨c, hrun, hsound⟩ := h ops' hops'
      rw [allowed]
      split_ifs with hzero
      · rw [(recency_of_run hzero hrun).1]
        exact Nat.le_refl 0
      · obtain ⟨content, evicted, hrecent, hkeys, -, hevicted⟩ := hsound.kept
        have hsize := hsound.size_le
        have hnil : evicted = [] := by
          by_contra hne
          have := hevicted hne
          omega
        have hlength : c.size = content.length := by
          have hperm : c.mKeyToPair.keys.Perm (c.mKeys.map Prod.snd) :=
            (perm_ext_iff_of_nodup c.mKeyToPair.keys_nodup hsound.nodup).mpr hsound.same
          rw [Cache.size, hperm.length_eq, hkeys, length_map]
        rw [max_eq_right (by rw [MinCapacity]; omega), hlength] at hsize
        rw [hrecent, hnil, append_nil]
        exact (Int.le_toNat (by decide)).mpr hsize
  · intro h ops' hops'
    obtain ⟨c, hrun, hkeeps, hsize⟩ := exists_run (h.imp_right fun h ops'' hops'' =>
      h ops'' (hops''.trans hops'))
    exact ⟨c, hrun, hkeeps.sound (hsize.trans (limit_le capacity))⟩

/-- A cache of capacity 0, which the constructor was to make a cache of 10 elements. -/
theorem not_sound_zero : ¬ ∀ ops', ops' <+: [Op.insert 1 1] → ∃ c, run 0 ops' = some c ∧ Sound 0 (recency ops') c := by
  intro h
  obtain ⟨c, hrun, -⟩ := h [.insert 1 1] (prefix_refl _)
  have hnone : run 0 [Op.insert 1 1] = none := by decide
  rw [hnone] at hrun
  cases hrun

end LruCache
