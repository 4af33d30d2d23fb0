import Mathlib.Algebra.Group.Int.Defs
import Mathlib.Data.List.Basic
import Mathlib.Tactic.Common

/-!
# Seeking in a media file

A position in milliseconds is converted to the clock of each track, whose records are then searched by dichotomy. The
conversion is made in 32 bits.
-/

namespace Smff

open List UInt32 Nat

structure Record where
  timestamp : UInt32
  pos : UInt32
  size : UInt32
  deriving DecidableEq

structure TrackReader where
  mClockRate : Int32
  mRecords : List Record
  mCurrentRecord : ℕ := 0
  deriving DecidableEq

namespace TrackReader

/-- The timestamps may repeat. -/
def Sorted (t : TrackReader) : Prop := t.mRecords.Pairwise (·.timestamp ≤ ·.timestamp)

instance (t : TrackReader) : Decidable t.Sorted := inferInstanceAs (Decidable (List.Pairwise _ _))

variable (t : TrackReader)

/-- The loop of `affineSeek`: the first of the records with a timestamp that end at an index. -/
def stepBack (timestamp : UInt32) : (foundIndex : ℕ) → foundIndex < t.mRecords.length → ℕ
  | 0, _ => 0
  | foundIndex + 1, h =>
    if t.mRecords[foundIndex].timestamp = timestamp then stepBack timestamp foundIndex (lt_of_succ_lt h)
    else foundIndex + 1

def affineSeek (lowIndex highIndex : ℕ) (hle : lowIndex ≤ highIndex) (hlt : highIndex < t.mRecords.length)
    (timestamp : UInt32) : ℕ :=
  if t.mRecords[highIndex].timestamp ≤ timestamp then t.stepBack t.mRecords[highIndex].timestamp highIndex hlt
  else t.stepBack t.mRecords[lowIndex].timestamp lowIndex (Nat.lt_of_le_of_lt hle hlt)

def seek (lowIndex highIndex : ℕ) (hle : lowIndex ≤ highIndex) (hlt : highIndex < t.mRecords.length)
    (timestamp : UInt32) : ℕ :=
  if _ : lowIndex = highIndex ∨ lowIndex + 1 = highIndex then t.affineSeek lowIndex highIndex hle hlt timestamp
  else
    let middle := (lowIndex + highIndex) / 2
    if t.mRecords[middle].timestamp ≤ timestamp then seek middle highIndex (by omega) hlt timestamp
    else seek lowIndex (if 0 < middle then middle - 1 else 0) (by split <;> omega) (by split <;> omega) timestamp
  termination_by highIndex - lowIndex
  decreasing_by
    · omega
    · split <;> omega

def seekToTimestamp (timestamp : UInt32) : TrackReader :=
  { t with
    mCurrentRecord :=
      if h : 0 < t.mRecords.length then
        t.seek 0 (t.mRecords.length - 1) (Nat.zero_le _) (sub_lt h Nat.one_pos) timestamp
      else 0 }

/-- `none` if there is a division by zero. -/
def getDurationMs : Option UInt32 :=
  match t.mRecords.getLast? with
  | none => some 0
  | some back =>
    if t.mClockRate = 0 then none
    else some (.ofNat (back.timestamp.toNat * 1000 / (t.mClockRate.toInt % 2 ^ 64).toNat))

end TrackReader

structure FileReader where
  mTrackReaders : List TrackReader

namespace FileReader

def seekMilliseconds (file : FileReader) (ms : UInt32) : FileReader :=
  ⟨file.mTrackReaders.map fun t => t.seekToTimestamp (ms * t.mClockRate.toUInt32 / 1000)⟩

def getDurationMs (file : FileReader) : Option UInt32 :=
  file.mTrackReaders.foldlM (fun maxDuration t => do
    let trDuration ← t.getDurationMs
    return if maxDuration < trDuration then trDuration else maxDuration) 0

end FileReader

/-! ### The record that is sought -/

/-- The first record with the greatest timestamp that is not above the target, or the first record. -/
def Sought (records : List Record) (target : ℤ) (i : ℕ) : Prop :=
  (∀ r ∈ records, target < (r.timestamp.toNat : ℤ)) ∧ i = 0 ∨
    ∃ r, records[i]? = some r ∧ (r.timestamp.toNat : ℤ) ≤ target ∧
      (∀ s ∈ records, (s.timestamp.toNat : ℤ) ≤ target → s.timestamp ≤ r.timestamp) ∧
      ∀ j < i, ∀ s, records[j]? = some s → s.timestamp ≠ r.timestamp

namespace TrackReader

variable {t : TrackReader}

lemma Sorted.le (h : t.Sorted) {i j : ℕ} (hij : i ≤ j) (hj : j < t.mRecords.length) :
    (t.mRecords.get ⟨i, Nat.lt_of_le_of_lt hij hj⟩).timestamp ≤ t.mRecords[j].timestamp := by
  obtain rfl | hlt := Nat.eq_or_lt_of_le hij
  · exact UInt32.le_refl _
  · exact pairwise_iff_getElem.mp h i j _ hj hlt

lemma sought_stepBack {target : ℤ} {i : ℕ} (hi : i < t.mRecords.length)
    (hle : (t.mRecords[i].timestamp.toNat : ℤ) ≤ target)
    (hgreatest : ∀ s ∈ t.mRecords, (s.timestamp.toNat : ℤ) ≤ target → s.timestamp ≤ t.mRecords[i].timestamp)
    (hsorted : t.Sorted) : Sought t.mRecords target (t.stepBack t.mRecords[i].timestamp i hi) := by
  induction i with
  | zero =>
    exact .inr ⟨t.mRecords[0], getElem?_eq_getElem hi, hle, hgreatest, fun j hj => absurd hj (Nat.not_lt_zero j)⟩
  | succ i ih =>
    rw [stepBack]
    split_ifs with heq
    · rw [← heq] at hle hgreatest ⊢
      exact ih (lt_of_succ_lt hi) hle hgreatest
    · refine .inr ⟨t.mRecords[i + 1], getElem?_eq_getElem hi, hle, hgreatest, fun j hj s hs hsame => heq ?_⟩
      obtain ⟨hjlt, rfl⟩ := List.getElem?_eq_some_iff.mp hs
      have hji : t.mRecords[j].timestamp ≤ t.mRecords[i].timestamp := hsorted.le (le_of_lt_succ hj) _
      have hij : t.mRecords[i].timestamp ≤ t.mRecords[i + 1].timestamp := hsorted.le (le_succ i) hi
      exact UInt32.le_antisymm hij (hsame ▸ hji)

/-- Nothing below `lowIndex` is above the target, and nothing above `highIndex` is not. -/
lemma sought_affineSeek {lowIndex highIndex : ℕ} {hle : lowIndex ≤ highIndex} {hlt : highIndex < t.mRecords.length}
    {timestamp : UInt32} (hsorted : t.Sorted) (hnear : highIndex ≤ lowIndex + 1)
    (hlow : lowIndex = 0 ∨ t.mRecords[lowIndex].timestamp ≤ timestamp)
    (hhigh : ∀ j (hj : j < t.mRecords.length), highIndex < j → timestamp < t.mRecords[j].timestamp) :
    Sought t.mRecords timestamp.toNat (t.affineSeek lowIndex highIndex hle hlt timestamp) := by
  have hgreatest {k : ℕ} (hk : k < t.mRecords.length)
      (habove : ∀ j (hj : j < t.mRecords.length), k < j → timestamp < t.mRecords[j].timestamp) :
      ∀ s ∈ t.mRecords, (s.timestamp.toNat : ℤ) ≤ timestamp.toNat → s.timestamp ≤ t.mRecords[k].timestamp := by
    intro s hs hsle
    obtain ⟨j, hj, rfl⟩ := mem_iff_getElem.mp hs
    refine hsorted.le ?_ hk
    by_contra hkj
    have hgt := lt_iff_toNat_lt.mp (habove j hj (by omega))
    omega
  rw [affineSeek]
  split_ifs with h
  · refine sought_stepBack hlt ?_ (hgreatest hlt hhigh) hsorted
    have := le_iff_toNat_le.mp h
    omega
  · rw [UInt32.not_le] at h
    have hlowlt : lowIndex < t.mRecords.length := Nat.lt_of_le_of_lt hle hlt
    have habove (j : ℕ) (hj : j < t.mRecords.length) (hlj : lowIndex < j) : timestamp < t.mRecords[j].timestamp := by
      have hhj : t.mRecords[highIndex].timestamp ≤ t.mRecords[j].timestamp := hsorted.le (by omega) hj
      rw [lt_iff_toNat_lt] at h ⊢
      rw [le_iff_toNat_le] at hhj
      omega
    by_cases hfound : t.mRecords[lowIndex].timestamp ≤ timestamp
    · refine sought_stepBack hlowlt ?_ (hgreatest hlowlt habove) hsorted
      have := le_iff_toNat_le.mp hfound
      omega
    · obtain rfl := hlow.resolve_right hfound
      refine .inl ⟨fun r hr => ?_, rfl⟩
      obtain ⟨j, hj, rfl⟩ := mem_iff_getElem.mp hr
      have hzero : t.mRecords[0].timestamp ≤ t.mRecords[j].timestamp := hsorted.le (Nat.zero_le j) hj
      rw [UInt32.not_le, lt_iff_toNat_lt] at hfound
      rw [le_iff_toNat_le] at hzero
      omega

lemma sought_seek {lowIndex highIndex : ℕ} {hle : lowIndex ≤ highIndex} {hlt : highIndex < t.mRecords.length}
    {timestamp : UInt32} (hsorted : t.Sorted) (hlow : lowIndex = 0 ∨ t.mRecords[lowIndex].timestamp ≤ timestamp)
    (hhigh : ∀ j (hj : j < t.mRecords.length), highIndex < j → timestamp < t.mRecords[j].timestamp) :
    Sought t.mRecords timestamp.toNat (t.seek lowIndex highIndex hle hlt timestamp) := by
  fun_induction seek t lowIndex highIndex hle hlt timestamp with
  | case1 lowIndex highIndex hle hlt h => exact sought_affineSeek hsorted (by omega) hlow hhigh
  | case2 lowIndex highIndex hle hlt h middle hmiddle ih => exact ih (.inr hmiddle) hhigh
  | case3 lowIndex highIndex hle hlt h middle hmiddle ih =>
    refine ih hlow fun j hj hgt => ?_
    have hpos : 0 < middle := by omega
    rw [dif_pos hpos] at hgt
    have hmj : t.mRecords[middle].timestamp ≤ t.mRecords[j].timestamp := hsorted.le (by omega) hj
    rw [UInt32.not_le] at hmiddle
    rw [lt_iff_toNat_lt] at hmiddle ⊢
    rw [le_iff_toNat_le] at hmj
    omega

/-- The dichotomy finds the record that is sought. -/
lemma sought_seekToTimestamp (hsorted : t.Sorted) (timestamp : UInt32) :
    Sought t.mRecords timestamp.toNat (t.seekToTimestamp timestamp).mCurrentRecord := by
  rw [seekToTimestamp]
  dsimp only
  split_ifs with h
  · exact sought_seek hsorted (.inl rfl) fun j hj hgt => absurd hj (by omega)
  · have hnil : t.mRecords = [] := length_eq_zero_iff.mp (by omega)
    exact .inl ⟨by simp [hnil], rfl⟩

end TrackReader

/-! ### Two targets -/

/-- The same records are not above the targets, those with the first timestamp apart. -/
def SameRecords (records : List Record) (target target' : ℤ) : Prop :=
  ∀ first ∈ records.head?, ∀ r ∈ records, first.timestamp < r.timestamp →
    ((r.timestamp.toNat : ℤ) ≤ target ↔ (r.timestamp.toNat : ℤ) ≤ target')

instance (records : List Record) (target target' : ℤ) : Decidable (SameRecords records target target') :=
  inferInstanceAs (Decidable (∀ first ∈ records.head?, ∀ r ∈ records, _ → _))

section targets

variable {records : List Record} {target target' : ℤ} {i : ℕ}

lemma Sought.le_of_le (h : Sought records target i) (h' : Sought records target' i) {first r : Record}
    (hfirst : first ∈ records.head?) (hr : r ∈ records) (hlt : first.timestamp < r.timestamp)
    (hle : (r.timestamp.toNat : ℤ) ≤ target) : (r.timestamp.toNat : ℤ) ≤ target' := by
  rw [lt_iff_toNat_lt] at hlt
  rcases h with ⟨habove, -⟩ | ⟨found, hfound, -, hgreatest, -⟩
  · exact absurd hle (Int.not_le.mpr (habove r hr))
  have hrfound := le_iff_toNat_le.mp (hgreatest r hr hle)
  rcases h' with ⟨-, rfl⟩ | ⟨found', hfound', hle', -⟩
  · rw [← head?_eq_getElem?, hfirst] at hfound
    obtain rfl := Option.some.inj hfound
    omega
  · rw [hfound] at hfound'
    obtain rfl := Option.some.inj hfound'
    omega

lemma Sought.of_sameRecords (h : Sought records target i) (hsorted : records.Pairwise (·.timestamp ≤ ·.timestamp))
    (hsame : SameRecords records target target') : Sought records target' i := by
  cases hrecords : records with
  | nil =>
    rcases h with ⟨-, rfl⟩ | ⟨r, hr, -⟩
    · exact .inl ⟨fun r hr => absurd hr not_mem_nil, rfl⟩
    · simp [hrecords] at hr
  | cons first rest =>
    rw [← hrecords]
    have hhead : first ∈ records.head? := by simp [hrecords]
    have hzero : records[0]? = some first := by simp [hrecords]
    have hmem : first ∈ records := by simp [hrecords]
    have hfirst (r : Record) (hr : r ∈ records) : first.timestamp.toNat ≤ r.timestamp.toNat := by
      rw [hrecords] at hr hsorted
      rcases mem_cons.mp hr with rfl | hr
      · exact Nat.le_refl _
      · exact le_iff_toNat_le.mp (rel_of_pairwise_cons hsorted hr)
    have hlater (r : Record) (hr : r ∈ records) (hlt : first.timestamp.toNat < r.timestamp.toNat) :=
      hsame first hhead r hr (lt_iff_toNat_lt.mpr hlt)
    -- the first record is found, or nothing is
    have hstart (habove : ∀ r ∈ records, first.timestamp.toNat < r.timestamp.toNat → target < (r.timestamp.toNat : ℤ)) :
        Sought records target' 0 := by
      by_cases hle : (first.timestamp.toNat : ℤ) ≤ target'
      · refine .inr ⟨first, hzero, hle, fun s hs hsle => ?_, fun j hj => absurd hj (Nat.not_lt_zero j)⟩
        rw [le_iff_toNat_le]
        by_contra hgt
        have hsle' := (hlater s hs (by omega)).mpr hsle
        have := habove s hs (by omega)
        omega
      · refine .inl ⟨fun r hr => ?_, rfl⟩
        have := hfirst r hr
        omega
    rcases h with ⟨habove, rfl⟩ | ⟨r, hr, hle, hgreatest, hnone⟩
    · exact hstart fun r hr _ => habove r hr
    have hrmem := mem_of_getElem? hr
    by_cases hlt : first.timestamp.toNat < r.timestamp.toNat
    · refine .inr ⟨r, hr, (hlater r hrmem hlt).mp hle, fun s hs hsle => ?_, hnone⟩
      by_cases hslt : first.timestamp.toNat < s.timestamp.toNat
      · exact hgreatest s hs ((hlater s hs hslt).mpr hsle)
      · rw [le_iff_toNat_le]
        omega
    · have heq : first.timestamp = r.timestamp := by
        have := hfirst r hrmem
        exact UInt32.toNat_inj.mp (by omega)
      obtain rfl : i = 0 := by
        by_contra hne
        exact hnone 0 (Nat.pos_of_ne_zero hne) first hzero heq
      refine hstart fun s hs hslt => ?_
      by_contra hsle
      have := le_iff_toNat_le.mp (hgreatest s hs (by omega))
      rw [← heq] at this
      omega

lemma Sought.iff_sameRecords (h : Sought records target i) (hsorted : records.Pairwise (·.timestamp ≤ ·.timestamp)) :
    Sought records target' i ↔ SameRecords records target target' :=
  ⟨fun h' _ hfirst _ hr hlt => ⟨h.le_of_le h' hfirst hr hlt, h'.le_of_le h hfirst hr hlt⟩, h.of_sameRecords hsorted⟩

end targets

/-! ### Positions in milliseconds -/

namespace TrackReader

def conversion (t : TrackReader) (ms : UInt32) : ℤ := ms.toNat * t.mClockRate.toInt / 1000

def conversion32 (t : TrackReader) (ms : UInt32) : UInt32 := ms * t.mClockRate.toUInt32 / 1000

end TrackReader

/-- Each track is at the record for its conversion exactly where the conversions in 32 bits leave the same records
behind. -/
theorem sought_seekMilliseconds_iff {file : FileReader} (hsorted : ∀ t ∈ file.mTrackReaders, t.Sorted) (ms : UInt32) :
    ((∀ t ∈ file.mTrackReaders, ∀ timestamp : UInt32,
          Sought t.mRecords timestamp.toNat (t.seekToTimestamp timestamp).mCurrentRecord) ∧
        ∀ t ∈ (file.seekMilliseconds ms).mTrackReaders, Sought t.mRecords (t.conversion ms) t.mCurrentRecord) ↔
      ∀ t ∈ file.mTrackReaders, SameRecords t.mRecords (t.conversion32 ms).toNat (t.conversion ms) := by
  have hiff (t : TrackReader) (ht : t ∈ file.mTrackReaders) :
      Sought t.mRecords (t.conversion ms) (t.seekToTimestamp (t.conversion32 ms)).mCurrentRecord ↔
        SameRecords t.mRecords (t.conversion32 ms).toNat (t.conversion ms) :=
    (t.sought_seekToTimestamp (hsorted t ht) (t.conversion32 ms)).iff_sameRecords (hsorted t ht)
  constructor
  · rintro ⟨-, h⟩ t ht
    exact (hiff t ht).mp (h _ (mem_map_of_mem ht))
  · intro h
    refine ⟨fun t ht => t.sought_seekToTimestamp (hsorted t ht), fun t' ht' => ?_⟩
    obtain ⟨t, ht, rfl⟩ := mem_map.mp ht'
    exact (hiff t ht).mpr (h t ht)

def speechAndVideo : FileReader :=
  ⟨[⟨8000, [⟨0, 0, 10⟩, ⟨384000, 10, 10⟩, ⟨384000, 20, 10⟩, ⟨384160, 30, 10⟩], 0⟩, ⟨44100, [⟨0, 40, 10⟩], 0⟩]⟩

theorem sought_seekMilliseconds_speechAndVideo :
    (speechAndVideo.seekMilliseconds 48000).mTrackReaders.map (·.mCurrentRecord) = [1, 0] ∧
      ∀ t ∈ (speechAndVideo.seekMilliseconds 48000).mTrackReaders,
        Sought t.mRecords (t.conversion 48000) t.mCurrentRecord := by
  have hsorted : ∀ t ∈ speechAndVideo.mTrackReaders, t.Sorted := by decide
  exact ⟨by decide +kernel, ((sought_seekMilliseconds_iff hsorted 48000).mpr (by decide +kernel)).2⟩

/-- After 47 seconds at a rate of 90000, the product has more than 32 bits. -/
theorem sought_seekMilliseconds_fails : let file : FileReader := ⟨[⟨90000, [⟨0, 0, 10⟩, ⟨4500000, 10, 10⟩], 0⟩]⟩
    (∀ t ∈ file.mTrackReaders, t.Sorted) ∧ file.getDurationMs = some 50000 ∧
      ∃ t ∈ (file.seekMilliseconds 50000).mTrackReaders, ¬ Sought t.mRecords (t.conversion 50000) t.mCurrentRecord := by
  intro file
  have hsorted : ∀ t ∈ file.mTrackReaders, t.Sorted := by decide
  refine ⟨hsorted, by decide, _, mem_map_of_mem (mem_singleton_self _), fun h => ?_⟩
  have hfound := TrackReader.sought_seekToTimestamp (hsorted _ (mem_singleton_self _))
    (TrackReader.conversion32 ⟨90000, [⟨0, 0, 10⟩, ⟨4500000, 10, 10⟩], 0⟩ 50000)
  have hsame := (hfound.iff_sameRecords (hsorted _ (mem_singleton_self _))).mp h
  exact absurd hsame (by decide +kernel)

end Smff
