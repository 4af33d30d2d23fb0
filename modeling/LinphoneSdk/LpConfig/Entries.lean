import LinphoneSdk.LpConfig.RoundTrip

/-!
# The entries of a configuration

What is read of a configuration is a value for each section and key. The changes act on these values alone: whatever a
configuration holds and however it is changed, each entry has the last value that it was given.
-/

namespace ConfigFile

open FirstMatch List Option LpSection LpConfig

namespace LpConfig

variable (lpconfig : LpConfig) (section_ key : Bytes)

def getString (default_string : Bytes) : Bytes :=
  match findSection lpconfig.sections section_ with
  | some sec =>
    match sec.findItem key with
    | some item => item.value
    | none => default_string
  | none => default_string

/-- The value is cut at its commas. -/
def getStringList (default_list : List Bytes) : List Bytes :=
  match findSection lpconfig.sections section_ with
  | some sec =>
    match sec.findItem key with
    | some item => item.value.splitOn 44
    | none => default_list
  | none => default_list

def setStringList (value : List Bytes) : LpConfig := lpconfig.setString section_ key ([44].intercalate value)

end LpConfig

/-! ### The values -/

/-- A value for each section and key. -/
abbrev Entries := Bytes → Bytes → Option Bytes

namespace Entries

variable (entries : Entries)

def set (section_ key : Bytes) (value : Option Bytes) : Entries := fun s k =>
  if s = section_ ∧ k = key then value else entries s k

def without (p : Bytes → Bool) : Entries := fun s k => if p s then none else entries s k

lemma set_self {section_ key : Bytes} {value : Option Bytes} (h : entries section_ key = value) :
    entries.set section_ key value = entries := by
  funext s k
  rw [set]
  split_ifs with hsk
  · rw [hsk.1, hsk.2, h]
  · rfl

end Entries

def entriesOf (sections : List LpSection) : Entries := fun section_ key =>
  (findSection sections section_).bind fun sec => (sec.findItem key).map (·.value)

namespace LpConfig

variable (lpconfig : LpConfig) (section_ key : Bytes)

def entries : Entries := entriesOf lpconfig.sections

lemma getString_eq (default_string : Bytes) :
    lpconfig.getString section_ key default_string = (lpconfig.entries section_ key).getD default_string := by
  rw [getString, entries, entriesOf]
  cases findSection lpconfig.sections section_ with
  | none => rfl
  | some sec => cases hitem : sec.findItem key <;> simp [hitem]

lemma getStringList_eq (default_list : List Bytes) : lpconfig.getStringList section_ key default_list =
      ((lpconfig.entries section_ key).map (·.splitOn 44)).getD default_list := by
  rw [getStringList, entries, entriesOf]
  cases findSection lpconfig.sections section_ with
  | none => rfl
  | some sec => cases hitem : sec.findItem key <;> simp [hitem]

lemma hasEntry_eq : lpconfig.hasEntry section_ key = (lpconfig.entries section_ key).isSome := by
  rw [hasEntry, entries, entriesOf]
  cases findSection lpconfig.sections section_ with
  | none => rfl
  | some sec => simp

end LpConfig

/-! ### One section -/

namespace LpSection

variable {sec : LpSection} {key k value : Bytes}

lemma value_setValue {i : LpItem} (h : i.hasKey key = true) : (i.setValue value).value = value := by
  cases i with
  | item => rfl
  | comment => cases h

lemma hasKey_setValue (i : LpItem) (value : Bytes) : (i.setValue value).hasKey k = i.hasKey k := by
  cases i <;> rfl

lemma findItem_setItem : (sec.setItem key value).findItem k =
      (sec.findItem k).map fun i => if k = key then i.setValue value else i := by
  rw [findItem, findItem, setItem]
  induction sec.items with
  | nil => rfl
  | cons i items ih =>
    rw [updateFirst]
    by_cases hi : i.hasKey key = true
    · by_cases hk : k = key
      · subst hk
        simp [hi, hasKey_setValue]
      · have hne : i.hasKey k = false := by
          rw [LpItem.hasKey_iff] at hi
          rw [← Bool.not_eq_true, LpItem.hasKey_iff, hi]
          exact fun h => hk (Prod.mk.inj h).2.symm
        simp [hi, hne, hk, hasKey_setValue]
    · rw [if_neg hi, find?_cons, find?_cons, ih]
      cases hk : i.hasKey k with
      | true =>
        have hne : k ≠ key := by
          rintro rfl
          exact hi hk
        simp [hne]
      | false => rfl

lemma findItem_addItem (hnew : sec.findItem key = none) :
    (sec.addItem (.item key value)).findItem k = if k = key then some (.item key value) else sec.findItem k := by
  rw [findItem, addItem, find?_append, ← findItem]
  split_ifs with hk
  · rw [hk, hnew]
    simp [LpItem.hasKey]
  · have hother : (LpItem.item key value).hasKey k = false := by simpa [LpItem.hasKey] using fun h => hk h.symm
    simp [hother]

lemma findItem_removeItem (h : sec.WellFormed) :
    (sec.removeItem key).findItem k = if k = key then none else sec.findItem k := by
  rw [findItem, findItem, removeItem]
  split_ifs with hk
  · rw [hk]
    exact find?_eraseP_self h.marks LpItem.hasKey_iff
  · refine find?_eraseP_of_ne fun i _ hi => ?_
    rw [LpItem.hasKey_iff] at hi
    rw [← Bool.not_eq_true, LpItem.hasKey_iff, hi]
    exact fun h => hk (Prod.mk.inj h).2.symm

end LpSection

/-! ### The changes -/

section

variable {sections : List LpSection} {section_ key : Bytes} {f : LpSection → LpSection} {sec : LpSection}

lemma entriesOf_updateSection (hname : ∀ sec, (f sec).name = sec.name) (hsec : findSection sections section_ = some sec)
    {value : Option Bytes}
    (hf : ∀ k, ((f sec).findItem k).map (·.value) = if k = key then value else (sec.findItem k).map (·.value)) :
    entriesOf (updateSection section_ f sections) = (entriesOf sections).set section_ key value := by
  funext s k
  rw [entriesOf, findSection_updateSection hname, Entries.set, entriesOf]
  by_cases hs : s = section_
  · subst hs
    simp [hsec, hf]
  · simp [hs]

lemma entriesOf_append (hnew : findSection sections section_ = none) (value : Bytes) :
    entriesOf (sections ++ [(new section_).addItem (.item key value)]) =
      (entriesOf sections).set section_ key (some value) := by
  funext s k
  rw [entriesOf, findSection, find?_append, ← findSection, Entries.set, entriesOf]
  by_cases hs : s = section_
  · subst hs
    rw [hnew]
    by_cases hk : k = key
    · simp [hk, new, addItem, findItem, LpItem.hasKey, LpItem.value]
    · have hk' : ¬ key = k := fun h => hk h.symm
      simp [hk, hk', new, addItem, findItem, LpItem.hasKey]
  · have hs' : ¬ section_ = s := fun h => hs h.symm
    simp [hs, hs', new, addItem]

lemma findSection_eraseP (h : WellFormed sections) (name s : Bytes) :
    findSection (sections.eraseP (·.name = name)) s = if s = name then none else findSection sections s := by
  rw [findSection, findSection]
  split_ifs with hs
  · rw [hs]
    exact find?_eraseP_self h.names decide_eq_true_iff
  · refine find?_eraseP_of_ne fun sec _ hsec => decide_eq_false fun heq => hs ?_
    exact heq.symm.trans (of_decide_eq_true hsec)

lemma entriesOf_eraseP (h : WellFormed sections) (name : Bytes) :
    entriesOf (sections.eraseP (·.name = name)) = (entriesOf sections).without (· = name) := by
  funext s k
  rw [Entries.without, entriesOf, findSection_eraseP h, entriesOf]
  by_cases hs : s = name
  · simp [hs]
  · simp [hs]

end

namespace LpConfig

variable {c : LpConfig}

lemma entries_setString (h : WellFormed c.sections) (section_ key value : Bytes) :
    (c.setString section_ key value).entries =
      c.entries.set section_ key (if value = [] then none else some value) := by
  rw [setString]
  rcases hsec : findSection c.sections section_ with _ | sec
  · by_cases hvalue : value = []
    · have hnone : c.entries section_ key = none := by rw [entries, entriesOf, hsec, bind_none]
      simp only [hvalue, ne_eq, not_true_eq_false, if_false, if_true]
      exact (c.entries.set_self hnone).symm
    · simp only [hvalue, ne_eq, not_false_eq_true, if_true, if_false]
      exact entriesOf_append hsec value
  · have hentry : c.entries section_ key = (sec.findItem key).map (·.value) := by
      rw [entries, entriesOf, hsec, bind_some]
    rcases hitem : sec.findItem key with _ | item
    · rw [hitem] at hentry
      by_cases hvalue : value = []
      · simp only [hitem, hvalue, ne_eq, not_true_eq_false, if_false, if_true]
        exact (c.entries.set_self hentry).symm
      · simp only [hitem, hvalue, ne_eq, not_false_eq_true, if_true, if_false]
        refine entriesOf_updateSection (f := (·.addItem (.item key value))) (fun _ => rfl) hsec fun k => ?_
        rw [findItem_addItem hitem]
        split_ifs <;> rfl
    · rw [hitem] at hentry
      by_cases hvalue : value = []
      · simp only [hitem, hvalue, ne_eq, not_true_eq_false, if_false, if_true]
        refine entriesOf_updateSection (f := (·.removeItem key)) (fun _ => rfl) hsec fun k => ?_
        rw [findItem_removeItem (h.sections sec (mem_of_findSection hsec).1)]
        split_ifs <;> rfl
      · simp only [hitem, hvalue, ne_eq, not_false_eq_true, if_true, if_false]
        split_ifs with hsame
        · exact (c.entries.set_self (by rw [hentry, hsame, map_some])).symm
        · refine entriesOf_updateSection (f := (·.setItem key value)) (fun _ => rfl) hsec fun k => ?_
          rw [findItem_setItem]
          split_ifs with hk
          · rw [hk, hitem, map_some, map_some, value_setValue (find?_some hitem)]
          · simp

lemma entries_foldl_cleanSection (names : List Bytes) (h : WellFormed c.sections) :
    (names.foldl cleanSection c).entries = c.entries.without (· ∈ names) := by
  induction names generalizing c with
  | nil =>
    funext s k
    simp [Entries.without]
  | cons name names ih =>
    have hname : (c.cleanSection name).entries = c.entries.without (· = name) := entriesOf_eraseP h name
    rw [foldl_cons, ih (h.eraseSection name), hname]
    funext s k
    simp only [Entries.without, mem_cons]
    by_cases hs : s = name <;> simp [hs]

lemma entries_cleanSectionSuite (h : WellFormed c.sections) (sectionName : Bytes) :
    (c.cleanSectionSuite sectionName).entries = c.entries.without (inSuite sectionName) := by
  rw [cleanSectionSuite, entries_foldl_cleanSection _ h]
  funext s k
  by_cases hs : s ∈ c.sections.map (·.name)
  · simp [Entries.without, hs]
  · have hnone : c.entries s k = none := by
      rw [entries, entriesOf, findSection_eq_none.mpr hs, bind_none]
    rw [Entries.without, Entries.without, hnone, ite_self, ite_self]

end LpConfig

/-! ### Whole runs -/

inductive Change where
  | setString (section_ key value : Bytes)
  | cleanEntry (section_ key : Bytes)
  | cleanSection (section_ : Bytes)
  | cleanSectionSuite (sectionName : Bytes)
  | addSectionParam (section_ : Bytes) (param : LpSectionParam)

namespace Change

def apply (c : LpConfig) : Change → LpConfig
  | setString section_ key value => c.setString section_ key value
  | cleanEntry section_ key => c.cleanEntry section_ key
  | cleanSection section_ => c.cleanSection section_
  | cleanSectionSuite sectionName => c.cleanSectionSuite sectionName
  | addSectionParam section_ param => c.addSectionParam section_ param

/-- What a change does to the values. -/
def effect (entries : Entries) : Change → Entries
  | setString section_ key value => entries.set section_ key (if value = [] then none else some value)
  | cleanEntry section_ key => entries.set section_ key none
  | cleanSection section_ => entries.without (· = section_)
  | cleanSectionSuite sectionName => entries.without (inSuite sectionName)
  | addSectionParam _ _ => entries

variable {c : LpConfig}

lemma wellFormed_apply (h : WellFormed c.sections) (change : Change) : WellFormed (change.apply c).sections := by
  cases change with
  | setString section_ key value => exact h.setString section_ key value
  | cleanEntry section_ key =>
    rw [apply, sections_cleanEntry]
    exact h.setString section_ key []
  | cleanSection section_ => exact h.eraseSection section_
  | cleanSectionSuite sectionName => exact h.foldl_cleanSection _
  | addSectionParam section_ param => exact h.updateSection (fun _ => rfl) fun _ _ hs => hs.addParams _

lemma entries_apply (h : WellFormed c.sections) (change : Change) :
    (change.apply c).entries = change.effect c.entries := by
  cases change with
  | setString section_ key value => exact LpConfig.entries_setString h section_ key value
  | cleanEntry section_ key =>
    rw [apply, LpConfig.entries, LpConfig.sections_cleanEntry]
    exact LpConfig.entries_setString h section_ key []
  | cleanSection section_ => exact entriesOf_eraseP h section_
  | cleanSectionSuite sectionName => exact LpConfig.entries_cleanSectionSuite h sectionName
  | addSectionParam section_ param =>
    funext s k
    have hsection := @findSection_updateSection c.sections section_ (·.addParams [param]) (fun _ => rfl) s
    rw [apply, LpConfig.entries, entriesOf, LpConfig.addSectionParam, hsection]
    rcases hs : findSection c.sections s with _ | sec
    · simp [effect, LpConfig.entries, entriesOf, hs]
    · have hitems : ((if s = section_ then sec.addParams [param] else sec).findItem k) = sec.findItem k := by
        split_ifs <;> rfl
      rw [map_some, bind_some, hitems, effect, LpConfig.entries, entriesOf, hs, bind_some]

lemma entries_foldl_apply (h : WellFormed c.sections) (changes : List Change) :
    (changes.foldl apply c).entries = changes.foldl effect c.entries := by
  induction changes generalizing c with
  | nil => rfl
  | cons change changes ih =>
    rw [foldl_cons, foldl_cons, ih (wellFormed_apply h change), entries_apply h change]

end Change

/-- After any changes to a configuration, what is read of an entry is the value that the changes give it. -/
theorem reads_foldl_apply {c : LpConfig} (h : Reachable c) (changes : List Change) (section_ key : Bytes) :
    let changed := changes.foldl Change.apply c
    let value := changes.foldl Change.effect c.entries section_ key
    (∀ default_string, changed.getString section_ key default_string = value.getD default_string) ∧
      (∀ default_list, changed.getStringList section_ key default_list = (value.map (·.splitOn 44)).getD default_list) ∧
      changed.hasEntry section_ key = value.isSome := by
  intro changed value
  have hvalue : changed.entries section_ key = value := by rw [Change.entries_foldl_apply h.wellFormed changes]
  refine ⟨fun default_string => ?_, fun default_list => ?_, ?_⟩
  · rw [changed.getString_eq, hvalue]
  · rw [changed.getStringList_eq, hvalue]
  · rw [changed.hasEntry_eq, hvalue]

theorem reads_foldl_apply_new :
    (([.setString [97] [120] [49], .setString [97] [121] [50], .cleanEntry [97] [120]] : List Change).foldl
      Change.apply ⟨[], false, false, false⟩).getString [97] [121] [] = [50] :=
  (reads_foldl_apply .new [.setString [97] [120] [49], .setString [97] [121] [50], .cleanEntry [97] [120]] [97]
    [121]).1 []

lemma notMem_of_mem_splitOn {a : UInt8} {xs l : Bytes} (h : l ∈ xs.splitOn a) : a ∉ l := by
  by_cases ha : a ∈ xs
  · obtain ⟨first, rest, hxs, hfirst⟩ := eq_append_cons_of_mem ha
    rw [hxs, splitOn_append_cons_self_of_not_mem hfirst] at h
    rcases mem_cons.mp h with rfl | h
    · exact hfirst
    · exact notMem_of_mem_splitOn h
  · rw [splitOn_eq_singleton ha, mem_singleton] at h
    exact h ▸ ha
termination_by xs.length
decreasing_by
  rw [hxs, length_append, length_cons]
  omega

/-- A list is read as it was set when no element has a comma, the empty value apart. -/
theorem getStringList_setStringList_iff {c : LpConfig} (h : Reachable c) (section_ key : Bytes)
    (value default_list : List Bytes) :
    (c.setStringList section_ key value).getStringList section_ key default_list = value ↔
      if [44].intercalate value = [] then default_list = value else ∀ l ∈ value, 44 ∉ l := by
  rw [getStringList_eq, setStringList, entries_setString h.wellFormed, Entries.set, if_pos ⟨rfl, rfl⟩]
  split_ifs with hempty
  · rfl
  · have hne : value ≠ [] := by
      rintro rfl
      exact hempty rfl
    rw [map_some, getD_some]
    constructor
    · intro heq l hl
      rw [← heq] at hl
      exact notMem_of_mem_splitOn hl
    · exact fun hcommas => splitOn_intercalate 44 hcommas hne

theorem getStringList_setStringList_new :
    ((⟨[], false, false, false⟩ : LpConfig).setStringList [97] [120] [[49], [], [50]]).getStringList [97] [120] [] =
      [[49], [], [50]] :=
  (getStringList_setStringList_iff .new [97] [120] [[49], [], [50]] []).mpr (by decide)

end ConfigFile
