import LinphoneSdk.LpConfig.Lines
import LinphoneSdk.LpConfig.NextLine
import Mathlib.Data.List.Nodup

/-!
# The configurations that are reached

Whatever is set, cleaned and parsed, no section comes twice, and no key and no comment comes twice in a section.
-/

namespace ConfigFile

open CString FirstMatch List

/-- The configurations that are reached from an empty one. -/
inductive Reachable : LpConfig → Prop
  | new : Reachable ⟨[], false, false, false⟩
  | setString {c : LpConfig} (h : Reachable c) (section_ key value : Bytes) :
      Reachable (c.setString section_ key value)
  | cleanEntry {c : LpConfig} (h : Reachable c) (section_ key : Bytes) : Reachable (c.cleanEntry section_ key)
  | cleanSection {c : LpConfig} (h : Reachable c) (section_ : Bytes) : Reachable (c.cleanSection section_)
  | cleanSectionSuite {c : LpConfig} (h : Reachable c) (sectionName : Bytes) :
      Reachable (c.cleanSectionSuite sectionName)
  | addSectionParam {c : LpConfig} (h : Reachable c) (section_ : Bytes) (param : LpSectionParam) :
      Reachable (c.addSectionParam section_ param)
  | parse {c : LpConfig} (h : Reachable c) (content : Bytes) (residue : ℕ → Bytes) :
      Reachable { c with sections := parse c.sections content residue }

/-! ### The lines that are read -/

/-- A line as a C string. -/
def IsText (l : Bytes) : Prop := ∀ b ∈ l, b ≠ 0 ∧ b ≠ 10

section

variable {s : Bytes} {p : ℕ}

lemma take_of_strchr {c : UInt8} (h : strchr c s = some p) : ∀ b ∈ s.take p, b ∈ cString s := by
  obtain ⟨r, heq, -, hr⟩ := exists_of_strchr h
  intro b hb
  rw [heq, cString, takeWhile_append_of_pos fun x hx => by simpa using (hr x hx).2]
  exact mem_append_left _ hb

/-- What is not found is not in the string. -/
lemma ne_of_strchr_eq_none {c : UInt8} (h : strchr c s = none) : ∀ b ∈ cString s, b ≠ c := by
  induction s with
  | nil => intro b hb; cases hb
  | cons x s ih =>
    simp only [strchr] at h
    split_ifs at h with hx hzero
    · simp [cString, hzero]
    · intro b hb
      rw [cString, takeWhile_cons_of_pos (by simpa using hzero)] at hb
      rcases mem_cons.1 hb with rfl | hb
      · exact hx
      · exact ih (by simpa using h) b hb

lemma ne_zero_of_mem_cString : ∀ b ∈ cString s, b ≠ 0 := by
  intro b hb
  simpa using mem_takeWhile_imp hb

lemma mem_cString_append {t : Bytes} : ∀ b ∈ cString s, b ∈ cString (s ++ t) := by
  intro b hb
  rw [cString, takeWhile_append]
  split_ifs with hall
  · exact mem_append_left _ (takeWhile_subset _ hb)
  · exact hb

lemma isText_take_of_findNextLine (h : findNextLine s = some p) : IsText (s.take p) := by
  simp only [findNextLine] at h
  intro b hb
  rcases hr : strchr 13 s with _ | r <;> rcases hn : strchr 10 s with _ | n <;> rw [hr, hn] at h
  · cases h
  · cases h
    have hmem := take_of_strchr hn b hb
    obtain ⟨t, -, -, ht⟩ := exists_of_strchr hn
    exact ⟨ne_zero_of_mem_cString b hmem, (ht b hb).1⟩
  · cases h
    have hmem := take_of_strchr hr b hb
    exact ⟨ne_zero_of_mem_cString b hmem, ne_of_strchr_eq_none hn b hmem⟩
  · cases h
    have hb' : b ∈ s.take n := (take_subset_take_left s (Nat.min_le_right r n)) hb
    obtain ⟨t, -, -, ht⟩ := exists_of_strchr hn
    exact ⟨(ht b hb').2, (ht b hb').1⟩

lemma isText_cString_of_findNextLine {t : Bytes} (h : findNextLine (s ++ t) = none) : IsText (cString s) := by
  intro b hb
  refine ⟨ne_zero_of_mem_cString b hb, ?_⟩
  have hn : strchr 10 (s ++ t) = none := by
    rcases hn : strchr 10 (s ++ t) with _ | n
    · rfl
    · rcases hr : strchr 13 (s ++ t) with _ | r <;> simp [findNextLine, hr, hn] at h
  exact ne_of_strchr_eq_none hn b (mem_cString_append b hb)

end

section

variable (maxLen : ℕ) (file : BctbxVfsFile) (residue : Bytes)

lemma isText_readLine : IsText (readLine maxLen file residue).2.1.text := by
  simp only [readLine]
  split_ifs with hdata hcache
  · intro b hb; cases hb
  all_goals
    split
    · next p hp => exact isText_take_of_findNextLine hp
    · next hnone =>
      have hle : (ByteFile.read file.content file.offset (maxLen - 1)).length ≤ maxLen - 1 := by
        rw [ByteFile.length_read]
        exact Nat.min_le_left _ _
      rw [take_append, take_of_length_le hle] at hnone
      exact isText_cString_of_findNextLine hnone

lemma isText_getNxtline : IsText (getNxtline maxLen file residue).2.1.text := by
  simp only [getNxtline]
  split
  · split
    · next p hp => exact isText_take_of_findNextLine hp
    · next hnone =>
      split
      · rw [← take_append_drop (file.gPage.length - (file.offset - file.gPageOffset) - 1)
          (file.gPage.drop (file.offset - file.gPageOffset))] at hnone
        exact isText_cString_of_findNextLine hnone
      · exact isText_readLine maxLen file residue
  · exact isText_readLine maxLen file residue

lemma isText_fileLines (residue : ℕ → Bytes) (fuel n : ℕ) :
    ∀ line ∈ fileLines maxLen residue fuel n file, IsText line.text := by
  induction fuel generalizing n file with
  | zero => intro line hline; cases hline
  | succ fuel ih =>
    intro line hline
    have htext := isText_getNxtline maxLen file (residue n)
    rw [fileLines] at hline
    split at hline
    · cases hline
    · next size text file' heq =>
      rw [heq] at htext
      rcases mem_cons.1 hline with rfl | hline
      · exact htext
      · exact ih file' (n + 1) line hline

end

/-! ### The sections -/

/-- What makes an item another one in its section. -/
def LpItem.mark : LpItem → Bool × Bytes
  | item key _ => (false, key)
  | comment value => (true, value)

structure LpSection.WellFormed (sec : LpSection) : Prop where
  marks : (sec.items.map (·.mark)).Nodup
  comments : ∀ value, .comment value ∈ sec.items → IsComment value

structure WellFormed (sections : List LpSection) : Prop where
  names : (sections.map (·.name)).Nodup
  sections : ∀ sec ∈ sections, sec.WellFormed

lemma LpItem.hasKey_iff {i : LpItem} {key : Bytes} : i.hasKey key = true ↔ i.mark = (false, key) := by
  cases i <;> simp [LpItem.hasKey, LpItem.mark]

lemma LpItem.mark_setValue (i : LpItem) (value : Bytes) : (i.setValue value).mark = i.mark := by
  cases i <;> rfl

lemma LpItem.setValue_eq_comment {i : LpItem} {value v : Bytes} (h : i.setValue value = comment v) :
    i = comment v := by
  cases i with
  | item => cases h
  | comment => exact h

namespace LpSection

variable {sec : LpSection} {key value : Bytes}

lemma findItem_eq_none : sec.findItem key = none ↔ (false, key) ∉ sec.items.map (·.mark) := by
  simp only [findItem, find?_eq_none, LpItem.hasKey_iff, mem_map, not_exists, not_and]

namespace WellFormed

lemma new (name : Bytes) : (new name).WellFormed := ⟨nodup_nil, fun _ h => by cases h⟩

section

variable (h : sec.WellFormed)
include h

lemma addItem (hnew : sec.findItem key = none) (value : Bytes) : (sec.addItem (.item key value)).WellFormed where
  marks := by
    rw [LpSection.addItem, map_append, nodup_append]
    refine ⟨h.marks, nodup_singleton _, ?_⟩
    rintro m hm m' hm' rfl
    have heq : m = (false, key) := mem_singleton.1 hm'
    exact findItem_eq_none.1 hnew (heq ▸ hm)
  comments v hv := by
    rcases mem_append.1 hv with hv | hv
    · exact h.comments v hv
    · cases mem_singleton.1 hv

lemma removeItem (key : Bytes) : (sec.removeItem key).WellFormed where
  marks := h.marks.sublist (eraseP_sublist.map _)
  comments v hv := h.comments v (eraseP_sublist.subset hv)

lemma setItem (key value : Bytes) : (sec.setItem key value).WellFormed where
  marks := by
    rw [LpSection.setItem, map_updateFirst fun i => i.mark_setValue value]
    exact h.marks
  comments v hv := by
    rcases mem_updateFirst hv with hv | ⟨i, hi, -, heq⟩
    · exact h.comments v hv
    · rw [LpItem.setValue_eq_comment heq.symm] at hi
      exact h.comments v hi

lemma putItem (key value : Bytes) : (sec.putItem key value).WellFormed := by
  unfold LpSection.putItem
  split
  · next hnew => exact h.addItem hnew value
  · exact h.setItem key value

lemma putComment (hvalue : IsComment value) : (sec.putComment value).WellFormed where
  marks := by
    rw [LpSection.putComment, map_append, nodup_append]
    refine ⟨h.marks.sublist (erase_sublist.map _), nodup_singleton _, ?_⟩
    rintro m hm m' hm' rfl
    have heq : m = (true, value) := mem_singleton.1 hm'
    obtain ⟨i, hi, himark⟩ := mem_map.1 hm
    have hcomment : i = .comment value := by
      cases i with
      | item => rw [heq] at himark; cases himark
      | comment v =>
        rw [heq] at himark
        cases himark
        rfl
    have hnodup : sec.items.Nodup := h.marks.of_map
    exact hnodup.not_mem_erase (hcomment ▸ hi)
  comments v hv := by
    rcases mem_append.1 hv with hv | hv
    · exact h.comments v (erase_sublist.subset hv)
    · cases mem_singleton.1 hv
      exact hvalue

lemma addParams (params : List LpSectionParam) : (sec.addParams params).WellFormed :=
  ⟨h.marks, h.comments⟩

end

end WellFormed

end LpSection

lemma findSection_eq_none {sections : List LpSection} {name : Bytes} :
    findSection sections name = none ↔ name ∉ sections.map (·.name) := by
  simp only [findSection, find?_eq_none, decide_eq_true_eq, mem_map, not_exists, not_and]

lemma mem_of_findSection {sections : List LpSection} {name : Bytes} {sec : LpSection}
    (h : findSection sections name = some sec) : sec ∈ sections ∧ sec.name = name :=
  ⟨mem_of_find?_eq_some h, by simpa using find?_some h⟩

namespace WellFormed

variable {sections : List LpSection} {name : Bytes} {sec : LpSection}

lemma nil : WellFormed [] := ⟨nodup_nil, fun _ h => by cases h⟩

/-- What holds of the section with the name is used where it is changed. -/
lemma updateSection (h : WellFormed sections) {f : LpSection → LpSection} (hname : ∀ s, (f s).name = s.name)
    (hf : ∀ s, findSection sections name = some s → s.WellFormed → (f s).WellFormed) :
    WellFormed (updateSection name f sections) where
  names := by
    rw [ConfigFile.updateSection, map_updateFirst hname]
    exact h.names
  sections s hs := by
    rcases hfind : findSection sections name with _ | sec
    · have hnone : ∀ x ∈ sections, decide (x.name = name) = false := by
        intro x hx
        simpa using find?_eq_none.1 hfind x hx
      rw [ConfigFile.updateSection, updateFirst_of_forall_not hnone] at hs
      exact h.sections s hs
    · obtain ⟨hmem, hsecname⟩ := mem_of_findSection hfind
      obtain ⟨l, r, heq, hl, -⟩ := exists_split h.names hmem
      rw [ConfigFile.updateSection, heq, updateFirst_append_cons
        (fun x hx => by simpa [← hsecname] using hl x hx) (by simpa using hsecname)] at hs
      rcases mem_append.1 hs with hs | hs
      · exact h.sections s (by rw [heq]; exact mem_append_left _ hs)
      · rcases mem_cons.1 hs with rfl | hs
        · exact hf sec hfind (h.sections sec hmem)
        · exact h.sections s (by rw [heq]; exact mem_append_right _ (mem_cons_of_mem _ hs))

lemma append (h : WellFormed sections) (hnew : findSection sections sec.name = none) (hsec : sec.WellFormed) :
    WellFormed (sections ++ [sec]) where
  names := by
    rw [map_append, nodup_append]
    refine ⟨h.names, nodup_singleton _, ?_⟩
    rintro n hn n' hn' rfl
    have heq : n = sec.name := mem_singleton.1 hn'
    exact findSection_eq_none.1 hnew (heq ▸ hn)
  sections s hs := by
    rcases mem_append.1 hs with hs | hs
    · exact h.sections s hs
    · rw [mem_singleton.1 hs]
      exact hsec

lemma eraseSection (h : WellFormed sections) (name : Bytes) : WellFormed (sections.eraseP (·.name = name)) where
  names := h.names.sublist (eraseP_sublist.map _)
  sections s hs := h.sections s (eraseP_sublist.subset hs)

lemma withSection (h : WellFormed sections) (name : Bytes) : WellFormed (withSection name sections) := by
  unfold ConfigFile.withSection
  split
  · next hnew => exact h.append hnew (LpSection.WellFormed.new name)
  · exact h

/-- A comment that is parsed is one. -/
lemma isComment_cutLine {line : Bytes} (htext : IsText line) (hcomment : isAComment line = true) :
    IsComment (cutLine line) := by
  have hcString : cString line = line := by
    rw [cString, takeWhile_eq_self_iff]
    intro b hb
    simpa using (htext b hb).1
  rcases hr : strchr 13 line with _ | p
  · have hcut : cutLine line = line := by
      have hn : strchr 10 line = none := strchr_eq_none fun b hb => (htext b hb).2
      simp [cutLine, hr, hn]
    rw [hcut]
    refine ⟨fun b hb => ⟨(htext b hb).1, (htext b hb).2, ?_⟩, hcomment⟩
    exact ne_of_strchr_eq_none hr b (hcString.symm ▸ hb)
  · have hcut : cutLine line = line.take p := by simp [cutLine, hr]
    obtain ⟨r, heq, -, hbytes⟩ := exists_of_strchr hr
    rw [hcut]
    constructor
    · intro b hb
      exact ⟨(hbytes b hb).2, (htext b (mem_of_mem_take hb)).2, (hbytes b hb).1⟩
    · rw [isAComment, heq] at hcomment
      by_cases hall : ∀ b ∈ line.take p, decide (b = 32) = true
      · rw [dropWhile_append_of_pos hall] at hcomment
        simp at hcomment
      · have hne : (line.take p).dropWhile (fun b => decide (b = 32)) ≠ [] := by
          rw [Ne, dropWhile_eq_nil_iff]
          exact hall
        rw [dropWhile_append] at hcomment
        rw [isAComment]
        simpa [hne, head?_append_of_ne_nil _ hne] using hcomment

lemma parseLine (h : WellFormed sections) {line : Line} (htext : IsText line.text) (cur : Option Bytes) :
    WellFormed (parseLine sections line cur).1 := by
  have hother : WellFormed (parseLine.parseOther sections line cur).1 := by
    unfold parseLine.parseOther
    split_ifs with hcomment
    · split
      · exact h
      · exact h.updateSection (fun _ => rfl) fun s _ hs => hs.putComment (isComment_cutLine htext hcomment)
    · split
      · exact h
      · simp only [parseItem]
        split
        · exact h
        · split
          · exact h
          · split_ifs
            · refine h.updateSection (fun s => ?_) fun s _ hs => hs.putItem _ _
              unfold LpSection.putItem
              split <;> rfl
            · exact h
  unfold ConfigFile.parseLine
  split
  · split_ifs
    · simp only [parseSection]
      split
      · exact h
      · split
        · exact h
        · next secname _ _ =>
          exact (h.withSection secname).updateSection (fun _ => rfl) fun s _ hs => hs.addParams _
    · exact hother
  · exact hother

lemma parseLines {lines : List Line} (h : WellFormed sections) (htext : ∀ line ∈ lines, IsText line.text)
    (cur : Option Bytes) : WellFormed (parseLines sections cur lines).1 := by
  induction lines generalizing sections cur with
  | nil => exact h
  | cons line lines ih =>
    exact ih (h.parseLine (htext line (by simp)) cur) (fun l hl => htext l (mem_cons_of_mem line hl)) _

lemma setString {c : LpConfig} (h : WellFormed c.sections) (section_ key value : Bytes) :
    WellFormed (c.setString section_ key value).sections := by
  unfold LpConfig.setString
  split
  · next sec hsec =>
    split
    · split_ifs
      · exact h
      · exact h.updateSection (fun _ => rfl) fun s _ hs => hs.setItem key value
      · exact h.updateSection (fun _ => rfl) fun s _ hs => hs.removeItem key
    · next hnew =>
      split_ifs
      · refine h.updateSection (fun _ => rfl) fun s hs hwf => hwf.addItem ?_ value
        rw [hsec] at hs
        cases hs
        exact hnew
      · exact h
  · next hnew =>
    split_ifs
    · exact h.append hnew ((LpSection.WellFormed.new section_).addItem rfl value)
    · exact h

lemma foldl_cleanSection {c : LpConfig} (h : WellFormed c.sections) (names : List Bytes) :
    WellFormed (names.foldl LpConfig.cleanSection c).sections := by
  induction names generalizing c with
  | nil => exact h
  | cons name names ih => exact ih (h.eraseSection name)

end WellFormed

/-- No section comes twice in a configuration that is reached, and no key and no comment in a section. -/
lemma Reachable.wellFormed {c : LpConfig} (h : Reachable c) : WellFormed c.sections := by
  induction h with
  | new => exact WellFormed.nil
  | setString _ section_ key value ih => exact ih.setString section_ key value
  | @cleanEntry c _ section_ key ih =>
    rw [c.sections_cleanEntry]
    exact ih.setString section_ key []
  | cleanSection _ section_ ih => exact ih.eraseSection section_
  | cleanSectionSuite _ sectionName ih => exact ih.foldl_cleanSection _
  | addSectionParam _ section_ param ih => exact ih.updateSection (fun _ => rfl) fun s _ hs => hs.addParams _
  | parse _ content residue ih => exact ih.parseLines (isText_fileLines MAX_LEN _ residue _ _) none

end ConfigFile
