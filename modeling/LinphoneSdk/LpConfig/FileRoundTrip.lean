import LinphoneSdk.LpConfig.RoundTrip
import Mathlib.Data.List.Flatten

/-!
# The round trip through a file

The lines of the file are found unless a page ends with a byte 4 inside a line. Then the bytes 4 of the configuration
that is parsed are fewer than those of the one that was written.
-/

namespace ConfigFile

open CString FirstMatch List

section

variable {maxLen : ℕ}

/-- All lines are found when no page ends with a byte 4 inside a line. -/
lemma filter_linesRead {ls : List Bytes} {room : ℕ} (h : Clear maxLen room ls) :
    (linesRead maxLen room ls).filter (· ≠ []) = ls.filter (· ≠ []) := by
  induction ls generalizing room with
  | nil => rfl
  | cons l ls ih =>
    have hnext {room' : ℕ} (hrest : Clear maxLen room' ls) (extra : List Bytes)
        (hextra : extra.filter (· ≠ []) = []) :
        (l :: (extra ++ linesRead maxLen room' ls)).filter (· ≠ []) = (l :: ls).filter (· ≠ []) := by
      rw [filter_cons, filter_append, hextra, nil_append, ih hrest, filter_cons]
    simp only [Clear, linesRead] at h ⊢
    by_cases hroom : l.length < room
    · rw [if_pos hroom] at h ⊢
      exact hnext h [] rfl
    · rw [if_neg hroom] at h ⊢
      obtain ⟨hclear, hrest⟩ := h
      rw [if_neg fun hcut => hclear hcut.1 hcut.2]
      split_ifs at hrest ⊢ with hshort
      · exact hnext hrest [] rfl
      · exact hnext hrest [[]] rfl

/-- Else the lines end before a byte 4. -/
lemma exists_cut_of_not_clear {ls : List Bytes} {room : ℕ} (h : ¬ Clear maxLen room ls) :
    ∃ before l after m, ls = before ++ l :: after ∧ l[m]? = some 4 ∧
      (linesRead maxLen room ls).filter (· ≠ []) = (before ++ [l.take m]).filter (· ≠ []) := by
  induction ls generalizing room with
  | nil => exact absurd trivial h
  | cons l ls ih =>
    have hnext {room' : ℕ} (hrest : ¬ Clear maxLen room' ls) (extra : List Bytes)
        (hextra : extra.filter (· ≠ []) = []) :
        ∃ before l' after m, l :: ls = before ++ l' :: after ∧ l'[m]? = some 4 ∧
          (l :: (extra ++ linesRead maxLen room' ls)).filter (· ≠ []) = (before ++ [l'.take m]).filter (· ≠ []) := by
      obtain ⟨before, l', after, m, rfl, hmark, hfilter⟩ := ih hrest
      refine ⟨l :: before, l', after, m, rfl, hmark, ?_⟩
      rw [filter_cons, filter_append, hextra, nil_append, hfilter, cons_append, filter_cons]
    simp only [Clear, linesRead] at h ⊢
    by_cases hroom : l.length < room
    · rw [if_pos hroom] at h ⊢
      exact hnext h [] rfl
    · rw [if_neg hroom] at h ⊢
      by_cases hcut : 0 < room ∧ l[room - 1]? = some 4
      · refine ⟨[], l, ls, room - 1, rfl, hcut.2, ?_⟩
        rw [if_pos hcut]
        split_ifs with hone
        · simp [hone]
        · rfl
      · rw [if_neg hcut]
        have hclear : 0 < room → l[room - 1]? ≠ some 4 := fun hpos hmark => hcut ⟨hpos, hmark⟩
        have hrest := fun hclear' => h ⟨hclear, hclear'⟩
        split_ifs at hrest ⊢ with hshort
        · exact hnext hrest [] rfl
        · exact hnext hrest [[]] rfl

end

/-! ### The bytes 4 -/

def lineBytes (sections : List LpSection) : Bytes := (sections.flatMap (·.lines)).flatten

/-- How many of them are 4. -/
def marks (sections : List LpSection) : ℕ := (lineBytes sections).count 4

def LpSection.marks (sec : LpSection) : ℕ := sec.lines.flatten.count 4

section

variable {sections : List LpSection} {sec : LpSection} {name key value : Bytes}

lemma marks_cons (sec : LpSection) (sections : List LpSection) : marks (sec :: sections) = sec.marks + marks sections := by
  simp [marks, lineBytes, LpSection.marks]

lemma marks_append (s t : List LpSection) : marks (s ++ t) = marks s + marks t := by
  simp [marks, lineBytes]

lemma LpSection.marks_eq (sec : LpSection) : sec.marks =
    sec.name.count 4 + (paramsText sec.params).count 4 + (sec.items.map (·.line)).flatten.count 4 := by
  simp [LpSection.marks, LpSection.lines, LpSection.header, Nat.add_assoc]

/-- A change of a section that adds `n` bytes 4 at most. -/
lemma marks_updateSection_le (sections : List LpSection) (name : Bytes) {f : LpSection → LpSection} {n : ℕ}
    (hf : ∀ s, (f s).marks ≤ s.marks + n) : marks (updateSection name f sections) ≤ marks sections + n := by
  induction sections with
  | nil => exact Nat.zero_le _
  | cons s sections ih =>
    simp only [updateSection, updateFirst] at ih ⊢
    split_ifs
    · rw [marks_cons, marks_cons]
      have := hf s
      omega
    · rw [marks_cons, marks_cons]
      omega

lemma LpSection.marks_addParams (sec : LpSection) (params : List LpSectionParam) :
    (sec.addParams params).marks = sec.marks + (paramsText params).count 4 := by
  simp only [LpSection.marks_eq, LpSection.addParams, paramsText, flatMap_append, count_append]
  omega

lemma LpSection.marks_putItem_le (sec : LpSection) (key value : Bytes) :
    (sec.putItem key value).marks ≤ sec.marks + (key.count 4 + value.count 4) := by
  have hset (items : List LpItem) :
      ((updateFirst (·.hasKey key) (·.setValue value) items).map (·.line)).flatten.count 4 ≤
        (items.map (·.line)).flatten.count 4 + value.count 4 := by
    induction items with
    | nil => simp [updateFirst]
    | cons i items ih =>
      simp only [updateFirst]
      split_ifs
      · cases i with
        | item k v =>
          simp [LpItem.setValue, LpItem.line]
          omega
        | comment v => simp [LpItem.setValue, LpItem.line]
      · simp only [map_cons, flatten_cons, count_append] at ih ⊢
        omega
  unfold LpSection.putItem
  split
  · have hline : (LpItem.item key value).line = key ++ 61 :: value := rfl
    simp only [LpSection.marks_eq, LpSection.addItem, map_append, flatten_append, count_append,
      map_singleton, flatten_singleton, hline]
    simp
    omega
  · have := hset sec.items
    simp only [LpSection.marks_eq, LpSection.setItem]
    omega

lemma LpSection.marks_putComment_le (sec : LpSection) (value : Bytes) :
    (sec.putComment value).marks ≤ sec.marks + value.count 4 := by
  have hsub : ((sec.items.erase (.comment value)).map (·.line)).flatten.Sublist (sec.items.map (·.line)).flatten :=
    (erase_sublist.map _).flatten
  have hle := hsub.count_le 4
  have hline : (LpItem.comment value).line = value := rfl
  simp only [LpSection.marks_eq, LpSection.putComment, map_append, flatten_append, count_append,
    map_singleton, flatten_singleton, hline]
  omega

end

section

variable (sections : List LpSection) (cur : Option Bytes) (behind : Bytes)

lemma prefix_cutLine (l : Bytes) : cutLine l <+: l := by
  unfold cutLine
  split
  · exact take_prefix _ _
  · split
    · exact take_prefix _ _
    · exact prefix_rfl

/-- A comment or an item brings the bytes of its line at most. -/
lemma marks_parseOther_le (line : Line) :
    marks (parseLine.parseOther sections line cur).1 ≤ marks sections + line.text.count 4 := by
  unfold parseLine.parseOther
  split_ifs with hcomment
  · split
    · exact Nat.le_add_right _ _
    · next name =>
      have hcut := (prefix_cutLine line.text).sublist.count_le 4
      have := marks_updateSection_le sections name fun s => s.marks_putComment_le (cutLine line.text)
      simp only
      omega
  · split
    · exact Nat.le_add_right _ _
    · next pos1 hpos =>
      simp only [parseItem]
      split
      · exact Nat.le_add_right _ _
      · next key rest hscan =>
        split
        · exact Nat.le_add_right _ _
        · next name =>
          split_ifs
          · set value := (cutLine (line.text.drop (pos1 + 1))).rdropWhile (· = 32) with hvalue
            obtain ⟨blanks, hkey⟩ := exists_of_scanWord hscan
            have hkeyCount : key.count 4 ≤ (line.text.take pos1).count 4 := by
              rw [hkey, count_append, count_append]
              omega
            have hvalueCount : value.count 4 ≤ (line.text.drop (pos1 + 1)).count 4 :=
              ((List.rdropWhile_prefix _ _).trans (prefix_cutLine _)).sublist.count_le 4
            have hdropCount : (line.text.drop (pos1 + 1)).count 4 ≤ (line.text.drop pos1).count 4 := by
              rw [← drop_drop]
              exact (drop_sublist _ _).count_le 4
            have hsplit : line.text.count 4 = (line.text.take pos1).count 4 + (line.text.drop pos1).count 4 := by
              rw [← count_append, take_append_drop]
            have := marks_updateSection_le sections name fun s => s.marks_putItem_le key value
            omega
          · exact Nat.le_add_right _ _

variable {sec : LpSection}

lemma marks_header_le (hsec : sec.Writable) :
    marks (parseLine sections ⟨sec.header, behind⟩ cur).1 ≤ marks sections + sec.header.count 4 := by
  have hwith : marks (withSection sec.name sections) ≤ marks sections + sec.name.count 4 := by
    unfold withSection
    split
    · rw [marks_append, marks_cons]
      simp [LpSection.marks_eq, LpSection.new, paramsText, marks, lineBytes]
    · exact Nat.le_add_right _ _
  have hupdate := marks_updateSection_le (withSection sec.name sections) sec.name fun s =>
    Nat.le_of_eq (s.marks_addParams sec.params)
  have hheader : sec.header.count 4 = sec.name.count 4 + (paramsText sec.params).count 4 := by
    simp [LpSection.header]
  rw [parseLine_header _ _ _ hsec]
  simp only
  omega

/-- A header that is cut before a byte 4 has no end. -/
lemma parseLine_header_take (hsec : sec.Writable) {m : ℕ} (hmark : sec.header[m]? = some 4) :
    parseLine sections ⟨sec.header.take m, behind⟩ cur = (sections, cur) := by
  obtain ⟨n, rfl⟩ : ∃ n, m = n + 1 := by
    refine Nat.exists_eq_succ_of_ne_zero ?_
    rintro rfl
    simp [LpSection.header] at hmark
  have hlt : n < (sec.name ++ paramsText sec.params).length := by
    by_contra hge
    rw [LpSection.header, getElem?_cons_succ, getElem?_append_right (by omega)] at hmark
    have hmem := mem_of_getElem? hmark
    simp at hmem
  have htake : sec.header.take (n + 1) = 91 :: (sec.name ++ paramsText sec.params).take n := by
    rw [LpSection.header, take_succ_cons, take_append_of_le_length (by omega)]
  have hopen : strchr 91 (sec.header.take (n + 1)) = some 0 := by simp [htake, strchr]
  have hclose : strchr 93 ((sec.header.take (n + 1)).drop 0) = none := by
    rw [drop_zero, htake]
    refine strchr_eq_none fun b hb => ?_
    rcases mem_cons.1 hb with rfl | hb
    · decide
    · rcases mem_append.1 (mem_of_mem_take hb) with hb | hb
      · exact (hsec.name.bytes b hb).2.2.2.2
      · exact (paramsText_ne_zero hsec.params b hb).2.2
  have hfirst : isFirstChar (sec.header.take (n + 1)) 0 = true := rfl
  simp only [parseLine, hopen, hfirst, if_true, parseSection, hclose]

section

variable (hsec : sec.Writable) {l : Bytes} (hl : l ∈ sec.lines)
include hsec l hl

lemma LpSection.Writable.cases_line : l = sec.header ∨ NotSection l := by
  rcases mem_cons.1 hl with rfl | hl
  · exact .inl rfl
  · rcases mem_append.1 hl with hl | hl
    · obtain ⟨i, hi, rfl⟩ := mem_map.1 hl
      have hwritable := hsec.items i hi
      cases i with
      | item key value => exact .inr (notSection_item hwritable.1 value)
      | comment value => exact .inr (notSection_comment hwritable.hash)
    · rw [mem_singleton.1 hl]
      exact .inr fun pos hpos => by cases hpos

lemma marks_line_le : marks (parseLine sections ⟨l, behind⟩ cur).1 ≤ marks sections + l.count 4 := by
  rcases hsec.cases_line hl with rfl | hnot
  · exact marks_header_le sections cur behind hsec
  · rw [parseLine_of_notSection _ _ hnot]
    exact marks_parseOther_le sections cur ⟨l, behind⟩

lemma marks_take_le {m : ℕ} (hmark : l[m]? = some 4) :
    marks (parseLine sections ⟨l.take m, behind⟩ cur).1 ≤ marks sections + (l.take m).count 4 := by
  rcases hsec.cases_line hl with rfl | hnot
  · rw [parseLine_header_take _ _ _ hsec hmark]
    exact Nat.le_add_right _ _
  · rw [parseLine_of_notSection _ _ (hnot.take m)]
    exact marks_parseOther_le sections cur ⟨l.take m, behind⟩

end

end

/-- Lines that bring their own bytes at most. -/
lemma marks_parseLines_le {lines : List Line} (h : ∀ line ∈ lines, ∀ sections cur,
      marks (parseLine sections line cur).1 ≤ marks sections + line.text.count 4)
    (sections : List LpSection) (cur : Option Bytes) :
    marks (parseLines sections cur lines).1 ≤ marks sections + (lines.map (·.text)).flatten.count 4 := by
  induction lines generalizing sections cur with
  | nil => exact Nat.le_add_right _ _
  | cons line lines ih =>
    have hline := h line (by simp) sections cur
    have hrest := ih (fun l hl => h l (mem_cons_of_mem line hl)) (parseLine sections line cur).1
      (parseLine sections line cur).2
    have hfoldl : parseLines sections cur (line :: lines) =
        parseLines (parseLine sections line cur).1 (parseLine sections line cur).2 lines := rfl
    rw [hfoldl, map_cons, flatten_cons, count_append]
    omega

/-! ### Configurations that can be written -/

/-- Names, keys and parameters are tokens, and values can be written. -/
structure LpSection.Plain (sec : LpSection) : Prop where
  name : IsToken sec.name
  params : ∀ p ∈ sec.params, IsToken p.key ∧ IsToken p.value
  items : ∀ key value, .item key value ∈ sec.items → IsToken key ∧ IsValue value

lemma LpSection.Plain.writable {sec : LpSection} (h : sec.Plain) (hwell : sec.WellFormed) : sec.Writable where
  name := h.name
  params := h.params
  items i hi := by
    cases i with
    | item key value => exact h.items key value hi
    | comment value => exact hwell.comments value hi

lemma IsToken.isLine {t : Bytes} (h : IsToken t) : IsLine t := by
  intro b hb
  obtain ⟨hspace, hzero, -⟩ := h.bytes b hb
  refine ⟨hzero, ?_, ?_⟩
  · rintro rfl
    exact absurd hspace (by decide)
  · rintro rfl
    exact absurd hspace (by decide)

lemma IsLine.append {l l' : Bytes} (h : IsLine l) (h' : IsLine l') : IsLine (l ++ l') := by
  intro b hb
  rcases mem_append.1 hb with hb | hb
  · exact h b hb
  · exact h' b hb

lemma IsLine.cons {b : UInt8} {l : Bytes} (hb : b ≠ 0 ∧ b ≠ 10 ∧ b ≠ 13) (h : IsLine l) : IsLine (b :: l) := by
  intro x hx
  rcases mem_cons.1 hx with rfl | hx
  · exact hb
  · exact h x hx

lemma LpSection.Writable.isLine {sec : LpSection} (hsec : sec.Writable) {l : Bytes} (hl : l ∈ sec.lines) :
    IsLine l := by
  rcases mem_cons.1 hl with rfl | hl
  · have hparams : IsLine (paramsText sec.params) := by
      intro b hb
      obtain ⟨p, hp, hb⟩ := mem_flatMap.1 hb
      have hp' := hsec.params p hp
      exact ((hp'.1.isLine.append (hp'.2.isLine.cons (by decide))).cons (by decide)) b hb
    exact ((hsec.name.isLine.append hparams).append fun b hb => by
      rw [mem_singleton.1 hb]; decide).cons (by decide)
  · rcases mem_append.1 hl with hl | hl
    · obtain ⟨i, hi, rfl⟩ := mem_map.1 hl
      have hwritable := hsec.items i hi
      cases i with
      | item key value => exact hwritable.1.isLine.append ((show IsLine value from hwritable.2.bytes).cons (by decide))
      | comment value => exact hwritable.bytes
    · rw [mem_singleton.1 hl]
      exact fun b hb => by cases hb

lemma length_linesRead_le (maxLen : ℕ) (ls : List Bytes) (room : ℕ) :
    (linesRead maxLen room ls).length ≤ (text ls).length + if maxLen ≤ 1 then ls.length else 0 := by
  induction ls generalizing room with
  | nil => simp [linesRead]
  | cons l ls ih =>
    simp only [linesRead]
    have h₁ := ih (room - (l.length + 1))
    have h₂ := ih (maxLen - 1 - (l.length + 1))
    have h₃ := ih (maxLen - 2)
    split_ifs at h₁ h₂ h₃ ⊢ <;> simp only [length_cons, length_nil, text_cons, length_append] <;> omega

lemma map_text_fileLines_content {sections : List LpSection} (hsections : ∀ sec ∈ sections, sec.Writable)
    (hshort : ∀ sec ∈ sections, ∀ l ∈ sec.lines, l.length < MAX_LEN) (residue : ℕ → Bytes) :
    (fileLines MAX_LEN residue ((content sections).length + 1) 0 (.open (content sections))).map (·.text) =
      linesRead MAX_LEN 0 (sections.flatMap (·.lines)) := by
  have htext : content sections = text (sections.flatMap (·.lines)) := content_eq hsections
  have hlines : ∀ l ∈ sections.flatMap (·.lines), IsLine l ∧ l.length < MAX_LEN := by
    intro l hl
    obtain ⟨sec, hsec, hl⟩ := mem_flatMap.1 hl
    exact ⟨(hsections sec hsec).isLine hl, hshort sec hsec l hl⟩
  refine map_text_fileLines (by decide) (by decide) hlines ⟨?_, .inl ⟨rfl, Nat.le_refl _⟩⟩ ?_
  · exact htext
  · have hle := length_linesRead_le MAX_LEN (sections.flatMap (·.lines)) 0
    rw [if_neg (by decide), ← htext] at hle
    omega

/-! ### The round trip -/

section

variable {sections : List LpSection} {residue : ℕ → Bytes}

/-- When all lines are found, the sections are found. -/
lemma parse_content (hsections : ∀ sec ∈ sections, sec.Writable) (hwell : WellFormed sections)
    (hshort : ∀ sec ∈ sections, ∀ l ∈ sec.lines, l.length < MAX_LEN)
    (hclear : Clear MAX_LEN 0 (sections.flatMap (·.lines))) : parse [] (content sections) residue = sections := by
  obtain ⟨cur, hparse⟩ := parsesTo_sections [] hsections hwell none
  have hread : ParsesTo ([], none) (linesRead MAX_LEN 0 (sections.flatMap (·.lines))) (sections, cur) := by
    rw [← ParsesTo.filter_iff, filter_linesRead hclear, ParsesTo.filter_iff]
    exact hparse
  have hlines := map_text_fileLines_content hsections hshort residue
  rw [parse, hread _ hlines]

/-- Parsed once more, the parameters come again. -/
lemma again_parse_content (hsections : ∀ sec ∈ sections, sec.Writable) (hwell : WellFormed sections)
    (hshort : ∀ sec ∈ sections, ∀ l ∈ sec.lines, l.length < MAX_LEN)
    (hclear : Clear MAX_LEN 0 (sections.flatMap (·.lines))) :
    Again sections (parse sections (content sections) residue) (paramCount sections) := by
  obtain ⟨t, cur, hparse, hagain⟩ :=
    parsesTo_sections_again hsections (fun sec hsec => holds_self hwell hsec) none
  have hread : ParsesTo (sections, none) (linesRead MAX_LEN 0 (sections.flatMap (·.lines))) (t, cur) := by
    rw [← ParsesTo.filter_iff, filter_linesRead hclear, ParsesTo.filter_iff]
    exact hparse
  have hlines := map_text_fileLines_content hsections hshort residue
  rw [parse, hread _ hlines]
  exact hagain

/-- When the reader stops before a byte 4, that byte is missed. -/
lemma parse_content_ne (hsections : ∀ sec ∈ sections, sec.Writable)
    (hshort : ∀ sec ∈ sections, ∀ l ∈ sec.lines, l.length < MAX_LEN)
    (hclear : ¬ Clear MAX_LEN 0 (sections.flatMap (·.lines))) : parse [] (content sections) residue ≠ sections := by
  intro heq
  obtain ⟨before, l, after, m, hsplit, hmark, hfilter⟩ := exists_cut_of_not_clear hclear
  have hwritten : ∀ x ∈ before ++ l :: after, ∃ sec ∈ sections, x ∈ sec.lines := by
    rw [← hsplit]
    intro x hx
    exact mem_flatMap.1 hx
  have hlines := map_text_fileLines_content hsections hshort residue
  set lines := fileLines MAX_LEN residue ((content sections).length + 1) 0 (.open (content sections)) with hdef
  have hbound : ∀ line ∈ lines, ∀ s cur, marks (parseLine s line cur).1 ≤ marks s + line.text.count 4 := by
    rintro ⟨x, behind⟩ hline s cur
    by_cases hempty : x = []
    · rw [hempty, parseLine_nil]
      exact Nat.le_add_right _ _
    · have hx : x ∈ (linesRead MAX_LEN 0 (sections.flatMap (·.lines))).filter (· ≠ []) := by
        rw [← hlines]
        simpa [hempty] using ⟨_, hline, rfl⟩
      rw [hfilter] at hx
      rcases mem_append.1 (mem_of_mem_filter hx) with hx | hx
      · obtain ⟨sec, hsec, hx⟩ := hwritten x (mem_append_left _ hx)
        exact marks_line_le s cur behind (hsections sec hsec) hx
      · obtain ⟨sec, hsec, hl⟩ := hwritten l (by simp)
        rw [mem_singleton.1 hx]
        exact marks_take_le s cur behind (hsections sec hsec) hl hmark
  have hparse : marks sections ≤ (before ++ [l.take m]).flatten.count 4 := by
    have hle := marks_parseLines_le hbound [] none
    have hzero : marks [] = 0 := rfl
    rw [hlines, ← flatten_filter_ne_nil, hfilter, flatten_filter_ne_nil, hzero, Nat.zero_add] at hle
    rw [parse, ← hdef] at heq
    rwa [heq] at hle
  have hall : marks sections = (before ++ l :: after).flatten.count 4 := by rw [marks, lineBytes, hsplit]
  have hlt : m < l.length := (List.getElem?_eq_some_iff.1 hmark).1
  have hcut : l.count 4 = (l.take m).count 4 + (l.drop m).count 4 := by
    rw [← count_append, take_append_drop]
  have hone : 0 < (l.drop m).count 4 := by
    rw [count_pos_iff, drop_eq_getElem_cons hlt]
    obtain ⟨_, hget⟩ := List.getElem?_eq_some_iff.1 hmark
    exact hget ▸ mem_cons_self
  rw [hall] at hparse
  simp only [flatten_append, flatten_cons, flatten_nil, count_append, append_nil] at hparse
  omega

end

/-- No call to the system fails. -/
def Faults.none : Faults := ⟨true, fun _ => .complete, true⟩

lemma Reachable.flags {c : LpConfig} (h : Reachable c) : c.readonly = false ∧ c.abortSync = false := by
  induction h with
  | new => exact ⟨rfl, rfl⟩
  | @setString c _ section_ key value ih =>
    have hkeeps : (c.setString section_ key value).readonly = c.readonly ∧
        (c.setString section_ key value).abortSync = c.abortSync := by
      unfold LpConfig.setString
      split
      · split <;> split_ifs <;> exact ⟨rfl, rfl⟩
      · split_ifs <;> exact ⟨rfl, rfl⟩
    rw [hkeeps.1, hkeeps.2]
    exact ih
  | @cleanEntry c _ section_ key ih =>
    unfold LpConfig.cleanEntry
    split
    · split <;> exact ih
    · exact ih
  | cleanSection _ _ ih => exact ih
  | @cleanSectionSuite c _ sectionName ih =>
    have hfoldl (names : List Bytes) (c : LpConfig) :
        (names.foldl LpConfig.cleanSection c).readonly = c.readonly ∧
          (names.foldl LpConfig.cleanSection c).abortSync = c.abortSync := by
      induction names generalizing c with
      | nil => exact ⟨rfl, rfl⟩
      | cons name names ih => exact ih (c.cleanSection name)
    obtain ⟨hreadonly, habort⟩ := hfoldl ((c.sections.map (·.name)).filter (LpConfig.inSuite sectionName)) c
    exact ⟨hreadonly.trans ih.1, habort.trans ih.2⟩
  | addSectionParam _ _ _ ih => exact ih
  | parse _ _ _ ih => exact ih

/-- A configuration that is written and parsed again is the same, and parsed once more keeps its parameters and values,
if and only if it has no section parameter and no page of the file ends with a byte 4 inside a line. -/
theorem config_round_trip {c : LpConfig} (hreachable : Reachable c) (hplain : ∀ sec ∈ c.sections, sec.Plain)
    (hshort : ∀ sec ∈ c.sections, ∀ l ∈ sec.lines, l.length < MAX_LEN) (disk : Disk) (residue residue' : ℕ → Bytes) :
    ∃ file, (c.sync disk Faults.none).2.2.file = some file ∧ (parse [] file residue = c.sections ∧
          values (parse (parse [] file residue) file residue') = values (parse [] file residue) ↔
        (∀ sec ∈ c.sections, sec.params = []) ∧ Clear MAX_LEN 0 (c.sections.flatMap (·.lines))) := by
  have hwell := hreachable.wellFormed
  have hsections : ∀ sec ∈ c.sections, sec.Writable :=
    fun sec hsec => (hplain sec hsec).writable (hwell.sections sec hsec)
  refine ⟨content c.sections, ?_, ?_⟩
  · rw [LpConfig.sync_of_writes hreachable.flags.1 hreachable.flags.2 rfl (fun _ => rfl) rfl]
  have hcount : paramCount c.sections = 0 ↔ ∀ sec ∈ c.sections, sec.params = [] := by
    simp [paramCount, List.sum_eq_zero_iff_forall_eq_nat]
  by_cases hclear : Clear MAX_LEN 0 (c.sections.flatMap (·.lines))
  · have hfirst : parse [] (content c.sections) residue = c.sections := parse_content hsections hwell hshort hclear
    have hagain : Again c.sections (parse c.sections (content c.sections) residue') (paramCount c.sections) :=
      again_parse_content hsections hwell hshort hclear
    rw [hfirst, hagain.values_iff, hcount]
    simp [hclear]
  · constructor
    · exact fun h => absurd h.1 (parse_content_ne hsections hshort hclear)
    · exact fun h => absurd h.2 hclear

def oneItem : LpConfig := (⟨[], false, false, false⟩ : LpConfig).setString (bytes ['a']) (bytes ['x']) (bytes ['1'])

def oneParam : LpConfig := oneItem.addSectionParam (bytes ['a']) ⟨bytes ['k'], bytes ['v']⟩

lemma oneItem_reachable : Reachable oneItem := Reachable.new.setString _ _ _

/-- A file with a comment and an item, and the sections that come after it. -/
def commented : LpConfig :=
  LpConfig.setString ⟨parse [] (bytes ['[', 'b', ']', '\n', '#', 'c', '\n', 'y', '=', '2', '\n', '\n']) (fun _ => []),
    false, false, false⟩ (bytes ['a']) (bytes ['x']) (bytes ['1'])

lemma commented_sections : commented.sections =
    [⟨bytes ['b'], [.comment (bytes ['#', 'c']), .item (bytes ['y']) (bytes ['2'])], []⟩,
      ⟨bytes ['a'], [.item (bytes ['x']) (bytes ['1'])], []⟩] := by decide +kernel

lemma commented_reachable : Reachable commented := (Reachable.new.parse _ _).setString _ _ _

lemma commented_plain : ∀ sec ∈ commented.sections, sec.Plain := by
  rw [commented_sections]
  intro sec hsec
  simp only [mem_cons, not_mem_nil, or_false] at hsec
  obtain rfl | rfl := hsec
  all_goals
    refine ⟨⟨by decide, by decide +kernel, by decide⟩, fun p hp => (not_mem_nil hp).elim, fun key value hitem => ?_⟩
    simp only [mem_cons, not_mem_nil, or_false, reduceCtorEq, false_or, LpItem.item.injEq] at hitem
    obtain ⟨rfl, rfl⟩ := hitem
    exact ⟨⟨by decide, by decide +kernel, by decide⟩, ⟨by decide, by decide +kernel, by decide⟩⟩

theorem config_round_trip_commented : ∃ file, (commented.sync ⟨none, none⟩ Faults.none).2.2.file = some file ∧
      parse [] file (fun _ => []) = commented.sections := by
  obtain ⟨file, hfile, hiff⟩ := config_round_trip commented_reachable commented_plain
    (by rw [commented_sections]; decide) ⟨none, none⟩ (fun _ => []) (fun _ => [])
  exact ⟨file, hfile, (hiff.2 (by rw [commented_sections]; exact ⟨by decide, by decide +kernel⟩)).1⟩

/-- The parameter of the section comes twice when its file is parsed a second time. -/
theorem config_params_twice :
    Reachable oneParam ∧ ∃ file, (oneParam.sync ⟨none, none⟩ Faults.none).2.2.file = some file ∧
      parse [] file (fun _ => []) = oneParam.sections ∧
      (oneParam.sections.map (·.params)) = [[⟨bytes ['k'], bytes ['v']⟩]] ∧
      (parse (parse [] file (fun _ => [])) file (fun _ => [])).map (·.params) =
        [[⟨bytes ['k'], bytes ['v']⟩, ⟨bytes ['k'], bytes ['v']⟩]] :=
  ⟨oneItem_reachable.addSectionParam _ _, content oneParam.sections, by decide, by decide, by decide, by decide⟩

end ConfigFile
