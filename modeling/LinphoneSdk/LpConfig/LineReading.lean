import LinphoneSdk.LpConfig.NextLine

/-!
# Runs of line reading

Calls of `bctbx_generic_get_nxtline` with buffers of any sizes. The page in the cache is what the file holds at its
offset, so that the pieces and the ends of line are the content of the file as long as each call finds its line within
its buffer and does not take a byte of the file for the mark of the end.
-/

namespace ConfigFile

open CString List Option Nat

variable (maxLen : ℕ) (file : BctbxVfsFile) (residue : Bytes)

def InPage : Prop :=
  0 < file.gPage.length ∧ file.gPageOffset ≤ file.offset ∧ file.offset < file.gPageOffset + file.gPage.length

def pageRest : Bytes := file.gPage.drop (file.offset - file.gPageOffset)

instance inPage_decidable : Decidable (InPage file) := inferInstanceAs (Decidable (_ ∧ _ ∧ _))

/-- What a line is looked for in, once `max_len - 1` bytes were read. -/
def searched : Bytes := (ByteFile.read file.content file.offset (maxLen - 1) ++ residue).take (maxLen - 1)

/-- How many bytes of the caller's buffer a call writes. -/
def extent : ℕ :=
  if InPage file then
    match findNextLine (pageRest file) with
    | some p => p + 1
    | none => if file.gPage.getLast? = some 4 then (pageRest file).length else maxLen
  else maxLen

def lineEndings : List Bytes := [[], [13], [10], [13, 10]]

/-- What is claimed of a call: it stays within the buffer, takes a piece and an end of line from the file, and returns 0
at the end of the file only. -/
structure ReadsRight : Prop where
  bounded : extent maxLen file ≤ maxLen
  taken : ∃ ending ∈ lineEndings, file.content.drop file.offset = (getNxtline maxLen file residue).2.1.text ++ ending ++
      (getNxtline maxLen file residue).2.2.content.drop (getNxtline maxLen file residue).2.2.offset
  ended : (getNxtline maxLen file residue).1 = 0 → file.content.drop file.offset = []

/-- Something can be read, and an end of line that was in the buffer before is not found behind what was read, unless it
is next to it. -/
def ReadsFresh : Prop :=
  (maxLen = 1 → file.content.drop file.offset = []) ∧
    ∀ p ∈ findNextLine (searched maxLen file residue), p ≤ (file.content.drop file.offset).length

/-- A line of the page fits in the buffer, and a page that ends with a byte 4 does not leave this byte alone before the
end of the file. -/
def FindsRight : Prop :=
  if InPage file then
    match findNextLine (pageRest file) with
    | some p => p + 1 ≤ maxLen
    | none =>
      if file.gPage.getLast? = some 4 then
        (pageRest file).length ≤ maxLen ∧ (pageRest file = [4] → file.content.drop file.offset = [])
      else ReadsFresh maxLen file residue
  else ReadsFresh maxLen file residue

/-! ### One call -/

section calls

variable {maxLen file residue}

lemma getNxtline_of_not_inPage (h : ¬ InPage file) : getNxtline maxLen file residue = readLine maxLen file residue := by
  rw [getNxtline]
  exact if_neg h

lemma getNxtline_of_line {p : ℕ} (h : InPage file) (hp : findNextLine (pageRest file) = some p) :
    getNxtline maxLen file residue = (p + 1, ⟨(pageRest file).take p, residue⟩,
      { file with offset := file.offset + lineSize (pageRest file) p }) := by
  rw [pageRest] at hp ⊢
  rw [getNxtline]
  refine (if_pos h).trans ?_
  simp only [hp]

lemma getNxtline_of_mark (h : InPage file) (hp : findNextLine (pageRest file) = none)
    (hmark : file.gPage.getLast? = some 4) :
    getNxtline maxLen file residue = ((pageRest file).length - 1,
      ⟨cString ((pageRest file).take ((pageRest file).length - 1)), residue⟩,
      { file with offset := file.offset + ((pageRest file).length - 1) }) := by
  rw [pageRest] at hp ⊢
  rw [getNxtline]
  refine (if_pos h).trans ?_
  simp only [hp, hmark, if_true, length_drop]

lemma getNxtline_of_page (h : InPage file) (hp : findNextLine (pageRest file) = none)
    (hmark : file.gPage.getLast? ≠ some 4) : getNxtline maxLen file residue = readLine maxLen file residue := by
  rw [pageRest] at hp
  rw [getNxtline]
  refine (if_pos h).trans ?_
  simp only [hp, if_neg hmark]

/-- The page is what the file holds, up to the mark of the end. -/
def PageShows (file : BctbxVfsFile) : Prop := file.gPage <+: file.content.drop file.gPageOffset ++ [4]

lemma pageRest_prefix (hpage : PageShows file) (h : InPage file) :
    pageRest file <+: file.content.drop file.offset ++ [4] := by
  obtain ⟨-, hle, hlt⟩ := h
  have hlength := hpage.length_le
  rw [length_append, length_singleton] at hlength
  obtain ⟨rest, hrest⟩ := hpage
  have hdrop := congrArg (drop (file.offset - file.gPageOffset)) hrest
  rw [drop_append_of_le_length (by omega), drop_append_of_le_length (by omega), drop_drop,
    add_sub_of_le hle] at hdrop
  exact ⟨rest, hdrop⟩

lemma pageRest_ne_nil (h : InPage file) : pageRest file ≠ [] := by
  rw [pageRest, Ne, drop_eq_nil_iff]
  obtain ⟨-, hle, hlt⟩ := h
  omega

lemma getElem?_of_findNextLine {s : Bytes} {p : ℕ} (h : findNextLine s = some p) :
    s[p]? = some 13 ∨ s[p]? = some 10 := by
  rw [findNextLine] at h
  cases hr : strchr 13 s with
  | none =>
    cases hn : strchr 10 s with
    | none =>
      rw [hr, hn] at h
      cases h
    | some n =>
      rw [hr, hn, some.injEq] at h
      exact .inr (h ▸ getElem?_of_strchr hn)
  | some r =>
    cases hn : strchr 10 s with
    | none =>
      rw [hr, hn, some.injEq] at h
      exact .inl (h ▸ getElem?_of_strchr hr)
    | some n =>
      rw [hr, hn, some.injEq] at h
      obtain hle | hle := Nat.le_total r n
      · rw [Nat.min_eq_left hle] at h
        exact .inl (h ▸ getElem?_of_strchr hr)
      · rw [Nat.min_eq_right hle] at h
        exact .inr (h ▸ getElem?_of_strchr hn)

/-- A line that is found in what the file holds, and its end: a line feed behind a carriage return counts, unless the
file ends before it. -/
lemma exists_ending {s t : Bytes} {p : ℕ} (hp : s[p]? = some 13 ∨ s[p]? = some 10)
    (hsame : s.take (p + 1) = t.take (p + 1)) (hlt : p < t.length)
    (hnext : s[p + 1]? = some 10 → t[p + 1]? = some 10 ∨ t.length = p + 1) :
    ∃ ending ∈ lineEndings, t = s.take p ++ ending ++ t.drop (lineSize s p) := by
  have htake : s.take p = t.take p := by
    have htakes := congrArg (take p) hsame
    rwa [take_take, take_take, Nat.min_eq_left (le_succ p)] at htakes
  have hget : t[p]? = s[p]? := by
    have hgets := congrArg (·[p]?) hsame
    simpa only [getElem?_take_of_lt (lt_succ_self p)] using hgets.symm
  have hsplit {b : UInt8} (hb : s[p]? = some b) : t = t.take p ++ b :: t.drop (p + 1) := by
    rw [← hget, getElem?_eq_getElem hlt, some.injEq] at hb
    rw [← hb, ← drop_eq_getElem_cons hlt, take_append_drop]
  rw [htake, lineSize]
  by_cases hcrlf : s[p]? = some 13 ∧ s[p + 1]? = some 10
  · rw [if_pos hcrlf]
    obtain hfeed | hend := hnext hcrlf.2
    · refine ⟨[13, 10], by decide, (hsplit hcrlf.1).trans ?_⟩
      obtain ⟨hlt', hget'⟩ := List.getElem?_eq_some_iff.mp hfeed
      rw [drop_eq_getElem_cons hlt', hget', append_assoc]
      rfl
    · refine ⟨[13], by decide, (hsplit hcrlf.1).trans ?_⟩
      rw [drop_eq_nil_of_le (by omega), drop_eq_nil_of_le (by omega), append_nil]
  · rw [if_neg hcrlf]
    obtain hr | hn := hp
    · exact ⟨[13], by decide, (hsplit hr).trans (by rw [append_assoc]; rfl)⟩
    · exact ⟨[10], by decide, (hsplit hn).trans (by rw [append_assoc]; rfl)⟩

lemma cString_of_zero_notMem {s : Bytes} (h : 0 ∉ s) : cString s = s := by
  rw [cString, takeWhile_eq_self_iff]
  intro b hb
  simpa using ne_of_mem_of_not_mem hb h

lemma readLine_right (hzero : 0 ∉ file.content) (hpos : 0 < maxLen) (hfresh : ReadsFresh maxLen file residue) :
    (∃ ending ∈ lineEndings, file.content.drop file.offset = (readLine maxLen file residue).2.1.text ++ ending ++
        (readLine maxLen file residue).2.2.content.drop (readLine maxLen file residue).2.2.offset) ∧
      ((readLine maxLen file residue).1 = 0 → file.content.drop file.offset = []) := by
  set t := file.content.drop file.offset with ht
  have hdata : ByteFile.read file.content file.offset (maxLen - 1) = t.take (maxLen - 1) := rfl
  have hcontent {b : Prop} [Decidable b] (page : Bytes) (offset : ℕ) :
      (if b then { file with gPage := page, gPageOffset := offset } else file).content = file.content := by
    split_ifs <;> rfl
  rw [readLine]
  by_cases hempty : ByteFile.read file.content file.offset (maxLen - 1) = []
  · simp only [if_pos hempty]
    refine ⟨⟨[], by decide, rfl⟩, fun _ => ?_⟩
    rw [hdata, take_eq_nil_iff] at hempty
    exact hempty.elim (fun h => hfresh.1 (by omega)) id
  · simp only [if_neg hempty]
    cases hp : findNextLine ((ByteFile.read file.content file.offset (maxLen - 1) ++ residue).take (maxLen - 1)) with
    | none =>
      have hnot : 0 ∉ t.take (maxLen - 1) := fun h => hzero (mem_of_mem_drop (mem_of_mem_take h))
      rw [hdata, take_eq_nil_iff, not_or] at hempty
      have hlength : (t.take (maxLen - 1)).length ≠ 0 := by
        rw [length_take]
        have hne := length_pos_iff.mpr hempty.2
        omega
      simp only [hdata, cString_of_zero_notMem hnot, hcontent]
      refine ⟨⟨[], by decide, ?_⟩, fun h => absurd h hlength⟩
      rw [append_nil, ← drop_drop, ← ht, length_take]
      obtain hle | hle := Nat.le_total (maxLen - 1) t.length
      · rw [Nat.min_eq_left hle, take_append_drop]
      · rw [Nat.min_eq_right hle, take_of_length_le hle, drop_length, append_nil]
    | some p =>
      have hle : p ≤ t.length := hfresh.2 p hp
      have hget := getElem?_of_findNextLine hp
      have hbound : p < maxLen - 1 := by
        have hsome : p < ((t.take (maxLen - 1) ++ residue).take (maxLen - 1)).length := by
          obtain h | h := hget <;> exact (List.getElem?_eq_some_iff.mp h).1
        rw [length_take] at hsome
        omega
      simp only [hdata, hcontent] at hp hget ⊢
      refine ⟨?_, fun h => absurd h (succ_ne_zero p)⟩
      rw [← drop_drop, ← ht]
      obtain rfl | hlt := hle.eq_or_lt
      · have hall : t.take (maxLen - 1) = t := take_of_length_le hbound.le
        refine ⟨[], by decide, ?_⟩
        rw [drop_eq_nil_of_le (by rw [lineSize]; omega), append_nil, append_nil, take_take,
          Nat.min_eq_left hbound.le, hall, take_left]
      refine exists_ending hget ?_ hlt fun hfeed => ?_
      · rw [take_take, Nat.min_eq_left (by omega), take_append_of_le_length (by rw [length_take]; omega),
          take_take, Nat.min_eq_left (by omega)]
      · by_cases hlast : p + 1 < t.length
        · refine .inl ?_
          have hshort : p + 1 < maxLen - 1 := by
            have hsome := (List.getElem?_eq_some_iff.mp hfeed).1
            rw [length_take] at hsome
            omega
          rwa [getElem?_take_of_lt hshort, getElem?_append_left (by rw [length_take]; omega),
            getElem?_take_of_lt hshort] at hfeed
        · exact .inr (by omega)

/-- A call that finds its line as it should. -/
lemma readsRight_of_findsRight (hzero : 0 ∉ file.content) (hpage : PageShows file) (hpos : 0 < maxLen)
    (h : FindsRight maxLen file residue) : ReadsRight maxLen file residue := by
  rw [FindsRight] at h
  by_cases hin : InPage file
  · have hprefix := pageRest_prefix hpage hin
    set t := file.content.drop file.offset with ht
    rw [if_pos hin] at h
    cases hp : findNextLine (pageRest file) with
    | some p =>
      simp only [hp] at h
      have hcall := @getNxtline_of_line maxLen file residue p hin hp
      have hget := getElem?_of_findNextLine hp
      obtain ⟨rest, hrest⟩ := hprefix
      -- a byte of the page that is no mark is one of the file
      have hbyte {k : ℕ} {b : UInt8} (hb : (pageRest file)[k]? = some b) (hne : b ≠ 4) : t[k]? = some b := by
        have hk := (List.getElem?_eq_some_iff.mp hb).1
        have hwhole : (t ++ [4])[k]? = some b := by rw [← hrest, getElem?_append_left hk, hb]
        obtain hlt | hge := Nat.lt_or_ge k t.length
        · rwa [getElem?_append_left hlt] at hwhole
        · rw [getElem?_append_right hge] at hwhole
          exact absurd (mem_singleton.mp (mem_of_getElem? hwhole)) hne
      have hlt : p < t.length := by
        obtain h13 | h10 := hget
        · exact (List.getElem?_eq_some_iff.mp (hbyte h13 (by decide))).1
        · exact (List.getElem?_eq_some_iff.mp (hbyte h10 (by decide))).1
      have hsame : (pageRest file).take (p + 1) = t.take (p + 1) := by
        have hp' : p < (pageRest file).length := by
          obtain h13 | h10 := hget
          · exact (List.getElem?_eq_some_iff.mp h13).1
          · exact (List.getElem?_eq_some_iff.mp h10).1
        have htake := congrArg (take (p + 1)) hrest
        rwa [take_append_of_le_length (by omega), take_append_of_le_length (by omega)] at htake
      constructor
      · rw [extent, if_pos hin]
        simp only [hp]
        exact h
      · rw [hcall, ← drop_drop, ← ht]
        exact exists_ending hget hsame hlt fun hfeed => .inl (hbyte hfeed (by decide))
      · rw [hcall]
        exact fun hnone => absurd hnone (succ_ne_zero p)
    | none =>
      simp only [hp] at h
      by_cases hmark : file.gPage.getLast? = some 4
      · rw [if_pos hmark] at h
        have hcall := @getNxtline_of_mark maxLen file residue hin hp hmark
        have hlength := length_pos_iff.mpr (pageRest_ne_nil hin)
        have hle := hprefix.length_le
        rw [length_append, length_singleton] at hle
        have htake : (pageRest file).take ((pageRest file).length - 1) = t.take ((pageRest file).length - 1) := by
          obtain ⟨rest, hrest⟩ := hprefix
          have htakes := congrArg (take ((pageRest file).length - 1)) hrest
          rwa [take_append_of_le_length (sub_le _ _), take_append_of_le_length (by omega)] at htakes
        have hnot : 0 ∉ t.take ((pageRest file).length - 1) :=
          fun hmem => hzero (mem_of_mem_drop (mem_of_mem_take hmem))
        constructor
        · rw [extent, if_pos hin]
          simp only [hp, if_pos hmark]
          exact h.1
        · refine ⟨[], by decide, ?_⟩
          rw [hcall, htake, cString_of_zero_notMem hnot, append_nil, ← drop_drop, ← ht, take_append_drop]
        · rw [hcall]
          intro hnone
          refine h.2 ?_
          have hlast : (pageRest file).getLast? = some 4 := by
            rw [pageRest, getLast?_drop, if_neg (by have := hin.2; omega)]
            exact hmark
          rcases hrest : pageRest file with _ | ⟨b, _ | ⟨c, l⟩⟩
          · rw [hrest] at hlength
            cases hlength
          · rw [hrest, getLast?_singleton, some.injEq] at hlast
            rw [hlast]
          · rw [hrest] at hnone
            cases hnone
      · rw [if_neg hmark] at h
        have hcall := @getNxtline_of_page maxLen file residue hin hp hmark
        obtain ⟨htaken, hended⟩ := readLine_right hzero hpos h
        rw [← hcall] at htaken hended
        refine ⟨?_, htaken, hended⟩
        rw [extent, if_pos hin]
        simp only [hp, if_neg hmark]
        exact Nat.le_refl _
  · rw [if_neg hin] at h
    obtain ⟨htaken, hended⟩ := readLine_right hzero hpos h
    rw [← getNxtline_of_not_inPage hin] at htaken hended
    exact ⟨by rw [extent, if_neg hin], htaken, hended⟩

lemma getNxtline_keeps (hpage : PageShows file) :
    (getNxtline maxLen file residue).2.2.content = file.content ∧ PageShows (getNxtline maxLen file residue).2.2 := by
  have hread : (readLine maxLen file residue).2.2.content = file.content ∧
      PageShows (readLine maxLen file residue).2.2 := by
    set data := ByteFile.read file.content file.offset (maxLen - 1) with hdata
    have hcached {b : Prop} [Decidable b] (offset : ℕ) :
        PageShows { (if b then { file with
          gPage := if data.length < maxLen - 1 then data ++ [4] else data, gPageOffset := file.offset }
          else file) with offset } := by
      rw [PageShows]
      split_ifs with _ hshort
      · have hall : data = file.content.drop file.offset := by
          rw [hdata, ByteFile.read, length_take] at hshort
          rw [hdata, ByteFile.read, take_of_length_le (by omega)]
        exact ⟨[], by rw [hall, append_nil]⟩
      · exact (List.take_prefix _ _).trans (prefix_append _ _)
      · exact hpage
    have hcontent {b : Prop} [Decidable b] (page : Bytes) (offset : ℕ) :
        (if b then { file with gPage := page, gPageOffset := offset } else file).content = file.content := by
      split_ifs <;> rfl
    rw [readLine]
    by_cases hempty : data = []
    · simp only [← hdata, if_pos hempty]
      exact ⟨trivial, hpage⟩
    · simp only [← hdata, if_neg hempty]
      cases findNextLine ((data ++ residue).take (maxLen - 1)) with
      | none => exact ⟨hcontent _ _, hcached _⟩
      | some p => exact ⟨hcontent _ _, hcached _⟩
  by_cases hin : InPage file
  · cases hp : findNextLine (pageRest file) with
    | some p =>
      rw [getNxtline_of_line hin hp]
      exact ⟨rfl, hpage⟩
    | none =>
      by_cases hmark : file.gPage.getLast? = some 4
      · rw [getNxtline_of_mark hin hp hmark]
        exact ⟨rfl, hpage⟩
      · rw [getNxtline_of_page hin hp hmark]
        exact hread
  · rw [getNxtline_of_not_inPage hin]
    exact hread

end calls

/-! ### Runs -/

/-- The file after some calls on a content, whose buffers are not empty and each of which meets a condition, and the
pieces that were returned. -/
inductive Run (P : ℕ → BctbxVfsFile → Bytes → Prop) (content : Bytes) :
    BctbxVfsFile → List Bytes → Prop where
  | start : Run P content (.open content) []
  | call {file : BctbxVfsFile} {pieces : List Bytes} (h : Run P content file pieces) (maxLen : ℕ)
      (residue : Bytes) (hpos : 0 < maxLen) (hP : P maxLen file residue) :
      Run P content (getNxtline maxLen file residue).2.2 (pieces ++ [(getNxtline maxLen file residue).2.1.text])

lemma Run.keeps {P : ℕ → BctbxVfsFile → Bytes → Prop} {content : Bytes} {file : BctbxVfsFile}
    {pieces : List Bytes} (h : Run P content file pieces) : file.content = content ∧ PageShows file := by
  induction h with
  | start => exact ⟨rfl, nil_prefix⟩
  | call _ maxLen residue _ _ ih =>
    obtain ⟨hcontent, hpage⟩ := @getNxtline_keeps maxLen _ residue ih.2
    exact ⟨hcontent.trans ih.1, hpage⟩

/-- In a run whose calls find their lines as they should, the pieces and the ends of line are what was read of the
content, and each next such call stays within its buffer and returns 0 at the end only. -/
theorem lines_of_run {content : Bytes} (hzero : 0 ∉ content) {file : BctbxVfsFile} {pieces : List Bytes}
    (h : Run FindsRight content file pieces) :
    (∃ endings, endings.length = pieces.length ∧ (∀ ending ∈ endings, ending ∈ lineEndings) ∧
      content = (zipWith (· ++ ·) pieces endings).flatten ++ content.drop file.offset) ∧
      ∀ (maxLen : ℕ) (residue : Bytes), 0 < maxLen → FindsRight maxLen file residue →
        extent maxLen file ≤ maxLen ∧ ((getNxtline maxLen file residue).1 = 0 → content.length ≤ file.offset) := by
  have hnext {file : BctbxVfsFile} {pieces : List Bytes} (h : Run FindsRight content file pieces)
      {maxLen : ℕ} {residue : Bytes} (hpos : 0 < maxLen) (hfinds : FindsRight maxLen file residue) :
      ReadsRight maxLen file residue :=
    readsRight_of_findsRight (by rw [h.keeps.1]; exact hzero) h.keeps.2 hpos hfinds
  refine ⟨?_, fun maxLen residue hpos hfinds => ?_⟩
  · induction h with
    | start => exact ⟨[], rfl, fun ending h => (by cases h), rfl⟩
    | @call file pieces h maxLen residue hpos hfinds ih =>
      obtain ⟨endings, hlength, hall, hcontent⟩ := ih
      obtain ⟨ending, hending, htaken⟩ := (hnext h hpos hfinds).taken
      rw [(h.call maxLen residue hpos hfinds).keeps.1, h.keeps.1] at htaken
      refine ⟨endings ++ [ending], ?_, fun e he => ?_, ?_⟩
      · rw [length_append, length_append, hlength, length_singleton, length_singleton]
      · obtain he | he := mem_append.mp he
        · exact hall e he
        · rw [mem_singleton.mp he]
          exact hending
      · rw [zipWith_append hlength.symm, flatten_append, zipWith_cons_cons, zipWith_nil_left,
          flatten_singleton, append_assoc, ← htaken]
        exact hcontent
  · have hright := hnext h hpos hfinds
    refine ⟨hright.bounded, fun hend => ?_⟩
    have hnil := hright.ended hend
    rwa [h.keeps.1, drop_eq_nil_iff] at hnil

/-- The file after the line `a` of `a LF b LF` was read with a buffer of 16 bytes: its page holds the second line. -/
def afterFirst : BctbxVfsFile := (getNxtline 16 (.open [97, 10, 98, 10]) []).2.2

/-- The second line is found in the page, and so is the end of the file. -/
theorem lines_of_run_second : (∃ endings, endings.length = 2 ∧ (∀ ending ∈ endings, ending ∈ lineEndings) ∧
      [97, 10, 98, 10] = (zipWith (· ++ ·) [[97], [98]] endings).flatten ++ ([97, 10, 98, 10] : Bytes).drop 4) ∧
      extent 16 (getNxtline 16 afterFirst []).2.2 ≤ 16 ∧
        ((getNxtline 16 (getNxtline 16 afterFirst []).2.2 []).1 = 0 → 4 ≤ (getNxtline 16 afterFirst []).2.2.offset) := by
  have hfirst : FindsRight 16 (.open [97, 10, 98, 10]) [] := by
    refine (if_neg (by decide)).mpr ⟨fun h => absurd h (by decide), fun p hp => ?_⟩
    have hone : findNextLine (searched 16 (.open [97, 10, 98, 10]) []) = some 1 := by decide
    rw [hone, mem_def, some.injEq] at hp
    rw [← hp]
    decide
  have hsecond : FindsRight 16 afterFirst [] := by
    have hone : findNextLine (pageRest afterFirst) = some 1 := by decide
    rw [FindsRight, if_pos (by decide), hone]
    decide
  have hthird : FindsRight 16 (getNxtline 16 afterFirst []).2.2 [] := by
    have hnone : findNextLine (pageRest (getNxtline 16 afterFirst []).2.2) = none := by decide
    rw [FindsRight, if_pos (by decide), hnone]
    exact (if_pos (by decide)).mpr (by decide)
  obtain ⟨hlines, hends⟩ := lines_of_run (by decide)
    (Run.call (Run.call .start 16 [] (by decide) hfirst) 16 [] (by decide) hsecond)
  exact ⟨hlines, hends 16 [] (by decide) hthird⟩

/-- A line of 6 bytes that is in the page is copied to a buffer of 4. -/
theorem not_bounded_page : ¬ ∀ (content : Bytes) (file : BctbxVfsFile) (pieces : List Bytes), 0 ∉ content →
    Run (fun _ _ _ => True) content file pieces → ∀ maxLen : ℕ, 0 < maxLen → extent maxLen file ≤ maxLen := by
  intro h
  have hpage := h [97, 10, 98, 99, 100, 101, 102, 103, 10] _ _ (by decide)
    (Run.call .start 16 [] (by decide) trivial) 4 (by decide)
  exact absurd hpage (by decide)

end ConfigFile
