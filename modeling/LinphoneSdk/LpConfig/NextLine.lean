import LinphoneSdk.Lib.ByteFile
import LinphoneSdk.LpConfig.Sections

/-!
# The lines of a file

`bctbx_file_get_nxtline` reads a file by pages, and marks the end of the file in its page by the byte 4. The lines that
it finds in a text are those of the text, unless a page ends with such a byte inside a line.
-/

namespace ConfigFile

open CString List

def MAX_LEN : ℕ := 16384

def BCTBX_VFS_GETLINE_PAGE_SIZE : ℕ := 17385

structure BctbxVfsFile where
  content : Bytes
  offset : ℕ
  gPage : Bytes
  gPageOffset : ℕ

def BctbxVfsFile.open (content : Bytes) : BctbxVfsFile := ⟨content, 0, [], 0⟩

def findNextLine (buf : Bytes) : Option ℕ :=
  match strchr 13 buf, strchr 10 buf with
  | some r, some n => some (min r n)
  | some r, none => some r
  | none, some n => some n
  | none, none => none

def lineSize (buf : Bytes) (p : ℕ) : ℕ :=
  p + 1 + if buf[p]? = some 13 ∧ buf[p + 1]? = some 10 then 1 else 0

variable (maxLen : ℕ) (file : BctbxVfsFile) (residue : Bytes)

def readLine : ℕ × Line × BctbxVfsFile :=
  let data := ByteFile.read file.content file.offset (maxLen - 1)
  if data = [] then (0, ⟨[], residue⟩, file)
  else
    let file' :=
      if maxLen - 1 < BCTBX_VFS_GETLINE_PAGE_SIZE then { file with
        gPage := if data.length < maxLen - 1 then data ++ [4] else data, gPageOffset := file.offset }
      else file
    let s := (data ++ residue).take (maxLen - 1)
    match findNextLine s with
    | some p => (p + 1, ⟨s.take p, s.drop (p + 1)⟩, { file' with offset := file.offset + lineSize s p })
    | none => (data.length, ⟨cString data, residue⟩, { file' with offset := file.offset + data.length })

/-- The size of the line, or 0, and the line. The buffer held `residue` behind what is
stored in it. -/
def getNxtline : ℕ × Line × BctbxVfsFile :=
  let gSize := file.gPage.length
  if 0 < gSize ∧ file.gPageOffset ≤ file.offset ∧ file.offset < file.gPageOffset + gSize then
    let c := file.gPage.drop (file.offset - file.gPageOffset)
    match findNextLine c with
    | some p => (p + 1, ⟨c.take p, residue⟩, { file with offset := file.offset + lineSize c p })
    | none =>
      if file.gPage.getLast? = some 4 then
        let size := gSize - (file.offset - file.gPageOffset) - 1
        (size, ⟨cString (c.take size), residue⟩, { file with offset := file.offset + size })
      else readLine maxLen file residue
  else readLine maxLen file residue

/-- The loop of `linphone_config_parse`: the lines up to the first of size 0. -/
def fileLines (residue : ℕ → Bytes) : ℕ → ℕ → BctbxVfsFile → List Line
  | 0, _, _ => []
  | fuel + 1, n, file =>
    match getNxtline maxLen file (residue n) with
    | (0, _, _) => []
    | (_ + 1, line, file) => line :: fileLines residue fuel (n + 1) file

def parse (sections : List LpSection) (content : Bytes) (residue : ℕ → Bytes) : List LpSection :=
  (parseLines sections none (fileLines MAX_LEN residue (content.length + 1) 0 (.open content))).1

/-! ### Texts -/

/-- The text of some lines. -/
def text (ls : List Bytes) : Bytes := ls.flatMap (· ++ [10])

def IsLine (l : Bytes) : Prop := ∀ b ∈ l, b ≠ 0 ∧ b ≠ 10 ∧ b ≠ 13

@[simp] lemma text_nil : text [] = [] := rfl

@[simp] lemma text_cons (l : Bytes) (ls : List Bytes) : text (l :: ls) = l ++ 10 :: text ls := by
  simp [text]

section

variable {l s : Bytes}

lemma findNextLine_line (hl : IsLine l) (s : Bytes) : findNextLine (l ++ 10 :: s) = some l.length := by
  have hn : strchr 10 (l ++ 10 :: s) = some l.length := strchr_append_cons fun b hb => ⟨(hl b hb).2.1, (hl b hb).1⟩
  rcases hr : strchr 13 (l ++ 10 :: s) with _ | r
  · simp [findNextLine, hn, hr]
  · have hle : l.length ≤ r := by
      by_contra hgt
      have hget := getElem?_of_strchr hr
      rw [getElem?_append_left (by omega)] at hget
      exact (hl 13 (mem_of_getElem? hget)).2.2 rfl
    simp [findNextLine, hn, hr, Nat.min_eq_right hle]

lemma findNextLine_eq_none (hl : IsLine l) : findNextLine l = none := by
  have hn : strchr 10 l = none := strchr_eq_none fun b hb => (hl b hb).2.1
  have hr : strchr 13 l = none := strchr_eq_none fun b hb => (hl b hb).2.2
  simp [findNextLine, hn, hr]

lemma lineSize_line (l s : Bytes) : lineSize (l ++ 10 :: s) l.length = l.length + 1 := by
  simp [lineSize]

lemma cString_line (hl : IsLine l) : cString l = l := by
  rw [cString, takeWhile_eq_self_iff]
  intro b hb
  simpa using (hl b hb).1

end

/-! ### The lines that are found -/

/-- The lines that are found in a text of which `room` bytes are in the page. -/
def linesRead (maxLen : ℕ) : ℕ → List Bytes → List Bytes
  | _, [] => []
  | room, l :: ls =>
    if l.length < room then l :: linesRead maxLen (room - (l.length + 1)) ls
    else if 0 < room ∧ l[room - 1]? = some 4 then if room = 1 then [] else [l.take (room - 1)]
    else if l.length + 1 < maxLen then l :: linesRead maxLen (maxLen - 1 - (l.length + 1)) ls
    else l :: [] :: linesRead maxLen (maxLen - 2) ls

/-- No page ends with a byte 4 inside a line. A line that does not fit in the page starts the next one. -/
def Clear (maxLen : ℕ) : ℕ → List Bytes → Prop
  | _, [] => True
  | room, l :: ls =>
    if l.length < room then Clear maxLen (room - (l.length + 1)) ls
    else (0 < room → l[room - 1]? ≠ some 4) ∧
      Clear maxLen (if l.length + 1 < maxLen then maxLen - 1 - (l.length + 1) else maxLen - 2) ls

instance Clear.decidable (maxLen : ℕ) : ∀ (room : ℕ) (ls : List Bytes), Decidable (Clear maxLen room ls)
  | _, [] => .isTrue trivial
  | room, l :: ls =>
    have _next := Clear.decidable maxLen (room - (l.length + 1)) ls
    have _rest := Clear.decidable maxLen (if l.length + 1 < maxLen then maxLen - 1 - (l.length + 1) else maxLen - 2) ls
    inferInstanceAs (Decidable (if l.length < room then _ else _))

/-- A file before the text of some lines, `room` bytes of which are in the page. The page ends with the file, or it is
full. -/
structure Window (file : BctbxVfsFile) (room : ℕ) (ls : List Bytes) : Prop where
  content : file.content.drop file.offset = text ls
  page : room = 0 ∧ file.gPageOffset + file.gPage.length ≤ file.offset ∨ file.gPageOffset ≤ file.offset ∧
      (file.gPage.drop (file.offset - file.gPageOffset) = text ls ++ [4] ∧ (text ls).length ≤ room ∨
        0 < room ∧ room ≤ (text ls).length ∧ file.gPage.drop (file.offset - file.gPageOffset) = (text ls).take room)

section

variable {maxLen : ℕ} {file : BctbxVfsFile} {l : Bytes} {ls : List Bytes}

lemma readLine_line (hmax : maxLen ≤ BCTBX_VFS_GETLINE_PAGE_SIZE) (hl : IsLine l) (hlength : l.length + 1 < maxLen)
    (hcontent : file.content.drop file.offset = text (l :: ls)) (residue : Bytes) :
    ∃ behind file', readLine maxLen file residue = (l.length + 1, ⟨l, behind⟩, file') ∧
      Window file' (maxLen - 1 - (l.length + 1)) ls := by
  have hcache : maxLen - 1 < BCTBX_VFS_GETLINE_PAGE_SIZE := by omega
  obtain ⟨m, hm⟩ : ∃ m, maxLen - 1 = l.length + 1 + m := ⟨maxLen - 1 - (l.length + 1), by omega⟩
  have hdata : ByteFile.read file.content file.offset (maxLen - 1) = l ++ 10 :: (text ls).take m := by
    rw [ByteFile.read, hcontent, text_cons, hm, take_append, take_of_length_le (by omega)]
    have hsub : l.length + 1 + m - l.length = m + 1 := by omega
    rw [hsub, take_succ_cons]
  have hne : l ++ 10 :: (text ls).take m ≠ [] := by simp
  have hs : ((l ++ 10 :: (text ls).take m) ++ residue).take (maxLen - 1) =
      l ++ 10 :: ((text ls).take m ++ residue).take m := by
    rw [append_assoc, cons_append, hm, take_append, take_of_length_le (by omega)]
    have hsub : l.length + 1 + m - l.length = m + 1 := by omega
    rw [hsub, take_succ_cons]
  simp only [readLine, hdata, if_neg hne, hs, findNextLine_line hl, if_pos hcache]
  refine ⟨_, _, by rw [take_left], ?_⟩
  rw [lineSize_line]
  have hdrop : file.content.drop (file.offset + (l.length + 1)) = text ls := by
    rw [← drop_drop, hcontent, text_cons, ← drop_drop, drop_left, drop_one, tail_cons]
  refine ⟨hdrop, ?_⟩
  have hoffset : file.offset + (l.length + 1) - file.offset = l.length + 1 := by omega
  have hroom : maxLen - 1 - (l.length + 1) = m := by omega
  have hlengths : (l ++ 10 :: (text ls).take m).length = l.length + 1 + min m (text ls).length := by
    simp only [length_append, length_cons, length_take]
    omega
  simp only [hoffset, hroom, hlengths]
  have hpage (t : Bytes) : (l ++ 10 :: t).drop (l.length + 1) = t := by
    rw [← drop_drop, drop_left, drop_one, tail_cons]
  by_cases hshort : (text ls).length < m
  · -- the page ends with the file
    have hlt : l.length + 1 + min m (text ls).length < maxLen - 1 := by omega
    rw [if_pos hlt]
    refine .inr ⟨by omega, .inl ⟨?_, by omega⟩⟩
    rw [append_assoc, cons_append, hpage, take_of_length_le (by omega)]
  · have hlt : ¬ l.length + 1 + min m (text ls).length < maxLen - 1 := by omega
    rw [if_neg hlt, hpage]
    by_cases hzero : m = 0
    · refine .inl ⟨hzero, ?_⟩
      rw [hlengths, hzero]
      omega
    · exact .inr ⟨by omega, .inr ⟨by omega, by omega, rfl⟩⟩

/-- A line that fills the buffer: its end is read as an empty line. -/
lemma readLine_long (hmax : maxLen ≤ BCTBX_VFS_GETLINE_PAGE_SIZE) (hl : IsLine l) (hlength : l.length + 1 = maxLen)
    (hne : l ≠ []) (hcontent : file.content.drop file.offset = text (l :: ls)) (residue : Bytes) :
    ∃ file', readLine maxLen file residue = (l.length, ⟨l, residue⟩, file') ∧ Window file' 0 ([] :: ls) := by
  have hcache : maxLen - 1 < BCTBX_VFS_GETLINE_PAGE_SIZE := by omega
  have hm : maxLen - 1 = l.length := by omega
  have hdata : ByteFile.read file.content file.offset (maxLen - 1) = l := by
    rw [ByteFile.read, hcontent, text_cons, hm, take_left]
  have hs : (l ++ residue).take (maxLen - 1) = l := by rw [hm, take_left]
  have hfull : ¬ l.length < maxLen - 1 := by omega
  simp only [readLine, hdata, if_neg hne, hs, findNextLine_eq_none hl, cString_line hl, if_pos hcache, if_neg hfull]
  refine ⟨_, rfl, ?_, .inl ⟨rfl, Nat.le_refl _⟩⟩
  change file.content.drop (file.offset + l.length) = text ([] :: ls)
  rw [← drop_drop, hcontent, text_cons, drop_left, text_cons, nil_append]

lemma readLine_end (hcontent : file.content.drop file.offset = text []) (residue : Bytes) :
    (readLine maxLen file residue).1 = 0 := by
  have hdata : ByteFile.read file.content file.offset (maxLen - 1) = [] := by
    rw [ByteFile.read, hcontent, text_nil, take_nil]
  simp [readLine, hdata]

variable (maxLen) in
lemma getNxtline_page {room : ℕ} (hl : IsLine l) (hroom : l.length < room) (h : Window file room (l :: ls))
    (residue : Bytes) : ∃ file', getNxtline maxLen file residue = (l.length + 1, ⟨l, residue⟩, file') ∧
      Window file' (room - (l.length + 1)) ls := by
  obtain ⟨hcontent, hpage⟩ := h
  obtain ⟨hle, hpage⟩ : file.gPageOffset ≤ file.offset ∧ _ := hpage.resolve_left fun h => by omega
  set k := file.offset - file.gPageOffset with hk
  obtain ⟨t, ht, hrest⟩ : ∃ t, file.gPage.drop k = l ++ 10 :: t ∧
      (t = text ls ++ [4] ∧ (text ls).length ≤ room - (l.length + 1) ∨
        room - (l.length + 1) ≤ (text ls).length ∧ t = (text ls).take (room - (l.length + 1))) := by
    rcases hpage with ⟨hpage, hlength⟩ | ⟨-, hlength, hpage⟩
    · refine ⟨text ls ++ [4], by rw [hpage, text_cons]; simp, .inl ⟨rfl, ?_⟩⟩
      simp only [text_cons, length_append, length_cons] at hlength
      omega
    · refine ⟨(text ls).take (room - (l.length + 1)), ?_, .inr ⟨?_, rfl⟩⟩
      · obtain ⟨m, rfl⟩ : ∃ m, room = l.length + (m + 1) := ⟨room - (l.length + 1), by omega⟩
        have hm : l.length + (m + 1) - (l.length + 1) = m := by omega
        rw [hpage, text_cons, take_append, take_of_length_le (by omega), Nat.add_sub_cancel_left, take_succ_cons, hm]
      · simp only [text_cons, length_append, length_cons] at hlength
        omega
  have hsize : file.gPage.length = k + (l.length + 1 + t.length) := by
    have hlength := congrArg length ht
    simp only [length_drop, length_append, length_cons] at hlength
    omega
  have hin : 0 < file.gPage.length ∧ file.gPageOffset ≤ file.offset ∧
      file.offset < file.gPageOffset + file.gPage.length := by omega
  simp only [getNxtline, if_pos hin, ← hk, ht, findNextLine_line hl, take_left, lineSize_line]
  refine ⟨_, rfl, ?_, ?_⟩
  · change file.content.drop (file.offset + (l.length + 1)) = text ls
    rw [← drop_drop, hcontent, text_cons, ← drop_drop, drop_left, drop_one, tail_cons]
  · have hoffset : file.offset + (l.length + 1) - file.gPageOffset = k + (l.length + 1) := by omega
    have hdrop : file.gPage.drop (k + (l.length + 1)) = t := by
      rw [← drop_drop, ht, ← drop_drop, drop_left, drop_one, tail_cons]
    simp only [hoffset, hdrop]
    rcases hrest with ⟨rfl, hlength⟩ | ⟨hlength, hrest⟩
    · exact .inr ⟨by omega, .inl ⟨rfl, hlength⟩⟩
    · by_cases hzero : room - (l.length + 1) = 0
      · refine .inl ⟨hzero, ?_⟩
        rw [hzero, take_zero] at hrest
        rw [hsize, hrest, length_nil]
        omega
      · exact .inr ⟨by omega, .inr ⟨by omega, hlength, hrest⟩⟩

variable (maxLen) in
/-- A line that is cut by the end of the page: what is left in the page, and whether it ends with the byte 4. -/
lemma getNxtline_cut {room : ℕ} (hl : IsLine l) (hroom : room ≤ l.length) (h : Window file room (l :: ls))
    (residue : Bytes) :
    getNxtline maxLen file residue = if 0 < room ∧ l[room - 1]? = some 4 then
        (room - 1, ⟨l.take (room - 1), residue⟩, { file with offset := file.offset + (room - 1) })
      else readLine maxLen file residue := by
  obtain ⟨hcontent, hpage⟩ := h
  rcases hpage with ⟨rfl, hout⟩ | ⟨hle, hpage⟩
  · have hin : ¬ (0 < file.gPage.length ∧ file.gPageOffset ≤ file.offset ∧
        file.offset < file.gPageOffset + file.gPage.length) := by omega
    simp only [getNxtline, if_neg hin, Nat.lt_irrefl, false_and, if_false]
  · have hlong : ¬ (text (l :: ls)).length ≤ room := by
      simp only [text_cons, length_append, length_cons]
      omega
    obtain ⟨hpos, -, hpage⟩ := hpage.resolve_left fun h => hlong h.2
    set k := file.offset - file.gPageOffset with hk
    have hc : file.gPage.drop k = l.take room := by
      rw [hpage, text_cons, take_append_of_le_length hroom]
    have hsize : file.gPage.length = k + room := by
      have hlength := congrArg length hc
      simp only [length_drop, length_take, Nat.min_eq_left hroom] at hlength
      omega
    have hin : 0 < file.gPage.length ∧ file.gPageOffset ≤ file.offset ∧
        file.offset < file.gPageOffset + file.gPage.length := by omega
    have htake (n : ℕ) : IsLine (l.take n) := fun b hb => hl b (mem_of_mem_take hb)
    have hlast : file.gPage.getLast? = l[room - 1]? := by
      have happend : file.gPage = file.gPage.take k ++ l.take room := by rw [← hc, take_append_drop]
      have hne : l.take room ≠ [] := by
        rw [Ne, take_eq_nil_iff]
        rintro (hzero | rfl)
        · omega
        · simp at hroom
          omega
      rw [happend, getLast?_append_of_ne_nil _ hne, getLast?_eq_getElem?, length_take,
        Nat.min_eq_left hroom, getElem?_take_of_lt (by omega)]
    have hcount : file.gPage.length - k - 1 = room - 1 := by omega
    have htake' : (l.take room).take (room - 1) = l.take (room - 1) := by
      rw [take_take, Nat.min_eq_left (by omega)]
    simp only [getNxtline, if_pos hin, ← hk, hc, findNextLine_eq_none (htake room), hlast, hcount, htake',
      cString_line (htake _), hpos, true_and]

/-- The mark of the end is all that is left in the page. -/
lemma getNxtline_mark (hle : file.gPageOffset ≤ file.offset)
    (hpage : file.gPage.drop (file.offset - file.gPageOffset) = [4]) (residue : Bytes) :
    (getNxtline maxLen file residue).1 = 0 := by
  set k := file.offset - file.gPageOffset with hk
  have hsize : file.gPage.length = k + 1 := by
    have hlength := congrArg length hpage
    simp only [length_drop, length_singleton] at hlength
    omega
  have hin : 0 < file.gPage.length ∧ file.gPageOffset ≤ file.offset ∧
      file.offset < file.gPageOffset + file.gPage.length := by omega
  have hlast : file.gPage.getLast? = some 4 := by
    have happend : file.gPage = file.gPage.take k ++ [4] := by rw [← hpage, take_append_drop]
    rw [happend, getLast?_append_of_ne_nil _ (by simp)]
    rfl
  have hnone : findNextLine [4] = none := by decide
  have hcount : file.gPage.length - k - 1 = 0 := by omega
  simp only [getNxtline, if_pos hin, ← hk, hpage, hnone, hlast, if_true, hcount]

/-- Behind the last line. -/
lemma getNxtline_end {room : ℕ} (h : Window file room []) (residue : Bytes) :
    (getNxtline maxLen file residue).1 = 0 := by
  obtain ⟨hcontent, hpage⟩ := h
  rcases hpage with ⟨rfl, hout⟩ | ⟨hle, ⟨hpage, -⟩ | ⟨hpos, hlength, -⟩⟩
  · have hin : ¬ (0 < file.gPage.length ∧ file.gPageOffset ≤ file.offset ∧
        file.offset < file.gPageOffset + file.gPage.length) := by omega
    rw [getNxtline, if_neg hin]
    exact readLine_end hcontent residue
  · exact getNxtline_mark hle hpage residue
  · simp at hlength
    omega

variable (maxLen) in
/-- Behind a line that was cut before a byte 4. -/
lemma getNxtline_cut_end {room : ℕ} (hroom : room ≤ l.length) (hpos : 0 < room) (hmark : l[room - 1]? = some 4)
    (h : Window file room (l :: ls)) (residue : Bytes) :
    (getNxtline maxLen { file with offset := file.offset + (room - 1) } residue).1 = 0 := by
  obtain ⟨hle, hpage⟩ := h.page.resolve_left fun h => by omega
  have hlong : ¬ (text (l :: ls)).length ≤ room := by
    simp only [text_cons, length_append, length_cons]
    omega
  obtain ⟨-, -, hpage⟩ := hpage.resolve_left fun h => hlong h.2
  apply getNxtline_mark
  · exact Nat.le_trans hle (Nat.le_add_right _ _)
  change file.gPage.drop (file.offset + (room - 1) - file.gPageOffset) = [4]
  have hsub : file.offset + (room - 1) - file.gPageOffset = file.offset - file.gPageOffset + (room - 1) := by omega
  rw [hsub, ← drop_drop, hpage, text_cons, take_append_of_le_length hroom]
  have hlt : room - 1 < (l.take room).length := by
    rw [length_take]
    omega
  rw [drop_eq_getElem_cons hlt, drop_eq_nil_of_le (by rw [length_take]; omega)]
  rw [getElem_take, cons.injEq]
  refine ⟨?_, rfl⟩
  obtain ⟨_, hget⟩ := List.getElem?_eq_some_iff.1 hmark
  exact hget

lemma fileLines_of_zero {residue : ℕ → Bytes} {n : ℕ} (h : (getNxtline maxLen file (residue n)).1 = 0)
    (fuel : ℕ) : fileLines maxLen residue fuel n file = [] := by
  cases fuel with
  | zero => rfl
  | succ fuel =>
    rw [fileLines]
    split
    · rfl
    · next heq => rw [heq] at h; cases h

lemma fileLines_succ {residue : ℕ → Bytes} {n size : ℕ} {line : Line} {file' : BctbxVfsFile}
    (h : getNxtline maxLen file (residue n) = (size + 1, line, file')) (fuel : ℕ) :
    fileLines maxLen residue (fuel + 1) n file = line :: fileLines maxLen residue fuel (n + 1) file' := by
  rw [fileLines, h]

end

section

variable {maxLen : ℕ} {residue : ℕ → Bytes}

/-- The loop finds the lines of a text, but for those behind a page that ends with a byte 4 inside a line. -/
lemma map_text_fileLines (hmax : maxLen ≤ BCTBX_VFS_GETLINE_PAGE_SIZE) (hone : 1 < maxLen) {ls : List Bytes}
    (hls : ∀ l ∈ ls, IsLine l ∧ l.length < maxLen) {room n fuel : ℕ} {file : BctbxVfsFile} (h : Window file room ls)
    (hfuel : (linesRead maxLen room ls).length < fuel) :
    (fileLines maxLen residue fuel n file).map (·.text) = linesRead maxLen room ls := by
  induction ls generalizing room n fuel file with
  | nil => rw [fileLines_of_zero (getNxtline_end h (residue n))]; rfl
  | cons l ls ih =>
    obtain ⟨hl, hlength⟩ := hls l (by simp)
    have hrest : ∀ l' ∈ ls, IsLine l' ∧ l'.length < maxLen := fun l' hl' => hls l' (mem_cons_of_mem l hl')
    obtain ⟨fuel, rfl⟩ : ∃ m, fuel = m + 1 := ⟨fuel - 1, by omega⟩
    simp only [linesRead] at hfuel ⊢
    split_ifs at hfuel ⊢ with hroom hcut hone' hshort
    · -- the line is whole in the page
      obtain ⟨file', hget, hwindow⟩ := getNxtline_page maxLen hl hroom h (residue n)
      rw [fileLines_succ hget, map_cons, ih hrest hwindow (by simpa using hfuel)]
    · -- the mark comes at once
      have hget := getNxtline_cut maxLen hl (by omega) h (residue n)
      rw [if_pos hcut, hone'] at hget
      rw [fileLines_of_zero (by rw [hget])]
      rfl
    · have hget := getNxtline_cut maxLen hl (by omega) h (residue n)
      obtain ⟨m, hm⟩ : ∃ m, room - 1 = m + 1 := ⟨room - 2, by omega⟩
      have hend := getNxtline_cut_end maxLen (by omega) hcut.1 hcut.2 h (residue (n + 1))
      rw [if_pos hcut] at hget
      rw [hm] at hget hend ⊢
      rw [fileLines_succ hget, fileLines_of_zero hend]
      rfl
    · -- the next page starts with the line
      have hget := getNxtline_cut maxLen hl (by omega) h (residue n)
      rw [if_neg hcut] at hget
      obtain ⟨behind, file', hread, hwindow⟩ := readLine_line hmax hl hshort h.content (residue n)
      rw [fileLines_succ (hget.trans hread), map_cons, ih hrest hwindow (by simpa using hfuel)]
    · have hget := getNxtline_cut maxLen hl (by omega) h (residue n)
      rw [if_neg hcut] at hget
      obtain ⟨c, l', rfl⟩ : ∃ c l', l = c :: l' := exists_cons_of_ne_nil (by rintro rfl; simp at hshort; omega)
      obtain ⟨file', hread, hwindow⟩ :=
        readLine_long hmax hl (by omega) (cons_ne_nil c l') h.content (residue n)
      obtain ⟨fuel, rfl⟩ : ∃ m, fuel = m + 1 := ⟨fuel - 1, by simp only [length_cons] at hfuel; omega⟩
      have hempty : IsLine [] := fun b hb => by cases hb
      have hget' := getNxtline_cut maxLen hempty (Nat.le_refl _) hwindow (residue (n + 1))
      rw [if_neg (by simp)] at hget'
      obtain ⟨behind, file'', hread', hwindow'⟩ :=
        readLine_line hmax hempty (by simpa using hone) hwindow.content (residue (n + 1))
      have hroom' : maxLen - 1 - (length ([] : Bytes) + 1) = maxLen - 2 := by
        rw [length_nil]
        omega
      rw [hroom'] at hwindow'
      rw [fileLines_succ (hget.trans hread), fileLines_succ (hget'.trans hread'), map_cons, map_cons,
        ih hrest hwindow' (by simp only [length_cons] at hfuel; omega)]

end

end ConfigFile
