import LinphoneSdk.LpConfig.Sections

/-!
# The lines of a configuration

The lines that are written for a section, and what the parser makes of each of them.
-/

namespace ConfigFile

open CString FirstMatch List

/-! ### What is written -/

/-- A word that may be a name or a key. -/
structure IsToken (t : Bytes) : Prop where
  ne_nil : t ≠ []
  bytes : ∀ b ∈ t, isspace b = false ∧ b ≠ 0 ∧ b ≠ 61 ∧ b ≠ 91 ∧ b ≠ 93
  head : t.head? ≠ some 35

/-- The value of an item. -/
structure IsValue (v : Bytes) : Prop where
  ne_nil : v ≠ []
  bytes : ∀ b ∈ v, b ≠ 0 ∧ b ≠ 10 ∧ b ≠ 13
  last : v.getLast? ≠ some 32

structure IsComment (v : Bytes) : Prop where
  bytes : ∀ b ∈ v, b ≠ 0 ∧ b ≠ 10 ∧ b ≠ 13
  hash : isAComment v = true

def LpItem.Writable : LpItem → Prop
  | item key value => IsToken key ∧ IsValue value
  | comment value => IsComment value

structure LpSection.Writable (sec : LpSection) : Prop where
  name : IsToken sec.name
  params : ∀ p ∈ sec.params, IsToken p.key ∧ IsToken p.value
  items : ∀ i ∈ sec.items, i.Writable

def LpSectionParam.text (p : LpSectionParam) : Bytes := 32 :: (p.key ++ 61 :: p.value)

def paramsText (params : List LpSectionParam) : Bytes := params.flatMap (·.text)

def LpItem.line : LpItem → Bytes
  | item key value => key ++ 61 :: value
  | comment value => value

def LpSection.header (sec : LpSection) : Bytes := 91 :: (sec.name ++ paramsText sec.params ++ [93])

def LpSection.lines (sec : LpSection) : List Bytes := sec.header :: (sec.items.map (·.line) ++ [[]])

lemma LpItem.Writable.write {i : LpItem} (h : i.Writable) : i.write = [i.line ++ [10]] := by
  cases i with
  | item key value => simp [LpItem.write, LpItem.line, h.2.ne_nil]
  | comment value => rfl

lemma LpSection.Writable.write {sec : LpSection} (h : sec.Writable) :
    sec.write.flatten = sec.lines.flatMap (· ++ [10]) := by
  have hparams : sec.params.flatMap (·.write) = sec.params.map (·.text) := by
    have hparams : ∀ p ∈ sec.params, p.write = [p.text] := by
      intro p hp
      simp [LpSectionParam.write, LpSectionParam.text, (h.params p hp).2.ne_nil]
    rw [flatMap_congr hparams, ← map_eq_flatMap]
  have hitems : sec.items.flatMap (·.write) = sec.items.map (·.line ++ [10]) := by
    rw [flatMap_congr fun i hi => (h.items i hi).write, ← map_eq_flatMap]
  simp only [LpSection.write, LpSection.lines, LpSection.header, hparams, hitems, paramsText, flatMap_cons,
    flatMap_append, flatMap_map]
  simp [flatMap_def, flatten_append]

/-- The text of a configuration is that of the lines of its sections. -/
lemma content_eq {sections : List LpSection} (h : ∀ sec ∈ sections, sec.Writable) :
    content sections = (sections.flatMap (·.lines)).flatMap (· ++ [10]) := by
  induction sections with
  | nil => rfl
  | cons sec sections ih =>
    have hsec := (h sec (by simp)).write
    have hrest := ih fun s hs => h s (mem_cons_of_mem sec hs)
    simp only [content, writeCalls] at hrest ⊢
    rw [flatMap_cons, flatten_append, hsec, hrest, flatMap_cons, flatMap_append]

/-! ### Tokens -/

section

variable {t v rest : Bytes}

lemma IsToken.word (h : IsToken t) : ∀ b ∈ t, isspace b = false := fun b hb => (h.bytes b hb).1

lemma IsToken.scanWord (h : IsToken t) (hrest : ∀ b ∈ rest.head?, isspace b = true) :
    scanWord none (t ++ rest) = some (t, rest) := scanWord_append h.ne_nil h.word hrest

lemma IsToken.exists_cons (h : IsToken t) : ∃ b s, t = b :: s ∧ b ≠ 32 ∧ b ≠ 91 ∧ b ≠ 35 := by
  obtain ⟨b, s, rfl⟩ := exists_cons_of_ne_nil h.ne_nil
  refine ⟨b, s, rfl, ?_, (h.bytes b (by simp)).2.2.2.1, fun hb => h.head (by simp [hb])⟩
  rintro rfl
  exact absurd (h.bytes 32 (by simp)).1 (by decide)

/-- The blank before a word is skipped. -/
lemma scanWord_cons_space (s : Bytes) : scanWord none (32 :: s) = scanWord none s := by
  have hskip : skipSpaces (32 :: s) = skipSpaces s := by
    simp [skipSpaces, show isspace 32 = true from by decide]
  simp only [scanWord, hskip]

lemma cString_append_zero (h : ∀ b ∈ t, b ≠ 0) (rest : Bytes) : cString (t ++ 0 :: rest) = t := by
  rw [cString, takeWhile_append_of_pos fun b hb => by simpa using h b hb]
  simp

lemma paramsText_ne_zero {params : List LpSectionParam} (h : ∀ p ∈ params, IsToken p.key ∧ IsToken p.value) :
    ∀ b ∈ paramsText params, b ≠ 0 ∧ b ≠ 91 ∧ b ≠ 93 := by
  intro b hb
  obtain ⟨p, hp, hb⟩ := mem_flatMap.1 hb
  obtain ⟨hkey, hvalue⟩ := h p hp
  simp only [LpSectionParam.text, mem_cons, mem_append] at hb
  rcases hb with rfl | hb | rfl | hb
  · decide
  · exact ⟨(hkey.bytes b hb).2.1, (hkey.bytes b hb).2.2.2⟩
  · decide
  · exact ⟨(hvalue.bytes b hb).2.1, (hvalue.bytes b hb).2.2.2⟩

lemma paramsText_head {params : List LpSectionParam} : ∀ b ∈ (paramsText params).head?, isspace b = true := by
  cases params with
  | nil => intro b hb; cases hb
  | cons p params =>
    intro b hb
    simp only [paramsText, flatMap_cons, LpSectionParam.text, cons_append, head?_cons, Option.mem_some_iff] at hb
    rw [← hb]
    decide

end

/-! ### The header of a section -/

/-- The parameters that were written are found. -/
lemma sectionParams_paramsText {params : List LpSectionParam} (h : ∀ p ∈ params, IsToken p.key ∧ IsToken p.value)
    {fuel : ℕ} (hfuel : params.length < fuel) (behind : Bytes) :
    sectionParams fuel (((paramsText params).drop 1) ++ 0 :: 0 :: behind) = params := by
  induction params generalizing fuel with
  | nil =>
    obtain ⟨fuel, rfl⟩ : ∃ n, fuel = n + 1 := ⟨fuel - 1, by omega⟩
    rfl
  | cons p params ih =>
    obtain ⟨fuel, rfl⟩ : ∃ n, fuel = n + 1 := ⟨fuel - 1, by omega⟩
    obtain ⟨hkey, hvalue⟩ := h p (by simp)
    have hrest : ∀ q ∈ params, IsToken q.key ∧ IsToken q.value := fun q hq => h q (mem_cons_of_mem p hq)
    set tail := paramsText params with htail
    have htext : (paramsText (p :: params)).drop 1 ++ 0 :: 0 :: behind =
        p.key ++ 61 :: (p.value ++ (tail ++ 0 :: 0 :: behind)) := by
      simp [paramsText, LpSectionParam.text, htail]
    have hchr : strchr 61 (p.key ++ 61 :: (p.value ++ (tail ++ 0 :: 0 :: behind))) = some p.key.length :=
      strchr_append_cons fun b hb => ⟨(hkey.bytes b hb).2.2.1, (hkey.bytes b hb).2.1⟩
    have hset : (p.key ++ 61 :: (p.value ++ (tail ++ 0 :: 0 :: behind))).set p.key.length 32 =
        p.key ++ 32 :: (p.value ++ (tail ++ 0 :: 0 :: behind)) := by
      rw [set_append_right _ _ (Nat.le_refl _), Nat.sub_self, set_cons_zero]
    have hcString : cString (p.key ++ 32 :: (p.value ++ (tail ++ 0 :: 0 :: behind))) =
        p.key ++ 32 :: (p.value ++ tail) := by
      have hzero : ∀ b ∈ p.key ++ 32 :: (p.value ++ tail), b ≠ 0 := by
        intro b hb
        simp only [mem_append, mem_cons] at hb
        rcases hb with hb | rfl | hb | hb
        · exact (hkey.bytes b hb).2.1
        · decide
        · exact (hvalue.bytes b hb).2.1
        · exact (paramsText_ne_zero hrest b hb).1
      have := cString_append_zero hzero (0 :: behind)
      simpa using this
    have hscan : scanWord none (p.key ++ 32 :: (p.value ++ tail)) = some (p.key, 32 :: (p.value ++ tail)) :=
      hkey.scanWord fun b hb => by cases hb; decide
    have hscan' : scanWord none (32 :: (p.value ++ tail)) = some (p.value, tail) := by
      rw [scanWord_cons_space]
      exact hvalue.scanWord paramsText_head
    have hdrop : (p.key ++ 32 :: (p.value ++ (tail ++ 0 :: 0 :: behind))).drop (p.key.length + p.value.length + 2) =
        (tail ++ 0 :: 0 :: behind).drop 1 := by
      have hcount : p.key.length + p.value.length + 2 = p.key.length + (1 + (p.value.length + 1)) := by omega
      rw [hcount, ← drop_drop, drop_left, ← drop_drop, drop_one, tail_cons, ← drop_drop, drop_left]
    rw [htext, sectionParams, hchr]
    simp only [hset, hcString, hscan, hscan', hdrop]
    congr 1
    cases hparams : params with
    | nil =>
      rw [hparams] at htail
      simp only [htail, paramsText, flatMap_nil, nil_append, drop_one, tail_cons]
      cases fuel with
      | zero => rfl
      | succ fuel => simp [sectionParams, strchr]
    | cons q qs =>
      have hne : tail.drop 1 ++ 0 :: 0 :: behind = (tail ++ 0 :: 0 :: behind).drop 1 := by
        rw [htail, hparams]
        simp [paramsText, LpSectionParam.text]
      rw [← hne, ← hparams]
      exact ih hrest (by simpa using hfuel)

lemma length_le_paramsText (params : List LpSectionParam) : params.length ≤ (paramsText params).length := by
  induction params with
  | nil => exact Nat.le_refl 0
  | cons p params ih =>
    simp only [paramsText, flatMap_cons, length_append, length_cons, LpSectionParam.text] at ih ⊢
    omega

def withSection (name : Bytes) (sections : List LpSection) : List LpSection :=
  match findSection sections name with
  | none => sections ++ [LpSection.new name]
  | some _ => sections

variable (sections : List LpSection) (cur : Option Bytes) (behind : Bytes)

lemma parseLine_header {sec : LpSection} (h : sec.Writable) : parseLine sections ⟨sec.header, behind⟩ cur =
      (updateSection sec.name (·.addParams sec.params) (withSection sec.name sections), some sec.name) := by
  set ptext := paramsText sec.params with hptext
  have hhead : sec.header = (91 :: (sec.name ++ ptext)) ++ 93 :: [] := by simp [LpSection.header, hptext]
  have hptextBytes := paramsText_ne_zero h.params
  have hbytes : ∀ b ∈ 91 :: (sec.name ++ ptext), b ≠ 93 ∧ b ≠ 0 := by
    intro b hb
    simp only [mem_cons, mem_append] at hb
    rcases hb with rfl | hb | hb
    · decide
    · exact ⟨(h.name.bytes b hb).2.2.2.2, (h.name.bytes b hb).2.1⟩
    · exact ⟨(hptextBytes b hb).2.2, (hptextBytes b hb).1⟩
  have hopen : strchr 91 sec.header = some 0 := by simp [hhead, strchr]
  have hclose : strchr 93 (sec.header.drop 0) = some (91 :: (sec.name ++ ptext)).length := by
    rw [drop_zero, hhead]
    exact strchr_append_cons hbytes
  have hbuffer : sec.header.set (91 :: (sec.name ++ ptext)).length 0 ++ [0] ++ behind =
      91 :: (sec.name ++ (ptext ++ 0 :: 0 :: behind)) := by
    rw [hhead, set_append_right _ _ (Nat.le_refl _), Nat.sub_self, set_cons_zero]
    simp
  have hcString : cString (sec.name ++ (ptext ++ 0 :: 0 :: behind)) = sec.name ++ ptext := by
    rw [← append_assoc]
    exact cString_append_zero (fun b hb => (hbytes b (mem_cons_of_mem _ hb)).2) _
  have hscan : scanWord none (sec.name ++ ptext) = some (sec.name, ptext) := h.name.scanWord paramsText_head
  have hdrop : (91 :: (sec.name ++ (ptext ++ 0 :: 0 :: behind))).drop (0 + 1 + sec.name.length + 1) =
      (ptext ++ 0 :: 0 :: behind).drop 1 := by
    have hcount : 0 + 1 + sec.name.length + 1 = 1 + (sec.name.length + 1) := by omega
    rw [hcount, ← drop_drop, drop_one, tail_cons, ← drop_drop, drop_left]
  have hparams : (if 0 + 1 + sec.name.length < 0 + (91 :: (sec.name ++ ptext)).length then
        sectionParams (91 :: (sec.name ++ (ptext ++ 0 :: 0 :: behind))).length
          ((91 :: (sec.name ++ (ptext ++ 0 :: 0 :: behind))).drop (0 + 1 + sec.name.length + 1))
      else []) = sec.params := by
    rw [hdrop]
    cases hcases : sec.params with
    | nil =>
      rw [hcases] at hptext
      have hnil : ptext = [] := hptext
      rw [hnil, append_nil, if_neg (by simp only [length_cons]; omega)]
    | cons q qs =>
      have hpos : 0 < ptext.length := by
        rw [hptext, hcases]
        simp [paramsText, LpSectionParam.text]
      have hmove : (ptext ++ 0 :: 0 :: behind).drop 1 = ptext.drop 1 ++ 0 :: 0 :: behind :=
        drop_append_of_le_length hpos
      rw [if_pos (by simp only [length_cons, length_append]; omega), hmove, hptext,
        sectionParams_paramsText h.params ?_ behind, hcases]
      have hle := length_le_paramsText sec.params
      simp only [length_cons, length_append]
      omega
  have hfirst : isFirstChar sec.header 0 = true := rfl
  simp only [parseLine, hopen, hfirst, if_true, parseSection, hclose, Nat.zero_add, hbuffer, drop_one,
    tail_cons, hcString, hscan]
  simp only [Nat.zero_add] at hparams
  rw [hparams]
  rfl

/-! ### The other lines -/

lemma parseLine_nil : parseLine sections ⟨[], behind⟩ cur = (sections, cur) := by
  cases cur <;> rfl

/-- A line that does not start with a `[`. -/
def NotSection (l : Bytes) : Prop := ∀ pos, strchr 91 l = some pos → isFirstChar l pos = false

lemma NotSection.take {l : Bytes} (h : NotSection l) (m : ℕ) : NotSection (l.take m) := by
  intro pos hpos
  obtain ⟨-, -, hlt, -⟩ := exists_of_strchr hpos
  have hlong := strchr_append hpos (l.drop m)
  rw [take_append_drop] at hlong
  have hle : pos ≤ m := by
    rw [length_take] at hlt
    omega
  have hfirst := h pos hlong
  rwa [isFirstChar, take_take, Nat.min_eq_left hle]

lemma parseLine_of_notSection {line : Line} (h : NotSection line.text) :
    parseLine sections line cur = parseLine.parseOther sections line cur := by
  rw [parseLine]
  split
  · next pos hpos => rw [h pos hpos]; rfl
  · rfl

variable {key value : Bytes} {name : Bytes}

lemma cutLine_eq (h : ∀ b ∈ value, b ≠ 0 ∧ b ≠ 10 ∧ b ≠ 13) : cutLine value = value := by
  have hr : strchr 13 value = none := strchr_eq_none fun b hb => (h b hb).2.2
  have hn : strchr 10 value = none := strchr_eq_none fun b hb => (h b hb).2.1
  simp [cutLine, hr, hn]

lemma notSection_item (hkey : IsToken key) (value : Bytes) : NotSection (key ++ 61 :: value) := by
  intro pos hpos
  obtain ⟨b, s, rfl, hblank, hopen, -⟩ := hkey.exists_cons
  have hne : pos ≠ 0 := by
    rintro rfl
    have hget := getElem?_of_strchr hpos
    simp only [cons_append, getElem?_cons_zero, Option.some.injEq] at hget
    exact hopen hget
  obtain ⟨n, rfl⟩ := Nat.exists_eq_succ_of_ne_zero hne
  simp [isFirstChar, hblank]

lemma notSection_comment (hvalue : isAComment value = true) : NotSection value := by
  intro pos hpos
  by_contra hall
  rw [Bool.not_eq_false, isFirstChar, all_eq_true] at hall
  obtain ⟨r, heq, hlt, -⟩ := exists_of_strchr hpos
  rw [isAComment, heq, dropWhile_append_of_pos hall] at hvalue
  simp at hvalue

lemma parseLine_item (hkey : IsToken key) (hvalue : IsValue value) :
    parseLine sections ⟨key ++ 61 :: value, behind⟩ (some name) =
      (updateSection name (·.putItem key value) sections, some name) := by
  rw [parseLine_of_notSection _ _ (notSection_item hkey value)]
  have hcomment : isAComment (key ++ 61 :: value) = false := by
    obtain ⟨b, s, rfl, hblank, -, hhash⟩ := hkey.exists_cons
    simp [isAComment, hblank, hhash]
  have hchr : strchr 61 (key ++ 61 :: value) = some key.length :=
    strchr_append_cons fun b hb => ⟨(hkey.bytes b hb).2.2.1, (hkey.bytes b hb).2.1⟩
  have hscan : scanWord none key = some (key, []) := by
    have hblank : ∀ b ∈ ([] : Bytes).head?, isspace b = true := fun b hb => by cases hb
    have := hkey.scanWord hblank
    rwa [append_nil] at this
  have hdrop : (key ++ 61 :: value).drop (key.length + 1) = value := by
    rw [← drop_drop, drop_left, drop_one, tail_cons]
  have htrim : value.rdropWhile (· = 32) = value := by
    rw [rdropWhile_eq_self_iff]
    intro hne
    have hlast := hvalue.last
    rw [getLast?_eq_some_getLast hne] at hlast
    simpa using hlast
  simp only [parseLine.parseOther, hcomment, Bool.false_eq_true, if_false, hchr, parseItem, take_left, hscan,
    hdrop, cutLine_eq hvalue.bytes, htrim, ne_eq, hvalue.ne_nil, not_false_eq_true, if_true]

lemma parseLine_comment (hvalue : IsComment value) :
    parseLine sections ⟨value, behind⟩ (some name) = (updateSection name (·.putComment value) sections, some name) := by
  rw [parseLine_of_notSection _ _ (notSection_comment hvalue.hash)]
  simp only [parseLine.parseOther, hvalue.hash, if_true, cutLine_eq hvalue.bytes]

end ConfigFile
