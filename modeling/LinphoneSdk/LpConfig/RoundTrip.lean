import LinphoneSdk.LpConfig.Reachable
import LinphoneSdk.LpConfig.Sync
import Mathlib.Algebra.GroupWithZero.Nat

/-!
# The round trip of a configuration

A configuration that is written and parsed again is the same one, unless the reader takes a byte of it for the end of
the file. Parsed once more, its items keep their values, and its sections get their parameters twice.
-/

namespace ConfigFile

open CString FirstMatch List LpSection

/-! ### The lines that are parsed -/

/-- Lines with these texts lead the parser from a state to another one, whatever the buffer holds behind them. -/
def ParsesTo (s : List LpSection × Option Bytes) (texts : List Bytes) (t : List LpSection × Option Bytes) : Prop :=
  ∀ lines : List Line, lines.map (·.text) = texts → parseLines s.1 s.2 lines = t

namespace ParsesTo

variable {s t u : List LpSection × Option Bytes} {l : Bytes} {texts texts' : List Bytes}

lemma nil : ParsesTo s [] s := by
  intro lines hlines
  rw [map_eq_nil_iff.1 hlines]
  rfl

lemma cons (hl : ∀ behind, parseLine s.1 ⟨l, behind⟩ s.2 = t) (h : ParsesTo t texts u) :
    ParsesTo s (l :: texts) u := by
  intro lines hlines
  obtain ⟨line, rest, rfl, hline, hrest⟩ := map_eq_cons_iff.1 hlines
  have hstep : parseLine s.1 line s.2 = t := by
    rw [← hl line.behind, ← hline]
  have := h rest hrest
  rwa [parseLines, foldl_cons, hstep]

lemma append (h₁ : ParsesTo s texts t) (h₂ : ParsesTo t texts' u) : ParsesTo s (texts ++ texts') u := by
  intro lines hlines
  obtain ⟨l₁, l₂, rfl, hl₁, hl₂⟩ := map_eq_append_iff.1 hlines
  have := h₂ l₂ hl₂
  rw [parseLines, foldl_append]
  rw [← h₁ l₁ hl₁] at this
  exact this

/-- Empty lines do nothing. -/
lemma filter_iff : ParsesTo s (texts.filter (· ≠ [])) t ↔ ParsesTo s texts t := by
  have hempty (s : List LpSection × Option Bytes) (behind : Bytes) : parseLine s.1 ⟨[], behind⟩ s.2 = s :=
    parseLine_nil s.1 s.2 behind
  have hfilter (lines : List Line) (s : List LpSection × Option Bytes) :
      parseLines s.1 s.2 (lines.filter (·.text ≠ [])) = parseLines s.1 s.2 lines := by
    induction lines generalizing s with
    | nil => rfl
    | cons line lines ih =>
      by_cases hline : line.text = []
      · obtain ⟨_, behind⟩ := line
        cases hline
        rw [filter_cons_of_neg (by simp), ih, parseLines, parseLines, foldl_cons, hempty]
      · rw [filter_cons_of_pos (by simpa using hline)]
        simp only [parseLines, foldl_cons]
        exact ih _
  constructor
  · intro h lines hlines
    rw [← hfilter]
    refine h _ ?_
    rw [← hlines, filter_map]
    rfl
  · intro h lines hlines
    have hreach : ∀ (texts : List Bytes) (lines : List Line), lines.map (·.text) = texts.filter (· ≠ []) →
        ∃ lines' : List Line, lines'.map (·.text) = texts ∧ lines'.filter (·.text ≠ []) = lines := by
      intro texts
      induction texts with
      | nil => intro lines hlines; exact ⟨[], rfl, by simpa using hlines.symm⟩
      | cons l texts ih =>
        intro lines hlines
        by_cases hl : l = []
        · rw [filter_cons_of_neg (by simp [hl])] at hlines
          obtain ⟨lines', hmap, hfilter'⟩ := ih lines hlines
          exact ⟨⟨[], []⟩ :: lines', by simp [hmap, hl], by simpa using hfilter'⟩
        · rw [filter_cons_of_pos (by simpa using hl)] at hlines
          obtain ⟨line, rest, rfl, hline, hrest⟩ := map_eq_cons_iff.1 hlines
          obtain ⟨lines', hmap, hfilter'⟩ := ih rest hrest
          refine ⟨line :: lines', by simp [hmap, hline], ?_⟩
          rw [filter_cons_of_pos (by simpa [hline] using hl), hfilter']
    obtain ⟨lines', hmap, hfilter'⟩ := hreach texts lines hlines
    rw [← hfilter', hfilter]
    exact h lines' hmap

end ParsesTo

/-! ### The first time -/

section

variable {done : List LpSection} {name : Bytes} {items its : List LpItem} {params : List LpSectionParam}

lemma updateSection_last (hdone : ∀ s ∈ done, s.name ≠ name) (f : LpSection → LpSection) {sec : LpSection}
    (hsec : sec.name = name) : updateSection name f (done ++ [sec]) = done ++ [f sec] :=
  updateFirst_append_cons (fun s hs => by simpa using hdone s hs) (by simpa using hsec)

/-- The items of a section are appended one after the other. -/
lemma parsesTo_items (hdone : ∀ s ∈ done, s.name ≠ name) (hitems : ∀ i ∈ items, i.Writable)
    (hmarks : ((its ++ items).map (·.mark)).Nodup) :
    ParsesTo (done ++ [⟨name, its, params⟩], some name) (items.map (·.line))
      (done ++ [⟨name, its ++ items, params⟩], some name) := by
  induction items generalizing its with
  | nil => simpa using ParsesTo.nil
  | cons i items ih =>
    have hi := hitems i (by simp)
    have hrest : ∀ j ∈ items, j.Writable := fun j hj => hitems j (mem_cons_of_mem i hj)
    have hmarks' : ((its ++ [i] ++ items).map (·.mark)).Nodup := by simpa using hmarks
    have hnew : i.mark ∉ its.map (·.mark) := by
      rw [map_append, nodup_append] at hmarks
      exact fun hmem => hmarks.2.2 _ hmem _ (by simp) rfl
    have hstep : ∀ behind, parseLine (done ++ [⟨name, its, params⟩]) ⟨i.line, behind⟩ (some name) =
        (done ++ [⟨name, its ++ [i], params⟩], some name) := by
      intro behind
      cases i with
      | item key value =>
        rw [LpItem.line, parseLine_item _ _ hi.1 hi.2, updateSection_last hdone _ rfl]
        have hnone : findItem ⟨name, its, params⟩ key = none := findItem_eq_none.2 hnew
        simp only [putItem, hnone]
        rfl
      | comment value =>
        rw [LpItem.line, parseLine_comment _ _ hi, updateSection_last hdone _ rfl]
        have hnot : LpItem.comment value ∉ its := fun hmem => hnew (mem_map_of_mem hmem)
        rw [putComment, erase_of_not_mem hnot]
    have hnext := ih hrest hmarks'
    rw [append_assoc] at hnext
    exact ParsesTo.cons hstep hnext

/-- The lines of a new section give that section. -/
lemma parsesTo_section {sec : LpSection} (hsec : sec.Writable) (hwell : sec.WellFormed)
    (hdone : ∀ s ∈ done, s.name ≠ sec.name) (cur : Option Bytes) :
    ParsesTo (done, cur) sec.lines (done ++ [sec], some sec.name) := by
  have hnew : findSection done sec.name = none := by
    rw [findSection_eq_none]
    rintro hmem
    obtain ⟨s, hs, heq⟩ := mem_map.1 hmem
    exact hdone s hs heq
  refine ParsesTo.cons (t := (done ++ [⟨sec.name, [], sec.params⟩], some sec.name)) (fun behind => ?_) ?_
  · have hlast : updateSection sec.name (·.addParams sec.params) (done ++ [new sec.name]) =
        done ++ [(new sec.name).addParams sec.params] := updateSection_last hdone _ rfl
    rw [parseLine_header _ _ _ hsec, withSection, hnew]
    simp only [hlast]
    rfl
  · refine ParsesTo.append (parsesTo_items hdone hsec.items (by simpa using hwell.marks)) ?_
    exact ParsesTo.cons (fun behind => parseLine_nil _ _ _) ParsesTo.nil

/-- A text that is parsed into an empty configuration gives its sections. -/
lemma parsesTo_sections (done : List LpSection) {sections : List LpSection} (hsections : ∀ sec ∈ sections, sec.Writable)
    (hwell : WellFormed (done ++ sections)) (cur : Option Bytes) :
    ∃ cur', ParsesTo (done, cur) (sections.flatMap (·.lines)) (done ++ sections, cur') := by
  induction sections generalizing done cur with
  | nil => exact ⟨cur, by simpa using ParsesTo.nil⟩
  | cons sec sections ih =>
    have hdone : ∀ s ∈ done, s.name ≠ sec.name := by
      intro s hs heq
      have hnames := hwell.names
      rw [map_append, nodup_append] at hnames
      exact hnames.2.2 _ (mem_map_of_mem hs) _ (by simp) heq
    have hfirst := parsesTo_section (hsections sec (by simp)) (hwell.sections sec (by simp)) hdone cur
    obtain ⟨cur', hrest⟩ := ih (done ++ [sec]) (fun s hs => hsections s (mem_cons_of_mem sec hs))
      (by simpa using hwell) (some sec.name)
    rw [append_assoc] at hrest
    exact ⟨cur', hfirst.append hrest⟩

end

/-! ### The second time -/

def LpSection.pairs (sec : LpSection) : List LpItem := sec.items.filter (!·.isComment)

def values (sections : List LpSection) : List (Bytes × List LpSectionParam × List LpItem) :=
  sections.map fun sec => (sec.name, sec.params, sec.pairs)

def paramCount (sections : List LpSection) : ℕ := (sections.map (·.params.length)).sum

/-- What the parser makes of lines that it had parsed: `n` parameters come again. -/
structure Again (s t : List LpSection) (n : ℕ) : Prop where
  pairs : t.map (fun sec => (sec.name, sec.pairs)) = s.map fun sec => (sec.name, sec.pairs)
  params : n = 0 → t.map (·.params) = s.map (·.params)
  count : paramCount t = paramCount s + n

namespace Again

variable {s t u : List LpSection} {n m : ℕ}

lemma refl (s : List LpSection) : Again s s 0 := ⟨rfl, fun _ => rfl, rfl⟩

lemma trans (h₁ : Again s t n) (h₂ : Again t u m) : Again s u (n + m) where
  pairs := h₂.pairs.trans h₁.pairs
  params h := (h₂.params (by omega)).trans (h₁.params (by omega))
  count := by rw [h₂.count, h₁.count, Nat.add_assoc]

/-- The values are the same when no parameter comes again, and only then. -/
lemma values_iff (h : Again s t n) : values t = values s ↔ n = 0 := by
  constructor
  · intro hvalues
    have hparams : t.map (·.params) = s.map (·.params) := by
      have := congrArg (map fun v : Bytes × List LpSectionParam × List LpItem => v.2.1) hvalues
      simpa [values, Function.comp_def] using this
    have hcount : paramCount t = paramCount s := by
      have := congrArg (fun ps => (ps.map length).sum) hparams
      simpa [paramCount, Function.comp_def] using this
    have := h.count
    omega
  · intro hzero
    have hpairs := h.pairs
    have hparams := h.params hzero
    have hlength : t.length = s.length := by simpa using congrArg length hparams
    refine ext_getElem (by simpa [values] using hlength) fun i hi hi' => ?_
    simp only [values, length_map] at hi hi'
    have hp := congrArg (·[i]?) hparams
    have hq := congrArg (·[i]?) hpairs
    simp only [getElem?_map, getElem?_eq_getElem hi, getElem?_eq_getElem hi', Option.map_some,
      Option.some.injEq, Prod.mk.injEq] at hp hq
    simp [values, hp, hq]

end Again

def Holds (s : List LpSection) (sec : LpSection) : Prop :=
  ∃ t, findSection s sec.name = some t ∧ ∀ key value, .item key value ∈ sec.items →
    t.findItem key = some (.item key value)

section

variable {s : List LpSection} {sec : LpSection} {name : Bytes} {f : LpSection → LpSection}

lemma LpSection.findItem_eq_pairs (sec : LpSection) (key : Bytes) :
    sec.findItem key = sec.pairs.find? (·.hasKey key) := by
  rw [pairs, find?_filter, findItem]
  congr 1
  funext i
  cases i <;> simp [LpItem.hasKey, LpItem.isComment]

lemma LpSection.pairs_putComment (sec : LpSection) (value : Bytes) : (sec.putComment value).pairs = sec.pairs := by
  have herase (items : List LpItem) : (items.erase (.comment value)).filter (!·.isComment) =
      items.filter (!·.isComment) := by
    induction items with
    | nil => rfl
    | cons i items ih =>
      by_cases hi : i = .comment value
      · subst hi
        rw [erase_cons_head]
        rfl
      · rw [erase_cons_tail (by simpa using hi), filter_cons, filter_cons, ih]
  rw [pairs, putComment, filter_append, herase]
  simp [LpItem.isComment, pairs]

lemma findSection_updateSection (hf : ∀ t, (f t).name = t.name) (n : Bytes) :
    findSection (updateSection name f s) n = (findSection s n).map fun t => if n = name then f t else t := by
  induction s with
  | nil => rfl
  | cons t s ih =>
    simp only [updateSection, updateFirst, findSection] at ih ⊢
    by_cases ht : t.name = name
    · by_cases hn : t.name = n
      · simp [ht, hf, hn.symm.trans ht]
      · have hne : n ≠ name := fun h => hn (ht.trans h.symm)
        have hn' : ¬ name = n := fun h => hne h.symm
        simp [ht, hf, hn', hne]
    · simp only [ht, decide_false, Bool.false_eq_true, if_false]
      by_cases hn : t.name = n
      · have hne : ¬ n = name := fun h => ht (hn.trans h)
        simp [hn, hne]
      · rw [find?_cons_of_neg (by simpa using hn), find?_cons_of_neg (by simpa using hn)]
        exact ih

/-- A change that keeps the items keeps what is there. -/
lemma Holds.updateSection (h : Holds s sec) (hname : ∀ t, (f t).name = t.name) (hpairs : ∀ t, (f t).pairs = t.pairs) :
    Holds (updateSection name f s) sec := by
  obtain ⟨t, ht, hitems⟩ := h
  refine ⟨if sec.name = name then f t else t, ?_, ?_⟩
  · rw [findSection_updateSection hname, ht]
    rfl
  · intro key value hmem
    have hfind := hitems key value hmem
    rw [findItem_eq_pairs] at hfind ⊢
    split_ifs
    · rw [hpairs]
      exact hfind
    · exact hfind

/-- A change that keeps the items and the parameters. -/
lemma Again.of_update (hname : ∀ t, (f t).name = t.name) (hpairs : ∀ t, (f t).pairs = t.pairs)
    (hparams : ∀ t, (f t).params = t.params) : Again s (updateSection name f s) 0 where
  pairs := map_updateFirst (fun t => by rw [hname, hpairs]) s
  params _ := map_updateFirst hparams s
  count := by
    rw [paramCount, updateSection, map_updateFirst fun t => by rw [hparams]]
    rfl

lemma Again.addParams {t : LpSection} (ht : findSection s name = some t) (params : List LpSectionParam) :
    Again s (updateSection name (·.addParams params) s) params.length where
  pairs := map_updateFirst (f := fun t : LpSection => t.addParams params) (fun _ => rfl) s
  params hzero := by
    have hnil : params = [] := eq_nil_of_length_eq_zero hzero
    exact map_updateFirst (fun t => by simp [LpSection.addParams, hnil]) s
  count := by
    induction s with
    | nil => cases ht
    | cons x s ih =>
      simp only [updateSection, updateFirst, findSection] at ht ih ⊢
      by_cases hx : x.name = name
      · simp only [hx, decide_true, if_true, paramCount, map_cons, sum_cons, LpSection.addParams, length_append]
        omega
      · rw [find?_cons_of_neg (by simpa using hx)] at ht
        have := ih ht
        simp only [hx, decide_false, Bool.false_eq_true, if_false, paramCount, map_cons, sum_cons] at this ⊢
        omega

lemma updateSection_putItem {t : LpSection} {key value : Bytes} (ht : findSection s name = some t)
    (hitem : t.findItem key = some (.item key value)) : updateSection name (·.putItem key value) s = s := by
  have hput : t.putItem key value = t := by
    have hset (items : List LpItem) (h : items.find? (·.hasKey key) = some (.item key value)) :
        updateFirst (·.hasKey key) (·.setValue value) items = items := by
      induction items with
      | nil => rfl
      | cons i items ih =>
        simp only [updateFirst]
        by_cases hi : i.hasKey key = true
        · rw [find?_cons_of_pos hi] at h
          cases h
          rw [if_pos hi]
          rfl
        · rw [find?_cons_of_neg hi] at h
          rw [if_neg hi, ih h]
    simp only [putItem, hitem, setItem]
    rw [hset t.items hitem]
  induction s with
  | nil => rfl
  | cons x s ih =>
    simp only [updateSection, updateFirst, findSection] at ht ih ⊢
    by_cases hx : x.name = name
    · rw [find?_cons_of_pos (by simpa using hx)] at ht
      cases ht
      simp [hx, hput]
    · rw [find?_cons_of_neg (by simpa using hx)] at ht
      simp [hx, ih ht]

end

section

variable {s : List LpSection} {sec : LpSection}

/-- The items of a section that is there. -/
lemma parsesTo_items_again {items : List LpItem} (hitems : ∀ i ∈ items, i.Writable) (hsub : ∀ i ∈ items, i ∈ sec.items)
    (hholds : Holds s sec) : ∃ t, ParsesTo (s, some sec.name) (items.map (·.line)) (t, some sec.name) ∧ Again s t 0 ∧
      ∀ sec', Holds s sec' → Holds t sec' := by
  induction items generalizing s with
  | nil => exact ⟨s, ParsesTo.nil, Again.refl s, fun _ h => h⟩
  | cons i items ih =>
    have hrest : ∀ j ∈ items, j.Writable := fun j hj => hitems j (mem_cons_of_mem i hj)
    have hsub' : ∀ j ∈ items, j ∈ sec.items := fun j hj => hsub j (mem_cons_of_mem i hj)
    have hstep : ∃ t, (∀ behind, parseLine s ⟨i.line, behind⟩ (some sec.name) = (t, some sec.name)) ∧ Again s t 0 ∧
        ∀ sec', Holds s sec' → Holds t sec' := by
      have hi := hitems i (by simp)
      cases i with
      | item key value =>
        obtain ⟨t, ht, hfound⟩ := hholds
        have heq := updateSection_putItem ht (hfound key value (hsub _ (by simp)))
        refine ⟨s, fun behind => ?_, Again.refl s, fun _ h => h⟩
        rw [LpItem.line, parseLine_item _ _ hi.1 hi.2, heq]
      | comment value =>
        exact ⟨_, fun behind => parseLine_comment _ _ hi,
          Again.of_update (fun _ => rfl) (fun t => t.pairs_putComment value) fun _ => rfl,
          fun _ h => h.updateSection (fun _ => rfl) fun t => t.pairs_putComment value⟩
    obtain ⟨t, hparse, hagain, hkeeps⟩ := hstep
    obtain ⟨u, hparse', hagain', hkeeps'⟩ := ih hrest hsub' (hkeeps sec hholds)
    exact ⟨u, ParsesTo.cons hparse hparse', hagain.trans hagain', fun sec' h => hkeeps' sec' (hkeeps sec' h)⟩

lemma parsesTo_section_again (hsec : sec.Writable) (hholds : Holds s sec) (cur : Option Bytes) :
    ∃ t, ParsesTo (s, cur) sec.lines (t, some sec.name) ∧ Again s t sec.params.length ∧
      ∀ sec', Holds s sec' → Holds t sec' := by
  have ⟨x, hx, _⟩ := hholds
  have hkeeps : ∀ sec', Holds s sec' → Holds (updateSection sec.name (·.addParams sec.params) s) sec' :=
    fun _ h => h.updateSection (fun _ => rfl) fun _ => rfl
  obtain ⟨t, hparse, hagain, hkeeps'⟩ :=
    parsesTo_items_again hsec.items (fun _ hi => hi) (hkeeps sec hholds)
  refine ⟨t, ?_, (Again.addParams hx sec.params).trans hagain, fun sec' h => hkeeps' sec' (hkeeps sec' h)⟩
  have hheader : ∀ behind, parseLine s ⟨sec.header, behind⟩ cur =
      (updateSection sec.name (·.addParams sec.params) s, some sec.name) := by
    intro behind
    rw [parseLine_header _ _ _ hsec, withSection, hx]
  exact ParsesTo.cons hheader (hparse.append (ParsesTo.cons (fun behind => parseLine_nil _ _ _) ParsesTo.nil))

/-- A text that is parsed into sections which hold its own. -/
lemma parsesTo_sections_again {sections : List LpSection} (hsections : ∀ sec ∈ sections, sec.Writable)
    (hholds : ∀ sec ∈ sections, Holds s sec) (cur : Option Bytes) :
    ∃ t cur', ParsesTo (s, cur) (sections.flatMap (·.lines)) (t, cur') ∧ Again s t (paramCount sections) := by
  induction sections generalizing s cur with
  | nil => exact ⟨s, cur, ParsesTo.nil, Again.refl s⟩
  | cons sec sections ih =>
    obtain ⟨t, hparse, hagain, hkeeps⟩ := parsesTo_section_again (hsections sec (by simp)) (hholds sec (by simp)) cur
    obtain ⟨u, cur', hparse', hagain'⟩ := ih (fun x hx => hsections x (mem_cons_of_mem sec hx))
      (fun x hx => hkeeps x (hholds x (mem_cons_of_mem sec hx))) (some sec.name)
    refine ⟨u, cur', hparse.append hparse', ?_⟩
    have := hagain.trans hagain'
    simpa [paramCount] using this

lemma holds_self {sections : List LpSection} (hwell : WellFormed sections) (hsec : sec ∈ sections) :
    Holds sections sec := by
  obtain ⟨l, r, heq, hl, -⟩ := exists_split hwell.names hsec
  refine ⟨sec, ?_, ?_⟩
  · rw [findSection, heq]
    exact find?_append_cons (fun x hx => by simpa using hl x hx) (by simp)
  · intro key value hmem
    obtain ⟨il, ir, hitems, hil, -⟩ := exists_split (hwell.sections sec hsec).marks hmem
    rw [findItem, hitems]
    refine find?_append_cons (fun i hi => ?_) (by simp [LpItem.hasKey])
    by_contra hkey
    rw [Bool.not_eq_false, LpItem.hasKey_iff] at hkey
    exact hil i hi hkey

end

end ConfigFile
