import LinphoneSdk.LpConfig.NextLine
import LinphoneSdk.LpConfig.Sync

/-!
# The persistence of a configuration

A program opens a configuration, changes it, writes it and stops at any point. The file holds what was written before or
after, and a configuration that is not modified is the one that was last read or written, as long as no write and no
renaming fails and nothing is merged into a configuration that is not modified.
-/

namespace ConfigFile

open CString FirstMatch LpConfig

/-! ### The runs -/

/-- What the opening of a configuration meets: whether its file and its temporary file can be opened, and the text of
the factory configuration if there is one. -/
structure Opening where
  canOpen : Bool
  canOpenTmp : Bool
  factory : Option Bytes
  residue : ℕ → Bytes
  factoryResidue : ℕ → Bytes

/-- The text that `_linphone_config_init_from_files` parses: that of the file, else of the temporary file. -/
def Disk.openFile (disk : Disk) (env : Opening) : Option Bytes :=
  if disk.file.isSome ∧ env.canOpen then disk.file
  else if env.canOpenTmp then disk.tmpfile
  else none

def LpConfig.applyFactoryConfig (lpconfig : LpConfig) (env : Opening) : LpConfig :=
  match env.factory with
  | none => lpconfig
  | some factory => { lpconfig with sections := parse lpconfig.sections factory env.factoryResidue }

def LpConfig.open (disk : Disk) (env : Opening) : Option LpConfig :=
  match disk.openFile env with
  | some text => some (applyFactoryConfig ⟨parse [] text env.residue, false, false, false⟩ env)
  | none =>
    if disk.file.isSome ∨ disk.tmpfile.isSome then none
    else some (applyFactoryConfig ⟨[], false, false, false⟩ env)

def LpConfig.reload (lpconfig : LpConfig) (file : Option Bytes) (residue : ℕ → Bytes) : LpConfig :=
  match file with
  | none => { lpconfig with sections := [] }
  | some text => { lpconfig with sections := parse [] text residue }

inductive Op where
  | setString (section_ key value : Bytes)
  | cleanEntry (section_ key : Bytes)
  | cleanSection (section_ : Bytes)
  | cleanSectionSuite (sectionName : Bytes)
  | addSectionParam (section_ : Bytes) (param : LpSectionParam)
  /-- `linphone_config_read_file` of another file, if it opens. -/
  | readFile (text : Option Bytes) (residue : ℕ → Bytes)
  | simulateCrash (value : Bool)
  | sync (faults : Faults)
  /-- The program stops at a point of `linphone_config_sync`. -/
  | crash (faults : Faults) (point : SyncPoint)
  | reload (canOpen : Bool) (residue : ℕ → Bytes)
  | quit
  | open (env : Opening)

/-- A program and its files. -/
structure Program where
  lpconfig : Option LpConfig
  disk : Disk
  /-- The sections that were last read from the file or written to it. -/
  last : List LpSection

def LpConfig.Prints (lpconfig : LpConfig) (faults : Faults) : Bool :=
  !lpconfig.readonly && faults.opened && !lpconfig.abortSync

namespace Program

variable (s : Program)

def openConfig (env : Opening) : Program :=
  match LpConfig.open s.disk env with
  | none => s
  | some c => { s with
    lpconfig := some c
    last := match s.disk.file with
      | some text => if env.canOpen then parse [] text env.residue else s.last
      | none => if s.disk.tmpfile.isSome then s.last else [] }

def configStep (c : LpConfig) : Op → Program
  | .setString section_ key value => { s with lpconfig := some (c.setString section_ key value) }
  | .cleanEntry section_ key => { s with lpconfig := some (c.cleanEntry section_ key) }
  | .cleanSection section_ => { s with lpconfig := some (c.cleanSection section_) }
  | .cleanSectionSuite sectionName => { s with lpconfig := some (c.cleanSectionSuite sectionName) }
  | .addSectionParam section_ param => { s with lpconfig := some (c.addSectionParam section_ param) }
  | .readFile text residue =>
    match text with
    | none => s
    | some text => { s with lpconfig := some { c with sections := parse c.sections text residue } }
  | .simulateCrash value => { s with lpconfig := some { c with abortSync := value } }
  | .sync faults => { s with
    lpconfig := some (c.sync s.disk faults).2.1
    disk := (c.sync s.disk faults).2.2
    last :=
      if c.Prints faults ∧ faults.renamed ∧ (closedFile faults c.sections).content = content c.sections then c.sections
      else s.last }
  | .crash faults point => { s with
    lpconfig := none
    disk := if c.Prints faults then s.disk.sync faults c.sections point else s.disk }
  | .reload canOpen residue =>
    let file := if canOpen then s.disk.file else none
    { s with
      lpconfig := some (c.reload file residue)
      last := match file with
        | none => s.last
        | some text => parse [] text residue }
  | .quit => { s with lpconfig := none }
  | .open _ => s

def step (op : Op) : Program :=
  match s.lpconfig, op with
  | none, .open env => s.openConfig env
  | none, _ => s
  | some c, op => s.configStep c op

def run (ops : List Op) : Program := ops.foldl step s

end Program

/-! ### The steps that keep the configuration honest -/

/-- The condition on a step. The removal of an entry and what is merged into a configuration find it modified; a sync is
not answered by a former failure, and its writes and its renaming succeed; and the temporary file is not opened in place
of the file. -/
def Program.Good (s : Program) : Op → Prop
  | .cleanEntry section_ key => ∀ c ∈ s.lpconfig, c.modified = true ∨ c.hasEntry section_ key = false
  | .addSectionParam section_ _ => ∀ c ∈ s.lpconfig, c.modified = true ∨ findSection c.sections section_ = none
  | .readFile text _ => ∀ c ∈ s.lpconfig, c.modified = true ∨ text = none
  | .sync faults => ∀ c ∈ s.lpconfig, c.readonly = false ∧
    (c.Prints faults = true → faults.Writes ∧ faults.renamed = true)
  | .crash faults point => point = .renamed → faults.Writes ∨ faults.renamed = false
  | .reload canOpen _ => ∀ c ∈ s.lpconfig, c.modified = true ∨ canOpen = true ∧ s.disk.file.isSome
  | .open env => env.factory = none ∧
    (s.disk.file.isSome ∧ env.canOpen = true ∨ env.canOpenTmp = false ∨ s.disk.tmpfile = none)
  | _ => True

def Program.GoodRun (s : Program) : List Op → Prop
  | [] => True
  | op :: ops => s.Good op ∧ (s.step op).GoodRun ops

/-- A configuration that needs no commit is the one that was last read or written. -/
def Program.Honest (s : Program) : Prop := ∀ c ∈ s.lpconfig, c.modified = false → c.sections = s.last

lemma LpConfig.setString_cases (c : LpConfig) (section_ key value : Bytes) :
    c.setString section_ key value = c ∨ (c.setString section_ key value).modified = true := by
  unfold setString
  split
  · split <;> split_ifs <;> simp
  · split_ifs <;> simp

lemma LpConfig.cleanEntry_cases (c : LpConfig) (section_ key : Bytes) :
    (c.cleanEntry section_ key).modified = c.modified ∧
      (c.hasEntry section_ key = false → c.cleanEntry section_ key = c) := by
  unfold cleanEntry hasEntry
  split
  · split
    · next hitem => simp [hitem]
    · exact ⟨rfl, fun _ => rfl⟩
  · exact ⟨rfl, fun _ => rfl⟩

lemma LpConfig.cleanSectionSuite_cases (c : LpConfig) (sectionName : Bytes) :
    c.cleanSectionSuite sectionName = c ∨ (c.cleanSectionSuite sectionName).modified = true := by
  have hfoldl (names : List Bytes) (c : LpConfig) :
      names.foldl cleanSection c = c ∨ (names.foldl cleanSection c).modified = true := by
    induction names generalizing c with
    | nil => exact .inl rfl
    | cons name names ih =>
      rcases ih (c.cleanSection name) with heq | hmodified
      · exact .inr (by rw [List.foldl_cons, heq]; rfl)
      · exact .inr hmodified
  exact hfoldl _ c

namespace Program

variable {s : Program} {c : LpConfig}

lemma Honest.of_cases {c' : LpConfig} (h : s.Honest) (hc : s.lpconfig = some c) (hcases : c' = c ∨ c'.modified = true) :
    Honest { s with lpconfig := some c' } := by
  intro d hd hmodified
  cases hd
  rcases hcases with rfl | htrue
  · exact h c' hc hmodified
  · rw [htrue] at hmodified
    cases hmodified

/-- What is not modified keeps its sections. -/
lemma Honest.of_sections {c' : LpConfig} (h : s.Honest) (hc : s.lpconfig = some c)
    (hsections : c'.modified = false → c.modified = false ∧ c'.sections = c.sections) :
    Honest { s with lpconfig := some c' } := by
  intro d hd hmodified
  cases hd
  obtain ⟨hfalse, heq⟩ := hsections hmodified
  exact heq.trans (h c hc hfalse)

lemma Honest.openConfig (h : s.Honest) {env : Opening} (hgood : s.Good (.open env)) : (s.openConfig env).Honest := by
  obtain ⟨hfactory, hfile⟩ := hgood
  unfold Program.openConfig
  split
  · exact h
  · next c hc =>
    intro d hd hmodified
    cases hd
    simp only [LpConfig.open, LpConfig.applyFactoryConfig, hfactory] at hc
    rcases hdisk : s.disk.file with _ | text
    · have hnone : s.disk.openFile env = none := by
        rcases hfile with ⟨hsome, -⟩ | hclosed | htmp
        · rw [hdisk] at hsome; cases hsome
        · simp [Disk.openFile, hdisk, hclosed]
        · simp [Disk.openFile, hdisk, htmp]
      rw [hnone] at hc
      simp only [hdisk] at hc
      split_ifs at hc with htmp
      cases hc
      have htmp' : s.disk.tmpfile.isSome = false := by simpa using htmp
      simp [htmp']
    · by_cases hopen : env.canOpen = true
      · have hsome : s.disk.openFile env = some text := by simp [Disk.openFile, hdisk, hopen]
        rw [hsome] at hc
        cases hc
        simp [hopen]
      · have hnone : s.disk.openFile env = none := by
          rcases hfile with ⟨-, htrue⟩ | hclosed | htmp
          · exact absurd htrue hopen
          · simp [Disk.openFile, hopen, hclosed]
          · simp [Disk.openFile, hopen, htmp]
        rw [hnone] at hc
        simp [hdisk] at hc

/-- A good sync answers 0 when the file holds the sections. -/
lemma sync_honest {faults : Faults} (hc : s.lpconfig = some c) (hgood : s.Good (.sync faults)) :
    c.Prints faults = false ∧ (c.sync s.disk faults).1 = -1 ∧ (c.sync s.disk faults).2.1.sections = c.sections ∧
        (c.sync s.disk faults).2.1.modified = c.modified ∧ (c.sync s.disk faults).2.2.file = s.disk.file ∨
      c.Prints faults = true ∧ faults.Writes ∧ faults.renamed = true ∧
        c.sync s.disk faults = (0, { c with modified := false }, ⟨some (content c.sections), none⟩) := by
  obtain ⟨hreadonly, hprints⟩ := hgood c hc
  by_cases hopened : faults.opened = true
  · by_cases habort : c.abortSync = true
    · refine .inl ⟨by simp [Prints, habort], ?_⟩
      simp [sync, hreadonly, hopened, habort]
    · have habort' : c.abortSync = false := by simpa using habort
      have hprint : c.Prints faults = true := by simp [Prints, hreadonly, hopened, habort']
      obtain ⟨hwrites, hrenamed⟩ := hprints hprint
      exact .inr ⟨hprint, hwrites, hrenamed, sync_of_writes hreadonly habort' hopened hwrites hrenamed⟩
  · refine .inl ⟨by simp [Prints, hopened], ?_⟩
    simp [sync, hreadonly, hopened]

/-- A good step keeps the configuration honest. -/
lemma Honest.step (h : s.Honest) {op : Op} (hgood : s.Good op) : (s.step op).Honest := by
  unfold Program.step
  rcases hc : s.lpconfig with _ | c
  · cases op with
    | «open» env => exact h.openConfig hgood
    | _ => exact h
  · cases op with
    | setString section_ key value => exact h.of_cases hc (c.setString_cases section_ key value)
    | cleanEntry section_ key =>
      obtain ⟨hmodified, heq⟩ := c.cleanEntry_cases section_ key
      exact h.of_cases hc ((hgood c hc).symm.imp heq hmodified.trans)
    | cleanSection section_ => exact h.of_cases hc (.inr rfl)
    | cleanSectionSuite sectionName => exact h.of_cases hc (c.cleanSectionSuite_cases sectionName)
    | addSectionParam section_ param =>
      refine h.of_cases hc ?_
      rcases hgood c hc with hmodified | hnone
      · exact .inr hmodified
      · have hnot : ∀ x ∈ c.sections, decide (x.name = section_) = false := by
          intro x hx
          simpa using List.find?_eq_none.1 hnone x hx
        left
        simp only [addSectionParam, updateSection, updateFirst_of_forall_not hnot]
    | readFile text residue =>
      rcases hgood c hc with hmodified | rfl
      · cases text with
        | none => exact h
        | some text => exact h.of_cases hc (.inr hmodified)
      · exact h
    | simulateCrash value => exact h.of_sections hc fun hmodified => ⟨hmodified, rfl⟩
    | sync faults =>
      rcases sync_honest hc hgood with ⟨hprints, -, hsections, hmodified, -⟩ | ⟨hprints, hwrites, hrenamed, heq⟩
      · intro d hd hd'
        cases hd
        simp only [configStep, hprints, Bool.false_eq_true, false_and, if_false]
        rw [hmodified] at hd'
        exact hsections.trans (h c hc hd')
      · intro d hd hd'
        simp only [configStep, heq, hprints, hrenamed, content_closedFile hwrites, and_self, if_true] at hd ⊢
        cases hd
        rfl
    | crash faults point => intro d hd; cases hd
    | reload canOpen residue =>
      intro d hd hmodified
      cases hd
      rcases hgood c hc with htrue | ⟨hopen, hfile⟩
      · have hkept : (c.reload (if canOpen then s.disk.file else none) residue).modified = c.modified := by
          unfold reload
          split <;> rfl
        rw [hkept, htrue] at hmodified
        cases hmodified
      · obtain ⟨text, htext⟩ := Option.isSome_iff_exists.1 hfile
        simp [configStep, reload, hopen, htext]
    | quit => intro d hd; cases hd
    | «open» env => exact h

lemma Honest.run {s : Program} (h : s.Honest) {ops : List Op} (hgood : s.GoodRun ops) : (s.run ops).Honest := by
  induction ops generalizing s with
  | nil => exact h
  | cons op ops ih => exact ih (h.step hgood.1) hgood.2

/-- The file after a good sync, whole or not: the one before, or the text of the sections. -/
lemma file_of_sync {op : Op} (hc : s.lpconfig = some c)
    (hop : (∃ faults, op = .sync faults) ∨ ∃ faults point, op = .crash faults point) (hgood : s.Good op) :
    (s.step op).disk.file = s.disk.file ∨ (s.step op).disk.file = some (content c.sections) := by
  have hstep : s.step op = s.configStep c op := by
    unfold Program.step
    rw [hc]
  rw [hstep]
  rcases hop with ⟨faults, rfl⟩ | ⟨faults, point, rfl⟩
  · rcases sync_honest hc hgood with ⟨-, -, -, -, hfile⟩ | ⟨-, -, -, heq⟩
    · exact .inl hfile
    · exact .inr (by simp [configStep, heq])
  · simp only [configStep]
    split_ifs
    · cases point with
      | printed calls => exact .inl rfl
      | synced => exact .inl rfl
      | closed => exact .inl rfl
      | renamed =>
        rcases hgood rfl with hwrites | hrenamed
        · cases hrenamed : faults.renamed with
          | true => exact .inr (by simp [Disk.sync, hrenamed, content_closedFile hwrites])
          | false => exact .inl (by simp [Disk.sync, hrenamed])
        · exact .inl (by simp [Disk.sync, hrenamed])
    · exact .inl rfl

/-- An existing configuration that is opened as it should is the one in its file. -/
lemma open_of_good {env : Opening} {text : Bytes} (hfile : s.disk.file = some text) (hgood : s.Good (.open env)) :
    (env.canOpen = true → (LpConfig.open s.disk env).isSome) ∧
      ∀ d ∈ LpConfig.open s.disk env, d.sections = parse [] text env.residue := by
  obtain ⟨hfactory, hopen⟩ := hgood
  by_cases hcan : env.canOpen = true
  · have hsome : s.disk.openFile env = some text := by simp [Disk.openFile, hfile, hcan]
    simp [LpConfig.open, hsome, LpConfig.applyFactoryConfig, hfactory]
  · have hnone : s.disk.openFile env = none := by
      rcases hopen with ⟨-, htrue⟩ | hclosed | htmp
      · exact absurd htrue hcan
      · simp [Disk.openFile, hcan, hclosed]
      · simp [Disk.openFile, hcan, htmp]
    simp [LpConfig.open, hnone, hfile, hcan]

end Program

/-- In a run whose steps are good, a configuration that needs no commit is the one that was last read or written, a sync
that answers 0 has left the text of the sections in the file, and after a sync or a crash in it an existing
configuration opens as it was before that sync or as it should be after it. -/
theorem persistence_honest {s : Program} (hstart : s.lpconfig = none) {ops : List Op} (hgood : s.GoodRun ops) :
    (s.run ops).Honest ∧
    ∀ c ∈ (s.run ops).lpconfig, (∀ faults, (s.run ops).Good (.sync faults) → (c.sync (s.run ops).disk faults).1 = 0 →
        (c.sync (s.run ops).disk faults).2.2.file = some (content c.sections)) ∧
      ∀ op, ((∃ faults, op = .sync faults) ∨ ∃ faults point, op = .crash faults point) → (s.run ops).Good op →
        ∀ text, (s.run ops).disk.file = some text → ∀ env, ((s.run ops).step op).Good (.open env) →
          (env.canOpen = true → (LpConfig.open ((s.run ops).step op).disk env).isSome) ∧
          ∀ d ∈ LpConfig.open ((s.run ops).step op).disk env,
            d.sections = parse [] text env.residue ∨ d.sections = parse [] (content c.sections) env.residue := by
  have hhonest : s.Honest := by
    intro c hc
    rw [hstart] at hc
    cases hc
  refine ⟨hhonest.run hgood, fun c hc => ⟨fun faults hsync hzero => ?_, ?_⟩⟩
  · rcases Program.sync_honest hc hsync with ⟨-, hfailed, -⟩ | ⟨-, -, -, heq⟩
    · rw [hfailed] at hzero
      cases hzero
    · rw [heq]
  · intro op hop hopGood text htext env henv
    rcases Program.file_of_sync hc hop hopGood with hfile | hfile
    · have hopened := Program.open_of_good (hfile.trans htext) henv
      exact ⟨hopened.1, fun d hd => .inl (hopened.2 d hd)⟩
    · have hopened := Program.open_of_good hfile henv
      exact ⟨hopened.1, fun d hd => .inr (hopened.2 d hd)⟩

/-! ### A disk that is full -/

section

/-- A configuration with an item in its file. -/
def saved : Program := ⟨none, ⟨some (bytes ['[', 'a', ']', '\n', 'x', '=', '1', '\n', '\n']), none⟩, []⟩

def plainly : Opening := ⟨true, true, none, fun _ => [], fun _ => []⟩

def changes : List Op := [.open plainly, .setString (bytes ['a']) (bytes ['x']) (bytes ['2'])]

/-- No write succeeds. -/
def diskFull : Faults := ⟨true, fun _ => .failed, true⟩

lemma changes_good : saved.GoodRun changes := ⟨⟨rfl, .inl ⟨rfl, rfl⟩⟩, trivial, trivial⟩

end

theorem persistence_honest_saved : (saved.run changes).Honest := (persistence_honest rfl changes_good).1

/-- A sync without space answers 0, leaves an empty file in place of the configuration, and no commit is needed. -/
theorem sync_of_diskFull :
    ∃ c, (saved.run changes).lpconfig = some c ∧ (c.sync (saved.run changes).disk diskFull).1 = 0 ∧
      (c.sync (saved.run changes).disk diskFull).2.2.file = some [] ∧
      (c.sync (saved.run changes).disk diskFull).2.1.modified = false ∧
      c.sections = [⟨bytes ['a'], [.item (bytes ['x']) (bytes ['2'])], []⟩] ∧
      (saved.run changes).last = [⟨bytes ['a'], [.item (bytes ['x']) (bytes ['1'])], []⟩] :=
  ⟨⟨[⟨bytes ['a'], [.item (bytes ['x']) (bytes ['2'])], []⟩], true, false, false⟩, by decide, by decide, by decide,
    by decide, rfl, by decide⟩

end ConfigFile
