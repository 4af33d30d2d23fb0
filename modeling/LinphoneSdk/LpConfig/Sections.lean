import LinphoneSdk.Lib.CString
import LinphoneSdk.Lib.FirstMatch
import Mathlib.Data.List.DropRight

/-!
# Configurations

The sections of a configuration with their items, comments and parameters, the operations that change them, the text
that is written for them, and how a line of such a text is parsed.
-/

namespace ConfigFile

open CString FirstMatch

inductive LpItem where
  | item (key value : Bytes)
  | comment (value : Bytes)
  deriving DecidableEq

structure LpSectionParam where
  key : Bytes
  value : Bytes
  deriving DecidableEq

structure LpSection where
  name : Bytes
  items : List LpItem
  params : List LpSectionParam
  deriving DecidableEq

/-- A configuration. The sections stand in a list, and `modified` is what `linphone_config_needs_commit` answers. -/
structure LpConfig where
  sections : List LpSection
  modified : Bool
  readonly : Bool
  abortSync : Bool
  deriving DecidableEq

/-! ### The sections -/

def LpItem.isComment : LpItem → Bool
  | item _ _ => false
  | comment _ => true

def LpItem.hasKey (key : Bytes) : LpItem → Bool
  | item k _ => k = key
  | comment _ => false

def LpItem.setValue (value : Bytes) : LpItem → LpItem
  | item k _ => item k value
  | comment v => comment v

def LpItem.value : LpItem → Bytes
  | item _ v => v
  | comment v => v

namespace LpSection

variable (sec : LpSection)

def new (name : Bytes) : LpSection := ⟨name, [], []⟩

def findItem (key : Bytes) : Option LpItem := sec.items.find? (·.hasKey key)

def addItem (item : LpItem) : LpSection := { sec with items := sec.items ++ [item] }

def removeItem (key : Bytes) : LpSection := { sec with items := sec.items.eraseP (·.hasKey key) }

def setItem (key value : Bytes) : LpSection :=
  { sec with items := updateFirst (·.hasKey key) (·.setValue value) sec.items }

/-- An item that is parsed: its value replaces that of the item with the same key. -/
def putItem (key value : Bytes) : LpSection :=
  match sec.findItem key with
  | none => sec.addItem (.item key value)
  | some _ => sec.setItem key value

/-- A comment that is parsed: it comes last, and once. -/
def putComment (value : Bytes) : LpSection :=
  { sec with items := sec.items.erase (.comment value) ++ [.comment value] }

def addParams (params : List LpSectionParam) : LpSection := { sec with params := sec.params ++ params }

end LpSection

def findSection (sections : List LpSection) (name : Bytes) : Option LpSection := sections.find? (·.name = name)

def updateSection (name : Bytes) (f : LpSection → LpSection) (sections : List LpSection) : List LpSection :=
  updateFirst (·.name = name) f sections

/-! ### The changes -/

namespace LpConfig

variable (lpconfig : LpConfig)

def setString (section_ key value : Bytes) : LpConfig :=
  match findSection lpconfig.sections section_ with
  | some sec =>
    match sec.findItem key with
    | some item =>
      if value ≠ [] then
        if value = item.value then lpconfig
        else { lpconfig with
          sections := updateSection section_ (·.setItem key value) lpconfig.sections, modified := true }
      else { lpconfig with
        sections := updateSection section_ (·.removeItem key) lpconfig.sections, modified := true }
    | none =>
      if value ≠ [] then { lpconfig with
        sections := updateSection section_ (·.addItem (.item key value)) lpconfig.sections, modified := true }
      else { lpconfig with modified := true }
  | none =>
    if value ≠ [] then { lpconfig with
      sections := lpconfig.sections ++ [(LpSection.new section_).addItem (.item key value)], modified := true }
    else { lpconfig with modified := true }

def hasEntry (section_ key : Bytes) : Bool :=
  match findSection lpconfig.sections section_ with
  | some sec => (sec.findItem key).isSome
  | none => false

/-- The configuration does not become one that needs a commit. -/
def cleanEntry (section_ key : Bytes) : LpConfig :=
  match findSection lpconfig.sections section_ with
  | some sec =>
    match sec.findItem key with
    | some _ => { lpconfig with sections := updateSection section_ (·.removeItem key) lpconfig.sections }
    | none => lpconfig
  | none => lpconfig

/-- The sections are those of `setString` without a value. -/
lemma sections_cleanEntry (section_ key : Bytes) :
    (lpconfig.cleanEntry section_ key).sections = (lpconfig.setString section_ key []).sections := by
  rw [cleanEntry, setString]
  cases findSection lpconfig.sections section_ with
  | none => rfl
  | some sec =>
    dsimp only
    cases sec.findItem key <;> rfl

def cleanSection (section_ : Bytes) : LpConfig :=
  { lpconfig with sections := lpconfig.sections.eraseP (·.name = section_), modified := true }

/-- The section is one of a suite: its name is that of the suite, `_` and a number. -/
def inSuite (sectionName name : Bytes) : Bool :=
  sectionName <+: name && (name.drop sectionName.length).head? = some 95 &&
    ((name.drop (sectionName.length + 1)).head?.map isdigit).getD false

def cleanSectionSuite (sectionName : Bytes) : LpConfig :=
  ((lpconfig.sections.map (·.name)).filter (inSuite sectionName)).foldl cleanSection lpconfig

def addSectionParam (section_ : Bytes) (param : LpSectionParam) : LpConfig :=
  { lpconfig with sections := updateSection section_ (·.addParams [param]) lpconfig.sections }

end LpConfig

/-! ### The lines -/

/-- The string before the first carriage return, else before the first line feed. -/
def cutLine (s : Bytes) : Bytes :=
  match strchr 13 s with
  | some p => s.take p
  | none =>
    match strchr 10 s with
    | some p => s.take p
    | none => s

def isFirstChar (line : Bytes) (pos : ℕ) : Bool := (line.take pos).all (· = 32)

def isAComment (line : Bytes) : Bool := (line.dropWhile (· = 32)).head? = some 35

/-- The parameters of a section, from the byte behind its name on. The buffer goes on behind the `]`, that was replaced
by a 0. -/
def sectionParams : ℕ → Bytes → List LpSectionParam
  | 0, _ => []
  | n + 1, pos2 =>
    match strchr 61 pos2 with
    | none => []
    | some pos1 =>
      let pos2 := pos2.set pos1 32
      match scanWord none (cString pos2) with
      | none => []
      | some (key, rest) =>
        match scanWord none rest with
        | none => []
        | some (value, _) => ⟨key, value⟩ :: sectionParams n (pos2.drop (key.length + value.length + 2))

/-- A line, and what the buffer holds behind its end. -/
structure Line where
  text : Bytes
  behind : Bytes

variable (sections : List LpSection) (line : Line) (cur : Option Bytes)

def parseSection (pos1 : ℕ) : List LpSection × Option Bytes :=
  match strchr 93 (line.text.drop pos1) with
  | none => (sections, cur)
  | some n =>
    let pos2 := pos1 + n
    let buffer := line.text.set pos2 0 ++ [0] ++ line.behind
    match scanWord none (cString (buffer.drop (pos1 + 1))) with
    | none => (sections, cur)
    | some (secname, _) =>
      let sections := match findSection sections secname with
        | none => sections ++ [LpSection.new secname]
        | some _ => sections
      let params :=
        if pos1 + 1 + secname.length < pos2 then
          sectionParams buffer.length (buffer.drop (pos1 + 1 + secname.length + 1))
        else []
      (updateSection secname (·.addParams params) sections, some secname)

def parseItem (pos1 : ℕ) : List LpSection :=
  match scanWord none (line.text.take pos1) with
  | none => sections
  | some (key, _) =>
    let value := (cutLine (line.text.drop (pos1 + 1))).rdropWhile (· = 32)
    match cur with
    | none => sections
    | some name => if value ≠ [] then updateSection name (·.putItem key value) sections else sections

/-- The current section is known by its name. -/
def parseLine : List LpSection × Option Bytes :=
  match strchr 91 line.text with
  | some pos1 => if isFirstChar line.text pos1 then parseSection sections line cur pos1 else parseOther
  | none => parseOther
where
  parseOther : List LpSection × Option Bytes :=
    if isAComment line.text then
      match cur with
      | none => (sections, cur)
      | some name => (updateSection name (·.putComment (cutLine line.text)) sections, cur)
    else
      match strchr 61 line.text with
      | none => (sections, cur)
      | some pos1 => (parseItem sections line cur pos1, cur)

/-- The lines of a text, one after the other. -/
def parseLines (lines : List Line) : List LpSection × Option Bytes :=
  lines.foldl (fun s line => parseLine s.1 line s.2) (sections, cur)

/-! ### The text -/

def LpItem.write : LpItem → List Bytes
  | comment value => [value ++ [10]]
  | item key value => if value ≠ [] then [key ++ [61] ++ value ++ [10]] else []

def LpSectionParam.write (param : LpSectionParam) : List Bytes :=
  if param.value ≠ [] then [[32] ++ param.key ++ [61] ++ param.value] else []

def LpSection.write (sec : LpSection) : List Bytes :=
  [[91] ++ sec.name] ++ sec.params.flatMap (·.write) ++ [[93, 10]] ++ sec.items.flatMap (·.write) ++ [[10]]

def writeCalls : List Bytes := sections.flatMap (·.write)

def content : Bytes := (writeCalls sections).flatten

end ConfigFile
