import LinphoneSdk.Lib.CString
import LinphoneSdk.Lib.Exec
import Mathlib.Data.List.Induction
import Mathlib.Algebra.GroupWithZero.Nat

/-!
# Hostile multipart bodies

`belle_sip_multipart_body_handler_parse_final` with every byte that it reads and writes. The parts are kept as ranges
of the buffer. What a header line is parsed to matters for its length only: `headerLength line` is the length of the
header when it is written again, `none` when the line is no header.
-/

namespace BelleSip.MultipartBounds

open CString Exec List Nat

/-! ### The handler -/

structure Range where
  start : ℕ
  length : ℕ
  deriving DecidableEq, Repr

structure HeaderLine where
  line : Range
  length : ℕ
  deriving DecidableEq, Repr

structure MemoryPart where
  headers : List HeaderLine
  body : Range
  deriving DecidableEq, Repr

/-- The boundary is a C string. The buffer is `NULL`, without a byte, until a chunk is received. -/
structure Handler where
  boundary : Bytes
  zero_notMem_boundary : 0 ∉ boundary
  buffer : Bytes := []
  transferedSize : ℕ := 0
  expectedSize : ℕ
  parts : List MemoryPart := []

namespace Handler

def dashBoundary (m : Handler) : Bytes := bytes ['-', '-'] ++ m.boundary

/-- The chunk is copied behind the bytes received before, with a 0 behind it. -/
def recvChunk (m : Handler) (chunk : Bytes) : Handler :=
  { m with
    buffer := m.buffer.take m.transferedSize ++ chunk ++ [0]
    transferedSize := m.transferedSize + chunk.length }

/-- The length of the headers of a part when they are written, with the blank line behind them. -/
def headerStringLength (headers : List HeaderLine) : ℕ :=
  if headers = [] then 0 else (headers.map fun h => h.length + 2).sum + 2

def addPart (m : Handler) (part : MemoryPart) : Handler :=
  { m with
    expectedSize := m.expectedSize + (if m.parts = [] then 0 else 2) + (part.body.length + m.boundary.length + 4) +
      headerStringLength part.headers
    parts := m.parts ++ [part] }

end Handler

/-! ### Parsing -/

/-- How the routine ends before its last statement. -/
inductive Exit where
  | returned
  | outOfBounds
  | outOfTurns
  deriving DecidableEq, Repr

abbrev Parser (α : Type) : Type := EStateM Exit Handler α

/-- The string at the cursor: the bytes of the buffer from there on, which must hold its end. -/
def stringAt (cursor : ℕ) : Parser Bytes := do
  let m ← get
  if 0 ∈ m.buffer.drop cursor then pure (m.buffer.drop cursor) else throw .outOfBounds

def byteAt (i : ℕ) : Parser UInt8 := do
  let m ← get
  match m.buffer[i]? with
  | some b => pure b
  | none => throw .outOfBounds

def cut (i : ℕ) : Parser Unit := do
  let m ← get
  if i < m.buffer.length then set { m with buffer := m.buffer.set i 0 } else throw .outOfBounds

/-- A well formed delimiter begins with a line end. -/
def crlfBefore (delimiter : ℕ) : Parser Bool := do
  let lf ← byteAt (delimiter - 1)
  if lf = 10 then
    let cr ← byteAt (delimiter - 2)
    pure (cr = 13)
  else pure false

section parser

variable (headerLength : Bytes → Option ℕ)

/-- The headers up to the blank line at `endHeaders`: each line is ended by a 0. -/
def parseHeaders (endHeaders : ℕ) : ℕ → ℕ → Parser (List HeaderLine)
  | 0, _ => throw .outOfTurns
  | turns + 1, cursor => do
    let text ← stringAt cursor
    match strstr crlf text with
    | none => throw .outOfBounds
    | some n =>
      let endHeader := cursor + n
      cut endHeader
      let line ← stringAt cursor
      let header := (headerLength (cString line)).map fun length => ⟨⟨cursor, (cString line).length⟩, length⟩
      if endHeader = endHeaders then pure header.toList
      else
        let headers ← parseHeaders endHeaders turns (endHeader + 2)
        pure (header.toList ++ headers)

def parsePart (cursor : ℕ) : Parser MemoryPart := do
  let text ← stringAt cursor
  match strstr (crlf ++ crlf) text with
  | none => pure ⟨[], ⟨cursor, (cString text).length⟩⟩
  | some n =>
    let beginBody := cursor + n + 4
    let body ← stringAt beginBody
    let headers ← parseHeaders headerLength (cursor + n) text.length cursor
    pure ⟨headers, ⟨beginBody, (cString body).length⟩⟩

/-- The part between the delimiter that ends at the cursor and the next one; the end of this one. -/
def parseNext (cursor : ℕ) : Parser ℕ := do
  let m ← get
  let text ← stringAt cursor
  if ¬ crlf <+: text then throw .returned
  let cursor := cursor + 2
  let text ← stringAt cursor
  match strstr m.dashBoundary text with
  | none => throw .returned
  | some n =>
    let delimiter := cursor + n
    let delimiterContainsCrlf ← crlfBefore delimiter
    let endPart := if delimiterContainsCrlf then delimiter - 2 else delimiter
    cut endPart
    let part ← parsePart headerLength cursor
    modify (·.addPart part)
    pure (endPart + m.dashBoundary.length + if delimiterContainsCrlf then 2 else 0)

/-- The loop over the parts, from the end of a delimiter on. -/
def parseParts : ℕ → ℕ → Parser Unit
  | 0, _ => throw .outOfTurns
  | turns + 1, cursor => do
    let cursor ← parseNext headerLength cursor
    let text ← stringAt cursor
    if bytes ['-', '-'] ++ crlf <+: text then pure () else parseParts turns cursor

def parse_final : Parser Unit := do
  let m ← get
  let expectedSize := m.expectedSize
  let text ← stringAt 0
  let cursor := if crlf <+: text then 2 else 0
  let text ← stringAt cursor
  if ¬ m.dashBoundary <+: text then throw .returned
  parseParts headerLength m.buffer.length (cursor + m.dashBoundary.length)
  modify fun m => { m with expectedSize := expectedSize }

end parser

section wp

variable {m : Handler} {E : Exit → Handler → Prop}

lemma wp_stringAt (i : ℕ) {Q : Bytes → Handler → Prop} : wp (stringAt i) Q E m ↔
      (0 ∈ m.buffer.drop i → Q (m.buffer.drop i) m) ∧ (0 ∉ m.buffer.drop i → E .outOfBounds m) := by
  rw [stringAt, wp_bind, wp_get, wp_ite]
  rfl

lemma wp_byteAt (i : ℕ) {Q : UInt8 → Handler → Prop} :
    wp (byteAt i) Q E m ↔ (∀ b, m.buffer[i]? = some b → Q b m) ∧ (m.buffer[i]? = none → E .outOfBounds m) := by
  rw [byteAt, wp_bind, wp_get]
  cases m.buffer[i]? with
  | none => simp
  | some b => simp

lemma wp_cut (i : ℕ) {Q : Unit → Handler → Prop} :
    wp (cut i) Q E m ↔ (i < m.buffer.length → Q () { m with buffer := m.buffer.set i 0 }) ∧
      (¬ i < m.buffer.length → E .outOfBounds m) := by
  rw [cut, wp_bind, wp_get, wp_ite]
  rfl

end wp

/-! ### Strings in the buffer -/

lemma zero_notMem_crlf : (0 : UInt8) ∉ crlf := by decide

lemma zero_notMem_dashBoundary (m : Handler) : 0 ∉ m.dashBoundary := by
  intro h
  rcases mem_append.1 h with h | h
  · revert h
    decide
  · exact m.zero_notMem_boundary h

lemma two_le_length_dashBoundary (m : Handler) : 2 ≤ m.dashBoundary.length := by
  simp [Handler.dashBoundary, bytes]

/-- A string without 0 that begins in a string ends before its end. -/
lemma zero_mem_drop {needle s : Bytes} (hneedle : 0 ∉ needle) (hzero : 0 ∈ s) (h : needle <+: s) :
    0 ∈ s.drop needle.length := by
  obtain ⟨rest, rfl⟩ := h
  rw [drop_left]
  exact (mem_append.1 hzero).resolve_left hneedle

lemma zero_mem_drop_of_strstr {needle s : Bytes} {n : ℕ} (hneedle : 0 ∉ needle) (hzero : 0 ∈ s)
    (h : strstr needle s = some n) : 0 ∈ s.drop (n + needle.length) := by
  have hmem : 0 ∈ s.drop n := by
    rw [← take_append_drop n s] at hzero
    exact (mem_append.1 hzero).resolve_left fun h0 => ne_zero_of_strstr h 0 h0 rfl
  rw [← drop_drop]
  exact zero_mem_drop hneedle hmem (prefix_drop_of_strstr h)

lemma cString_append_zero {s rest : Bytes} (h : ∀ b ∈ s, b ≠ 0) : cString (s ++ 0 :: rest) = s := by
  rw [cString, takeWhile_append_of_pos (by simpa using h), takeWhile_cons_of_neg (by simp), append_nil]

/-- After a 0 is written behind a part of a string without 0, the string is this part. -/
lemma cString_set {s : Bytes} {n : ℕ} (hn : n < s.length) (h : ∀ b ∈ s.take n, b ≠ 0) :
    cString (s.set n 0) = s.take n := by
  rw [set_eq_take_append_cons_drop, if_pos hn]
  exact cString_append_zero h

/-- What is found in a string lies before its end. -/
lemma add_length_le_of_zero {needle content rest : Bytes} {n : ℕ} (hneedle : 0 ∉ needle)
    (h : strstr needle (content ++ 0 :: rest) = some n) : n + needle.length ≤ content.length := by
  by_contra hlt
  have hfree : ∀ b ∈ (content ++ 0 :: rest).take (n + needle.length), b ≠ 0 := by
    intro b hb
    rw [take_add, prefix_iff_eq_take.1 (prefix_drop_of_strstr h) |>.symm] at hb
    rcases mem_append.1 hb with hb | hb
    · exact ne_zero_of_strstr h b hb
    · rintro rfl
      exact hneedle hb
  refine hfree 0 ?_ rfl
  obtain ⟨k, hk⟩ := Nat.exists_eq_add_of_lt (not_le.1 hlt)
  rw [hk, Nat.add_assoc, take_length_add_append, take_succ_cons]
  exact mem_append_right content mem_cons_self

/-! ### A part between two delimiters -/

section part

variable {headerLength : Bytes → Option ℕ} {m : Handler}

/-- What the parsing of a part leaves: only the bytes of the part changed. -/
structure PartRead (m m' : Handler) (last : ℕ) : Prop where
  handler : m' = { m with buffer := m'.buffer }
  length : m'.buffer.length = m.buffer.length
  behind : m'.buffer.drop (last + 1) = m.buffer.drop (last + 1)

lemma PartRead.refl (m : Handler) (last : ℕ) : PartRead m m last := ⟨rfl, rfl, rfl⟩

lemma PartRead.trans {m m' m'' : Handler} {last : ℕ} (h : PartRead m m' last) (h' : PartRead m' m'' last) :
    PartRead m m'' last where
  handler := by rw [h'.handler, h.handler]
  length := h'.length.trans h.length
  behind := h'.behind.trans h.behind

lemma PartRead.mono {m m' : Handler} {last last' : ℕ} (h : PartRead m m' last) (hle : last ≤ last') :
    PartRead m m' last' where
  handler := h.handler
  length := h.length
  behind := by
    have hdrop := congrArg (drop (last' - last)) h.behind
    rw [drop_drop, drop_drop, show last + 1 + (last' - last) = last' + 1 by omega] at hdrop
    exact hdrop

lemma PartRead.set (m : Handler) {i last : ℕ} (h : i ≤ last) :
    PartRead m { m with buffer := m.buffer.set i 0 } last where
  handler := rfl
  length := length_set
  behind := drop_set_of_lt (lt_succ_of_le h)

/-- The line ends before the blank line, and the next line begins before it too. -/
lemma line_before_blank {text : Bytes} {n : ℕ} (h : strstr (crlf ++ crlf) text = some n) :
    ∃ k, strstr crlf text = some k ∧ (k = n ∨ k + 2 ≤ n) := by
  have hpre := prefix_drop_of_strstr h
  obtain ⟨k, hk, hfound⟩ := exists_strstr_le (ne_zero_of_strstr h) ((prefix_append crlf crlf).trans hpre)
  refine ⟨k, hfound, ?_⟩
  by_contra hnot
  -- the line feed of the line would be the carriage return of the blank line
  have hnext : n = k + 1 := by omega
  obtain ⟨rest, hrest⟩ := prefix_drop_of_strstr hfound
  obtain ⟨rest', hrest'⟩ := hpre
  have hlf : text[k + 1]? = some 10 := by
    rw [← getElem?_drop, ← hrest]
    rfl
  have hcr : text[k + 1]? = some 13 := by
    rw [← hnext, ← Nat.add_zero n, ← getElem?_drop, ← hrest']
    rfl
  rw [hlf] at hcr
  cases hcr

/-- The headers are read up to the blank line. -/
lemma wp_parseHeaders {turns cursor n : ℕ} (hturns : n < turns) (hzero : 0 ∈ m.buffer.drop cursor)
    (hblank : strstr (crlf ++ crlf) (m.buffer.drop cursor) = some n) :
    wp (parseHeaders headerLength (cursor + n) turns cursor)
      (fun headers m' => (∀ h ∈ headers, cursor ≤ h.line.start ∧ h.line.start + h.line.length ≤ cursor + n) ∧
        PartRead m m' (cursor + n)) (fun _ _ => False) m := by
  induction turns generalizing m cursor n with
  | zero => cases hturns
  | succ turns ih =>
    obtain ⟨k, hline, hk⟩ := line_before_blank hblank
    have hle := add_length_le_of_strstr hline
    have hcrlf : crlf.length = 2 := rfl
    rw [length_drop, hcrlf] at hle
    have hlt : cursor + k < m.buffer.length := by omega
    rw [parseHeaders, wp_bind, wp_stringAt]
    refine ⟨fun _ => ?_, fun h => h hzero⟩
    rw [hline]
    dsimp only
    rw [wp_bind, wp_cut]
    refine ⟨fun _ => ?_, fun h => h hlt⟩
    have htext : (m.buffer.set (cursor + k) 0).drop cursor = (m.buffer.drop cursor).set k 0 := by
      rw [set_drop]
    have hstring : cString ((m.buffer.drop cursor).set k 0) = (m.buffer.drop cursor).take k :=
      cString_set (by rw [length_drop]; omega) (ne_zero_of_strstr hline)
    have hlength : ((m.buffer.drop cursor).take k).length = k := by
      rw [length_take, length_drop]
      omega
    have hmem : 0 ∈ (m.buffer.drop cursor).set k 0 := mem_set (by rw [length_drop]; omega) 0
    rw [wp_bind, wp_stringAt]
    dsimp only
    rw [htext, hstring, hlength]
    refine ⟨fun _ => ?_, fun h => h hmem⟩
    have hown : ∀ h ∈ ((headerLength ((m.buffer.drop cursor).take k)).map fun length =>
        (⟨⟨cursor, k⟩, length⟩ : HeaderLine)).toList, h.line = ⟨cursor, k⟩ := by
      intro h hh
      cases hcase : headerLength ((m.buffer.drop cursor).take k) with
      | none =>
        rw [hcase] at hh
        cases hh
      | some length =>
        rw [hcase] at hh
        rw [mem_singleton.1 hh]
    have hcut : PartRead m { m with buffer := m.buffer.set (cursor + k) 0 } (cursor + n) :=
      PartRead.set m (by omega)
    rw [wp_ite]
    refine ⟨fun hend => ⟨fun h hh => ?_, hcut⟩, fun hmore => ?_⟩
    · rw [hown h hh]
      exact ⟨le_rfl, hend.le⟩
    · have hnext : k + 2 ≤ n := hk.resolve_left fun hkn => hmore (by rw [hkn])
      have hdrop : (m.buffer.set (cursor + k) 0).drop (cursor + k + 2) = (m.buffer.drop cursor).drop (k + 2) := by
        rw [drop_set_of_lt (by omega), drop_drop, Nat.add_assoc]
      have hblank' : strstr (crlf ++ crlf) ((m.buffer.set (cursor + k) 0).drop (cursor + k + 2)) =
          some (n - (k + 2)) := by
        rw [hdrop]
        exact strstr_drop hblank hnext
      have hzero' : 0 ∈ (m.buffer.set (cursor + k) 0).drop (cursor + k + 2) := by
        rw [hdrop]
        exact zero_mem_drop_of_strstr zero_notMem_crlf hzero hline
      have hend : cursor + k + 2 + (n - (k + 2)) = cursor + n := by omega
      have hrest := ih (m := { m with buffer := m.buffer.set (cursor + k) 0 }) (n := n - (k + 2)) (by omega)
        hzero' hblank'
      rw [hend] at hrest
      rw [wp_bind]
      refine wp_mono hrest (fun headers m' h => ?_) (fun _ _ h => h)
      obtain ⟨hheaders, hread⟩ := h
      refine ⟨fun h hh => ?_, hcut.trans hread⟩
      rcases mem_append.1 hh with hh | hh
      · rw [hown h hh]
        exact ⟨le_rfl, Nat.add_le_add_left (show k ≤ n by omega) cursor⟩
      · have hrange := hheaders h hh
        exact ⟨by omega, hrange.2⟩

/-- A range inside another. -/
def Range.Within (r : Range) (first last : ℕ) : Prop := first ≤ r.start ∧ r.start + r.length ≤ last

/-- The part is made of ranges between two positions. -/
structure MemoryPart.Within (part : MemoryPart) (first last : ℕ) : Prop where
  headers : ∀ h ∈ part.headers, h.line.Within first last
  body : part.body.Within first last

/-- A part that a 0 was written behind is read inside. -/
lemma wp_parsePart {cursor : ℕ} {content rest : Bytes} (hdrop : m.buffer.drop cursor = content ++ 0 :: rest)
    (hcontent : ∀ b ∈ content, b ≠ 0) : wp (parsePart headerLength cursor)
      (fun part m' => part.Within cursor (cursor + content.length) ∧ PartRead m m' (cursor + content.length))
      (fun _ _ => False) m := by
  have hzero : 0 ∈ m.buffer.drop cursor := by
    rw [hdrop]
    exact mem_append_right content mem_cons_self
  rw [parsePart, wp_bind, wp_stringAt]
  refine ⟨fun _ => ?_, fun h => h hzero⟩
  cases hblank : strstr (crlf ++ crlf) (m.buffer.drop cursor) with
  | none =>
    dsimp only
    rw [wp_pure, hdrop, cString_append_zero hcontent]
    exact ⟨⟨fun h hh => (by cases hh), le_rfl, le_rfl⟩, PartRead.refl m _⟩
  | some n =>
    -- the blank line is inside the part
    have hbody : 0 ∈ m.buffer.drop (cursor + n + 4) := by
      have hmem := zero_mem_drop_of_strstr (by decide) hzero hblank
      rw [drop_drop] at hmem
      exact hmem
    have hle : n + 4 ≤ content.length := by
      rw [hdrop] at hblank
      exact add_length_le_of_zero (by decide) hblank
    have hstring : (cString (m.buffer.drop (cursor + n + 4))).length = content.length - (n + 4) := by
      have hrest : m.buffer.drop (cursor + n + 4) = content.drop (n + 4) ++ 0 :: rest := by
        rw [Nat.add_assoc, ← drop_drop, hdrop, drop_append_of_le_length hle]
      rw [hrest, cString_append_zero fun b hb => hcontent b (mem_of_mem_drop hb), length_drop]
    have hturns : n < (m.buffer.drop cursor).length := by
      have hfound := add_length_le_of_strstr hblank
      exact (Nat.lt_add_of_pos_right (by decide)).trans_le hfound
    dsimp only
    rw [wp_bind, wp_stringAt]
    refine ⟨fun _ => ?_, fun h => h hbody⟩
    rw [wp_bind, hstring]
    refine wp_mono (wp_parseHeaders hturns hzero hblank) (fun headers m' h => ?_) (fun _ _ h => h)
    obtain ⟨hheaders, hread⟩ := h
    have hlast : cursor + n ≤ cursor + content.length := by omega
    refine ⟨⟨fun h hh => ⟨(hheaders h hh).1, (hheaders h hh).2.trans hlast⟩, ?_, ?_⟩, hread.mono hlast⟩
    · exact le_add_right_of_le (Nat.le_add_right cursor n)
    · exact (by omega : cursor + n + 4 + (content.length - (n + 4)) ≤ cursor + content.length)

/-! ### From a delimiter to the next one -/

/-- A delimiter with its line end, and another one behind it. -/
structure OpensPart (dashBoundary text : Bytes) (n : ℕ) : Prop where
  crlf_prefix : crlf <+: text
  found : strstr dashBoundary (text.drop 2) = some n

variable {cursor n : ℕ}

/-- The bytes in front of the next delimiter are in the buffer. -/
lemma OpensPart.lt_length (h : OpensPart m.dashBoundary (m.buffer.drop cursor) n) :
    cursor + 2 + n + m.dashBoundary.length ≤ m.buffer.length := by
  have hle := add_length_le_of_strstr h.found
  have htwo := two_le_length_dashBoundary m
  rw [length_drop, length_drop] at hle
  omega

lemma OpensPart.getElem? (h : OpensPart m.dashBoundary (m.buffer.drop cursor) n) :
    m.buffer[cursor]? = some 13 ∧ m.buffer[cursor + 1]? = some 10 := by
  obtain ⟨rest, hrest⟩ := h.crlf_prefix
  constructor
  · rw [← Nat.add_zero cursor, ← getElem?_drop, ← hrest]
    rfl
  · rw [← getElem?_drop, ← hrest]
    rfl

/-- There is a line end in front of the delimiter. -/
def CrlfBefore (m : Handler) (delimiter : ℕ) : Prop :=
  m.buffer[delimiter - 1]? = some 10 ∧ m.buffer[delimiter - 2]? = some 13

instance (m : Handler) (delimiter : ℕ) : Decidable (CrlfBefore m delimiter) := inferInstanceAs (Decidable (_ ∧ _))

def endPart (m : Handler) (delimiter : ℕ) : ℕ := if CrlfBefore m delimiter then delimiter - 2 else delimiter

lemma wp_crlfBefore {delimiter : ℕ} {E : Exit → Handler → Prop} (hone : delimiter - 1 < m.buffer.length)
    (htwo : delimiter - 2 < m.buffer.length) :
    wp (crlfBefore delimiter) (fun b m' => b = decide (CrlfBefore m delimiter) ∧ m' = m) E m := by
  rw [crlfBefore, wp_bind, wp_byteAt, getElem?_eq_getElem hone]
  refine ⟨fun lf hlf => ?_, fun hnone => (by cases hnone)⟩
  cases hlf
  rw [wp_ite]
  refine ⟨fun hlf => ?_, fun hlf => ⟨?_, rfl⟩⟩
  · rw [wp_bind, wp_byteAt, getElem?_eq_getElem htwo]
    refine ⟨fun cr hcr => ?_, fun hnone => (by cases hnone)⟩
    cases hcr
    have hlf' : m.buffer[delimiter - 1]? = some 10 := by rw [getElem?_eq_getElem hone, hlf]
    refine ⟨decide_eq_decide.2 ⟨fun hcr => ⟨hlf', ?_⟩, fun h => ?_⟩, rfl⟩
    · rw [getElem?_eq_getElem htwo, hcr]
    · have hcr := h.2
      rw [getElem?_eq_getElem htwo] at hcr
      exact Option.some.inj hcr
  · refine (decide_eq_false fun h => hlf ?_).symm
    have hlf' := h.1
    rw [getElem?_eq_getElem hone] at hlf'
    exact Option.some.inj hlf'

/-- What happens from a delimiter on, when there is another one. -/
lemma wp_parseNext_of_opens {Q : ℕ → Handler → Prop} {E : Exit → Handler → Prop} (hzero : 0 ∈ m.buffer.drop cursor)
    (h : OpensPart m.dashBoundary (m.buffer.drop cursor) n)
    (hpart : wp (parsePart headerLength (cursor + 2)) (fun part m' =>
        Q (cursor + 2 + n + m.dashBoundary.length) (m'.addPart part)) E
      { m with buffer := m.buffer.set (endPart m (cursor + 2 + n)) 0 }) :
    wp (parseNext headerLength cursor) Q E m := by
  have hlt := h.lt_length
  have htwo := two_le_length_dashBoundary m
  have hzero' : 0 ∈ m.buffer.drop (cursor + 2) := by
    rw [← drop_drop]
    exact zero_mem_drop zero_notMem_crlf hzero h.crlf_prefix
  have hfound : strstr m.dashBoundary (m.buffer.drop (cursor + 2)) = some n := by
    rw [← drop_drop]
    exact h.found
  rw [parseNext, wp_bind, wp_get, wp_bind, wp_stringAt]
  refine ⟨fun _ => ?_, fun hnot => absurd hzero hnot⟩
  rw [wp_ite]
  refine ⟨fun hnot => absurd h.crlf_prefix hnot, fun _ => ?_⟩
  rw [wp_bind, wp_stringAt]
  refine ⟨fun _ => ?_, fun hnot => absurd hzero' hnot⟩
  rw [hfound]
  dsimp only
  rw [wp_bind]
  refine wp_mono (wp_crlfBefore (by omega) (by omega)) (fun b m' hb => ?_) (fun _ _ h => h)
  obtain ⟨rfl, hm⟩ := hb
  rw [hm]
  have hlast : endPart m (cursor + 2 + n) < m.buffer.length := by
    rw [endPart]
    split_ifs <;> omega
  have hend : (if decide (CrlfBefore m (cursor + 2 + n)) = true then cursor + 2 + n - 2 else cursor + 2 + n) =
      endPart m (cursor + 2 + n) := by
    rw [endPart]
    simp only [decide_eq_true_iff]
  have hnext : (endPart m (cursor + 2 + n) + m.dashBoundary.length +
      if decide (CrlfBefore m (cursor + 2 + n)) = true then 2 else 0) = cursor + 2 + n + m.dashBoundary.length := by
    rw [endPart]
    simp only [decide_eq_true_iff]
    split_ifs <;> omega
  rw [hend, hnext, wp_bind, wp_cut]
  refine ⟨fun _ => ?_, fun hnot => absurd hlast hnot⟩
  rw [wp_bind]
  exact wp_mono hpart (fun part m' h => h) (fun _ _ h => h)

structure Added (m m' : Handler) (part : MemoryPart) : Prop where
  dashBoundary : m'.dashBoundary = m.dashBoundary
  parts : m'.parts = m.parts ++ [part]
  expectedSize : m.expectedSize < m'.expectedSize

lemma PartRead.added {m m₀ m' : Handler} {last : ℕ} (h : PartRead m₀ m' last)
    (h₀ : m₀ = { m with buffer := m₀.buffer }) (part : MemoryPart) : Added m (m'.addPart part) part := by
  rw [h.handler, h₀]
  refine ⟨rfl, rfl, ?_⟩
  simp only [Handler.addPart]
  omega

/-- Bytes between the delimiters: the part is read inside, and the next delimiter is untouched. -/
lemma wp_parseNext_of_ne (hzero : 0 ∈ m.buffer.drop cursor) (h : OpensPart m.dashBoundary (m.buffer.drop cursor) n)
    (hn : n ≠ 0) : wp (parseNext headerLength cursor)
      (fun cursor' m' => cursor' = cursor + 2 + n + m.dashBoundary.length ∧
        m'.buffer.drop cursor' = m.buffer.drop cursor' ∧
        ∃ part, Added m m' part ∧ part.Within cursor (cursor + 2 + n)) (fun _ _ => False) m := by
  have hlt := h.lt_length
  have htwo := two_le_length_dashBoundary m
  -- the part ends at or after the cursor
  obtain ⟨k, hk, hend⟩ : ∃ k ≤ n, endPart m (cursor + 2 + n) = cursor + 2 + k := by
    rw [endPart]
    split_ifs with hcrlf
    · have hone : n ≠ 1 := by
        rintro rfl
        have hcr := hcrlf.2
        rw [show cursor + 2 + 1 - 2 = cursor + 1 by omega, h.getElem?.2] at hcr
        cases hcr
      exact ⟨n - 2, sub_le n 2, by omega⟩
    · exact ⟨n, le_rfl, rfl⟩
  have hfound : strstr m.dashBoundary (m.buffer.drop (cursor + 2)) = some n := by
    rw [← drop_drop]
    exact h.found
  refine wp_parseNext_of_opens hzero h ?_
  rw [hend]
  have hlength : ((m.buffer.drop (cursor + 2)).take k).length = k := by
    rw [length_take, length_drop]
    omega
  have hcontent : ∀ b ∈ (m.buffer.drop (cursor + 2)).take k, b ≠ 0 := fun b hb =>
    ne_zero_of_strstr hfound b (take_subset_take_left _ hk hb)
  have hdrop : (m.buffer.set (cursor + 2 + k) 0).drop (cursor + 2) =
      (m.buffer.drop (cursor + 2)).take k ++ 0 :: (m.buffer.drop (cursor + 2)).drop (k + 1) := by
    rw [← set_drop, set_eq_take_append_cons_drop, if_pos (by rw [length_drop]; omega)]
  have hpart := @wp_parsePart headerLength { m with buffer := m.buffer.set (cursor + 2 + k) 0 } _ _ _ hdrop hcontent
  rw [hlength] at hpart
  refine wp_mono hpart (fun part m' hread => ?_) (fun _ _ h => h)
  obtain ⟨hwithin, hread⟩ := hread
  refine ⟨rfl, ?_, part, hread.added rfl part, ?_⟩
  · have hafter := congrArg (drop (n - k + m.dashBoundary.length - 1)) hread.behind
    have hsum : cursor + 2 + k + 1 + (n - k + m.dashBoundary.length - 1) =
        cursor + 2 + n + m.dashBoundary.length := by omega
    rw [drop_drop, drop_drop, hsum] at hafter
    refine hafter.trans ?_
    exact drop_set_of_lt (by omega)
  · have hlow : cursor ≤ cursor + 2 := Nat.le_add_right cursor 2
    have hhigh : cursor + 2 + k ≤ cursor + 2 + n := Nat.add_le_add_left hk _
    exact ⟨fun h hh => ⟨hlow.trans (hwithin.headers h hh).1, (hwithin.headers h hh).2.trans hhigh⟩,
      hlow.trans hwithin.body.1, hwithin.body.2.trans hhigh⟩

/-! ### Any part -/

/-- Whatever the bytes are, the headers change the buffer only. -/
lemma wp_parseHeaders_frame (endHeaders turns cursor : ℕ) :
    wp (parseHeaders headerLength endHeaders turns cursor) (fun _ m' => m' = { m with buffer := m'.buffer })
      (fun e _ => e ≠ .returned) m := by
  induction turns generalizing m cursor with
  | zero => exact fun h => (by cases h)
  | succ turns ih =>
    rw [parseHeaders, wp_bind, wp_stringAt]
    refine ⟨fun _ => ?_, fun _ h => (by cases h)⟩
    cases strstr crlf (m.buffer.drop cursor) with
    | none => exact fun h => (by cases h)
    | some n =>
      dsimp only
      rw [wp_bind, wp_cut]
      refine ⟨fun _ => ?_, fun _ h => (by cases h)⟩
      rw [wp_bind, wp_stringAt]
      refine ⟨fun _ => ?_, fun _ h => (by cases h)⟩
      rw [wp_ite]
      refine ⟨fun _ => rfl, fun _ => ?_⟩
      rw [wp_bind]
      exact wp_mono (ih (cursor + n + 2)) (fun _ m' h => h) (fun _ _ h => h)

/-- A part that begins with a byte reaches behind its first position. -/
lemma wp_parsePart_frame {cursor : ℕ} {b : UInt8} (hb : m.buffer[cursor]? = some b) (hne : b ≠ 0) :
    wp (parsePart headerLength cursor)
      (fun part m' => m' = { m with buffer := m'.buffer } ∧ cursor < part.body.start + part.body.length)
      (fun e _ => e ≠ .returned) m := by
  rw [parsePart, wp_bind, wp_stringAt]
  refine ⟨fun _ => ?_, fun _ h => (by cases h)⟩
  cases strstr (crlf ++ crlf) (m.buffer.drop cursor) with
  | none =>
    refine ⟨rfl, Nat.lt_add_of_pos_right ?_⟩
    obtain ⟨hlt, hget⟩ := List.getElem?_eq_some_iff.1 hb
    rw [drop_eq_getElem_cons hlt, hget, cString, takeWhile_cons_of_pos (by simpa using hne)]
    exact succ_pos _
  | some n =>
    dsimp only
    rw [wp_bind, wp_stringAt]
    refine ⟨fun _ => ?_, fun _ h => (by cases h)⟩
    rw [wp_bind]
    refine wp_mono (wp_parseHeaders_frame _ _ cursor) (fun headers m' h => ⟨h, ?_⟩) (fun _ _ h => h)
    exact Nat.lt_add_right _ (by dsimp only; omega)

/-- A delimiter directly behind another one: the part reaches behind the next delimiter. -/
lemma wp_parseNext_of_adjacent {cursor : ℕ} (hzero : 0 ∈ m.buffer.drop cursor)
    (h : OpensPart m.dashBoundary (m.buffer.drop cursor) 0) : wp (parseNext headerLength cursor)
      (fun _ m' => ∃ part, Added m m' part ∧ ¬ part.Within cursor (cursor + 2)) (fun e _ => e ≠ .returned) m := by
  have hend : endPart m (cursor + 2 + 0) = cursor := if_pos ⟨h.getElem?.2, h.getElem?.1⟩
  have hdash : m.buffer[cursor + 2]? = some 45 := by
    obtain ⟨rest, hrest⟩ := prefix_drop_of_strstr h.found
    rw [drop_drop, drop_drop] at hrest
    rw [← Nat.add_zero (cursor + 2), ← getElem?_drop, ← hrest]
    rfl
  have hset : (m.buffer.set cursor 0)[cursor + 2]? = some 45 := by
    rw [getElem?_set_ne (by omega), hdash]
  refine wp_parseNext_of_opens hzero h ?_
  rw [hend]
  refine wp_mono (wp_parsePart_frame (m := { m with buffer := m.buffer.set cursor 0 }) hset (by decide))
    (fun part m' hread => ?_) (fun _ _ h => h)
  obtain ⟨hframe, hlt⟩ := hread
  refine ⟨part, ?_, fun hwithin => absurd hwithin.body.2 (not_le.2 hlt)⟩
  rw [hframe]
  refine ⟨rfl, rfl, ?_⟩
  simp only [Handler.addPart]
  omega

/-- Without another delimiter the routine returns early. -/
lemma wp_parseNext_of_not_opens {cursor : ℕ} (hzero : 0 ∈ m.buffer.drop cursor)
    (hopens : ¬ ∃ n, OpensPart m.dashBoundary (m.buffer.drop cursor) n) :
    wp (parseNext headerLength cursor) (fun _ _ => False) (fun e m' => e = .returned ∧ m' = m) m := by
  rw [parseNext, wp_bind, wp_get, wp_bind, wp_stringAt]
  refine ⟨fun _ => ?_, fun hnot => absurd hzero hnot⟩
  rw [wp_ite]
  refine ⟨fun _ => ⟨rfl, rfl⟩, fun hcrlf => ?_⟩
  have hzero' : 0 ∈ m.buffer.drop (cursor + 2) := by
    rw [← drop_drop]
    exact zero_mem_drop zero_notMem_crlf hzero (not_not.1 hcrlf)
  rw [wp_bind, wp_stringAt]
  refine ⟨fun _ => ?_, fun hnot => absurd hzero' hnot⟩
  cases hfound : strstr m.dashBoundary (m.buffer.drop (cursor + 2)) with
  | none => exact ⟨rfl, rfl⟩
  | some n =>
    rw [← drop_drop] at hfound
    exact absurd ⟨n, not_not.1 hcrlf, hfound⟩ hopens

/-- An early return happens before the part is added. -/
lemma wp_parseNext_frame (cursor : ℕ) : wp (parseNext headerLength cursor)
      (fun _ m' => (∃ n, OpensPart m.dashBoundary (m.buffer.drop cursor) n) ∧ ∃ part, Added m m' part)
      (fun e m' => e = .returned → m' = m ∧ ¬ ∃ n, OpensPart m.dashBoundary (m.buffer.drop cursor) n) m := by
  by_cases hzero : 0 ∈ m.buffer.drop cursor
  · by_cases hopens : ∃ n, OpensPart m.dashBoundary (m.buffer.drop cursor) n
    · obtain ⟨n, hn⟩ := hopens
      by_cases hzero' : n = 0
      · subst hzero'
        refine wp_mono (wp_parseNext_of_adjacent hzero hn) (fun _ m' h => ?_) (fun e m' h he => absurd he h)
        obtain ⟨part, hadded, -⟩ := h
        exact ⟨⟨0, hn⟩, part, hadded⟩
      · refine wp_mono (wp_parseNext_of_ne hzero hn hzero') (fun _ m' h => ?_) (fun _ _ h => h.elim)
        obtain ⟨-, -, part, hadded, -⟩ := h
        exact ⟨⟨n, hn⟩, part, hadded⟩
    · refine wp_mono (wp_parseNext_of_not_opens hzero hopens) (fun _ _ h => h.elim) (fun e m' h _ => ?_)
      exact ⟨h.2, hopens⟩
  · rw [parseNext, wp_bind, wp_get, wp_bind, wp_stringAt]
    exact ⟨fun h => absurd h hzero, fun _ h => (by cases h)⟩

end part

/-! ### Delimiters of the body -/

/-- `--` and a line end: the last delimiter. -/
def closing : Bytes := bytes ['-', '-'] ++ crlf

/-- From the end of a delimiter on, bytes in front of each delimiter up to the last one. -/
inductive Closed (dashBoundary : Bytes) : Bytes → Prop
  | last {text : Bytes} {n : ℕ} (opens : OpensPart dashBoundary text n) (ne : n ≠ 0)
      (ends : closing <+: text.drop (2 + n + dashBoundary.length)) : Closed dashBoundary text
  | next {text : Bytes} {n : ℕ} (opens : OpensPart dashBoundary text n) (ne : n ≠ 0)
      (more : Closed dashBoundary (text.drop (2 + n + dashBoundary.length))) : Closed dashBoundary text

/-- Each part is made of ranges between a delimiter and the next one, from the end of a delimiter on. -/
def Located (dashBoundary received : Bytes) : ℕ → List MemoryPart → Prop
  | _, [] => True
  | delimiterEnd, part :: parts => ∃ n, strstr dashBoundary (received.drop (delimiterEnd + 2)) = some n ∧
      part.Within delimiterEnd (delimiterEnd + 2 + n) ∧
      Located dashBoundary received (delimiterEnd + 2 + n + dashBoundary.length) parts

section parts

variable {headerLength : Bytes → Option ℕ} {m : Handler} {received : Bytes} {cursor : ℕ}

lemma drop_next (received : Bytes) (cursor n length : ℕ) :
    received.drop (cursor + 2 + n + length) = (received.drop cursor).drop (2 + n + length) := by
  rw [drop_drop, Nat.add_assoc, Nat.add_assoc, Nat.add_assoc]

variable {text : Bytes}

lemma zero_mem_next {n : ℕ} (hzero : 0 ∈ text) (h : OpensPart m.dashBoundary text n) :
    0 ∈ text.drop (2 + n + m.dashBoundary.length) := by
  have hafter := zero_mem_drop_of_strstr (zero_notMem_dashBoundary m)
    (zero_mem_drop zero_notMem_crlf hzero h.crlf_prefix) h.found
  rw [drop_drop] at hafter
  rw [Nat.add_assoc]
  exact hafter

/-- The parts are added behind those that were there. -/
lemma wp_parseParts_grows (turns cursor : ℕ) :
    wp (parseParts headerLength turns cursor) (fun _ m' => ∃ parts, m'.parts = m.parts ++ parts)
      (fun e m' => e = .returned → m.expectedSize ≤ m'.expectedSize) m := by
  induction turns generalizing m cursor with
  | zero => exact fun h => (by cases h)
  | succ turns ih =>
    rw [parseParts, wp_bind]
    refine wp_mono (wp_parseNext_frame cursor) (fun cursor' m₁ h => ?_) (fun e m₁ h he => ?_)
    · obtain ⟨-, part, hadded⟩ := h
      rw [wp_bind, wp_stringAt]
      refine ⟨fun _ => ?_, fun _ h => (by cases h)⟩
      rw [wp_ite]
      refine ⟨fun _ => ⟨[part], hadded.parts⟩, fun _ => ?_⟩
      refine wp_mono (ih cursor') (fun _ m₂ h => ?_) (fun e m₂ h he => hadded.expectedSize.le.trans (h he))
      obtain ⟨parts, hparts⟩ := h
      exact ⟨part :: parts, by rw [hparts, hadded.parts, append_assoc, singleton_append]⟩
    · rw [(h he).1]

/-- Behind a delimiter and another one, the expected size is no longer the one before. -/
lemma wp_parseParts_of_opens {n : ℕ} (hopens : OpensPart m.dashBoundary (m.buffer.drop cursor) n) (turns : ℕ) :
    wp (parseParts headerLength turns cursor) (fun _ _ => True)
      (fun e m' => e = .returned → m.expectedSize < m'.expectedSize) m := by
  cases turns with
  | zero => exact fun h => (by cases h)
  | succ turns =>
    rw [parseParts, wp_bind]
    refine wp_mono (wp_parseNext_frame cursor) (fun cursor' m₁ h => ?_) (fun e m₁ h he => ?_)
    · obtain ⟨-, part, hadded⟩ := h
      rw [wp_bind, wp_stringAt]
      refine ⟨fun _ => ?_, fun _ h => (by cases h)⟩
      rw [wp_ite]
      refine ⟨fun _ => trivial, fun _ => ?_⟩
      exact wp_mono (wp_parseParts_grows turns cursor') (fun _ _ _ => trivial)
        (fun e m₂ h he => hadded.expectedSize.trans_le (h he))
    · exact absurd ⟨n, hopens⟩ (h he).2

lemma Closed.exists_opens {dashBoundary text : Bytes} (h : Closed dashBoundary text) :
    ∃ n, OpensPart dashBoundary text n := by
  cases h with
  | last opens _ _ => exact ⟨_, opens⟩
  | next opens _ _ => exact ⟨_, opens⟩

/-- A line end is not the end of the last delimiter. -/
lemma not_closing_of_crlf (h : crlf <+: text) : ¬ closing <+: text := by
  rintro ⟨rest', rfl⟩
  obtain ⟨rest, hrest⟩ := h
  cases hrest

/-- A delimiter and the next one: a part is read between them, and the rest is as it was received. -/
lemma wp_parseParts_succ {n turns : ℕ} {Q : Unit → Handler → Prop} {E : Exit → Handler → Prop}
    (hopens : OpensPart m.dashBoundary text n) (hn : n ≠ 0) (htext : m.buffer.drop cursor = text)
    (hreceived : received.drop cursor = text) (hzero : 0 ∈ text)
    (hrest : ∀ m₁ part, m₁.dashBoundary = m.dashBoundary → m₁.parts = m.parts ++ [part] →
      strstr m.dashBoundary (received.drop (cursor + 2)) = some n → part.Within cursor (cursor + 2 + n) →
      m₁.buffer.drop (cursor + 2 + n + m.dashBoundary.length) = text.drop (2 + n + m.dashBoundary.length) →
      (closing <+: text.drop (2 + n + m.dashBoundary.length) → Q () m₁) ∧
        (¬ closing <+: text.drop (2 + n + m.dashBoundary.length) →
          wp (parseParts headerLength turns (cursor + 2 + n + m.dashBoundary.length)) Q E m₁)) :
    wp (parseParts headerLength (turns + 1) cursor) Q E m := by
  subst htext
  rw [parseParts, wp_bind]
  refine wp_mono (wp_parseNext_of_ne hzero hopens hn) (fun cursor' m₁ h => ?_) (fun _ _ h => h.elim)
  obtain ⟨rfl, hbuffer, part, hadded, hwithin⟩ := h
  rw [drop_next m.buffer] at hbuffer
  have hfound : strstr m.dashBoundary (received.drop (cursor + 2)) = some n := by
    rw [← drop_drop, hreceived]
    exact hopens.found
  obtain ⟨hlast, hmore⟩ := hrest m₁ part hadded.dashBoundary hadded.parts hfound hwithin hbuffer
  rw [wp_bind, wp_stringAt, hbuffer]
  refine ⟨fun _ => ?_, fun h => absurd (zero_mem_next hzero hopens) h⟩
  rw [wp_ite]
  exact ⟨hlast, hmore⟩

/-- Closed parts are read between their delimiters, up to the last one. -/
lemma wp_parseParts_of_closed {dashBoundary text : Bytes} (hclosed : Closed dashBoundary text) {turns : ℕ}
    (hdash : m.dashBoundary = dashBoundary) (hturns : text.length < turns) (htext : m.buffer.drop cursor = text)
    (hreceived : received.drop cursor = text) (hzero : 0 ∈ text) :
    wp (parseParts headerLength turns cursor) (fun _ m' => ∃ parts, m'.parts = m.parts ++ parts ∧
      Located dashBoundary received cursor parts) (fun _ _ => False) m := by
  induction hclosed generalizing m cursor turns with
  | last opens ne ends =>
    subst hdash
    obtain ⟨turns, rfl⟩ := exists_eq_succ_of_ne_zero (Nat.ne_zero_of_lt hturns)
    refine wp_parseParts_succ opens ne htext hreceived hzero fun m₁ part hdash hparts hfound hwithin hbuffer => ?_
    exact ⟨fun _ => ⟨[part], hparts, _, hfound, hwithin, trivial⟩, fun hnot => absurd ends hnot⟩
  | @next text n opens ne more ih =>
    subst hdash
    obtain ⟨turns, rfl⟩ := exists_eq_succ_of_ne_zero (Nat.ne_zero_of_lt hturns)
    refine wp_parseParts_succ opens ne htext hreceived hzero fun m₁ part hdash hparts hfound hwithin hbuffer => ?_
    obtain ⟨_, hmore⟩ := more.exists_opens
    refine ⟨fun hclosing => absurd hclosing (not_closing_of_crlf hmore.crlf_prefix), fun _ => ?_⟩
    have hlt : (text.drop (2 + n + m.dashBoundary.length)).length < turns := by
      have htwo := two_le_length_dashBoundary m
      have hpos := length_pos_of_mem hzero
      rw [length_drop]
      omega
    have hnext : received.drop (cursor + 2 + n + m.dashBoundary.length) =
        text.drop (2 + n + m.dashBoundary.length) := by
      rw [drop_next, hreceived]
    refine wp_mono (ih hdash hlt hbuffer hnext (zero_mem_next hzero opens)) (fun _ m₂ h => ?_) (fun _ _ h => h)
    obtain ⟨parts, hall, hlocated⟩ := h
    exact ⟨part :: parts, by rw [hall, hparts, append_assoc, singleton_append], n, hfound, hwithin, hlocated⟩

/-- Where the parts are not closed, the routine does not come to its end with parts between their delimiters. -/
lemma wp_parseParts_of_not_closed (hnot : ¬ Closed m.dashBoundary text) (turns : ℕ)
    (htext : m.buffer.drop cursor = text) (hreceived : received.drop cursor = text) (hzero : 0 ∈ text) :
    wp (parseParts headerLength turns cursor) (fun _ m' => ∃ parts, m'.parts = m.parts ++ parts ∧
      ¬ Located m.dashBoundary received cursor parts) (fun _ _ => True) m := by
  induction turns generalizing m cursor text with
  | zero => exact trivial
  | succ turns ih =>
    by_cases hopens : ∃ n, OpensPart m.dashBoundary text n
    · obtain ⟨n, hn⟩ := hopens
      by_cases hne : n = 0
      · subst hne htext
        rw [parseParts, wp_bind]
        refine wp_mono (wp_parseNext_of_adjacent hzero hn) (fun cursor' m₁ h => ?_) (fun _ _ _ => trivial)
        obtain ⟨part, hadded, hwithin⟩ := h
        have hlocated (parts : List MemoryPart) : ¬ Located m.dashBoundary received cursor (part :: parts) := by
          rintro ⟨n, hfound, hpart, -⟩
          rw [← drop_drop, hreceived, hn.found] at hfound
          cases hfound
          exact hwithin hpart
        rw [wp_bind, wp_stringAt]
        refine ⟨fun _ => ?_, fun _ => trivial⟩
        rw [wp_ite]
        refine ⟨fun _ => ⟨[part], hadded.parts, hlocated []⟩, fun _ => ?_⟩
        refine wp_mono (wp_parseParts_grows turns cursor') (fun _ m₂ h => ?_) (fun _ _ _ => trivial)
        obtain ⟨parts, hparts⟩ := h
        exact ⟨part :: parts, by rw [hparts, hadded.parts, append_assoc, singleton_append], hlocated parts⟩
      · refine wp_parseParts_succ hn hne htext hreceived hzero fun m₁ part hdash hparts hfound hwithin hbuffer => ?_
        refine ⟨fun hclosing => absurd (Closed.last hn hne hclosing) hnot, fun _ => ?_⟩
        have hrest : ¬ Closed m₁.dashBoundary (text.drop (2 + n + m.dashBoundary.length)) := by
          rw [hdash]
          exact fun hmore => hnot (Closed.next hn hne hmore)
        have hnext : received.drop (cursor + 2 + n + m.dashBoundary.length) =
            text.drop (2 + n + m.dashBoundary.length) := by
          rw [drop_next, hreceived]
        refine wp_mono (ih hrest hbuffer hnext (zero_mem_next hzero hn)) (fun _ m₂ h => ?_) (fun _ _ h => h)
        obtain ⟨parts, hall, hlocated⟩ := h
        refine ⟨part :: parts, by rw [hall, hparts, append_assoc, singleton_append], ?_⟩
        rintro ⟨n', hfound', -, hparts'⟩
        rw [hfound] at hfound'
        cases hfound'
        rw [hdash] at hlocated
        exact hlocated hparts'
    · subst htext
      rw [parseParts, wp_bind]
      exact wp_mono (wp_parseNext_frame cursor) (fun cursor' m₁ h => absurd h.1 hopens) (fun _ _ _ => trivial)

end parts

/-! ### Whole bodies -/

namespace Handler

def new (boundary : {text : Bytes // 0 ∉ text}) (expectedSize : ℕ) : Handler where
  boundary := boundary.1
  zero_notMem_boundary := boundary.2
  expectedSize := expectedSize

def received (boundary : {text : Bytes // 0 ∉ text}) (expectedSize : ℕ) (chunks : List Bytes) : Handler :=
  chunks.foldl recvChunk (new boundary expectedSize)

def firstDelimiter (m : Handler) : ℕ := if crlf <+: m.buffer then 2 else 0

end Handler

section whole

variable {headerLength : Bytes → Option ℕ}

/-- What was received is in the buffer, with a 0 behind it. -/
lemma received_eq (boundary : {text : Bytes // 0 ∉ text}) (expectedSize : ℕ) (chunks : List Bytes) :
    Handler.received boundary expectedSize chunks = { Handler.new boundary expectedSize with
        buffer := if chunks = [] then [] else chunks.flatten ++ [0]
        transferedSize := chunks.flatten.length } := by
  induction chunks using reverseRecOn with
  | nil => rfl
  | append_singleton chunks chunk ih =>
    have htake : (if chunks = [] then [] else chunks.flatten ++ [0]).take chunks.flatten.length = chunks.flatten := by
      split_ifs with hnil
      · simp [hnil]
      · exact take_left
    rw [Handler.received, foldl_append, ← Handler.received, ih]
    simp only [foldl_cons, foldl_nil, Handler.recvChunk, htake]
    simp

/-- The routine ends, at its last statement or earlier, without an access out of the buffer; the parts are made of
ranges between a delimiter and the next one, and the expected size is the one before. -/
def Sound (headerLength : Bytes → Option ℕ) (m : Handler) : Prop :=
  ∃ m', (parse_final headerLength m = .ok () m' ∨ parse_final headerLength m = .error .returned m') ∧
    m'.expectedSize = m.expectedSize ∧
    Located m.dashBoundary m.buffer (m.firstDelimiter + m.dashBoundary.length) m'.parts

def Delimited (m : Handler) : Prop :=
  m.dashBoundary <+: m.buffer.drop m.firstDelimiter →
    let text := m.buffer.drop (m.firstDelimiter + m.dashBoundary.length)
    (∃ n, OpensPart m.dashBoundary text n) → Closed m.dashBoundary text

/-- What a handler keeps when the routine is sound. -/
def Kept (m m' : Handler) : Prop :=
  m'.expectedSize = m.expectedSize ∧ Located m.dashBoundary m.buffer (m.firstDelimiter + m.dashBoundary.length) m'.parts

lemma sound_iff_wp (m : Handler) : Sound headerLength m ↔
      wp (parse_final headerLength) (fun _ m' => Kept m m') (fun e m' => e = .returned ∧ Kept m m') m := by
  rw [Sound, wp]
  cases parse_final headerLength m with
  | ok u m' =>
    constructor
    · rintro ⟨m₁, h | h, hkept⟩
      · cases h
        exact hkept
      · cases h
    · exact fun hkept => ⟨m', Or.inl rfl, hkept⟩
  | error e m' =>
    constructor
    · rintro ⟨m₁, h | h, hkept⟩
      · cases h
      · cases h
        exact ⟨rfl, hkept⟩
    · rintro ⟨rfl, hkept⟩
      exact ⟨m', Or.inr rfl, hkept⟩

variable {m : Handler}

lemma zero_mem_firstDelimiter (hzero : 0 ∈ m.buffer) : 0 ∈ m.buffer.drop m.firstDelimiter := by
  rw [Handler.firstDelimiter]
  split_ifs with hcrlf
  · exact zero_mem_drop zero_notMem_crlf hzero hcrlf
  · exact hzero

/-- The body begins where its first delimiter is looked for. -/
lemma wp_parse_final {Q : Unit → Handler → Prop} {E : Exit → Handler → Prop} (hzero : 0 ∈ m.buffer) :
    wp (parse_final headerLength) Q E m ↔ (m.dashBoundary <+: m.buffer.drop m.firstDelimiter →
        wp (parseParts headerLength m.buffer.length (m.firstDelimiter + m.dashBoundary.length))
          (fun _ m' => Q () { m' with expectedSize := m.expectedSize }) E m) ∧
      (¬ m.dashBoundary <+: m.buffer.drop m.firstDelimiter → E .returned m) := by
  have hfirst := zero_mem_firstDelimiter hzero
  have hcursor : (if crlf <+: m.buffer then 2 else 0) = m.firstDelimiter := rfl
  rw [parse_final, wp_bind, wp_get, wp_bind, wp_stringAt, drop_zero, and_iff_left fun h => absurd hzero h,
    forall_prop_of_true hzero, wp_bind, wp_stringAt, hcursor, and_iff_left fun h => absurd hfirst h,
    forall_prop_of_true hfirst, wp_ite, and_comm, not_not]
  simp only [wp_bind, wp_modify, wp_throw]

/-- Nothing received: the routine reads at `NULL`. -/
lemma not_sound_of_nil (h : m.buffer = []) : ¬ Sound headerLength m := by
  rw [sound_iff_wp, parse_final, wp_bind, wp_get, wp_bind, wp_stringAt, h]
  intro hsound
  have hexit := (hsound.2 not_mem_nil).1
  cases hexit

lemma zero_mem_text (hzero : 0 ∈ m.buffer) (hdash : m.dashBoundary <+: m.buffer.drop m.firstDelimiter) :
    0 ∈ m.buffer.drop (m.firstDelimiter + m.dashBoundary.length) := by
  have hfirst := zero_mem_firstDelimiter hzero
  rw [← drop_drop]
  exact zero_mem_drop (zero_notMem_dashBoundary m) hfirst hdash

/-- A part is opened and the parts are not closed: the size is another one, or a part is not between its delimiters. -/
lemma not_sound_of_not_closed {n : ℕ} (hparts : m.parts = []) (hzero : 0 ∈ m.buffer)
    (hdash : m.dashBoundary <+: m.buffer.drop m.firstDelimiter)
    (hopens : OpensPart m.dashBoundary (m.buffer.drop (m.firstDelimiter + m.dashBoundary.length)) n)
    (hnot : ¬ Closed m.dashBoundary (m.buffer.drop (m.firstDelimiter + m.dashBoundary.length))) :
    ¬ Sound headerLength m := by
  intro hsound
  rw [sound_iff_wp, wp_parse_final hzero] at hsound
  have hkept := hsound.1 hdash
  have hlocated := @wp_parseParts_of_not_closed headerLength _ m.buffer _ _ hnot m.buffer.length rfl rfl
    (zero_mem_text hzero hdash)
  have hsize := @wp_parseParts_of_opens headerLength _ _ _ hopens m.buffer.length
  rw [wp] at hkept hlocated hsize
  cases hrun : parseParts headerLength m.buffer.length (m.firstDelimiter + m.dashBoundary.length) m with
  | ok u m' =>
    rw [hrun] at hkept hlocated
    obtain ⟨parts, hall, hbad⟩ := hlocated
    rw [hparts, nil_append] at hall
    rw [← hall] at hbad
    exact hbad hkept.2
  | error e m' =>
    rw [hrun] at hkept hsize
    obtain ⟨he, hsame, -⟩ := hkept
    exact absurd hsame (hsize he).ne'

/-- Once something was received, a handler without parts is sound if and only if the body is delimited. -/
lemma sound_iff_delimited (hparts : m.parts = []) (hzero : 0 ∈ m.buffer) : Sound headerLength m ↔ Delimited m := by
  have hnone : Kept m m := ⟨rfl, by rw [hparts]; trivial⟩
  constructor
  · rintro hsound hdash text ⟨n, hopens⟩
    by_contra hnot
    exact not_sound_of_not_closed hparts hzero hdash hopens hnot hsound
  · intro hdelimited
    rw [sound_iff_wp, wp_parse_final hzero]
    refine ⟨fun hdash => ?_, fun _ => ⟨rfl, hnone⟩⟩
    have htext := zero_mem_text hzero hdash
    have hpos : (m.buffer.drop (m.firstDelimiter + m.dashBoundary.length)).length < m.buffer.length := by
      have htwo := two_le_length_dashBoundary m
      have hlength := length_pos_of_mem hzero
      rw [length_drop]
      omega
    by_cases hopens : ∃ n, OpensPart m.dashBoundary (m.buffer.drop (m.firstDelimiter + m.dashBoundary.length)) n
    · have hlocated := @wp_parseParts_of_closed headerLength _ m.buffer _ _ _ (hdelimited hdash hopens) _ rfl hpos rfl
        rfl htext
      refine wp_mono hlocated (fun _ m' h => ?_) (fun _ _ h => h.elim)
      obtain ⟨parts, hall, hlocated⟩ := h
      rw [hparts, nil_append] at hall
      exact ⟨rfl, hall ▸ hlocated⟩
    · obtain ⟨turns, hturns⟩ := exists_eq_succ_of_ne_zero (Nat.ne_zero_of_lt hpos)
      rw [hturns, parseParts, wp_bind]
      refine wp_mono (wp_parseNext_of_not_opens htext hopens) (fun _ _ h => h.elim) (fun e m' h => ?_)
      rw [h.2]
      exact ⟨h.1, hnone⟩

/-- For every body in whatever chunks and every boundary, the routine is sound if and only if a chunk was received and
the body is delimited. -/
theorem sound_iff (headerLength : Bytes → Option ℕ) (boundary : {text : Bytes // 0 ∉ text})
    (expectedSize : ℕ) (chunks : List Bytes) : Sound headerLength (Handler.received boundary expectedSize chunks) ↔
      chunks ≠ [] ∧ Delimited (Handler.received boundary expectedSize chunks) := by
  by_cases hchunks : chunks = []
  · have hnil : (Handler.received boundary expectedSize chunks).buffer = [] := by
      rw [received_eq, if_pos hchunks]
    exact iff_of_false (not_sound_of_nil hnil) fun h => h.1 hchunks
  · have hparts : (Handler.received boundary expectedSize chunks).parts = [] := by
      rw [received_eq]
      rfl
    have hzero : 0 ∈ (Handler.received boundary expectedSize chunks).buffer := by
      rw [received_eq, if_neg hchunks]
      exact mem_append_right _ (mem_singleton_self 0)
    rw [sound_iff_delimited hparts hzero, and_iff_right hchunks]

lemma Sound.expectedSize_final (h : Sound headerLength m) :
    (final (parse_final headerLength) m).expectedSize = m.expectedSize := by
  obtain ⟨m', hrun | hrun, hsize, -⟩ := h
  · rw [final, hrun]
    exact hsize
  · rw [final, hrun]
    exact hsize

/-- A body that ends behind the boundary after a part, one whose last boundary follows the first one directly, and one
that was never received. -/
theorem not_sound_truncated_adjacent_empty : let boundary : {text : Bytes // 0 ∉ text} := ⟨bytes ['b'], by decide⟩
    let truncated := bytes ['-', '-', 'b', '\r', '\n', 'h', 'i', '\r', '\n', '-', '-', 'b']
    let adjacent := bytes ['-', '-', 'b', '\r', '\n', '-', '-', 'b', '-', '-', '\r', '\n']
    ¬ Sound (fun _ => none) (Handler.received boundary 12 [truncated]) ∧
      ¬ Sound (fun _ => none) (Handler.received boundary 12 [adjacent]) ∧
      ¬ Sound (fun _ => none) (Handler.received boundary 0 []) := by
  refine ⟨fun h => ?_, ?_, not_sound_of_nil rfl⟩
  · have hsize : (final (parse_final fun _ => none) (Handler.received ⟨bytes ['b'], by decide⟩ 12
        [bytes ['-', '-', 'b', '\r', '\n', 'h', 'i', '\r', '\n', '-', '-', 'b']])).expectedSize ≠ 12 := by
      decide +kernel
    exact hsize h.expectedSize_final
  · have hopens : OpensPart (bytes ['-', '-', 'b']) (crlf ++ bytes ['-', '-', 'b', '-', '-', '\r', '\n'] ++ [0]) 0 :=
      ⟨by decide, by decide⟩
    refine not_sound_of_not_closed rfl (by decide) (by decide) hopens fun hclosed => ?_
    have hzero {n : ℕ} (h : OpensPart (bytes ['-', '-', 'b'])
        (crlf ++ bytes ['-', '-', 'b', '-', '-', '\r', '\n'] ++ [0]) n) : n = 0 :=
      Option.some.inj (h.found.symm.trans hopens.found)
    cases hclosed with
    | last opens ne _ => exact ne (hzero opens)
    | next opens ne _ => exact ne (hzero opens)

end whole

end BelleSip.MultipartBounds
