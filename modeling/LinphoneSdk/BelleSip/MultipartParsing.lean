import LinphoneSdk.BelleSip.MultipartSending
import Mathlib.Data.FinEnum

/-!
# The round trip of multipart bodies

A multipart body is split at its boundaries with searches in C strings. The parts come back as long as they hold no 0
byte, and no blank line where they have no headers.
-/

namespace BelleSip.MultipartBodyHandler

open CString List

variable {H : Type} {codec : HeaderCodec H}

def content (codec : HeaderCodec H) (part : Part H) : Bytes := headerString codec part.headers ++ part.buffer

/-- No 0 byte, and no blank line that would be taken for the end of headers. -/
def Readable (part : Part H) : Prop := 0 ∉ part.buffer ∧ (part.headers = [] → ¬ crlf ++ crlf <:+: part.buffer)

/-! ### The headers of a part -/

lemma dashBoundary_ne_nil (boundary : Boundary) : boundary.dashBoundary ≠ [] := by
  simp [Boundary.dashBoundary, bytes]

lemma dashBoundary_line (boundary : Boundary) : ∀ c ∈ boundary.dashBoundary, c ≠ 0 ∧ c ≠ 13 ∧ c ≠ 10 := by
  intro c hc
  rcases mem_append.1 hc with hc | hc
  · have hdash : c = 45 := by simpa [bytes] using hc
    subst hdash
    decide
  · exact boundary.text_line c hc

def lines (codec : HeaderCodec H) (headers : List H) : Bytes := headers.flatMap fun h => codec.marshal h ++ crlf

lemma lines_cons (codec : HeaderCodec H) (h : H) (headers : List H) :
    lines codec (h :: headers) = codec.marshal h ++ (crlf ++ lines codec headers) := by
  simp [lines]

/-- A header has a line. -/
lemma two_le_length_lines (codec : HeaderCodec H) {headers : List H} (hne : headers ≠ []) :
    2 ≤ (lines codec headers).length := by
  obtain ⟨h, headers, rfl⟩ := exists_cons_of_ne_nil hne
  simp only [lines_cons, length_append, crlf, length_cons]
  omega

lemma headerString_eq {headers : List H} (hne : headers ≠ []) :
    headerString codec headers = lines codec headers ++ crlf := if_neg hne

lemma headerString_ne_zero (headers : List H) : ∀ b ∈ headerString codec headers, b ≠ 0 := by
  intro b hb
  rw [headerString] at hb
  split_ifs at hb with hnil
  · cases hb
  · have hcrlf : b ∈ crlf → b ≠ 0 := by
      intro hb
      have : b = 13 ∨ b = 10 := by simpa [crlf] using hb
      rcases this with rfl | rfl <;> decide
    rcases mem_append.1 hb with hb | hb
    · obtain ⟨h, -, hb⟩ := mem_flatMap.1 hb
      rcases mem_append.1 hb with hb | hb
      · exact (codec.marshal_line h b hb).1
      · exact hcrlf hb
    · exact hcrlf hb

/-- The blank line is found behind the last header. -/
lemma strstr_blank_line {headers : List H} (hne : headers ≠ []) (text : Bytes) :
    strstr (crlf ++ crlf) (lines codec headers ++ (crlf ++ text)) = some ((lines codec headers).length - 2) := by
  induction headers with
  | nil => exact absurd rfl hne
  | cons h headers ih =>
    have hline : ∀ b ∈ codec.marshal h, b ≠ 13 ∧ b ≠ 0 := fun b hb =>
      ⟨(codec.marshal_line h b hb).2.1, (codec.marshal_line h b hb).1⟩
    have hcons : crlf ++ crlf = 13 :: [10, 13, 10] := rfl
    rw [lines_cons, append_assoc, hcons, strstr_append_of_not_mem hline, ← hcons]
    cases headers with
    | nil =>
      have hfound : strstr (crlf ++ crlf) (13 :: 10 :: 13 :: 10 :: text) = some 0 :=
        strstr_cons_of_prefix ⟨text, rfl⟩
      rw [show crlf ++ lines codec ([] : List H) ++ (crlf ++ text) = 13 :: 10 :: 13 :: 10 :: text from rfl, hfound]
      simp [lines, crlf]
    | cons h' headers =>
      obtain ⟨b, line, hb⟩ := exists_cons_of_ne_nil (codec.marshal_ne_nil h')
      have hfirst : 13 ≠ b := ((codec.marshal_line h' b (by simp [hb])).2.1).symm
      have hskip (rest : Bytes) : strstr (crlf ++ crlf) (13 :: 10 :: b :: rest) =
          (strstr (crlf ++ crlf) (b :: rest)).map (· + 2) := by
        rw [strstr, if_neg (by simp [crlf, hfirst]), if_neg (by decide), strstr, if_neg (by simp [crlf]),
          if_neg (by decide), Option.map_map]
        rfl
      have hlength := two_le_length_lines codec (cons_ne_nil h' headers)
      have hrest : crlf ++ lines codec (h' :: headers) ++ (crlf ++ text) =
          13 :: 10 :: b :: (line ++ (crlf ++ lines codec headers) ++ (crlf ++ text)) := by
        rw [lines_cons, hb]
        simp [crlf]
      have hfound := ih (cons_ne_nil h' headers)
      rw [show lines codec (h' :: headers) ++ (crlf ++ text) =
        b :: (line ++ (crlf ++ lines codec headers) ++ (crlf ++ text)) by rw [lines_cons, hb]; simp] at hfound
      rw [hrest, hskip, hfound]
      simp only [Option.map_some, length_append, Option.some.injEq, crlf, length_cons, length_nil]
      omega

/-- The headers are read line by line, and nothing is changed behind them. -/
lemma parseHeaders_lines {headers : List H} (hne : headers ≠ []) {text buffer : Bytes}
    {cursor fuel : ℕ} (endHeaders : ℕ) (hdrop : buffer.drop cursor = lines codec headers ++ (crlf ++ text))
    (hend : endHeaders + 2 = cursor + (lines codec headers).length) (hfuel : headers.length ≤ fuel) :
    (parseHeaders codec endHeaders fuel buffer cursor).1 = headers ∧
      ∀ k > endHeaders, (parseHeaders codec endHeaders fuel buffer cursor).2.drop k = buffer.drop k := by
  induction headers generalizing buffer cursor fuel with
  | nil => exact absurd rfl hne
  | cons h headers ih =>
    obtain ⟨fuel, rfl⟩ : ∃ n, fuel = n + 1 := ⟨fuel - 1, by simp at hfuel; omega⟩
    have hline : ∀ c ∈ codec.marshal h, c ≠ 0 ∧ c ≠ 13 := fun c hc =>
      ⟨(codec.marshal_line h c hc).1, (codec.marshal_line h c hc).2.1⟩
    have hlength : (lines codec (h :: headers)).length =
        (codec.marshal h).length + 2 + (lines codec headers).length := by
      simp only [lines_cons, length_append, crlf, length_cons, length_nil]
      omega
    rw [lines_cons, append_assoc, append_assoc] at hdrop
    have hfound : strstr crlf (buffer.drop cursor) = some (codec.marshal h).length := by
      rw [hdrop, strstr_crlf_line hline]
    have hset : (buffer.set (cursor + (codec.marshal h).length) 0).drop cursor =
        codec.marshal h ++ 0 :: 10 :: (lines codec headers ++ (crlf ++ text)) := by
      rw [← set_drop, hdrop, set_append_right _ _ le_rfl]
      simp [crlf]
    have hstring : cString ((buffer.set (cursor + (codec.marshal h).length) 0).drop cursor) = codec.marshal h := by
      rw [hset, cString, takeWhile_append_of_pos fun c hc => by simpa using (hline c hc).1]
      simp
    have hbehind (k : ℕ) (hk : cursor + (codec.marshal h).length < k) :
        (buffer.set (cursor + (codec.marshal h).length) 0).drop k = buffer.drop k := drop_set_of_lt hk
    simp only [parseHeaders, hfound, hstring, codec.parse_marshal, Option.toList_some]
    cases headers with
    | nil =>
      have hlast : cursor + (codec.marshal h).length = endHeaders := by
        simp [lines] at hlength hend
        omega
      rw [if_pos hlast]
      exact ⟨rfl, fun k hk => hbehind k (by omega)⟩
    | cons h' headers =>
      have hmore : cursor + (codec.marshal h).length ≠ endHeaders := by
        have htwo := two_le_length_lines codec (cons_ne_nil h' headers)
        omega
      have hnext : (buffer.set (cursor + (codec.marshal h).length) 0).drop (cursor + (codec.marshal h).length + 2) =
          lines codec (h' :: headers) ++ (crlf ++ text) := by
        rw [hbehind _ (by omega), Nat.add_assoc, ← drop_drop, hdrop, ← drop_drop, drop_left]
        rfl
      obtain ⟨hheaders, hrest⟩ := ih (cons_ne_nil h' headers) hnext (by omega) (by simpa using hfuel)
      rw [if_neg hmore]
      refine ⟨by simp only [hheaders, singleton_append], fun k hk => ?_⟩
      rw [hrest k hk]
      exact hbehind k (by
        have htwo := two_le_length_lines codec (cons_ne_nil h' headers)
        omega)

/-! ### A part -/

lemma length_headers_le (codec : HeaderCodec H) (headers : List H) : headers.length ≤ (lines codec headers).length := by
  induction headers with
  | nil => simp
  | cons h headers ih =>
    simp only [lines_cons, length_append, length_cons, crlf]
    omega

lemma cString_append_zero {text more : Bytes} (h : 0 ∉ text) : cString (text ++ 0 :: more) = text := by
  have hne (c : UInt8) (hc : c ∈ text) : decide (c ≠ 0) = true := by
    refine decide_eq_true ?_
    rintro rfl
    exact h hc
  rw [cString, takeWhile_append_of_pos hne]
  simp

section

variable {part : Part H} {buffer more : Bytes} {cursor : ℕ}

/-- The part comes back, and nothing is changed behind it. -/
lemma parsePart_readable (hread : Readable part) (hdrop : buffer.drop cursor = content codec part ++ 0 :: more) :
    (parsePart codec buffer cursor).1 = part ∧
      ∀ k ≥ cursor + (content codec part).length, (parsePart codec buffer cursor).2.drop k = buffer.drop k := by
  obtain ⟨hzero, hblank⟩ := hread
  by_cases hne : part.headers = []
  · have hcontent : content codec part = part.buffer := by simp [content, headerString, hne]
    have hnone : strstr (crlf ++ crlf) (part.buffer ++ 0 :: more) = none :=
      strstr_append_zero (by simp [crlf]) (by decide) (fun b hb hb0 => hzero (hb0 ▸ hb)) (hblank hne)
    simp only [parsePart, hdrop, hcontent, hnone, cString_append_zero hzero]
    exact ⟨by rw [← hne], fun k _ => trivial⟩
  · have hcontent : content codec part ++ 0 :: more =
        lines codec part.headers ++ (crlf ++ (part.buffer ++ 0 :: more)) := by
      rw [content, headerString_eq hne]
      simp
    have hlength : (content codec part).length = (lines codec part.headers).length + 2 + part.buffer.length := by
      rw [content, headerString_eq hne]
      simp [crlf]
      omega
    have htwo := two_le_length_lines codec hne
    rw [hcontent] at hdrop
    have hbody : buffer.drop (cursor + ((lines codec part.headers).length - 2) + 4) = part.buffer ++ 0 :: more := by
      have hbehind : cursor + ((lines codec part.headers).length - 2) + 4 =
          cursor + ((lines codec part.headers).length + 2) := by omega
      rw [hbehind, ← drop_drop, hdrop, ← drop_drop, drop_left]
      rfl
    have hfuel : part.headers.length ≤ buffer.length := by
      have hle := length_headers_le codec part.headers
      have := congrArg length hdrop
      simp only [length_drop, length_append] at this
      omega
    obtain ⟨hheaders, hbehind⟩ := parseHeaders_lines hne
      (cursor + ((lines codec part.headers).length - 2)) hdrop (by omega) hfuel
    simp only [parsePart, hdrop, strstr_blank_line hne, hbody, cString_append_zero hzero, hheaders]
    exact ⟨trivial, fun k hk => hbehind k (by omega)⟩

lemma parsePart_blank_line (hnil : part.headers = []) (hzero : 0 ∉ part.buffer)
    (hblank : crlf ++ crlf <:+: part.buffer) (hdrop : buffer.drop cursor = content codec part ++ 0 :: more) :
    (parsePart codec buffer cursor).1 ≠ part := by
  have hcontent : content codec part = part.buffer := by simp [content, headerString, hnil]
  obtain ⟨n, hn⟩ := exists_strstr (fun b hb hb0 => hzero (hb0 ▸ hb)) hblank
  have hle := add_length_le_of_strstr hn
  have hfound : strstr (crlf ++ crlf) (buffer.drop cursor) = some n := by
    rw [hdrop, hcontent]
    exact strstr_append hn
  have hbody : buffer.drop (cursor + n + 4) = part.buffer.drop (n + 4) ++ 0 :: more := by
    rw [Nat.add_assoc, ← drop_drop, hdrop, hcontent, drop_append_of_le_length (by simpa [crlf] using hle)]
  have hrest : 0 ∉ part.buffer.drop (n + 4) := fun h => hzero (mem_of_mem_drop h)
  intro heq
  have hbuffer := congrArg (fun p => p.buffer.length) heq
  simp only [parsePart, hfound, hbody, cString_append_zero hrest, length_drop] at hbuffer
  simp [crlf] at hle
  omega

end

/-! ### The parts -/

def afterBoundary (codec : HeaderCodec H) (boundary : Boundary) : List (Part H) → Bytes
  | [] => bytes ['-', '-'] ++ crlf ++ [0]
  | part :: parts =>
    crlf ++ (content codec part ++ (crlf ++ (boundary.dashBoundary ++ afterBoundary codec boundary parts)))

lemma partsText_append_zero (boundary : Boundary) (parts : List (Part H)) :
    partsText codec boundary false parts ++ [0] =
      crlf ++ (boundary.dashBoundary ++ afterBoundary codec boundary parts) := by
  induction parts with
  | nil => simp [partsText, closing, afterBoundary]
  | cons part parts ih =>
    rw [partsText, append_assoc, ih]
    simp [partText, separator, afterBoundary, content]

lemma not_mem_dashBoundary (boundary : Boundary) :
    0 ∉ boundary.dashBoundary ∧ 13 ∉ boundary.dashBoundary ∧ 10 ∉ boundary.dashBoundary :=
  ⟨fun h => (dashBoundary_line boundary 0 h).1 rfl, fun h => (dashBoundary_line boundary 13 h).2.1 rfl,
    fun h => (dashBoundary_line boundary 10 h).2.2 rfl⟩

variable {boundary : Boundary}

/-- The next boundary is the one that was written behind the part, unless a 0 byte ends the search before. -/
lemma strstr_dashBoundary {part : Part H} {more : Bytes} (hdash : ¬ boundary.dashBoundary <:+: content codec part) :
    strstr boundary.dashBoundary (content codec part ++ (crlf ++ (boundary.dashBoundary ++ more))) =
      if 0 ∈ part.buffer then none else some ((content codec part).length + 2) := by
  obtain ⟨hzero, hcr, hlf⟩ := not_mem_dashBoundary boundary
  have hne := dashBoundary_ne_nil boundary
  split_ifs with hmem
  · obtain ⟨a, b, heq, ha⟩ := eq_append_cons_of_mem hmem
    have hsplit : content codec part = headerString codec part.headers ++ a ++ 0 :: b := by
      simp [content, heq]
    have hbefore : ∀ c ∈ headerString codec part.headers ++ a, c ≠ 0 := by
      intro c hc
      rcases mem_append.1 hc with hc | hc
      · exact headerString_ne_zero _ c hc
      · rintro rfl
        exact ha hc
    have hinfix : ¬ boundary.dashBoundary <:+: headerString codec part.headers ++ a := by
      intro h
      rw [hsplit] at hdash
      exact hdash (h.trans (prefix_append _ _).isInfix)
    rw [hsplit, append_assoc, cons_append]
    exact strstr_append_zero hne hzero hbefore hinfix
  · have hcontent : ∀ c ∈ content codec part, c ≠ 0 := by
      intro c hc
      rcases mem_append.1 hc with hc | hc
      · exact headerString_ne_zero _ c hc
      · rintro rfl
        exact hmem hc
    have hfound : strstr boundary.dashBoundary (boundary.dashBoundary ++ more) = some 0 := by
      obtain ⟨c, text, htext⟩ := exists_cons_of_ne_nil hne
      rw [htext]
      exact strstr_cons_of_prefix (prefix_append _ _)
    rw [show crlf ++ (boundary.dashBoundary ++ more) = 13 :: 10 :: (boundary.dashBoundary ++ more) from rfl,
      strstr_append_cons hcr hcontent hdash, strstr_cons_of_not_mem hne hcr, if_neg (by decide),
      strstr_cons_of_not_mem hne hlf, if_neg (by decide), hfound]
    simp [Nat.add_comm]

section

variable {boundary : Boundary} {part : Part H} {parts : List (Part H)} {buffer : Bytes} {cursor fuel : ℕ}

lemma startsWith_of_drop {text rest : Bytes} (h : buffer.drop cursor = text ++ rest) :
    startsWith text buffer cursor = true := by
  simp [startsWith, h]

/-- The search stops in a part with a 0 byte. -/
lemma parseParts_zero (hdash : ¬ boundary.dashBoundary <:+: content codec part)
    (hdrop : buffer.drop cursor = afterBoundary codec boundary (part :: parts)) (hzero : 0 ∈ part.buffer) :
    parseParts codec boundary.dashBoundary (fuel + 1) buffer cursor = [] := by
  rw [afterBoundary] at hdrop
  have hcontent : buffer.drop (cursor + 2) = content codec part ++ (crlf ++ (boundary.dashBoundary ++
      afterBoundary codec boundary parts)) := by
    rw [← drop_drop, hdrop]
    rfl
  simp [parseParts, startsWith_of_drop hdrop, hcontent, strstr_dashBoundary hdash, hzero]

lemma parseParts_cons (fuel : ℕ) (hdash : ¬ boundary.dashBoundary <:+: content codec part)
    (hdrop : buffer.drop cursor = afterBoundary codec boundary (part :: parts)) (hzero : 0 ∉ part.buffer) :
    ∃ buffer' more, buffer'.drop (cursor + 2) = content codec part ++ 0 :: more ∧
      parseParts codec boundary.dashBoundary (fuel + 1) buffer cursor = (parsePart codec buffer' (cursor + 2)).1 ::
          (if startsWith (bytes ['-', '-'] ++ crlf) (parsePart codec buffer' (cursor + 2)).2
              (cursor + 2 + (content codec part).length + boundary.dashBoundary.length + 2) then []
            else parseParts codec boundary.dashBoundary fuel (parsePart codec buffer' (cursor + 2)).2
              (cursor + 2 + (content codec part).length + boundary.dashBoundary.length + 2)) ∧
      buffer'.drop (cursor + 2 + (content codec part).length + boundary.dashBoundary.length + 2) =
        afterBoundary codec boundary parts := by
  rw [afterBoundary] at hdrop
  have hcontent : buffer.drop (cursor + 2) = content codec part ++ (crlf ++ (boundary.dashBoundary ++
      afterBoundary codec boundary parts)) := by
    rw [← drop_drop, hdrop]
    rfl
  have hlf : buffer[cursor + 2 + ((content codec part).length + 1)]? = some 10 := by
    rw [← getElem?_drop, hcontent, getElem?_append_right (by omega)]
    simp [crlf]
  have hcr : buffer[cursor + 2 + (content codec part).length]? = some 13 := by
    rw [← getElem?_drop, hcontent, getElem?_append_right (by omega)]
    simp [crlf]
  have hend : cursor + 2 + ((content codec part).length + 2) - 2 = cursor + 2 + (content codec part).length := by
    omega
  refine ⟨buffer.set (cursor + 2 + (content codec part).length) 0,
    10 :: (boundary.dashBoundary ++ afterBoundary codec boundary parts), ?_, ?_, ?_⟩
  · rw [← set_drop, hcontent, set_append_right _ _ le_rfl]
    simp [crlf]
  · simp [parseParts, startsWith_of_drop hdrop, hcontent, strstr_dashBoundary hdash, hzero, hlf, hcr, hend]
  · rw [drop_set_of_lt (by omega), show cursor + 2 + (content codec part).length +
      boundary.dashBoundary.length + 2 = cursor + 2 + ((content codec part).length +
        (2 + boundary.dashBoundary.length)) by omega, ← drop_drop, hcontent, ← drop_drop, drop_left,
      ← drop_drop, show crlf = [13, 10] from rfl]
    simp

end

/-- The first part decides, or the parts behind it do. -/
lemma parseParts_first {part : Part H} {parts : List (Part H)} {buffer : Bytes} {cursor : ℕ} (fuel : ℕ)
    (hdash : ¬ boundary.dashBoundary <:+: content codec part)
    (hdrop : buffer.drop cursor = afterBoundary codec boundary (part :: parts)) :
    (Readable part → ∃ buffer' cursor', buffer'.drop cursor' = afterBoundary codec boundary parts ∧
      parseParts codec boundary.dashBoundary (fuel + 1) buffer cursor =
        part :: if startsWith (bytes ['-', '-'] ++ crlf) buffer' cursor' then []
          else parseParts codec boundary.dashBoundary fuel buffer' cursor') ∧
    (¬ Readable part → parseParts codec boundary.dashBoundary (fuel + 1) buffer cursor ≠ part :: parts) := by
  by_cases hzero : 0 ∈ part.buffer
  · rw [parseParts_zero hdash hdrop hzero]
    exact ⟨fun hread => absurd hzero hread.1, fun _ => (cons_ne_nil part parts).symm⟩
  · obtain ⟨buffer', more, hpart, heq, hrest⟩ := parseParts_cons fuel hdash hdrop hzero
    rw [heq]
    constructor
    · intro hread
      obtain ⟨hsame, hbehind⟩ := parsePart_readable hread hpart
      rw [hsame]
      exact ⟨_, _, (hbehind _ (by omega)).trans hrest, rfl⟩
    · intro hread hcons
      have hnil : part.headers = [] ∧ crlf ++ crlf <:+: part.buffer := by
        by_contra hgood
        refine hread ⟨hzero, fun hnil hblank => hgood ⟨hnil, hblank⟩⟩
      exact parsePart_blank_line hnil.1 hzero hnil.2 hpart (cons.inj hcons).1

lemma length_parts_lt (codec : HeaderCodec H) (boundary : Boundary) (parts : List (Part H)) :
    parts.length < (afterBoundary codec boundary parts).length := by
  induction parts with
  | nil => simp [afterBoundary, crlf, bytes]
  | cons part parts ih =>
    simp only [afterBoundary, length_append, length_cons, crlf]
    omega

/-- The parts come back if and only if they are readable. -/
lemma parseParts_eq_iff {part : Part H} {parts : List (Part H)} {buffer : Bytes} {cursor fuel : ℕ}
    (hdash : ∀ p ∈ part :: parts, ¬ boundary.dashBoundary <:+: content codec p)
    (hdrop : buffer.drop cursor = afterBoundary codec boundary (part :: parts)) (hfuel : parts.length < fuel) :
    parseParts codec boundary.dashBoundary fuel buffer cursor = part :: parts ↔ ∀ p ∈ part :: parts, Readable p := by
  induction parts generalizing part buffer cursor fuel with
  | nil =>
    obtain ⟨fuel, rfl⟩ : ∃ n, fuel = n + 1 := ⟨fuel - 1, by omega⟩
    obtain ⟨hgood, hbad⟩ := parseParts_first fuel (hdash part (by simp)) hdrop
    by_cases hread : Readable part
    · obtain ⟨buffer', cursor', hrest, heq⟩ := hgood hread
      have hover : startsWith (bytes ['-', '-'] ++ crlf) buffer' cursor' = true := startsWith_of_drop hrest
      simp [heq, hover, hread]
    · simp [hbad hread, hread]
  | cons next parts ih =>
    obtain ⟨fuel, rfl⟩ : ∃ n, fuel = n + 1 := ⟨fuel - 1, by omega⟩
    obtain ⟨hgood, hbad⟩ := parseParts_first fuel (hdash part (by simp)) hdrop
    by_cases hread : Readable part
    · obtain ⟨buffer', cursor', hrest, heq⟩ := hgood hread
      have hmore : startsWith (bytes ['-', '-'] ++ crlf) buffer' cursor' = false := by
        simp [startsWith, hrest, afterBoundary, crlf, bytes, isPrefixOf]
      rw [heq, if_neg (by simp [hmore]), forall_mem_cons]
      have hlt : parts.length < fuel := by
        simp only [length_cons] at hfuel
        omega
      have hnext := ih (fun p hp => hdash p (mem_cons_of_mem part hp)) hrest hlt
      simp only [cons.injEq, true_and, hread]
      exact hnext
    · exact iff_of_false (hbad hread) fun h => hread (h part (by simp))

/-! ### The round trip -/

/-- What was received is in the buffer, with a 0 behind it. -/
lemma foldl_recvChunk (chunks : List Bytes) (boundary : Boundary) :
    chunks.foldl recvChunk (new boundary : MultipartBodyHandler H) =
      ⟨⟨boundary.text.length + 8, chunks.flatten.length⟩, boundary, [], 0,
        if chunks = [] then [] else chunks.flatten ++ [0]⟩ := by
  induction chunks using reverseRecOn with
  | nil => rfl
  | append_singleton chunks chunk ih =>
    have htake : (if chunks = [] then [] else chunks.flatten ++ [0]).take chunks.flatten.length = chunks.flatten := by
      split_ifs with hnil
      · simp [hnil]
      · exact take_left
    rw [foldl_append, ih]
    simp only [foldl_cons, foldl_nil, recvChunk, htake]
    simp

/-- Whatever the chunks are that the body is cut into, the parts come back if and only if they are readable. -/
lemma receive_eq_iff {parts : List (Part H)} (hparts : parts ≠ [])
    (hdash : ∀ p ∈ parts, ¬ boundary.dashBoundary <:+: content codec p) {chunks : List Bytes}
    (hchunks : chunks.flatten = bodyText codec boundary parts) :
    receive codec boundary chunks = parts ↔ ∀ p ∈ parts, Readable p := by
  obtain ⟨part, parts, rfl⟩ := exists_cons_of_ne_nil hparts
  have hne : chunks ≠ [] := by
    rintro rfl
    have := length_le_partsText codec boundary true (part :: parts)
    rw [← bodyText, ← hchunks] at this
    simp at this
  have hbuffer : chunks.flatten ++ [0] = boundary.dashBoundary ++ afterBoundary codec boundary (part :: parts) := by
    rw [hchunks, bodyText, partsText, append_assoc, partsText_append_zero]
    simp [partText, separator, content, afterBoundary]
  have hstart : startsWith crlf (boundary.dashBoundary ++ afterBoundary codec boundary (part :: parts)) 0 = false := by
    simp [startsWith, Boundary.dashBoundary, crlf, bytes, isPrefixOf]
  have hfirst : startsWith boundary.dashBoundary
      (boundary.dashBoundary ++ afterBoundary codec boundary (part :: parts)) 0 = true := by
    simp [startsWith]
  have hlength : parts.length < (boundary.dashBoundary ++ afterBoundary codec boundary (part :: parts)).length := by
    rw [length_append]
    have := length_parts_lt codec boundary (part :: parts)
    simp only [length_cons] at this
    omega
  simp only [receive, foldl_recvChunk, if_neg hne, parseFinal, hbuffer, hstart, hfirst, if_true, Bool.false_eq_true,
    if_false, Nat.zero_add]
  exact parseParts_eq_iff hdash drop_left hlength

/-- As long as no overflow is reported, no call writes beyond its buffer if and only if every buffer fits. When the
body is over, its bytes are as many as were announced, and it is received as it was composed if and only if its parts
are readable. -/
theorem multipart_round_trip (codec : HeaderCodec H) (boundary : Boundary) (parts : List (Part H))
    (hparts : parts ≠ []) (hdash : ∀ p ∈ parts, ¬ boundary.dashBoundary <:+: content codec p)
    (hmemory : (compose codec boundary parts).base.expectedSize < 2 ^ 64) (sizes : List UInt64)
    (hover : NoOverflow (sendChunks codec (compose codec boundary parts) sizes)) :
    let calls := sendChunks codec (compose codec boundary parts) sizes
    (WithinBuffers calls ↔ AllFit codec calls) ∧ (Finished calls →
        ((output calls).length = (compose codec boundary parts).base.expectedSize ∧ WithinBuffers calls ∧
            (∀ chunks, chunks.flatten = output calls → receive codec boundary chunks = parts) ↔
          AllFit codec calls ∧ ∀ p ∈ parts, Readable p)) := by
  intro calls
  obtain ⟨hwithin, hfinished⟩ := sendChunks_compose boundary parts hparts hmemory sizes hover
  refine ⟨hwithin, fun hfinish => ?_⟩
  have houtput : output calls = bodyText codec boundary parts := hfinished hfinish
  have hlength : (output calls).length = (compose codec boundary parts).base.expectedSize := by
    rw [houtput, compose_eq]
  have hreceive : (∀ chunks, chunks.flatten = output calls → receive codec boundary chunks = parts) ↔
      ∀ p ∈ parts, Readable p := by
    constructor
    · intro h
      have hone : [output calls].flatten = bodyText codec boundary parts := by rw [flatten_singleton, houtput]
      exact (receive_eq_iff hparts hdash hone).1 (h [output calls] flatten_singleton)
    · intro h chunks hchunks
      exact (receive_eq_iff hparts hdash (hchunks.trans houtput)).2 h
  rw [hreceive]
  exact ⟨fun h => ⟨hwithin.1 h.2.1, h.2.2⟩, fun h => ⟨hlength, hwithin.2 h.1, h.2⟩⟩

/-! ### Examples -/

/-- Headers that are kept as the lines that they are written as. -/
def lineCodec : HeaderCodec {line : Bytes // line ≠ [] ∧ ∀ c ∈ line, c ≠ 0 ∧ c ≠ 13 ∧ c ≠ 10} where
  marshal line := line.1
  parse line := if h : line ≠ [] ∧ ∀ c ∈ line, c ≠ 0 ∧ c ≠ 13 ∧ c ≠ 10 then some ⟨line, h⟩ else none
  parse_marshal line := dif_pos line.2
  marshal_ne_nil line := line.2.1
  marshal_line line := line.2.2

def boundaryB : Boundary := ⟨bytes ['b'], by decide +kernel⟩

/-- A part with a header, and a part without that is sent in two chunks. -/
theorem multipart_round_trip_two_parts :
    let parts := [⟨[⟨bytes ['X', ':', 'y'], by decide +kernel⟩], bytes ['a']⟩, ⟨[], bytes ['h', 'e', 'l', 'l', 'o']⟩]
    let calls := sendChunks lineCodec (compose lineCodec boundaryB parts) [30, 20, 30]
    (WithinBuffers calls ↔ AllFit lineCodec calls) ∧ (Finished calls →
        ((output calls).length = (compose lineCodec boundaryB parts).base.expectedSize ∧ WithinBuffers calls ∧
            (∀ chunks, chunks.flatten = output calls → receive lineCodec boundaryB chunks = parts) ↔
          AllFit lineCodec calls ∧ ∀ p ∈ parts, Readable p)) := by
  intro parts
  refine multipart_round_trip lineCodec boundaryB parts (by simp [parts]) ?_ (by decide +kernel) [30, 20, 30] ?_
  · decide +kernel
  · unfold NoOverflow
    decide +kernel

/-- A 0 byte, or a blank line in a part without headers, and the parts do not come back; a buffer that is smaller than
the end of the body is written beyond its end. -/
theorem multipart_round_trip_fails :
    (∀ part ∈ [(⟨[], [97, 0, 98]⟩ : Part {line : Bytes // line ≠ [] ∧ ∀ c ∈ line, c ≠ 0 ∧ c ≠ 13 ∧ c ≠ 10}),
        ⟨[], [97, 13, 10, 13, 10, 98]⟩],
      let calls := sendChunks lineCodec (compose lineCodec boundaryB [part]) [100]
      NoOverflow calls ∧ Finished calls ∧ receive lineCodec boundaryB [output calls] ≠ [part]) ∧
    let calls := sendChunks lineCodec (compose lineCodec boundaryB [⟨[], [97]⟩]) [4]
    NoOverflow calls ∧ Finished calls ∧ ¬ WithinBuffers calls := by
  unfold NoOverflow Finished WithinBuffers
  decide +kernel

end BelleSip.MultipartBodyHandler
