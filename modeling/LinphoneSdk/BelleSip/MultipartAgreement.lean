import LinphoneSdk.BelleSip.BodyHandler
import LinphoneSdk.BelleSip.MultipartBounds
import Mathlib.Data.List.Forall2

/-!
# The parts of a received body

Where the routine that is followed byte by byte stays inside the buffer, its ranges hold the parts that the handler
makes.
-/

namespace BelleSip.MultipartBounds

open CString Exec List

variable {H : Type} (codec : HeaderCodec H)

/-- The length of what a line is parsed to. -/
def headerLength (line : Bytes) : Option ℕ := (codec.parse line).map fun h => (codec.marshal h).length

def Range.text (r : Range) (buffer : Bytes) : Bytes := (buffer.drop r.start).take r.length

def MemoryPart.read (part : MemoryPart) (buffer : Bytes) : Part H :=
  ⟨part.headers.filterMap fun h => codec.parse (h.line.text buffer), part.body.text buffer⟩

/-- Bytes were overwritten by 0. -/
def Cut (buffer buffer' : Bytes) : Prop := Forall₂ (fun b b' => b' = b ∨ b' = 0) buffer buffer'

variable {codec} {buffer buffer' : Bytes}

lemma Cut.refl (buffer : Bytes) : Cut buffer buffer := forall₂_same.mpr fun _ _ => .inl rfl

lemma Cut.set (h : Cut buffer buffer') (i : ℕ) : Cut buffer (buffer'.set i 0) := by
  induction h generalizing i with
  | nil => exact .nil
  | cons hb h ih =>
    cases i with
    | zero => exact .cons (.inr rfl) h
    | succ i => exact .cons hb (ih i)

lemma Cut.cString_prefix (h : Cut buffer buffer') : cString buffer' <+: buffer := by
  induction h with
  | nil => exact nil_prefix
  | @cons b b' _ _ hb _ ih =>
    rw [cString, takeWhile_cons]
    split_ifs with hzero
    · obtain rfl := hb.resolve_right (by simpa using hzero)
      exact cons_prefix_cons.mpr ⟨rfl, ih⟩
    · exact nil_prefix

/-- A string of the buffer is what was there first. -/
lemma Cut.text_cString (h : Cut buffer buffer') (cursor : ℕ) :
    Range.text ⟨cursor, (cString (buffer'.drop cursor)).length⟩ buffer = cString (buffer'.drop cursor) :=
  (prefix_iff_eq_take.mp (Cut.cString_prefix (forall₂_drop cursor h))).symm

variable {m : Handler}

lemma wp_parseHeaders_agrees {fuel turns : ℕ} (hfuel : turns ≤ fuel) (endHeaders cursor : ℕ)
    (hcut : Cut buffer m.buffer) :
    wp (parseHeaders (headerLength codec) endHeaders turns cursor)
      (fun headers m' => MultipartBodyHandler.parseHeaders codec endHeaders fuel m.buffer cursor =
          (headers.filterMap fun h => codec.parse (h.line.text buffer), m'.buffer) ∧
        m' = { m with buffer := m'.buffer } ∧ Cut buffer m'.buffer) (fun e _ => e ≠ .returned) m := by
  induction turns generalizing m fuel cursor with
  | zero => exact fun h => by cases h
  | succ turns ih =>
    obtain ⟨fuel, rfl⟩ : ∃ k, fuel = k + 1 := ⟨fuel - 1, by omega⟩
    rw [parseHeaders, wp_bind, wp_stringAt]
    refine ⟨fun _ => ?_, fun _ => by simp⟩
    rw [MultipartBodyHandler.parseHeaders]
    cases strstr crlf (m.buffer.drop cursor) with
    | none => exact fun h => by cases h
    | some n =>
      dsimp only
      rw [wp_bind, wp_cut]
      refine ⟨fun _ => ?_, fun _ => by simp⟩
      have hcut' : Cut buffer (m.buffer.set (cursor + n) 0) := hcut.set _
      rw [wp_bind, wp_stringAt]
      refine ⟨fun _ => ?_, fun _ => by simp⟩
      have hown : filterMap (fun h : HeaderLine => codec.parse (h.line.text buffer))
          ((headerLength codec (cString ((m.buffer.set (cursor + n) 0).drop cursor))).map fun length =>
            (⟨⟨cursor, (cString ((m.buffer.set (cursor + n) 0).drop cursor)).length⟩, length⟩ : HeaderLine)).toList =
          (codec.parse (cString ((m.buffer.set (cursor + n) 0).drop cursor))).toList := by
        have htext := hcut'.text_cString cursor
        cases hparse : codec.parse (cString ((m.buffer.set (cursor + n) 0).drop cursor)) with
        | none => simp [headerLength, hparse]
        | some h => simp [headerLength, hparse, htext]
      rw [wp_ite]
      refine ⟨fun hend => ?_, fun hmore => ?_⟩
      · rw [if_pos hend, wp_pure, hown]
        exact ⟨rfl, rfl, hcut'⟩
      · rw [if_neg hmore, wp_bind]
        refine wp_mono (ih (Nat.le_of_succ_le_succ hfuel) _ hcut') (fun headers m' h => ?_) (fun _ _ h => h)
        obtain ⟨heq, hkept, hcut''⟩ := h
        rw [wp_pure, filterMap_append, hown, heq]
        exact ⟨rfl, hkept, hcut''⟩

lemma wp_parsePart_agrees (cursor : ℕ) (hcut : Cut buffer m.buffer) :
    wp (parsePart (headerLength codec) cursor)
      (fun part m' => MultipartBodyHandler.parsePart codec m.buffer cursor = (part.read codec buffer, m'.buffer) ∧
        m' = { m with buffer := m'.buffer } ∧ Cut buffer m'.buffer) (fun e _ => e ≠ .returned) m := by
  rw [parsePart, wp_bind, wp_stringAt]
  refine ⟨fun _ => ?_, fun _ => by simp⟩
  rw [MultipartBodyHandler.parsePart]
  cases strstr (crlf ++ crlf) (m.buffer.drop cursor) with
  | none =>
    dsimp only
    rw [wp_pure, MemoryPart.read, hcut.text_cString]
    exact ⟨rfl, rfl, hcut⟩
  | some n =>
    dsimp only
    rw [wp_bind, wp_stringAt]
    refine ⟨fun _ => ?_, fun _ => by simp⟩
    have hturns : (m.buffer.drop cursor).length ≤ m.buffer.length := by
      rw [length_drop]
      exact Nat.sub_le _ _
    rw [wp_bind]
    refine wp_mono (wp_parseHeaders_agrees hturns _ _ hcut) (fun headers m' h => ?_) (fun _ _ h => h)
    obtain ⟨heq, hkept⟩ := h
    rw [wp_pure, MemoryPart.read, hcut.text_cString, heq]
    exact ⟨rfl, hkept⟩

lemma startsWith_iff {text : Bytes} (buffer : Bytes) (cursor : ℕ) :
    MultipartBodyHandler.startsWith text buffer cursor ↔ text <+: buffer.drop cursor :=
  isPrefixOf_iff_prefix

lemma parseParts_of_opens (fuel : ℕ) {cursor n : ℕ} (h : OpensPart m.dashBoundary (m.buffer.drop cursor) n)
    {part : Part H} (hpart : MultipartBodyHandler.parsePart codec (m.buffer.set (endPart m (cursor + 2 + n)) 0)
      (cursor + 2) = (part, buffer')) :
    MultipartBodyHandler.parseParts codec m.dashBoundary (fuel + 1) m.buffer cursor =
      part :: if bytes ['-', '-'] ++ crlf <+: buffer'.drop (cursor + 2 + n + m.dashBoundary.length) then []
        else MultipartBodyHandler.parseParts codec m.dashBoundary fuel buffer'
          (cursor + 2 + n + m.dashBoundary.length) := by
  have hfound : strstr m.dashBoundary (m.buffer.drop (cursor + 2)) = some n := by
    rw [← drop_drop]
    exact h.found
  have hend : (if m.buffer[cursor + 2 + n - 1]? = some 10 ∧ m.buffer[cursor + 2 + n - 2]? = some 13
      then cursor + 2 + n - 2 else cursor + 2 + n) = endPart m (cursor + 2 + n) := rfl
  have hnext : (endPart m (cursor + 2 + n) + m.dashBoundary.length +
      if m.buffer[cursor + 2 + n - 1]? = some 10 ∧ m.buffer[cursor + 2 + n - 2]? = some 13 then 2 else 0) =
        cursor + 2 + n + m.dashBoundary.length := by
    rw [← hend]
    split_ifs <;> omega
  simp only [MultipartBodyHandler.parseParts, startsWith_iff, h.crlf_prefix, if_true, hfound, hend, hpart, hnext]

variable (codec) in
/-- The parts that are added are those that the loop of the handler makes. -/
lemma wp_parseParts_agrees {fuel turns : ℕ} (hfuel : turns ≤ fuel) (cursor : ℕ) (hcut : Cut buffer m.buffer) :
    let agrees (m' : Handler) := m'.parts.map (·.read codec buffer) = m.parts.map (·.read codec buffer) ++
      MultipartBodyHandler.parseParts codec m.dashBoundary fuel m.buffer cursor
    wp (parseParts (headerLength codec) turns cursor) (fun _ => agrees) (fun e m' => e = .returned → agrees m') m := by
  intro agrees
  induction turns generalizing m fuel cursor with
  | zero => exact fun h => by cases h
  | succ turns ih =>
    obtain ⟨fuel, rfl⟩ : ∃ k, fuel = k + 1 := ⟨fuel - 1, by omega⟩
    rw [parseParts, wp_bind]
    by_cases hzero : 0 ∈ m.buffer.drop cursor
    swap
    · rw [parseNext, wp_bind, wp_get, wp_bind, wp_stringAt]
      exact ⟨fun h => absurd h hzero, fun _ => by simp⟩
    by_cases hopens : ∃ n, OpensPart m.dashBoundary (m.buffer.drop cursor) n
    · obtain ⟨n, hn⟩ := hopens
      refine wp_parseNext_of_opens hzero hn ?_
      have hcut' : Cut buffer (m.buffer.set (endPart m (cursor + 2 + n)) 0) := hcut.set _
      refine wp_mono (wp_parsePart_agrees (m := { m with buffer := m.buffer.set (endPart m (cursor + 2 + n)) 0 })
        (cursor + 2) hcut') (fun part m' h => ?_) (fun _ _ h he => absurd he h)
      obtain ⟨hpart, hkept, hcut''⟩ := h
      have heq := parseParts_of_opens fuel hn hpart
      rw [wp_bind, wp_stringAt]
      refine ⟨fun _ => ?_, fun _ => by simp⟩
      have hparts : (m'.addPart part).parts = m.parts ++ [part] := by rw [hkept]; rfl
      have hdash : (m'.addPart part).dashBoundary = m.dashBoundary := by rw [hkept]; rfl
      have hbuffer : (m'.addPart part).buffer = m'.buffer := rfl
      rw [wp_ite, hbuffer]
      refine ⟨fun hlast => ?_, fun hmore => ?_⟩
      · rw [wp_pure]
        change (m'.addPart part).parts.map _ = _
        rw [heq, if_pos hlast, hparts, map_append, map_singleton]
      · have hrest := ih (Nat.le_of_succ_le_succ hfuel) (cursor + 2 + n + m.dashBoundary.length)
          (m := m'.addPart part) hcut''
        simp only [hparts, hdash, hbuffer, map_append, map_singleton, append_assoc, singleton_append] at hrest
        simp only [agrees]
        rw [heq, if_neg hmore]
        exact hrest
    · refine wp_mono (wp_parseNext_of_not_opens hzero hopens) (fun _ _ h => h.elim) (fun e m' h _ => ?_)
      have hnil : MultipartBodyHandler.parseParts codec m.dashBoundary (fuel + 1) m.buffer cursor = [] := by
        simp only [MultipartBodyHandler.parseParts, startsWith_iff]
        split_ifs with hcrlf
        · cases hfound : strstr m.dashBoundary (m.buffer.drop (cursor + 2)) with
          | none => rfl
          | some n => exact absurd ⟨n, hcrlf, by rwa [drop_drop]⟩ hopens
        · rfl
      simp only [agrees, h.2, hnil, append_nil]

/-- Where the routine returns, the parts that it added are those that the handler makes of the buffer. -/
theorem parseFinal_of_parse_final {handler : MultipartBodyHandler H} {m m' : Handler} (hbuffer : handler.buffer = m.buffer)
    (hboundary : handler.boundary.text = m.boundary) (hparts : m.parts = [])
    (h : parse_final (headerLength codec) m = .ok () m' ∨ parse_final (headerLength codec) m = .error .returned m') :
    MultipartBodyHandler.parseFinal codec handler = m'.parts.map (·.read codec m.buffer) := by
  have hdash : handler.boundary.dashBoundary = m.dashBoundary := by
    rw [Boundary.dashBoundary, hboundary, Handler.dashBoundary]
  have hwp : wp (parse_final (headerLength codec))
      (fun _ m' => MultipartBodyHandler.parseFinal codec handler = m'.parts.map (·.read codec m.buffer))
      (fun e m' => e = .returned →
        MultipartBodyHandler.parseFinal codec handler = m'.parts.map (·.read codec m.buffer)) m := by
    by_cases hzero : 0 ∈ m.buffer
    · rw [wp_parse_final hzero]
      have hfirst : (if MultipartBodyHandler.startsWith crlf m.buffer 0 then 2 else 0) = m.firstDelimiter := by
        simp only [startsWith_iff, drop_zero, Handler.firstDelimiter]
      have hagrees := wp_parseParts_agrees codec (le_refl m.buffer.length)
        (m.firstDelimiter + m.dashBoundary.length) (Cut.refl m.buffer)
      rw [hparts, map_nil] at hagrees
      rw [MultipartBodyHandler.parseFinal, hbuffer, hdash, hfirst]
      simp only [startsWith_iff]
      refine ⟨fun hdelimiter => ?_, fun hnone _ => by rw [if_neg hnone, hparts, map_nil]⟩
      rw [if_pos hdelimiter]
      exact wp_mono hagrees (fun _ _ h => h.symm) fun _ _ h he => (h he).symm
    · rw [parse_final, wp_bind, wp_get, wp_bind, wp_stringAt]
      exact ⟨fun h => absurd h hzero, fun _ => by simp⟩
  rcases h with h | h
  · rw [wp, h] at hwp
    exact hwp
  · rw [wp, h] at hwp
    exact hwp rfl

end BelleSip.MultipartBounds
