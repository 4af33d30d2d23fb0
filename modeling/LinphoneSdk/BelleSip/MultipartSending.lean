import LinphoneSdk.BelleSip.BodyHandler
import Mathlib.Data.List.Induction

/-!
# The chunks of a multipart body

The chunks of any transfer make up the body, one after the other. A chunk stays in its buffer if the buffer has room for
the end of the body.
-/

namespace BelleSip

open CString List

variable {H : Type} {codec : HeaderCodec H}

lemma sizeSub_of_le {a b : ℕ} (h : b ≤ a) (ha : a < 2 ^ 64) : sizeSub a b = a - b := by
  unfold sizeSub
  omega

/-- The difference wraps around. -/
lemma sizeSub_of_lt {a b : ℕ} (h : a < b) (hb : b ≤ 2 ^ 64) : sizeSub a b = 2 ^ 64 + a - b := by
  unfold sizeSub
  omega

/-! ### The chunks of a part -/

/-- The handler of a part that is not sent yet, or that is being sent. -/
def PartHandler.Unfinished (part : PartHandler H) : Prop :=
  part.transferedSize = 0 ∨ part.transferedSize < part.buffer.length

def PartHandler.left (part : PartHandler H) : ℕ := part.buffer.length - part.transferedSize

lemma PartHandler.sendChunk_eq {part : PartHandler H} {size : ℕ} (hpart : part.Unfinished)
    (hlength : part.buffer.length < 2 ^ 64) :
    part.sendChunk size = ({ part with transferedSize := part.transferedSize + min size part.left },
      ⟨if min size part.left = part.left then .belleSipStop else .belleSipContinue,
        (part.buffer.drop part.transferedSize).take (min size part.left), min size part.left, min size part.left⟩) := by
  have hle : part.transferedSize ≤ part.buffer.length := by
    rcases hpart with h | h <;> omega
  have hsub : sizeSub part.buffer.length part.transferedSize = part.left := sizeSub_of_le hle hlength
  unfold PartHandler.sendChunk BodyHandler.sendChunk memorySendChunk
  simp only [hsub]
  by_cases hempty : part.buffer.length = 0
  · have hzero : part.transferedSize = 0 := by omega
    have hleft : part.left = 0 := by
      unfold PartHandler.left
      omega
    have hnil : part.buffer = [] := length_eq_zero_iff.1 hempty
    by_cases hsize : size = 0
    · simp [hzero, hleft, hnil, hsize]
    · simp [hzero, hleft, hnil, hsize]
  · have hlt : part.transferedSize < part.buffer.length := by
      rcases hpart with h | h <;> omega
    have hmin : min (min size part.left) part.left = min size part.left := by omega
    have hdone : part.transferedSize + min size part.left = part.buffer.length ↔ part.left = min size part.left := by
      unfold PartHandler.left
      omega
    simp only [hempty, ne_eq, not_false_eq_true, if_true, hlt.ne, and_false, if_false, hmin, hdone, true_and,
      eq_comm (a := part.left)]
    split_ifs <;> rfl

/-! ### The body -/

namespace MultipartBodyHandler

def partText (codec : HeaderCodec H) (boundary : Boundary) (isFirst : Bool) (part : Part H) : Bytes :=
  separator boundary isFirst ++ headerString codec part.headers ++ part.buffer

def partsText (codec : HeaderCodec H) (boundary : Boundary) : Bool → List (Part H) → Bytes
  | _, [] => closing boundary
  | isFirst, part :: parts => partText codec boundary isFirst part ++ partsText codec boundary false parts

def bodyText (codec : HeaderCodec H) (boundary : Boundary) (parts : List (Part H)) : Bytes :=
  partsText codec boundary true parts

variable (boundary : Boundary)

@[simp] lemma length_separator (isFirst : Bool) :
    (separator boundary isFirst).length = (if isFirst then 0 else 2) + (boundary.text.length + 4) := by
  cases isFirst <;> simp [separator, Boundary.dashBoundary, crlf, bytes]
  omega

@[simp] lemma length_closing : (closing boundary).length = boundary.text.length + 8 := by
  simp [closing, Boundary.dashBoundary, crlf, bytes]

lemma length_le_partsText (codec : HeaderCodec H) (boundary : Boundary) (isFirst : Bool) (parts : List (Part H)) :
    boundary.text.length + 8 ≤ (partsText codec boundary isFirst parts).length := by
  induction parts generalizing isFirst with
  | nil => simp [partsText]
  | cons part parts ih =>
    simp only [partsText, length_append]
    have := ih false
    omega

lemma length_buffer_le (isFirst : Bool) {parts : List (Part H)} {part : Part H} (hpart : part ∈ parts) :
    part.buffer.length ≤ (partsText codec boundary isFirst parts).length := by
  induction parts generalizing isFirst with
  | nil => cases hpart
  | cons q parts ih =>
    simp only [partsText, partText, length_append]
    rcases mem_cons.1 hpart with rfl | hpart
    · omega
    · have := ih false hpart
      omega

lemma partsText_append (isFirst : Bool) (parts : List (Part H)) (part : Part H) :
    (partsText codec boundary isFirst (parts ++ [part])).length = (partsText codec boundary isFirst parts).length +
        (partText codec boundary (isFirst && parts.isEmpty) part).length := by
  induction parts generalizing isFirst with
  | nil =>
    simp only [nil_append, partsText, length_append, isEmpty_nil, Bool.and_true]
    omega
  | cons q parts ih =>
    simp only [cons_append, partsText, length_append, ih, Bool.false_and, isEmpty_cons, Bool.and_false]
    omega

/-- The handler of all the parts: the size that it expects is that of the body. -/
lemma compose_eq (parts : List (Part H)) : compose codec boundary parts =
      ⟨⟨(bodyText codec boundary parts).length, 0⟩, boundary, parts.map (⟨·, 0⟩), 0, []⟩ := by
  induction parts using reverseRecOn with
  | nil => simp [compose, new, bodyText, partsText]
  | append_singleton parts part ih =>
    rw [compose, foldl_append, ← compose, ih]
    simp only [foldl_cons, foldl_nil, addPart, bodyText, partsText_append, Bool.true_and,
      map_append, map_cons, map_nil, map_eq_nil_iff]
    have hlength : (partText codec boundary parts.isEmpty part).length = (if parts = [] then 0 else 2) +
        (part.buffer.length + boundary.text.length + 4) + (headerString codec part.headers).length := by
      cases parts <;> simp [partText] <;> omega
    rw [hlength]
    simp [Nat.add_assoc]

/-! ### What is left of a body -/

/-- What is in front of the bytes of the part in its first chunk. -/
def preamble (codec : HeaderCodec H) (boundary : Boundary) (isFirst : Bool) (part : PartHandler H) : Bytes :=
  if part.transferedSize = 0 then separator boundary isFirst ++ headerString codec part.headers else []

inductive Remaining (codec : HeaderCodec H) (m : MultipartBodyHandler H) : Bytes → Prop
  | finished (h : m.base.transferedSize = m.base.expectedSize) : Remaining codec m []
  | current (sent : List (PartHandler H)) (part : PartHandler H) (next : List (PartHandler H))
      (hparts : m.parts = sent ++ part :: next) (hcurrent : m.transferCurrentPart = sent.length)
      (hpart : part.Unfinished) (hlength : part.buffer.length < 2 ^ 64)
      (hnext : ∀ p ∈ next, p.transferedSize = 0 ∧ p.buffer.length < 2 ^ 64) :
      Remaining codec m (preamble codec m.boundary sent.isEmpty part ++ part.buffer.drop part.transferedSize ++
        partsText codec m.boundary false (next.map (·.toPart)))

/-- Where a call would write that has no room for the end of the body: the size does not stop it. -/
def uncheckedReach (codec : HeaderCodec H) (m : MultipartBodyHandler H) : ℕ :=
  match m.parts[m.transferCurrentPart]? with
  | none => 0
  | some part =>
    let isFirst : Bool := m.transferCurrentPart = 0
    let separatorEnd := if part.transferedSize = 0 then (separator m.boundary isFirst).length + 1 else 0
    let isLast := m.transferCurrentPart + 1 = m.parts.length
    max separatorEnd ((preamble codec m.boundary isFirst part).length + part.left +
      if isLast then m.boundary.text.length + 8 else 0)

/-- The buffer has room for the end of the body, or for all that is written without a check. -/
def Fits (codec : HeaderCodec H) (m : MultipartBodyHandler H) (size : ℕ) : Prop :=
  m.base.transferedSize = m.base.expectedSize ∨ m.boundary.text.length + 8 ≤ size ∨ m.uncheckedReach codec ≤ size

/-- The bytes of the current part, and the end of the body behind the last part. -/
lemma sendPart_eq {m : MultipartBodyHandler H} {sent next : List (PartHandler H)} {part : PartHandler H}
    {text : Bytes} {reach size : ℕ} (hparts : m.parts = sent ++ part :: next)
    (hcurrent : m.transferCurrentPart = sent.length) (hpart : part.Unfinished)
    (hlength : part.buffer.length < 2 ^ 64) :
    let k := min size part.left
    let m' := { m with parts := sent ++ { part with transferedSize := part.transferedSize + k } :: next }
    let bytes := text ++ (part.buffer.drop part.transferedSize).take k
    let reach' := max reach (text.length + k)
    m.sendPart part text reach size = if k ≠ part.left then (m', ⟨.belleSipContinue, bytes, k + text.length, reach'⟩)
      else if next ≠ [] then
        ({ m' with transferCurrentPart := sent.length + 1 }, ⟨.belleSipContinue, bytes, k + text.length, reach'⟩)
      else (m', ⟨.belleSipStop, bytes ++ closing m.boundary, k + text.length + (m.boundary.text.length + 8),
        max reach' (k + text.length + (m.boundary.text.length + 8))⟩) := by
  intro k m' bytes reach'
  have hset (p : PartHandler H) : m.parts.set m.transferCurrentPart p = sent ++ p :: next := by
    rw [hparts, hcurrent, set_append_right _ _ le_rfl]
    simp
  unfold sendPart
  simp only [PartHandler.sendChunk_eq hpart hlength, hset]
  by_cases hk : min size part.left = part.left
  · by_cases hnext : next = []
    · simp [hk, k, hnext, hcurrent, bytes, m', reach']
    · have hlt : sent.length + 1 < (sent ++ part :: next).length := by
        have := length_pos_iff.2 hnext
        simp only [length_append, length_cons]
        omega
      simp [hk, k, hnext, hcurrent, bytes, m', reach', length_pos_iff.2 hnext]
  · simp [hk, k, bytes, m', reach']

/-! ### One chunk -/

section

variable {m : MultipartBodyHandler H} {sent next : List (PartHandler H)} {part : PartHandler H} {n : ℕ}

/-- How far the delimiter and the headers reach in the buffer. -/
def preambleReach (codec : HeaderCodec H) (boundary : Boundary) (isFirst : Bool) (part : PartHandler H) : ℕ :=
  if part.transferedSize = 0 then
    max ((separator boundary isFirst).length + 1) (preamble codec boundary isFirst part).length
  else 0

lemma isFirst_eq (sent : List (PartHandler H)) : decide (sent.length = 0) = sent.isEmpty := by
  cases sent <;> rfl

/-- Without an overflow there is room for the delimiter, for the headers and for a byte of the part. -/
lemma chunkSend_eq {available : ℕ} {text : Bytes} (hparts : m.parts = sent ++ part :: next)
    (hcurrent : m.transferCurrentPart = sent.length)
    (havailable : sizeSub n (m.boundary.text.length + 8) = available)
    (htext : preamble codec m.boundary sent.isEmpty part = text)
    (hover : (m.chunkSend codec n).2.ret ≠ .belleSipBufferOverflow) :
    m.chunkSend codec n = m.sendPart part text (preambleReach codec m.boundary sent.isEmpty part)
        (available - text.length) ∧
      text.length ≤ available ∧ (part.transferedSize = 0 → text.length < available) := by
  have hget : m.parts[sent.length]? = some part := by
    simp [hparts]
  have hlt : available < 2 ^ 64 := by
    rw [← havailable, sizeSub]
    exact Nat.mod_lt _ (Nat.two_pow_pos 64)
  have hreach : preambleReach codec m.boundary sent.isEmpty part =
      if part.transferedSize = 0 then max ((separator m.boundary sent.isEmpty).length + 1) text.length else 0 := by
    rw [preambleReach, htext]
  simp only [chunkSend, hcurrent, hget, isFirst_eq, havailable] at hover ⊢
  by_cases hzero : part.transferedSize = 0
  · have hlength : text.length = (separator m.boundary sent.isEmpty).length +
        (headerString codec part.headers).length := by
      rw [← htext, preamble, if_pos hzero, length_append]
    have happend : separator m.boundary sent.isEmpty ++ headerString codec part.headers = text := by
      rw [← htext, preamble, if_pos hzero]
    rw [if_pos hzero] at hover hreach ⊢
    split_ifs at hover ⊢ with hsmall
    · exact absurd rfl hover
    · have hmax : max (min available ((separator m.boundary sent.isEmpty).length + 1)) text.length =
          max ((separator m.boundary sent.isEmpty).length + 1) text.length := by omega
      rw [happend, ← hlength, hmax, ← hreach, sizeSub_of_le (by omega) hlt]
      exact ⟨rfl, by omega, fun _ => by omega⟩
  · have hnil : text = [] := by
      rw [← htext, preamble, if_neg hzero]
    rw [if_neg hzero] at hreach ⊢
    rw [hnil, hreach]
    exact ⟨rfl, by simp, fun h => absurd h hzero⟩

section

variable (hparts : m.parts = sent ++ part :: next) (hcurrent : m.transferCurrentPart = sent.length)
include hparts hcurrent

lemma uncheckedReach_eq :
    m.uncheckedReach codec = max (if part.transferedSize = 0 then (separator m.boundary sent.isEmpty).length + 1 else 0)
      ((preamble codec m.boundary sent.isEmpty part).length + part.left +
        if next = [] then m.boundary.text.length + 8 else 0) := by
  have hget : m.parts[sent.length]? = some part := by
    simp [hparts]
  have hlast : sent.length + 1 = m.parts.length ↔ next = [] := by
    rw [hparts, ← length_eq_zero_iff, length_append, length_cons]
    omega
  simp only [uncheckedReach, hcurrent, hget, isFirst_eq, hlast]

/-- The bytes of a chunk come first in what is left of the body. -/
lemma chunkSend_bytes
    (hpart : part.Unfinished) (hlength : part.buffer.length < 2 ^ 64)
    (hnext : ∀ p ∈ next, p.transferedSize = 0 ∧ p.buffer.length < 2 ^ 64)
    (hover : (m.chunkSend codec n).2.ret ≠ .belleSipBufferOverflow) :
    ∃ rest, preamble codec m.boundary sent.isEmpty part ++ part.buffer.drop part.transferedSize ++
        partsText codec m.boundary false (next.map (·.toPart)) = (m.chunkSend codec n).2.bytes ++ rest ∧
      (m.chunkSend codec n).2.size = (m.chunkSend codec n).2.bytes.length ∧
      (m.chunkSend codec n).1.boundary = m.boundary ∧
      (rest = [] ∧ (m.chunkSend codec n).2.ret = .belleSipStop ∨
        rest ≠ [] ∧ (m.chunkSend codec n).2.ret = .belleSipContinue ∧
          ∀ base, Remaining codec { (m.chunkSend codec n).1 with base } rest) := by
  obtain ⟨heq, -, hroom⟩ := chunkSend_eq hparts hcurrent rfl rfl hover
  rw [heq, sendPart_eq hparts hcurrent hpart hlength]
  generalize sizeSub n (m.boundary.text.length + 8) = available at hroom
  set text := preamble codec m.boundary sent.isEmpty part with htext
  set k := min (available - text.length) part.left with hk
  clear_value k text
  have hleft : (part.buffer.drop part.transferedSize).length = part.left := length_drop
  have htake : ((part.buffer.drop part.transferedSize).take k).length = k := by
    rw [length_take, hleft]
    omega
  have htail (parts : List (Part H)) : partsText codec m.boundary false parts ≠ [] := by
    intro hnil
    have := length_le_partsText codec m.boundary false parts
    rw [hnil, length_nil] at this
    omega
  split_ifs with hfull hlast
  · -- a part of the part: its counter is not zero any more
    have hpos : part.transferedSize + k ≠ 0 := by
      intro hzero
      have := hroom (by omega)
      omega
    have hmore : part.transferedSize + k < part.buffer.length := by
      unfold PartHandler.left at hk hfull
      omega
    refine ⟨part.buffer.drop (part.transferedSize + k) ++ partsText codec m.boundary false (next.map (·.toPart)),
      ?_, ?_, rfl, .inr ⟨by simp [htail], rfl, fun base => ?_⟩⟩
    · rw [← drop_drop]
      simp only [append_assoc, append_cancel_left_eq]
      rw [← append_assoc, take_append_drop]
    · simp only [length_append, htake]
      omega
    · have hcont := @Remaining.current H codec
        { m with
          base
          parts := sent ++ { part with transferedSize := part.transferedSize + k } :: next }
        sent _ next rfl hcurrent (.inr hmore) hlength hnext
      have hnil (isFirst : Bool) : preamble codec m.boundary isFirst
          { part with transferedSize := part.transferedSize + k } = [] := if_neg hpos
      rwa [hnil, nil_append] at hcont
  · -- the next part
    have hall : (part.buffer.drop part.transferedSize).take k = part.buffer.drop part.transferedSize :=
      take_of_length_le (by rw [hleft]; omega)
    obtain ⟨q, next, rfl⟩ := exists_cons_of_ne_nil hlast
    obtain ⟨hq, hqlength⟩ := hnext q (by simp)
    refine ⟨_, by rw [hall], ?_, rfl, .inr ⟨htail _, rfl, fun base => ?_⟩⟩
    · simp only [length_append, htake]
      omega
    · have hcont := @Remaining.current H codec
        { m with
          base
          parts := sent ++ { part with transferedSize := part.transferedSize + k } :: q :: next
          transferCurrentPart := sent.length + 1 }
        (sent ++ [{ part with transferedSize := part.transferedSize + k }]) q next (by simp) (by simp)
        (.inl hq) hqlength fun p hp => hnext p (mem_cons_of_mem q hp)
      have hempty : (sent ++ [{ part with transferedSize := part.transferedSize + k }]).isEmpty = false := by
        cases sent <;> rfl
      rw [hempty] at hcont
      simpa [preamble, hq, partsText, partText] using hcont
  · have hall : (part.buffer.drop part.transferedSize).take k = part.buffer.drop part.transferedSize :=
      take_of_length_le (by rw [hleft]; omega)
    have hnil : next = [] := not_not.1 hlast
    refine ⟨[], ?_, ?_, rfl, .inl ⟨rfl, rfl⟩⟩
    · simp [hall, hnil, partsText]
    · simp only [length_append, htake, length_closing]
      omega

lemma chunkSend_reach (hpart : part.Unfinished) (hlength : part.buffer.length < 2 ^ 64)
    (hover : (m.chunkSend codec n).2.ret ≠ .belleSipBufferOverflow)
    (htotal : (preamble codec m.boundary sent.isEmpty part).length + part.left + (m.boundary.text.length + 8) < 2 ^ 64)
    (hn : n < 2 ^ 64) :
    (m.chunkSend codec n).2.reach ≤ n ↔ m.boundary.text.length + 8 ≤ n ∨ m.uncheckedReach codec ≤ n := by
  obtain ⟨heq, hle, hroom⟩ := chunkSend_eq hparts hcurrent rfl rfl hover
  rw [heq, sendPart_eq hparts hcurrent hpart hlength, uncheckedReach_eq hparts hcurrent]
  have hpreamble : part.transferedSize = 0 →
      (separator m.boundary sent.isEmpty).length ≤ (preamble codec m.boundary sent.isEmpty part).length := by
    intro hzero
    rw [preamble, if_pos hzero, length_append]
    omega
  unfold preambleReach
  rcases Nat.lt_or_ge n (m.boundary.text.length + 8) with hsmall | hlarge
  · rw [sizeSub_of_lt hsmall (by omega)] at hle hroom ⊢
    have hk : min (2 ^ 64 + n - (m.boundary.text.length + 8) -
        (preamble codec m.boundary sent.isEmpty part).length) part.left = part.left := by omega
    simp only [hk, ne_eq, not_true_eq_false, if_false]
    by_cases hlast : next = []
    · simp only [hlast, not_true_eq_false, if_false, if_true]
      omega
    · simp only [hlast, not_false_eq_true, if_false, if_true]
      split_ifs <;> omega
  · rw [sizeSub_of_le hlarge hn] at hle hroom ⊢
    split_ifs <;> simp only [] <;> omega

lemma chunkSend_overflow_size (hover : (m.chunkSend codec n).2.ret = .belleSipBufferOverflow) :
    (m.chunkSend codec n).2.size ≤ (preamble codec m.boundary sent.isEmpty part).length := by
  have hget : m.parts[sent.length]? = some part := by
    simp [hparts]
  have hsend (text : Bytes) (reach size : ℕ) :
      (m.sendPart part text reach size).2.ret ≠ .belleSipBufferOverflow := by
    simp only [sendPart]
    split_ifs <;> simp
  simp only [chunkSend, hcurrent, hget, isFirst_eq] at hover ⊢
  split_ifs at hover ⊢ with hzero hsmall
  · rw [preamble, if_pos hzero, length_append]
    simp only []
    omega
  · exact absurd hover (hsend _ _ _)
  · exact absurd hover (hsend _ _ _)

end

/-- The bytes of the chunk come off what is left of the body. -/
lemma sendChunk_step {rest : Bytes} {size : ℕ} (hrest : Remaining codec m rest)
    (htotal : m.base.transferedSize + rest.length = m.base.expectedSize) (hpos : 0 < m.base.expectedSize)
    (hexpected : m.base.expectedSize < 2 ^ 64) (hsize : size < 2 ^ 64)
    (hover : (m.sendChunk codec size).2.ret ≠ .belleSipBufferOverflow) :
    ∃ rest', rest = (m.sendChunk codec size).2.bytes ++ rest' ∧ Remaining codec (m.sendChunk codec size).1 rest' ∧
      (m.sendChunk codec size).1.base.transferedSize + rest'.length = m.base.expectedSize ∧
      (m.sendChunk codec size).1.base.expectedSize = m.base.expectedSize ∧
      (m.sendChunk codec size).1.boundary = m.boundary ∧
      ((m.sendChunk codec size).2.ret = .belleSipStop ↔ rest' = []) ∧
      ((m.sendChunk codec size).2.reach ≤ size ↔ m.Fits codec size) := by
  have hsub : sizeSub m.base.expectedSize m.base.transferedSize = rest.length := by
    rw [sizeSub_of_le (by omega) hexpected]
    omega
  cases hrest with
  | finished hdone =>
    have heq : m.sendChunk codec size = (m, ⟨.belleSipStop, [], 0, 0⟩) := by
      rw [hdone, length_nil] at hsub
      simp [sendChunk, BodyHandler.sendChunk, hsub, hdone, hpos.ne']
    rw [heq]
    exact ⟨[], rfl, .finished hdone, htotal, rfl, rfl, by simp, by simp [Fits, hdone]⟩
  | current sent part next hparts hcurrent hpart hlength hnext =>
    set rest := preamble codec m.boundary sent.isEmpty part ++ part.buffer.drop part.transferedSize ++
      partsText codec m.boundary false (next.map (·.toPart)) with hrest
    have hclosing := length_le_partsText codec m.boundary false (next.map (·.toPart))
    have hlengths : rest.length = (preamble codec m.boundary sent.isEmpty part).length + part.left +
        (partsText codec m.boundary false (next.map (·.toPart))).length := by
      rw [hrest, length_append, length_append, length_drop]
      rfl
    have hne : m.base.transferedSize ≠ m.base.expectedSize := by omega
    set n := min size rest.length with hn
    have heq : m.sendChunk codec size = let chunk := (m.chunkSend codec n).2
        let transferedSize := m.base.transferedSize + chunk.size
        ({ (m.chunkSend codec n).1 with base := ⟨m.base.expectedSize, transferedSize⟩ },
          { chunk with ret := if transferedSize = m.base.expectedSize then .belleSipStop else chunk.ret }) := by
      simp [sendChunk, BodyHandler.sendChunk, hsub, hne, hpos.ne', hn]
    rw [heq] at hover ⊢
    have hchunk : (m.chunkSend codec n).2.ret ≠ .belleSipBufferOverflow := by
      intro hchunk
      have hle := chunkSend_overflow_size hparts hcurrent hchunk
      exact hover ((if_neg (by omega)).trans hchunk)
    obtain ⟨rest', happend, hbytes, hboundary, hret⟩ :=
      chunkSend_bytes hparts hcurrent hpart hlength hnext hchunk
    have hreach := chunkSend_reach hparts hcurrent hpart hlength hchunk (by omega) (by omega : n < 2 ^ 64)
    rw [← hrest] at happend
    have hlen : rest.length = (m.chunkSend codec n).2.size + rest'.length := by
      rw [happend, length_append, hbytes]
    have hover' : m.base.transferedSize + (m.chunkSend codec n).2.size = m.base.expectedSize ↔ rest' = [] := by
      rw [← length_eq_zero_iff]
      omega
    refine ⟨rest', happend, ?_, by simp only []; omega, rfl, hboundary, ?_, ?_⟩
    · rcases hret with ⟨rfl, -⟩ | ⟨-, -, hremaining⟩
      · exact .finished (hover'.2 rfl)
      · exact hremaining _
    · rcases hret with ⟨hnil, hstop⟩ | ⟨hmore, hcontinue, -⟩
      · simp [hnil, hstop]
      · simp [hover', hmore, hcontinue]
    · simp only [Fits, hne, false_or]
      rcases Nat.lt_or_ge size (m.boundary.text.length + 8) with hsmall | hlarge
      · have hsize : n = size := by omega
        rw [hsize] at hreach ⊢
        exact hreach
      · have hle := hreach.2 (.inl (by omega))
        exact iff_of_true (by omega) (.inl hlarge)

end

/-! ### The transfer -/

/-- A call whose answer is that the body is over. -/
def Finished (calls : List (Call H)) : Prop := ∃ call ∈ calls, call.chunk.ret = .belleSipStop

def NoOverflow (calls : List (Call H)) : Prop := ∀ call ∈ calls, call.chunk.ret ≠ .belleSipBufferOverflow

/-- No call writes beyond the size that it was given. -/
def WithinBuffers (calls : List (Call H)) : Prop := ∀ call ∈ calls, call.chunk.reach ≤ call.size.toNat

/-- Every buffer has room for what is written into it. -/
def AllFit (codec : HeaderCodec H) (calls : List (Call H)) : Prop :=
  ∀ call ∈ calls, call.handler.Fits codec call.size.toNat

lemma sendChunks_run {m : MultipartBodyHandler H} {rest : Bytes} {sizes : List UInt64}
    (hrest : Remaining codec m rest) (htotal : m.base.transferedSize + rest.length = m.base.expectedSize)
    (hpos : 0 < m.base.expectedSize) (hexpected : m.base.expectedSize < 2 ^ 64)
    (hover : NoOverflow (sendChunks codec m sizes)) :
    (WithinBuffers (sendChunks codec m sizes) ↔ AllFit codec (sendChunks codec m sizes)) ∧
      ∃ rest', rest = output (sendChunks codec m sizes) ++ rest' ∧
        (Finished (sendChunks codec m sizes) → rest' = []) := by
  induction sizes generalizing m rest with
  | nil => exact ⟨by simp [WithinBuffers, AllFit, sendChunks], rest, rfl, by simp [Finished, sendChunks]⟩
  | cons size sizes ih =>
    simp only [sendChunks, NoOverflow, forall_mem_cons] at hover
    obtain ⟨hfirst, hlater⟩ := hover
    obtain ⟨left, happend, hleft, htotal', hexpected', hboundary, hstop, hreach⟩ :=
      sendChunk_step hrest htotal hpos hexpected size.toNat_lt hfirst
    obtain ⟨hwithin, rest', hrest', hfinished⟩ :=
      ih hleft (htotal'.trans hexpected'.symm) (hexpected'.symm ▸ hpos) (hexpected'.symm ▸ hexpected) hlater
    refine ⟨?_, rest', ?_, ?_⟩
    · simp only [WithinBuffers, AllFit, sendChunks, forall_mem_cons] at hwithin ⊢
      exact and_congr hreach hwithin
    · rw [happend, hrest', ← append_assoc]
      rfl
    · rintro ⟨call, hcall, hret⟩
      rcases mem_cons.1 hcall with rfl | hcall
      · have hnil := hstop.1 hret
        rw [hnil] at hrest'
        exact (append_eq_nil_iff.1 hrest'.symm).2
      · exact hfinished ⟨call, hcall, hret⟩

/-- The transfer of a body that fits in the memory of its sender. -/
lemma sendChunks_compose (parts : List (Part H)) (hparts : parts ≠ [])
    (hmemory : (compose codec boundary parts).base.expectedSize < 2 ^ 64) (sizes : List UInt64)
    (hover : NoOverflow (sendChunks codec (compose codec boundary parts) sizes)) :
    (WithinBuffers (sendChunks codec (compose codec boundary parts) sizes) ↔
        AllFit codec (sendChunks codec (compose codec boundary parts) sizes)) ∧
      (Finished (sendChunks codec (compose codec boundary parts) sizes) →
        output (sendChunks codec (compose codec boundary parts) sizes) = bodyText codec boundary parts) := by
  have hlength (p : Part H) (hp : p ∈ parts) : p.buffer.length < 2 ^ 64 := by
    rw [compose_eq] at hmemory
    exact (length_buffer_le boundary true hp).trans_lt hmemory
  obtain ⟨part, parts, rfl⟩ := exists_cons_of_ne_nil hparts
  have hrest : Remaining codec (compose codec boundary (part :: parts)) (bodyText codec boundary (part :: parts)) := by
    rw [compose_eq]
    have hcurrent := @Remaining.current H codec
      ⟨⟨(bodyText codec boundary (part :: parts)).length, 0⟩, boundary, (part :: parts).map (⟨·, 0⟩), 0, []⟩
      [] ⟨part, 0⟩ (parts.map (⟨·, 0⟩)) rfl rfl (.inl rfl) (hlength part (by simp)) (by
        simp only [mem_map]
        rintro p ⟨q, hq, rfl⟩
        exact ⟨rfl, hlength q (mem_cons_of_mem part hq)⟩)
    simpa [preamble, bodyText, partsText, partText, Function.comp_def] using hcurrent
  have htotal : (compose codec boundary (part :: parts)).base.transferedSize +
      (bodyText codec boundary (part :: parts)).length =
      (compose codec boundary (part :: parts)).base.expectedSize := by
    rw [compose_eq]
    simp
  have hpos : 0 < (compose codec boundary (part :: parts)).base.expectedSize := by
    have := length_le_partsText codec boundary true (part :: parts)
    rw [compose_eq]
    simp only [bodyText]
    omega
  obtain ⟨hwithin, rest', happend, hfinished⟩ := sendChunks_run hrest htotal hpos hmemory hover
  refine ⟨hwithin, fun hfinish => ?_⟩
  rw [happend, hfinished hfinish, append_nil]

end MultipartBodyHandler

end BelleSip
