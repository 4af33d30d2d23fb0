import LinphoneSdk.Lib.Bytes
import Mathlib.Data.List.Infix
import Mathlib.Tactic.Common

/-!
# Annex B byte streams

`H26xUtils::nalusToByteStream` writes NAL units in a buffer, each after a start code, with prevention bytes in the
start codes that a NAL unit contains. `byteStreamToNalus` reads them.
-/

namespace H26x

open List Nat

inductive InvalidArgument where
  | noPictureStartCode
  | insufficientBufferSize
deriving DecidableEq

/-! ### Writing -/

/-- The loop that copies a NAL unit after the bytes that are written, as long as there is room. -/
def copyNalu (size : ℕ) : Bytes → Bytes → EStateM.Result InvalidArgument Bytes Unit
  | [], it => .ok () it
  | b :: src, it =>
    if size ≤ it.length then .ok () it
    else match src with
      | b₁ :: b₂ :: src =>
        if b = 0 ∧ b₁ = 0 ∧ b₂ = 1 then
          if it.length + 3 < size then copyNalu size (b₂ :: src) (it ++ [0, 0, 3])
          else .error .insufficientBufferSize it
        else copyNalu size (b₁ :: b₂ :: src) (it ++ [b])
      | src => copyNalu size src (it ++ [b])

/-- The loop over the NAL units. The start codes are written without regard to the size. -/
def writeNalus (size : ℕ) : Bool → List Bytes → Bytes → EStateM.Result InvalidArgument Bytes ℕ
  | _, [], it => .ok it.length it
  | startPicture, nalu :: nalus, it =>
    match copyNalu size nalu (it ++ (if startPicture then [0] else []) ++ [0, 0, 1]) with
    | .error e it => .error e it
    | .ok () it => if it.length = size then .error .insufficientBufferSize it else writeNalus size false nalus it

/-- The number of bytes and the bytes that are written, from the start of the buffer on. -/
def nalusToByteStream (nalus : List Bytes) (size : ℕ) : EStateM.Result InvalidArgument Bytes ℕ :=
  if size < 4 then .error .insufficientBufferSize [] else writeNalus size true nalus []

/-! ### Reading -/

def isPictureStartCode (byteStream : Bytes) : Bool :=
  4 < byteStream.length && byteStream.take 4 = [0, 0, 0, 1]

def makeNalu (removePreventionBytes : Bool) : Bytes → Bytes
  | [] => []
  | b :: it => match it with
    | b₁ :: b₂ :: b₃ :: it =>
      if removePreventionBytes ∧ b = 0 ∧ b₁ = 0 ∧ b₂ = 3 ∧ b₃ = 1 then
        0 :: 0 :: 1 :: makeNalu removePreventionBytes (b₃ :: it)
      else b :: makeNalu removePreventionBytes (b₁ :: b₂ :: b₃ :: it)
    | it => b :: makeNalu removePreventionBytes it

/-- The loop that looks for start codes after the first bytes of a NAL unit, while four bytes are left. -/
def splitNalus (nalu : Bytes) : Bytes → List Bytes
  | [] => [nalu]
  | b :: it => match it with
    | b₁ :: b₂ :: b₃ :: it =>
      if b = 0 ∧ b₁ = 0 ∧ b₂ = 1 then nalu :: splitNalus [b₃] it
      else splitNalus (nalu ++ [b]) (b₁ :: b₂ :: b₃ :: it)
    | it => [nalu ++ b :: it]

def byteStreamToNalus (byteStream : Bytes) (removePreventionBytes : Bool) : Except InvalidArgument (List Bytes) :=
  if isPictureStartCode byteStream then
    .ok ((splitNalus [] (byteStream.drop 4)).map (makeNalu removePreventionBytes))
  else .error .noPictureStartCode

/-! ### The stream of some NAL units -/

/-- A NAL unit with prevention bytes. -/
def escape : Bytes → Bytes
  | [] => []
  | b :: src => match src with
    | b₁ :: b₂ :: src =>
      if b = 0 ∧ b₁ = 0 ∧ b₂ = 1 then 0 :: 0 :: 3 :: escape (b₂ :: src) else b :: escape (b₁ :: b₂ :: src)
    | src => b :: escape src

def startCoded (nalus : List Bytes) : Bytes := nalus.flatMap fun nalu => [0, 0, 1] ++ escape nalu

/-- The byte stream of some NAL units. -/
def byteStream (nalus : List Bytes) : Bytes :=
  if nalus = [] then [] else 0 :: startCoded nalus

example : escape [0, 0, 0, 1, 5] = [0, 0, 0, 3, 1, 5] := by decide

/-! ### Prevention bytes -/

variable {b : UInt8}

lemma length_of_short {src : Bytes} (hsrc : ∀ b₁ b₂ src', src = b₁ :: b₂ :: src' → False) :
    (b :: src).length < 3 := by
  match src with
  | [] => exact Nat.lt_add_of_pos_right Nat.two_pos
  | [_] => exact lt_succ_self 2
  | b₁ :: b₂ :: src' => exact (hsrc b₁ b₂ src' rfl).elim

lemma escape_of_short {l : Bytes} (h : l.length < 3) : escape l = l := by
  match l with
  | [] => rfl
  | [_] => rfl
  | [_, _] => rfl
  | _ :: _ :: _ :: _ => exact absurd h (by simp)

lemma not_infix_of_short {pattern l : Bytes} (h : l.length < pattern.length) : ¬ pattern <:+: l :=
  fun hin => absurd hin.length_le (not_le.mpr h)

variable (l : Bytes)

lemma length_le_escape : l.length ≤ (escape l).length := by
  induction l using escape.induct with
  | case1 => exact le_rfl
  | case2 b b₁ b₂ src h ih =>
    rw [escape, if_pos h]
    exact succ_le_succ (succ_le_succ (ih.trans (le_succ _)))
  | case3 b b₁ b₂ src h ih =>
    rw [escape, if_neg h]
    exact succ_le_succ ih
  | case4 b src hsrc ih => rw [escape_of_short (length_of_short hsrc)]

lemma prefix_startCode_iff {b b₁ b₂ : UInt8} {src : Bytes} :
    [0, 0, 1] <+: b :: b₁ :: b₂ :: src ↔ b = 0 ∧ b₁ = 0 ∧ b₂ = 1 := by
  simp [cons_prefix_cons, eq_comm]

/-- A NAL unit has a prevention byte where it has a start code. -/
lemma escape_eq_or : ¬ [0, 0, 1] <:+: l ∧ escape l = l ∨ [0, 0, 1] <:+: l ∧ l.length < (escape l).length := by
  induction l using escape.induct with
  | case1 => exact .inl ⟨by decide, rfl⟩
  | case2 b b₁ b₂ src h ih =>
    have hle := length_le_escape (b₂ :: src)
    rw [escape, if_pos h]
    refine .inr ⟨(prefix_startCode_iff.mpr h).isInfix, ?_⟩
    simp only [length_cons] at hle ⊢
    omega
  | case3 b b₁ b₂ src h ih =>
    rw [escape, if_neg h, infix_cons_iff, or_iff_right (mt prefix_startCode_iff.mp h)]
    rcases ih with ⟨hno, heq⟩ | ⟨hin, hlt⟩
    · exact .inl ⟨hno, congrArg (b :: ·) heq⟩
    · exact .inr ⟨hin, succ_lt_succ hlt⟩
  | case4 b src hsrc ih =>
    have hshort := length_of_short (b := b) hsrc
    exact .inl ⟨not_infix_of_short hshort, escape_of_short hshort⟩

lemma exists_escape_cons (b : UInt8) (src : Bytes) : ∃ rest, escape (b :: src) = b :: rest := by
  match src with
  | [] => exact ⟨_, rfl⟩
  | [_] => exact ⟨_, rfl⟩
  | b₁ :: b₂ :: src =>
    rw [escape]
    split_ifs with h
    · exact ⟨_, by rw [h.1]⟩
    · exact ⟨_, rfl⟩

/-- No start code is left in a NAL unit with prevention bytes. -/
lemma not_infix_escape : ¬ [0, 0, 1] <:+: escape l := by
  induction l using escape.induct with
  | case1 => decide
  | case2 b b₁ b₂ src h ih =>
    rw [escape, if_pos h, infix_cons_iff, infix_cons_iff, infix_cons_iff]
    simp [cons_prefix_cons, ih]
  | case3 b b₁ b₂ src h ih =>
    rw [escape, if_neg h, infix_cons_iff, not_or]
    refine ⟨fun hprefix => h ?_, ih⟩
    obtain ⟨hb, hprefix⟩ := cons_prefix_cons.mp hprefix
    -- the byte after the next one is that of the NAL unit, or a zero
    match src with
    | [] =>
      have hshort : [b₁, b₂].length < 3 := lt_succ_self 2
      rw [escape_of_short hshort, cons_prefix_cons, cons_prefix_cons] at hprefix
      exact ⟨hb.symm, hprefix.1.symm, hprefix.2.1.symm⟩
    | b₃ :: src =>
      rw [escape] at hprefix
      split_ifs at hprefix
      · simp [cons_prefix_cons] at hprefix
      · obtain ⟨rest, hrest⟩ := exists_escape_cons b₂ (b₃ :: src)
        rw [hrest, cons_prefix_cons, cons_prefix_cons] at hprefix
        exact ⟨hb.symm, hprefix.1.symm, hprefix.2.1.symm⟩
  | case4 b src hsrc ih =>
    have hshort := length_of_short (b := b) hsrc
    rw [escape_of_short hshort]
    exact not_infix_of_short hshort

lemma length_makeNalu (r : Bool) (l : Bytes) : (makeNalu r l).length = l.length := by
  induction l using makeNalu.induct r with
  | case1 => rfl
  | case2 b b₁ b₂ b₃ it h ih =>
    rw [makeNalu, if_pos h]
    exact congrArg (· + 3) ih
  | case3 b b₁ b₂ b₃ it h ih =>
    rw [makeNalu, if_neg h]
    exact congrArg (· + 1) ih
  | case4 b it hit ih =>
    rw [makeNalu]
    · exact congrArg (· + 1) ih
    · exact hit

lemma prefix_prevention_iff {b b₁ b₂ b₃ : UInt8} {it : Bytes} :
    [0, 0, 3, 1] <+: b :: b₁ :: b₂ :: b₃ :: it ↔ b = 0 ∧ b₁ = 0 ∧ b₂ = 3 ∧ b₃ = 1 := by
  simp [cons_prefix_cons, eq_comm]

/-- A NAL unit is left as it is if it has no prevention byte. -/
lemma makeNalu_eq_iff : makeNalu true l = l ↔ ¬ [0, 0, 3, 1] <:+: l := by
  induction l using makeNalu.induct true with
  | case1 => decide
  | case2 b b₁ b₂ b₃ it h ih =>
    rw [makeNalu, if_pos h]
    refine iff_of_false ?_ (not_not.mpr (prefix_prevention_iff.mpr h.2).isInfix)
    simp [h.2.2.2.1]
  | case3 b b₁ b₂ b₃ it h ih =>
    have hprefix : ¬ [0, 0, 3, 1] <+: b :: b₁ :: b₂ :: b₃ :: it := fun hp => h ⟨rfl, prefix_prevention_iff.mp hp⟩
    rw [makeNalu, if_neg h, infix_cons_iff, or_iff_right hprefix, ← ih, cons_inj_right]
  | case4 b it hit ih =>
    have hshort : (b :: it).length < [0, 0, 3, 1].length := by
      match it with
      | [] | [_] | [_, _] => simp
      | b₁ :: b₂ :: b₃ :: it => exact (hit b₁ b₂ b₃ it rfl).elim
    rw [makeNalu, cons_inj_right, ih]
    · exact iff_of_true (not_infix_of_short (lt_of_succ_lt hshort)) (not_infix_of_short hshort)
    · exact hit

/-- A NAL unit comes back from its prevention bytes if it needs none. -/
lemma makeNalu_escape_iff : makeNalu true (escape l) = l ↔ ¬ [0, 0, 1] <:+: l ∧ ¬ [0, 0, 3, 1] <:+: l := by
  rcases escape_eq_or l with ⟨hno, heq⟩ | ⟨hin, hlt⟩
  · rw [heq, makeNalu_eq_iff, and_iff_right hno]
  · refine iff_of_false (fun heq => ?_) (fun h => h.1 hin)
    have hlength := congrArg length heq
    rw [length_makeNalu] at hlength
    exact hlt.ne' hlength

/-! ### Reading the stream -/

lemma startCoded_cons (nalu : Bytes) (nalus : List Bytes) :
    startCoded (nalu :: nalus) = 0 :: 0 :: 1 :: (escape nalu ++ startCoded nalus) := rfl

lemma splitNalus_cons {cur : Bytes} {it : Bytes} (h : ¬ [0, 0, 1] <+: b :: it) :
    splitNalus cur (b :: it) = splitNalus (cur ++ [b]) it := by
  match it with
  | [] | [_] | [_, _] => simp [splitNalus]
  | b₁ :: b₂ :: b₃ :: it => rw [splitNalus, if_neg (mt prefix_startCode_iff.mpr h)]

variable {nalus : List Bytes}

/-- No start code begins in a NAL unit and ends in the next start code. -/
lemma not_prefix_append_startCoded {e : Bytes} (h : ¬ [0, 0, 1] <+: b :: e) :
    ¬ [0, 0, 1] <+: b :: (e ++ startCoded nalus) := by
  match e with
  | [] => cases nalus <;> simp [startCoded, cons_prefix_cons]
  | [_] => cases nalus <;> simp [startCoded, cons_prefix_cons]
  | b₁ :: b₂ :: e =>
    intro hprefix
    exact h (prefix_startCode_iff.mpr (prefix_startCode_iff.mp hprefix))

lemma splitNalus_append {cur e rest : Bytes} (he : ¬ [0, 0, 1] <:+: e) (hrest : rest = startCoded nalus) :
    splitNalus cur (e ++ rest) = splitNalus (cur ++ e) rest := by
  induction e generalizing cur with
  | nil => rw [nil_append, append_nil]
  | cons b e ih =>
    rw [infix_cons_iff, not_or] at he
    rw [cons_append, splitNalus_cons, ih he.2, append_assoc, singleton_append]
    rw [hrest]
    exact not_prefix_append_startCoded he.1

/-- The NAL units of a stream are split where they were put together. -/
lemma splitNalus_startCoded (nalus : List Bytes) (hnalus : ∀ nalu ∈ nalus, nalu ≠ []) (cur : Bytes) :
    splitNalus cur (startCoded nalus) = cur :: nalus.map escape := by
  induction nalus generalizing cur with
  | nil => rfl
  | cons nalu nalus ih =>
    rw [forall_mem_cons] at hnalus
    obtain ⟨b, src, rfl⟩ := exists_cons_of_ne_nil hnalus.1
    obtain ⟨e, he⟩ := exists_escape_cons b src
    have hno := not_infix_escape (b :: src)
    rw [he, infix_cons_iff, not_or] at hno
    rw [startCoded_cons, he, cons_append, splitNalus, if_pos ⟨rfl, rfl, rfl⟩, splitNalus_append hno.2 rfl,
      ih hnalus.2, map_cons, he, singleton_append]

lemma byteStream_of_ne_nil (h : nalus ≠ []) : byteStream nalus = 0 :: startCoded nalus :=
  if_neg h

/-- The stream of some NAL units is read as what their prevention bytes leave. -/
theorem byteStreamToNalus_byteStream (h : nalus ≠ []) (hnalus : ∀ nalu ∈ nalus, nalu ≠ []) (r : Bool) :
    byteStreamToNalus (byteStream nalus) r = .ok (nalus.map fun nalu => makeNalu r (escape nalu)) := by
  obtain ⟨nalu, nalus, rfl⟩ := exists_cons_of_ne_nil h
  rw [forall_mem_cons] at hnalus
  obtain ⟨b, src, rfl⟩ := exists_cons_of_ne_nil hnalus.1
  obtain ⟨e, he⟩ := exists_escape_cons b src
  rw [byteStream_of_ne_nil h, startCoded_cons, he, cons_append, byteStreamToNalus, if_pos (by simp [isPictureStartCode])]
  rw [drop_succ_cons, drop_succ_cons, drop_succ_cons, drop_succ_cons, drop_zero,
    ← cons_append, ← he, splitNalus_append (not_infix_escape _) rfl, splitNalus_startCoded _ hnalus.2,
    nil_append, ← map_cons (f := escape), map_map]
  rfl

/-! ### The buffer -/

section Writing

variable {size : ℕ}

lemma copyNalu_of_full {it : Bytes} (h : size ≤ it.length) (nalu : Bytes) : copyNalu size nalu it = .ok () it := by
  cases nalu with
  | nil => rw [copyNalu]
  | cons b src =>
    rw [copyNalu.eq_def]
    exact if_pos h

lemma copyNalu_of_lt {nalu it : Bytes} (h : it.length + (escape nalu).length < size) :
    copyNalu size nalu it = .ok () (it ++ escape nalu) := by
  induction nalu using escape.induct generalizing it with
  | case1 => rw [copyNalu, escape, append_nil]
  | case2 b b₁ b₂ src hcode ih =>
    rw [escape, if_pos hcode] at h ⊢
    simp only [length_cons] at h
    rw [copyNalu, if_neg (by omega), if_pos hcode, if_pos (by omega), ih (by simp; omega), append_assoc]
    rfl
  | case3 b b₁ b₂ src hcode ih =>
    rw [escape, if_neg hcode] at h ⊢
    simp only [length_cons] at h
    rw [copyNalu, if_neg (by omega), if_neg hcode, ih (by simp; omega), append_assoc]
    rfl
  | case4 b src hsrc ih =>
    rw [escape] at h ⊢
    · rw [length_cons] at h
      rw [copyNalu, if_neg (by omega)]
      · rw [ih (by simp; omega), append_assoc]
        rfl
      · exact hsrc
    · exact hsrc
    · exact hsrc

/-- A NAL unit that does not fit fills the buffer, or is given up before a prevention byte. -/
lemma copyNalu_of_le {nalu it : Bytes} (hit : it.length ≤ size) (h : size ≤ it.length + (escape nalu).length) :
    (∃ it', copyNalu size nalu it = .error .insufficientBufferSize it' ∧ it'.length ≤ size) ∨
      ∃ it', copyNalu size nalu it = .ok () it' ∧ it'.length = size := by
  rcases hit.eq_or_lt with heq | hlt
  · exact .inr ⟨it, copyNalu_of_full heq.ge nalu, heq⟩
  induction nalu using escape.induct generalizing it with
  | case1 => exact absurd h (by simpa [escape] using hlt)
  | case2 b b₁ b₂ src hcode ih =>
    rw [escape, if_pos hcode] at h
    simp only [length_cons] at h
    rw [copyNalu, if_neg hlt.not_ge, if_pos hcode]
    split_ifs with hroom
    · exact ih (by simp; omega) (by simp; omega) (by simpa using hroom)
    · exact .inl ⟨it, rfl, hit⟩
  | case3 b b₁ b₂ src hcode ih =>
    rw [escape, if_neg hcode, length_cons] at h
    rw [copyNalu, if_neg hlt.not_ge, if_neg hcode]
    rcases (succ_le_of_lt hlt).eq_or_lt with heq | hlt'
    · exact .inr ⟨it ++ [b], copyNalu_of_full (by simp; omega) _, by simp; omega⟩
    · exact ih (by simp; omega) (by simp; omega) (by simpa using hlt')
  | case4 b src hsrc ih =>
    rw [escape, length_cons] at h
    · rw [copyNalu, if_neg hlt.not_ge]
      · rcases (succ_le_of_lt hlt).eq_or_lt with heq | hlt'
        · exact .inr ⟨it ++ [b], copyNalu_of_full (by simp; omega) _, by simp; omega⟩
        · exact ih (by simp; omega) (by simp; omega) (by simpa using hlt')
      · exact hsrc
    · exact hsrc

/-- The bytes that are written, whether or not the call succeeds. -/
def written : EStateM.Result InvalidArgument Bytes ℕ → Bytes
  | .ok _ it => it
  | .error _ it => it

/-- Once the buffer has overflowed, nothing stops the loop. -/
lemma lt_written_writeNalus (startPicture : Bool) (nalus : List Bytes) {it : Bytes}
    (h : size < it.length) : size < (written (writeNalus size startPicture nalus it)).length := by
  induction nalus generalizing startPicture it with
  | nil => exact h
  | cons nalu nalus ih =>
    have hlt : size < (it ++ (if startPicture then [0] else []) ++ [0, 0, 1]).length := by
      simp only [length_append]
      omega
    rw [writeNalus, copyNalu_of_full hlt.le]
    simp only [if_neg hlt.ne']
    exact ih false hlt

lemma byteStream_append_cons (done : List Bytes) (nalu : Bytes) : byteStream (done ++ [nalu]) =
      byteStream done ++ (if done.isEmpty then [0] else []) ++ [0, 0, 1] ++ escape nalu := by
  rw [byteStream_of_ne_nil (append_ne_nil_of_right_ne_nil _ (cons_ne_nil _ _))]
  cases done with
  | nil => simp [byteStream, startCoded]
  | cons nalu' done => simp [byteStream, startCoded]

lemma isEmpty_append_singleton {α : Type*} (l : List α) (x : α) : (l ++ [x]).isEmpty = false := by
  cases l <;> rfl

lemma length_byteStream_append (done rest : List Bytes) :
    (byteStream done).length ≤ (byteStream (done ++ rest)).length := by
  cases done with
  | nil => exact Nat.zero_le _
  | cons nalu done => simp [byteStream, startCoded]

/-- Every start code after the first one has room, if its first byte has. -/
def RoomForStartCodes (nalus : List Bytes) (size : ℕ) : Prop :=
  ∀ done nalu rest, nalus = done ++ nalu :: rest → done ≠ [] → (byteStream done).length < size →
    (byteStream done).length + 3 ≤ size

variable {nalus : List Bytes}

/-- What the call does once `done` is written and there is room. -/
lemma writeNalus_spec (hroom : RoomForStartCodes nalus size) (hsize : 4 ≤ size) (done rest : List Bytes)
    (hnalus : nalus = done ++ rest) (hdone : (byteStream done).length < size) :
    writeNalus size done.isEmpty rest (byteStream done) = .ok (byteStream nalus).length (byteStream nalus) ∧
        (byteStream nalus).length < size ∨
      ∃ it, writeNalus size done.isEmpty rest (byteStream done) = .error .insufficientBufferSize it ∧
        it.length ≤ size ∧ size ≤ (byteStream nalus).length := by
  induction rest generalizing done with
  | nil =>
    rw [append_nil] at hnalus
    rw [writeNalus, hnalus]
    exact .inl ⟨rfl, hdone⟩
  | cons nalu rest ih =>
    have happend := byteStream_append_cons done nalu
    have hle := length_byteStream_append (done ++ [nalu]) rest
    rw [append_assoc, singleton_append, ← hnalus] at hle
    -- the start code has room
    have hcode : (byteStream done ++ (if done.isEmpty then [0] else []) ++ [0, 0, 1]).length ≤ size := by
      cases done with
      | nil => simpa [byteStream] using hsize
      | cons nalu' done =>
        simpa using hroom (nalu' :: done) nalu rest hnalus (cons_ne_nil _ _) hdone
    rw [writeNalus]
    generalize byteStream done ++ (if done.isEmpty then [0] else []) ++ [0, 0, 1] = it at *
    rcases lt_or_ge (it.length + (escape nalu).length) size with hlt | hge
    · rw [copyNalu_of_lt hlt]
      rw [← length_append, ← happend] at hlt
      simp only [← happend, if_neg hlt.ne]
      have hrest := ih (done ++ [nalu]) (by simpa using hnalus) hlt
      rwa [isEmpty_append_singleton] at hrest
    · rw [← length_append, ← happend] at hge
      rcases copyNalu_of_le hcode (by simpa [happend] using hge) with ⟨it', heq, hit'⟩ | ⟨it', heq, hit'⟩
      · rw [heq]
        exact .inr ⟨it', rfl, hit', hge.trans hle⟩
      · rw [heq]
        simp only [if_pos hit']
        exact .inr ⟨it', rfl, hit'.le, hge.trans hle⟩

/-- A start code without room is written beyond the buffer. -/
lemma lt_written_of_not_room {done : List Bytes} (nalu : Bytes) (rest : List Bytes)
    (hlt : (byteStream done).length < size) (hcode : size < (byteStream done).length + 3)
    (pre : List Bytes) (mid : List Bytes) (hmid : done = pre ++ mid) :
    size < (written (writeNalus size pre.isEmpty (mid ++ nalu :: rest) (byteStream pre))).length := by
  induction mid generalizing pre with
  | nil =>
    rw [append_nil] at hmid
    subst hmid
    have hover : size < (byteStream done ++ (if done.isEmpty then [0] else []) ++ [0, 0, 1]).length := by
      simp only [length_append, length_cons, length_nil]
      omega
    rw [nil_append, writeNalus, copyNalu_of_full hover.le]
    simp only [if_neg hover.ne']
    exact lt_written_writeNalus false rest hover
  | cons nalu' mid ih =>
    have happend := byteStream_append_cons pre nalu'
    have hle := length_byteStream_append (pre ++ [nalu']) mid
    rw [append_assoc, singleton_append, ← hmid] at hle
    have hlt' : (byteStream (pre ++ [nalu'])).length < size := hle.trans_lt hlt
    rw [cons_append, writeNalus, copyNalu_of_lt (by rwa [← length_append, ← happend])]
    simp only [← happend, if_neg hlt'.ne]
    have hrest := ih (pre ++ [nalu']) (by simpa using hmid)
    rwa [isEmpty_append_singleton] at hrest

lemma four_lt_length_byteStream (hne : nalus ≠ []) (hnalus : ∀ nalu ∈ nalus, nalu ≠ []) :
    4 < (byteStream nalus).length := by
  obtain ⟨nalu, nalus, rfl⟩ := exists_cons_of_ne_nil hne
  have hpos := length_pos_of_ne_nil (hnalus nalu mem_cons_self)
  have hle := length_le_escape nalu
  rw [byteStream_of_ne_nil hne, startCoded_cons]
  simp only [length_cons, length_append]
  omega

lemma nalusToByteStream_spec (hne : nalus ≠ []) (hnalus : ∀ nalu ∈ nalus, nalu ≠ [])
    (hroom : RoomForStartCodes nalus size) :
    nalusToByteStream nalus size = .ok (byteStream nalus).length (byteStream nalus) ∧ (byteStream nalus).length < size ∨
      ∃ it, nalusToByteStream nalus size = .error .insufficientBufferSize it ∧
        it.length ≤ size ∧ size ≤ (byteStream nalus).length := by
  have hlength := four_lt_length_byteStream hne hnalus
  rw [nalusToByteStream]
  split_ifs with hsize
  · exact .inr ⟨[], rfl, Nat.zero_le _, (hsize.trans hlength).le⟩
  · exact writeNalus_spec hroom (not_lt.mp hsize) [] nalus rfl ((by decide : 0 < 4).trans_le (not_lt.mp hsize))

/-- What the two functions promise of some NAL units and a buffer. -/
structure Codec (nalus : List Bytes) (size : ℕ) : Prop where
  inBounds : (written (nalusToByteStream nalus size)).length ≤ size
  fits : (byteStream nalus).length ≤ size →
    nalusToByteStream nalus size = .ok (byteStream nalus).length (byteStream nalus)
  roundTrip : ∀ n it, nalusToByteStream nalus size = .ok n it → byteStreamToNalus (it.take n) true = .ok nalus

/-- The codec keeps its promises if the stream does not fill the buffer, no start code begins in the last two bytes of
the buffer, and no NAL unit has a start code or a prevention byte. -/
theorem codec_iff (hnalus : ∀ nalu ∈ nalus, nalu ≠ []) :
    Codec nalus size ↔ nalus ≠ [] ∧ (byteStream nalus).length ≠ size ∧ RoomForStartCodes nalus size ∧
      ((byteStream nalus).length < size → ∀ nalu ∈ nalus, ¬ [0, 0, 1] <:+: nalu ∧ ¬ [0, 0, 3, 1] <:+: nalu) := by
  constructor
  · intro h
    have hne : nalus ≠ [] := by
      rintro rfl
      have heq := h.fits (Nat.zero_le size)
      have hread := h.roundTrip _ _ heq
      simp [byteStream, byteStreamToNalus, isPictureStartCode] at hread
    have hroom : RoomForStartCodes nalus size := by
      rintro done nalu rest rfl hdone hlt
      by_contra hcode
      have hover := lt_written_of_not_room nalu rest hlt (not_le.mp hcode) [] done rfl
      have hbounds := h.inBounds
      have hlength := four_lt_length_byteStream hdone (fun nalu hnalu => hnalus nalu (by simp [hnalu]))
      rw [nalusToByteStream, if_neg (hlength.trans hlt).le.not_gt] at hbounds
      exact hbounds.not_gt hover
    have hspec := nalusToByteStream_spec hne hnalus hroom
    refine ⟨hne, fun heq => ?_, hroom, fun hlt => ?_⟩
    · rcases hspec with ⟨-, hlt⟩ | ⟨it, herr, -⟩
      · exact hlt.ne heq
      · exact absurd ((h.fits heq.le).symm.trans herr) (by simp)
    · rcases hspec with ⟨hok, -⟩ | ⟨it, -, -, hge⟩
      · have hread := h.roundTrip _ _ hok
        rw [take_length, byteStreamToNalus_byteStream hne hnalus, Except.ok.injEq] at hread
        intro nalu hnalu
        rw [← makeNalu_escape_iff]
        exact map_inj_left.mp (hread.trans nalus.map_id.symm) nalu hnalu
      · exact absurd hlt hge.not_gt
  · rintro ⟨hne, hsize, hroom, hplain⟩
    rcases nalusToByteStream_spec hne hnalus hroom with ⟨hok, hlt⟩ | ⟨it, herr, hit, hge⟩
    · refine ⟨by simpa only [hok, written] using hlt.le, fun _ => hok, fun n it heq => ?_⟩
      obtain ⟨rfl, rfl⟩ : (byteStream nalus).length = n ∧ byteStream nalus = it := by
        rw [hok] at heq
        injection heq with hn hit
        exact ⟨hn, hit⟩
      rw [take_length, byteStreamToNalus_byteStream hne hnalus, Except.ok.injEq]
      refine (map_congr_left fun nalu hnalu => ?_).trans nalus.map_id
      exact (makeNalu_escape_iff nalu).mpr (hplain hlt nalu hnalu)
    · refine ⟨by simpa only [herr, written] using hit, fun hle => ?_, fun n it heq => ?_⟩
      · exact absurd (hle.antisymm hge) hsize
      · exact absurd (herr.symm.trans heq) (by simp)

/-- Two NAL units, the first of them with zeros. -/
theorem codec_sample : Codec [[101, 0, 0, 3, 0], [65, 1]] 32 := by
  refine (codec_iff (by decide)).mpr ⟨by decide, by decide, fun done nalu rest heq => ?_, by decide⟩
  have hroom : ∀ done ∈ [[101, 0, 0, 3, 0], [65, 1]].inits, done ≠ [] → (byteStream done).length < 32 →
      (byteStream done).length + 3 ≤ 32 := by decide
  exact hroom done ((mem_inits _ _).mpr ⟨nalu :: rest, heq.symm⟩)

/-- The byte after a prevention byte is read twice. -/
theorem not_codec : ¬ ∀ nalus size, (∀ nalu ∈ nalus, nalu ≠ []) → Codec nalus size := by
  intro h
  have hread := (h [[101, 0, 0, 1, 7]] 16 (by decide)).roundTrip 10 [0, 0, 0, 1, 101, 0, 0, 3, 1, 7] rfl
  exact absurd hread (by decide)

end Writing

end H26x
