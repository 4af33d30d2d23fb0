import LinphoneSdk.Lime.Session

/-!
# The Double Ratchet header is read back

The writer `writeDRheader` and the readers `DRHeader.parse`, `parseMessageGetX3DHinit` and
`parseMessageX3DHinit` compute offsets from different flags. A written message is a list of
segments; each lemma below gives the suffix of the message at the offset a reader uses.
-/

namespace Lime

open Bytes List

variable {A : Curve} {C : Crypto A}

/-! ### X3DH init message -/

variable (m : X3DHInit A)

@[simp] lemma length_buildMessageX3DHinit : (buildMessageX3DHinit m).length = X3DHinitSize A m.OPk_flag := by
  simp only [buildMessageX3DHinit, X3DHinitSize, length_cons, length_append,
    Vector.toList_length, length_be32]
  cases m.OPk_flag <;> simp <;> omega

lemma getD_zero_buildMessageX3DHinit (rest : Bytes) :
    ((buildMessageX3DHinit m ++ rest).getD 0 0 == 1) = m.OPk_flag := by
  rw [buildMessageX3DHinit]
  cases m.OPk_flag <;> rfl

lemma buildMessageX3DHinit_ne_nil : buildMessageX3DHinit m ≠ [] := by
  simp [buildMessageX3DHinit]

/-- `parseMessageX3DHinit` inverts `buildMessageX3DHinit`. -/
lemma parseMessageX3DHinit_build (OPk_id : UInt32) :
    parseMessageX3DHinit A (buildMessageX3DHinit m) OPk_id =
      { m with OPk_id := if m.OPk_flag then m.OPk_id else OPk_id } := by
  have hflag : ((buildMessageX3DHinit m).getD 0 0 == 1) = m.OPk_flag := by
    rw [← append_nil (buildMessageX3DHinit m)]
    exact getD_zero_buildMessageX3DHinit m []
  have hIk : (buildMessageX3DHinit m).drop 1 = m.Ik.toList ++ (m.Ek.toList ++ (m.Ct.toList ++
      (be32 m.SPk_id ++ if m.OPk_flag then be32 m.OPk_id else []))) := rfl
  have hEk : (buildMessageX3DHinit m).drop (1 + A.DSAsize) = m.Ek.toList ++ (m.Ct.toList ++
      (be32 m.SPk_id ++ if m.OPk_flag then be32 m.OPk_id else [])) := by
    rw [← drop_drop, hIk, drop_left' (by simp)]
  have hCt : (buildMessageX3DHinit m).drop (1 + A.DSAsize + A.Xsize) = m.Ct.toList ++
      (be32 m.SPk_id ++ if m.OPk_flag then be32 m.OPk_id else []) := by
    rw [← drop_drop, hEk, drop_left' (by simp)]
  have hSPk : (buildMessageX3DHinit m).drop (1 + A.DSAsize + A.Xsize + A.kCtSize) =
      be32 m.SPk_id ++ if m.OPk_flag then be32 m.OPk_id else [] := by
    rw [← drop_drop, hCt, drop_left' (by simp)]
  have hOPk : (buildMessageX3DHinit m).drop (1 + A.DSAsize + A.Xsize + A.kCtSize + 4) =
      if m.OPk_flag then be32 m.OPk_id else [] := by
    rw [← drop_drop, hSPk, drop_left' (by simp)]
  simp only [parseMessageX3DHinit, hflag, bufAt_of_drop m.Ik hIk, bufAt_of_drop m.Ek hEk,
    bufAt_of_drop m.Ct hCt, be32At_of_drop m.SPk_id hSPk]
  cases hopk : m.OPk_flag with
  | false => rfl
  | true =>
    rw [hopk, if_pos rfl, ← append_nil (be32 m.OPk_id)] at hOPk
    simp only [if_true, be32At_of_drop m.OPk_id hOPk]

/-! ### Header -/

namespace Session

/-- The X3DH init message of a session is absent or was built by `buildMessageX3DHinit`. -/
def X3DHInitWF (s : Session C) : Prop :=
  s.X3DHInitMessage = [] ∨ ∃ m : X3DHInit A, s.X3DHInitMessage = buildMessageX3DHinit m

def headerKeys (s : Session C) : HeaderKeys A :=
  if s.writesIndex then .index s.DHs.ecPublic s.DHs.getKEMIndex (s.DHr.getKEMIndex C)
  else .full s.DHs.toPublic

def header (payloadDirectEncryption : Bool) (s : Session C) : DRHeader A where
  Ns := s.Ns
  PN := s.PN
  keys := s.headerKeys
  size := (s.writeDRheader payloadDirectEncryption).length
  payloadDirectEncryption := payloadDirectEncryption

variable (s : Session C)

lemma headerSize_messageTypeOf (p x : Bool) :
    headerSize A (messageTypeOf p s.writesIndex x) = 7 + s.writeDRheaderKeys.length := by
  rw [headerSize, hasFlag_KEMPkIndex, writeDRheaderKeys]
  cases s.writesIndex with
  | false => simp [ARsKey.serializePublic]
  | true => simp; omega

/-- The size read from the flags and the OPk byte is the one of the init message of the session. -/
lemma initSize_writeDRheader {s : Session C} (hs : s.X3DHInitWF) (tail : Bytes) :
    (if !s.X3DHInitMessage.isEmpty then X3DHinitSize A ((s.X3DHInitMessage ++ tail).getD 0 0 == 1) else 0) =
      s.X3DHInitMessage.length := by
  obtain hnil | ⟨m, hm⟩ := hs
  · simp [hnil]
  · have hne : (buildMessageX3DHinit m).isEmpty = false := by
      simpa using buildMessageX3DHinit_ne_nil m
    rw [hm, hne, getD_zero_buildMessageX3DHinit, length_buildMessageX3DHinit]
    rfl

/-- What follows the init message in a written header. -/
def headerTail (s : Session C) (rest : Bytes) : Bytes :=
  be16 s.Ns ++ (be16 s.PN ++ (s.writeDRheaderKeys ++ rest))

lemma writeDRheader_append (p : Bool) (rest : Bytes) : s.writeDRheader p ++ rest =
      DR_v01 :: messageTypeOf p s.writesIndex (!s.X3DHInitMessage.isEmpty) :: A.curveId ::
        (s.X3DHInitMessage ++ s.headerTail rest) := by
  simp only [writeDRheader, headerTail, cons_append, append_assoc]

lemma length_writeDRheader (p : Bool) : (s.writeDRheader p).length =
      headerSize A (messageTypeOf p s.writesIndex (!s.X3DHInitMessage.isEmpty)) + s.X3DHInitMessage.length := by
  rw [headerSize_messageTypeOf]
  simp only [writeDRheader, length_cons, length_append, length_be16]
  omega

lemma length_writeDRheader_append (p : Bool) (rest : Bytes) : (s.writeDRheader p ++ rest).length =
      headerSize A (messageTypeOf p s.writesIndex (!s.X3DHInitMessage.isEmpty)) +
        s.X3DHInitMessage.length + rest.length := by
  rw [length_append, length_writeDRheader]

/-- The bytes the readers look at before anything else. -/
lemma firstBytes_writeDRheader (p : Bool) (rest : Bytes) : (s.writeDRheader p ++ rest).getD 0 0 = DR_v01 ∧
    (s.writeDRheader p ++ rest).getD 1 0 = messageTypeOf p s.writesIndex (!s.X3DHInitMessage.isEmpty) ∧
    (s.writeDRheader p ++ rest).getD 2 0 = A.curveId ∧ (s.writeDRheader p ++ rest).getD 3 0 =
      (s.X3DHInitMessage ++ s.headerTail rest).getD 0 0 := by
  rw [writeDRheader_append]
  exact ⟨rfl, rfl, rfl, rfl⟩

/-- The keys are read back where they were written. -/
lemma keys_of_drop {s : Session C} {l rest : Bytes} {i : ℕ} (h : l.drop i = s.writeDRheaderKeys ++ rest) :
    (if A.isKEM && s.writesIndex then HeaderKeys.index (bufAt l i _) (bufAt l (i + A.Xsize) _)
        (bufAt l (i + A.Xsize + settings.DRPkIndexSize) _)
      else .full (ARrKey.unserializeAt l i)) = s.headerKeys := by
  cases hidx : s.writesIndex with
  | false =>
    rw [writeDRheaderKeys, hidx] at h
    simp only [Bool.and_false, Bool.false_eq_true, if_false, headerKeys, hidx]
    rw [ARrKey.unserializeAt_of_drop s.DHs.toPublic h]
  | true =>
    have hkem : A.isKEM = true := by
      rw [writesIndex, Bool.and_eq_true] at hidx
      exact hidx.1
    rw [writeDRheaderKeys, hidx] at h
    simp only [if_true, append_assoc] at h
    have h1 : l.drop (i + A.Xsize) =
        s.DHs.getKEMIndex.toList ++ ((s.DHr.getKEMIndex C).toList ++ rest) := by
      rw [← drop_drop, h, drop_left' (by simp)]
    have h2 : l.drop (i + A.Xsize + settings.DRPkIndexSize) =
        (s.DHr.getKEMIndex C).toList ++ rest := by
      rw [← drop_drop, h1, drop_left' (by simp)]
    simp only [hkem, Bool.and_true, if_true, headerKeys, hidx]
    rw [bufAt_of_drop _ h, bufAt_of_drop _ h1, bufAt_of_drop _ h2]

/-- Parsing a written header followed by any bytes gives the header back. -/
lemma parse_writeDRheader {s : Session C} (hs : s.X3DHInitWF) (p : Bool) (rest : Bytes) :
    DRHeader.parse A (s.writeDRheader p ++ rest) = some (s.header p) := by
  have hinit := initSize_writeDRheader hs (s.headerTail rest)
  have hlen := s.length_writeDRheader_append p rest
  have hsize := s.headerSize_messageTypeOf p (!s.X3DHInitMessage.isEmpty)
  -- the suffixes read by the parser after the init message
  have hNs : (s.writeDRheader p ++ rest).drop (3 + s.X3DHInitMessage.length) =
      s.headerTail rest := by
    rw [writeDRheader_append, ← drop_drop]
    exact drop_left' rfl
  have hPN : (s.writeDRheader p ++ rest).drop (3 + s.X3DHInitMessage.length + 2) =
      be16 s.PN ++ (s.writeDRheaderKeys ++ rest) := by
    rw [← drop_drop, hNs, headerTail, drop_left' (by simp)]
  have hkeys : (s.writeDRheader p ++ rest).drop (3 + s.X3DHInitMessage.length + 4) =
      s.writeDRheaderKeys ++ rest := by
    rw [show 3 + s.X3DHInitMessage.length + 4 = 3 + s.X3DHInitMessage.length + 2 + 2 from rfl,
      ← drop_drop, hPN, drop_left' (by simp)]
  obtain ⟨h0, h1, h2, h3⟩ := s.firstBytes_writeDRheader p rest
  rw [DRHeader.parse]
  simp only [h0, h1, h2, h3, hasFlag_X3DHInit, hasFlag_KEMPkIndex, hasFlag_payload, hinit,
    ne_eq, not_true_eq_false, if_false]
  rw [if_neg (by omega), if_neg (by omega), keys_of_drop hkeys, be16At_of_drop s.PN hPN,
    be16At_of_drop s.Ns hNs]
  simp only [header, length_writeDRheader]

/-- The init message is extracted from a written header followed by any bytes. -/
lemma parseMessageGetX3DHinit_writeDRheader {s : Session C} (hs : s.X3DHInitWF) (p : Bool) (rest : Bytes) :
    parseMessageGetX3DHinit A (s.writeDRheader p ++ rest) =
      if s.X3DHInitMessage.isEmpty then none else some s.X3DHInitMessage := by
  have hinit := initSize_writeDRheader hs (s.headerTail rest)
  have hlen := s.length_writeDRheader_append p rest
  have hsize := s.headerSize_messageTypeOf p (!s.X3DHInitMessage.isEmpty)
  obtain ⟨h0, h1, h2, h3⟩ := s.firstBytes_writeDRheader p rest
  have hdrop : (s.writeDRheader p ++ rest).drop 3 = s.X3DHInitMessage ++ s.headerTail rest := by
    rw [writeDRheader_append]; rfl
  rw [parseMessageGetX3DHinit]
  simp only [h0, h1, h2, h3, hasFlag_X3DHInit, ne_eq, not_true_eq_false, if_false]
  rw [if_neg (by omega)]
  cases hempty : s.X3DHInitMessage.isEmpty with
  | true => simp
  | false =>
    rw [hempty, Bool.not_false] at hinit hlen
    simp only [if_true] at hinit
    simp only [Bool.not_false, not_true_eq_false, or_false, if_false, hinit]
    rw [if_neg (by omega), hdrop, take_left' rfl]
    rfl

/-- Every header written by a session, with or without an X3DH init message, in full or index form,
is read back with its size, whatever follows it; the init message is extracted as it was built and
parsed back into its parts. -/
theorem header_codec (s : Session C) (init : Option (X3DHInit A)) (p : Bool)
    (rest : Bytes) (m : X3DHInit A) (OPk_id : UInt32) :
    let s' := { s with X3DHInitMessage := (init.map buildMessageX3DHinit).getD [] }
    DRHeader.parse A (s'.writeDRheader p ++ rest) =
      some { Ns := s.Ns
             PN := s.PN
             keys := if A.isKEM && s.peerHasSelfKEMPk then
                 .index s.DHs.ecPublic s.DHs.getKEMIndex (s.DHr.getKEMIndex C)
               else .full s.DHs.toPublic
             size := (s'.writeDRheader p).length
             payloadDirectEncryption := p } ∧
    parseMessageGetX3DHinit A (s'.writeDRheader p ++ rest) = init.map buildMessageX3DHinit ∧
    parseMessageX3DHinit A (buildMessageX3DHinit m) OPk_id =
      { m with OPk_id := if m.OPk_flag then m.OPk_id else OPk_id } := by
  intro s'
  have hwf : s'.X3DHInitWF := by
    cases init with
    | none => exact Or.inl rfl
    | some i => exact Or.inr ⟨i, rfl⟩
  refine ⟨parse_writeDRheader hwf p rest, ?_, parseMessageX3DHinit_build m OPk_id⟩
  rw [parseMessageGetX3DHinit_writeDRheader hwf]
  cases init with
  | none => rfl
  | some i =>
    have hne : (buildMessageX3DHinit i).isEmpty = false := by
      simpa using buildMessageX3DHinit_ne_nil i
    simp only [s', Option.map_some, Option.getD_some, hne, Bool.false_eq_true, if_false]

end Session

end Lime
