import LinphoneSdk.Lime.Reception
import LinphoneSdk.Lime.Sending

/-!
# Sessions rebuilt from the local storage

`session_save` writes a different set of columns for each kind of change. This module says when the
session rebuilt by `session_load` is the one in memory, over whole runs of encryptions and
successful decryptions.
-/

namespace Lime

open Bytes Exec Option Session

variable {A : Curve} {C : Crypto A}

/-! ### The status integer -/

lemma or_and_uint32 (a b m : UInt32) : (a ||| b) &&& m = (a &&& m) ||| (b &&& m) := by
  apply UInt32.toBitVec_inj.mp
  simp only [UInt32.toBitVec_and, UInt32.toBitVec_or, BitVec.and_or_distrib_right]

/-- The chain size does not reach the flags. -/
lemma flag_of_status (k c m : UInt32) (hm : (0x7FFFFF00 : UInt32) &&& m = 0) :
    (k ||| ((c <<< 8) &&& 0x7FFFFF00)) &&& m = k &&& m := by
  rw [or_and_uint32, UInt32.and_assoc, hm, UInt32.and_zero, UInt32.or_zero]

/-- The chain size is read back when it fits on 23 bits. -/
lemma chainSize_of_status (k c : UInt32) (hk : k &&& 0x7FFFFF00 = 0) (hc : c.toNat < 2 ^ 23) :
    ((k ||| ((c <<< 8) &&& 0x7FFFFF00)) &&& 0x7FFFFF00) >>> 8 = c := by
  rw [or_and_uint32, hk, UInt32.and_assoc, UInt32.and_self, UInt32.zero_or]
  apply UInt32.toNat_inj.mp
  have h8 : (8 : UInt32).toNat % 32 = 8 := by decide
  have hmask : (0x7FFFFF00 : UInt32).toNat >>> 8 = 2 ^ 23 - 1 := by decide
  rw [UInt32.toNat_shiftRight, UInt32.toNat_and, UInt32.toNat_shiftLeft, h8,
    Nat.shiftRight_and_distrib, hmask, Nat.and_two_pow_sub_one_eq_mod, Nat.shiftLeft_eq,
    Nat.shiftRight_eq_div_pow]
  omega

namespace Session

/-- The flags read back from the status integer. -/
lemma intToDHrStatus_flags (s s0 : Session C) :
    (s0.intToDHrStatus s.DHrStatusToInt).forceKEMRatchet = s.forceKEMRatchet ∧
    (s0.intToDHrStatus s.DHrStatusToInt).peerKEMPkAvailable = s.peerKEMPkAvailable ∧
    (s0.intToDHrStatus s.DHrStatusToInt).peerHasSelfKEMPk = s.peerHasSelfKEMPk ∧
    (s0.intToDHrStatus s.DHrStatusToInt).peerECPkAvailable = s.peerECPkAvailable := by
  simp only [intToDHrStatus, DHrStatusToInt, flag_of_status _ _ 1 (by decide),
    flag_of_status _ _ 2 (by decide), flag_of_status _ _ 4 (by decide),
    flag_of_status _ _ 8 (by decide)]
  cases s.forceKEMRatchet <;> cases s.peerKEMPkAvailable <;> cases s.peerHasSelfKEMPk <;>
    cases s.peerECPkAvailable <;> decide

lemma intToDHrStatus_chainSize (s s0 : Session C) (hc : s.KEMRatchetChainSize.toNat < 2 ^ 23) :
    (s0.intToDHrStatus s.DHrStatusToInt).KEMRatchetChainSize = s.KEMRatchetChainSize := by
  simp only [intToDHrStatus, DHrStatusToInt]
  refine chainSize_of_status _ _ ?_ hc
  cases s.forceKEMRatchet <;> cases s.peerKEMPkAvailable <;> cases s.peerHasSelfKEMPk <;>
    cases s.peerECPkAvailable <;> decide

/-! ### The session rebuilt from a row -/

/-- The session without what its later behaviour does not depend on. The size of the KEM chain and
the time of the last KEM ratchet are read by the sessions with a KEM only. -/
def relevant (s : Session C) : Session C :=
  { s with
    KEMRatchetChainSize := if A.isKEM then s.KEMRatchetChainSize else 0
    lastKEMRatchetEpoch := if A.isKEM then s.lastKEMRatchetEpoch else 0
    usedNr := 0
    peerDeviceId := []
    peerIk := zeros _ }

/-- The part of a session packed in the status integer. -/
def withStatus (s s0 : Session C) : Session C :=
  { s0 with
    forceKEMRatchet := s.forceKEMRatchet
    peerKEMPkAvailable := s.peerKEMPkAvailable
    peerHasSelfKEMPk := s.peerHasSelfKEMPk
    peerECPkAvailable := s.peerECPkAvailable
    KEMRatchetChainSize := if A.isKEM then s.KEMRatchetChainSize else 0 }

lemma relevant_intToDHrStatus (s s0 : Session C) (hc : A.isKEM = true → s.KEMRatchetChainSize.toNat < 2 ^ 23) :
    (s0.intToDHrStatus s.DHrStatusToInt).relevant = s.withStatus s0.relevant := by
  obtain ⟨h1, h2, h3, h4⟩ := intToDHrStatus_flags s s0
  have h5 : (if A.isKEM then (s0.intToDHrStatus s.DHrStatusToInt).KEMRatchetChainSize else 0) =
      if A.isKEM then s.KEMRatchetChainSize else 0 := by
    cases hkem : A.isKEM with
    | false => rfl
    | true => exact intToDHrStatus_chainSize s s0 (hc hkem)
  rw [relevant, h1, h2, h3, h4, h5]
  rfl

/-- Writing the status column of a row changes the packed part of the session rebuilt from it. -/
lemma relevant_ofRow_status (id : ℕ) (dev : Bytes) (r : SessionRow C) (s : Session C)
    (hc : A.isKEM = true → s.KEMRatchetChainSize.toNat < 2 ^ 23) :
    (ofRow id dev { r with DHrStatus := s.DHrStatusToInt }).relevant = s.withStatus (ofRow id dev r).relevant := by
  rw [ofRow, relevant_intToDHrStatus s _ hc]
  rfl

/-- A new row gives back the session it was made from. -/
lemma relevant_ofRow_toRow (now : ℤ) (id did : ℕ) (dev : Bytes) (s : Session C)
    (hvalid : s.DHrValid = true) (hactive : s.activeStatus = true)
    (hc : A.isKEM = true → s.KEMRatchetChainSize.toNat < 2 ^ 23) :
    (ofRow id dev { s.toRow now with Did := did }).relevant = relevant { s with
        peerDid := did, lastKEMRatchetEpoch := now, dbSessionId := id, usedOPkId := 0
        dirty := .clean, mkskipped := [], usedDHid := none } := by
  have hinit : (if s.X3DHInitMessage.isEmpty then none else some s.X3DHInitMessage).getD [] = s.X3DHInitMessage := by
    cases s.X3DHInitMessage <;> rfl
  rw [ofRow]
  change (intToDHrStatus s.DHrStatusToInt _).relevant = _
  rw [relevant_intToDHrStatus s _ hc]
  simp only [withStatus, relevant, toRow, hinit, hvalid, hactive]

/-- The device identifier is not part of what is compared. -/
lemma relevant_ofRow_device (id : ℕ) (dev dev' : Bytes) (r : SessionRow C) :
    (ofRow id dev r).relevant = (ofRow id dev' r).relevant := rfl

end Session

/-! ### Stored sessions -/

/-- The session rebuilt from the storage is the one in memory. -/
def WrittenBack (w : World C) : Prop :=
  ∃ s, sessionLoad w.session.dbSessionId w.db = some s ∧ s.relevant = w.session.relevant

/-- Invariant of the runs that write everything back. -/
structure InSync (w : World C) : Prop where
  stored : w.session.dbSessionId ≠ 0
  row : ∃ r, w.db.DR_sessions w.session.dbSessionId = some r ∧ (w.db.deviceId r.Did).isSome ∧
    (ofRow w.session.dbSessionId [] r).relevant = w.session.relevant
  /-- A session becomes inactive on a sending chain, a peer key makes it active. -/
  active : w.session.peerECPkAvailable = true → w.session.activeStatus = true
  chainSize : A.isKEM = true → w.session.KEMRatchetChainSize.toNat < 2 ^ 23

lemma InSync.writtenBack {w : World C} (h : InSync w) : WrittenBack w := by
  obtain ⟨r, hr, hdev, hrel⟩ := h.row
  obtain ⟨dev, hdev⟩ := isSome_iff_exists.mp hdev
  rw [Db.deviceId, map_eq_some_iff] at hdev
  obtain ⟨d, hd, -⟩ := hdev
  refine ⟨ofRow w.session.dbSessionId d.DeviceId r, ?_, ?_⟩
  · simp [sessionLoad, hr, hd]
  · rw [relevant_ofRow_device _ _ []]
    exact hrel

/-- What in-memory fields follow from the agreement with the row. -/
lemma InSync.fields {w : World C} (h : InSync w) :
    w.session.DHrValid = true ∧ w.session.mkskipped = [] ∧ w.session.usedDHid = none ∧
      w.session.usedOPkId = 0 ∧ w.session.dirty = .clean := by
  obtain ⟨r, -, -, hrel⟩ := h.row
  exact ⟨(congrArg DHrValid hrel :).symm, (congrArg mkskipped hrel :).symm,
    (congrArg usedDHid hrel :).symm, (congrArg usedOPkId hrel :).symm,
    (congrArg dirty hrel :).symm⟩

structure NeverSaved (s : Session C) : Prop where
  dbSessionId : s.dbSessionId = 0
  mkskipped : s.mkskipped = []
  usedDHid : s.usedDHid = none
  activeStatus : s.activeStatus = true
  Ns : s.Ns = 0

/-! ### Encryptions -/

namespace Session

variable {s : Session C}

/-- The condition under which an encryption is written back: the session received a peer key, and a
session with a KEM is either saved for the first time or performs an asymmetric ratchet, with a
chain size that fits the status integer. -/
def EncryptCovered (s : Session C) : Prop :=
  s.DHrValid = true ∧ (A.isKEM = true →
    (s.dbSessionId = 0 ∨ s.peerECPkAvailable = true) ∧ s.KEMRatchetChainSize.toNat + 1 < 2 ^ 23)

end Session

variable {rnd : Randomness C} {now : ℤ} {w w' : World C}

/-- Sessions that share what is relevant are in sync with the same storage. -/
lemma InSync.of_relevant {g : Session C} (h : InSync w) (hg : g.relevant = w.session.relevant) :
    InSync { w with session := g } := by
  have hid : g.dbSessionId = w.session.dbSessionId := (congrArg dbSessionId hg :)
  have hEC : g.peerECPkAvailable = w.session.peerECPkAvailable :=
    (congrArg peerECPkAvailable hg :)
  have hactive : g.activeStatus = w.session.activeStatus := (congrArg activeStatus hg :)
  have hc := (congrArg KEMRatchetChainSize hg :)
  constructor
  · exact hid ▸ h.stored
  · obtain ⟨r, hr, hdev, hrel⟩ := h.row
    exact ⟨r, by rw [hid]; exact hr, hdev, by rw [hid, hg]; exact hrel⟩
  · rw [hEC, hactive]
    exact h.active
  · intro hkem
    simp only [relevant, hkem, if_true] at hc
    rw [hc]
    exact h.chainSize hkem

/-- The first save of a session. -/
lemma inSync_of_savedNew {s : Session C} (hsaved : SavedNew now { w with session := s } w')
    (hvalid : s.DHrValid = true) (hactive : s.activeStatus = true)
    (hc : A.isKEM = true → s.KEMRatchetChainSize.toNat < 2 ^ 23) :
    InSync { w' with
      session := { w'.session with dirty := .clean, mkskipped := [], usedDHid := none } } := by
  obtain ⟨did, -, hdev, hsession, hrow⟩ := hsaved.session
  rw [hsession]
  refine ⟨Nat.succ_ne_zero _, ⟨_, hrow, hdev, ?_⟩, fun _ => hactive, hc⟩
  exact relevant_ofRow_toRow now _ did [] s hvalid hactive hc

lemma checkSendingChain_of_first {s : Session C} (h : s.Ns = 0) :
    s.advanceSending.checkSendingChain = s.advanceSending := by
  rw [checkSendingChain, if_neg]
  simp only [advanceSending, h]
  decide

/-- First save of a session, by an encryption. -/
lemma inSync_of_encrypt_new (hcov : w.session.EncryptCovered) (hnew : NeverSaved w.session)
    (hsaved : SavedNew now { w with session := w.session.sent rnd now } w') :
    InSync { w' with session := { w'.session with dirty := .clean } } := by
  have hsent : (w.session.sent rnd now).DHrValid = true ∧
      (w.session.sent rnd now).usedDHid = none ∧ (w.session.sent rnd now).mkskipped = [] ∧
      (w.session.sent rnd now).activeStatus = true ∧ (A.isKEM = true →
        (w.session.sent rnd now).KEMRatchetChainSize.toNat < 2 ^ 23) := by
    have hc := fun hkem => (hcov.2 hkem).2
    have hle := toNat_add_one_le w.session.KEMRatchetChainSize
    rw [sent]
    cases hEC : w.session.peerECPkAvailable with
    | false =>
      rw [prepareSending_of_unavailable rnd now hEC,
        checkSendingChain_of_first (s := { w.session with dirty := .dirtyEncrypt }) hnew.Ns]
      refine ⟨hcov.1, hnew.usedDHid, hnew.mkskipped, hnew.activeStatus, fun hkem => ?_⟩
      exact lt_of_le_of_lt hle (hc hkem)
    | true =>
      obtain ⟨RK, CKs, DHs, force, kem, has, c, hcs, heq⟩ :=
        prepareSending_of_available rnd now hEC
      rw [heq, checkSendingChain_of_first rfl]
      refine ⟨hcov.1, hnew.usedDHid, hnew.mkskipped, hnew.activeStatus, fun hkem => ?_⟩
      simp only [advanceSending, hcs hkem]
      exact lt_of_le_of_lt hle (hc hkem)
  obtain ⟨hvalid, hused, hmk, hactive, hc⟩ := hsent
  refine (inSync_of_savedNew hsaved hvalid hactive hc).of_relevant ?_
  obtain ⟨did, -, -, hsession, -⟩ := hsaved.session
  rw [hsession]
  simp only [relevant, hmk, hused]

/-- Encryption on the current sending chain, in a session without KEM. -/
lemma inSync_of_encrypt_chain (hsync : InSync w) (hkem : A.isKEM = false) (hEC : w.session.peerECPkAvailable = false)
    (hsaved : SavedOld now { w with session := w.session.sent rnd now } w') :
    InSync { w' with session := { w'.session with dirty := .clean } } := by
  obtain ⟨r, hr, hdev, hrel⟩ := hsync.row
  obtain ⟨-, -, -, -, hdirty⟩ := hsync.fields
  obtain ⟨active, hsent⟩ : ∃ active, w.session.sent rnd now = { w.session with
      dirty := .dirtyEncrypt, CKs := (KDF_CK w.session.CKs w.session.Ns).1
      Ns := w.session.Ns + 1, KEMRatchetChainSize := w.session.KEMRatchetChainSize + 1
      activeStatus := active } := by
    rw [sent, prepareSending_of_unavailable rnd now hEC, checkSendingChain]
    split_ifs
    · exact ⟨_, rfl⟩
    · exact ⟨_, rfl⟩
  have hsession := hsaved.session
  have hrow := hsaved.row
  dsimp only at hsession hrow
  rw [hsent] at hsession hrow
  dsimp only at hrow
  rw [hr, map_some] at hrow
  rw [hsession]
  refine ⟨hsync.stored, ⟨_, hrow, ?_, ?_⟩, ?_, fun h => by rw [hkem] at h; cases h⟩
  · rw [hsaved.deviceId]
    exact hdev
  · -- the columns written are the fields that changed
    have hrow : ∀ r' : SessionRow C, (ofRow w.session.dbSessionId [] { r' with
        Ns := w.session.Ns + 1, CKs := (KDF_CK w.session.CKs w.session.Ns).1
        Status := active }).relevant =
        { (ofRow w.session.dbSessionId [] r').relevant with
          Ns := w.session.Ns + 1, CKs := (KDF_CK w.session.CKs w.session.Ns).1
          activeStatus := active } := fun _ => rfl
    refine (hrow r).trans ?_
    rw [hrel]
    simp only [relevant, afterUpdate, activates, hkem, hdirty, Bool.false_eq_true, if_false, Bool.false_or]
  · intro h
    change w.session.peerECPkAvailable = true at h
    rw [hEC] at h
    cases h

/-- Encryption that starts a sending chain. -/
lemma inSync_of_encrypt_ratchet (hsync : InSync w) (hcov : w.session.EncryptCovered)
    (hEC : w.session.peerECPkAvailable = true)
    (hsaved : SavedOld now { w with session := w.session.sent rnd now } w') :
    InSync { w' with session := { w'.session with dirty := .clean } } := by
  obtain ⟨r, hr, hdev, hrel⟩ := hsync.row
  obtain ⟨-, -, -, -, hdirty⟩ := hsync.fields
  obtain ⟨RK, CKs, DHs, force, kem, has, c, hcs, heq⟩ :=
    prepareSending_of_available rnd now hEC
  have hsent : w.session.sent rnd now = advanceSending { w.session with
      PN := w.session.Ns, Ns := 0, RK := RK, CKs := CKs, DHs := DHs, forceKEMRatchet := force
      peerKEMPkAvailable := kem, peerHasSelfKEMPk := has, KEMRatchetChainSize := c
      dirty := .dirtyRatchetSending, peerECPkAvailable := false } := by
    rw [sent, heq, checkSendingChain_of_first rfl]
  set s2 := w.session.sent rnd now with hs2
  have hc : A.isKEM = true → s2.KEMRatchetChainSize.toNat < 2 ^ 23 := by
    intro hkem
    rw [hsent]
    simp only [advanceSending, hcs hkem]
    exact lt_of_le_of_lt (toNat_add_one_le _) (hcov.2 hkem).2
  have hactive : w.session.activeStatus = true := hsync.active hEC
  have hsession := hsaved.session
  have hrow := hsaved.row
  dsimp only at hsession hrow
  have hid : s2.dbSessionId = w.session.dbSessionId := by rw [hsent]; rfl
  have hdirty2 : s2.dirty = .dirtyRatchetSending := by rw [hsent]; rfl
  have hact2 : s2.activates = false := by rw [activates, hdirty2]
  have hdeact : s2.deactivatedRow now r = r := by
    simp only [deactivatedRow, hact2, Bool.false_eq_true, false_and, if_false]
  rw [hid, hr, map_some, hdeact] at hrow
  rw [hsession]
  refine ⟨hid ▸ hsync.stored, ⟨_, by rw [afterUpdate, hid]; exact hrow, ?_, ?_⟩, ?_, hc⟩
  · simp only [updateRow, hdirty2]
    rw [hsaved.deviceId]
    exact hdev
  · have hstatus := relevant_ofRow_status w.session.dbSessionId []
      { r with Ns := s2.Ns, PN := s2.PN, DHs := s2.DHs, RK := s2.RK, CKs := s2.CKs, Status := true }
      s2 hc
    have hcolumns : (ofRow w.session.dbSessionId [] { r with
        Ns := s2.Ns, PN := s2.PN, DHs := s2.DHs, RK := s2.RK, CKs := s2.CKs
        Status := true }).relevant = { (ofRow w.session.dbSessionId [] r).relevant with
          Ns := s2.Ns, PN := s2.PN, DHs := s2.DHs, RK := s2.RK, CKs := s2.CKs
          activeStatus := true } := rfl
    rw [hcolumns, hrel] at hstatus
    simp only [updateRow, hdirty2, afterUpdate, hid]
    refine hstatus.trans ?_
    rw [hsent]
    simp only [withStatus, relevant, advanceSending, activates, hdirty, hactive, Bool.or_true, reduceCtorEq, if_false]
  · intro h
    rw [hsent] at h
    cases h

/-! ### Decryptions -/

namespace Session

variable {s s' : Session C} {header : DRHeader A}

/-- The fields a reception keeps. -/
lemma Received.fields (h : Received s s') : s'.DHs = s.DHs ∧ s'.forceKEMRatchet = s.forceKEMRatchet ∧
      s'.lastKEMRatchetEpoch = s.lastKEMRatchetEpoch ∧ s'.CKs = s.CKs ∧ s'.Ns = s.Ns ∧
      s'.PN = s.PN ∧ s'.sharedAD = s.sharedAD ∧ s'.dbSessionId = s.dbSessionId ∧
      s'.usedOPkId = s.usedOPkId ∧ s'.peerDid = s.peerDid ∧ s'.dbUid = s.dbUid ∧
      s'.activeStatus = s.activeStatus ∧ s'.X3DHInitMessage = s.X3DHInitMessage := by
  have h := h.erased
  exact ⟨(congrArg DHs h :), (congrArg forceKEMRatchet h :), (congrArg lastKEMRatchetEpoch h :), (congrArg CKs h :),
    (congrArg Ns h :), (congrArg PN h :), (congrArg sharedAD h :),
    (congrArg dbSessionId h :), (congrArg usedOPkId h :),
    (congrArg peerDid h :), (congrArg dbUid h :),
    (congrArg activeStatus h :), (congrArg X3DHInitMessage h :)⟩

lemma updateRow_Did (now : ℤ) (s : Session C) (r : SessionRow C) : (s.updateRow now r).Did = r.Did := by
  rw [updateRow]
  cases s.dirty <;> rfl

/-- The columns written for a reception. Without an asymmetric ratchet, the columns left alone hold
what the others would write. -/
lemma Received.updateRow_eq {r : SessionRow C} (now : ℤ) (h : Received s s') (hDHr : r.DHr = s.DHr)
    (hRK : r.RK = s.RK) :
    s'.updateRow now r = { r with
      Nr := s'.Nr, DHr := s'.DHr, RK := s'.RK, CKr := s'.CKr, Status := true, X3DHInit := none
      timeStamp := if s'.dirty = .dirtyKemRatchetReceiving then now else r.timeStamp
      DHrStatus := s'.DHrStatusToInt } := by
  obtain hd | hd | hd := h.dirty
  · obtain ⟨-, hDHr', hRK'⟩ := h.symmetric hd
    simp only [updateRow, hd, hDHr', hRK', ← hDHr, ← hRK, reduceCtorEq, if_false]
  · simp only [updateRow, hd, reduceCtorEq, if_false]
  · simp only [updateRow, hd, if_true]

/-- The condition under which a decryption is written back: the first save of a session is not the
one of an initiator waiting for an answer, and the chain size fits the status integer. -/
def DecryptCovered (header : DRHeader A) (s : Session C) : Prop :=
  (s.dbSessionId = 0 → s.X3DHInitMessage = []) ∧ (A.isKEM = true → s.countedAfter C header < 2 ^ 23)

end Session

variable {header : DRHeader A} {s2 : Session C} {MK : C.MessageKey} {stored : Bool}
  {keys : KeyTable C}

/-- Saving the columns of a received message gives the session back. -/
lemma relevant_ofRow_received (now : ℤ) {s : Session C} {r : SessionRow C} (hr : Received s s2)
    (hs : s.usedDHid = none ∧ s.mkskipped = [] ∧ s.usedOPkId = 0 ∧ s.DHrValid = true)
    (hkept : (stored = true → s2.mkskipped = []) ∧ (stored = false → s2.usedDHid = none))
    (hc : A.isKEM = true → s2.KEMRatchetChainSize.toNat < 2 ^ 23)
    (hrel : (ofRow s.dbSessionId [] r).relevant = s.relevant) :
    (ofRow s.dbSessionId [] (s2.updateRow now r)).relevant = ((s2.afterUpdate now).afterDecrypt stored).relevant := by
  obtain ⟨hDHs, hforce, hepoch, hCKs, hNs, hPN, hAD, hid, hOPk, hdid, huid, hactive, hX⟩ := hr.fields
  have hrDHr : r.DHr = s.DHr := (congrArg DHr hrel :)
  have hrRK : r.RK = s.RK := (congrArg RK hrel :)
  have hdirty : s.dirty = .clean := (congrArg dirty hrel :).symm
  have hact := hr.activates
  have hupdate := hr.updateRow_eq now hrDHr hrRK
  have hstatus := relevant_ofRow_status s.dbSessionId [] { r with
      Nr := s2.Nr, DHr := s2.DHr, RK := s2.RK, CKr := s2.CKr, Status := true, X3DHInit := none
      timeStamp := if s2.dirty = .dirtyKemRatchetReceiving then now else r.timeStamp } s2 hc
  have hcolumns : (ofRow s.dbSessionId [] { r with
      Nr := s2.Nr, DHr := s2.DHr, RK := s2.RK, CKr := s2.CKr, Status := true, X3DHInit := none
      timeStamp := if s2.dirty = .dirtyKemRatchetReceiving then now else r.timeStamp }).relevant =
      { (ofRow s.dbSessionId [] r).relevant with
        Nr := s2.Nr, DHr := s2.DHr, RK := s2.RK, CKr := s2.CKr, activeStatus := true
        X3DHInitMessage := []
        lastKEMRatchetEpoch := if A.isKEM then
          (if s2.dirty = .dirtyKemRatchetReceiving then now else r.timeStamp) else 0 } := rfl
  rw [hcolumns, hrel] at hstatus
  rw [hupdate]
  refine hstatus.trans ?_
  have htime : (if A.isKEM then (if s2.dirty = .dirtyKemRatchetReceiving then now
      else r.timeStamp) else 0) = if A.isKEM then (if s2.dirty = .dirtyKemRatchetReceiving then now
      else s2.lastKEMRatchetEpoch) else 0 := by
    have hrtime := (congrArg lastKEMRatchetEpoch hrel :)
    cases hkem : A.isKEM with
    | false => rfl
    | true =>
      simp only [relevant, hkem, if_true] at hrtime
      rw [hepoch, ← hrtime]
      rfl
  obtain ⟨hused, hmk, hOPk0, hvalid⟩ := hs
  cases stored with
  | true =>
    simp only [withStatus, relevant, afterDecrypt, afterUpdate,
      hact, htime, if_true, hDHs, hCKs, hNs, hPN, hAD, hid, hOPk, hdid, huid, hforce, hdirty, hused,
      hmk, hkept.1 rfl, hr.DHrValid, hvalid, Bool.true_or]
  | false =>
    simp only [withStatus, relevant, afterDecrypt, afterUpdate,
      hact, htime, Bool.false_eq_true, if_false, hDHs, hCKs, hNs, hPN, hAD, hid, hOPk, hdid, huid,
      hforce, hdirty, hused, hmk, hkept.2 rfl, hr.DHrValid, hvalid, Bool.true_or]

/-- The chain size of a prepared session fits the status integer. -/
lemma chainSize_of_prepared (hcov : w.session.DecryptCovered header)
    (hc : A.isKEM = true → w.session.KEMRatchetChainSize.toNat < 2 ^ 23)
    (hprep : Prepared keys header w.session (s2, MK, stored)) :
    A.isKEM = true → s2.KEMRatchetChainSize.toNat < 2 ^ 23 := by
  intro hkem
  obtain hle | heq := hprep.chainSize_le
  · exact lt_of_le_of_lt hle (hcov.2 hkem)
  · exact lt_of_eq_of_lt (congrArg UInt32.toNat heq) (hc hkem)

/-- A first save, by a decryption. -/
lemma inSync_of_decrypt_new (hcov : w.session.DecryptCovered header) (hnew : NeverSaved w.session)
    (hc : A.isKEM = true → w.session.KEMRatchetChainSize.toNat < 2 ^ 23)
    (hprep : Prepared keys header w.session (s2, MK, stored))
    (hsaved : SavedNew now { w with session := s2 } w') :
    InSync { w' with session := w'.session.afterDecrypt stored } := by
  have hr : Received w.session s2 := hprep.received
  obtain ⟨-, -, -, -, -, -, -, -, -, -, -, hactive, hX⟩ := hr.fields
  have hkept := hprep.kept hnew.usedDHid
  refine (inSync_of_savedNew hsaved hr.DHrValid (hactive.trans hnew.activeStatus)
    (chainSize_of_prepared hcov hc hprep)).of_relevant ?_
  obtain ⟨did, -, -, hsession, -⟩ := hsaved.session
  have hX2 : s2.X3DHInitMessage = [] := hX.trans (hcov.1 hnew.dbSessionId)
  rw [hsession]
  cases stored with
  | true =>
    have hmk : s2.mkskipped = [] := (hkept.1 rfl).trans hnew.mkskipped
    simp only [relevant, afterDecrypt, if_true, hmk, hX2]
  | false =>
    have hused : s2.usedDHid = none := hkept.2 rfl
    simp only [relevant, afterDecrypt, Bool.false_eq_true, if_false, hused, hX2]

/-- A later save, by a decryption. -/
lemma inSync_of_decrypt_old (hsync : InSync w) (hcov : w.session.DecryptCovered header)
    (hprep : Prepared keys header w.session (s2, MK, stored))
    (hsaved : SavedOld now { w with session := s2 } w') :
    InSync { w' with session := w'.session.afterDecrypt stored } := by
  obtain ⟨r, hr, hdev, hrel⟩ := hsync.row
  obtain ⟨hvalid, hmk, hused, hOPk, hdirty⟩ := hsync.fields
  have hrec : Received w.session s2 := hprep.received
  obtain ⟨-, -, -, -, -, -, -, hid, -, -, -, hactive, -⟩ := hrec.fields
  have hc := chainSize_of_prepared hcov hsync.chainSize hprep
  have hkept := hprep.kept hused
  -- the row is marked active only when the session is
  have hdeact : s2.deactivatedRow now r = r := by
    have hstatus : r.Status = w.session.activeStatus := (congrArg activeStatus hrel :)
    rw [deactivatedRow, if_neg]
    rintro ⟨⟨-, hna⟩, hst, -⟩
    rw [hactive, ← hstatus] at hna
    exact hna hst
  have hrow := hsaved.row
  dsimp only at hrow
  rw [hid, hr, map_some, hdeact] at hrow
  have hrelevant := relevant_ofRow_received now hrec ⟨hused, hmk, hOPk, hvalid⟩
    ⟨fun h => (hkept.1 h).trans hmk, hkept.2⟩ hc hrel
  have hsession : w'.session = s2.afterUpdate now := hsaved.session
  have hid' : ((s2.afterUpdate now).afterDecrypt stored).dbSessionId = w.session.dbSessionId := by
    rw [afterDecrypt]
    split_ifs <;> exact hid
  rw [hsession]
  refine ⟨hid'.symm ▸ hsync.stored, ⟨s2.updateRow now r, ?_, ?_, ?_⟩, ?_, ?_⟩
  · rw [hid']
    exact hrow
  · rw [hsaved.deviceId, updateRow_Did]
    exact hdev
  · rw [hid']
    exact hrelevant
  · intro _
    rw [afterDecrypt]
    split_ifs <;> simp [afterUpdate, hrec.activates]
  · intro hkem
    rw [afterDecrypt]
    split_ifs <;> exact hc hkem

/-! ### Runs -/

inductive Operation (C : Crypto A) where
  | encrypt (rnd : Randomness C) (now : ℤ) (plaintext AD : Bytes)
      (payloadDirectEncryption : Bool)
  | decrypt (now : ℤ) (ciphertext AD : Bytes) (payloadDirectEncryption : Bool)

namespace Operation

/-- The state after an operation that succeeds. -/
def run (op : Operation C) (w : World C) : Option (World C) :=
  match op with
  | .encrypt rnd now plaintext AD p =>
    match ratchetEncrypt rnd now plaintext AD p w with
    | .ok _ w' => some w'
    | .error _ _ => none
  | .decrypt now ciphertext AD p =>
    match ratchetDecrypt now ciphertext AD p w with
    | .ok (some _) w' => some w'
    | .ok none _ => none
    | .error _ _ => none

/-- The condition under which an operation is written back. -/
def Covered (op : Operation C) (s : Session C) : Prop :=
  match op with
  | .encrypt _ _ _ _ _ => s.EncryptCovered
  | .decrypt _ ciphertext _ _ => ∀ header, DRHeader.parse A ciphertext = some header → s.DecryptCovered header

end Operation

/-- Runs of successful operations that satisfy a condition on the session they start from; the
backend may fail at any call of any operation. -/
inductive Run (P : Operation C → Session C → Prop) (w : World C) : World C → Prop where
  | start : Run P w w
  | step {w1 w2 : World C} (op : Operation C) (fault : Option Call) (h : Run P w w1)
      (hP : P op w1.session) (hop : op.run { w1 with fault := fault } = some w2) : Run P w w2

/-- A session just built by the sender or the receiver constructor. -/
inductive Created : Session C → Prop where
  | sender (SK : C.ChainKey) (AD : Buf settings.DRSessionSharedADSize) (peerPublicKey : ARrKey A)
      (peerDid : ℕ) (peerDeviceId : Bytes) (peerIk : Buf A.DSAsize) (selfDid : ℕ)
      (X3DHInitMessage : Bytes) (rnd : Randomness C) :
      Created (.initSender SK AD peerPublicKey peerDid peerDeviceId peerIk selfDid X3DHInitMessage rnd)
  | receiver (SK : C.ChainKey) (AD : Buf settings.DRSessionSharedADSize) (selfKeyPair : ARsKey C)
      (peerDid : ℕ) (peerDeviceId : Bytes) (OPk_id : UInt32) (peerIk : Buf A.DSAsize)
      (selfDid : ℕ) :
      Created (.initReceiver SK AD selfKeyPair peerDid peerDeviceId OPk_id peerIk selfDid)

lemma Created.neverSaved {s : Session C} (h : Created s) : NeverSaved s ∧ s.KEMRatchetChainSize = 0 := by
  cases h with
  | sender => exact ⟨⟨rfl, rfl, rfl, rfl, rfl⟩, rfl⟩
  | receiver => exact ⟨⟨rfl, rfl, rfl, rfl, rfl⟩, rfl⟩

/-- What holds of the state before each operation of a run. -/
def Synced (w : World C) : Prop :=
  InSync w ∨ NeverSaved w.session ∧ w.session.KEMRatchetChainSize = 0

lemma Synced.withFault (fault : Option Call) (h : Synced w) : Synced { w with fault := fault } := by
  obtain hsync | hnew := h
  · exact .inl ⟨hsync.stored, hsync.row, hsync.active, hsync.chainSize⟩
  · exact .inr hnew

lemma sent_dbSessionId (rnd : Randomness C) (now : ℤ) (s : Session C) : (s.sent rnd now).dbSessionId = s.dbSessionId :=
  (congrArg dbSessionId (s.putBackSending_sent rnd now) :)

lemma inSync_of_encrypt (hsync : Synced w) (hcov : w.session.EncryptCovered)
    (hsaved : Saved now { w with session := w.session.sent rnd now } w') :
    InSync { w' with session := { w'.session with dirty := .clean } } := by
  have hid := sent_dbSessionId rnd now w.session
  cases hsaved with
  | new h saved =>
    obtain hsync | ⟨hnew, -⟩ := hsync
    · exact absurd (hid.symm.trans h) hsync.stored
    · exact inSync_of_encrypt_new hcov hnew saved
  | old h saved =>
    obtain hsync | ⟨hnew, -⟩ := hsync
    · cases hEC : w.session.peerECPkAvailable with
      | true => exact inSync_of_encrypt_ratchet hsync hcov hEC saved
      | false =>
        refine inSync_of_encrypt_chain hsync ?_ hEC saved
        by_contra hkem
        obtain ⟨h0 | hav, -⟩ := hcov.2 (by simpa using hkem)
        · exact hsync.stored h0
        · rw [hEC] at hav
          cases hav
    · exact absurd (hid.trans hnew.dbSessionId) h

lemma inSync_of_decrypt (hsync : Synced w) (hcov : w.session.DecryptCovered header)
    (hprep : Prepared keys header w.session (s2, MK, stored))
    (hsaved : Saved now { w with session := s2 } w') :
    InSync { w' with session := w'.session.afterDecrypt stored } := by
  have hid : s2.dbSessionId = w.session.dbSessionId :=
    (congrArg dbSessionId hprep.received.erased :)
  cases hsaved with
  | new h saved =>
    obtain hsync | ⟨hnew, hc⟩ := hsync
    · exact absurd (hid.symm.trans h) hsync.stored
    · exact inSync_of_decrypt_new hcov hnew (fun _ => by rw [hc]; decide) hprep saved
  | old h saved =>
    obtain hsync | ⟨hnew, -⟩ := hsync
    · exact inSync_of_decrypt_old hsync hcov hprep saved
    · exact absurd (hid.trans hnew.dbSessionId) h

lemma inSync_of_step {op : Operation C} (hsync : Synced w) (hcov : op.Covered w.session)
    (hop : op.run w = some w') : InSync w' := by
  cases op with
  | encrypt rnd now plaintext AD p =>
    have hwp : wp (ratchetEncrypt rnd now plaintext AD p) (fun _ w2 => InSync w2)
        (fun _ _ => True) w :=
      wp_ratchetEncrypt (fun _ => trivial) (fun _ _ => trivial)
        (fun _ hsaved => inSync_of_encrypt hsync hcov hsaved)
    cases hres : ratchetEncrypt rnd now plaintext AD p w with
    | ok c w2 =>
      simp only [Operation.run, hres, some.injEq] at hop
      exact hop ▸ wp_of_ok hwp hres
    | error e w2 => simp only [Operation.run, hres, reduceCtorEq] at hop
  | decrypt now ciphertext AD p =>
    have hwp : wp (ratchetDecrypt now ciphertext AD p)
        (fun res w2 => res.isSome → InSync w2) (fun _ _ => True) w := by
      refine wp_ratchetDecrypt (fun _ => trivial) (fun _ _ _ => trivial) (fun _ _ _ => trivial)
        (fun _ _ _ _ _ => trivial) (fun header s2 MK stored hparse _ hprep => ?_)
      refine wp_decryptPrepared (fun _ => trivial) (fun _ h => by cases h) (fun _ _ _ => trivial) ?_
      intro plaintext w2 _ _ hsaved _
      exact inSync_of_decrypt hsync (hcov header hparse) (prepared_of_prepare hprep) hsaved
    cases hres : ratchetDecrypt now ciphertext AD p w with
    | ok res w2 =>
      cases res with
      | none => simp only [Operation.run, hres, reduceCtorEq] at hop
      | some plaintext =>
        simp only [Operation.run, hres, some.injEq] at hop
        exact hop ▸ wp_of_ok hwp hres rfl
    | error e w2 => simp only [Operation.run, hres, reduceCtorEq] at hop

/-- Over every run of covered operations, the session rebuilt from the storage is the one in
memory. -/
theorem writtenBack_of_run (hcreated : Created w.session) (hrun : Run Operation.Covered w w')
    (hsaved : w'.session.dbSessionId ≠ 0) : WrittenBack w' := by
  have hsync : Synced w' := by
    clear hsaved
    induction hrun with
    | start => exact .inr hcreated.neverSaved
    | step op fault h hP hop ih => exact .inl (inSync_of_step (ih.withFault fault) hP hop)
  obtain hsync | ⟨hnew, -⟩ := hsync
  · exact hsync.writtenBack
  · exact absurd hnew.dbSessionId hsaved

/-- The session of a sender with peer device 1, in the storage of the local user. -/
def sampleWorld (A : Curve) : World (Crypto.sample A) where
  session := .initSender (C := Crypto.sample A) (7 : UInt32) (zeros _) ⟨fill _ 3, fill _ 4, zeros _⟩
    1 [1] (zeros _) 1 [] ⟨(5 : UInt8), (6 : UInt8), (8 : UInt8)⟩
  db := .sample _
  fault := none

def sampleEncrypt (A : Curve) : Operation (Crypto.sample A) :=
  .encrypt ⟨(9 : UInt8), (10 : UInt8), (11 : UInt8)⟩ 0 [1, 2] [] true

/-- A session without KEM that encrypts twice. -/
theorem writtenBack_two_encryptions : ∃ w : World (Crypto.sample .C255),
    ((sampleEncrypt .C255).run (sampleWorld .C255) >>= (sampleEncrypt .C255).run) = some w ∧
      w.session.Ns = 2 ∧ WrittenBack w := by
  refine ⟨_, rfl, by decide +kernel, ?_⟩
  refine writtenBack_of_run (w := sampleWorld .C255) (.sender _ _ _ _ _ _ _ _ _)
    (.step (sampleEncrypt .C255) none (.step (sampleEncrypt .C255) none .start ⟨rfl, ?_⟩ rfl)
      ⟨rfl, ?_⟩ rfl) ?_
  · intro h
    cases h
  · intro h
    cases h
  · decide +kernel

/-- A session with a KEM counts its second message in memory only. -/
theorem not_writtenBack_two_encryptions : ¬ ∀ (A : Curve) (C : Crypto A) (w w' : World C), Created w.session →
      Run (fun _ _ => True) w w' → w'.session.dbSessionId ≠ 0 → WrittenBack w' := by
  intro h
  obtain ⟨s, hload, hrel⟩ := h .C255K512 _ (sampleWorld .C255K512) _ (.sender _ _ _ _ _ _ _ _ _)
    (.step (sampleEncrypt _) none (.step (sampleEncrypt _) none .start trivial rfl) trivial rfl)
    (by decide +kernel)
  have hsize := congrArg (Option.map fun s => s.relevant.KEMRatchetChainSize) hload
  rw [map_some, hrel] at hsize
  exact absurd hsize (by decide +kernel)

end Lime
