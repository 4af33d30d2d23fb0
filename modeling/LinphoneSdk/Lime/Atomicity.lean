import LinphoneSdk.Lime.Message
import LinphoneSdk.Lime.WriteBack

/-!
# A failed encryption to several recipients

When `encryptMessage` raises, the transaction restores the storage but nothing restores the session
objects. This module says exactly when the sessions of the recipients still agree with the storage:
when the first recipient is the one that fails, its session is new, and the failure comes before the
session refers to rows that the rollback removes.
-/

namespace Lime

open Bytes Exec List Option Session

variable {A : Curve} {C : Crypto A}

/-! ### Agreement of a session object with the storage -/

/-- A session is new and refers to no missing device, or is rebuilt from the storage as it is. -/
def Session.AgreesWith (db : Db C) (s : Session C) : Prop :=
  if s.dbSessionId = 0 then s.peerDid = 0 ∨ (db.deviceId s.peerDid).isSome
  else ∃ s', sessionLoad s.dbSessionId db = some s' ∧ s'.relevant = s.relevant

/-- Row identifiers start at one and are given in order. -/
structure Db.WellNumbered (db : Db C) : Prop where
  sessions : ∀ id, db.lastSessionId < id → db.DR_sessions id = none
  devices : ∀ did, db.lastDid < did → db.lime_PeerDevices did = none
  device_zero : db.lime_PeerDevices 0 = none

variable {db : Db C} {s s' : Session C}

lemma Session.AgreesWith.load (h : s.AgreesWith db) (hid : s.dbSessionId ≠ 0) :
    ∃ s', sessionLoad s.dbSessionId db = some s' ∧ s'.relevant = s.relevant := by
  rwa [AgreesWith, if_neg hid] at h

/-- A session that refers to a row not yet given is not in the storage. -/
lemma not_agreesWith_of_next (hdb : db.WellNumbered) (h : s.dbSessionId = db.lastSessionId + 1) :
    ¬ s.AgreesWith db := by
  intro hagrees
  obtain ⟨s', hload, -⟩ := hagrees.load (by omega)
  have hnone := hdb.sessions s.dbSessionId (by omega)
  simp [sessionLoad, hnone] at hload

/-- A new session that refers to a device not yet given does not agree with the storage. -/
lemma not_agreesWith_of_nextDevice (hdb : db.WellNumbered) (h0 : s.dbSessionId = 0)
    (h : s.peerDid = db.lastDid + 1) : ¬ s.AgreesWith db := by
  have hnone := hdb.devices s.peerDid (by omega)
  rw [AgreesWith, if_pos h0, Db.deviceId, hnone]
  simp only [map_none, isSome_none, Bool.false_eq_true, or_false]
  omega

/-! ### Encryption with a stored session -/

/-- The two sessions are the same row with different sending chains. -/
def Session.SendingDiffers (s s' : Session C) : Prop :=
  s'.dbSessionId = s.dbSessionId ∧ (s'.Ns ≠ s.Ns ∨ s'.peerECPkAvailable ≠ s.peerECPkAvailable)

lemma Session.SendingDiffers.not_agreesWith (h : s.SendingDiffers s') (hid : s.dbSessionId ≠ 0)
    (hs : s.AgreesWith db) : ¬ s'.AgreesWith db := by
  intro hs'
  obtain ⟨r, hload, hrel⟩ := hs.load hid
  obtain ⟨r', hload', hrel'⟩ := hs'.load (h.1 ▸ hid)
  rw [h.1, hload] at hload'
  cases hload'
  have heq : s'.relevant = s.relevant := hrel'.symm.trans hrel
  obtain hNs | hEC := h.2
  · exact hNs (congrArg Ns heq :)
  · exact hEC (congrArg peerECPkAvailable heq :)

lemma add_one_ne_uint16 (n : UInt16) : n + 1 ≠ n := by
  intro h
  have := congrArg (fun x => x - n) h
  simp only [UInt16.sub_self, UInt16.add_comm n 1, UInt16.add_sub_cancel] at this
  exact absurd this (by decide)

namespace Session

variable (rnd : Randomness C) (now : ℤ)

/-- An encryption refers to the same row, with another sending chain. -/
lemma sendingDiffers_advanceSending (s : Session C) :
    s.SendingDiffers (s.prepareSending rnd now).advanceSending := by
  refine ⟨(congrArg dbSessionId (s.putBackSending_advanceSending rnd now) :), ?_⟩
  cases hEC : s.peerECPkAvailable with
  | false =>
    left
    rw [prepareSending_of_unavailable rnd now hEC]
    exact add_one_ne_uint16 s.Ns
  | true =>
    right
    obtain ⟨RK, CKs, DHs, force, kem, has, c, -, heq⟩ := prepareSending_of_available rnd now hEC
    rw [heq]
    exact Bool.false_ne_true

lemma sendingDiffers_sent (s : Session C) : s.SendingDiffers (s.sent rnd now) := by
  have h := sendingDiffers_advanceSending rnd now s
  rw [sent, checkSendingChain]
  split_ifs
  · exact h
  · exact h

end Session

variable {rnd : Randomness C} {now : ℤ} {plaintext AD : Bytes} {p : Bool} {w : World C}

/-- Whether it succeeds or fails, an encryption changes the sending chain of a stored session. -/
lemma wp_ratchetEncrypt_stored (hid : w.session.dbSessionId ≠ 0) :
    wp (ratchetEncrypt rnd now plaintext AD p) (fun _ w' => w.session.SendingDiffers w'.session)
      (fun _ w' => w.session.SendingDiffers w'.session) w := by
  have hsent := sendingDiffers_sent rnd now w.session
  refine wp_ratchetEncrypt (fun _ => sendingDiffers_advanceSending rnd now w.session)
    (fun w' hfail => ?_) (fun w' hsaved => ?_)
  · obtain ⟨did, id, OPk, epoch, active, hid', hs⟩ := hfail.session
    dsimp only at hid' hs
    rw [hs]
    refine ⟨?_, hsent.2⟩
    obtain hid' | ⟨h0, -⟩ := hid'
    · exact hid'.trans hsent.1
    · exact absurd (hsent.1.symm.trans h0) hid
  · cases hsaved with
    | new h saved => exact absurd (hsent.1.symm.trans h) hid
    | old h saved =>
      have hs : w'.session = (w.session.sent rnd now).afterUpdate now := saved.session
      rw [hs]
      exact hsent

/-! ### Encryption with a new session -/

def Db.DeviceFails (db : Db C) (fault : Option Call) (dev : Bytes) (Ik : Buf A.DSAsize) : Prop :=
  fault = some .selectPeerDevice ∨ fault = some .storeDeactivatePeerDevices ∨ match db.findPeerDevice dev A.curveId with
    | none => fault = some .insertPeerDevice ∨ fault = some .peerDeviceRowid
    | some (_, d) => d.Ik = [0x00] ∧ fault = some .updatePeerDeviceIk ∨ d.Ik ≠ [0x00] ∧ d.Ik ≠ Ik.toList

def Db.RowFails (db : Db C) (fault : Option Call) (uid : ℕ) : Prop :=
  fault = some .insertSession ∨ fault = some .sessionRowid ∨ db.lime_LocalUsers uid = false

namespace Session

def DeviceKnown (db : Db C) (s : Session C) : Prop :=
  s.peerDid = 0 → (db.findPeerDevice s.peerDeviceId A.curveId).isSome

def DeviceFails (db : Db C) (fault : Option Call) (s : Session C) : Prop :=
  if s.peerDid = 0 then db.DeviceFails fault s.peerDeviceId s.peerIk
  else fault = some .activatePeerDevice ∨ fault = some .deactivateSessions

/-- The first save of a session fails before the session refers to a row that a rollback removes: its
own one, or the one of a device that was not known. -/
def InsertFails (db : Db C) (fault : Option Call) (s : Session C) : Prop :=
  s.DeviceFails db fault ∨ s.DeviceKnown db ∧ db.RowFails fault s.dbUid

end Session

/-- The encryption with a new session fails before the session refers to such a row. -/
def Session.FailsBeforeRow (db : Db C) (fault : Option Call) (s : Session C) : Prop :=
  fault = some .AEADEncrypt ∨ s.InsertFails db fault

/-- The identifier of a device once stored. -/
def Db.didOf (db : Db C) (dev : Bytes) : ℕ :=
  ((db.findPeerDevice dev A.curveId).map Prod.fst).getD (db.lastDid + 1)

lemma Db.WellNumbered.findPeerDevice_ne_zero (hdb : db.WellNumbered) {dev : Bytes} {c : UInt8}
    {r : ℕ × PeerDevice} (h : db.findPeerDevice dev c = some r) : r.1 ≠ 0 := by
  intro h0
  have hdev := Db.deviceId_of_findPeerDevice h
  rw [h0, Db.deviceId, hdb.device_zero] at hdev
  cases hdev

/-- Storing a device gives its identifier, or fails and leaves the session as it is. -/
lemma wp_storePeerDevice_didOf (hdb : w.db.WellNumbered) (dev : Bytes) (Ik : Buf A.DSAsize) :
    wp (storePeerDevice dev Ik) (fun did w' => ¬ w.db.DeviceFails w.fault dev Ik ∧ did = w.db.didOf dev ∧
        w'.session = w.session ∧ w'.fault = w.fault ∧ w.db.SameSessions w'.db ∧ w'.db.deviceId did = some dev)
      (fun _ w' => w.db.DeviceFails w.fault dev Ik ∧ w'.session = w.session) w := by
  rw [storePeerDevice, checkPeerDevice]
  simp only [wp_bind, wp_extCall, wp_getDb]
  refine ⟨fun hf => ⟨.inl hf, trivial⟩, fun hselect => ?_⟩
  cases hfind : w.db.findPeerDevice dev A.curveId with
  | none =>
    simp only [wp_pure, wp_ite, wp_bind, wp_sql, wp_extCall, wp_getDb, Db.DeviceFails, hfind]
    refine ⟨fun _ => ⟨fun hf => ⟨?_, trivial⟩, fun hinsert => ⟨fun hf => ⟨?_, trivial⟩, fun hrowid =>
      ⟨fun hf => ⟨?_, trivial⟩, fun hdeact => ?_⟩⟩⟩, fun h => absurd trivial h⟩
    · exact .inr (.inr (.inl hf))
    · exact .inr (.inr (.inr hf))
    · exact .inr (.inl hf)
    · refine ⟨by simp [hselect, hinsert, hrowid, hdeact], ?_, trivial, trivial, ⟨rfl, rfl, rfl, rfl⟩, ?_⟩
      · rw [Db.didOf, hfind]
        rfl
      · rw [Db.deviceId_deactivatePeerDevices]
        simp [Db.deviceId, Db.insertPeerDevice]
  | some r =>
    obtain ⟨did, d⟩ := r
    have hne : did ≠ 0 := hdb.findPeerDevice_ne_zero hfind
    have hdev : w.db.deviceId did = some dev := Db.deviceId_of_findPeerDevice hfind
    have hdidOf : did = w.db.didOf dev := by
      rw [Db.didOf, hfind]
      rfl
    simp only [wp_pure, wp_ite, wp_bind, wp_sql, wp_throw, Db.DeviceFails, hfind]
    refine ⟨fun hinv => ⟨fun hf => ⟨?_, trivial⟩, fun hupdate => ⟨fun h => absurd h hne, fun _ =>
      ⟨fun hf => ⟨?_, trivial⟩, fun hdeact => ?_⟩⟩⟩, fun hinv => ⟨fun hIk => ⟨fun h => absurd h hne,
        fun _ => ⟨fun hf => ⟨?_, trivial⟩, fun hdeact => ?_⟩⟩, fun hIk => ⟨?_, trivial⟩⟩⟩
    · exact .inr (.inr (.inl ⟨hinv, hf⟩))
    · exact .inr (.inl hf)
    · refine ⟨by simp [hselect, hdeact, hupdate, hinv], hdidOf, trivial, trivial, ⟨rfl, rfl, rfl, rfl⟩, ?_⟩
      rw [Db.deviceId_deactivatePeerDevices, Db.deviceId_updatePeerDeviceIk, hdev]
    · exact .inr (.inl hf)
    · have hvalid : ¬ Ik.toList = [0x00] := hIk ▸ hinv
      refine ⟨by simp [hselect, hdeact, hIk, hvalid], hdidOf, trivial, trivial, ⟨rfl, rfl, rfl, rfl⟩, ?_⟩
      rw [Db.deviceId_deactivatePeerDevices, hdev]
    · exact .inr (.inr (.inr ⟨hinv, hIk⟩))

namespace Session

/-- Two sessions refer to the same rows. -/
structure SameReferences (s s' : Session C) : Prop where
  dbSessionId : s'.dbSessionId = s.dbSessionId
  peerDid : s'.peerDid = s.peerDid
  peerDeviceId : s'.peerDeviceId = s.peerDeviceId
  peerIk : s'.peerIk = s.peerIk
  dbUid : s'.dbUid = s.dbUid

lemma SameReferences.insertFails (h : SameReferences s s') (db : Db C) (fault : Option Call) :
    s'.InsertFails db fault = s.InsertFails db fault := by
  simp only [InsertFails, DeviceFails, DeviceKnown, h.peerDid, h.peerDeviceId, h.peerIk, h.dbUid]

lemma SameReferences.agreesWith (h : SameReferences s s') (h0 : s.dbSessionId = 0)
    (hagrees : s.AgreesWith db) : s'.AgreesWith db := by
  rw [AgreesWith, if_pos h0] at hagrees
  rw [AgreesWith, if_pos (h.dbSessionId.trans h0), h.peerDid]
  exact hagrees

lemma sameReferences_of_putBackSending (h : s.putBackSending s' = s) : SameReferences s s' :=
  ⟨(congrArg dbSessionId h :), (congrArg peerDid h :),
    (congrArg peerDeviceId h :), (congrArg peerIk h :), (congrArg dbUid h :)⟩

end Session

section

variable (hdb : w.db.WellNumbered) (h0 : w.session.dbSessionId = 0) (hagrees : w.session.AgreesWith w.db)
include hdb h0 hagrees

/-- The peer device of a session agreeing with the storage gets an identifier, which was in the
storage if the device was known. -/
lemma wp_storeSessionDevice_agrees (now : ℤ) :
    wp (storeSessionDevice now)
      (fun _ w' => ¬ w.session.DeviceFails w.db w.fault ∧ ∃ did,
        (w.session.DeviceKnown w.db → (w.db.deviceId did).isSome) ∧
        (¬ w.session.DeviceKnown w.db → did = w.db.lastDid + 1) ∧
        (w'.db.deviceId did).isSome ∧ w'.db.lastSessionId = w.db.lastSessionId ∧
        w'.db.lime_LocalUsers = w.db.lime_LocalUsers ∧ w'.fault = w.fault ∧
        w'.session = { w.session with peerDid := did })
      (fun _ w' => w.session.DeviceFails w.db w.fault ∧ w'.session = w.session) w := by
  rw [storeSessionDevice]
  simp only [wp_bind, wp_getSession, wp_ite, wp_sql, wp_modifySession, DeviceFails]
  refine ⟨fun hdid => ?_, fun hdid => ?_⟩
  · simp only [hdid, if_true]
    refine wp_mono (wp_storePeerDevice_didOf hdb w.session.peerDeviceId w.session.peerIk) ?_ ?_
    · rintro did w' ⟨hok, rfl, hsession, hfault, ⟨-, hlast, -, husers⟩, hdev⟩
      refine ⟨hok, w.db.didOf w.session.peerDeviceId, fun hknown => ?_, fun hknown => ?_,
        isSome_of_eq_some hdev, hlast, husers, hfault, by rw [hsession]⟩
      · obtain ⟨r, hr⟩ := isSome_iff_exists.mp (hknown hdid)
        rw [Db.didOf, hr]
        simp [Db.deviceId_of_findPeerDevice hr]
      · have hnone : w.db.findPeerDevice w.session.peerDeviceId A.curveId = none := by
          simpa [DeviceKnown, hdid] using hknown
        rw [Db.didOf, hnone]
        rfl
    · rintro e w' ⟨hfail, hsession⟩
      exact ⟨hfail, hsession⟩
  · have hsome : (w.db.deviceId w.session.peerDid).isSome := by
      rw [AgreesWith, if_pos h0] at hagrees
      exact hagrees.resolve_left hdid
    simp only [hdid, if_false]
    refine ⟨fun hf => ⟨.inl hf, trivial⟩, fun hactivate => ⟨fun hf => ⟨.inr hf, trivial⟩,
      fun hdeact => ⟨by simp [hactivate, hdeact], w.session.peerDid, fun _ => hsome,
        fun hknown => absurd (fun h => absurd h hdid) hknown, ?_, rfl, rfl, trivial, rfl⟩⟩⟩
    have hdev : Db.deviceId (Db.deactivateSessions w.session.peerDid w.session.dbUid now
        (Db.activatePeerDevice w.session.peerDid w.db)) = w.db.deviceId :=
      Db.deviceId_activatePeerDevice _ _
    rw [hdev]
    exact hsome

/-- When the row of a session that agrees with the storage cannot be inserted, the session still
agrees if and only if the failure came before it referred to a new row. -/
lemma wp_sessionInsert_agrees (now : ℤ) : wp (sessionInsert now)
      (fun _ w' => ¬ w.session.InsertFails w.db w.fault ∧ w'.session.dbSessionId = w.db.lastSessionId + 1)
      (fun _ w' => w'.session.AgreesWith w.db ↔ w.session.InsertFails w.db w.fault) w := by
  rw [sessionInsert, wp_bind]
  refine wp_mono (wp_storeSessionDevice_agrees hdb h0 hagrees now) ?_ ?_
  · rintro - ⟨s', db', f'⟩ ⟨hdevice, did, hknown, hnew, hdev, hlast, husers, rfl, rfl⟩
    dsimp only at hdev hlast husers
    -- up to the identifier of the row, the session refers to its device only
    have hrow : ∀ epoch, w.db.RowFails w.fault w.session.dbUid →
        (AgreesWith w.db { w.session with peerDid := did, lastKEMRatchetEpoch := epoch } ↔
          w.session.InsertFails w.db w.fault) := by
      intro epoch hfails
      by_cases h : w.session.DeviceKnown w.db
      · refine iff_of_true ?_ (.inr ⟨h, hfails⟩)
        rw [AgreesWith, if_pos h0]
        exact .inr (hknown h)
      · refine iff_of_false (not_agreesWith_of_nextDevice hdb h0 (hnew h)) ?_
        rintro (hfail | ⟨hk, -⟩)
        · exact hdevice hfail
        · exact h hk
    have hdone : ¬ w.db.RowFails w.fault w.session.dbUid → ¬ w.session.InsertFails w.db w.fault := by
      rintro hok (hfail | ⟨-, hfail⟩)
      · exact hdevice hfail
      · exact hok hfail
    simp only [wp_bind, wp_getSession, wp_getDb, wp_ite, wp_throw, wp_sql, wp_modifySession, wp_extCall, wp_pure]
    refine ⟨fun hfk => hrow _ (.inr (.inr ?_)), fun hfk => ⟨fun hf => hrow _ (.inl hf),
      fun hins => ⟨fun hf => hrow _ (.inr (.inl hf)), fun hrowid => ?_⟩⟩⟩
    · obtain hnone | huser := hfk
      · rw [isNone_iff_eq_none] at hnone
        simp [Db.deviceId, hnone] at hdev
      · rw [← husers]
        simpa using huser
    · have hok : ¬ w.db.RowFails w.fault w.session.dbUid := by
        rintro (h | h | h)
        · exact hins h
        · exact hrowid h
        · simp only [not_or, not_not, husers, h] at hfk
          exact absurd hfk.2 (by decide)
      refine ⟨fun _ => ⟨fun _ => iff_of_false ?_ (hdone hok), fun _ => ⟨hdone hok, ?_⟩⟩, fun _ => ⟨hdone hok, ?_⟩⟩
      · refine not_agreesWith_of_next hdb ?_
        simp [Db.insertSession, hlast]
      · simp [Db.insertSession, hlast]
      · simp [Db.insertSession, hlast]
  · rintro e w' ⟨hfail, hsession⟩
    rw [hsession]
    exact iff_of_true hagrees (.inl hfail)

/-- A first save that fails leaves a session that agrees with the storage before it if and only if it
failed before the session referred to a new row. -/
lemma wp_sessionSave_agrees (now : ℤ) : wp (sessionSave now false)
      (fun _ w' => ¬ w.session.InsertFails w.db w.fault ∧ w'.session.dbSessionId = w.db.lastSessionId + 1)
      (fun _ w' => w'.session.AgreesWith w.db ↔ w.session.InsertFails w.db w.fault) w := by
  rw [sessionSave, wp_bind, wp_getDb, wp_tryCatch, sessionSaveBody, wp_bind, wp_getSession]
  simp only [h0, if_true, wp_bind, wp_getSession, wp_sql, wp_ite, wp_throw,
    Bool.false_eq_true, false_imp_iff, not_false_eq_true, true_imp_iff, true_and]
  refine wp_mono (wp_sessionInsert_agrees hdb h0 hagrees now) ?_ (fun _ _ h => h)
  rintro - w1 ⟨hok, hid⟩
  refine wp_mono wp_saveSkippedKeys ?_ ?_
  · rintro - w2 ⟨t, -, rfl⟩
    exact ⟨fun _ => iff_of_false (not_agreesWith_of_next hdb hid) hok, fun _ => ⟨hok, hid⟩⟩
  · rintro e w2 ⟨hsession, -⟩
    rw [hsession]
    exact iff_of_false (not_agreesWith_of_next hdb hid) hok

/-- A successful encryption with a new session gives it a row; after a failed one the session agrees
with the storage before it if and only if it failed before it referred to a new row. -/
lemma wp_ratchetEncrypt_new : wp (ratchetEncrypt rnd now plaintext AD p)
      (fun _ w' => ¬ w.session.FailsBeforeRow w.db w.fault ∧ w'.session.dbSessionId = w.db.lastSessionId + 1)
      (fun _ w' => w'.session.AgreesWith w.db ↔ w.session.FailsBeforeRow w.db w.fault) w := by
  rw [ratchetEncrypt]
  simp only [wp_bind, wp_modifySession, wp_getSession, wp_extCall, wp_pure]
  refine ⟨fun hf => iff_of_true ?_ (.inl hf), fun hf => ?_⟩
  · exact (sameReferences_of_putBackSending
      (w.session.putBackSending_advanceSending rnd now)).agreesWith h0 hagrees
  · have hsame := sameReferences_of_putBackSending (w.session.putBackSending_sent rnd now)
    refine wp_mono (wp_sessionSave_agrees (w := ⟨w.session.sent rnd now, w.db, w.fault⟩) hdb
      (hsame.dbSessionId.trans h0) (hsame.agreesWith h0 hagrees) now) ?_ ?_
    · rintro - w' ⟨hok, hid⟩
      rw [hsame.insertFails] at hok
      exact ⟨fun hfail => hok (hfail.resolve_left hf), hid⟩
    · intro e w' h
      rw [h, hsame.insertFails]
      exact ⟨.inr, fun hfail => hfail.resolve_left hf⟩

end

/-! ### Encryption to several recipients -/

variable {payload AD plaintext recipientUserId sourceDeviceId cipherMessage : Bytes}
  {direct : Bool} {policy : EncryptionPolicy} {seed : Option Bytes}
  {newSeed : Buf settings.DRrandomSeedSize} {recipients : List RecipientInfos}
  {env : ℕ → Environment C} {mem mem' : Memory C} {e : Exception}

/-- The sessions of other devices are not touched. -/
lemma wp_encryptRecipients_frame (i : ℕ) (hi : ∀ r ∈ recipients, r.DRSession ≠ i) :
    wp (encryptRecipients payload AD direct recipients env) (fun _ mem' => mem'.sessions i = mem.sessions i)
      (fun _ mem' => mem'.sessions i = mem.sessions i) mem := by
  induction recipients generalizing env mem with
  | nil => rfl
  | cons r rest ih =>
    have hne : i ≠ r.DRSession := (hi r mem_cons_self).symm
    have hstore : ∀ w : World C, (mem.store r.DRSession w).sessions i = mem.sessions i :=
      fun w => Function.update_of_ne hne _ _
    rw [encryptRecipients, wp_bind, wp_onSession]
    refine wp_mono (wp_trivial _ _) (fun message w _ => ?_) (fun e w _ => hstore w)
    rw [wp_bind]
    simp only [wp_pure]
    refine wp_mono (ih fun r' hr' => hi r' (mem_cons_of_mem r hr')) (fun _ _ h => ?_)
      (fun _ _ h => ?_)
    · exact h.trans (hstore w)
    · exact h.trans (hstore w)

/-- The first recipient is the one that fails, its session is new, and the failure comes before the
session refers to a row that the rollback removes. -/
def FailsFirst (recipients : List RecipientInfos) (env : ℕ → Environment C) (mem : Memory C) : Prop :=
  match recipients with
  | [] => False
  | r :: _ => (mem.sessions r.DRSession).dbSessionId = 0 ∧
      (mem.sessions r.DRSession).FailsBeforeRow mem.db (env 0).fault

/-- What the first recipient decides of the sessions left by a failed encryption. -/
structure FirstDecides (r : RecipientInfos) (rest : List RecipientInfos) (env : ℕ → Environment C)
    (mem : Memory C) (sessions : ℕ → Session C) : Prop where
  agrees : FailsFirst (r :: rest) env mem → (sessions r.DRSession).AgreesWith mem.db
  others : FailsFirst (r :: rest) env mem → ∀ i, i ≠ r.DRSession → sessions i = mem.sessions i
  only : (∀ r' ∈ rest, r'.DRSession ≠ r.DRSession) → (sessions r.DRSession).AgreesWith mem.db →
    FailsFirst (r :: rest) env mem

lemma wp_encryptRecipients_agrees {r : RecipientInfos} {rest : List RecipientInfos}
    (hdb : mem.db.WellNumbered) (hr : (mem.sessions r.DRSession).AgreesWith mem.db) :
    wp (encryptRecipients payload AD direct (r :: rest) env) (fun _ _ => True)
      (fun _ mem' => FirstDecides r rest env mem mem'.sessions) mem := by
  set s := mem.sessions r.DRSession with hs
  have hself : ∀ w : World C, (mem.store r.DRSession w).sessions r.DRSession = w.session :=
    fun w => Function.update_self _ _ _
  have hother : ∀ (w : World C) i, i ≠ r.DRSession → (mem.store r.DRSession w).sessions i = mem.sessions i :=
    fun w i hi => Function.update_of_ne hi _ _
  -- a later recipient fails: the session of the first one stays as its own encryption left it
  have hrest : ∀ w : World C, ¬ w.session.AgreesWith mem.db → ¬ FailsFirst (r :: rest) env mem →
      wp (encryptRecipients payload AD direct rest fun i => env (i + 1)) (fun _ _ => True)
        (fun _ mem' => FirstDecides r rest env mem mem'.sessions) (mem.store r.DRSession w) := by
    intro w hw hnot
    by_cases hdistinct : ∀ r' ∈ rest, r'.DRSession ≠ r.DRSession
    · refine wp_mono (wp_encryptRecipients_frame r.DRSession hdistinct) (fun _ _ _ => trivial) ?_
      intro e mem' h
      refine ⟨fun h => absurd h hnot, fun h => absurd h hnot, fun _ hagrees => absurd hagrees ?_⟩
      rw [h, hself]
      exact hw
    · exact wp_mono (wp_trivial _ _) (fun _ _ _ => trivial)
        (fun _ _ _ => ⟨fun h => absurd h hnot, fun h => absurd h hnot, fun h => absurd h hdistinct⟩)
  rw [encryptRecipients, wp_bind, wp_onSession]
  simp only [wp_bind, wp_pure]
  by_cases h0 : s.dbSessionId = 0
  · refine wp_mono (wp_ratchetEncrypt_new (w := mem.world r.DRSession (env 0).fault) hdb h0 hr) ?_ ?_
    · rintro message w ⟨hok, hid⟩
      exact hrest w (not_agreesWith_of_next hdb hid) fun h => hok h.2
    · intro e w h
      refine ⟨fun hfail => ?_, fun _ => hother w, fun _ hagrees => ⟨h0, ?_⟩⟩
      · rw [hself]
        exact h.mpr hfail.2
      · rw [hself] at hagrees
        exact h.mp hagrees
  · have hnot : ¬ FailsFirst (r :: rest) env mem := fun h => h0 h.1
    refine wp_mono (wp_ratchetEncrypt_stored (w := mem.world r.DRSession (env 0).fault) h0) ?_ ?_
    · intro message w h
      exact hrest w (h.not_agreesWith h0 hr) hnot
    · intro e w h
      refine ⟨fun hfail => absurd hfail hnot, fun hfail => absurd hfail hnot, fun _ hagrees => ?_⟩
      rw [hself] at hagrees
      exact absurd hagrees (h.not_agreesWith h0 hr)

/-- A failed call leaves the storage as it was. -/
lemma encryptMessage_error (hfail : encryptMessage recipients plaintext recipientUserId sourceDeviceId
      cipherMessage policy seed newSeed env mem = .error e mem')  {E : (ℕ → Session C) → Prop}
    (h : ∀ payload AD direct, wp (encryptRecipients payload AD direct recipients env)
      (fun _ _ => True) (fun _ mem' => E mem'.sessions) mem) : mem'.db = mem.db ∧ E mem'.sessions := by
  refine wp_of_error (Q := fun _ _ => True) (E := fun _ mem' => mem'.db = mem.db ∧ E mem'.sessions)
    ?_ hfail
  rw [encryptMessage]
  simp only [wp_bind, wp_get, wp_tryCatch, wp_modify, wp_throw, wp_pure]
  exact wp_mono (h _ _ _) (fun _ _ _ => trivial) (fun _ _ h => ⟨trivial, h⟩)

/-- When an encryption to recipients whose sessions agree with the storage fails and is rolled back,
they still agree if the first recipient fails before its new session refers to a new row; with one
session object by recipient, only then. -/
theorem encryptMessage_agrees (hdb : mem.db.WellNumbered)
    (hbefore : ∀ r ∈ recipients, (mem.sessions r.DRSession).AgreesWith mem.db)
    (hfail : encryptMessage recipients plaintext recipientUserId sourceDeviceId cipherMessage policy
      seed newSeed env mem = .error e mem') :
    (FailsFirst recipients env mem → ∀ r ∈ recipients, (mem'.sessions r.DRSession).AgreesWith mem'.db) ∧
    ((recipients.map RecipientInfos.DRSession).Nodup →
      (∀ r ∈ recipients, (mem'.sessions r.DRSession).AgreesWith mem'.db) → FailsFirst recipients env mem) := by
  cases recipients with
  | nil =>
    have hnil := encryptMessage_error hfail (E := fun _ => False) (fun _ _ _ => trivial)
    exact hnil.2.elim
  | cons r rest =>
    obtain ⟨hdb', hfirst⟩ := encryptMessage_error hfail fun _ _ _ =>
      wp_encryptRecipients_agrees hdb (hbefore r mem_cons_self)
    rw [hdb']
    refine ⟨fun h r' hr' => ?_, fun hnodup hagrees => ?_⟩
    · by_cases heq : r'.DRSession = r.DRSession
      · rw [heq]
        exact hfirst.agrees h
      · rw [hfirst.others h _ heq]
        exact hbefore r' hr'
    · refine hfirst.only (fun r' hr' heq => ?_) (hagrees r mem_cons_self)
      rw [map_cons, nodup_cons] at hnodup
      exact hnodup.1 (heq ▸ mem_map_of_mem hr')

/-- A session stored by a first encryption at address 0, a new session at the other addresses. -/
def sampleMemory (A : Curve) : Memory (Crypto.sample A) :=
  let w := ((sampleEncrypt A).run (sampleWorld A)).getD (sampleWorld A)
  ⟨fun i => if i = 0 then w.session else (sampleWorld A).session, w.db⟩

def sampleEnvironment (A : Curve) (n : ℕ) : ℕ → Environment (Crypto.sample A) := fun i =>
  ⟨⟨(9 : UInt8), (10 : UInt8), (11 : UInt8)⟩, 0, if i = n then some .AEADEncrypt else none⟩

lemma sampleMemory_wellNumbered : (sampleMemory .C255).db.WellNumbered where
  sessions := by
    intro id hid
    have hne : id ≠ 1 := by
      have : (sampleMemory .C255).db.lastSessionId = 1 := by decide +kernel
      omega
    exact Function.update_of_ne hne _ _
  devices := by
    intro did hdid
    have hne : did ≠ 1 := by
      have : (sampleMemory .C255).db.lastDid = 1 := by decide +kernel
      omega
    have hactivated : (Db.activatePeerDevice 1 (sampleWorld .C255).db).lime_PeerDevices did = none := by
      simp [Db.activatePeerDevice, sampleWorld, Db.sample, hne]
    exact congrArg (Option.map _) hactivated
  device_zero := by decide +kernel

lemma sampleMemory_agrees (i : ℕ) : ((sampleMemory .C255).sessions i).AgreesWith (sampleMemory .C255).db := by
  by_cases hi : i = 0
  · subst hi
    exact ⟨_, rfl, rfl⟩
  · have hnew : (sampleMemory .C255).sessions i = (sampleWorld .C255).session := if_neg hi
    rw [hnew]
    exact .inr (by decide +kernel)

/-- A first recipient with a new session that fails on the AEAD leaves the two sessions in agreement
with the storage. -/
theorem encryptMessage_agrees_first : ∃ mem', encryptMessage [⟨[2], 1⟩, ⟨[1], 0⟩] [5] [] [] [] .DRMessage none (zeros _)
      (sampleEnvironment .C255 0) (sampleMemory .C255) = .error .bctbx mem' ∧
    (mem'.sessions 0).AgreesWith mem'.db ∧ (mem'.sessions 1).AgreesWith mem'.db := by
  refine ⟨_, rfl, ?_⟩
  have hfail : encryptMessage [⟨[2], 1⟩, ⟨[1], 0⟩] [5] [] [] [] .DRMessage none (zeros _)
      (sampleEnvironment .C255 0) (sampleMemory .C255) = .error .bctbx _ := rfl
  obtain ⟨hagrees, -⟩ := encryptMessage_agrees sampleMemory_wellNumbered
    (fun r _ => sampleMemory_agrees r.DRSession) hfail
  have hfirst : FailsFirst [⟨[2], 1⟩, ⟨[1], 0⟩] (sampleEnvironment .C255 0) (sampleMemory .C255) :=
    ⟨by decide +kernel, .inl rfl⟩
  exact ⟨hagrees hfirst _ (mem_cons_of_mem _ mem_cons_self), hagrees hfirst _ mem_cons_self⟩

/-- A second recipient that fails leaves the session of the first one ahead of its row. -/
theorem not_encryptMessage_agrees_second : ¬ ∀ (A : Curve) (C : Crypto A) (recipients : List RecipientInfos)
      (plaintext recipientUserId sourceDeviceId cipherMessage : Bytes)
      (policy : EncryptionPolicy) (seed : Option Bytes)
      (newSeed : Buf settings.DRrandomSeedSize) (env : ℕ → Environment C) (mem mem' : Memory C)
      (e : Exception), mem.db.WellNumbered → (∀ r ∈ recipients, (mem.sessions r.DRSession).AgreesWith mem.db) →
      encryptMessage recipients plaintext recipientUserId sourceDeviceId cipherMessage policy
        seed newSeed env mem = .error e mem' → ∀ r ∈ recipients, (mem'.sessions r.DRSession).AgreesWith mem'.db := by
  intro h
  have hagrees := h .C255 _ [⟨[1], 0⟩, ⟨[2], 1⟩] [5] [] [] [] .DRMessage none (zeros _)
    (sampleEnvironment .C255 1) (sampleMemory .C255) _ _ sampleMemory_wellNumbered
    (fun r _ => sampleMemory_agrees r.DRSession) rfl ⟨[1], 0⟩ mem_cons_self
  obtain ⟨s, hload, hrel⟩ := hagrees.load (by decide +kernel)
  have hNs := congrArg (Option.map fun s => s.relevant.Ns) hload
  rw [map_some, hrel] at hNs
  exact absurd hNs (by decide +kernel)

end Lime
