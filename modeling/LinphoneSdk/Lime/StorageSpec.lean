import LinphoneSdk.Lime.Storage

/-!
# What `session_save` does

`Saved now w w'` is what a successful save changes: the session in memory, its row and its skipped
message keys. `wp_sessionSave` is the rule the callers use: they never look at the statements.
-/

namespace Lime

open Bytes Exec Option Function

variable {A : Curve} {C : Crypto A}

/-! ### Skipped message keys -/

namespace KeyTable

def insertKey (DHr : Bytes) (kv : UInt16 × C.MessageKey) (t : KeyTable C) : Option (KeyTable C) :=
  if (t DHr kv.1).isSome then none
  else some fun i n => if i = DHr ∧ n = kv.1 then some kv.2 else t i n

def insertChain (c : ReceiverKeyChain C) (t : KeyTable C) : Option (KeyTable C) :=
  c.messageKeys.foldlM (fun t kv => insertKey c.DHrIndex kv t) t

def insertChains (l : List (ReceiverKeyChain C)) (t : KeyTable C) : Option (KeyTable C) :=
  l.foldlM (fun t c => insertChain c t) t

@[simp] lemma insertChains_nil (t : KeyTable C) : insertChains [] t = some t := rfl

lemma insertChains_cons (c : ReceiverKeyChain C) (l : List (ReceiverKeyChain C)) (t : KeyTable C) :
    insertChains (c :: l) t = (insertChain c t).bind (insertChains l) := rfl

end KeyTable

namespace Session

def deleteUsed (s : Session C) (t : KeyTable C) : KeyTable C :=
  match s.usedDHid with
  | some DHr => fun i n => if i = DHr ∧ n = s.usedNr then none else t i n
  | none => t

lemma deleteUsed_empty (s : Session C) : s.deleteUsed (fun _ _ => none) = fun _ _ => none := by
  rw [deleteUsed]
  split
  · funext i n
    split_ifs <;> rfl
  · rfl

end Session

namespace Db

@[simp] lemma setKeys_DR_MSk (id : ℕ) (t : KeyTable C) (db : Db C) :
    (db.setKeys id t).DR_MSk = update db.DR_MSk id t := rfl

@[simp] lemma setKeys_setKeys (id : ℕ) (t t' : KeyTable C) (db : Db C) :
    (db.setKeys id t).setKeys id t' = db.setKeys id t' := by
  simp [setKeys]

@[simp] lemma setKeys_self (id : ℕ) (db : Db C) : db.setKeys id (db.DR_MSk id) = db := by
  simp [setKeys]

end Db

variable {w : World C}

/-- Inserting a message key extends the table, unless the key is there. -/
lemma wp_insertMessageKey (id : ℕ) (DHr : Bytes) (kv : UInt16 × C.MessageKey) :
    wp (insertMessageKey id DHr kv)
      (fun _ w' => ∃ t, KeyTable.insertKey DHr kv (w.db.DR_MSk id) = some t ∧ w' = { w with db := w.db.setKeys id t })
      (fun _ w' => w' = w ∧ (w.fault = none → KeyTable.insertKey DHr kv (w.db.DR_MSk id) = none))
      w := by
  rw [insertMessageKey]
  simp only [wp_bind, wp_getDb, wp_ite, wp_throw, wp_sql, true_and]
  refine ⟨fun h _ => by rw [KeyTable.insertKey, if_pos h], fun h => ⟨fun hf hn => ?_, fun _ => ?_⟩⟩
  · rw [hf] at hn
    cases hn
  · exact ⟨_, by rw [KeyTable.insertKey, if_neg h], rfl⟩

lemma wp_insertMessageKeys (id : ℕ) (DHr : Bytes) (l : List (UInt16 × C.MessageKey)) :
    wp (forM l (insertMessageKey id DHr))
      (fun _ w' => ∃ t, l.foldlM (fun t kv => KeyTable.insertKey DHr kv t) (w.db.DR_MSk id) = some t ∧
        w' = { w with db := w.db.setKeys id t })
      (fun _ w' => (∃ t, w' = { w with db := w.db.setKeys id t }) ∧ (w.fault = none →
        l.foldlM (fun t kv => KeyTable.insertKey DHr kv t) (w.db.DR_MSk id) = none))
      w := by
  let F := fun l' (t : KeyTable C) => List.foldlM (fun t kv => KeyTable.insertKey DHr kv t) t l'
  -- the keys left to insert in the current table give what all keys give in the first one
  refine wp_mono (wp_forM l (insertMessageKey id DHr)
    (fun l' w' => ∃ t, w' = { w with db := w.db.setKeys id t } ∧
      F l' t = F l (w.db.DR_MSk id)) ⟨w.db.DR_MSk id, by rw [Db.setKeys_self], rfl⟩ ?_) ?_
    (fun _ _ h => h)
  · rintro kv l' w' ⟨t, rfl, hF⟩
    refine wp_mono (wp_insertMessageKey id DHr kv) ?_ ?_
    · rintro - w'' ⟨t', ht', rfl⟩
      simp only [Db.setKeys_DR_MSk, update_self] at ht'
      refine ⟨t', by simp only [Db.setKeys_setKeys], ?_⟩
      rw [← hF]
      simp only [F, List.foldlM_cons, ht', bind_eq_bind, bind_some]
    · rintro - w'' ⟨rfl, hnone⟩
      refine ⟨⟨t, rfl⟩, fun hf => ?_⟩
      have ht' := hnone hf
      simp only [Db.setKeys_DR_MSk, update_self] at ht'
      change F l (w.db.DR_MSk id) = none
      rw [← hF]
      simp only [F, List.foldlM_cons, ht', bind_eq_bind, bind_none]
  · rintro - w' ⟨t, rfl, hF⟩
    exact ⟨t, hF.symm, rfl⟩

lemma wp_saveSkippedKeys : wp saveSkippedKeys
      (fun _ w' => ∃ t, KeyTable.insertChains w.session.mkskipped
          (w.db.DR_MSk w.session.dbSessionId) = some t ∧
        w' = { w with db := w.db.setKeys w.session.dbSessionId t })
      (fun _ w' => w'.session = w.session ∧ w'.fault = w.fault ∧ (w.fault = none →
        KeyTable.insertChains w.session.mkskipped (w.db.DR_MSk w.session.dbSessionId) = none))
      w := by
  set id := w.session.dbSessionId with hid
  rw [saveSkippedKeys]
  simp only [wp_bind, wp_getSession, wp_ite, wp_extCall, wp_pure]
  refine wp_mono (wp_forM (E := fun _ w' => w'.session = w.session ∧ w'.fault = w.fault ∧
      (w.fault = none → KeyTable.insertChains w.session.mkskipped (w.db.DR_MSk id) = none))
    w.session.mkskipped _
    (fun l' w' => ∃ t, w' = { w with db := w.db.setKeys id t } ∧
      KeyTable.insertChains l' t = KeyTable.insertChains w.session.mkskipped (w.db.DR_MSk id))
    ⟨w.db.DR_MSk id, by rw [Db.setKeys_self], rfl⟩ ?_) ?_ (fun _ _ h => h)
  · rintro c l' w' ⟨t, rfl, hF⟩
    have hfault : ∀ c : Call, w.fault = some c → w.fault = none →
        KeyTable.insertChains w.session.mkskipped (w.db.DR_MSk id) = none := by
      intro c hc hn
      rw [hc] at hn
      cases hn
    simp only [wp_bind, wp_extCall]
    refine ⟨fun h => ⟨trivial, trivial, hfault _ h⟩, fun _ => ⟨fun h => ⟨trivial, trivial, hfault _ h⟩,
      fun _ => wp_mono (wp_insertMessageKeys id c.DHrIndex c.messageKeys) ?_ ?_⟩⟩
    · rintro - w'' ⟨t', ht', rfl⟩
      simp only [Db.setKeys_DR_MSk, update_self] at ht'
      refine ⟨t', by simp only [Db.setKeys_setKeys], ?_⟩
      rw [← hF, KeyTable.insertChains_cons, KeyTable.insertChain, ht', bind_some]
    · rintro - w'' ⟨⟨t', rfl⟩, hnone⟩
      refine ⟨rfl, rfl, fun hf => ?_⟩
      have ht' := hnone hf
      simp only [Db.setKeys_DR_MSk, update_self] at ht'
      rw [← hF, KeyTable.insertChains_cons, KeyTable.insertChain, ht', bind_none]
  · rintro - w' ⟨t, rfl, hF⟩
    refine ⟨fun _ => ⟨fun h => ⟨rfl, rfl, fun hn => ?_⟩, fun _ => ⟨t, hF.symm, rfl⟩⟩, fun _ => ⟨t, hF.symm, rfl⟩⟩
    change w.fault = _ at h
    rw [hn] at h
    cases h

/-! ### Peer devices -/

namespace Db

/-- Only the peer devices differ. -/
def SameSessions (db db' : Db C) : Prop :=
  db'.DR_sessions = db.DR_sessions ∧ db'.lastSessionId = db.lastSessionId ∧
    db'.DR_MSk = db.DR_MSk ∧ db'.lime_LocalUsers = db.lime_LocalUsers

def deviceId (db : Db C) (did : ℕ) : Option Bytes :=
  (db.lime_PeerDevices did).map (·.DeviceId)

@[simp] lemma deviceId_activatePeerDevice (did : ℕ) (db : Db C) :
    (db.activatePeerDevice did).deviceId = db.deviceId := by
  funext i
  by_cases h : i = did
  · subst h
    simp only [deviceId, activatePeerDevice, update_self, map_map]
    rfl
  · simp only [deviceId, activatePeerDevice, update_of_ne h]

@[simp] lemma deviceId_updatePeerDeviceIk (did : ℕ) (Ik : Bytes) (db : Db C) :
    (db.updatePeerDeviceIk did Ik).deviceId = db.deviceId := by
  funext i
  by_cases h : i = did
  · subst h
    simp only [deviceId, updatePeerDeviceIk, update_self, map_map]
    rfl
  · simp only [deviceId, updatePeerDeviceIk, update_of_ne h]

@[simp] lemma deviceId_deactivatePeerDevices (dev : Bytes) (did : ℕ) (db : Db C) :
    (db.deactivatePeerDevices dev did).deviceId = db.deviceId := by
  funext i
  simp only [deviceId, deactivatePeerDevices, map_map]
  congr 1
  funext d
  simp only [comp_apply]
  split_ifs <;> rfl

lemma deviceId_of_findPeerDevice {dev : Bytes} {c : UInt8} {db : Db C} {p : ℕ × PeerDevice}
    (h : db.findPeerDevice dev c = some p) : db.deviceId p.1 = some dev := by
  obtain ⟨did, -, hdid⟩ := List.exists_of_findSome?_eq_some h
  cases hd : db.lime_PeerDevices did with
  | none => simp [hd] at hdid
  | some d =>
    rw [hd] at hdid
    simp only [ite_none_right_eq_some, some.injEq] at hdid
    obtain ⟨⟨hdev, -⟩, rfl⟩ := hdid
    simp [deviceId, hd, hdev]

end Db

/-- The device is stored with another identity key. -/
def Db.IkConflict (db : Db C) (dev : Bytes) (Ik : Buf A.DSAsize) : Prop :=
  ∃ p, db.findPeerDevice dev A.curveId = some p ∧ p.2.Ik ≠ [0x00] ∧ p.2.Ik ≠ Ik.toList

lemma wp_checkPeerDevice (dev : Bytes) (Ik : Buf A.DSAsize) : wp (checkPeerDevice dev Ik)
      (fun did w' => w'.session = w.session ∧ w'.fault = w.fault ∧ w.db.SameSessions w'.db ∧
        (did ≠ 0 → w'.db.deviceId did = some dev))
      (fun _ w' => w'.session = w.session ∧ w'.fault = w.fault ∧ (w.fault = none → w.db.IkConflict dev Ik)) w := by
  rw [checkPeerDevice]
  simp only [wp_bind, wp_extCall, wp_getDb]
  refine ⟨fun hf => ⟨trivial, trivial, by simp [hf]⟩, fun _ => ?_⟩
  cases hfind : w.db.findPeerDevice dev A.curveId with
  | none => exact ⟨rfl, rfl, ⟨rfl, rfl, rfl, rfl⟩, fun h => absurd rfl h⟩
  | some p =>
    obtain ⟨did, d⟩ := p
    have hdev : w.db.deviceId did = some dev := Db.deviceId_of_findPeerDevice hfind
    simp only [wp_pure, wp_ite, wp_bind, wp_sql, wp_throw]
    refine ⟨fun _ => ⟨fun hf => ⟨trivial, trivial, by simp [hf]⟩, fun _ =>
      ⟨trivial, trivial, ⟨rfl, rfl, rfl, rfl⟩, fun _ => ?_⟩⟩, fun hinv =>
      ⟨fun _ => ⟨trivial, trivial, ⟨rfl, rfl, rfl, rfl⟩, fun _ => hdev⟩, fun hIk =>
        ⟨trivial, trivial, fun _ => ⟨(did, d), hfind, hinv, hIk⟩⟩⟩⟩
    rw [Db.deviceId_updatePeerDeviceIk, hdev]

/-- Storing a peer device does not touch the sessions. -/
lemma wp_storePeerDevice (dev : Bytes) (Ik : Buf A.DSAsize) : wp (storePeerDevice dev Ik)
      (fun did w' => w'.session = w.session ∧ w'.fault = w.fault ∧ w.db.SameSessions w'.db ∧
        w'.db.deviceId did = some dev)
      (fun _ w' => w'.session = w.session ∧ w'.fault = w.fault ∧ (w.fault = none → w.db.IkConflict dev Ik)) w := by
  rw [storePeerDevice, wp_bind]
  refine wp_mono (wp_checkPeerDevice dev Ik) ?_ (fun _ _ h => h)
  rintro did w' ⟨hsession, hfault, hsame, hdev⟩
  have hraise : ∀ c, w'.fault = some c → w'.session = w.session ∧ w'.fault = w.fault ∧
      (w.fault = none → w.db.IkConflict dev Ik) := by
    intro c hc
    rw [hfault] at hc
    exact ⟨hsession, hfault, by simp [hc]⟩
  simp only [wp_ite, wp_bind, wp_sql, wp_extCall, wp_getDb, wp_pure]
  refine ⟨fun _ => ⟨hraise _, fun _ => ⟨hraise _, fun _ => ⟨hraise _, fun _ =>
    ⟨hsession, hfault, hsame, ?_⟩⟩⟩⟩, fun h => ⟨hraise _, fun _ => ⟨hsession, hfault, hsame, ?_⟩⟩⟩
  · rw [Db.deviceId_deactivatePeerDevices]
    simp [Db.deviceId, Db.insertPeerDevice]
  · rw [Db.deviceId_deactivatePeerDevices, hdev h]

/-- The row `i` is kept, up to the deactivation of the sessions of a device. -/
def Db.RowKept (db db' : Db C) (did uid : ℕ) (now : ℤ) (i : ℕ) : Prop :=
  db'.DR_sessions i = db.DR_sessions i ∨ db'.DR_sessions i = (db.deactivateSessions did uid now).DR_sessions i

lemma Db.RowKept.eq_none {db db' : Db C} {did uid i : ℕ} {now : ℤ} (h : db.RowKept db' did uid now i)
    (hi : db.DR_sessions i = none) : db'.DR_sessions i = none := by
  obtain h | h := h
  · exact h.trans hi
  · exact h.trans (congrArg (Option.map _) hi)

/-! ### The first save -/

/-- Nothing but a failure of the backend prevents a new session from being inserted. -/
def Session.Insertable (s : Session C) (db : Db C) : Prop :=
  (s.peerDid = 0 → ¬ db.IkConflict s.peerDeviceId s.peerIk) ∧
    (s.peerDid ≠ 0 → (db.deviceId s.peerDid).isSome) ∧ db.lime_LocalUsers s.dbUid

variable (now : ℤ)

lemma wp_storeSessionDevice : wp (storeSessionDevice now)
      (fun _ w' => ∃ did, (w.session.peerDid ≠ 0 → did = w.session.peerDid) ∧
        (w.session.peerDid = 0 → (w'.db.deviceId did).isSome) ∧
        (w.session.peerDid ≠ 0 → w'.db.deviceId = w.db.deviceId) ∧
        w'.session = { w.session with peerDid := did } ∧ w'.fault = w.fault ∧
        w'.db.lastSessionId = w.db.lastSessionId ∧ w'.db.DR_MSk = w.db.DR_MSk ∧
        w'.db.lime_LocalUsers = w.db.lime_LocalUsers ∧
        ∀ i, w.db.RowKept w'.db w.session.peerDid w.session.dbUid now i)
      (fun _ w' => w'.session = w.session ∧ w'.fault = w.fault ∧ (w.fault = none → ¬ w.session.Insertable w.db)) w := by
  have hraise : ∀ c, w.fault = some c → w.fault = none → ¬ w.session.Insertable w.db := by
    intro c hc hn
    rw [hc] at hn
    cases hn
  rw [storeSessionDevice]
  simp only [wp_bind, wp_getSession, wp_ite, wp_sql, wp_modifySession]
  refine ⟨fun h0 => ?_, fun h0 => ⟨fun hf => ⟨trivial, trivial, hraise _ hf⟩, fun _ =>
    ⟨fun hf => ⟨trivial, trivial, hraise _ hf⟩, fun _ => ?_⟩⟩⟩
  · refine wp_mono (wp_storePeerDevice w.session.peerDeviceId w.session.peerIk) ?_ ?_
    · rintro did w' ⟨hsession, hfault, ⟨hrows, hlast, hkeys, husers⟩, hdev⟩
      refine ⟨did, fun h => absurd h0 h, fun _ => by simp [hdev], fun h => absurd h0 h, ?_, hfault,
        hlast, hkeys, husers, fun i => .inl (congrFun hrows i)⟩
      simp only [hsession]
    · rintro e w' ⟨hsession, hfault, hconflict⟩
      exact ⟨hsession, hfault, fun hf hins => hins.1 h0 (hconflict hf)⟩
  · refine ⟨w.session.peerDid, fun _ => rfl, fun h => absurd h h0, fun _ => ?_, rfl, trivial, rfl, rfl,
      rfl, fun i => .inr rfl⟩
    exact Db.deviceId_activatePeerDevice _ _

/-- What the first save of a session does. -/
def Inserted (now : ℤ) (w w' : World C) : Prop :=
  w'.fault = w.fault ∧ w'.db.lastSessionId = w.db.lastSessionId + 1 ∧ w'.db.DR_MSk = w.db.DR_MSk ∧
    (∀ i, i ≠ w.db.lastSessionId + 1 → w.db.RowKept w'.db w.session.peerDid w.session.dbUid now i) ∧
    ∃ did, (w.session.peerDid ≠ 0 → did = w.session.peerDid) ∧ (w'.db.deviceId did).isSome ∧
      w'.session = { w.session with
        peerDid := did, lastKEMRatchetEpoch := now, dbSessionId := w.db.lastSessionId + 1
        usedOPkId := 0 } ∧
      w'.db.DR_sessions (w.db.lastSessionId + 1) = some { w.session.toRow now with Did := did }

/-- What a failed first save leaves. -/
def InsertFailed (w w' : World C) : Prop :=
  w'.fault = w.fault ∧ (w.fault = none → ¬ w.session.Insertable w.db) ∧
    ∃ did id OPk epoch, (id = w.session.dbSessionId ∨ id = w.db.lastSessionId + 1) ∧ w'.session = { w.session with
        peerDid := did, lastKEMRatchetEpoch := epoch, dbSessionId := id, usedOPkId := OPk }

lemma wp_sessionInsert : wp (sessionInsert now) (fun _ w' => Inserted now w w') (fun _ w' => InsertFailed w w') w := by
  rw [sessionInsert, wp_bind]
  refine wp_mono (wp_storeSessionDevice now) ?_ ?_
  · rintro - ⟨s', db', f'⟩ ⟨did, hdid, hdev0, hdev, rfl, rfl, hlast, hkeys, husers, hrows⟩
    dsimp only at hdev0 hdev hlast hkeys husers hrows
    have hothers : ∀ i, i ≠ w.db.lastSessionId + 1 → ∀ row : SessionRow C,
        w.db.RowKept (db'.insertSession row) w.session.peerDid w.session.dbUid now i := by
      intro i hi row
      rw [Db.RowKept, Db.insertSession, hlast]
      dsimp only
      rw [update_of_ne hi]
      exact hrows i
    have hraise : ∀ c, w.fault = some c → w.fault = none → ¬ w.session.Insertable w.db := by
      intro c hc hn
      rw [hc] at hn
      cases hn
    simp only [wp_bind, wp_getSession, wp_getDb, wp_ite, wp_throw, wp_sql, wp_modifySession, wp_extCall, wp_pure]
    refine ⟨fun hfk => ⟨rfl, fun _ hins => ?_, did, _, _, _, .inl rfl, rfl⟩, fun hfk =>
      ⟨fun hf => ⟨rfl, hraise _ hf, did, _, _, _, .inl rfl, rfl⟩, fun _ =>
      ⟨fun hf => ⟨rfl, hraise _ hf, did, _, _, _, .inl rfl, rfl⟩, fun _ =>
      ⟨fun _ => ⟨fun hf => ⟨rfl, hraise _ hf, did, _, _, _, .inr ?_, rfl⟩, fun _ => ?_⟩, fun hopk => ?_⟩⟩⟩⟩
    · -- a foreign key is missing: the session was not insertable
      obtain ⟨-, hpeer, huser⟩ := hins
      obtain hnone | hnone := hfk
      · have hsome : (db'.deviceId did).isSome := by
          by_cases h0 : w.session.peerDid = 0
          · exact hdev0 h0
          · rw [hdev h0, hdid h0]
            exact hpeer h0
        simp only [isNone_iff_eq_none] at hnone
        simp [Db.deviceId, hnone] at hsome
      · exact hnone (by simpa only [husers] using huser)
    · simp [Db.insertSession, hlast]
    all_goals
      simp only [not_or, Bool.not_eq_true, isNone_eq_false_iff] at hfk
      refine ⟨rfl, by simp [Db.deleteOPk, Db.insertSession, hlast], hkeys,
        fun i hi => hothers i hi _, did, hdid, ?_, ?_, ?_⟩
    · simpa [Db.deviceId, Db.deleteOPk, Db.insertSession] using hfk.1
    · simp [Db.insertSession, hlast]
    · simp [Db.insertSession, Db.deleteOPk, hlast, Session.toRow, Session.DHrStatusToInt]
    · simpa [Db.deviceId, Db.insertSession] using hfk.1
    · simp only [ne_eq, not_not] at hopk
      simp [Db.insertSession, hlast, hopk]
    · simp [Db.insertSession, hlast, Session.toRow, Session.DHrStatusToInt]
  · rintro e w' ⟨hsession, hfault, hins⟩
    exact ⟨hfault, hins, w.session.peerDid, w.session.dbSessionId, w.session.usedOPkId,
      w.session.lastKEMRatchetEpoch, .inl rfl, hsession⟩

/-! ### The later saves -/

namespace Session

/-- The session in memory once saved. -/
def afterUpdate (now : ℤ) (s : Session C) : Session C :=
  { s with
    activeStatus := s.activates || s.activeStatus
    lastKEMRatchetEpoch :=
      if s.dirty = .dirtyKemRatchetReceiving then now else s.lastKEMRatchetEpoch }

/-- The row of a session that becomes the active one while its row is marked active. -/
def deactivatedRow (now : ℤ) (s : Session C) (r : SessionRow C) : SessionRow C :=
  if (s.activates ∧ ¬ s.activeStatus) ∧ r.Status ∧ r.Did = s.peerDid ∧ r.Uid = s.dbUid then
    { r with Status := false, timeStamp := now }
  else r

/-- The columns written do not depend on the activation made by the save itself. -/
lemma updateRow_activate (now : ℤ) (s : Session C) :
    updateRow now { s with activeStatus := s.activates || s.activeStatus } = updateRow now s := by
  funext r
  cases hd : s.dirty <;> simp only [updateRow, activates, hd, DHrStatusToInt, Bool.false_or]

end Session

/-- What a later save of a session does. -/
structure Updated (now : ℤ) (w w' : World C) : Prop where
  fault : w'.fault = w.fault
  lastSessionId : w'.db.lastSessionId = w.db.lastSessionId
  deviceId : w'.db.deviceId = w.db.deviceId
  session : w'.session = w.session.afterUpdate now
  row : w'.db.DR_sessions w.session.dbSessionId = (w.db.DR_sessions w.session.dbSessionId).map
    fun r => w.session.updateRow now (w.session.deactivatedRow now r)
  others : ∀ i, i ≠ w.session.dbSessionId → w.db.RowKept w'.db w.session.peerDid w.session.dbUid now i
  keys : w'.db.DR_MSk = update w.db.DR_MSk w.session.dbSessionId
    (w.session.deleteUsed (w.db.DR_MSk w.session.dbSessionId))

/-- What a failed later save leaves. -/
def UpdateFailed (w w' : World C) : Prop :=
  w'.fault = w.fault ∧ w.fault ≠ none ∧ ∃ active epoch,
    w'.session = { w.session with activeStatus := active, lastKEMRatchetEpoch := epoch }

lemma wp_activateSession : wp (activateSession now)
      (fun _ w' => w'.fault = w.fault ∧ w'.db.lastSessionId = w.db.lastSessionId ∧
        w'.db.deviceId = w.db.deviceId ∧ w'.db.DR_MSk = w.db.DR_MSk ∧
        w'.session = { w.session with
          activeStatus := w.session.activates || w.session.activeStatus } ∧
        w'.db.DR_sessions w.session.dbSessionId =
          (w.db.DR_sessions w.session.dbSessionId).map (w.session.deactivatedRow now) ∧
        ∀ i, w.db.RowKept w'.db w.session.peerDid w.session.dbUid now i)
      (fun _ w' => UpdateFailed w w') w := by
  rw [activateSession]
  simp only [wp_bind, wp_getSession, wp_ite, wp_sql, wp_modifySession, wp_pure]
  refine ⟨fun hact => ⟨fun hf => ⟨rfl, by simp [hf], _, _, rfl⟩, fun _ =>
    ⟨trivial, rfl, rfl, rfl, by simp [hact.1], ?_, fun i => .inr rfl⟩⟩, fun hact =>
    ⟨trivial, trivial, trivial, trivial, ?_, ?_, fun i => .inl rfl⟩⟩
  · have hrow : w.session.deactivatedRow now = fun r =>
        if r.Status ∧ r.Did = w.session.peerDid ∧ r.Uid = w.session.dbUid then
          { r with Status := false, timeStamp := now } else r := by
      funext r
      simp [Session.deactivatedRow, hact]
    rw [hrow]
    rfl
  · have hactive : (w.session.activates || w.session.activeStatus) = w.session.activeStatus := by
      cases hs : w.session.activeStatus
      · simpa [hs] using hact
      · simp
    rw [hactive]
  · have hrow : w.session.deactivatedRow now = id := by
      funext r
      simp only [Session.deactivatedRow, hact, false_and, if_false, id_eq]
    rw [hrow, map_id, id_eq]

lemma wp_updateSessionRow : wp (updateSessionRow now)
      (fun _ w' => w'.fault = w.fault ∧ w'.db.lastSessionId = w.db.lastSessionId ∧
        w'.db.deviceId = w.db.deviceId ∧ w'.db.DR_MSk = w.db.DR_MSk ∧
        w'.session = { w.session with
          lastKEMRatchetEpoch := if w.session.dirty = .dirtyKemRatchetReceiving then now
            else w.session.lastKEMRatchetEpoch } ∧
        w'.db.DR_sessions w.session.dbSessionId =
          (w.db.DR_sessions w.session.dbSessionId).map (w.session.updateRow now) ∧
        ∀ i, i ≠ w.session.dbSessionId → w'.db.DR_sessions i = w.db.DR_sessions i)
      (fun _ w' => UpdateFailed w w') w := by
  rw [updateSessionRow]
  simp only [wp_bind, wp_getSession, wp_ite, wp_sql, wp_modifySession, wp_pure]
  refine ⟨fun hd => ⟨fun hf => ⟨rfl, by simp [hf], _, _, rfl⟩, fun _ =>
    ⟨fun hk => ⟨trivial, rfl, rfl, rfl, by simp [hk], by simp [Db.updateSession], fun i hi => update_of_ne hi _ _⟩,
      fun hk => ⟨trivial, rfl, rfl, rfl, by simp [hk], by simp [Db.updateSession],
        fun i hi => update_of_ne hi _ _⟩⟩⟩, fun hd => ?_⟩
  simp only [ne_eq, not_not] at hd
  have hrow : w.session.updateRow now = id := by
    funext r
    simp only [Session.updateRow, hd, id_eq]
  refine ⟨fun hk => ?_, fun hk => ⟨trivial, trivial, trivial, trivial, ?_, ?_, fun _ _ => trivial⟩⟩
  · rw [hd] at hk
    cases hk
  · rw [if_neg hk]
  · rw [hrow, map_id, id_eq]

lemma wp_deleteUsedKey : wp deleteUsedKey
      (fun _ w' => w'.fault = w.fault ∧ w'.db.lastSessionId = w.db.lastSessionId ∧
        w'.db.deviceId = w.db.deviceId ∧ w'.db.DR_sessions = w.db.DR_sessions ∧
        w'.session = w.session ∧ w'.db.DR_MSk = update w.db.DR_MSk w.session.dbSessionId
          (w.session.deleteUsed (w.db.DR_MSk w.session.dbSessionId))) (fun _ w' => UpdateFailed w w') w := by
  rw [deleteUsedKey, wp_bind, wp_getSession]
  cases hused : w.session.usedDHid with
  | some DHr =>
    simp only [wp_sql]
    refine ⟨fun hf => ⟨rfl, by simp [hf], _, _, rfl⟩, fun _ => ⟨trivial, rfl, rfl, rfl, trivial, ?_⟩⟩
    simp only [Db.setKeys_DR_MSk, Session.deleteUsed, hused]
  | none =>
    simp only [wp_ite, wp_extCall, wp_pure, Session.deleteUsed, hused, update_eq_self]
    exact ⟨fun _ => ⟨fun hf => ⟨rfl, by simp [hf], _, _, rfl⟩, fun _ => by trivial⟩, fun _ => by trivial⟩

lemma wp_sessionUpdate : wp (sessionUpdate now) (fun _ w' => Updated now w w') (fun _ w' => UpdateFailed w w') w := by
  rw [sessionUpdate, wp_bind]
  refine wp_mono (wp_activateSession now) ?_ (fun _ _ h => h)
  rintro - ⟨s1, db1, f1⟩ ⟨rfl, hlast1, hdev1, hkeys1, rfl, hrow1, hothers1⟩
  rw [wp_bind]
  refine wp_mono (wp_updateSessionRow now) ?_ ?_
  · rintro - ⟨s2, db2, f2⟩ ⟨rfl, hlast2, hdev2, hkeys2, rfl, hrow2, hothers2⟩
    rw [wp_bind]
    refine wp_mono wp_deleteUsedKey ?_ ?_
    · rintro - ⟨s3, db3, f3⟩ ⟨rfl, hlast3, hdev3, hrow3, rfl, hkeys3⟩
      dsimp only at *
      simp only [wp_bind, wp_getSession, wp_sql]
      refine ⟨fun hf => ⟨rfl, by simp [hf], _, _, rfl⟩, fun _ => ?_⟩
      constructor
      · rfl
      · exact hlast3.trans (hlast2.trans hlast1)
      · rw [Db.deviceId_activatePeerDevice]
        exact hdev3.trans (hdev2.trans hdev1)
      · rfl
      · change db3.DR_sessions w.session.dbSessionId = _
        rw [hrow3, hrow2, hrow1, map_map, Session.updateRow_activate]
        rfl
      · intro i hi
        have hkept : db3.DR_sessions i = db1.DR_sessions i := by
          rw [hrow3]
          exact hothers2 i hi
        exact (hothers1 i).imp hkept.trans hkept.trans
      · change db3.DR_MSk = _
        rw [hkeys3, hkeys2, hkeys1]
        rfl
    · rintro e w' ⟨hf, hne, active, epoch, hs⟩
      exact ⟨hf, hne, active, epoch, hs⟩
  · rintro e w' ⟨hf, hne, active, epoch, hs⟩
    exact ⟨hf, hne, active, epoch, hs⟩

/-! ### Saving -/

/-- What a save does to a session that was not stored. -/
structure SavedNew (now : ℤ) (w w' : World C) : Prop where
  fault : w'.fault = w.fault
  lastSessionId : w'.db.lastSessionId = w.db.lastSessionId + 1
  others : ∀ i, i ≠ w.db.lastSessionId + 1 → w.db.RowKept w'.db w.session.peerDid w.session.dbUid now i
  keys : ∃ t, KeyTable.insertChains w.session.mkskipped (w.db.DR_MSk (w.db.lastSessionId + 1)) =
      some t ∧ w'.db.DR_MSk = update w.db.DR_MSk (w.db.lastSessionId + 1) t
  session : ∃ did, (w.session.peerDid ≠ 0 → did = w.session.peerDid) ∧ (w'.db.deviceId did).isSome ∧
    w'.session = { w.session with
      peerDid := did, lastKEMRatchetEpoch := now, dbSessionId := w.db.lastSessionId + 1
      usedOPkId := 0 } ∧
    w'.db.DR_sessions (w.db.lastSessionId + 1) = some { w.session.toRow now with Did := did }

/-- What a save does to a session already stored. -/
structure SavedOld (now : ℤ) (w w' : World C) : Prop where
  fault : w'.fault = w.fault
  lastSessionId : w'.db.lastSessionId = w.db.lastSessionId
  deviceId : w'.db.deviceId = w.db.deviceId
  session : w'.session = w.session.afterUpdate now
  row : w'.db.DR_sessions w.session.dbSessionId = (w.db.DR_sessions w.session.dbSessionId).map
    fun r => w.session.updateRow now (w.session.deactivatedRow now r)
  others : ∀ i, i ≠ w.session.dbSessionId → w.db.RowKept w'.db w.session.peerDid w.session.dbUid now i
  keys : ∃ t, KeyTable.insertChains w.session.mkskipped
      (w.session.deleteUsed (w.db.DR_MSk w.session.dbSessionId)) = some t ∧
    w'.db.DR_MSk = update w.db.DR_MSk w.session.dbSessionId t

/-- What a successful save does. -/
inductive Saved (now : ℤ) (w w' : World C) : Prop where
  | new (h : w.session.dbSessionId = 0) (saved : SavedNew now w w')
  | old (h : w.session.dbSessionId ≠ 0) (saved : SavedOld now w w')

/-- Identifiers start at one and the ones not given yet refer to nothing. -/
def Db.UnusedEmpty (db : Db C) : Prop :=
  ∀ id, id = 0 ∨ db.lastSessionId < id → db.DR_sessions id = none ∧ db.DR_MSk id = fun _ _ => none

/-- Saving the skipped message keys, whether the session is new or not. -/
lemma Saved.keys {now : ℤ} {w w' : World C} (h : Saved now w w') (hdb : w.db.UnusedEmpty) :
    KeyTable.insertChains w.session.mkskipped (w.session.deleteUsed (w.db.DR_MSk w.session.dbSessionId)) =
      some (w'.db.DR_MSk w'.session.dbSessionId) := by
  cases h with
  | new h0 saved =>
    obtain ⟨t, ht, hkeys⟩ := saved.keys
    obtain ⟨did, -, -, hsession, -⟩ := saved.session
    have hzero : w.db.DR_MSk 0 = fun _ _ => none := (hdb 0 (.inl rfl)).2
    have hnext : w.db.DR_MSk (w.db.lastSessionId + 1) = fun _ _ => none :=
      (hdb _ (.inr (Nat.lt_succ_self _))).2
    rw [hnext] at ht
    rw [h0, hzero, Session.deleteUsed_empty, ht, hkeys, hsession, update_self]
  | old h0 saved =>
    obtain ⟨t, ht, hkeys⟩ := saved.keys
    have hid : w'.session.dbSessionId = w.session.dbSessionId := by
      rw [saved.session]
      rfl
    rw [ht, hkeys, hid, update_self]

lemma Saved.unusedEmpty {now : ℤ} {w w' : World C} (h : Saved now w w') (hdb : w.db.UnusedEmpty)
    (hid : w.session.dbSessionId ≤ w.db.lastSessionId) : w'.db.UnusedEmpty := by
  intro id hunused
  cases h with
  | new h0 saved =>
    obtain ⟨t, -, hkeys⟩ := saved.keys
    have hlast := saved.lastSessionId
    have hne : id ≠ w.db.lastSessionId + 1 := by omega
    obtain ⟨hrow, hkey⟩ := hdb id (by omega)
    refine ⟨(saved.others id hne).eq_none hrow, ?_⟩
    rw [hkeys, update_of_ne hne, hkey]
  | old h0 saved =>
    obtain ⟨t, -, hkeys⟩ := saved.keys
    have hlast := saved.lastSessionId
    have hne : id ≠ w.session.dbSessionId := by omega
    obtain ⟨hrow, hkey⟩ := hdb id (by omega)
    refine ⟨(saved.others id hne).eq_none hrow, ?_⟩
    rw [hkeys, update_of_ne hne, hkey]

/-- Nothing but a failure of the backend prevents the session from being saved. -/
def World.Storable (w : World C) : Prop :=
  if w.session.dbSessionId = 0 then w.session.Insertable w.db ∧
    (KeyTable.insertChains w.session.mkskipped (w.db.DR_MSk (w.db.lastSessionId + 1))).isSome
  else (KeyTable.insertChains w.session.mkskipped
    (w.session.deleteUsed (w.db.DR_MSk w.session.dbSessionId))).isSome

/-- What a failed save leaves. -/
structure SaveFailed (w w' : World C) : Prop where
  fault : w'.fault = w.fault
  storable : w.fault = none → ¬ w.Storable
  session : ∃ did id OPk epoch active, (id = w.session.dbSessionId ∨
      w.session.dbSessionId = 0 ∧ id = w.db.lastSessionId + 1) ∧
    w'.session = { w.session with
      peerDid := did, dbSessionId := id, usedOPkId := OPk, lastKEMRatchetEpoch := epoch
      activeStatus := active }

lemma wp_sessionSaveBody_new (h0 : w.session.dbSessionId = 0) :
    wp (sessionSaveBody now) (fun _ w' => SavedNew now w w') (fun _ w' => SaveFailed w w') w := by
  rw [sessionSaveBody, wp_bind, wp_getSession]
  simp only [h0, if_true, wp_bind, wp_getSession, wp_sql]
  refine wp_mono (wp_sessionInsert now) ?_ ?_
  · rintro - ⟨s1, db1, f1⟩ ⟨rfl, hlast, hkeys, hothers, did, hdid, hdev, rfl, hrow⟩
    dsimp only at hlast hkeys hdev hrow hothers
    refine wp_mono wp_saveSkippedKeys ?_ ?_
    · rintro - w2 ⟨t, ht, rfl⟩
      dsimp only at ht ⊢
      rw [hkeys] at ht
      refine ⟨fun hf => ⟨rfl, by simp [hf], did, _, _, _, _, .inr ⟨h0, rfl⟩, rfl⟩,
        fun _ => ⟨rfl, hlast, hothers, ⟨t, ht, ?_⟩, did, hdid, ?_, rfl, hrow⟩⟩
      · change (db1.setKeys _ t).DR_MSk = _
        rw [Db.setKeys_DR_MSk, hkeys]
      · rw [Db.deviceId_deactivatePeerDevices]
        exact hdev
    · rintro e w2 ⟨hs, hf, hnone⟩
      dsimp only at hnone
      rw [hkeys] at hnone
      refine ⟨hf, fun hn => ?_, did, _, _, _, _, .inr ⟨h0, rfl⟩, hs⟩
      simp [World.Storable, h0, hnone hn]
  · rintro e w1 ⟨hf, hins, did, id, OPk, epoch, hid, hs⟩
    refine ⟨hf, fun hn => ?_, did, id, OPk, epoch, _, hid.imp_right fun h => ⟨h0, h⟩, hs⟩
    simp [World.Storable, h0, hins hn]

lemma wp_sessionSaveBody_old (h0 : w.session.dbSessionId ≠ 0) :
    wp (sessionSaveBody now) (fun _ w' => SavedOld now w w') (fun _ w' => SaveFailed w w') w := by
  rw [sessionSaveBody, wp_bind, wp_getSession]
  simp only [h0, if_false, wp_bind, wp_getSession, wp_sql]
  refine wp_mono (wp_sessionUpdate now) ?_ ?_
  · rintro - ⟨s1, db1, f1⟩ ⟨rfl, hlast, hdev, rfl, hrow, hothers, hkeys⟩
    dsimp only at hlast hkeys hdev hrow hothers
    have hkeys' : db1.DR_MSk w.session.dbSessionId = w.session.deleteUsed (w.db.DR_MSk w.session.dbSessionId) := by
      rw [hkeys, update_self]
    refine wp_mono wp_saveSkippedKeys ?_ ?_
    · rintro - w2 ⟨t, ht, rfl⟩
      change KeyTable.insertChains w.session.mkskipped (db1.DR_MSk w.session.dbSessionId) = _ at ht
      rw [hkeys'] at ht
      refine ⟨fun hf => ⟨rfl, fun hn => ?_, _, _, _, _, _, .inl rfl, rfl⟩, fun _ =>
        ⟨rfl, hlast, ?_, rfl, hrow, hothers, t, ht, ?_⟩⟩
      · change w.fault = _ at hf
        rw [hf] at hn
        cases hn
      · rw [Db.deviceId_deactivatePeerDevices]
        exact hdev
      · change (db1.setKeys w.session.dbSessionId t).DR_MSk = _
        rw [Db.setKeys_DR_MSk, hkeys, update_idem]
    · rintro e w2 ⟨hs, hf, hnone⟩
      change w.fault = none → KeyTable.insertChains w.session.mkskipped
        (db1.DR_MSk w.session.dbSessionId) = none at hnone
      rw [hkeys'] at hnone
      refine ⟨hf, fun hn => ?_, _, _, _, _, _, .inl rfl, hs⟩
      simp [World.Storable, h0, hnone hn]
  · rintro e w1 ⟨hf, hne, active, epoch, hs⟩
    exact ⟨hf, fun hn => absurd hn hne, _, _, _, epoch, active, .inl rfl, hs⟩

/-- The rule for `session_save`. -/
theorem wp_sessionSave (commit : Bool) : wp (sessionSave now commit) (fun _ w' => Saved now w w')
      (fun e w' => e = .bctbx ∧ (commit → w'.db = w.db) ∧ SaveFailed w w') w := by
  have hbody : wp (sessionSaveBody now) (fun _ w' => Saved now w w')
      (fun _ w' => SaveFailed w w') w := by
    by_cases h0 : w.session.dbSessionId = 0
    · exact wp_mono (wp_sessionSaveBody_new now h0) (fun _ _ h => .new h0 h) (fun _ _ h => h)
    · exact wp_mono (wp_sessionSaveBody_old now h0) (fun _ _ h => .old h0 h) (fun _ _ h => h)
  rw [sessionSave, wp_bind, wp_getDb, wp_tryCatch]
  refine wp_mono hbody (fun _ _ h => h) ?_
  rintro e w' hfail
  simp only [wp_bind, wp_ite, wp_modifyDb, wp_throw]
  refine ⟨fun _ => ⟨trivial, fun _ => trivial, hfail.fault, hfail.storable, hfail.session⟩,
    fun hc => ⟨trivial, fun h => absurd h hc, hfail⟩⟩

end Lime
