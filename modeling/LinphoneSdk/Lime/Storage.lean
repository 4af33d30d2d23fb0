import LinphoneSdk.Lib.Exec
import LinphoneSdk.Lime.Session

/-!
# Local storage of Double Ratchet sessions

The tables of the local storage that sessions use, `session_save`, `session_load` and the lookup of
skipped message keys. A blob is modelled by the value serialised in it. The two tables of skipped
message keys are one map: the row identifier `DHid` of a chain is represented by the pair of session
identifier and peer key index it stands for, unique by construction, and the count of posterior
messages, read only by the cleaning task, is left out.

A statement of the storage backend or a call to a primitive may raise: `World.fault` names the one
that does. Beginning, committing and rolling back a transaction do not raise.
-/

namespace Lime

open Bytes Exec Function

variable {A : Curve} {C : Crypto A}

/-! ### Tables -/

structure SessionRow (C : Crypto A) where
  Did : ℕ
  Uid : ℕ
  Ns : UInt16
  Nr : UInt16
  PN : UInt16
  DHr : ARrKey A
  DHrStatus : UInt32
  DHs : ARsKey C
  RK : C.ChainKey
  CKs : C.ChainKey
  CKr : C.ChainKey
  AD : Buf settings.DRSessionSharedADSize
  /-- `true` for active, `false` for stale. -/
  Status : Bool
  timeStamp : ℤ
  /-- `none` is `NULL`. -/
  X3DHInit : Option Bytes

/-- Row of `lime_PeerDevices`. -/
structure PeerDevice where
  DeviceId : Bytes
  curveId : UInt8
  Active : Bool
  Ik : Bytes

/-- Skipped message keys of one session, by chain index and position in the chain. -/
abbrev KeyTable (C : Crypto A) : Type := Bytes → UInt16 → Option C.MessageKey

structure Db (C : Crypto A) where
  DR_sessions : ℕ → Option (SessionRow C)
  /-- Last identifier given to a session. -/
  lastSessionId : ℕ
  /-- `DR_MSk_MK` joined with `DR_MSk_DHr`. -/
  DR_MSk : ℕ → KeyTable C
  lime_PeerDevices : ℕ → Option PeerDevice
  /-- Last identifier given to a peer device. -/
  lastDid : ℕ
  lime_LocalUsers : ℕ → Bool
  /-- One-time prekeys, by local user. -/
  X3DH_OPK : ℕ → UInt32 → Bool

namespace Db

/-- `UPDATE DR_sessions SET … WHERE sessionId = id`. -/
def updateSession (id : ℕ) (f : SessionRow C → SessionRow C) (db : Db C) : Db C :=
  { db with DR_sessions := update db.DR_sessions id ((db.DR_sessions id).map f) }

/-- `UPDATE DR_sessions SET Status = 0 … WHERE Status = 1 AND Did = did AND Uid = uid`. -/
def deactivateSessions (did uid : ℕ) (now : ℤ) (db : Db C) : Db C :=
  { db with
    DR_sessions := fun i => (db.DR_sessions i).map fun r =>
      if r.Status ∧ r.Did = did ∧ r.Uid = uid then { r with Status := false, timeStamp := now }
      else r }

def insertSession (row : SessionRow C) (db : Db C) : Db C :=
  { db with
    DR_sessions := update db.DR_sessions (db.lastSessionId + 1) (some row)
    lastSessionId := db.lastSessionId + 1 }

/-- Write the skipped message keys of a session. -/
def setKeys (id : ℕ) (t : KeyTable C) (db : Db C) : Db C :=
  { db with DR_MSk := update db.DR_MSk id t }

def activatePeerDevice (did : ℕ) (db : Db C) : Db C :=
  { db with
    lime_PeerDevices := update db.lime_PeerDevices did
      ((db.lime_PeerDevices did).map fun d => { d with Active := true }) }

/-- `UPDATE lime_PeerDevices SET Active = 0 WHERE DeviceId = deviceId AND Did <> did`. -/
def deactivatePeerDevices (deviceId : Bytes) (did : ℕ) (db : Db C) : Db C :=
  { db with
    lime_PeerDevices := fun i => (db.lime_PeerDevices i).map fun d =>
      if d.DeviceId = deviceId ∧ i ≠ did then { d with Active := false } else d }

def updatePeerDeviceIk (did : ℕ) (Ik : Bytes) (db : Db C) : Db C :=
  { db with
    lime_PeerDevices := update db.lime_PeerDevices did
      ((db.lime_PeerDevices did).map fun d => { d with Ik := Ik, Active := true }) }

def insertPeerDevice (d : PeerDevice) (db : Db C) : Db C :=
  { db with
    lime_PeerDevices := update db.lime_PeerDevices (db.lastDid + 1) (some d)
    lastDid := db.lastDid + 1 }

def deleteOPk (uid : ℕ) (id : UInt32) (db : Db C) : Db C :=
  { db with X3DH_OPK := fun u o => db.X3DH_OPK u o && !(u == uid && o == id) }

/-- `SELECT Ik, Did FROM lime_PeerDevices WHERE DeviceId = … AND curveId = … LIMIT 1`. -/
def findPeerDevice (deviceId : Bytes) (curveId : UInt8) (db : Db C) : Option (ℕ × PeerDevice) :=
  (List.range (db.lastDid + 1)).findSome? fun did =>
    match db.lime_PeerDevices did with
    | some d => if d.DeviceId = deviceId ∧ d.curveId = curveId then some (did, d) else none
    | none => none

end Db

/-- The storage of local user 1, who knows peer device 1 and has no session. -/
def Db.sample (C : Crypto A) : Db C where
  DR_sessions _ := none
  lastSessionId := 0
  DR_MSk _ _ _ := none
  lime_PeerDevices := update (fun _ => none) 1 (some ⟨[1], A.curveId, true, []⟩)
  lastDid := 1
  lime_LocalUsers uid := uid == 1
  X3DH_OPK _ _ := false

/-! ### Routines -/

inductive Exception where
  /-- `BctbxException`. -/
  | bctbx
  /-- Any other exception. -/
  | std
  deriving DecidableEq, Repr

/-- The calls that may raise. -/
inductive Call where
  | AEADEncrypt
  | selectPeerDevice
  | updatePeerDeviceIk
  | insertPeerDevice
  | peerDeviceRowid
  | storeDeactivatePeerDevices
  | activatePeerDevice
  | deactivateSessions
  | insertSession
  | sessionRowid
  | deleteOPk
  | updateSession
  | deleteMessageKey
  | updateReceived
  | selectChain
  | insertChain
  | insertMessageKey
  | cleanChain
  | deactivatePeerDevices
  | selectMessageKey
  deriving DecidableEq, Repr

/-- A session in memory, the local storage, and the call that raises. -/
structure World (C : Crypto A) where
  session : Session C
  db : Db C
  fault : Option Call

abbrev DRM (C : Crypto A) := EStateM Exception (World C)

def getSession : DRM C (Session C) := do return (← get).session

def getDb : DRM C (Db C) := do return (← get).db

def modifySession (f : Session C → Session C) : DRM C PUnit :=
  modify fun w => { w with session := f w.session }

def modifyDb (f : Db C → Db C) : DRM C PUnit := modify fun w => { w with db := f w.db }

def extCall (c : Call) : DRM C PUnit := do
  if (← get).fault = some c then throw .std

/-- A statement of the storage backend. -/
def sql (c : Call) (f : Db C → Db C) : DRM C PUnit := do
  extCall c
  modifyDb f

section rules

variable {α : Type} {E : Exception → World C → Prop} {w : World C}

@[simp] lemma wp_getSession {Q : Session C → World C → Prop} : wp getSession Q E w ↔ Q w.session w := Iff.rfl

@[simp] lemma wp_getDb {Q : Db C → World C → Prop} : wp getDb Q E w ↔ Q w.db w := Iff.rfl

variable {Q : PUnit → World C → Prop}

@[simp] lemma wp_modifySession (f : Session C → Session C) :
    wp (modifySession f) Q E w ↔ Q ⟨⟩ { w with session := f w.session } := Iff.rfl

@[simp] lemma wp_modifyDb (f : Db C → Db C) :
    wp (modifyDb f) Q E w ↔ Q ⟨⟩ { w with db := f w.db } := Iff.rfl

@[simp] lemma wp_extCall (c : Call) :
    wp (extCall c) Q E w ↔ (w.fault = some c → E .std w) ∧ (w.fault ≠ some c → Q ⟨⟩ w) := by
  rw [extCall, wp_bind, wp_get, wp_ite]
  rfl

@[simp] lemma wp_sql (c : Call) (f : Db C → Db C) :
    wp (sql c f) Q E w ↔ (w.fault = some c → E .std w) ∧ (w.fault ≠ some c → Q ⟨⟩ { w with db := f w.db }) := by
  rw [sql, wp_bind, wp_extCall]
  rfl

end rules

/-- Identifier of a peer device, `0` when it is not in the storage; an invalid `Ik` is replaced. -/
def checkPeerDevice (deviceId : Bytes) (Ik : Buf A.DSAsize) : DRM C ℕ := do
  extCall .selectPeerDevice
  match (← getDb).findPeerDevice deviceId A.curveId with
  | none => return 0
  | some (did, d) =>
    -- the single byte `DBInvalidIk`
    if d.Ik = [0x00] then
      sql .updatePeerDeviceIk (Db.updatePeerDeviceIk did Ik.toList)
      return did
    else if d.Ik = Ik.toList then return did
    else throw .bctbx

def storePeerDevice (deviceId : Bytes) (Ik : Buf A.DSAsize) : DRM C ℕ := do
  let mut did ← checkPeerDevice deviceId Ik
  if did = 0 then
    sql .insertPeerDevice (Db.insertPeerDevice ⟨deviceId, A.curveId, true, Ik.toList⟩)
    extCall .peerDeviceRowid
    did := (← getDb).lastDid
  sql .storeDeactivatePeerDevices (Db.deactivatePeerDevices deviceId did)
  return did

/-! ### Saving a session -/

namespace Session

/-- Flags and KEM chain size in one integer. -/
def DHrStatusToInt (s : Session C) : UInt32 :=
  (if s.forceKEMRatchet then 0x00000001 else 0 : UInt32) |||
    (if s.peerKEMPkAvailable then 0x00000002 else 0 : UInt32) |||
    (if s.peerHasSelfKEMPk then 0x00000004 else 0 : UInt32) |||
    (if s.peerECPkAvailable then 0x00000008 else 0 : UInt32) |||
    ((s.KEMRatchetChainSize <<< 8) &&& 0x7FFFFF00)

def toRow (now : ℤ) (s : Session C) : SessionRow C where
  Did := s.peerDid
  Uid := s.dbUid
  Ns := s.Ns
  Nr := s.Nr
  PN := s.PN
  DHr := s.DHr
  DHrStatus := s.DHrStatusToInt
  DHs := s.DHs
  RK := s.RK
  CKs := s.CKs
  CKr := s.CKr
  AD := s.sharedAD
  Status := true
  timeStamp := now
  X3DHInit := if s.X3DHInitMessage.isEmpty then none else some s.X3DHInitMessage

/-- The columns updated for a session already stored, by kind of change. -/
def updateRow (now : ℤ) (s : Session C) (r : SessionRow C) : SessionRow C :=
  match s.dirty with
  | .dirty | .dirtyRatchetReceiving =>
    { r with
      Nr := s.Nr, DHr := s.DHr, DHrStatus := s.DHrStatusToInt, RK := s.RK, CKr := s.CKr
      Status := true, X3DHInit := none }
  | .dirtyKemRatchetReceiving =>
    { r with
      Nr := s.Nr, DHr := s.DHr, DHrStatus := s.DHrStatusToInt, RK := s.RK, CKr := s.CKr
      Status := true, X3DHInit := none, timeStamp := now }
  | .dirtyRatchetSending =>
    { r with
      Ns := s.Ns, PN := s.PN, DHrStatus := s.DHrStatusToInt, DHs := s.DHs, RK := s.RK, CKs := s.CKs
      Status := true }
  | .dirtyDecrypt =>
    { r with
      Nr := s.Nr, CKr := s.CKr, DHrStatus := s.DHrStatusToInt, Status := true, X3DHInit := none }
  | .dirtyEncrypt => { r with Ns := s.Ns, CKs := s.CKs, Status := s.activeStatus }
  | .clean => r

/-- Does saving this kind of change make the session the active one? -/
def activates (s : Session C) : Bool :=
  match s.dirty with
  | .dirty | .dirtyRatchetReceiving | .dirtyKemRatchetReceiving | .dirtyDecrypt => true
  | .dirtyRatchetSending | .dirtyEncrypt | .clean => false

end Session

/-- Make sure the peer device of a new session is stored and active. -/
def storeSessionDevice (now : ℤ) : DRM C PUnit := do
  let s ← getSession
  if s.peerDid = 0 then
    let did ← storePeerDevice s.peerDeviceId s.peerIk
    modifySession fun s => { s with peerDid := did }
  else
    sql .activatePeerDevice (Db.activatePeerDevice s.peerDid)
    sql .deactivateSessions (Db.deactivateSessions s.peerDid s.dbUid now)

/-- First save of a session. -/
def sessionInsert (now : ℤ) : DRM C PUnit := do
  storeSessionDevice now
  let s ← getSession
  let db ← getDb
  -- foreign keys
  if (db.lime_PeerDevices s.peerDid).isNone ∨ ¬ db.lime_LocalUsers s.dbUid then throw .std
  sql .insertSession (Db.insertSession (s.toRow now))
  modifySession fun s => { s with lastKEMRatchetEpoch := now }
  extCall .sessionRowid
  let db ← getDb
  modifySession fun s => { s with dbSessionId := db.lastSessionId }
  if s.usedOPkId ≠ 0 then
    sql .deleteOPk (Db.deleteOPk s.dbUid s.usedOPkId)
    modifySession fun s => { s with usedOPkId := 0 }

/-- A received message makes the session the active one. -/
def activateSession (now : ℤ) : DRM C PUnit := do
  let s ← getSession
  if s.activates ∧ ¬ s.activeStatus then
    sql .deactivateSessions (Db.deactivateSessions s.peerDid s.dbUid now)
    modifySession fun s => { s with activeStatus := true }

/-- Write the columns that changed. -/
def updateSessionRow (now : ℤ) : DRM C PUnit := do
  let s ← getSession
  if s.dirty ≠ .clean then
    sql .updateSession (Db.updateSession s.dbSessionId (s.updateRow now))
  if s.dirty = .dirtyKemRatchetReceiving then
    modifySession fun s => { s with lastKEMRatchetEpoch := now }

def deleteUsedKey : DRM C PUnit := do
  let s ← getSession
  match s.usedDHid with
  | some DHr =>
    sql .deleteMessageKey fun db => db.setKeys s.dbSessionId fun i n =>
      if i = DHr ∧ n = s.usedNr then none else db.DR_MSk s.dbSessionId i n
  | none =>
    if s.dirty = .dirtyDecrypt ∨ s.dirty = .dirtyRatchetReceiving then extCall .updateReceived

def sessionUpdate (now : ℤ) : DRM C PUnit := do
  activateSession now
  updateSessionRow now
  deleteUsedKey
  let s ← getSession
  sql .activatePeerDevice (Db.activatePeerDevice s.peerDid)

/-- `INSERT INTO DR_MSk_MK`: the chain index and the position are a primary key. -/
def insertMessageKey (id : ℕ) (DHr : Bytes) (kv : UInt16 × C.MessageKey) : DRM C PUnit := do
  let db ← getDb
  if (db.DR_MSk id DHr kv.1).isSome then throw .std
  sql .insertMessageKey fun db => db.setKeys id fun i n =>
    if i = DHr ∧ n = kv.1 then some kv.2 else db.DR_MSk id i n

def saveSkippedKeys : DRM C PUnit := do
  let s ← getSession
  forM s.mkskipped fun rChain => do
    extCall .selectChain
    extCall .insertChain
    forM rChain.messageKeys (insertMessageKey s.dbSessionId rChain.DHrIndex)
  if s.usedDHid.isSome then extCall .cleanChain

def sessionSaveBody (now : ℤ) : DRM C PUnit := do
  if (← getSession).dbSessionId = 0 then sessionInsert now else sessionUpdate now
  saveSkippedKeys
  let s ← getSession
  sql .deactivatePeerDevices (Db.deactivatePeerDevices s.peerDeviceId s.peerDid)

/-- Save a session. With `commit`, a failure restores the storage; without, the caller does. -/
def sessionSave (now : ℤ) (commit : Bool) : DRM C PUnit := do
  let before ← getDb
  tryCatch (sessionSaveBody now) fun _ => do
    if commit then modifyDb fun _ => before
    throw .bctbx

/-! ### Loading a session -/

namespace Session

/-- `IntToDHrStatus` on a loaded session. -/
def intToDHrStatus (status : UInt32) (s : Session C) : Session C :=
  { s with
    forceKEMRatchet := status &&& 0x00000001 != 0
    peerKEMPkAvailable := status &&& 0x00000002 != 0
    peerHasSelfKEMPk := status &&& 0x00000004 != 0
    peerECPkAvailable := status &&& 0x00000008 != 0
    KEMRatchetChainSize := (status &&& 0x7FFFFF00) >>> 8 }

def ofRow (id : ℕ) (deviceId : Bytes) (r : SessionRow C) : Session C :=
  intToDHrStatus r.DHrStatus
    { DHr := r.DHr
      DHrValid := true
      DHs := r.DHs
      forceKEMRatchet := false
      peerKEMPkAvailable := false
      peerHasSelfKEMPk := false
      peerECPkAvailable := false
      KEMRatchetChainSize := 0
      lastKEMRatchetEpoch := r.timeStamp
      RK := r.RK
      CKs := r.CKs
      CKr := r.CKr
      Ns := r.Ns
      Nr := r.Nr
      PN := r.PN
      sharedAD := r.AD
      mkskipped := []
      dbSessionId := id
      usedDHid := none
      usedNr := 0
      usedOPkId := 0
      dirty := .clean
      peerDid := r.Did
      peerDeviceId := deviceId
      peerIk := zeros _
      dbUid := r.Uid
      activeStatus := r.Status
      X3DHInitMessage := r.X3DHInit.getD [] }

end Session

/-- Load a session; `none` when its row, or the device joined to it, is missing. -/
def sessionLoad (id : ℕ) (db : Db C) : Option (Session C) := do
  let r ← db.DR_sessions id
  let d ← db.lime_PeerDevices r.Did
  return Session.ofRow id d.DeviceId r

/-- Look for a stored message key; the session keeps track of the one found. -/
def trySkippedMessageKeys (Nr : UInt16) (DHrIndex : Bytes) : DRM C (Option C.MessageKey) := do
  extCall .selectMessageKey
  let s ← getSession
  match (← getDb).DR_MSk s.dbSessionId DHrIndex Nr with
  | none =>
    modifySession fun s => { s with usedDHid := none }
    return none
  | some MK =>
    modifySession fun s => { s with usedDHid := some DHrIndex, usedNr := Nr }
    return some MK

end Lime
