import LinphoneSdk.Lib.Counted
import LinphoneSdk.Lime.Keys

/-!
# Messages of the X3DH protocol that hold a number of entries

`registerUser`, `postOPks` and `getPeerBundle` announce a number of entries on two bytes and then
hold the entries. The builders of `lime_x3dh_protocol.cpp` write the number and run the loop over
the entries apart from each other. The reading side is the one of the X3DH server, `x3dh.js`; what
the server refuses for its own limits is left out.
-/

namespace Lime

open Bytes Counted List Option

def Curve.sigSize : Curve → ℕ
  | .C255 | .C255K512 | .C255MLK512 => 64
  | .C448 | .C448MLK1024 => 114

variable {A : Curve}

/-! ### Keys published on the server -/

structure SignedPreKey (A : Curve) where
  EC_SPk : Buf A.Xsize
  KEM_SPk : Buf A.kPkSize
  Sig : Buf A.sigSize
  Id : UInt32

structure OneTimePreKey (A : Curve) where
  EC_OPk : Buf A.Xsize
  KEM_OPk : Buf A.kPkSize
  Id : UInt32

def SignedPreKey.serializePublic (SPk : SignedPreKey A) : Bytes :=
  SPk.EC_SPk.toList ++ (SPk.KEM_SPk.toList ++ (SPk.Sig.toList ++ be32 SPk.Id))

def OneTimePreKey.serializePublic (OPk : OneTimePreKey A) : Bytes :=
  OPk.EC_OPk.toList ++ (OPk.KEM_OPk.toList ++ be32 OPk.Id)

@[simp] lemma SignedPreKey.length_serializePublic (SPk : SignedPreKey A) :
    SPk.serializePublic.length = A.Xsize + A.kPkSize + A.sigSize + 4 := by
  simp [serializePublic]
  omega

@[simp] lemma OneTimePreKey.length_serializePublic (OPk : OneTimePreKey A) :
    OPk.serializePublic.length = A.Xsize + A.kPkSize + 4 := by
  simp [serializePublic]
  omega

namespace x3dh_protocol

/-! ### Builders -/

inductive x3dh_message_type where
  | registerUser
  | postOPks
  | getPeerBundle
  deriving DecidableEq, Repr

def x3dh_message_type.value : x3dh_message_type → UInt8
  | .registerUser => 0x09
  | .postOPks => 0x04
  | .getPeerBundle => 0x05

def X3DH_protocolVersion : UInt8 := 0x01

def X3DH_headerSize : ℕ := 3

def X3DH_makeHeader (message_type : x3dh_message_type) (curve : UInt8) : Bytes :=
  [X3DH_protocolVersion, message_type.value, curve]

/-- The two `push_back` of a size: its low sixteen bits, most significant byte first. -/
def pushSize (size : ℕ) : Bytes :=
  [UInt8.ofNat (size >>> 8 &&& 0xFF), UInt8.ofNat (size &&& 0xFF)]

variable (OPks : List (OneTimePreKey A))

/-- The number written before the keys is capped. -/
def OPkCount : ℕ :=
  if OPks.length > 0xFFFF then 0xFFFF else OPks.length

def buildMessage_registerUser (Ik : Buf A.DSAsize) (SPk : SignedPreKey A) (OPks : List (OneTimePreKey A)) : Bytes :=
  X3DH_makeHeader .registerUser A.curveId ++ (Ik.toList ++ (SPk.serializePublic ++
    (pushSize (OPkCount OPks) ++ OPks.flatMap OneTimePreKey.serializePublic)))

def buildMessage_publishOPks : Bytes :=
  X3DH_makeHeader .postOPks A.curveId ++ (pushSize (OPkCount OPks) ++ OPks.flatMap OneTimePreKey.serializePublic)

def pushPeer (peer_device_id : Bytes) : Bytes :=
  pushSize peer_device_id.length ++ peer_device_id

/-- The vector of the caller, resized when it holds too many ids. -/
def resizePeers (peer_device_ids : List Bytes) : List Bytes :=
  if peer_device_ids.length > 0xFFFF then peer_device_ids.take 0xFFFF else peer_device_ids

/-- The message and the vector of the caller, whose size is written before it is resized. -/
def buildMessage_getPeerBundles (A : Curve) (peer_device_ids : List Bytes) : Bytes × List Bytes :=
  let size := pushSize peer_device_ids.length
  let peer_device_ids := resizePeers peer_device_ids
  (X3DH_makeHeader .getPeerBundle A.curveId ++ (size ++ peer_device_ids.flatMap pushPeer), peer_device_ids)

/-! ### Reading on the server -/

/-- `readUInt16BE` of a buffer, which throws when the two bytes are not there. -/
def readUInt16BE (body : Bytes) (i : ℕ) : Option UInt16 :=
  if i + 2 ≤ body.length then some (be16At body i) else none

/-- `readUInt32BE` of a buffer, which throws when the four bytes are not there. -/
def readUInt32BE (body : Bytes) (i : ℕ) : Option UInt32 :=
  if i + 4 ≤ body.length then some (be32At body i) else none

/-- `slice` of a buffer, clamped to its end. -/
def slice (body : Bytes) (i j : ℕ) : Bytes := (body.drop i).take (j - i)

/-- `keySizes[currentCurveId]['OPk']`. -/
def keySizesOPk (A : Curve) : ℕ := A.Xsize + A.kPkSize

/-- One turn of the loop over the one time pre-keys. -/
def readOPk (A : Curve) (body : Bytes) (bufferIndex : ℕ) : Option ((Bytes × UInt32) × ℕ) := do
  let OPk := slice body bufferIndex (bufferIndex + keySizesOPk A)
  let bufferIndex := bufferIndex + keySizesOPk A
  let OPk_id ← readUInt32BE body bufferIndex
  return ((OPk, OPk_id), bufferIndex + 4)

/-- One turn of the loop over the peer device ids. -/
def readPeer (body : Bytes) (bufferIndex : ℕ) : Option (Bytes × ℕ) := do
  let IdLength ← readUInt16BE body bufferIndex
  let bufferIndex := bufferIndex + 2
  return (slice body bufferIndex (bufferIndex + IdLength.toNat), bufferIndex + IdLength.toNat)

/-- Where the number of keys of a `registerUser` message is read. -/
def registerUserCountIndex (A : Curve) : ℕ :=
  X3DH_headerSize + (A.DSAsize + (A.Xsize + A.kPkSize + A.sigSize) + 4)

/-! ### Sizes on two bytes -/

lemma pushSize_eq (size : ℕ) : pushSize size = be16 (UInt16.ofNat size) := by
  have hff : (0xFF : ℕ) = 2 ^ 8 - 1 := rfl
  have hshift : (8 : UInt16).toNat % 16 = 8 := by decide
  rw [pushSize, be16, hff, Nat.and_two_pow_sub_one_eq_mod, Nat.and_two_pow_sub_one_eq_mod]
  congr 1
  · apply UInt8.toNat_inj.1
    simp only [UInt8.toNat_ofNat', UInt16.toNat_toUInt8, UInt16.toNat_shiftRight, hshift, UInt16.toNat_ofNat',
      Nat.shiftRight_eq_div_pow]
    omega
  · congr 1
    apply UInt8.toNat_inj.1
    simp only [UInt8.toNat_ofNat', UInt16.toNat_toUInt8, UInt16.toNat_ofNat']
    omega

/-- A size reads back as its remainder modulo 65536. -/
lemma toNat_be16At_pushSize {message rest : Bytes} {i size : ℕ}
    (h : message.drop i = pushSize size ++ rest) : (be16At message i).toNat = size % 2 ^ 16 := by
  rw [pushSize_eq] at h
  rw [be16At_of_drop _ h, UInt16.toNat_ofNat']

@[simp] lemma length_pushSize (size : ℕ) : (pushSize size).length = 2 := rfl

/-! ### Reading one entry -/

variable {i : ℕ} {body xs rest : Bytes}

lemma slice_of_drop (h : body.drop i = xs ++ rest) : slice body i (i + xs.length) = xs := by
  rw [slice, h, Nat.add_sub_cancel_left, take_left]

lemma drop_add_length (h : body.drop i = xs ++ rest) : body.drop (i + xs.length) = rest := by
  rw [← drop_drop, h, drop_left]

lemma add_length_le_of_drop (hpos : 0 < xs.length) (h : body.drop i = xs ++ rest) : i + xs.length ≤ body.length := by
  have hlen := congrArg length h
  rw [length_drop, length_append] at hlen
  omega

def OPkEntry (OPk : OneTimePreKey A) : Bytes × UInt32 := (OPk.EC_OPk.toList ++ OPk.KEM_OPk.toList, OPk.Id)

lemma readOPk_of_drop {body rest : Bytes} (OPk : OneTimePreKey A) (h : body.drop i = OPk.serializePublic ++ rest) :
    readOPk A body i = some (OPkEntry OPk, i + OPk.serializePublic.length) := by
  have hkeys : body.drop i = (OPk.EC_OPk.toList ++ OPk.KEM_OPk.toList) ++ (be32 OPk.Id ++ rest) := by
    rw [h, OneTimePreKey.serializePublic]
    simp only [List.append_assoc]
  have hsize : (OPk.EC_OPk.toList ++ OPk.KEM_OPk.toList).length = keySizesOPk A := by
    simp [keySizesOPk]
  have hid := drop_add_length hkeys
  have hle := add_length_le_of_drop (by simp) hid
  have hslice := slice_of_drop hkeys
  rw [hsize] at hid hle hslice
  rw [length_be32] at hle
  simp only [readOPk, readUInt32BE, if_pos hle, hslice, be32At_of_drop _ hid, Option.bind_eq_bind,
    Option.bind_some, Option.pure_def, OPkEntry, OneTimePreKey.length_serializePublic]
  rw [keySizesOPk, Nat.add_assoc i]

lemma readPeer_of_drop {body rest id : Bytes} (hid : id.length ≤ 0xFFFF) (h : body.drop i = pushPeer id ++ rest) :
    readPeer body i = some (id, i + (pushPeer id).length) := by
  rw [pushPeer, List.append_assoc] at h
  have hle := add_length_le_of_drop (by simp) h
  have hnext := drop_add_length h
  have hlength : (be16At body i).toNat = id.length := by
    rw [toNat_be16At_pushSize h]
    omega
  rw [length_pushSize] at hle hnext
  have hslice := slice_of_drop hnext
  simp only [readPeer, readUInt16BE, if_pos hle, hlength, hslice, Option.bind_eq_bind, Option.bind_some,
    Option.pure_def, pushPeer, List.length_append, length_pushSize]
  rw [Nat.add_assoc]

/-- The ids the server reads are at most 65535 bytes long. -/
lemma length_of_readPeer {body id : Bytes} {i j : ℕ} (h : readPeer body i = some (id, j)) : id.length ≤ 0xFFFF := by
  rw [readPeer, readUInt16BE] at h
  split_ifs at h with hle
  · cases h
    have hlt := (be16At body i).toNat_lt
    rw [slice, length_take]
    omega
  · cases h

/-! ### The announced number of entries -/

/-- The capped number of keys is the number of keys when there are at most 65535 of them. -/
lemma OPkCount_mod_eq_length_iff : OPkCount OPks % 2 ^ 16 = OPks.length ↔ OPks.length ≤ 0xFFFF := by
  rw [OPkCount]
  split_ifs with h
  · omega
  · omega

/-- A message that ends with the number of keys and the keys announces them when there are at most
65535 of them. -/
lemma announced_OPks_iff {message : Bytes} {OPks : List (OneTimePreKey A)}
    (h : message.drop i = pushSize (OPkCount OPks) ++ OPks.flatMap OneTimePreKey.serializePublic) :
    ((be16At message i).toNat = OPks.length ↔ OPks.length ≤ 0xFFFF) ∧
      (Announced (readOPk A message) message i (OPks.map OPkEntry) ↔ OPks.length ≤ 0xFFFF) := by
  have hcount : (be16At message i).toNat = OPks.length ↔ OPks.length ≤ 0xFFFF := by
    rw [toNat_be16At_pushSize h]
    exact OPkCount_mod_eq_length_iff OPks
  have hle : i + 2 ≤ message.length := add_length_le_of_drop (by simp) h
  refine ⟨hcount, fun hann => ?_, fun hlen => ?_⟩
  · rw [← hcount, hann.count, length_map]
  · have hkeys : message.drop (i + 2) = OPks.flatMap OneTimePreKey.serializePublic ++ [] := by
      rw [append_nil]
      exact drop_add_length h
    have hread : readMany (readOPk A message) OPks.length (i + 2) = _ :=
      readMany_of_drop OneTimePreKey.serializePublic OPkEntry (fun OPk _ j rest hj => readOPk_of_drop OPk hj) hkeys
    have hentries : (OPks.map OPkEntry).length = OPks.length := length_map _
    rw [← hentries] at hread
    exact announced_of_drop (by rw [hentries, hcount.2 hlen]) hkeys hread hle

lemma length_resizePeers (ids : List Bytes) : (resizePeers ids).length = min 0xFFFF ids.length := by
  rw [resizePeers]
  split_ifs with h
  · exact length_take
  · omega

/-- The number of ids written before the resize is the number of ids kept when at most 65535 ids are
given, or when their number wraps to 65535. -/
lemma length_mod_eq_length_resizePeers_iff (ids : List Bytes) :
    ids.length % 2 ^ 16 = (resizePeers ids).length ↔ ids.length ≤ 0xFFFF ∨ ids.length % 2 ^ 16 = 0xFFFF := by
  rw [length_resizePeers]
  omega

/-- A message that ends with the number of ids given and the ids kept announces them when the two
numbers agree and every id fits its size. -/
lemma announced_peers_iff {message : Bytes} {ids : List Bytes}
    (h : message.drop i = pushSize ids.length ++ (resizePeers ids).flatMap pushPeer) :
    ((be16At message i).toNat = (resizePeers ids).length ↔ ids.length ≤ 0xFFFF ∨ ids.length % 2 ^ 16 = 0xFFFF) ∧
      (Announced (readPeer message) message i (resizePeers ids) ↔
        (ids.length ≤ 0xFFFF ∨ ids.length % 2 ^ 16 = 0xFFFF) ∧ ∀ id ∈ resizePeers ids, id.length ≤ 0xFFFF) := by
  have hcount : (be16At message i).toNat = (resizePeers ids).length ↔
      ids.length ≤ 0xFFFF ∨ ids.length % 2 ^ 16 = 0xFFFF := by
    rw [toNat_be16At_pushSize h]
    exact length_mod_eq_length_resizePeers_iff ids
  have hle : i + 2 ≤ message.length := add_length_le_of_drop (by simp) h
  refine ⟨hcount, fun hann => ⟨hcount.1 hann.count, ?_⟩, fun ⟨hlen, hids⟩ => ?_⟩
  · exact forall_mem_of_readMany (fun j id k hid => length_of_readPeer hid) hann.consumed
  · have hpeers : message.drop (i + 2) = (resizePeers ids).flatMap pushPeer ++ [] := by
      rw [List.append_nil]
      exact drop_add_length h
    have hread : readMany (readPeer message) (resizePeers ids).length (i + 2) = _ :=
      readMany_of_drop pushPeer (fun id => id) (fun id hid j rest hj => readPeer_of_drop (hids id hid) hj) hpeers
    rw [List.map_id'] at hread
    exact announced_of_drop (hcount.2 hlen) hpeers hread hle

/-! ### The three builders -/

lemma drop_registerUser (Ik : Buf A.DSAsize) (SPk : SignedPreKey A) (OPks : List (OneTimePreKey A)) :
    (buildMessage_registerUser Ik SPk OPks).drop (registerUserCountIndex A) =
      pushSize (OPkCount OPks) ++ OPks.flatMap OneTimePreKey.serializePublic := by
  have hindex : registerUserCountIndex A =
      (X3DH_makeHeader .registerUser A.curveId ++ (Ik.toList ++ SPk.serializePublic)).length := by
    simp [registerUserCountIndex, X3DH_headerSize, X3DH_makeHeader]
    omega
  have hmessage : buildMessage_registerUser Ik SPk OPks =
      (X3DH_makeHeader .registerUser A.curveId ++ (Ik.toList ++ SPk.serializePublic)) ++
        (pushSize (OPkCount OPks) ++ OPks.flatMap OneTimePreKey.serializePublic) := by
    rw [buildMessage_registerUser]
    simp only [append_assoc]
  rw [hmessage, hindex, drop_left]

lemma drop_publishOPks : (buildMessage_publishOPks OPks).drop X3DH_headerSize =
      pushSize (OPkCount OPks) ++ OPks.flatMap OneTimePreKey.serializePublic := rfl

lemma drop_getPeerBundles (ids : List Bytes) : (buildMessage_getPeerBundles A ids).1.drop X3DH_headerSize =
      pushSize ids.length ++ (resizePeers ids).flatMap pushPeer := rfl

lemma length_getPeerBundles (A : Curve) (ids : List Bytes) :
    (buildMessage_getPeerBundles A ids).2.length = min 0xFFFF ids.length := length_resizePeers ids

/-- The number written in a message is the number of entries appended after it, and reading that many
entries gives them back and consumes the message: for the keys when there are at most 65535 of them,
for the peer device ids when there are at most 65535 of them or their number wraps to 65535, and each
is at most 65535 bytes long. -/
theorem count_fields (A : Curve) : (∀ (Ik : Buf A.DSAsize) (SPk : SignedPreKey A) (OPks : List (OneTimePreKey A)),
      let message := buildMessage_registerUser Ik SPk OPks
      let i := registerUserCountIndex A
      ((be16At message i).toNat = OPks.length ↔ OPks.length ≤ 0xFFFF) ∧
        (Announced (readOPk A message) message i (OPks.map OPkEntry) ↔ OPks.length ≤ 0xFFFF)) ∧
    (∀ OPks : List (OneTimePreKey A), let message := buildMessage_publishOPks OPks
      let i := X3DH_headerSize
      ((be16At message i).toNat = OPks.length ↔ OPks.length ≤ 0xFFFF) ∧
        (Announced (readOPk A message) message i (OPks.map OPkEntry) ↔ OPks.length ≤ 0xFFFF)) ∧
    (∀ ids : List Bytes, let message := (buildMessage_getPeerBundles A ids).1
      let appended := (buildMessage_getPeerBundles A ids).2
      let i := X3DH_headerSize
      ((be16At message i).toNat = appended.length ↔ ids.length ≤ 0xFFFF ∨ ids.length % 2 ^ 16 = 0xFFFF) ∧
        (Announced (readPeer message) message i appended ↔
          (ids.length ≤ 0xFFFF ∨ ids.length % 2 ^ 16 = 0xFFFF) ∧ ∀ id ∈ appended, id.length ≤ 0xFFFF)) :=
  ⟨fun Ik SPk OPks => announced_OPks_iff (drop_registerUser Ik SPk OPks),
    fun OPks => announced_OPks_iff (drop_publishOPks OPks),
    fun ids => announced_peers_iff (drop_getPeerBundles ids)⟩

/-- Of 65536 keys all are appended and 65535 announced; of 65536 peer device ids 65535 are appended and
none announced. -/
theorem count_fields_fails : let OPks := replicate 65536 (⟨zeros _, zeros _, 0⟩ : OneTimePreKey .C255)
    let message := buildMessage_publishOPks OPks
    let bundles := buildMessage_getPeerBundles .C255 (replicate 65536 [])
    ((be16At message X3DH_headerSize).toNat = 65535 ∧
        ¬ Announced (readOPk .C255 message) message X3DH_headerSize (OPks.map OPkEntry)) ∧
      (be16At bundles.1 X3DH_headerSize).toNat = 0 ∧ bundles.2.length = 65535 := by
  intro OPks message bundles
  have hOPks : OPks.length = 65536 := length_replicate
  have hids : (replicate 65536 ([] : Bytes)).length = 65536 := length_replicate
  refine ⟨⟨?_, fun hann => ?_⟩, ?_, ?_⟩
  · rw [toNat_be16At_pushSize (drop_publishOPks OPks), OPkCount, if_pos (by omega)]
    rfl
  · have hle := (announced_OPks_iff (drop_publishOPks OPks)).2.1 hann
    omega
  · rw [toNat_be16At_pushSize (drop_getPeerBundles _), hids]
    rfl
  · have hkept := length_getPeerBundles .C255 (replicate 65536 [])
    rw [hids] at hkept
    exact hkept.trans (by omega)

end x3dh_protocol

end Lime
