import LinphoneSdk.Lib.Delimited
import LinphoneSdk.Lib.Reading
import LinphoneSdk.Lime.X3DHMessages

/-!
# Reading the answers of the X3DH server

`parseMessage_getPeerBundles` and `parseMessage_selfOPks` of `lime_x3dh_protocol.cpp`. A cursor reads
the body, after which any bytes may lie. A routine that ends before the last entry returns false; what
it then leaves in the vector of the caller is the exception it raises.
-/

namespace Lime

open Bytes Delimited Exec Reading x3dh_protocol List

variable {A : Curve}

/-! ### Key bundles -/

inductive X3DHKeyBundleFlag where
  | noOPk
  | OPk
  | noBundle
  deriving DecidableEq, Repr

def X3DHKeyBundleFlag.value : X3DHKeyBundleFlag → UInt8
  | .noOPk => 0
  | .OPk => 1
  | .noBundle => 2

/-- The flag that a byte of the message stands for, if any. -/
def X3DHKeyBundleFlag.ofValue (flag : UInt8) : Option X3DHKeyBundleFlag :=
  if flag = X3DHKeyBundleFlag.noBundle.value then some .noBundle
  else if flag = X3DHKeyBundleFlag.noOPk.value then some .noOPk
  else if flag = X3DHKeyBundleFlag.OPk.value then some .OPk
  else none

/-- The keys of a device: what the bundle flag says, and the keys that are there with this flag. -/
inductive KeyBundle (A : Curve) where
  | noBundle
  | noOPk (Ik : Buf A.DSAsize) (SPk : SignedPreKey A)
  | OPk (Ik : Buf A.DSAsize) (SPk : SignedPreKey A) (OPk : OneTimePreKey A)

/-- The size of the device id is written on two bytes. -/
structure X3DH_peerBundle (A : Curve) where
  deviceId : Bytes
  length_deviceId : deviceId.length ≤ 0xFFFF
  keys : KeyBundle A

instance X3DH_peerBundle.instInhabited : Inhabited (X3DH_peerBundle A) := ⟨[], Nat.zero_le _, .noBundle⟩

/-- The size of the keys, without and with a one time pre-key. -/
def X3DH_peerBundle.ssize (A : Curve) (haveOPk : Bool) : ℕ :=
  A.DSAsize + (A.Xsize + A.kPkSize + A.sigSize + 4) + (if haveOPk then A.Xsize + A.kPkSize + 4 else 0)

/-! ### Encoded entries -/

def SignedPreKey.encoded (SPk : SignedPreKey A) : Bytes :=
  SPk.EC_SPk.toList ++ (SPk.KEM_SPk.toList ++ (be32 SPk.Id ++ SPk.Sig.toList))

def KeyBundle.encoded : KeyBundle A → Bytes
  | .noBundle => [X3DHKeyBundleFlag.noBundle.value]
  | .noOPk Ik SPk => X3DHKeyBundleFlag.noOPk.value :: (Ik.toList ++ SPk.encoded)
  | .OPk Ik SPk key => X3DHKeyBundleFlag.OPk.value :: (Ik.toList ++ (SPk.encoded ++ key.serializePublic))

def X3DH_peerBundle.encoded (bundle : X3DH_peerBundle A) : Bytes :=
  pushPeer bundle.deviceId ++ bundle.keys.encoded

namespace x3dh_protocol

/-! ### Parsing -/

/-- A routine on a message, with the entries that the vector of the caller holds when it returns false. -/
abbrev Parse (β α : Type) : Type := EStateM (List β) Cursor α

variable {β : Type}

/-- When the body is too short for these bytes, clear the vector and return false. -/
def checkSize (size : ℕ) : Parse β Unit := do
  let c ← get
  if c.block.bytes.length < c.position + size then throw []

/-- The key, the id and the signature: the server does not keep the order in which they were published. -/
def readSPk (A : Curve) : Parse β (SignedPreKey A) := do
  let EC_SPk ← nextBuf A.Xsize
  let KEM_SPk ← nextBuf A.kPkSize
  let Id ← nextWord32
  let Sig ← nextBuf A.sigSize
  pure { EC_SPk := EC_SPk, KEM_SPk := KEM_SPk, Sig := Sig, Id := Id }

def readBundleOPk (A : Curve) : Parse β (OneTimePreKey A) := do
  let EC_OPk ← nextBuf A.Xsize
  let KEM_OPk ← nextBuf A.kPkSize
  let Id ← nextWord32
  pure { EC_OPk := EC_OPk, KEM_OPk := KEM_OPk, Id := Id }

def readKeys (A : Curve) (haveOPk : Bool) : Parse β (KeyBundle A) := do
  let Ik ← nextBuf A.DSAsize
  let SPk ← readSPk A
  if haveOPk then
    let OPk ← readBundleOPk A
    pure (.OPk Ik SPk OPk)
  else pure (.noOPk Ik SPk)

def readKeyBundle (A : Curve) (keyBundleFlag : X3DHKeyBundleFlag) : Parse β (KeyBundle A) := do
  if keyBundleFlag = .noBundle then pure .noBundle
  else
    let haveOPk : Bool := keyBundleFlag = .OPk
    checkSize (X3DH_peerBundle.ssize A haveOPk)
    readKeys A haveOPk

/-- A flag that is none of the three clears the vector and returns false. -/
def readFlag : Parse β X3DHKeyBundleFlag := do
  let flag ← nextByte
  match X3DHKeyBundleFlag.ofValue flag with
  | some flag => pure flag
  | none => throw []

/-- One turn of the loop over the bundles. -/
def readPeerBundle (A : Curve) : Parse β (X3DH_peerBundle A) := do
  checkSize 2
  let deviceIdSize ← nextWord16
  checkSize (deviceIdSize.toNat + 1)
  let deviceId ← nextBuf deviceIdSize.toNat
  let flag ← readFlag
  let keys ← readKeyBundle A flag
  pure ⟨deviceId.toList, deviceId.toList_length.trans_le (Nat.le_of_lt_succ deviceIdSize.toNat_lt), keys⟩

/-- Read as many entries as announced and append them to the vector. -/
def readEntries (read : Parse β β) : ℕ → List β → Parse β (List β)
  | 0, entries => pure entries
  | n + 1, entries => do
    let entry ← read
    readEntries read n (entries ++ [entry])

/-- The cursor is at the number of bundles. -/
def parseMessage_getPeerBundles (A : Curve) : Parse (X3DH_peerBundle A) (List (X3DH_peerBundle A)) := do
  checkSize 2
  let peersBundleCount ← nextWord16
  readEntries (readPeerBundle A) peersBundleCount.toNat []

/-- The cursor is at the number of ids. -/
def parseMessage_selfOPks : Parse UInt32 (List UInt32) := do
  checkSize 2
  let selfOPkIdsCount ← nextWord16
  checkSize (4 * selfOPkIdsCount.toNat)
  readEntries nextWord32 selfOPkIdsCount.toNat []

/-- What a parser returns of a message, the vector of the caller and the cursor after it. -/
structure Answer (β : Type) where
  returned : Bool
  entries : List β
  cursor : Cursor

def answer (parser : Parse β (List β)) (body : Block) : Answer β :=
  match parser (.start body X3DH_headerSize) with
  | .ok entries c => ⟨true, entries, c⟩
  | .error entries c => ⟨false, entries, c⟩

/-- The bytes begin with a device id and a flag that is none of the three. -/
def UnknownFlag (l : Bytes) : Prop :=
  ∃ (deviceId : Bytes) (flag : UInt8) (rest : Bytes), deviceId.length ≤ 0xFFFF ∧
    X3DHKeyBundleFlag.ofValue flag = none ∧ l = pushPeer deviceId ++ flag :: rest

/-! ### Sizes -/

lemma ssize_pos (A : Curve) (haveOPk : Bool) : 0 < X3DH_peerBundle.ssize A haveOPk := by
  rw [X3DH_peerBundle.ssize]
  omega

@[simp] lemma SignedPreKey.length_encoded (SPk : SignedPreKey A) :
    SPk.encoded.length = A.Xsize + A.kPkSize + A.sigSize + 4 := by
  simp [SignedPreKey.encoded]
  omega

def keysFlag (haveOPk : Bool) : X3DHKeyBundleFlag := if haveOPk then .OPk else .noOPk

/-! ### One step -/

section wp

variable {c : Cursor}

variable {E : List β → Cursor → Prop}

@[simp] lemma wp_checkSize (size : ℕ) {Q : Unit → Cursor → Prop} :
    wp (checkSize size) Q E c ↔ (c.block.bytes.length < c.position + size → E [] c) ∧
        (¬ c.block.bytes.length < c.position + size → Q () c) := by
  simp only [checkSize, wp_bind, wp_get, wp_ite, wp_throw, wp_pure]

lemma wp_readSPk (hc : c.InBounds) (hsize : c.position + (A.Xsize + A.kPkSize + A.sigSize + 4) ≤ c.block.bytes.length) :
    wp (readSPk A) (fun SPk c' => Consumed c c' SPk.encoded) E c := by
  simp only [readSPk, wp_bind, wp_nextBuf, wp_nextWord32, wp_pure]
  have hEC : Consumed c (c.advance A.Xsize) _ := Consumed.advance _ hc (by omega)
  have hKEM := Consumed.advance A.kPkSize hEC.inBounds (by simp; omega)
  have hId := Consumed.advance 4 hKEM.inBounds (by simp; omega)
  have hSig := Consumed.advance A.sigSize hId.inBounds (by simp; omega)
  have hall := hEC.trans (hKEM.trans (hId.trans hSig))
  rw [← Block.be32_readWord32] at hall
  exact hall

lemma wp_readBundleOPk (hc : c.InBounds) (hsize : c.position + (A.Xsize + A.kPkSize + 4) ≤ c.block.bytes.length) :
    wp (readBundleOPk A) (fun OPk c' => Consumed c c' OPk.serializePublic) E c := by
  simp only [readBundleOPk, wp_bind, wp_nextBuf, wp_nextWord32, wp_pure]
  have hEC : Consumed c (c.advance A.Xsize) _ := Consumed.advance _ hc (by omega)
  have hKEM := Consumed.advance A.kPkSize hEC.inBounds (by simp; omega)
  have hId := Consumed.advance 4 hKEM.inBounds (by simp; omega)
  have hall := hEC.trans (hKEM.trans hId)
  rw [← Block.be32_readWord32] at hall
  exact hall

/-- The keys that fit are read whatever they are. -/
lemma wp_readKeys (haveOPk : Bool) (hc : c.InBounds)
    (hsize : c.position + X3DH_peerBundle.ssize A haveOPk ≤ c.block.bytes.length) :
    wp (readKeys A haveOPk) (fun keys c' => ∃ bytes, keys.encoded = (keysFlag haveOPk).value :: bytes ∧
      bytes.length = X3DH_peerBundle.ssize A haveOPk ∧ Consumed c c' bytes) E c := by
  rw [X3DH_peerBundle.ssize] at hsize
  simp only [readKeys, wp_bind, wp_nextBuf]
  have hIk : Consumed c (c.advance A.DSAsize) _ := Consumed.advance _ hc (by omega)
  refine wp_mono (wp_readSPk hIk.inBounds (by simp; omega)) (fun SPk c₂ hSPk => ?_) (fun _ _ h => h)
  have hpair := hIk.trans hSPk
  cases haveOPk with
  | false => exact ⟨_, rfl, by simp [X3DH_peerBundle.ssize], hpair⟩
  | true =>
    simp only [if_true, wp_bind, wp_pure]
    have hroom : c₂.position + (A.Xsize + A.kPkSize + 4) ≤ c₂.block.bytes.length := by
      rw [hpair.block, hpair.position]
      simp at hsize ⊢
      omega
    refine wp_mono (wp_readBundleOPk hSPk.inBounds hroom) (fun OPk c₃ hOPk => ?_) (fun _ _ h => h)
    exact ⟨_, rfl, by simp [X3DH_peerBundle.ssize]; omega, hIk.trans (hSPk.trans hOPk)⟩

end wp

/-! ### Entries cut by the end of the body -/

/-- Bytes of the right number are the bytes of some keys. -/
lemma exists_keys (A : Curve) (haveOPk : Bool) {bytes : Bytes} (h : bytes.length = X3DH_peerBundle.ssize A haveOPk) :
    ∃ keys : KeyBundle A, keys.encoded = (keysFlag haveOPk).value :: bytes := by
  let c : Cursor := .start ⟨bytes, fun _ => 0⟩ 0
  have hsize : c.position + X3DH_peerBundle.ssize A haveOPk ≤ c.block.bytes.length := by simp [c, h]
  have hread := wp_readKeys (β := Unit) (E := fun _ _ => False) haveOPk (Cursor.inBounds_start _ _) hsize
  obtain ⟨keys, c', -, read, hkeys, hlength, hconsumed⟩ := exists_ok_of_wp hread
  have hdrop : bytes = read ++ bytes.drop c'.position := hconsumed.drop
  have hall : read = bytes := by
    have hprefix : read <+: bytes := ⟨_, hdrop.symm⟩
    exact hprefix.eq_of_length (hlength.trans h.symm)
  exact ⟨keys, hall ▸ hkeys⟩

lemma pushPeer_eq {deviceId : Bytes} {size : UInt16} (h : deviceId.length = size.toNat) :
    pushPeer deviceId = be16 size ++ deviceId := by
  rw [pushPeer, pushSize_eq, h, UInt16.ofNat_toNat]

def withoutKeys (A : Curve) (size : UInt16) {deviceId : Bytes} (h : deviceId.length = size.toNat) :
    X3DH_peerBundle A :=
  ⟨deviceId, h.trans_le (Nat.le_of_lt_succ size.toNat_lt), .noBundle⟩

lemma encoded_withoutKeys (A : Curve) {size : UInt16} {deviceId : Bytes} (h : deviceId.length = size.toNat) :
    (withoutKeys A size h).encoded = be16 size ++ (deviceId ++ [X3DHKeyBundleFlag.noBundle.value]) := by
  rw [X3DH_peerBundle.encoded, withoutKeys, pushPeer_eq h, append_assoc]
  rfl

lemma cut_of_size {l : Bytes} (h : l.length < 2) : Cut (X3DH_peerBundle.encoded (A := A)) 1 l := by
  cases l with
  | nil =>
    have hid : ([] : Bytes).length = (0 : UInt16).toNat := rfl
    exact Cut.one (by rw [encoded_withoutKeys]; simp) (nil_append (withoutKeys A 0 hid).encoded)
  | cons a l =>
    have hl : l = [] := eq_nil_of_length_eq_zero (by rw [length_cons] at h; omega)
    have hid : (replicate (word16 a 0).toNat (0 : UInt8)).length = (word16 a 0).toNat := length_replicate
    have hencoded := encoded_withoutKeys A hid
    rw [be16_word16] at hencoded
    rw [hl]
    exact Cut.one (cons_ne_nil 0 _) hencoded.symm

lemma cut_of_deviceId {size : UInt16} {l : Bytes} (h : l.length < size.toNat + 1) :
    Cut (X3DH_peerBundle.encoded (A := A)) 1 (be16 size ++ l) := by
  have hid : (l ++ replicate (size.toNat - l.length) (0 : UInt8)).length = size.toNat := by
    rw [length_append, length_replicate]
    omega
  have hencoded := encoded_withoutKeys A hid
  rw [append_assoc, ← append_assoc] at hencoded
  exact Cut.one (by simp) hencoded.symm

lemma cut_of_keys {deviceId l : Bytes} {haveOPk : Bool} (hid : deviceId.length ≤ 0xFFFF)
    (h : l.length < X3DH_peerBundle.ssize A haveOPk) :
    Cut (X3DH_peerBundle.encoded (A := A)) 1 (pushPeer deviceId ++ (keysFlag haveOPk).value :: l) := by
  let more := replicate (X3DH_peerBundle.ssize A haveOPk - l.length) (0 : UInt8)
  have hlength : (l ++ more).length = X3DH_peerBundle.ssize A haveOPk := by
    rw [length_append, length_replicate]
    omega
  obtain ⟨keys, hkeys⟩ := exists_keys A haveOPk hlength
  have hmore : more ≠ [] := by
    intro hnil
    have hnone := congrArg length hnil
    rw [length_replicate, length_nil] at hnone
    omega
  have hencoded : (X3DH_peerBundle.mk deviceId hid keys).encoded =
      (pushPeer deviceId ++ (keysFlag haveOPk).value :: l) ++ more := by
    rw [X3DH_peerBundle.encoded, hkeys, append_assoc, cons_append]
  exact Cut.one hmore hencoded.symm

/-! ### One turn of the loop -/

lemma ofValue_value (flag : X3DHKeyBundleFlag) : X3DHKeyBundleFlag.ofValue flag.value = some flag := by
  cases flag <;> rfl

lemma value_of_ofValue {value : UInt8} {flag : X3DHKeyBundleFlag} (h : X3DHKeyBundleFlag.ofValue value = some flag) :
    flag.value = value := by
  rw [X3DHKeyBundleFlag.ofValue] at h
  split_ifs at h with hnone hno hhave <;> cases h
  · exact hnone.symm
  · exact hno.symm
  · exact hhave.symm

section wp

variable {c : Cursor}

/-- The keys of a known flag are read, or cut. -/
lemma wp_readKeyBundle (flag : X3DHKeyBundleFlag) (hc : c.InBounds) : wp (readKeyBundle A flag)
      (fun keys c' => ∃ bytes, keys.encoded = flag.value :: bytes ∧ Consumed c c' bytes)
      (fun (entries : List β) c' => entries = [] ∧ c'.InBounds ∧ ∃ haveOPk, flag = keysFlag haveOPk ∧
        (c.block.bytes.drop c.position).length < X3DH_peerBundle.ssize A haveOPk) c := by
  rw [readKeyBundle, wp_ite]
  refine ⟨fun hnone => ?_, fun hkeys => ?_⟩
  · rw [hnone]
    exact ⟨[], rfl, Consumed.refl hc⟩
  · have hflag : flag = keysFlag (decide (flag = .OPk)) := by
      cases flag
      · rfl
      · rfl
      · exact absurd rfl hkeys
    rw [wp_bind, wp_checkSize]
    refine ⟨fun hshort => ⟨rfl, hc, _, hflag, ?_⟩, fun hroom => ?_⟩
    · have hpos := ssize_pos A (decide (flag = .OPk))
      rw [length_drop]
      omega
    · refine wp_mono (wp_readKeys _ hc (not_lt.1 hroom)) (fun keys c' hread => ?_) (fun _ _ h => h)
      obtain ⟨bytes, hencoded, -, hconsumed⟩ := hread
      rw [← hflag] at hencoded
      exact ⟨bytes, hencoded, hconsumed⟩

lemma wp_readFlag {Q : X3DHKeyBundleFlag → Cursor → Prop} {E : List β → Cursor → Prop} : wp readFlag Q E c ↔
      (∀ flag, X3DHKeyBundleFlag.ofValue ((c.block.read c.position 1).headD 0) = some flag → Q flag (c.advance 1)) ∧
        (X3DHKeyBundleFlag.ofValue ((c.block.read c.position 1).headD 0) = none → E [] (c.advance 1)) := by
  rw [readFlag, wp_bind, wp_nextByte]
  cases X3DHKeyBundleFlag.ofValue ((c.block.read c.position 1).headD 0) with
  | none => simp
  | some flag => simp

/-- A turn reads the next bundle, or the body ends inside it, or its flag has no meaning. -/
lemma wp_readPeerBundle (hc : c.InBounds) :
    wp (readPeerBundle A) (fun bundle c' => Consumed c c' bundle.encoded)
      (fun (entries : List β) c' => entries = [] ∧ c'.InBounds ∧
        (Cut (X3DH_peerBundle.encoded (A := A)) 1 (c.block.bytes.drop c.position) ∨
          UnknownFlag (c.block.bytes.drop c.position))) c := by
  rw [readPeerBundle, wp_bind, wp_checkSize]
  refine ⟨fun hshort => ⟨rfl, hc, .inl (cut_of_size ?_)⟩, fun hroom => ?_⟩
  · rw [length_drop]
    omega
  rw [wp_bind, wp_nextWord16, wp_bind, wp_checkSize]
  have hsize := Consumed.advance 2 hc (not_lt.1 hroom)
  rw [← Block.be16_readWord16] at hsize
  generalize c.block.readWord16 c.position = size at hsize ⊢
  generalize hc₁ : c.advance 2 = c₁ at hsize ⊢
  refine ⟨fun hshort => ⟨rfl, hsize.inBounds, .inl ?_⟩, fun hroom' => ?_⟩
  · rw [hsize.drop]
    refine cut_of_deviceId ?_
    rw [hsize.block] at hshort
    rw [length_drop]
    omega
  rw [wp_bind, wp_nextBuf, wp_bind, wp_readFlag]
  have hid := Consumed.advance size.toNat hsize.inBounds (by omega)
  rw [← Block.toList_readBuf] at hid
  generalize c₁.block.readBuf c₁.position size.toNat = deviceId at hid ⊢
  have hflag := Consumed.advance 1 hid.inBounds (by simp at hroom' ⊢; omega)
  generalize c₁.advance size.toNat = c₂ at hid hflag ⊢
  have hone : c₂.block.read c₂.position 1 = [(c₂.block.read c₂.position 1).headD 0] := rfl
  rw [hone] at hflag
  generalize (c₂.block.read c₂.position 1).headD 0 = value at hflag ⊢
  have hhead := hsize.trans (hid.trans hflag)
  have hpeer := pushPeer_eq deviceId.toList_length
  have hle : deviceId.toList.length ≤ 0xFFFF :=
    deviceId.toList_length.trans_le (Nat.le_of_lt_succ size.toNat_lt)
  rw [← append_assoc, ← hpeer] at hhead
  have hrest : c.block.bytes.drop c.position =
      pushPeer deviceId.toList ++ value :: c.block.bytes.drop (c₂.advance 1).position := by
    rw [hhead.drop, append_assoc, singleton_append]
  refine ⟨fun flag hvalue => ?_, fun hvalue => ?_⟩
  · obtain rfl := value_of_ofValue hvalue
    rw [wp_bind]
    refine wp_mono (wp_readKeyBundle flag hflag.inBounds) (fun keys c₃ hread => ?_) (fun entries c₃ hcut => ?_)
    · obtain ⟨bytes, hkeys, hbytes⟩ := hread
      have hall := hhead.trans hbytes
      rw [append_assoc, singleton_append, ← hkeys] at hall
      exact hall
    · obtain ⟨rfl, hin, haveOPk, rfl, hlt⟩ := hcut
      refine ⟨rfl, hin, .inl ?_⟩
      rw [hhead.block] at hlt
      rw [hrest]
      exact cut_of_keys hle hlt
  · exact ⟨rfl, hflag.inBounds, .inr ⟨deviceId.toList, value, _, hle, hvalue, hrest⟩⟩

/-- A loop whose turns each read an entry, or find it cut or bad, reads the entries in order. The cursor has
room for the entries left. -/
lemma wp_readEntries {read : Parse β β} {write : β → Bytes} {bad : Bytes → Prop}
    (room : ℕ → Cursor → Prop) (hin : ∀ n c, room n c → c.InBounds)
    (hread : ∀ n c, room (n + 1) c → wp read (fun x c' => Consumed c c' (write x) ∧ room n c')
      (fun entries c' => entries = [] ∧ c'.InBounds ∧
        (Cut write 1 (c.block.bytes.drop c.position) ∨ bad (c.block.bytes.drop c.position))) c)
    (n : ℕ) (peersBundle : List β) (hc : room n c) : wp (readEntries read n peersBundle)
      (fun entries c' => ∃ xs, entries = peersBundle ++ xs ∧ xs.length = n ∧ Consumed c c' (xs.flatMap write))
      (fun entries c' => entries = [] ∧ c'.InBounds ∧
        (Cut write n (c.block.bytes.drop c.position) ∨ After write bad n (c.block.bytes.drop c.position))) c := by
  induction n generalizing peersBundle c with
  | zero => exact ⟨[], (append_nil _).symm, rfl, Consumed.refl (hin 0 c hc)⟩
  | succ n ih =>
    rw [readEntries, wp_bind]
    refine wp_mono (hread n c hc) (fun x c₁ hx => ?_) (fun entries c₁ hbad => ?_)
    · obtain ⟨hx, hroom⟩ := hx
      refine wp_mono (ih (peersBundle ++ [x]) hroom) (fun entries c₂ hxs => ?_) (fun entries c₂ hbad => ?_)
      · obtain ⟨xs, rfl, hlength, hxs⟩ := hxs
        exact ⟨x :: xs, by simp, congrArg Nat.succ hlength, hx.trans hxs⟩
      · obtain ⟨rfl, hc₂, hbad⟩ := hbad
        rw [hx.block] at hbad
        rw [hx.drop]
        exact ⟨rfl, hc₂, hbad.imp (Cut.cons x) (After.cons x)⟩
    · obtain ⟨rfl, hc₁, hbad⟩ := hbad
      exact ⟨rfl, hc₁, hbad.imp (Cut.of_one · n) (After.zero n)⟩

end wp

/-! ### Entries delimit themselves -/

lemma selfDelimited_SignedPreKey : SelfDelimited (SignedPreKey.encoded (A := A)) := by
  intro SPk SPk' rest rest' h
  obtain ⟨EC, KEM, Sig, Id⟩ := SPk
  obtain ⟨EC', KEM', Sig', Id'⟩ := SPk'
  simp only [SignedPreKey.encoded, append_assoc] at h
  obtain ⟨rfl, hKEM⟩ := selfDelimited_buf A.Xsize h
  obtain ⟨rfl, hId⟩ := selfDelimited_buf A.kPkSize hKEM
  obtain ⟨rfl, hSig⟩ := selfDelimited_be32 hId
  obtain ⟨rfl, hrest⟩ := selfDelimited_buf A.sigSize hSig
  exact ⟨rfl, hrest⟩

lemma selfDelimited_OneTimePreKey : SelfDelimited (OneTimePreKey.serializePublic (A := A)) := by
  intro OPk OPk' rest rest' h
  obtain ⟨EC, KEM, Id⟩ := OPk
  obtain ⟨EC', KEM', Id'⟩ := OPk'
  simp only [OneTimePreKey.serializePublic, append_assoc] at h
  obtain ⟨rfl, hKEM⟩ := selfDelimited_buf A.Xsize h
  obtain ⟨rfl, hId⟩ := selfDelimited_buf A.kPkSize hKEM
  obtain ⟨rfl, hrest⟩ := selfDelimited_be32 hId
  exact ⟨rfl, hrest⟩

lemma selfDelimited_KeyBundle : SelfDelimited (KeyBundle.encoded (A := A)) := by
  intro keys keys' rest rest' h
  cases keys <;> cases keys' <;> obtain ⟨hflag, hkeys⟩ := cons.inj h <;> try cases hflag
  case noBundle.noBundle => exact ⟨rfl, hkeys⟩
  case noOPk.noOPk Ik SPk Ik' SPk' =>
    simp only [append_eq, append_assoc] at hkeys
    obtain ⟨rfl, hSPk⟩ := selfDelimited_buf A.DSAsize hkeys
    obtain ⟨rfl, hrest⟩ := selfDelimited_SignedPreKey hSPk
    exact ⟨rfl, hrest⟩
  case OPk.OPk Ik SPk OPk Ik' SPk' OPk' =>
    simp only [append_eq, append_assoc] at hkeys
    obtain ⟨rfl, hSPk⟩ := selfDelimited_buf A.DSAsize hkeys
    obtain ⟨rfl, hOPk⟩ := selfDelimited_SignedPreKey hSPk
    obtain ⟨rfl, hrest⟩ := selfDelimited_OneTimePreKey hOPk
    exact ⟨rfl, hrest⟩

lemma pushPeer_append_inj {id id' rest rest' : Bytes} (hid : id.length ≤ 0xFFFF) (hid' : id'.length ≤ 0xFFFF)
    (h : pushPeer id ++ rest = pushPeer id' ++ rest') : id = id' ∧ rest = rest' := by
  simp only [pushPeer, pushSize_eq, append_assoc] at h
  obtain ⟨hsize, hids⟩ := append_inj h rfl
  exact append_inj hids (length_eq_of_ofNat_eq hid hid' (be16_injective hsize))

lemma selfDelimited_peerBundle : SelfDelimited (X3DH_peerBundle.encoded (A := A)) := by
  intro bundle bundle' rest rest' h
  obtain ⟨id, hid, keys⟩ := bundle
  obtain ⟨id', hid', keys'⟩ := bundle'
  simp only [X3DH_peerBundle.encoded, append_assoc] at h
  obtain ⟨rfl, hkeys⟩ := pushPeer_append_inj hid hid' h
  obtain ⟨rfl, hrest⟩ := selfDelimited_KeyBundle hkeys
  exact ⟨rfl, hrest⟩

lemma not_unknownFlag_encoded (bundle : X3DH_peerBundle A) (rest : Bytes) :
    ¬ UnknownFlag (bundle.encoded ++ rest) := by
  rintro ⟨id, flag, rest', hid, hflag, h⟩
  rw [X3DH_peerBundle.encoded, append_assoc] at h
  have hkeys := (pushPeer_append_inj bundle.length_deviceId hid h).2
  cases hcase : bundle.keys <;> rw [hcase] at hkeys <;>
    rw [← (cons.inj hkeys).1, ofValue_value] at hflag <;> cases hflag

lemma UnknownFlag.append {l : Bytes} (more : Bytes) (h : UnknownFlag l) : UnknownFlag (l ++ more) := by
  obtain ⟨id, flag, rest, hid, hflag, rfl⟩ := h
  exact ⟨id, flag, rest ++ more, hid, hflag, by rw [append_assoc, cons_append]⟩

/-! ### Whole messages -/

/-- The answer of a parser: the entries the body holds, or nothing when the body ends before them or goes on
with what is no entry. -/
structure AllOrNothing (write : β → Bytes) (bad : Bytes → Prop) (body : Bytes) (a : Answer β) :
    Prop where
  inBounds : a.cursor.InBounds
  entries_iff : ∀ entries, a.returned = true ∧ a.entries = entries ↔ Holds X3DH_headerSize write body entries
  refused_iff : a.returned = false ↔ EndsBefore X3DH_headerSize write body ∨ BadAfter X3DH_headerSize write bad body
  empty : a.returned = false → a.entries = []

section wp

variable {write : β → Bytes} {bad : Bytes → Prop} {body : Block}

def Parses (write : β → Bytes) (bad : Bytes → Prop) (body : Block) (parser : Parse β (List β)) : Prop :=
  wp parser (fun entries c => c.InBounds ∧ Holds X3DH_headerSize write body.bytes entries)
    (fun entries c => entries = [] ∧ c.InBounds ∧
      (EndsBefore X3DH_headerSize write body.bytes ∨ BadAfter X3DH_headerSize write bad body.bytes))
    (.start body X3DH_headerSize)

lemma Parses.allOrNothing {parser : Parse β (List β)} (hparses : Parses write bad body parser)
    (hwrite : SelfDelimited write) (hbad : ∀ x rest, ¬ bad (write x ++ rest)) :
    AllOrNothing write bad body.bytes (answer parser body) := by
  rw [Parses, wp] at hparses
  rw [answer]
  cases hrun : parser (.start body X3DH_headerSize) with
  | ok entries c =>
    rw [hrun] at hparses
    obtain ⟨hin, hholds⟩ := hparses
    have hnot : ¬ true = false := by decide
    refine ⟨hin, fun ys => ⟨?_, fun hys => ⟨rfl, hholds.unique hwrite hys⟩⟩, ⟨fun h => absurd h hnot, ?_⟩,
      fun h => absurd h hnot⟩
    · rintro ⟨-, rfl⟩
      exact hholds
    · intro hrefused
      exact (hrefused.elim (hholds.not_endsBefore hwrite) (hholds.not_badAfter hwrite hbad)).elim
  | error entries c =>
    rw [hrun] at hparses
    obtain ⟨hempty, hin, hrefused⟩ := hparses
    refine ⟨hin, fun ys => ⟨fun h => absurd h.1 Bool.false_ne_true, fun hys => ?_⟩, ⟨fun _ => hrefused, fun _ => rfl⟩,
      fun _ => hempty⟩
    exact (hrefused.elim (hys.not_endsBefore hwrite) (hys.not_badAfter hwrite hbad)).elim

/-- The number of entries is read, or the body ends before it. -/
lemma wp_count [Inhabited β] {parser : UInt16 → Parse β (List β)}
    (hparser : ∀ (count : UInt16) (c : Cursor), Consumed (.start body X3DH_headerSize) c (be16 count) →
      wp (parser count) (fun entries c' => c'.InBounds ∧ entries.length = count.toNat ∧
          ∃ rest, body.bytes.drop c.position = entries.flatMap write ++ rest)
        (fun entries c' => entries = [] ∧ c'.InBounds ∧ (Cut write count.toNat (body.bytes.drop c.position) ∨
          After write bad count.toNat (body.bytes.drop c.position))) c) :
    Parses write bad body (do
      checkSize 2
      let count ← nextWord16
      parser count) := by
  rw [Parses, wp_bind, wp_checkSize]
  refine ⟨fun hshort => ⟨rfl, Cursor.inBounds_start _ _, .inl (endsBefore_of_length_lt hshort)⟩, fun hroom => ?_⟩
  rw [wp_bind, wp_nextWord16]
  have hcount := Consumed.advance 2 (Cursor.inBounds_start body X3DH_headerSize) (not_lt.1 hroom)
  rw [← Block.be16_readWord16] at hcount
  generalize (Cursor.start body X3DH_headerSize).block.readWord16 _ = count at hcount ⊢
  generalize (Cursor.start body X3DH_headerSize).advance 2 = c at hcount ⊢
  have hn : count.toNat ≤ 0xFFFF := Nat.le_of_lt_succ count.toNat_lt
  have hheader : (body.bytes.take X3DH_headerSize).length = X3DH_headerSize := by
    simp at hroom
    rw [length_take]
    omega
  have hbody : body.bytes = body.bytes.take X3DH_headerSize ++
      (be16 (UInt16.ofNat count.toNat) ++ body.bytes.drop c.position) := by
    have hdrop : body.bytes.drop X3DH_headerSize = be16 count ++ body.bytes.drop c.position := hcount.drop
    rw [UInt16.ofNat_toNat, ← hdrop, take_append_drop]
  refine wp_mono (hparser count c hcount) (fun entries c' hread => ?_) (fun entries c' hrefused => ?_)
  · obtain ⟨hin, hlength, rest, hentries⟩ := hread
    refine ⟨hin, _, rest, hheader, hlength.trans_le hn, ?_⟩
    rw [Delimited.count, hlength, ← hentries]
    exact hbody
  · obtain ⟨hempty, hin, hrefused⟩ := hrefused
    rw [hbody]
    exact ⟨hempty, hin, hrefused.imp (endsBefore_of_cut hheader hn) fun h => ⟨_, _, _, hheader, hn, rfl, h⟩⟩

/-- The loop over the entries starts with an empty vector. -/
lemma wp_entries {read : Parse β β} {size : Bytes} {c : Cursor} {n : ℕ}
    (hcount : Consumed (.start body X3DH_headerSize) c size) (hloop : wp (readEntries read n [])
      (fun entries c' => ∃ xs, entries = [] ++ xs ∧ xs.length = n ∧ Consumed c c' (xs.flatMap write))
      (fun entries c' => entries = [] ∧ c'.InBounds ∧
        (Cut write n (c.block.bytes.drop c.position) ∨ After write bad n (c.block.bytes.drop c.position))) c) :
    wp (readEntries read n []) (fun entries c' => c'.InBounds ∧ entries.length = n ∧
        ∃ rest, body.bytes.drop c.position = entries.flatMap write ++ rest)
      (fun entries c' => entries = [] ∧ c'.InBounds ∧
        (Cut write n (body.bytes.drop c.position) ∨ After write bad n (body.bytes.drop c.position))) c := by
  have hblock : c.block = body := hcount.block
  rw [hblock] at hloop
  refine wp_mono hloop (fun entries c' hread => ?_) (fun _ _ h => h)
  obtain ⟨xs, rfl, hlength, hxs⟩ := hread
  have hdrop := hxs.drop
  rw [hblock] at hdrop
  exact ⟨hxs.inBounds, hlength, _, hdrop⟩

lemma parses_getPeerBundles (A : Curve) (body : Block) :
    Parses X3DH_peerBundle.encoded UnknownFlag body (parseMessage_getPeerBundles A) := by
  refine wp_count fun count c hcount => ?_
  have hloop := wp_readEntries (fun _ c => c.InBounds) (fun _ _ h => h)
    (fun n c hc => wp_mono (wp_readPeerBundle (A := A) hc) (fun x c' hx => ⟨hx, hx.inBounds⟩) (fun _ _ h => h))
    count.toNat [] hcount.inBounds
  exact wp_entries hcount hloop

def RoomForIds (n : ℕ) (c : Cursor) : Prop := c.InBounds ∧ c.position + 4 * n ≤ c.block.bytes.length

lemma wp_nextId {n : ℕ} {c : Cursor} {E : List UInt32 → Cursor → Prop} (hc : RoomForIds (n + 1) c) :
    wp nextWord32 (fun x c' => Consumed c c' (be32 x) ∧ RoomForIds n c') E c := by
  rw [wp_nextWord32]
  obtain ⟨hin, hroom⟩ := hc
  have hid := Consumed.advance 4 hin (by omega)
  rw [← Block.be32_readWord32] at hid
  refine ⟨hid, hid.inBounds, ?_⟩
  rw [Cursor.block_advance, Cursor.position_advance]
  omega

lemma parses_selfOPks (body : Block) : Parses be32 (fun _ => False) body parseMessage_selfOPks := by
  refine wp_count fun count c hcount => ?_
  rw [wp_bind, wp_checkSize]
  refine ⟨fun hshort => ⟨rfl, hcount.inBounds, .inl ?_⟩, fun hroom => ?_⟩
  · have hblock : c.block = body := hcount.block
    have hlength := congrArg length hcount.drop
    have hposition := hcount.position
    rw [hblock] at hshort
    refine cut_of_length_lt (fun _ => exists_be32) ?_
    simp only [length_drop, length_append, length_be16, Cursor.position_start, Cursor.block_start,
      X3DH_headerSize] at hlength hposition ⊢
    omega
  · exact wp_entries hcount (wp_readEntries RoomForIds (fun _ _ h => h.1) (fun n c hc => wp_nextId hc)
      count.toNat [] ⟨hcount.inBounds, not_lt.1 hroom⟩)

end wp

/-- The answers of the server are parsed all or nothing: bundles are refused when the body ends before them or
one has an unknown flag, ids only when the body ends before them. -/
theorem parse_all_or_nothing (A : Curve) (body : Block) :
    AllOrNothing X3DH_peerBundle.encoded UnknownFlag body.bytes (answer (parseMessage_getPeerBundles A) body) ∧
      AllOrNothing be32 (fun _ => False) body.bytes (answer parseMessage_selfOPks body) :=
  ⟨(parses_getPeerBundles A body).allOrNothing selfDelimited_peerBundle not_unknownFlag_encoded,
    (parses_selfOPks body).allOrNothing selfDelimited_be32 fun _ _ h => h⟩

/-- A bundle with the flag 3 is refused, whatever follows it. -/
theorem parse_unknown_flag : let body : Block := ⟨[1, 6, 1, 0, 1, 0, 0, 3], fun _ => 0⟩
    (answer (parseMessage_getPeerBundles .C255) body).returned = false ∧
      ¬ EndsBefore X3DH_headerSize (X3DH_peerBundle.encoded (A := .C255)) body.bytes := by
  have hflag : UnknownFlag [0, 0, 3] := ⟨[], 3, [], Nat.zero_le _, rfl, rfl⟩
  have hbad : BadAfter X3DH_headerSize (X3DH_peerBundle.encoded (A := .C255)) UnknownFlag [1, 6, 1, 0, 1, 0, 0, 3] :=
    ⟨[1, 6, 1], 1, [0, 0, 3], rfl, by decide, rfl, [], _, Nat.one_pos, rfl, hflag⟩
  exact ⟨rfl, hbad.not_endsBefore selfDelimited_peerBundle not_unknownFlag_encoded fun _ more h => h.append more⟩

end x3dh_protocol

end Lime
