import LinphoneSdk.Lime.Keys

/-!
# The Double Ratchet packet format

Version 1 of the protocol:

  version<1> || message type<1> || curveId<1> || [X3DH init] || Ns<2> || PN<2> || keys

where the keys are either the whole sender public keys, or its elliptic curve key followed by the
KEM indexes of both sides. `DRHeader.parse` is the constructor of the class `DRHeader`: an invalid
header is `none`.
-/

namespace Lime

open Bytes

/-! ### Message type -/

def DR_v01 : UInt8 := 0x01

namespace DRMessageType

def X3DHInitFlag : UInt8 := 0x01

def payloadDirectEncryptionFlag : UInt8 := 0x02

def KEMPkIndex : UInt8 := 0x04

end DRMessageType

def hasFlag (messageType flag : UInt8) : Bool := messageType &&& flag != 0

def messageTypeOf (payloadDirectEncryption KEMPkIndex X3DHInit : Bool) : UInt8 :=
  (if payloadDirectEncryption then DRMessageType.payloadDirectEncryptionFlag else 0) |||
    (if KEMPkIndex then DRMessageType.KEMPkIndex else 0) |||
    (if X3DHInit then DRMessageType.X3DHInitFlag else 0)

@[simp] lemma hasFlag_payload (p k x : Bool) :
    hasFlag (messageTypeOf p k x) DRMessageType.payloadDirectEncryptionFlag = p := by
  cases p <;> cases k <;> cases x <;> rfl

@[simp] lemma hasFlag_KEMPkIndex (p k x : Bool) : hasFlag (messageTypeOf p k x) DRMessageType.KEMPkIndex = k := by
  cases p <;> cases k <;> cases x <;> rfl

@[simp] lemma hasFlag_X3DHInit (p k x : Bool) : hasFlag (messageTypeOf p k x) DRMessageType.X3DHInitFlag = x := by
  cases p <;> cases k <;> cases x <;> rfl

/-- Size of the header without the optional X3DH init message. -/
def headerSize (A : Curve) (messageType : UInt8) : ℕ :=
  if hasFlag messageType DRMessageType.KEMPkIndex then 7 + A.Xsize + 2 * settings.DRPkIndexSize
  else 7 + ARrKey.serializedSize A

/-- Size of the X3DH init message. -/
def X3DHinitSize (A : Curve) (haveOPk : Bool) : ℕ :=
  1 + A.DSAsize + A.Xsize + A.kCtSize + 4 + (if haveOPk then 4 else 0)

/-! ### X3DH init message -/

structure X3DHInit (A : Curve) where
  Ik : Buf A.DSAsize
  Ek : Buf A.Xsize
  Ct : Buf A.kCtSize
  SPk_id : UInt32
  OPk_id : UInt32
  OPk_flag : Bool

def buildMessageX3DHinit {A : Curve} (m : X3DHInit A) : Bytes :=
  (if m.OPk_flag then 1 else 0) :: (m.Ik.toList ++ (m.Ek.toList ++ (m.Ct.toList ++
    (be32 m.SPk_id ++ (if m.OPk_flag then be32 m.OPk_id else [])))))

/-- The output parameter `OPk_id` keeps its value when the message holds no OPk. -/
def parseMessageX3DHinit (A : Curve) (message : Bytes) (OPk_id : UInt32) : X3DHInit A :=
  let OPk_flag := message.getD 0 0 == 1
  let iEk := 1 + A.DSAsize
  let iCt := iEk + A.Xsize
  let iSPk := iCt + A.kCtSize
  { Ik := bufAt message 1 _
    Ek := bufAt message iEk _
    Ct := bufAt message iCt _
    SPk_id := be32At message iSPk
    OPk_id := if OPk_flag then be32At message (iSPk + 4) else OPk_id
    OPk_flag := OPk_flag }

/-- Extract the X3DH init message, if any, from a Double Ratchet message. -/
def parseMessageGetX3DHinit (A : Curve) (message : Bytes) : Option Bytes :=
  let messageType := message.getD 1 0
  if message.length < 3 ∨ message.length < headerSize A messageType then none
  else if message.getD 0 0 ≠ DR_v01 then none
  else if message.getD 2 0 ≠ A.curveId ∨ ¬ hasFlag messageType DRMessageType.X3DHInitFlag then none
  else
    let initSize := X3DHinitSize A (message.getD 3 0 == 1)
    if message.length < initSize + headerSize A messageType then none
    else some ((message.drop 3).take initSize)

/-! ### Header -/

inductive HeaderKeys (A : Curve) where
  /-- The whole set of public keys. -/
  | full (DHr : ARrKey A)
  /-- An elliptic curve key, the index of the peer KEM key and the index of the self KEM key. -/
  | index (ECDHr : Buf A.Xsize) (KEMDHrIndex KEMDHsIndex : Buf settings.DRPkIndexSize)
  deriving DecidableEq

structure DRHeader (A : Curve) where
  Ns : UInt16
  PN : UInt16
  keys : HeaderKeys A
  size : ℕ
  payloadDirectEncryption : Bool
  deriving DecidableEq

namespace DRHeader

variable {A : Curve}

def parse (A : Curve) (header : Bytes) : Option (DRHeader A) :=
  let messageType := header.getD 1 0
  if header.length < 3 ∨ header.length < headerSize A messageType then none
  else if header.getD 0 0 ≠ DR_v01 then none
  else if header.getD 2 0 ≠ A.curveId then none
  else
    let initSize := if hasFlag messageType DRMessageType.X3DHInitFlag then
      X3DHinitSize A (header.getD 3 0 == 1) else 0
    let size := headerSize A messageType + initSize
    let index := 3 + initSize
    if header.length < size then none
    else some
      { Ns := be16At header index
        PN := be16At header (index + 2)
        -- the elliptic curve version of the class reads its key whatever the KEM flag is
        keys := if A.isKEM && hasFlag messageType DRMessageType.KEMPkIndex then
            .index (bufAt header (index + 4) _) (bufAt header (index + 4 + A.Xsize) _)
              (bufAt header (index + 4 + A.Xsize + settings.DRPkIndexSize) _)
          else .full (ARrKey.unserializeAt header (index + 4))
        size := size
        payloadDirectEncryption :=
          hasFlag messageType DRMessageType.payloadDirectEncryptionFlag }

def isDHr (C : Crypto A) (h : DRHeader A) (DHr : ARrKey A) : Bool :=
  match h.keys with
  | .full k => DHr = k
  | .index ec r _ => DHr.ec = ec && DHr.getKEMIndex C = r

def isDHsIndex {C : Crypto A} (h : DRHeader A) (DHs : ARsKey C) : Bool :=
  match h.keys with
  | .full _ => false
  | .index _ _ s => DHs.getKEMIndex = s

/-- Index of the chain in the local storage. -/
def getDHrIndex (C : Crypto A) (h : DRHeader A) : Bytes :=
  match h.keys with
  | .full k => k.getIndex C
  | .index ec r _ => (C.hashIndex ec.toList).toList ++ r.toList

end DRHeader

end Lime
