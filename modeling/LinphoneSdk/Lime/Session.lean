import LinphoneSdk.Lime.Protocol

/-!
# Double Ratchet sessions

The class `DRi`: its state variables, its constructors, the symmetric and asymmetric ratchets and
the header writer. What the source does in place is a function from sessions to sessions; a random
choice or the current time is an argument.
-/

namespace Lime

open Bytes

variable {A : Curve} {C : Crypto A}

/-! ### State variables -/

/-- What differs between a session and its row in the local storage. -/
inductive DRSessionDbStatus where
  | clean
  | dirtyEncrypt
  | dirtyDecrypt
  | dirtyRatchetReceiving
  | dirtyKemRatchetReceiving
  | dirtyRatchetSending
  | dirty
  deriving DecidableEq, Repr

structure ReceiverKeyChain (C : Crypto A) where
  DHrIndex : Bytes
  messageKeys : List (UInt16 × C.MessageKey)

structure Session (C : Crypto A) where
  DHr : ARrKey A
  /-- `m_DHr_valid`: a peer key was received. -/
  DHrValid : Bool
  DHs : ARsKey C
  /-- Force a KEM ratchet on the first answer of a session created on reception. -/
  forceKEMRatchet : Bool
  /-- The peer KEM key was not yet used to update the sending chain. -/
  peerKEMPkAvailable : Bool
  /-- The peer holds our current KEM key. -/
  peerHasSelfKEMPk : Bool
  /-- The peer EC key was not yet used to update the sending chain. -/
  peerECPkAvailable : Bool
  KEMRatchetChainSize : UInt32
  lastKEMRatchetEpoch : ℤ
  RK : C.ChainKey
  CKs : C.ChainKey
  CKr : C.ChainKey
  Ns : UInt16
  Nr : UInt16
  PN : UInt16
  sharedAD : Buf settings.DRSessionSharedADSize
  /-- Message keys derived during the on-going decryption. -/
  mkskipped : List (ReceiverKeyChain C)
  /-- Row in the local storage, `0` when there is none. -/
  dbSessionId : ℕ
  /-- Chain of the stored message key used by the on-going decryption. -/
  usedDHid : Option Bytes
  usedNr : UInt16
  /-- OPk to delete when the session is first stored, `0` when there is none. -/
  usedOPkId : UInt32
  dirty : DRSessionDbStatus
  /-- Peer device in the local storage, `0` when it is not there. -/
  peerDid : ℕ
  peerDeviceId : Bytes
  peerIk : Buf A.DSAsize
  dbUid : ℕ
  activeStatus : Bool
  X3DHInitMessage : Bytes

/-! ### Key derivation -/

def KDF_RK (RK : C.ChainKey) (dhOut : C.ECSecret) : C.ChainKey × C.ChainKey :=
  C.hkdf RK (.ec dhOut)

def KEM_KDF_RK (RK : C.ChainKey) (dhOut : C.ECSecret) (kemOut : C.KEMSecret)
    (ECPkSender ECPkReceiver : Buf A.Xsize) (KEMPk : Buf A.kPkSize) (KEMCt : Buf A.kCtSize) :
    C.ChainKey × C.ChainKey :=
  C.hkdf RK (.kem dhOut kemOut ECPkSender ECPkReceiver KEMPk KEMCt)

def hkdfCkInfo : UInt8 := 0x02

def hkdfMkInfo : UInt8 := 0x01

/-- The KEM version of the derivation appends the index in the chain to the constant. -/
def chainLabel (A : Curve) (info : UInt8) (chainIndex : UInt16) : Bytes :=
  if A.isKEM then info :: be16 chainIndex else [info]

def KDF_CK (CK : C.ChainKey) (chainIndex : UInt16) : C.ChainKey × C.MessageKey :=
  (C.hmacCK CK (chainLabel A hkdfCkInfo chainIndex), C.hmacMK CK (chainLabel A hkdfMkInfo chainIndex))

/-! ### Constructors -/

/-- The random choices of one asymmetric ratchet step. -/
structure Randomness (C : Crypto A) where
  ec : C.ECPrivate
  kem : C.KEMPrivate
  encaps : C.KEMRandom

namespace Session

def initSender (SK : C.ChainKey) (AD : Buf settings.DRSessionSharedADSize) (peerPublicKey : ARrKey A)
    (peerDid : ℕ) (peerDeviceId : Bytes) (peerIk : Buf A.DSAsize) (selfDid : ℕ)
    (X3DHInitMessage : Bytes) (rnd : Randomness C) : Session C :=
  let selfPublic := C.ecPublic rnd.ec
  let dhOut := C.ecShared rnd.ec peerPublicKey.ec
  let encaps := C.encaps peerPublicKey.kem rnd.encaps
  let keys := if A.isKEM then
      KEM_KDF_RK SK dhOut encaps.2 selfPublic peerPublicKey.ec peerPublicKey.kem encaps.1
    else KDF_RK SK dhOut
  { DHr := peerPublicKey
    DHrValid := true
    DHs := ⟨selfPublic, rnd.ec, C.kemPublic rnd.kem, rnd.kem, encaps.1⟩
    forceKEMRatchet := false
    peerKEMPkAvailable := false
    peerHasSelfKEMPk := false
    peerECPkAvailable := false
    KEMRatchetChainSize := 0
    lastKEMRatchetEpoch := 0
    RK := keys.1
    CKs := keys.2
    CKr := C.zeroKey
    Ns := 0
    Nr := 0
    PN := 0
    sharedAD := AD
    mkskipped := []
    dbSessionId := 0
    usedDHid := none
    usedNr := 0
    usedOPkId := 0
    dirty := .dirty
    peerDid := peerDid
    peerDeviceId := peerDeviceId
    peerIk := if peerDid = 0 then peerIk else zeros _
    dbUid := selfDid
    activeStatus := true
    X3DHInitMessage := X3DHInitMessage }

def initReceiver (SK : C.ChainKey) (AD : Buf settings.DRSessionSharedADSize) (selfKeyPair : ARsKey C)
    (peerDid : ℕ) (peerDeviceId : Bytes) (OPk_id : UInt32) (peerIk : Buf A.DSAsize) (selfDid : ℕ) : Session C where
  DHr := .zero
  DHrValid := false
  DHs := selfKeyPair
  forceKEMRatchet := true
  peerKEMPkAvailable := true
  peerHasSelfKEMPk := false
  peerECPkAvailable := true
  KEMRatchetChainSize := 0
  lastKEMRatchetEpoch := 0
  RK := SK
  CKs := C.zeroKey
  CKr := C.zeroKey
  Ns := 0
  Nr := 0
  PN := 0
  sharedAD := AD
  mkskipped := []
  dbSessionId := 0
  usedDHid := none
  usedNr := 0
  usedOPkId := OPk_id
  dirty := .dirty
  peerDid := peerDid
  peerDeviceId := peerDeviceId
  peerIk := if peerDid = 0 then peerIk else zeros _
  dbUid := selfDid
  activeStatus := true
  X3DHInitMessage := []

/-! ### Asymmetric ratchets -/

/-- Receiving ratchet, elliptic curve version. -/
def asymmetricRatchetReceivingEC (DHr : ARrKey A) (s : Session C) : Session C :=
  let keys := KDF_RK s.RK (C.ecShared s.DHs.ecPrivate DHr.ec)
  { s with
    Nr := 0
    KEMRatchetChainSize := 0
    DHr := DHr
    peerECPkAvailable := true
    RK := keys.1
    CKr := keys.2
    dirty := .dirtyRatchetReceiving }

/-- Receiving ratchet of the EC/KEM version on a header with KEM indexes: the KEM part of the peer
key is kept. -/
def asymmetricRatchetReceivingIndex (ECDHr : Buf A.Xsize) (s : Session C) : Session C :=
  let keys := KDF_RK s.RK (C.ecShared s.DHs.ecPrivate ECDHr)
  { s with
    Nr := 0
    DHr := s.DHr.setECPk ECDHr
    peerECPkAvailable := true
    RK := keys.1
    CKr := keys.2
    dirty := .dirtyRatchetReceiving }

/-- Receiving ratchet of the EC/KEM version on a header with the whole peer keys. -/
def asymmetricRatchetReceivingKEM (DHr : ARrKey A) (s : Session C) : Session C :=
  let keys := KEM_KDF_RK s.RK (C.ecShared s.DHs.ecPrivate DHr.ec) (C.decaps s.DHs.kemPrivate DHr.ct)
    DHr.ec s.DHs.ecPublic s.DHs.kemPublic DHr.ct
  { s with
    Nr := 0
    DHr := DHr
    peerKEMPkAvailable := true
    peerHasSelfKEMPk := true
    KEMRatchetChainSize := 0
    peerECPkAvailable := true
    RK := keys.1
    CKr := keys.2
    dirty := .dirtyKemRatchetReceiving }

def asymmetricRatchetReceiving (header : DRHeader A) (s : Session C) : Session C :=
  match header.keys with
  | .index ECDHr _ _ => s.asymmetricRatchetReceivingIndex ECDHr
  | .full DHr =>
    if A.isKEM then s.asymmetricRatchetReceivingKEM DHr else s.asymmetricRatchetReceivingEC DHr

/-- Shall the sending ratchet mix in a KEM secret? -/
def KEMRatchet (s : Session C) (now : ℤ) : Bool :=
  s.peerKEMPkAvailable && (decide (s.KEMRatchetChainSize > settings.KEMRatchetChainSize)
    || decide (now - s.lastKEMRatchetEpoch > settings.maxKEMRatchetChainPeriod) || s.forceKEMRatchet)

/-- Sending ratchet, elliptic curve version. -/
def asymmetricRatchetSendingEC (rnd : Randomness C) (s : Session C) : Session C :=
  let keys := KDF_RK s.RK (C.ecShared rnd.ec s.DHr.ec)
  { s with
    PN := s.Ns
    Ns := 0
    KEMRatchetChainSize := 0
    RK := keys.1
    CKs := keys.2
    DHs := s.DHs.setEC (C.ecPublic rnd.ec) rnd.ec
    dirty := .dirtyRatchetSending
    peerECPkAvailable := false }

/-- Sending ratchet of the EC/KEM version, on the elliptic curve only. -/
def asymmetricRatchetSendingIndex (rnd : Randomness C) (s : Session C) : Session C :=
  let keys := KDF_RK s.RK (C.ecShared rnd.ec s.DHr.ec)
  { s with
    PN := s.Ns
    Ns := 0
    RK := keys.1
    CKs := keys.2
    DHs := s.DHs.setEC (C.ecPublic rnd.ec) rnd.ec
    dirty := .dirtyRatchetSending
    peerECPkAvailable := false }

def asymmetricRatchetSendingKEM (rnd : Randomness C) (s : Session C) : Session C :=
  let encaps := C.encaps s.DHr.kem rnd.encaps
  let keys := KEM_KDF_RK s.RK (C.ecShared rnd.ec s.DHr.ec) encaps.2 (C.ecPublic rnd.ec) s.DHr.ec
    s.DHr.kem encaps.1
  { s with
    PN := s.Ns
    Ns := 0
    RK := keys.1
    CKs := keys.2
    DHs := ⟨C.ecPublic rnd.ec, rnd.ec, C.kemPublic rnd.kem, rnd.kem, encaps.1⟩
    peerHasSelfKEMPk := false
    peerKEMPkAvailable := false
    forceKEMRatchet := false
    dirty := .dirtyRatchetSending
    peerECPkAvailable := false }

/-- Sending ratchet, with a fresh key pair. -/
def asymmetricRatchetSending (rnd : Randomness C) (now : ℤ) (s : Session C) : Session C :=
  if A.isKEM then
    if s.KEMRatchet now then s.asymmetricRatchetSendingKEM rnd
    else s.asymmetricRatchetSendingIndex rnd
  else s.asymmetricRatchetSendingEC rnd

/-- The loop of `skipMessageKeys`: derive `n` message keys of the receiving chain. -/
def deriveSkipped : ℕ → Session C → List (UInt16 × C.MessageKey) × Session C
  | 0, s => ([], s)
  | n + 1, s =>
    let keys := KDF_CK s.CKr s.Nr
    let r := deriveSkipped n
      { s with CKr := keys.1, Nr := s.Nr + 1, KEMRatchetChainSize := s.KEMRatchetChainSize + 1 }
    ((s.Nr, keys.2) :: r.1, r.2)

/-- Derive the receiving chain until message `untilNr`, keeping the message keys; `none` when this
takes more than `limit` derivations. -/
def skipMessageKeys (untilNr : UInt16) (limit : ℤ) (s : Session C) : Option (Session C) :=
  if s.Nr = untilNr then some s
  else if (s.Nr.toNat : ℤ) + limit < untilNr.toNat then none
  else
    let r := s.deriveSkipped (untilNr.toNat - s.Nr.toNat)
    some { r.2 with mkskipped := r.2.mkskipped ++ [⟨s.DHr.getIndex C, r.1⟩] }

/-! ### Header -/

def writesIndex (s : Session C) : Bool := A.isKEM && s.peerHasSelfKEMPk

/-- The keys part of the header. -/
def writeDRheaderKeys (s : Session C) : Bytes :=
  if s.writesIndex then
    s.DHs.ecPublic.toList ++ (s.DHs.getKEMIndex.toList ++ (s.DHr.getKEMIndex C).toList)
  else s.DHs.serializePublic

def writeDRheader (payloadDirectEncryption : Bool) (s : Session C) : Bytes :=
  DR_v01 :: messageTypeOf payloadDirectEncryption s.writesIndex (!s.X3DHInitMessage.isEmpty) ::
    A.curveId :: (s.X3DHInitMessage ++ (be16 s.Ns ++ (be16 s.PN ++ s.writeDRheaderKeys)))

end Session

end Lime
