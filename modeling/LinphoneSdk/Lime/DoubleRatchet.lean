import LinphoneSdk.Lime.Storage

/-!
# `ratchetEncrypt` and `ratchetDecrypt`

The two operations of the Double Ratchet interface. A decryption that answers `false` returns
`none`; one that raises keeps the changes made to the session before the exception, as the source
does.
-/

namespace Lime

open Bytes Exec

variable {A : Curve} {C : Crypto A}

/-! ### Encryption -/

namespace Session

/-- Mark the session and perform the sending ratchet when a peer key is available. -/
def prepareSending (rnd : Randomness C) (now : ℤ) (s : Session C) : Session C :=
  let s := { s with dirty := .dirtyEncrypt }
  if s.peerECPkAvailable then s.asymmetricRatchetSending rnd now else s

/-- Derive the sending chain and count the message. -/
def advanceSending (s : Session C) : Session C :=
  { s with
    CKs := (KDF_CK s.CKs s.Ns).1
    Ns := s.Ns + 1
    KEMRatchetChainSize := s.KEMRatchetChainSize + 1 }

/-- A sending chain that reached its maximum makes the session inactive. -/
def checkSendingChain (s : Session C) : Session C :=
  if s.Ns ≥ settings.maxSendingChain then { s with activeStatus := false } else s

def sealMessage (plaintext AD : Bytes) (payloadDirectEncryption : Bool) (s : Session C) : Bytes :=
  let header := s.writeDRheader payloadDirectEncryption
  let c := C.AEAD_encrypt (KDF_CK s.CKs s.Ns).2 plaintext (AD ++ (s.sharedAD.toList ++ header))
  header ++ (c.1 ++ c.2.toList)

end Session

def ratchetEncrypt (rnd : Randomness C) (now : ℤ) (plaintext AD : Bytes)
    (payloadDirectEncryption : Bool) : DRM C Bytes := do
  modifySession (Session.prepareSending rnd now)
  let message := (← getSession).sealMessage plaintext AD payloadDirectEncryption
  modifySession Session.advanceSending
  extCall .AEADEncrypt
  modifySession Session.checkSendingChain
  sessionSave now false
  modifySession fun s => { s with dirty := .clean }
  return message

/-! ### Decryption -/

/-- The AEAD wrapper: the size of the plain text is computed on unsigned integers, and a negative one
makes the resize of the output raise. -/
def decrypt (MK : C.MessageKey) (ciphertext : Bytes) (headerSize : ℕ) (AD : Bytes) : DRM C (Option Bytes) :=
  if ciphertext.length < headerSize + settings.DRMessageAuthTagSize then throw .std
  else
    let size := ciphertext.length - headerSize - settings.DRMessageAuthTagSize
    return C.AEAD_decrypt MK ((ciphertext.drop headerSize).take size) AD
      (ciphertext.drop (ciphertext.length - settings.DRMessageAuthTagSize))

/-- `skipMessageKeys` on the session in memory. -/
def skipKeys (untilNr : UInt16) (limit : ℤ) : DRM C PUnit := do
  match (← getSession).skipMessageKeys untilNr limit with
  | none => throw .bctbx
  | some s => modifySession fun _ => s

def lookForStoredMessageKey (header : DRHeader A) : DRM C (Option C.MessageKey) := do
  match ← trySkippedMessageKeys header.Ns (header.getDHrIndex C) with
  | some MK => return some MK
  | none =>
    -- old deployments indexed the chains by the key itself
    match header.keys with
    | .full DHr =>
      if A.isKEM then return none else trySkippedMessageKeys header.Ns DHr.ec.toList
    | .index _ _ _ => return none

def decryptStored (now : ℤ) (MK : C.MessageKey) (ciphertext : Bytes) (headerSize : ℕ)
    (DRAD : Bytes) : DRM C (Option Bytes) := do
  match ← decrypt MK ciphertext headerSize DRAD with
  | none => return none
  | some plaintext =>
    sessionSave now true
    modifySession fun s =>
      { s with dirty := .clean, usedDHid := none, usedNr := 0, X3DHInitMessage := [] }
    return some plaintext

namespace Session

/-- Derive the receiving chain and count the message. -/
def advanceReceiving (s : Session C) : Session C :=
  { s with
    CKr := (KDF_CK s.CKr s.Nr).1
    Nr := s.Nr + 1
    KEMRatchetChainSize := s.KEMRatchetChainSize + 1 }

def confirmKEMPk (header : DRHeader A) (s : Session C) : Session C :=
  if header.isDHsIndex s.DHs then { s with peerHasSelfKEMPk := true } else s

end Session

def decryptOnChain (now : ℤ) (header : DRHeader A) (maxAllowedDerivation : ℤ)
    (ciphertext DRAD : Bytes) : DRM C (Option Bytes) := do
  skipKeys header.Ns maxAllowedDerivation
  let s ← getSession
  modifySession Session.advanceReceiving
  match ← decrypt (KDF_CK s.CKr s.Nr).2 ciphertext header.size DRAD with
  | none => return none
  | some plaintext =>
    sessionSave now true
    modifySession fun s => { s with dirty := .clean, mkskipped := [], X3DHInitMessage := [] }
    return some plaintext

/-- Decrypt on the chain of the header: a chain that is not the current one starts with an asymmetric
ratchet, after the end of the current one was skipped. -/
def decryptOnHeaderChain (now : ℤ) (header : DRHeader A) (asymmetricRatchet : Bool)
    (ciphertext DRAD : Bytes) : DRM C (Option Bytes) := do
  if asymmetricRatchet then
    let s ← getSession
    let maxAllowedDerivation : ℤ := settings.maxMessageSkip - (header.PN.toNat - s.Nr.toNat)
    skipKeys header.PN (settings.maxMessageSkip - header.Ns.toNat)
    modifySession (Session.asymmetricRatchetReceiving header)
    decryptOnChain now header maxAllowedDerivation ciphertext DRAD
  else decryptOnChain now header settings.maxMessageSkip ciphertext DRAD

/-- Decryption in a session that already received a peer key. -/
def decryptValid (now : ℤ) (header : DRHeader A) (ciphertext DRAD : Bytes) :
    DRM C (Option Bytes) := do
  let s ← getSession
  let onCurrentChain := header.isDHr C s.DHr
  modifySession (Session.confirmKEMPk header)
  if onCurrentChain ∧ header.Ns ≥ s.Nr then
    decryptOnHeaderChain now header false ciphertext DRAD
  else
    match ← lookForStoredMessageKey header with
    | some MK => decryptStored now MK ciphertext header.size DRAD
    | none => decryptOnHeaderChain now header (!onCurrentChain) ciphertext DRAD

/-- Associated data of a received message. -/
def receivedAD (s : Session C) (header : DRHeader A) (ciphertext AD : Bytes) : Bytes :=
  AD ++ (s.sharedAD.toList ++ ciphertext.take header.size)

def ratchetDecrypt (now : ℤ) (ciphertext AD : Bytes) (payloadDirectEncryption : Bool) :
    DRM C (Option Bytes) := do
  match DRHeader.parse A ciphertext with
  | none => throw .bctbx
  | some header =>
    if payloadDirectEncryption ≠ header.payloadDirectEncryption then throw .bctbx
    let s ← getSession
    let DRAD := receivedAD s header ciphertext AD
    modifySession fun s => { s with dirty := .dirtyDecrypt }
    if s.DHrValid then decryptValid now header ciphertext DRAD
    else
      modifySession fun s => { s.asymmetricRatchetReceiving header with DHrValid := true }
      decryptOnChain now header settings.maxMessageSkip ciphertext DRAD

end Lime
