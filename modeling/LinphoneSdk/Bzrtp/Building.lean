import LinphoneSdk.Bzrtp.Messages
import LinphoneSdk.Lib.Reading

/-!
# Building ZRTP messages

The contents that `bzrtp_packetBuild` writes after the header of a message, from what the message
holds. The Hello, Commit and DHPart messages end with a MAC keyed by a hash of the chain of their
sender that a later message reveals; a Confirm message is encrypted with the keys of the channel.
-/

namespace Bzrtp

open Bytes Chunks Reading

/-! ### Hash chain -/

/-- The hashes of a side (`selfH`): H0 is drawn, each other one is the hash of the one before. -/
structure HashChain where
  H0 : Buf 32
  deriving DecidableEq

namespace HashChain

variable (P : Primitives)

def H1 (h : HashChain) : Buf 32 := sha256 P h.H0.toList

def H2 (h : HashChain) : Buf 32 := sha256 P (h.H1 P).toList

def H3 (h : HashChain) : Buf 32 := sha256 P (h.H2 P).toList

end HashChain

/-! ### Contents -/

inductive BuilderError where
  | INVALIDMESSAGE
  | INVALIDCONTEXT
  /-- Not an exit code: a call through a null pointer is undefined in the source. -/
  | UNDEFINED
  deriving DecidableEq, Repr

/-- One bit of a byte. -/
def flagBit (flag : Bool) (shift : UInt8) : UInt8 := (if flag then 1 else 0) <<< shift

/-- Two counts of four bits. -/
def countsByte (high low : Bytes) : UInt8 :=
  ((high.length.toUInt8 <<< 4) &&& 0xF0) ||| (low.length.toUInt8 &&& 0x0F)

def typeBlocks (algoTypes : Bytes) : Bytes := (algoTypes.map cryptoAlgoTypeIntToString).flatten

def helloBody (m : HelloMessage) : Bytes :=
  m.version.toList ++ m.clientIdentifier.toList ++ m.H3.toList ++ m.ZID.toList ++
    [(flagBit m.S 6 ||| flagBit m.M 5 ||| flagBit m.P 4) &&& 0x70, m.supportedHash.length.toUInt8 &&& 0x0F,
      countsByte m.supportedCipher m.supportedAuthTag,
      countsByte m.supportedKeyAgreement m.supportedSas] ++
    typeBlocks m.supportedHash ++ typeBlocks m.supportedCipher ++ typeBlocks m.supportedAuthTag ++
    typeBlocks m.supportedKeyAgreement ++ typeBlocks m.supportedSas

/-- The plain text of a Confirm message; the bytes after the signature block are those of `outside`. -/
def confirmPlainText (outside : ℕ → UInt8) (m : ConfirmMessage) : Bytes :=
  m.H0.toList ++ ([0x00, (m.sig_len >>> 8).toUInt8 &&& 0x01, m.sig_len.toUInt8,
      flagBit m.E 3 ||| flagBit m.V 2 ||| flagBit m.A 1 ||| flagBit m.D 0] : Bytes) ++
    be32 m.cacheExpirationInterval ++
    if m.sig_len > 0 then
      m.signatureBlockType.toList ++ (⟨m.signatureBlock.getD [], outside⟩ : Block).read 0 (4 * (m.sig_len.toNat - 1))
    else []

section contents

variable (P : CipherPrimitives) (outside : ℕ → UInt8)

def commitVariable (m : CommitMessage) : Bytes :=
  if m.keyAgreementAlgo = ZRTP_KEYAGREEMENT_Prsh ∨ m.keyAgreementAlgo = ZRTP_KEYAGREEMENT_Mult then
    m.nonce.toList ++ if m.keyAgreementAlgo = ZRTP_KEYAGREEMENT_Prsh then m.keyID.toList else []
  else
    m.hvi.toList ++ if isKem m.keyAgreementAlgo then
        (⟨m.pv.getD [], outside⟩ : Block).read 0
          (computeKeyAgreementPublicValueLength P.toPrimitives m.keyAgreementAlgo .commit).toNat
      else []

def commitBody (m : CommitMessage) : Bytes :=
  m.H2.toList ++ m.ZID.toList ++ cryptoAlgoTypeIntToString m.hashAlgo ++
    cryptoAlgoTypeIntToString m.cipherAlgo ++ cryptoAlgoTypeIntToString m.authTagAlgo ++
    cryptoAlgoTypeIntToString m.keyAgreementAlgo ++ cryptoAlgoTypeIntToString m.sasAlgo ++
    commitVariable P outside m

/-- A public value shorter than the one of the channel is read past its end. -/
def dhPartBody (pvLength : UInt16) (m : DHPartMessage) : Bytes :=
  m.H1.toList ++ m.rs1ID.toList ++ m.rs2ID.toList ++ m.auxsecretID.toList ++ m.pbxsecretID.toList ++
    (⟨m.pv, outside⟩ : Block).read 0 pvLength.toNat

/-- Put the MAC at the end of a message. It covers the header, which gives the length with the MAC. -/
def withMAC (key : Buf 32) (t : MessageType) (body : Bytes) : Bytes :=
  let messageLength := (ZRTP_MESSAGE_HEADER_LENGTH + body.length + 8).toUInt16
  body ++ (bufAt (P.hmacFunction .S256 key.toList (messageHeader messageLength t ++ body) 8) 0 8).toList

/-- The keys a side builds its Confirm message with: the key of the cipher, the one of the MAC. -/
def buildKeys (ch : ParserContext) : Option (Bytes × Bytes) :=
  match ch.role with
  | .initiator => ch.zrtpkeyi.bind fun key => ch.mackeyi.map fun macKey => (key, macKey)
  | .responder => ch.zrtpkeyr.bind fun key => ch.mackeyr.map fun macKey => (key, macKey)

/-- MAC, initialisation vector, cipher text. -/
def confirmContent (ch : ParserContext) (m : ConfirmMessage) : Except BuilderError Bytes :=
  match buildKeys ch with
  | none => .error .INVALIDCONTEXT
  | some (key, macKey) =>
    match ch.algos.cipherEncryptionFunction, ch.algos.hmacFunction with
    | some cipher, some hash =>
      let plainText := confirmPlainText outside m
      let cipherText := (P.cipherEncryption cipher key m.CFBIV plainText).takeD plainText.length 0
      let confirm_mac := bufAt
        (P.hmacFunction hash (macKey.take ch.algos.hashLength.toNat) cipherText 8) 0 8
      .ok (confirm_mac.toList ++ m.CFBIV.toList ++ cipherText)
    | _, _ => .error .UNDEFINED

/-- What follows the header of a message. -/
def messageContent (ch : ParserContext) (selfH : HashChain) (t : MessageType) (data : MessageData) :
    Except BuilderError Bytes :=
  match t, data with
  | .hello, .hello m => .ok (withMAC P (selfH.H2 P.toPrimitives) t (helloBody m))
  | .commit, .commit m =>
    if computeCommitMessageVariableLength P.toPrimitives m.keyAgreementAlgo = 0 then
      .error .INVALIDMESSAGE
    else .ok (withMAC P (selfH.H1 P.toPrimitives) t (commitBody P outside m))
  | .DHPart1, .dhPart m | .DHPart2, .dhPart m =>
    let pvLength := computeKeyAgreementPublicValueLength P.toPrimitives ch.algos.keyAgreementAlgo t
    if pvLength = 0 then .error .INVALIDCONTEXT
    else .ok (withMAC P selfH.H0 t (dhPartBody outside pvLength m))
  | .confirm1, .confirm m | .confirm2, .confirm m => confirmContent P outside ch m
  | .goClear, .goClear clear_mac => .ok clear_mac.toList
  | .helloACK, .empty | .conf2ACK, .empty | .clearACK, .empty => .ok []
  | _, _ => .error .INVALIDMESSAGE

variable {outside}

lemma messageContent_DHPart1 (ch : ParserContext) (selfH : HashChain) (m : DHPartMessage) :
    messageContent P outside ch selfH .DHPart1 (.dhPart m) =
      if computeKeyAgreementPublicValueLength P.toPrimitives ch.algos.keyAgreementAlgo .DHPart1 = 0 then
        .error .INVALIDCONTEXT else .ok (withMAC P selfH.H0 .DHPart1 (dhPartBody outside
        (computeKeyAgreementPublicValueLength P.toPrimitives ch.algos.keyAgreementAlgo .DHPart1) m)) := rfl

lemma messageContent_confirm2 (ch : ParserContext) (selfH : HashChain) (m : ConfirmMessage) :
    messageContent P outside ch selfH .confirm2 (.confirm m) = confirmContent P outside ch m := rfl

end contents

end Bzrtp
