import LinphoneSdk.Bzrtp.Messages
import LinphoneSdk.Lib.Reading

/-!
# Parsing ZRTP messages

`bzrtp_packetParser`, which reads the content of a message that `bzrtp_packetCheck` accepted, checks
the messages received before with what this one reveals, and keeps the packet. The length of the
packet is only checked by `bzrtp_packetCheck`: a message is read as long as it says it is.
-/

namespace Bzrtp

open Bytes Chunks Exec Reading

abbrev Parse (α : Type) : Type := EStateM ParserError Cursor α

/-- Bit of a byte. -/
def flagAt (x : UInt8) (shift : UInt8) : Bool := (x >>> shift) &&& 1 = 1

/-- A length of at most 7 types, in four bits. -/
def typesCount (x : UInt8) : ℕ := min (x &&& 0x0F).toNat 7

/-! ### Hello -/

/-- The lists of a Hello message, of these lengths. -/
def parseTypes (hc cc ac kc sc : ℕ) : Parse CryptoTypes := do
  let supportedHash ← nextWords hc
  let supportedCipher ← nextWords cc
  let supportedAuthTag ← nextWords ac
  let supportedKeyAgreement ← nextWords kc
  let supportedSas ← nextWords sc
  pure
    { supportedHash := CryptoTypes.readTypes .hash supportedHash
      supportedCipher := CryptoTypes.readTypes .cipherBlock supportedCipher
      supportedAuthTag := CryptoTypes.readTypes .authTag supportedAuthTag
      supportedKeyAgreement := CryptoTypes.readTypes .keyAgreement supportedKeyAgreement
      supportedSas := CryptoTypes.readTypes .sas supportedSas }

section parsers

variable (P : CipherPrimitives) (ch : ParserContext) (zrtpPacket : Packet)

/-- The length of the Hello message to hash; a negative one is a huge one on 64 bits. -/
def helloHashLength (inputLength : ℕ) : ℕ := (inputLength + (2 ^ 64 - ZRTP_PACKET_OVERHEAD)) % 2 ^ 64

def checkHelloHash : Parse Unit := do
  match ch.peerHelloHash with
  | none => pure ()
  | some peerHelloHash =>
    let c ← get
    let message ← peek ZRTP_PACKET_HEADER_LENGTH (helloHashLength c.block.bytes.length)
    if sha256 P.toPrimitives message ≠ peerHelloHash then throw .HELLOHASH_MISMATCH

def parseHelloContent : Parse HelloMessage := do
  let version ← nextBuf 4
  let clientIdentifier ← nextBuf 16
  let H3 ← nextBuf 32
  let ZID ← nextBuf 12
  let flags ← nextByte
  let hc := typesCount (← nextByte)
  let ccac ← nextByte
  let cc := typesCount (ccac >>> 4)
  let ac := typesCount ccac
  let kcsc ← nextByte
  let kc := typesCount (kcsc >>> 4)
  let sc := typesCount kcsc
  if zrtpPacket.messageLength.toNat ≠
      ZRTP_HELLOMESSAGE_FIXED_LENGTH + 4 * (hc + cc + ac + kc + sc) then throw .INVALIDMESSAGE
  let supported ← parseTypes hc cc ac kc sc
  let MAC ← nextBuf 8
  pure
    { toCryptoTypes := supported
      version := version
      clientIdentifier := clientIdentifier
      H3 := H3
      ZID := ZID
      S := flagAt flags 6
      M := flagAt flags 5
      P := flagAt flags 4
      MAC := MAC }

def parseHello : Parse HelloMessage := do
  checkHelloHash P ch
  parseHelloContent zrtpPacket

def parseHelloACK : Parse Unit := do
  if zrtpPacket.messageLength.toNat ≠ ZRTP_HELLOACKMESSAGE_FIXED_LENGTH then throw .INVALIDMESSAGE

/-! ### Commit -/

def nextAlgo (t : AlgoType) : Parse UInt8 := (cryptoAlgoTypeStringToInt · t) <$> next 4

/-- The end of a Commit message: a nonce without Diffie-Hellman, or the hvi, and the public key of a
KEM. -/
def parseCommitVariable (message : CommitMessage) : Parse CommitMessage := do
  let keyAgreementAlgo := message.keyAgreementAlgo
  if keyAgreementAlgo = ZRTP_KEYAGREEMENT_Prsh ∨ keyAgreementAlgo = ZRTP_KEYAGREEMENT_Mult then
    let nonce ← nextBuf 16
    if keyAgreementAlgo = ZRTP_KEYAGREEMENT_Prsh then
      let keyID ← nextBuf 8
      pure { message with nonce := nonce, keyID := keyID }
    else pure { message with nonce := nonce }
  else
    let hvi ← nextBuf 32
    if isKem keyAgreementAlgo then
      let pv ← next (computeKeyAgreementPublicValueLength P.toPrimitives keyAgreementAlgo .commit).toNat
      pure { message with hvi := hvi, pv := some pv }
    else pure { message with hvi := hvi }

def parseCommit : Parse CommitMessage := do
  let H2 ← nextBuf 32
  ofExcept (checkHello P.toPrimitives ch H2)
  let ZID ← nextBuf 12
  let hashAlgo ← nextAlgo .hash
  let cipherAlgo ← nextAlgo .cipherBlock
  let authTagAlgo ← nextAlgo .authTag
  let keyAgreementAlgo ← nextAlgo .keyAgreement
  let variableLength := computeCommitMessageVariableLength P.toPrimitives keyAgreementAlgo
  if variableLength = 0 then throw .INVALIDMESSAGE
  if zrtpPacket.messageLength.toNat ≠ ZRTP_COMMITMESSAGE_FIXED_LENGTH + variableLength.toNat then
    throw .INVALIDMESSAGE
  let sasAlgo ← nextAlgo .sas
  let message ← parseCommitVariable P
    { H2 := H2
      ZID := ZID
      hashAlgo := hashAlgo
      cipherAlgo := cipherAlgo
      authTagAlgo := authTagAlgo
      keyAgreementAlgo := keyAgreementAlgo
      sasAlgo := sasAlgo
      nonce := zeros 16
      keyID := zeros 8
      hvi := zeros 32
      pv := none
      MAC := zeros 8 }
  let MAC ← nextBuf 8
  pure { message with MAC := MAC }

def parseDHPart : Parse DHPartMessage := do
  let pvLength := computeKeyAgreementPublicValueLength P.toPrimitives ch.algos.keyAgreementAlgo
    zrtpPacket.messageType
  if pvLength = 0 then throw .INVALIDCONTEXT
  if zrtpPacket.messageLength.toNat ≠ ZRTP_DHPARTMESSAGE_FIXED_LENGTH + pvLength.toNat then
    throw .INVALIDMESSAGE
  let H1 ← nextBuf 32
  ofExcept (checkH1 P.toPrimitives ch H1)
  if ch.role = .responder then
    let message ← peek ZRTP_PACKET_HEADER_LENGTH zrtpPacket.messageLength.toNat
    ofExcept (checkHvi P.toPrimitives ch message)
  let rs1ID ← nextBuf 8
  let rs2ID ← nextBuf 8
  let auxsecretID ← nextBuf 8
  let pbxsecretID ← nextBuf 8
  let pv ← next pvLength.toNat
  let MAC ← nextBuf 8
  pure
    { H1 := H1
      rs1ID := rs1ID
      rs2ID := rs2ID
      auxsecretID := auxsecretID
      pbxsecretID := pbxsecretID
      pv := pv
      MAC := MAC }

/-! ### Confirm -/

def confirmKeys : Option (Bytes × Bytes) :=
  match ch.role with
  | .responder => ch.zrtpkeyi.bind fun key => ch.mackeyi.map fun macKey => (key, macKey)
  | .initiator => ch.zrtpkeyr.bind fun key => ch.mackeyr.map fun macKey => (key, macKey)

def cipherTextLength (messageLength : UInt16) : UInt16 :=
  messageLength - ZRTP_MESSAGE_HEADER_LENGTH.toUInt16 - 24

def confirmMAC (macKey cipherText : Bytes) : Buf 8 :=
  -- a call through a null pointer is undefined in the source
  bufAt (ch.algos.hmacFunction.elim [] fun hash => P.hmacFunction hash
    (macKey.take ch.algos.hashLength.toNat) cipherText 8) 0 8

/-- The plain text of a Confirm message, in a block of the size of the cipher text. -/
def confirmPlain (key : Bytes) (CFBIV : Buf 16) (cipherText : Bytes) : Bytes :=
  (ch.algos.cipherDecryptionFunction.elim [] fun cipher =>
    P.cipherDecryption cipher key CFBIV cipherText).takeD cipherText.length 0

/-- The part of a Confirm message before the cipher text, and the plain text. -/
def openConfirm : Parse (Buf 8 × Buf 16 × Bytes) := do
  match confirmKeys ch with
  | none => throw .INVALIDCONTEXT
  | some (key, macKey) =>
    let confirm_mac ← nextBuf 8
    let CFBIV ← nextBuf 16
    let cipherText ← next (cipherTextLength zrtpPacket.messageLength).toNat
    if confirmMAC P ch macKey cipherText ≠ confirm_mac then throw .UNMATCHINGCONFIRMMAC
    pure (confirm_mac, CFBIV, confirmPlain P ch key CFBIV cipherText)

def parsePlain (confirm_mac : Buf 8) (CFBIV : Buf 16) : Parse ConfirmMessage := do
  let H0 ← nextBuf 32
  -- the next byte is unused
  skip 1
  ofExcept (checkH0 P.toPrimitives ch H0)
  let sigLength ← nextByte
  let sigLength' ← nextByte
  let flags ← nextByte
  let cacheExpirationInterval ← next 4
  let sig_len := word16 (sigLength &&& 0x01) sigLength'
  let message : ConfirmMessage :=
    { confirm_mac := confirm_mac
      CFBIV := CFBIV
      H0 := H0
      sig_len := sig_len
      E := flagAt flags 3
      V := flagAt flags 2
      A := flagAt flags 1
      D := flagAt flags 0
      cacheExpirationInterval := be32At cacheExpirationInterval 0
      signatureBlockType := zeros 4
      signatureBlock := none }
  if sig_len > 0 then
    let signatureBlockType ← nextBuf 4
    let signatureBlock ← next (4 * (sig_len.toNat - 1))
    pure { message with signatureBlockType := signatureBlockType, signatureBlock := some signatureBlock }
  else pure message

/-! ### The parser -/

/-- Result of the parser, with the cursors on the packet and on the plain text of a Confirm message. -/
structure Parsed where
  result : Except ParserError MessageData
  input : Cursor
  plain : Option Cursor

/-- The outcome of a routine that reads the packet only. -/
def Parsed.ofRun {α : Type} (toData : α → MessageData) (r : EStateM.Result ParserError Cursor α) : Parsed :=
  match r with
  | .ok message c => ⟨.ok (toData message), c, none⟩
  | .error e c => ⟨.error e, c, none⟩

/-- A Confirm message. The bytes after the block of the plain text are those of `outside`. -/
def parseConfirm (outside : ℕ → UInt8) (c : Cursor) : Parsed :=
  match openConfirm P ch zrtpPacket c with
  | .error e c => ⟨.error e, c, none⟩
  | .ok (confirm_mac, CFBIV, plain) c =>
    match parsePlain P ch confirm_mac CFBIV (.start ⟨plain, outside⟩ 0) with
    | .ok message c' => ⟨.ok (.confirm message), c, some c'⟩
    | .error e c' => ⟨.error e, c, some c'⟩

def packetParser (outside : ℕ → UInt8) (input : Block) : Parsed :=
  let c := Cursor.start input (ZRTP_PACKET_HEADER_LENGTH + ZRTP_MESSAGE_HEADER_LENGTH)
  match zrtpPacket.messageType with
  | .hello => .ofRun .hello (parseHello P ch zrtpPacket c)
  | .helloACK => .ofRun (fun _ => .empty) (parseHelloACK zrtpPacket c)
  | .commit => .ofRun .commit (parseCommit P ch zrtpPacket c)
  | .DHPart1 | .DHPart2 => .ofRun .dhPart (parseDHPart P ch zrtpPacket c)
  | .confirm1 | .confirm2 => parseConfirm P ch zrtpPacket outside c
  | .goClear => .ofRun .goClear ((nextBuf 8 : Parse (Buf 8)) c)
  | .ping => .ofRun (fun m => .ping m.1 m.2) (((do
      let version ← nextBuf 4
      let endpointHash ← nextBuf 8
      pure (version, endpointHash)) : Parse (Buf 4 × Buf 8)) c)
  | _ => ⟨.ok .empty, c, none⟩

end parsers

end Bzrtp
