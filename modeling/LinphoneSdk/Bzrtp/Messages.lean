import LinphoneSdk.Bzrtp.CryptoAgreement
import LinphoneSdk.Bzrtp.RetainedSecrets

/-!
# ZRTP messages

The contents of the messages, as `bzrtp_packetParser` fills them, the lengths that depend on the key
agreement, and what a channel holds to check the messages of its peer: its hash chain is revealed from
H3, in the Hello message, to H0, in the Confirm one, and each hash is the key of the MAC of the message
before.
-/

namespace Bzrtp

open Bytes Chunks

/-! ### Contents -/

structure HelloMessage extends CryptoTypes where
  version : Buf 4
  clientIdentifier : Buf 16
  H3 : Buf 32
  ZID : Buf 12
  S : Bool
  M : Bool
  P : Bool
  MAC : Buf 8
  deriving DecidableEq

/-- The fields that a key agreement does not use are zero. -/
structure CommitMessage where
  H2 : Buf 32
  ZID : Buf 12
  hashAlgo : UInt8
  cipherAlgo : UInt8
  authTagAlgo : UInt8
  keyAgreementAlgo : UInt8
  sasAlgo : UInt8
  nonce : Buf 16
  keyID : Buf 8
  hvi : Buf 32
  pv : Option Bytes
  MAC : Buf 8
  deriving DecidableEq

structure DHPartMessage extends SecretIDs where
  H1 : Buf 32
  pv : Bytes
  MAC : Buf 8
  deriving DecidableEq

structure ConfirmMessage where
  confirm_mac : Buf 8
  CFBIV : Buf 16
  H0 : Buf 32
  /-- Length of the signature with its type, in 32-bit words. -/
  sig_len : UInt16
  E : Bool
  V : Bool
  A : Bool
  D : Bool
  cacheExpirationInterval : UInt32
  signatureBlockType : Buf 4
  signatureBlock : Option Bytes
  deriving DecidableEq

inductive MessageData where
  | hello (message : HelloMessage)
  | commit (message : CommitMessage)
  | dhPart (message : DHPartMessage)
  | confirm (message : ConfirmMessage)
  | goClear (clear_mac : Buf 8)
  | ping (version : Buf 4) (endpointHash : Buf 8)
  /-- The other messages have no content, or none that is read. -/
  | empty
  deriving DecidableEq

/-! ### Lengths -/

def ZRTP_MESSAGE_HEADER_LENGTH : ℕ := 12

def ZRTP_HELLOMESSAGE_FIXED_LENGTH : ℕ := 88

def ZRTP_HELLOACKMESSAGE_FIXED_LENGTH : ℕ := 12

def ZRTP_COMMITMESSAGE_FIXED_LENGTH : ℕ := 84

def ZRTP_DHPARTMESSAGE_FIXED_LENGTH : ℕ := 84

def ZRTP_KEMPART2_NONCE_SIZE : UInt16 := 16

/-- The key agreements based on a KEM. -/
def kemAlgos : List (UInt8 × KEMAlgo) :=
  [(ZRTP_KEYAGREEMENT_MLK1, .MLK1), (ZRTP_KEYAGREEMENT_MLK2, .MLK2), (ZRTP_KEYAGREEMENT_MLK3, .MLK3),
    (ZRTP_KEYAGREEMENT_KYB1, .KYB1), (ZRTP_KEYAGREEMENT_KYB2, .KYB2), (ZRTP_KEYAGREEMENT_KYB3, .KYB3),
    (ZRTP_KEYAGREEMENT_HQC1, .HQC1), (ZRTP_KEYAGREEMENT_HQC2, .HQC2), (ZRTP_KEYAGREEMENT_HQC3, .HQC3),
    (ZRTP_KEYAGREEMENT_K255, .K255), (ZRTP_KEYAGREEMENT_K448, .K448),
    (ZRTP_KEYAGREEMENT_K255_KYB512, .K255_KYB512), (ZRTP_KEYAGREEMENT_K255_MLK512, .K255_MLK512),
    (ZRTP_KEYAGREEMENT_K255_HQC128, .K255_HQC128), (ZRTP_KEYAGREEMENT_K448_KYB1024, .K448_KYB1024),
    (ZRTP_KEYAGREEMENT_K448_MLK1024, .K448_MLK1024), (ZRTP_KEYAGREEMENT_K448_HQC256, .K448_HQC256),
    (ZRTP_KEYAGREEMENT_K255_KYB512_HQC128, .K255_KYB512_HQC128),
    (ZRTP_KEYAGREEMENT_K448_KYB1024_HQC256, .K448_KYB1024_HQC256)]

def kemOf (keyAgreementAlgo : UInt8) : Option KEMAlgo := kemAlgos.lookup keyAgreementAlgo

def isKem (keyAgreementAlgo : UInt8) : Bool := (kemOf keyAgreementAlgo).isSome

/-- Padding to a whole number of 32-bit words. -/
def padToWord (length : UInt16) : UInt16 :=
  if length % 4 ≠ 0 then length + (4 - length % 4) else length

section lengths

variable (P : Primitives)

def getKEMPublicKeyLength (keyAgreementAlgo : UInt8) : UInt16 :=
  (kemOf keyAgreementAlgo).elim 0 fun algo => (P.getPkSize algo).toUInt16

def getKEMCipherTextLength (keyAgreementAlgo : UInt8) : UInt16 :=
  (kemOf keyAgreementAlgo).elim 0 fun algo => (P.getCtSize algo).toUInt16

def computeKeyAgreementPublicValueLength (keyAgreementAlgo : UInt8) (messageType : MessageType) : UInt16 :=
  if keyAgreementAlgo = ZRTP_KEYAGREEMENT_DH3k then 384
  else if keyAgreementAlgo = ZRTP_KEYAGREEMENT_DH2k then 256
  else if keyAgreementAlgo = ZRTP_KEYAGREEMENT_X255 then 32
  else if keyAgreementAlgo = ZRTP_KEYAGREEMENT_X448 then 56
  else if keyAgreementAlgo = ZRTP_KEYAGREEMENT_EC25 then 64
  else if keyAgreementAlgo = ZRTP_KEYAGREEMENT_EC38 then 96
  else if keyAgreementAlgo = ZRTP_KEYAGREEMENT_EC52 then 132
  else
    match messageType with
    | .commit => padToWord (getKEMPublicKeyLength P keyAgreementAlgo)
    | .DHPart1 => padToWord (getKEMCipherTextLength P keyAgreementAlgo)
    -- an invalid algorithm passes too
    | .DHPart2 => ZRTP_KEMPART2_NONCE_SIZE
    | _ => 0

/-- Length of the part of a Commit message that depends on the key agreement, zero for an unknown
one. -/
def computeCommitMessageVariableLength (keyAgreementAlgo : UInt8) : UInt16 :=
  if keyAgreementAlgo = ZRTP_KEYAGREEMENT_Prsh then 24
  else if keyAgreementAlgo = ZRTP_KEYAGREEMENT_Mult then 16
  else if isKem keyAgreementAlgo then 32 + padToWord (getKEMPublicKeyLength P keyAgreementAlgo)
  else if keyAgreementAlgo ∈ [ZRTP_KEYAGREEMENT_DH2k, ZRTP_KEYAGREEMENT_X255, ZRTP_KEYAGREEMENT_X448,
      ZRTP_KEYAGREEMENT_EC25, ZRTP_KEYAGREEMENT_DH3k, ZRTP_KEYAGREEMENT_EC38, ZRTP_KEYAGREEMENT_EC52]
    then 32
  else 0

end lengths

structure CipherPrimitives extends Primitives where
  /-- Key, initialisation vector, plain text. -/
  cipherEncryption : CipherAlgo → Bytes → Buf 16 → Bytes → Bytes
  /-- Key, initialisation vector, cipher text. -/
  cipherDecryption : CipherAlgo → Bytes → Buf 16 → Bytes → Bytes

/-! ### Stored messages -/

/-- A packet that was parsed, or built. -/
structure ZrtpPacket (α : Type) extends Packet where
  messageData : α
  packetString : Bytes
  deriving DecidableEq

def ZrtpPacket.message {α : Type} (packet : ZrtpPacket α) : Bytes :=
  segment packet.packetString ZRTP_PACKET_HEADER_LENGTH packet.messageLength.toNat

structure ParserContext where
  peerHelloHash : Option (Buf 32)
  role : Role
  algos : ChannelAlgos
  mackeyi : Option Bytes
  mackeyr : Option Bytes
  zrtpkeyi : Option Bytes
  zrtpkeyr : Option Bytes
  peerHello : Option (ZrtpPacket HelloMessage)
  peerCommit : Option (ZrtpPacket CommitMessage)
  peerDHPart : Option (ZrtpPacket DHPartMessage)
  /-- Built when the channel is initialised. -/
  selfHello : ZrtpPacket HelloMessage

inductive ParserError where
  | HELLOHASH_MISMATCH
  | INVALIDCONTEXT
  | INVALIDMESSAGE
  | UNEXPECTEDMESSAGE
  | UNMATCHINGHASHCHAIN
  | UNMATCHINGMAC
  | UNMATCHINGHVI
  | UNMATCHINGCONFIRMMAC
  deriving DecidableEq, Repr

/-! ### Checks on the stored messages -/

section checks

variable (P : Primitives)

def sha256 (input : Bytes) : Buf 32 := bufAt (P.hashFunction .S256 input 32) 0 32

/-- The MAC of the message of a packet, over all of it but the MAC. -/
def messageMAC {α : Type} (key : Buf 32) (packet : ZrtpPacket α) : Buf 8 :=
  bufAt (P.hmacFunction .S256 key.toList
    (segment packet.packetString ZRTP_PACKET_HEADER_LENGTH (packet.messageLength.toNat - 8)) 8) 0 8

variable (ch : ParserContext)

/-- H2 is revealed: check the chain to H3 and the MAC of the Hello message of the peer. -/
def checkHello (H2 : Buf 32) : Except ParserError Unit :=
  match ch.peerHello with
  | none => .error .UNEXPECTEDMESSAGE
  | some hello =>
    if sha256 P H2.toList ≠ hello.messageData.H3 then .error .UNMATCHINGHASHCHAIN
    else if messageMAC P H2 hello ≠ hello.messageData.MAC then .error .UNMATCHINGMAC
    else .ok ()

/-- H1 is revealed: check the chain to H2 and the MAC of the Commit message of the peer. -/
def checkCommit (H1 : Buf 32) : Except ParserError Unit :=
  match ch.peerCommit with
  | none => .error .UNEXPECTEDMESSAGE
  | some commit =>
    if sha256 P H1.toList ≠ commit.messageData.H2 then .error .UNMATCHINGHASHCHAIN
    else if messageMAC P H1 commit ≠ commit.messageData.MAC then .error .UNMATCHINGMAC
    else .ok ()

/-- H0 is revealed: check the chain to H1 and the MAC of the DHPart message of the peer. -/
def checkDHPart (H0 : Buf 32) : Except ParserError Unit :=
  match ch.peerDHPart with
  | none => .error .UNEXPECTEDMESSAGE
  | some dhPart =>
    if sha256 P H0.toList ≠ dhPart.messageData.H1 then .error .UNMATCHINGHASHCHAIN
    else if messageMAC P H0 dhPart ≠ dhPart.messageData.MAC then .error .UNMATCHINGMAC
    else .ok ()

/-- The value that binds the Commit message to the DHPart2 message and to the Hello message of the
responder, with the hash of the channel. -/
def computeHvi (hashFunction : Option HashAlgo) (dhPart2 hello : Bytes) : Buf 32 :=
  -- a call through a null pointer is undefined in the source
  bufAt (hashFunction.elim [] fun hash => P.hashFunction hash (dhPart2 ++ hello) 32) 0 32

/-- The DHPart2 message is there: check the hvi of the Commit message of the peer. -/
def checkHvi (dhPart2 : Bytes) : Except ParserError Unit :=
  match ch.peerCommit with
  | none => .error .UNEXPECTEDMESSAGE
  | some commit =>
    if computeHvi P ch.algos.hashFunction dhPart2 ch.selfHello.message ≠ commit.messageData.hvi then
      .error .UNMATCHINGHVI
    else .ok ()

def checkH1 (H1 : Buf 32) : Except ParserError Unit :=
  match ch.role with
  | .responder => checkCommit P ch H1
  -- there is no Commit message of the peer, hence no H2
  | .initiator => checkHello P ch (sha256 P H1.toList)

def checkH0 (H0 : Buf 32) : Except ParserError Unit :=
  if ch.algos.keyAgreementAlgo = ZRTP_KEYAGREEMENT_Prsh ∨ ch.algos.keyAgreementAlgo = ZRTP_KEYAGREEMENT_Mult then
    -- there is no DHPart message, hence no H1
    checkH1 P ch (sha256 P H0.toList)
  else checkDHPart P ch H0

end checks

end Bzrtp
