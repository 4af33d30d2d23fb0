import LinphoneSdk.Bzrtp.Packet

/-!
# Key derivation

What each side of a ZRTP exchange computes once the messages are exchanged: `s0`, the key derivation
context and the ZRTP session key in DHM mode (`bzrtp_computeS0DHMMode`) or in Multistream mode
(`bzrtp_computeS0MultiStreamMode`), then the keys of the channel (`bzrtp_deriveKeysFromS0`,
`bzrtp_deriveSrtpKeysFromS0`). Each role takes its own branch to put the messages and the
identifiers in order.

Hash functions, key agreements and KEMs come from libraries outside the repository: they are the
fields of `Primitives`, with the word lists of the SAS.
-/

namespace Bzrtp

open Bytes Chunks

/-! ### Algorithms -/

inductive HashAlgo where
  | S256
  | S384
  | S512
  deriving DecidableEq, Repr

def HashAlgo.hashLength : HashAlgo → UInt8
  | .S256 => 32
  | .S384 => 48
  | .S512 => 64

inductive CipherAlgo where
  | AES1
  | AES3
  deriving DecidableEq, Repr

def CipherAlgo.cipherKeyLength : CipherAlgo → UInt8
  | .AES1 => 16
  | .AES3 => 32

inductive AuthTagAlgo where
  | HS32
  | HS80
  | SK32
  | SK64
  | GCM
  deriving DecidableEq, Repr

/-- Key agreements based on a KEM. -/
inductive KEMAlgo where
  | K255
  | K448
  | MLK1
  | MLK2
  | MLK3
  | KYB1
  | KYB2
  | KYB3
  | HQC1
  | HQC2
  | HQC3
  | K255_KYB512
  | K255_MLK512
  | K255_HQC128
  | K448_KYB1024
  | K448_MLK1024
  | K448_HQC256
  | K255_KYB512_HQC128
  | K448_KYB1024_HQC256
  deriving DecidableEq, Repr

/-- Is the KEM a combination of several ones? -/
def KEMAlgo.isHybrid : KEMAlgo → Bool
  | .K255_KYB512 | .K255_MLK512 | .K255_HQC128 | .K448_KYB1024 | .K448_MLK1024 | .K448_HQC256
  | .K255_KYB512_HQC128 | .K448_KYB1024_HQC256 => true
  | .K255 | .K448 | .MLK1 | .MLK2 | .MLK3 | .KYB1 | .KYB2 | .KYB3 | .HQC1 | .HQC2 | .HQC3 => false

/-- Diffie-Hellman groups and curves. -/
inductive DHAlgo where
  | DH2k
  | DH3k
  | X255
  | X448
  deriving DecidableEq, Repr

/-- Length of the public values; the shared secrets have the same one. -/
def DHAlgo.publicValueLength : DHAlgo → ℕ
  | .DH2k => 256
  | .DH3k => 384
  | .X255 => 32
  | .X448 => 56

inductive KeyAgreementAlgo where
  | dh (algo : DHAlgo)
  | kem (algo : KEMAlgo)
  | Prsh
  | Mult
  deriving DecidableEq, Repr

inductive SasAlgo where
  | B32
  | B256
  deriving DecidableEq, Repr

/-- The algorithms negotiated for a channel. -/
structure Algos where
  hash : HashAlgo
  cipher : CipherAlgo
  authTag : AuthTagAlgo
  keyAgreement : KeyAgreementAlgo
  sas : SasAlgo
  deriving DecidableEq, Repr

/-! ### Primitives -/

structure Primitives where
  /-- Input, output length. -/
  hashFunction : HashAlgo → Bytes → UInt8 → Bytes
  /-- Key, input, output length. -/
  hmacFunction : HashAlgo → Bytes → Bytes → UInt8 → Bytes
  DHSecret : Type
  publicValue : DHAlgo → DHSecret → Bytes
  /-- Self secret, peer public value. -/
  computeSecret : DHAlgo → DHSecret → Bytes → Bytes
  KEMSecret : Type
  KEMRandom : Type
  getPublicKey : KEMAlgo → KEMSecret → Bytes
  /-- Cipher text and shared secret, from a public key. The hybrid ones use the hash. -/
  encaps : KEMAlgo → HashAlgo → Bytes → KEMRandom → Bytes × Bytes
  decaps : KEMAlgo → HashAlgo → KEMSecret → Bytes → Bytes
  getPkSize : KEMAlgo → ℕ
  getCtSize : KEMAlgo → ℕ
  kSsSize : KEMAlgo → ℕ
  pgpWordsEven : UInt8 → Bytes
  pgpWordsOdd : UInt8 → Bytes

/-- Functional correctness of the key agreements. -/
structure Primitives.Correct (P : Primitives) : Prop where
  computeSecret_comm : ∀ algo a b, P.computeSecret algo a (P.publicValue algo b) =
    P.computeSecret algo b (P.publicValue algo a)
  decaps_encaps : ∀ algo hash sk r, P.decaps algo hash sk
    (P.encaps algo hash (P.getPublicKey algo sk) r).1 = (P.encaps algo hash (P.getPublicKey algo sk) r).2

variable (P : Primitives)

def keyDerivationFunction (hash : HashAlgo) (key label context : Bytes) (hmacLength : UInt8) : Bytes :=
  -- the length is in bits, in big-endian
  let input := be32 0x00000001 ++ label ++ 0x00 :: context ++ ([0, 0, hmacLength >>> 5, hmacLength <<< 3] : Bytes)
  P.hmacFunction hash key input hmacLength

/-! ### Contexts -/

inductive Role where
  | initiator
  | responder
  deriving DecidableEq, Repr

/-- The secrets retained from previous exchanges, as kept after the check of the peer's ones. -/
structure CachedSecret where
  rs1 : Option Bytes
  rs2 : Option Bytes
  auxsecret : Option Bytes
  pbxsecret : Option Bytes

inductive KeyAgreementContext (P : Primitives) where
  | DH (secret : P.DHSecret)
  /-- The key pair of the initiator. -/
  | KEMKeyPair (secret : P.KEMSecret)
  /-- The randomness of the encapsulation made by the responder. -/
  | KEMEncaps (random : P.KEMRandom)

/-- What the channels of a session share. -/
structure Session (P : Primitives) where
  selfZID : Buf 12
  peerZID : Buf 12
  cachedSecret : CachedSecret
  keyAgreementContext : KeyAgreementContext P
  ZRTPSess : Bytes

/-- The messages of one side, empty when there is none. -/
structure Packets where
  hello : Bytes
  commit : Bytes
  dhPart : Bytes

structure SrtpSecrets where
  selfSrtpKey : Bytes
  selfSrtpSalt : Bytes
  peerSrtpKey : Bytes
  peerSrtpSalt : Bytes
  sas : Option Bytes

structure Channel where
  role : Role
  selfPackets : Packets
  peerPackets : Packets
  algos : Algos
  KDFContext : Bytes
  s0 : Bytes
  mackeyi : Bytes
  mackeyr : Bytes
  zrtpkeyi : Bytes
  zrtpkeyr : Bytes
  srtpSecrets : SrtpSecrets

/-! ### Shared secret of the key agreement -/

/-- The public value of a DHPart message. -/
def dhPartPv (message : Bytes) (length : ℕ) : Bytes := segment message 76 length

/-- The public key of a Commit message, when the key agreement is a KEM. -/
def commitPv (message : Bytes) (length : ℕ) : Bytes := segment message 108 length

variable (s : Session P) (ch : Channel)

/-- The secret computed when the DHPart message of the peer arrives (by the responder of a KEM, when
the Commit message did). -/
def sharedSecret : Bytes :=
  match ch.algos.keyAgreement, s.keyAgreementContext with
  | .dh algo, .DH secret =>
    P.computeSecret algo secret (dhPartPv ch.peerPackets.dhPart algo.publicValueLength)
  | .kem algo, .KEMKeyPair secret =>
    P.decaps algo ch.algos.hash secret (dhPartPv ch.peerPackets.dhPart (P.getCtSize algo))
  | .kem algo, .KEMEncaps random =>
    (P.encaps algo ch.algos.hash (commitPv ch.peerPackets.commit (P.getPkSize algo)) random).2
  | _, _ => []

def sharedSecretLength (algos : Algos) : ℕ :=
  match algos.keyAgreement with
  | .dh algo => algo.publicValueLength
  | .kem algo => if algo.isHybrid then algos.hash.hashLength.toNat else P.kSsSize algo
  | .Prsh | .Mult => 0

/-! ### `s0` -/

def ZIDs : Buf 12 × Buf 12 :=
  match ch.role with
  | .responder => (s.peerZID, s.selfZID)
  | .initiator => (s.selfZID, s.peerZID)

def totalHashDHM (ch : Channel) : Bytes :=
  let dataToHash := match ch.role with
    | .responder => ch.selfPackets.hello ++ ch.peerPackets.commit ++ ch.selfPackets.dhPart ++ ch.peerPackets.dhPart
    | .initiator => ch.peerPackets.hello ++ ch.selfPackets.commit ++ ch.peerPackets.dhPart ++ ch.selfPackets.dhPart
  P.hashFunction ch.algos.hash dataToHash ch.algos.hash.hashLength

def totalHashMultiStream (ch : Channel) : Bytes :=
  let dataToHash := match ch.role with
    | .responder => ch.selfPackets.hello ++ ch.peerPackets.commit
    | .initiator => ch.peerPackets.hello ++ ch.selfPackets.commit
  P.hashFunction ch.algos.hash dataToHash ch.algos.hash.hashLength

/-- The context of the key derivations. -/
def kdfContext (totalHash : Bytes) : Bytes :=
  (ZIDs P s ch).1.toList ++ (ZIDs P s ch).2.toList ++ totalHash

/-- A secret preceded by its length, empty when there is none. -/
def lengthAndSecret (secret : Option Bytes) : Bytes :=
  be32 (secret.getD []).length.toUInt32 ++ secret.getD []

namespace CachedSecret

def s1 (c : CachedSecret) : Option Bytes := c.rs1.orElse fun _ => c.rs2

def s2 (c : CachedSecret) : Option Bytes := c.auxsecret

def s3 (c : CachedSecret) : Option Bytes := c.pbxsecret

end CachedSecret

def s0DHM (context : Bytes) : Bytes :=
  let dhResult := (sharedSecret P s ch).takeD (sharedSecretLength P ch.algos) 0
  let dataToHash := be32 0x00000001 ++ dhResult ++ ascii "ZRTP-HMAC-KDF" ++ context ++
    lengthAndSecret s.cachedSecret.s1 ++ lengthAndSecret s.cachedSecret.s2 ++
    lengthAndSecret s.cachedSecret.s3
  P.hashFunction ch.algos.hash dataToHash ch.algos.hash.hashLength

/-! ### Keys derived from `s0` -/

def deriveFromS0 (ch : Channel) (label : String) (length : UInt8) : Bytes :=
  keyDerivationFunction P ch.algos.hash ch.s0 (ascii label) ch.KDFContext length

def deriveKeysFromS0 (ch : Channel) : Channel :=
  { ch with
    mackeyi := deriveFromS0 P ch "Initiator HMAC key" ch.algos.hash.hashLength
    mackeyr := deriveFromS0 P ch "Responder HMAC key" ch.algos.hash.hashLength
    zrtpkeyi := deriveFromS0 P ch "Initiator ZRTP key" ch.algos.cipher.cipherKeyLength
    zrtpkeyr := deriveFromS0 P ch "Responder ZRTP key" ch.algos.cipher.cipherKeyLength }

/-- The first four groups of five bits. -/
def base32 (sas : UInt32) : Bytes :=
  ([27, 22, 17, 12] : List UInt32).map fun shift =>
    (ascii "ybndrfg8ejkmcpqxot1uwisza345h769").getD ((sas >>> shift) &&& 31).toNat 0

/-- Two words separated by a colon. -/
def base256 (sas : UInt32) : Bytes :=
  (P.pgpWordsEven (sas >>> 24).toUInt8 ++ ascii ":" ++ P.pgpWordsOdd (sas >>> 16).toUInt8).take 31

def sasFunction (algo : SasAlgo) (sas : UInt32) : Bytes :=
  match algo with
  | .B32 => base32 sas
  | .B256 => base256 P sas

def srtpSaltLength (algos : Algos) : UInt8 := if algos.authTag = .GCM then 12 else 14

def deriveSrtpKeysFromS0 (ch : Channel) : Channel :=
  let srtpkeyi := deriveFromS0 P ch "Initiator SRTP master key" ch.algos.cipher.cipherKeyLength
  let srtpsalti := deriveFromS0 P ch "Initiator SRTP master salt" (srtpSaltLength ch.algos)
  let srtpkeyr := deriveFromS0 P ch "Responder SRTP master key" ch.algos.cipher.cipherKeyLength
  let srtpsaltr := deriveFromS0 P ch "Responder SRTP master salt" (srtpSaltLength ch.algos)
  -- no SAS in Multistream mode
  let sas := if ch.algos.keyAgreement = .Mult then none
    else some (sasFunction P ch.algos.sas (be32At (deriveFromS0 P ch "SAS" 32) 0))
  { ch with
    srtpSecrets := match ch.role with
      | .initiator => ⟨srtpkeyi, srtpsalti, srtpkeyr, srtpsaltr, sas⟩
      | .responder => ⟨srtpkeyr, srtpsaltr, srtpkeyi, srtpsalti, sas⟩ }

/-! ### The two modes -/

def computeS0DHMMode : Session P × Channel :=
  let KDFContext := kdfContext P s ch (totalHashDHM P ch)
  let ch := { ch with KDFContext := KDFContext, s0 := s0DHM P s ch KDFContext }
  ({ s with ZRTPSess := deriveFromS0 P ch "ZRTP Session Key" ch.algos.hash.hashLength }, deriveKeysFromS0 P ch)

def computeS0MultiStreamMode : Channel :=
  let KDFContext := kdfContext P s ch (totalHashMultiStream P ch)
  deriveKeysFromS0 P { ch with
    KDFContext := KDFContext
    s0 := keyDerivationFunction P ch.algos.hash s.ZRTPSess (ascii "ZRTP MSK") KDFContext
      ch.algos.hash.hashLength }

/-- The keys of a session: the main channel in DHM mode, then the other ones in Multistream mode. -/
def establish (s : Session P) (main : Channel) (others : List Channel) : Session P × Channel × List Channel :=
  let r := computeS0DHMMode P s main
  (r.1, deriveSrtpKeysFromS0 P r.2, others.map fun ch => deriveSrtpKeysFromS0 P (computeS0MultiStreamMode P r.1 ch))

end Bzrtp
