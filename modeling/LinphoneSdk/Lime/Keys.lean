import LinphoneSdk.Lib.Bytes

/-!
# Base algorithms, keys and cryptographic primitives of lime

The classes `C255`, `C448`, `C255K512`, `C255MLK512` and `C448MLK1024` of `lime_keys.hpp` become one
enumeration. The template code has two versions, one for the elliptic curves alone and one for the
curves combined with a KEM; here a KEM buffer of a curve without KEM has size zero, so that keys and
serialisations have one definition, and the places where the two versions differ branch on
`Curve.isKEM`.

The primitives (ECDH, KEM, HMAC-SHA512, AES256-GCM) come from libraries outside the repository: they
are the fields of `Crypto`. What travels in a message is made of bytes; secrets stay abstract.
-/

namespace Lime

open Bytes

/-! ### Settings -/

namespace settings

def DRPkIndexSize : ℕ := 12

def DRMessageAuthTagSize : ℕ := 16

def DRSessionSharedADSize : ℕ := 32

def DRrandomSeedSize : ℕ := 32

/-- Maximum number of messages skipped at the reception of one message. -/
def maxMessageSkip : ℕ := 512

/-- Maximum length of a sending chain before the session becomes inactive. -/
def maxSendingChain : UInt16 := 500

def KEMRatchetChainSize : UInt32 := 42

/-- In seconds. -/
def maxKEMRatchetChainPeriod : ℤ := 86400

end settings

/-! ### Base algorithms -/

inductive Curve where
  | C255
  | C448
  | C255K512
  | C255MLK512
  | C448MLK1024
  deriving DecidableEq, Repr

namespace Curve

def curveId : Curve → UInt8
  | .C255 => 1
  | .C448 => 2
  | .C255K512 => 3
  | .C255MLK512 => 4
  | .C448MLK1024 => 5

/-- Is the algorithm derived from `genericKEM`? -/
def isKEM : Curve → Bool
  | .C255 | .C448 => false
  | .C255K512 | .C255MLK512 | .C448MLK1024 => true

/-- Size of the key exchange public keys. -/
def Xsize : Curve → ℕ
  | .C255 | .C255K512 | .C255MLK512 => 32
  | .C448 | .C448MLK1024 => 56

/-- Size of the signature public keys. -/
def DSAsize : Curve → ℕ
  | .C255 | .C255K512 | .C255MLK512 => 32
  | .C448 | .C448MLK1024 => 57

/-- Size of the KEM public keys. -/
def kPkSize : Curve → ℕ
  | .C255 | .C448 => 0
  | .C255K512 | .C255MLK512 => 800
  | .C448MLK1024 => 1568

/-- Size of the KEM cipher texts. -/
def kCtSize : Curve → ℕ
  | .C255 | .C448 => 0
  | .C255K512 | .C255MLK512 => 768
  | .C448MLK1024 => 1568

end Curve

inductive RootInput (A : Curve) (ECSecret KEMSecret : Type) where
  /-- `dhOut` alone, as `KDF_RK` uses it. -/
  | ec (dhOut : ECSecret)
  /-- `dhOut`, `kemOut` and the transcript of the public material, as `KEM_KDF_RK` uses them. -/
  | kem (dhOut : ECSecret) (kemOut : KEMSecret) (ECPkSender ECPkReceiver : Buf A.Xsize)
      (KEMPk : Buf A.kPkSize) (KEMCt : Buf A.kCtSize)

/-- The primitives used by a Double Ratchet session. -/
structure Crypto (A : Curve) where
  ECPrivate : Type
  ECSecret : Type
  KEMPrivate : Type
  KEMSecret : Type
  /-- Randomness consumed by one encapsulation. -/
  KEMRandom : Type
  /-- `DRChainKey`. -/
  ChainKey : Type
  /-- `DRMKey`: message key and IV. -/
  MessageKey : Type
  ecPublic : ECPrivate → Buf A.Xsize
  /-- `computeSharedSecret` from the self secret and the peer public key. -/
  ecShared : ECPrivate → Buf A.Xsize → ECSecret
  kemPublic : KEMPrivate → Buf A.kPkSize
  encaps : Buf A.kPkSize → KEMRandom → Buf A.kCtSize × KEMSecret
  decaps : KEMPrivate → Buf A.kCtSize → KEMSecret
  /-- `HMAC_KDF<SHA512>` salted with a root key, cut into the new root key and the chain key. -/
  hkdf : ChainKey → RootInput A ECSecret KEMSecret → ChainKey × ChainKey
  /-- `HMAC<SHA512>` keyed with a chain key, kept on the size of a chain key. -/
  hmacCK : ChainKey → Bytes → ChainKey
  /-- `HMAC<SHA512>` keyed with a chain key, kept on the size of a message key. -/
  hmacMK : ChainKey → Bytes → MessageKey
  /-- `HMAC_KDF<SHA512>` without salt on the random seed of a cipher message. -/
  hkdfSeed : Bytes → MessageKey
  /-- A chain key default initialised to zeros. -/
  zeroKey : ChainKey
  /-- `HMAC<SHA512>` without key kept on `DRPkIndexSize` bytes. -/
  hashIndex : Bytes → Buf settings.DRPkIndexSize
  /-- Message key, plain text, associated data. -/
  AEAD_encrypt : MessageKey → Bytes → Bytes → Bytes × Buf settings.DRMessageAuthTagSize
  /-- Message key, cipher text, associated data, tag. -/
  AEAD_decrypt : MessageKey → Bytes → Bytes → Bytes → Option Bytes

/-- A buffer filled with one byte. -/
def fill (n : ℕ) (x : UInt8) : Buf n := ⟨List.replicate n x, List.length_replicate⟩

/-- Primitives on small integers. Public material is a repeated byte, keys are mixed by arithmetic, the tag holds the
message key and the end of the associated data. -/
def Crypto.sample (A : Curve) : Crypto A where
  ECPrivate := UInt8
  ECSecret := UInt8
  KEMPrivate := UInt8
  KEMSecret := UInt8
  KEMRandom := UInt8
  ChainKey := UInt32
  MessageKey := UInt32
  ecPublic a := fill _ a
  ecShared a B := a * B.toList.headD 0
  kemPublic a := fill _ a
  encaps B r := (fill _ r, if A.isKEM then B.toList.headD 0 + r else 0)
  decaps a ct := if A.isKEM then a + ct.toList.headD 0 else 0
  hkdf RK input :=
    let x : UInt32 := match input with
      | .ec dhOut => dhOut.toUInt32
      | .kem dhOut kemOut _ _ _ _ => dhOut.toUInt32 + 256 * kemOut.toUInt32 + 65536
    (31 * RK + 2 * x + 1, 37 * RK + 2 * x)
  hmacCK CK _ := 5 * CK + 1
  hmacMK CK _ := CK
  hkdfSeed seed := seed.foldl (fun x b => 3 * x + b.toUInt32) 0
  zeroKey := 0
  hashIndex l := bufAt l 0 _
  AEAD_encrypt MK plaintext AD := (plaintext, bufAt (be32 MK ++ AD.reverse) 0 _)
  AEAD_decrypt MK ciphertext AD tag :=
    if tag = (bufAt (be32 MK ++ AD.reverse) 0 settings.DRMessageAuthTagSize).toList
    then some ciphertext else none

/-! ### Asymmetric ratchet keys -/

structure ARrKey (A : Curve) where
  ec : Buf A.Xsize
  kem : Buf A.kPkSize
  ct : Buf A.kCtSize
  deriving DecidableEq

namespace ARrKey

variable {A : Curve}

def zero : ARrKey A := ⟨zeros _, zeros _, zeros _⟩

def serializedSize (A : Curve) : ℕ := A.Xsize + A.kPkSize + A.kCtSize

def serialize (k : ARrKey A) : Bytes := k.ec.toList ++ (k.kem.toList ++ k.ct.toList)

/-- Unserializing constructor, reading at offset `i`. -/
def unserializeAt (l : Bytes) (i : ℕ) : ARrKey A where
  ec := bufAt l i _
  kem := bufAt l (i + A.Xsize) _
  ct := bufAt l (i + A.Xsize + A.kPkSize) _

/-- Index of the KEM part, used to identify it without sending it all. -/
def getKEMIndex (C : Crypto A) (k : ARrKey A) : Buf settings.DRPkIndexSize :=
  C.hashIndex (k.kem.toList ++ k.ct.toList)

/-- Index of a skipped message key chain. -/
def getIndex (C : Crypto A) (k : ARrKey A) : Bytes :=
  if A.isKEM then (C.hashIndex k.ec.toList).toList ++ (k.getKEMIndex C).toList
  else (C.hashIndex k.ec.toList).toList

def setECPk (k : ARrKey A) (ec : Buf A.Xsize) : ARrKey A := { k with ec := ec }

@[simp] lemma length_serialize (k : ARrKey A) : k.serialize.length = serializedSize A := by
  simp [serialize, serializedSize]
  omega

/-- Serialised keys are read back where they were written. -/
lemma unserializeAt_of_drop {l rest : Bytes} {i : ℕ} (k : ARrKey A)
    (h : l.drop i = k.serialize ++ rest) : unserializeAt l i = k := by
  have h0 : l.drop i = k.ec.toList ++ (k.kem.toList ++ (k.ct.toList ++ rest)) := by
    rw [h, serialize]
    simp only [List.append_assoc]
  have h1 : l.drop (i + A.Xsize) = k.kem.toList ++ (k.ct.toList ++ rest) := by
    rw [← List.drop_drop, h0, List.drop_left' (by simp)]
  have h2 : l.drop (i + A.Xsize + A.kPkSize) = k.ct.toList ++ rest := by
    rw [← List.drop_drop, h1, List.drop_left' (by simp)]
  simp only [unserializeAt, bufAt_of_drop k.ec h0, bufAt_of_drop k.kem h1, bufAt_of_drop k.ct h2]

end ARrKey

/-- Self keys: elliptic curve pair, KEM pair and the cipher text encapsulated for the peer. -/
structure ARsKey {A : Curve} (C : Crypto A) where
  ecPublic : Buf A.Xsize
  ecPrivate : C.ECPrivate
  kemPublic : Buf A.kPkSize
  kemPrivate : C.KEMPrivate
  ct : Buf A.kCtSize

namespace ARsKey

variable {A : Curve} {C : Crypto A}

/-- The public part, as the peer holds it. -/
def toPublic (k : ARsKey C) : ARrKey A := ⟨k.ecPublic, k.kemPublic, k.ct⟩

def serializePublic (k : ARsKey C) : Bytes := k.toPublic.serialize

def getKEMIndex (k : ARsKey C) : Buf settings.DRPkIndexSize :=
  C.hashIndex (k.kemPublic.toList ++ k.ct.toList)

/-- Set the elliptic curve key pair only. -/
def setEC (k : ARsKey C) (ecPublic : Buf A.Xsize) (ecPrivate : C.ECPrivate) : ARsKey C :=
  { k with ecPublic := ecPublic, ecPrivate := ecPrivate }

end ARsKey

end Lime
