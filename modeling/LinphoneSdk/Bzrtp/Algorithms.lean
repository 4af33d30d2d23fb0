import LinphoneSdk.Bzrtp.Packet
import LinphoneSdk.Lib.Preference
import Mathlib.Data.Finset.Card

/-!
# Algorithm types

The algorithms of a ZRTP exchange are bytes inside the library and blocks of four characters in the
messages (`bzrtp_cryptoAlgoTypeStringToInt`, `bzrtp_cryptoAlgoTypeIntToString`). A context and a
Hello message hold one list of at most 7 algorithms for each family; the lists are cut to what both
sides have (`bzrtp_selectCommonAlgo`) and completed with the mandatory algorithms
(`bzrtp_addMandatoryCryptoTypesIfNeeded`).

The bit masks of the source, 256 bits wide, are finite sets of bytes.
-/

namespace Bzrtp

open Preference List Finset

/-! ### Values -/

def ZRTP_UNSET_ALGO : UInt8 := 0x00

def ZRTP_HASH_S256 : UInt8 := 0x11
def ZRTP_HASH_S384 : UInt8 := 0x12
def ZRTP_HASH_N256 : UInt8 := 0x13
def ZRTP_HASH_N384 : UInt8 := 0x14
def ZRTP_HASH_S512 : UInt8 := 0x15

def ZRTP_CIPHER_AES1 : UInt8 := 0x21
def ZRTP_CIPHER_AES2 : UInt8 := 0x22
def ZRTP_CIPHER_AES3 : UInt8 := 0x23
def ZRTP_CIPHER_2FS1 : UInt8 := 0x24
def ZRTP_CIPHER_2FS2 : UInt8 := 0x25
def ZRTP_CIPHER_2FS3 : UInt8 := 0x26

def ZRTP_AUTHTAG_HS32 : UInt8 := 0x31
def ZRTP_AUTHTAG_HS80 : UInt8 := 0x32
def ZRTP_AUTHTAG_SK32 : UInt8 := 0x33
def ZRTP_AUTHTAG_SK64 : UInt8 := 0x34
def ZRTP_AUTHTAG_GCM : UInt8 := 0x35

-- from the fastest to the slowest
def ZRTP_KEYAGREEMENT_DH2k : UInt8 := 0x41
def ZRTP_KEYAGREEMENT_X255 : UInt8 := 0x42
def ZRTP_KEYAGREEMENT_K255 : UInt8 := 0x43
def ZRTP_KEYAGREEMENT_EC25 : UInt8 := 0x44
def ZRTP_KEYAGREEMENT_X448 : UInt8 := 0x45
def ZRTP_KEYAGREEMENT_K448 : UInt8 := 0x46
def ZRTP_KEYAGREEMENT_DH3k : UInt8 := 0x47
def ZRTP_KEYAGREEMENT_EC38 : UInt8 := 0x48
def ZRTP_KEYAGREEMENT_EC52 : UInt8 := 0x49
def ZRTP_KEYAGREEMENT_KYB1 : UInt8 := 0x4a
def ZRTP_KEYAGREEMENT_KYB2 : UInt8 := 0x4b
def ZRTP_KEYAGREEMENT_KYB3 : UInt8 := 0x4c
def ZRTP_KEYAGREEMENT_HQC1 : UInt8 := 0x4d
def ZRTP_KEYAGREEMENT_HQC2 : UInt8 := 0x4e
def ZRTP_KEYAGREEMENT_HQC3 : UInt8 := 0x4f
def ZRTP_KEYAGREEMENT_K255_KYB512 : UInt8 := 0x51
def ZRTP_KEYAGREEMENT_K255_HQC128 : UInt8 := 0x52
def ZRTP_KEYAGREEMENT_K448_KYB1024 : UInt8 := 0x53
def ZRTP_KEYAGREEMENT_K448_HQC256 : UInt8 := 0x54
def ZRTP_KEYAGREEMENT_K255_KYB512_HQC128 : UInt8 := 0x55
def ZRTP_KEYAGREEMENT_K448_KYB1024_HQC256 : UInt8 := 0x56
def ZRTP_KEYAGREEMENT_MLK1 : UInt8 := 0x57
def ZRTP_KEYAGREEMENT_MLK2 : UInt8 := 0x58
def ZRTP_KEYAGREEMENT_MLK3 : UInt8 := 0x59
def ZRTP_KEYAGREEMENT_K255_MLK512 : UInt8 := 0x5a
def ZRTP_KEYAGREEMENT_K448_MLK1024 : UInt8 := 0x5b
def ZRTP_KEYAGREEMENT_Prsh : UInt8 := 0x9e
def ZRTP_KEYAGREEMENT_Mult : UInt8 := 0x9f

def ZRTP_SAS_B32 : UInt8 := 0xa1
def ZRTP_SAS_B256 : UInt8 := 0xa2

/-- Families of algorithms. -/
inductive AlgoType where
  | hash
  | cipherBlock
  | authTag
  | keyAgreement
  | sas
  deriving DecidableEq, Repr

/-- The family given by a caller of the library. -/
def AlgoType.ofInt (algoType : UInt8) : Option AlgoType :=
  if algoType = 0x01 then some .hash
  else if algoType = 0x02 then some .cipherBlock
  else if algoType = 0x04 then some .authTag
  else if algoType = 0x08 then some .keyAgreement
  else if algoType = 0x10 then some .sas
  else none

def isPostQuantum (keyAgreementAlgo : UInt8) : Bool :=
  keyAgreementAlgo ∈ [ZRTP_KEYAGREEMENT_MLK1, ZRTP_KEYAGREEMENT_MLK2, ZRTP_KEYAGREEMENT_MLK3,
    ZRTP_KEYAGREEMENT_KYB1, ZRTP_KEYAGREEMENT_KYB2, ZRTP_KEYAGREEMENT_KYB3, ZRTP_KEYAGREEMENT_HQC1,
    ZRTP_KEYAGREEMENT_HQC2, ZRTP_KEYAGREEMENT_HQC3, ZRTP_KEYAGREEMENT_K255_KYB512,
    ZRTP_KEYAGREEMENT_K255_MLK512, ZRTP_KEYAGREEMENT_K255_HQC128, ZRTP_KEYAGREEMENT_K448_KYB1024,
    ZRTP_KEYAGREEMENT_K448_MLK1024, ZRTP_KEYAGREEMENT_K448_HQC256,
    ZRTP_KEYAGREEMENT_K255_KYB512_HQC128, ZRTP_KEYAGREEMENT_K448_KYB1024_HQC256]

/-! ### Type blocks -/

def AlgoType.strings : AlgoType → List (String × UInt8)
  | .hash => [("S256", ZRTP_HASH_S256), ("S384", ZRTP_HASH_S384), ("S512", ZRTP_HASH_S512),
      ("N256", ZRTP_HASH_N256), ("N384", ZRTP_HASH_N384)]
  | .cipherBlock => [("AES1", ZRTP_CIPHER_AES1), ("AES2", ZRTP_CIPHER_AES2),
      ("AES3", ZRTP_CIPHER_AES3), ("2FS1", ZRTP_CIPHER_2FS1), ("2FS2", ZRTP_CIPHER_2FS2),
      ("2FS3", ZRTP_CIPHER_2FS3)]
  | .authTag => [("HS32", ZRTP_AUTHTAG_HS32), ("HS80", ZRTP_AUTHTAG_HS80),
      ("SK32", ZRTP_AUTHTAG_SK32), ("SK64", ZRTP_AUTHTAG_SK64), ("GCM ", ZRTP_AUTHTAG_GCM)]
  | .keyAgreement => [("DH3k", ZRTP_KEYAGREEMENT_DH3k), ("DH2k", ZRTP_KEYAGREEMENT_DH2k),
      ("X255", ZRTP_KEYAGREEMENT_X255), ("K255", ZRTP_KEYAGREEMENT_K255),
      ("EC25", ZRTP_KEYAGREEMENT_EC25), ("X448", ZRTP_KEYAGREEMENT_X448),
      ("K448", ZRTP_KEYAGREEMENT_K448), ("EC38", ZRTP_KEYAGREEMENT_EC38),
      ("EC52", ZRTP_KEYAGREEMENT_EC52), ("KYB1", ZRTP_KEYAGREEMENT_KYB1),
      ("KYB2", ZRTP_KEYAGREEMENT_KYB2), ("KYB3", ZRTP_KEYAGREEMENT_KYB3),
      ("MLK1", ZRTP_KEYAGREEMENT_MLK1), ("MLK2", ZRTP_KEYAGREEMENT_MLK2),
      ("MLK3", ZRTP_KEYAGREEMENT_MLK3), ("HQD1", ZRTP_KEYAGREEMENT_HQC1),
      ("HQD2", ZRTP_KEYAGREEMENT_HQC2), ("HQD3", ZRTP_KEYAGREEMENT_HQC3),
      ("X1K1", ZRTP_KEYAGREEMENT_K255_KYB512), ("X1M1", ZRTP_KEYAGREEMENT_K255_MLK512),
      ("X1H1", ZRTP_KEYAGREEMENT_K255_HQC128), ("X3M3", ZRTP_KEYAGREEMENT_K448_MLK1024),
      ("X3K3", ZRTP_KEYAGREEMENT_K448_KYB1024), ("X3H3", ZRTP_KEYAGREEMENT_K448_HQC256),
      ("XKR1", ZRTP_KEYAGREEMENT_K255_KYB512_HQC128),
      ("XKR3", ZRTP_KEYAGREEMENT_K448_KYB1024_HQC256), ("Prsh", ZRTP_KEYAGREEMENT_Prsh),
      ("Mult", ZRTP_KEYAGREEMENT_Mult)]
  | .sas => [("B32 ", ZRTP_SAS_B32), ("B256", ZRTP_SAS_B256)]

def cryptoAlgoTypeStringToInt (algoType : Bytes) (algoFamily : AlgoType) : UInt8 :=
  match algoFamily.strings.find? fun r => ascii r.1 == algoType with
  | some r => r.2
  | none => ZRTP_UNSET_ALGO

/-- The type block of each algorithm, whatever its family. -/
def intToStrings : List (UInt8 × String) :=
  [(ZRTP_HASH_S256, "S256"), (ZRTP_HASH_S384, "S384"), (ZRTP_HASH_S512, "S512"),
    (ZRTP_HASH_N256, "N256"), (ZRTP_HASH_N384, "N384"), (ZRTP_CIPHER_AES1, "AES1"),
    (ZRTP_CIPHER_AES2, "AES2"), (ZRTP_CIPHER_AES3, "AES3"), (ZRTP_CIPHER_2FS1, "2FS1"),
    (ZRTP_CIPHER_2FS2, "2FS2"), (ZRTP_CIPHER_2FS3, "2FS3"), (ZRTP_AUTHTAG_HS32, "HS32"),
    (ZRTP_AUTHTAG_HS80, "HS80"), (ZRTP_AUTHTAG_SK32, "SK32"), (ZRTP_AUTHTAG_SK64, "SK64"),
    (ZRTP_AUTHTAG_GCM, "GCM "), (ZRTP_KEYAGREEMENT_DH2k, "DH2k"), (ZRTP_KEYAGREEMENT_X255, "X255"),
    (ZRTP_KEYAGREEMENT_K255, "K255"), (ZRTP_KEYAGREEMENT_EC25, "EC25"),
    (ZRTP_KEYAGREEMENT_X448, "X448"), (ZRTP_KEYAGREEMENT_K448, "K448"),
    (ZRTP_KEYAGREEMENT_DH3k, "DH3k"), (ZRTP_KEYAGREEMENT_EC38, "EC38"),
    (ZRTP_KEYAGREEMENT_EC52, "EC52"), (ZRTP_KEYAGREEMENT_KYB1, "KYB1"),
    (ZRTP_KEYAGREEMENT_KYB2, "KYB2"), (ZRTP_KEYAGREEMENT_KYB3, "KYB3"),
    (ZRTP_KEYAGREEMENT_MLK1, "MLK1"), (ZRTP_KEYAGREEMENT_MLK2, "MLK2"),
    (ZRTP_KEYAGREEMENT_MLK3, "MLK3"), (ZRTP_KEYAGREEMENT_HQC1, "HQD1"),
    (ZRTP_KEYAGREEMENT_HQC2, "HQD2"), (ZRTP_KEYAGREEMENT_HQC3, "HQD3"),
    (ZRTP_KEYAGREEMENT_K255_MLK512, "X1M1"), (ZRTP_KEYAGREEMENT_K255_KYB512, "X1K1"),
    (ZRTP_KEYAGREEMENT_K255_HQC128, "X1H1"), (ZRTP_KEYAGREEMENT_K448_MLK1024, "X3M3"),
    (ZRTP_KEYAGREEMENT_K448_KYB1024, "X3K3"), (ZRTP_KEYAGREEMENT_K448_HQC256, "X3H3"),
    (ZRTP_KEYAGREEMENT_K255_KYB512_HQC128, "XKR1"), (ZRTP_KEYAGREEMENT_K448_KYB1024_HQC256, "XKR3"),
    (ZRTP_KEYAGREEMENT_Prsh, "Prsh"), (ZRTP_KEYAGREEMENT_Mult, "Mult"), (ZRTP_SAS_B32, "B32 "),
    (ZRTP_SAS_B256, "B256")]

def cryptoAlgoTypeIntToString (algoTypeInt : UInt8) : Bytes :=
  match intToStrings.find? fun r => r.1 == algoTypeInt with
  | some r => ascii r.2
  | none => ascii "NSET"

/-- The algorithms of a family that have a type block. -/
def AlgoType.known (t : AlgoType) : Bytes := t.strings.map Prod.snd

lemma length_cryptoAlgoTypeIntToString (a : UInt8) : (cryptoAlgoTypeIntToString a).length = 4 := by
  rw [cryptoAlgoTypeIntToString]
  cases h : intToStrings.find? fun r => r.1 == a with
  | none => rfl
  | some r =>
    have hall : ∀ r ∈ intToStrings, (ascii r.2).length = 4 := by decide
    exact hall r (mem_of_find?_eq_some h)

/-- A known algorithm is read back from its type block. -/
theorem cryptoAlgoTypeStringToInt_intToString {t : AlgoType} {a : UInt8} (ha : a ∈ t.known) :
    cryptoAlgoTypeStringToInt (cryptoAlgoTypeIntToString a) t = a := by
  have hall : ∀ b ∈ t.known, cryptoAlgoTypeStringToInt (cryptoAlgoTypeIntToString b) t = b := by
    cases t <;> decide +kernel
  exact hall a ha

/-! ### Available and mandatory algorithms -/

-- the key agreements of the crypto library, as a bit mask
def BCTBX_DHM_2048 : UInt32 := 0x00000001
def BCTBX_ECDH_X25519 : UInt32 := 0x00000004
def BCTBX_ECDH_X448 : UInt32 := 0x00000008
def BCTBX_KEM_KYBER512 : UInt32 := 0x00000010
def BCTBX_KEM_KYBER768 : UInt32 := 0x00000020
def BCTBX_KEM_KYBER1024 : UInt32 := 0x00000040
def BCTBX_KEM_HQC128 : UInt32 := 0x00000080
def BCTBX_KEM_HQC192 : UInt32 := 0x00000100
def BCTBX_KEM_HQC256 : UInt32 := 0x00000200
def BCTBX_KEM_X25519 : UInt32 := 0x00000400
def BCTBX_KEM_X448 : UInt32 := 0x00000800
def BCTBX_KEM_MLKEM512 : UInt32 := 0x00001000
def BCTBX_KEM_MLKEM768 : UInt32 := 0x00002000
def BCTBX_KEM_MLKEM1024 : UInt32 := 0x00004000

/-- The key agreements tried before DH3k, with the ones of the crypto library they need. -/
def preferredKeyAgreements : List (List UInt32 × UInt8) :=
  [([BCTBX_ECDH_X25519], ZRTP_KEYAGREEMENT_X255), ([BCTBX_ECDH_X448], ZRTP_KEYAGREEMENT_X448)]

/-- The key agreements tried after DH3k. -/
def otherKeyAgreements : List (List UInt32 × UInt8) :=
  [([BCTBX_KEM_MLKEM512], ZRTP_KEYAGREEMENT_MLK1), ([BCTBX_KEM_KYBER512], ZRTP_KEYAGREEMENT_KYB1),
    ([BCTBX_KEM_HQC128], ZRTP_KEYAGREEMENT_HQC1), ([BCTBX_KEM_MLKEM768], ZRTP_KEYAGREEMENT_MLK2),
    ([BCTBX_KEM_KYBER768], ZRTP_KEYAGREEMENT_KYB2), ([BCTBX_KEM_HQC192], ZRTP_KEYAGREEMENT_HQC2),
    ([BCTBX_KEM_MLKEM1024], ZRTP_KEYAGREEMENT_MLK3), ([BCTBX_KEM_KYBER1024], ZRTP_KEYAGREEMENT_KYB3),
    ([BCTBX_KEM_HQC256], ZRTP_KEYAGREEMENT_HQC3), ([BCTBX_DHM_2048], ZRTP_KEYAGREEMENT_DH2k),
    ([BCTBX_KEM_X25519], ZRTP_KEYAGREEMENT_K255), ([BCTBX_KEM_X448], ZRTP_KEYAGREEMENT_K448),
    ([BCTBX_KEM_X25519, BCTBX_KEM_MLKEM512], ZRTP_KEYAGREEMENT_K255_MLK512),
    ([BCTBX_KEM_X25519, BCTBX_KEM_KYBER512], ZRTP_KEYAGREEMENT_K255_KYB512),
    ([BCTBX_KEM_X25519, BCTBX_KEM_HQC128], ZRTP_KEYAGREEMENT_K255_HQC128),
    ([BCTBX_KEM_X448, BCTBX_KEM_MLKEM1024], ZRTP_KEYAGREEMENT_K448_MLK1024),
    ([BCTBX_KEM_X448, BCTBX_KEM_KYBER1024], ZRTP_KEYAGREEMENT_K448_KYB1024),
    ([BCTBX_KEM_X448, BCTBX_KEM_HQC256], ZRTP_KEYAGREEMENT_K448_HQC256),
    ([BCTBX_KEM_X25519, BCTBX_KEM_KYBER512, BCTBX_KEM_HQC128], ZRTP_KEYAGREEMENT_K255_KYB512_HQC128),
    ([BCTBX_KEM_X448, BCTBX_KEM_KYBER1024, BCTBX_KEM_HQC256], ZRTP_KEYAGREEMENT_K448_KYB1024_HQC256)]

/-- The key agreements of a list that the crypto library provides. -/
def provided (available : UInt32) (l : List (List UInt32 × UInt8)) : Bytes :=
  (l.filter fun r => r.1.all fun flag => available &&& flag ≠ 0).map Prod.snd

def getAllAvailableCryptoTypes (available : UInt32) : AlgoType → Bytes
  | .hash => [ZRTP_HASH_S256, ZRTP_HASH_S384, ZRTP_HASH_S512]
  | .cipherBlock => [ZRTP_CIPHER_AES1, ZRTP_CIPHER_AES3]
  | .authTag => [ZRTP_AUTHTAG_GCM, ZRTP_AUTHTAG_HS32, ZRTP_AUTHTAG_HS80]
  | .keyAgreement =>
    provided available preferredKeyAgreements ++ ZRTP_KEYAGREEMENT_DH3k ::
      (provided available otherKeyAgreements ++ [ZRTP_KEYAGREEMENT_Mult])
  | .sas => [ZRTP_SAS_B32, ZRTP_SAS_B256]

/-- The default list of a context. -/
def getAvailableCryptoTypes (available : UInt32) (t : AlgoType) : Bytes :=
  let allTypes := getAllAvailableCryptoTypes available t
  match t with
  | .keyAgreement =>
    if allTypes.length < 7 then allTypes else allTypes.take 6 ++ [ZRTP_KEYAGREEMENT_Mult]
  | _ => allTypes

def getMandatoryCryptoTypes : AlgoType → Bytes
  | .hash => [ZRTP_HASH_S256]
  | .cipherBlock => [ZRTP_CIPHER_AES1]
  | .authTag => [ZRTP_AUTHTAG_HS32, ZRTP_AUTHTAG_HS80]
  | .keyAgreement => [ZRTP_KEYAGREEMENT_DH3k, ZRTP_KEYAGREEMENT_Mult]
  | .sas => [ZRTP_SAS_B32]

lemma nodup_getMandatoryCryptoTypes (t : AlgoType) : (getMandatoryCryptoTypes t).Nodup := by
  cases t <;> decide

lemma length_getMandatoryCryptoTypes_le (t : AlgoType) : (getMandatoryCryptoTypes t).length ≤ 2 := by
  cases t <;> decide

/-! ### Selection -/

/-- The loop on the master array, with the number of algorithms that may still be selected and the
bit mask of the ones not selected yet. -/
def selectCommonLoop : ℕ → Finset UInt8 → Bytes → Bytes
  | 0, _, _ => []
  | _ + 1, _, [] => []
  | room + 1, algosBitmap, a :: masterArray =>
    if a ∈ algosBitmap then a :: selectCommonLoop room (algosBitmap.erase a) masterArray
    else selectCommonLoop (room + 1) algosBitmap masterArray

/-- The algorithms of the master array that the slave array has too, in the order of the former. -/
def selectCommonAlgo (masterArray slaveArray : Bytes) : Bytes :=
  selectCommonLoop 7 slaveArray.toFinset masterArray

section select

variable {room : ℕ} {algosBitmap : Finset UInt8} {masterArray slaveArray : Bytes} {a : UInt8}

lemma mem_of_selectCommonLoop (h : a ∈ selectCommonLoop room algosBitmap masterArray) :
    a ∈ masterArray ∧ a ∈ algosBitmap := by
  induction masterArray generalizing room algosBitmap with
  | nil => cases room <;> simp [selectCommonLoop] at h
  | cons b masterArray ih =>
    cases room with
    | zero => simp [selectCommonLoop] at h
    | succ room =>
      rw [selectCommonLoop] at h
      split_ifs at h with hb
      · rcases mem_cons.mp h with rfl | h
        · exact ⟨mem_cons_self, hb⟩
        · obtain ⟨hmem, hbit⟩ := ih h
          exact ⟨mem_cons_of_mem b hmem, mem_of_mem_erase hbit⟩
      · obtain ⟨hmem, hbit⟩ := ih h
        exact ⟨mem_cons_of_mem b hmem, hbit⟩

lemma head?_selectCommonLoop : (selectCommonLoop (room + 1) algosBitmap masterArray).head? =
      masterArray.find? (· ∈ algosBitmap) := by
  induction masterArray with
  | nil => simp [selectCommonLoop]
  | cons b masterArray ih =>
    rw [selectCommonLoop, find?_cons]
    by_cases hb : b ∈ algosBitmap
    · simp [hb]
    · simpa [hb] using ih

/-- Nothing is left out of a master array that fits in the room. -/
lemma mem_selectCommonLoop (hroom : masterArray.length ≤ room) (hmem : a ∈ masterArray)
    (hbit : a ∈ algosBitmap) : a ∈ selectCommonLoop room algosBitmap masterArray := by
  induction masterArray generalizing room algosBitmap with
  | nil => cases hmem
  | cons b masterArray ih =>
    obtain ⟨room, rfl⟩ : ∃ n, room = n + 1 := ⟨room - 1, by simp at hroom; omega⟩
    rw [length_cons, Nat.add_le_add_iff_right] at hroom
    rw [selectCommonLoop]
    by_cases hab : a = b
    · rw [← hab, if_pos hbit]
      exact mem_cons_self
    · have hmem' : a ∈ masterArray := mem_of_ne_of_mem hab hmem
      split_ifs
      · exact mem_cons_of_mem b (ih hroom hmem' (mem_erase.mpr ⟨hab, hbit⟩))
      · exact ih (hroom.trans (Nat.le_succ room)) hmem' hbit

lemma mem_of_selectCommonAlgo (h : a ∈ selectCommonAlgo masterArray slaveArray) :
    a ∈ masterArray ∧ a ∈ slaveArray := by
  simpa using mem_of_selectCommonLoop h

lemma mem_selectCommonAlgo_iff (hlength : masterArray.length ≤ 7) :
    a ∈ selectCommonAlgo masterArray slaveArray ↔ a ∈ masterArray ∧ a ∈ slaveArray := by
  constructor
  · exact mem_of_selectCommonAlgo
  · rintro ⟨hmaster, hslave⟩
    exact mem_selectCommonLoop hlength hmaster (by simpa using hslave)

lemma selectCommonLoop_sublist : (selectCommonLoop room algosBitmap masterArray).Sublist masterArray := by
  induction masterArray generalizing room algosBitmap with
  | nil => cases room <;> simp [selectCommonLoop]
  | cons b masterArray ih =>
    cases room with
    | zero => exact nil_sublist _
    | succ room =>
      rw [selectCommonLoop]
      split_ifs
      · exact ih.cons_cons b
      · exact ih.cons b

/-- The first algorithm selected is the favourite of the master array. -/
lemma head?_selectCommonAlgo : (selectCommonAlgo masterArray slaveArray).head? = favourite masterArray slaveArray := by
  rw [selectCommonAlgo, head?_selectCommonLoop, favourite]
  simp only [mem_toFinset]

end select

/-! ### Mandatory algorithms -/

/-- The first loop: the algorithms kept and the mandatory ones still missing, from the number already
kept, the missing ones and the ones already seen. -/
def keepTypes : ℕ → Finset UInt8 → Finset UInt8 → Bytes → Bytes × Finset UInt8
  | _, missing, _, [] => ([], missing)
  | j, missing, seen, a :: algoTypes =>
    if 7 ≤ j then ([], missing)
    -- the space left may be just enough for the missing ones
    else if (j + missing.card < 7 ∨ a ∈ missing) ∧ a ∉ seen then
      let kept := keepTypes (j + 1) (missing.erase a) (insert a seen) algoTypes
      (a :: kept.1, kept.2)
    else keepTypes j missing seen algoTypes

def addMandatoryCryptoTypesIfNeeded (t : AlgoType) (algoTypes : Bytes) : Bytes :=
  let kept := keepTypes 0 (getMandatoryCryptoTypes t).toFinset ∅ algoTypes
  kept.1 ++ (getMandatoryCryptoTypes t).filter (· ∈ kept.2)

/-- A list that fits in an array, without repetition, with the mandatory algorithms. -/
structure AlgoType.Complete (t : AlgoType) (algoTypes : Bytes) : Prop where
  length_le : algoTypes.length ≤ 7
  nodup : algoTypes.Nodup
  mandatory : ∀ a ∈ getMandatoryCryptoTypes t, a ∈ algoTypes

section mandatory

variable {j : ℕ} {missing seen : Finset UInt8} {algoTypes : Bytes} {t : AlgoType} {a : UInt8}

lemma mem_of_keepTypes (h : a ∈ (keepTypes j missing seen algoTypes).1) : a ∈ algoTypes ∧ a ∉ seen := by
  induction algoTypes generalizing j missing seen with
  | nil => simp [keepTypes] at h
  | cons b algoTypes ih =>
    rw [keepTypes] at h
    split_ifs at h with hj hkeep
    · simp at h
    · rcases mem_cons.mp h with rfl | h
      · exact ⟨mem_cons_self, hkeep.2⟩
      · obtain ⟨hmem, hseen⟩ := ih h
        exact ⟨mem_cons_of_mem b hmem, fun hs => hseen (mem_insert_of_mem hs)⟩
    · obtain ⟨hmem, hseen⟩ := ih h
      exact ⟨mem_cons_of_mem b hmem, hseen⟩

lemma nodup_keepTypes : (keepTypes j missing seen algoTypes).1.Nodup := by
  induction algoTypes generalizing j missing seen with
  | nil => simp [keepTypes]
  | cons b algoTypes ih =>
    rw [keepTypes]
    split_ifs
    · simp
    · refine nodup_cons.mpr ⟨fun hmem => ?_, ih⟩
      exact (mem_of_keepTypes hmem).2 (mem_insert_self b seen)
    · exact ih

/-- The missing algorithms are the ones not kept. -/
lemma keepTypes_missing : (keepTypes j missing seen algoTypes).2 =
    missing \ (keepTypes j missing seen algoTypes).1.toFinset := by
  induction algoTypes generalizing j missing seen with
  | nil => simp [keepTypes]
  | cons b algoTypes ih =>
    rw [keepTypes]
    split_ifs
    · simp
    · simp only [toFinset_cons]
      rw [ih, sdiff_insert, erase_sdiff_comm]
    · exact ih

/-- Keeping an algorithm leaves room for the ones missing after it. -/
lemma card_erase_missing_le {b : UInt8} (hj : j + missing.card ≤ 7)
    (hkeep : j + missing.card < 7 ∨ b ∈ missing) : j + 1 + (missing.erase b).card ≤ 7 := by
  by_cases hb : b ∈ missing
  · have hpos := card_pos.mpr ⟨b, hb⟩
    rw [card_erase_of_mem hb]
    omega
  · rw [erase_eq_of_notMem hb]
    rcases hkeep with hlt | hmem
    · omega
    · exact absurd hmem hb

/-- There is always room for the missing algorithms. -/
lemma length_keepTypes_le (hj : j + missing.card ≤ 7) :
    j + (keepTypes j missing seen algoTypes).1.length + (keepTypes j missing seen algoTypes).2.card ≤ 7 := by
  induction algoTypes generalizing j missing seen with
  | nil => simpa [keepTypes] using hj
  | cons b algoTypes ih =>
    rw [keepTypes]
    split_ifs with h7 hkeep
    · simpa using hj
    · have hcard := card_erase_missing_le hj hkeep.1
      have hlength := @ih (j + 1) (missing.erase b) (insert b seen) hcard
      simp only [length_cons]
      omega
    · exact ih hj

lemma keepTypes_sublist : (keepTypes j missing seen algoTypes).1.Sublist algoTypes := by
  induction algoTypes generalizing j missing seen with
  | nil => simp [keepTypes]
  | cons b algoTypes ih =>
    rw [keepTypes]
    split_ifs
    · exact nil_sublist _
    · exact ih.cons_cons b
    · exact ih.cons b

/-- The missing algorithms that come later in the list are kept. -/
lemma mem_keepTypes_of_missing (hj : j + missing.card ≤ 7) (hseen : Disjoint missing seen)
    (ha : a ∈ missing) (hmem : a ∈ algoTypes) : a ∈ (keepTypes j missing seen algoTypes).1 := by
  induction algoTypes generalizing j missing seen with
  | nil => cases hmem
  | cons b algoTypes ih =>
    have hpos := card_pos.mpr ⟨a, ha⟩
    rw [keepTypes, if_neg (by omega)]
    split_ifs with hkeep
    · by_cases hab : a = b
      · rw [hab]
        exact mem_cons_self
      · refine mem_cons_of_mem b (ih (card_erase_missing_le hj hkeep.1) ?_
          (mem_erase.mpr ⟨hab, ha⟩) (mem_of_ne_of_mem hab hmem))
        rw [disjoint_insert_right]
        exact ⟨notMem_erase b missing, hseen.mono_left (erase_subset b missing)⟩
    · have hab : a ≠ b := by
        rintro rfl
        exact hkeep ⟨.inr ha, disjoint_left.mp hseen ha⟩
      exact ih hj hseen ha (mem_of_ne_of_mem hab hmem)

lemma keepTypes_of_complete (hlength : j + algoTypes.length ≤ 7) (hnodup : algoTypes.Nodup)
    (hseen : ∀ a ∈ algoTypes, a ∉ seen) (hmissing : ∀ a ∈ missing, a ∈ algoTypes) :
    keepTypes j missing seen algoTypes = (algoTypes, ∅) := by
  induction algoTypes generalizing j missing seen with
  | nil =>
    have hempty : missing = ∅ := eq_empty_of_forall_notMem fun a ha => by
      simpa using hmissing a ha
    rw [keepTypes, hempty]
  | cons b algoTypes ih =>
    rw [length_cons] at hlength
    obtain ⟨hb, hnodup⟩ := nodup_cons.mp hnodup
    have hroom : j + missing.card < 7 ∨ b ∈ missing := by
      by_cases hbm : b ∈ missing
      · exact .inr hbm
      · have hsub : missing ⊆ algoTypes.toFinset := by
          intro a ha
          have hne : a ≠ b := fun h => hbm (h ▸ ha)
          simpa [hne] using hmissing a ha
        have hcard := (card_le_card hsub).trans algoTypes.toFinset_card_le
        left
        omega
    rw [keepTypes, if_neg (by omega), if_pos ⟨hroom, hseen b mem_cons_self⟩, ih (by omega) hnodup]
    · intro a ha hmem
      rcases mem_insert.mp hmem with rfl | hmem
      · exact hb ha
      · exact hseen a (mem_cons_of_mem b ha) hmem
    · intro a ha
      obtain ⟨hne, ha⟩ := mem_erase.mp ha
      exact mem_of_ne_of_mem hne (hmissing a ha)

/-- A completed list fits in an array, without repetition, with the mandatory algorithms. -/
theorem complete_addMandatory (t : AlgoType) (algoTypes : Bytes) :
    t.Complete (addMandatoryCryptoTypesIfNeeded t algoTypes) := by
  have hmandatory := nodup_getMandatoryCryptoTypes t
  have hcard : (getMandatoryCryptoTypes t).toFinset.card ≤ 2 :=
    (toFinset_card_le _).trans (length_getMandatoryCryptoTypes_le t)
  have hmissing := @keepTypes_missing 0 (getMandatoryCryptoTypes t).toFinset ∅ algoTypes
  have hroom := @length_keepTypes_le 0 (getMandatoryCryptoTypes t).toFinset ∅ algoTypes (by omega)
  have hnodup := @nodup_keepTypes 0 (getMandatoryCryptoTypes t).toFinset ∅ algoTypes
  rw [addMandatoryCryptoTypesIfNeeded]
  generalize keepTypes 0 (getMandatoryCryptoTypes t).toFinset ∅ algoTypes = kept at *
  refine ⟨?_, ?_, ?_⟩
  · have hadded : ((getMandatoryCryptoTypes t).filter (· ∈ kept.2)).length ≤ kept.2.card := by
      rw [← toFinset_card_of_nodup (hmandatory.filter _)]
      refine card_le_card fun a ha => ?_
      simpa using (mem_filter.mp (mem_toFinset.mp ha)).2
    rw [length_append]
    omega
  · refine Nodup.append hnodup (hmandatory.filter _) fun a ha hadded => ?_
    have hleft := (mem_filter.mp hadded).2
    rw [hmissing] at hleft
    simp [ha] at hleft
  · intro a ha
    by_cases hkept : a ∈ kept.1
    · exact mem_append_left _ hkept
    · refine mem_append_right _ (mem_filter.mpr ⟨ha, ?_⟩)
      rw [hmissing]
      simpa [hkept] using ha

lemma mem_of_addMandatory (h : a ∈ addMandatoryCryptoTypesIfNeeded t algoTypes) :
    a ∈ algoTypes ∨ a ∈ getMandatoryCryptoTypes t := by
  rcases mem_append.mp h with h | h
  · exact .inl (mem_of_keepTypes h).1
  · exact .inr (mem_of_mem_filter h)

/-- A complete list is left as it is. -/
theorem addMandatory_of_complete (h : t.Complete algoTypes) :
    addMandatoryCryptoTypesIfNeeded t algoTypes = algoTypes := by
  rw [addMandatoryCryptoTypesIfNeeded, keepTypes_of_complete (by simpa using h.length_le) h.nodup
    (by simp) (by simpa using h.mandatory)]
  simp

/-- What is made of a list: it is complete, its own algorithms come in their order, and completing it
again changes nothing. -/
structure AlgoType.CompletedFrom (t : AlgoType) (algoTypes completed : Bytes) : Prop where
  complete : t.Complete completed
  order : (completed.filter (· ∈ algoTypes)).Sublist algoTypes
  again : addMandatoryCryptoTypesIfNeeded t completed = completed

/-- The list may be one cut from another, if no mandatory algorithm was cut off. -/
lemma completedFrom_addMandatory {l : Bytes} (hcut : algoTypes.Sublist l)
    (hmandatory : ∀ a ∈ getMandatoryCryptoTypes t, a ∈ l → a ∈ algoTypes) :
    t.CompletedFrom l (addMandatoryCryptoTypesIfNeeded t algoTypes) := by
  have hcomplete := complete_addMandatory t algoTypes
  refine ⟨hcomplete, ?_, addMandatory_of_complete hcomplete⟩
  have hcard : 0 + (getMandatoryCryptoTypes t).toFinset.card ≤ 7 := by
    have := (toFinset_card_le _).trans (length_getMandatoryCryptoTypes_le t)
    omega
  -- what is appended is not in the list, else it would have been kept
  have hadded : ((getMandatoryCryptoTypes t).filter
      (· ∈ (keepTypes 0 (getMandatoryCryptoTypes t).toFinset ∅ algoTypes).2)).filter (· ∈ l) = [] := by
    refine filter_eq_nil_iff.mpr fun a ha hl => ?_
    obtain ⟨ha, hleft⟩ := mem_filter.mp ha
    rw [keepTypes_missing] at hleft
    have hkept := mem_keepTypes_of_missing hcard (disjoint_empty_right _)
      (mem_toFinset.mpr ha) (hmandatory a ha (of_decide_eq_true hl))
    simp [hkept] at hleft
  rw [addMandatoryCryptoTypesIfNeeded, filter_append, hadded, append_nil]
  exact filter_sublist.trans (keepTypes_sublist.trans hcut)

end mandatory

end Bzrtp
