import LinphoneSdk.Bzrtp.Algorithms
import LinphoneSdk.Bzrtp.KeyDerivation
import LinphoneSdk.Lib.Exec

/-!
# Agreement on the algorithms

The lists of a context are set by default, by the user (`bzrtp_setSupportedCryptoTypes`), then
completed when the context is initialised. Each side selects the algorithms of a channel from its own
lists and the ones in the Hello message of the other (`bzrtp_cryptoAlgoAgreement`), and sets the
functions and the lengths used by the channel (`bzrtp_updateCryptoFunctionPointers`).
-/

namespace Bzrtp

open Preference Exec List Option

/-! ### Lists of a context or of a Hello message -/

structure CryptoTypes where
  supportedHash : Bytes
  supportedCipher : Bytes
  supportedAuthTag : Bytes
  supportedKeyAgreement : Bytes
  supportedSas : Bytes
  deriving DecidableEq, Repr

namespace CryptoTypes

def get (c : CryptoTypes) : AlgoType → Bytes
  | .hash => c.supportedHash
  | .cipherBlock => c.supportedCipher
  | .authTag => c.supportedAuthTag
  | .keyAgreement => c.supportedKeyAgreement
  | .sas => c.supportedSas

def set (c : CryptoTypes) (algoTypes : Bytes) : AlgoType → CryptoTypes
  | .hash => { c with supportedHash := algoTypes }
  | .cipherBlock => { c with supportedCipher := algoTypes }
  | .authTag => { c with supportedAuthTag := algoTypes }
  | .keyAgreement => { c with supportedKeyAgreement := algoTypes }
  | .sas => { c with supportedSas := algoTypes }

def ofFun (f : AlgoType → Bytes) : CryptoTypes :=
  ⟨f .hash, f .cipherBlock, f .authTag, f .keyAgreement, f .sas⟩

@[simp] lemma get_set (c : CryptoTypes) (algoTypes : Bytes) (t t' : AlgoType) :
    (c.set algoTypes t).get t' = if t' = t then algoTypes else c.get t' := by
  cases t <;> cases t' <;> rfl

@[simp] lemma get_ofFun (f : AlgoType → Bytes) (t : AlgoType) : (ofFun f).get t = f t := by
  cases t <;> rfl

@[ext] lemma ext_get {c c' : CryptoTypes} (h : ∀ t, c.get t = c'.get t) : c = c' := by
  obtain ⟨hash, cipher, authTag, keyAgreement, sas⟩ := c
  rw [show c' = ofFun c'.get from rfl, ofFun, ← h .hash, ← h .cipherBlock, ← h .authTag, ← h .keyAgreement, ← h .sas]
  rfl

def readTypes (t : AlgoType) (blocks : List Bytes) : Bytes :=
  addMandatoryCryptoTypesIfNeeded t (blocks.map fun block => cryptoAlgoTypeStringToInt block t)

/-- The lists the peer reads in the Hello message of a context. -/
def received (c : CryptoTypes) : CryptoTypes :=
  ofFun fun t => readTypes t ((c.get t).map cryptoAlgoTypeIntToString)

/-- Each list is complete, with algorithms that have a type block. -/
structure Sendable (c : CryptoTypes) : Prop where
  complete : ∀ t : AlgoType, t.Complete (c.get t)
  known : ∀ t : AlgoType, ∀ a ∈ c.get t, a ∈ t.known

lemma readTypes_intToString {t : AlgoType} {l : Bytes} (hcomplete : t.Complete l)
    (hknown : ∀ a ∈ l, a ∈ t.known) : readTypes t (l.map cryptoAlgoTypeIntToString) = l := by
  have hread : (l.map cryptoAlgoTypeIntToString).map (cryptoAlgoTypeStringToInt · t) = l := by
    rw [List.map_map]
    conv_rhs => rw [← List.map_id l]
    exact List.map_congr_left fun a ha => cryptoAlgoTypeStringToInt_intToString (hknown a ha)
  rw [readTypes, hread, addMandatory_of_complete hcomplete]

/-- The peer reads the lists of the context. -/
lemma Sendable.received {c : CryptoTypes} (h : c.Sendable) : c.received = c := by
  ext t : 1
  rw [CryptoTypes.received, get_ofFun, readTypes_intToString (h.complete t) (h.known t)]

end CryptoTypes

/-! ### Contexts -/

/-- The part of a context the user configures. -/
structure CryptoSettings extends CryptoTypes where
  isInitialised : Bool
  deriving DecidableEq, Repr

/-- Errors of `bzrtp_setSupportedCryptoTypes`. -/
inductive SettingsError where
  | CONTEXTNOTREADY
  deriving DecidableEq, Repr

namespace CryptoSettings

def createBzrtpContext (available : UInt32) : CryptoSettings where
  toCryptoTypes := .ofFun (getAvailableCryptoTypes available)
  isInitialised := false

def setSupportedCryptoTypes (available : UInt32) (algoType : UInt8) (supportedTypes : Bytes)
    (zrtpContext : CryptoSettings) : Except SettingsError CryptoSettings :=
  if zrtpContext.isInitialised then .error .CONTEXTNOTREADY
  else
    match AlgoType.ofInt algoType with
    | none => .ok zrtpContext
    | some t =>
      let common := selectCommonAlgo supportedTypes (getAllAvailableCryptoTypes available t)
      .ok { zrtpContext with
        toCryptoTypes := zrtpContext.set (addMandatoryCryptoTypesIfNeeded t common) t }

def appendIfRoom (algo : UInt8) (algoTypes : Bytes) : Bytes :=
  if algoTypes.length < 7 ∧ algo ∉ algoTypes then algoTypes ++ [algo] else algoTypes

/-- The lists changed by `bzrtp_initBzrtpContext`: a post quantum key agreement needs AES3 and
SHA512. -/
def initBzrtpContext (zrtpContext : CryptoSettings) : CryptoSettings :=
  if zrtpContext.supportedKeyAgreement.any isPostQuantum then
    { zrtpContext with
      isInitialised := true
      supportedCipher := appendIfRoom ZRTP_CIPHER_AES3 zrtpContext.supportedCipher
      supportedHash := appendIfRoom ZRTP_HASH_S512 zrtpContext.supportedHash }
  else { zrtpContext with isInitialised := true }

/-- The contexts a user may configure, with the key agreements of the crypto library. -/
inductive Configured (available : UInt32) : CryptoSettings → Prop where
  | create : Configured available (createBzrtpContext available)
  | set {c c' : CryptoSettings} (algoType : UInt8) (supportedTypes : Bytes)
      (h : Configured available c)
      (hset : setSupportedCryptoTypes available algoType supportedTypes c = .ok c') :
      Configured available c'
  | initialise {c : CryptoSettings} (h : Configured available c) :
      Configured available (initBzrtpContext c)

end CryptoSettings

/-! ### Selection -/

inductive CryptoAgreementError where
  | INVALIDCONTEXT
  | INVALIDMESSAGE
  | NOCOMMONALGOFOUND
  | INVALIDCIPHER
  | INVALIDHASH
  | INVALIDAUTHTAG
  | INVALIDSAS
  deriving DecidableEq, Repr

/-- The algorithms of a channel, with the functions and the lengths set from them. -/
structure ChannelAlgos where
  hashAlgo : UInt8
  cipherAlgo : UInt8
  authTagAlgo : UInt8
  keyAgreementAlgo : UInt8
  sasAlgo : UInt8
  hashFunction : Option HashAlgo
  hmacFunction : Option HashAlgo
  hashLength : UInt8
  cipherEncryptionFunction : Option CipherAlgo
  cipherDecryptionFunction : Option CipherAlgo
  cipherKeyLength : UInt8
  sasFunction : Option SasAlgo
  sasLength : UInt8
  deriving DecidableEq, Repr

namespace ChannelAlgos

def algo (ch : ChannelAlgos) : AlgoType → UInt8
  | .hash => ch.hashAlgo
  | .cipherBlock => ch.cipherAlgo
  | .authTag => ch.authTagAlgo
  | .keyAgreement => ch.keyAgreementAlgo
  | .sas => ch.sasAlgo

/-- The functions of a hash algorithm, `none` where the source takes its default branch. -/
def hashPointers (hashAlgo : UInt8) : Option (Option HashAlgo) :=
  if hashAlgo = ZRTP_HASH_S256 then some (some .S256)
  else if hashAlgo = ZRTP_HASH_S384 then some (some .S384)
  else if hashAlgo = ZRTP_HASH_S512 then some (some .S512)
  else if hashAlgo = ZRTP_UNSET_ALGO then some none
  else none

def cipherPointers (cipherAlgo : UInt8) : Option (Option CipherAlgo) :=
  if cipherAlgo = ZRTP_CIPHER_AES1 then some (some .AES1)
  else if cipherAlgo = ZRTP_CIPHER_AES3 then some (some .AES3)
  else if cipherAlgo = ZRTP_UNSET_ALGO then some none
  else none

def sasPointer (sasAlgo : UInt8) : Option (Option SasAlgo) :=
  if sasAlgo = ZRTP_SAS_B32 then some (some .B32)
  else if sasAlgo = ZRTP_SAS_B256 then some (some .B256)
  else if sasAlgo = ZRTP_UNSET_ALGO then some none
  else none

/-- The key agreements managed by the state machine. -/
def validKeyAgreements : Bytes :=
  [ZRTP_KEYAGREEMENT_DH2k, ZRTP_KEYAGREEMENT_DH3k, ZRTP_KEYAGREEMENT_X255, ZRTP_KEYAGREEMENT_X448,
    ZRTP_KEYAGREEMENT_K255, ZRTP_KEYAGREEMENT_K448, ZRTP_KEYAGREEMENT_MLK1, ZRTP_KEYAGREEMENT_MLK2,
    ZRTP_KEYAGREEMENT_MLK3, ZRTP_KEYAGREEMENT_KYB1, ZRTP_KEYAGREEMENT_KYB2, ZRTP_KEYAGREEMENT_KYB3,
    ZRTP_KEYAGREEMENT_HQC1, ZRTP_KEYAGREEMENT_HQC2, ZRTP_KEYAGREEMENT_HQC3,
    ZRTP_KEYAGREEMENT_K255_KYB512, ZRTP_KEYAGREEMENT_K255_MLK512, ZRTP_KEYAGREEMENT_K255_HQC128,
    ZRTP_KEYAGREEMENT_K448_KYB1024, ZRTP_KEYAGREEMENT_K448_MLK1024, ZRTP_KEYAGREEMENT_K448_HQC256,
    ZRTP_KEYAGREEMENT_K255_KYB512_HQC128, ZRTP_KEYAGREEMENT_K448_KYB1024_HQC256,
    ZRTP_KEYAGREEMENT_Mult, ZRTP_KEYAGREEMENT_Prsh, ZRTP_UNSET_ALGO]

/-- Set the functions of the channel, in the order of the source: the ones set before an unknown
algorithm stay. -/
def updateCryptoFunctionPointers : EStateM CryptoAgreementError ChannelAlgos Unit := do
  let ch ← get
  match hashPointers ch.hashAlgo with
  | none => throw .INVALIDHASH
  | some f => modify fun ch => { ch with
      hashFunction := f, hmacFunction := f, hashLength := f.elim 0 HashAlgo.hashLength }
  match cipherPointers ch.cipherAlgo with
  | none => throw .INVALIDCIPHER
  | some f => modify fun ch => { ch with
      cipherEncryptionFunction := f, cipherDecryptionFunction := f
      cipherKeyLength := f.elim 0 CipherAlgo.cipherKeyLength }
  if ch.keyAgreementAlgo ∉ validKeyAgreements then throw .INVALIDCIPHER
  match sasPointer ch.sasAlgo with
  | none => throw .INVALIDSAS
  | some f => modify fun ch => { ch with
      sasFunction := f
      sasLength := match f with
        | some .B32 => 5
        | some .B256 => 32
        | none => 0 }

/-- The functions and the lengths of the channel are those of its algorithms. -/
structure Consistent (ch : ChannelAlgos) : Prop where
  hashFunction : hashPointers ch.hashAlgo = some ch.hashFunction
  hmacFunction : ch.hmacFunction = ch.hashFunction
  hashLength : ch.hashLength = ch.hashFunction.elim 0 HashAlgo.hashLength
  cipherEncryptionFunction : cipherPointers ch.cipherAlgo = some ch.cipherEncryptionFunction
  cipherDecryptionFunction : ch.cipherDecryptionFunction = ch.cipherEncryptionFunction
  cipherKeyLength : ch.cipherKeyLength = ch.cipherEncryptionFunction.elim 0 CipherAlgo.cipherKeyLength
  keyAgreement : ch.keyAgreementAlgo ∈ validKeyAgreements
  sasFunction : sasPointer ch.sasAlgo = some ch.sasFunction

/-- The algorithms the functions of a channel may be set for. -/
structure Settable (ch : ChannelAlgos) : Prop where
  hash : (hashPointers ch.hashAlgo).isSome
  cipher : (cipherPointers ch.cipherAlgo).isSome
  keyAgreement : ch.keyAgreementAlgo ∈ validKeyAgreements
  sas : (sasPointer ch.sasAlgo).isSome

lemma wp_updateCryptoFunctionPointers {ch : ChannelAlgos} (h : ch.Settable) :
    wp updateCryptoFunctionPointers (fun _ ch' => ch'.Consistent ∧ ch'.algo = ch.algo) (fun _ _ => False) ch := by
  obtain ⟨f, hf⟩ := isSome_iff_exists.mp h.hash
  obtain ⟨g, hg⟩ := isSome_iff_exists.mp h.cipher
  obtain ⟨sas, hsas⟩ := isSome_iff_exists.mp h.sas
  simp only [updateCryptoFunctionPointers, wp_bind, wp_get, hf, hg, hsas, wp_modify,
    not_not.mpr h.keyAgreement, if_false]
  exact ⟨⟨hf, rfl, rfl, hg, rfl, rfl, h.keyAgreement, hsas⟩, funext fun t => by cases t <;> rfl⟩

/-- Key agreements that need the strongest hash and cipher available. -/
def requiresStrong (keyAgreementAlgo : UInt8) : Bool :=
  keyAgreementAlgo == ZRTP_KEYAGREEMENT_EC38 || isPostQuantum keyAgreementAlgo ||
    keyAgreementAlgo == ZRTP_KEYAGREEMENT_X448 || keyAgreementAlgo == ZRTP_KEYAGREEMENT_K448

/-- The algorithm selected in a common list: the first one, or the strongest one when the key
agreement needs it. -/
def selectAlgo (keyAgreementAlgo : UInt8) (strongest : Bytes) (weakest : UInt8) (commonType : Bytes) : UInt8 :=
  if requiresStrong keyAgreementAlgo then (strongest.find? (· ∈ commonType)).getD weakest
  else commonType.headD ZRTP_UNSET_ALGO

/-- The first choice when it is the same for both, or the fastest of both first choices. -/
def selectKeyAgreement (selfCommon peerCommon : Bytes) : UInt8 :=
  let self := selfCommon.headD ZRTP_UNSET_ALGO
  let peer := peerCommon.headD ZRTP_UNSET_ALGO
  if self = peer then self
  -- the values are in the fast to slow order
  else if peer < self then peer
  else self

def cryptoAlgoAgreement (zrtpContext peerHelloMessage : CryptoTypes) :
    EStateM CryptoAgreementError ChannelAlgos Unit := do
  if zrtpContext.supportedKeyAgreement.length = 0 then throw .INVALIDCONTEXT
  if peerHelloMessage.supportedKeyAgreement.length = 0 then throw .INVALIDMESSAGE
  let common (t : AlgoType) := selectCommonAlgo (zrtpContext.get t) (peerHelloMessage.get t)
  if (common .keyAgreement).length = 0 then throw .NOCOMMONALGOFOUND
  let peerCommon :=
    selectCommonAlgo peerHelloMessage.supportedKeyAgreement zrtpContext.supportedKeyAgreement
  let keyAgreementAlgo := selectKeyAgreement (common .keyAgreement) peerCommon
  modify fun ch => { ch with keyAgreementAlgo := keyAgreementAlgo }
  if (common .cipherBlock).length = 0 then throw .INVALIDCIPHER
  modify fun ch => { ch with
    cipherAlgo := selectAlgo keyAgreementAlgo [ZRTP_CIPHER_AES3, ZRTP_CIPHER_AES2] ZRTP_CIPHER_AES1
      (common .cipherBlock) }
  if (common .hash).length = 0 then throw .INVALIDHASH
  modify fun ch => { ch with
    hashAlgo := selectAlgo keyAgreementAlgo [ZRTP_HASH_S512, ZRTP_HASH_S384] ZRTP_HASH_S256
      (common .hash) }
  if (common .authTag).length = 0 then throw .INVALIDAUTHTAG
  modify fun ch => { ch with authTagAlgo := (common .authTag).headD ZRTP_UNSET_ALGO }
  if (common .sas).length = 0 then throw .INVALIDSAS
  modify fun ch => { ch with sasAlgo := (common .sas).headD ZRTP_UNSET_ALGO }
  updateCryptoFunctionPointers

end ChannelAlgos

/-! ### Lists of a configured context -/

section lists

variable {available : UInt32} {t : AlgoType} {a : UInt8} {l : Bytes}

lemma sublist_provided (available : UInt32) (l : List (List UInt32 × UInt8)) :
    (provided available l).Sublist (l.map Prod.snd) :=
  filter_sublist.map Prod.snd

/-- The algorithms of a build with the whole crypto library. -/
def allCryptoTypes : AlgoType → Bytes
  | .keyAgreement => preferredKeyAgreements.map Prod.snd ++ ZRTP_KEYAGREEMENT_DH3k ::
      (otherKeyAgreements.map Prod.snd ++ [ZRTP_KEYAGREEMENT_Mult])
  | t => getAllAvailableCryptoTypes 0 t

lemma sublist_allCryptoTypes (available : UInt32) (t : AlgoType) :
    (getAllAvailableCryptoTypes available t).Sublist (allCryptoTypes t) := by
  cases t with
  | keyAgreement =>
    exact (sublist_provided available _).append
      (((sublist_provided available _).append (Sublist.refl _)).cons_cons _)
  | hash | cipherBlock | authTag | sas => exact Sublist.refl _

lemma nodup_getAllAvailable (available : UInt32) (t : AlgoType) : (getAllAvailableCryptoTypes available t).Nodup := by
  have hall : (allCryptoTypes t).Nodup := by cases t <;> decide
  exact (sublist_allCryptoTypes available t).nodup hall

/-- The algorithms of a build have a type block. -/
lemma known_of_getAllAvailable (ha : a ∈ getAllAvailableCryptoTypes available t) : a ∈ t.known := by
  have hall : ∀ b ∈ allCryptoTypes t, b ∈ t.known := by cases t <;> decide +kernel
  exact hall a ((sublist_allCryptoTypes available t).subset ha)

lemma mandatory_getAllAvailable (available : UInt32) (ha : a ∈ getMandatoryCryptoTypes t) :
    a ∈ getAllAvailableCryptoTypes available t := by
  cases t with
  | keyAgreement =>
    simp only [getMandatoryCryptoTypes, mem_cons, not_mem_nil, or_false] at ha
    rcases ha with rfl | rfl <;> simp [getAllAvailableCryptoTypes]
  | hash | cipherBlock | authTag | sas =>
    simp only [getMandatoryCryptoTypes, mem_cons, not_mem_nil, or_false] at ha
    simp [getAllAvailableCryptoTypes, ha]

/-- The first key agreements of a list that is too long: DH3k is among them. -/
lemma take_getAllAvailable (hlength : 7 ≤ (getAllAvailableCryptoTypes available .keyAgreement).length) :
    ∃ n, (getAllAvailableCryptoTypes available .keyAgreement).take 6 =
      provided available preferredKeyAgreements ++ ZRTP_KEYAGREEMENT_DH3k ::
        (provided available otherKeyAgreements).take n := by
  have hpre : (provided available preferredKeyAgreements).length ≤ 2 :=
    (sublist_provided available _).length_le
  rw [getAllAvailableCryptoTypes, length_append, length_cons, length_append, length_singleton] at hlength
  refine ⟨5 - (provided available preferredKeyAgreements).length, ?_⟩
  rw [getAllAvailableCryptoTypes, take_append, take_of_length_le (by omega),
    show 6 - (provided available preferredKeyAgreements).length =
      5 - (provided available preferredKeyAgreements).length + 1 by omega, take_succ_cons,
    take_append_of_le_length (by omega)]

/-- The default lists are complete. -/
lemma complete_getAvailable (available : UInt32) (t : AlgoType) :
    t.Complete (getAvailableCryptoTypes available t) := by
  have hnodup := nodup_getAllAvailable available t
  cases t with
  | keyAgreement =>
    rw [getAvailableCryptoTypes]
    split_ifs with hlength
    · exact ⟨by omega, hnodup, fun a ha => mandatory_getAllAvailable available ha⟩
    · obtain ⟨n, hn⟩ := take_getAllAvailable (not_lt.mp hlength)
      have hsub : (provided available preferredKeyAgreements ++ ZRTP_KEYAGREEMENT_DH3k ::
          ((provided available otherKeyAgreements).take n ++ [ZRTP_KEYAGREEMENT_Mult])).Sublist
          (getAllAvailableCryptoTypes available .keyAgreement) :=
        (Sublist.refl _).append
          (((take_sublist n _).append (Sublist.refl _)).cons_cons _)
      refine ⟨by simp, ?_, fun a ha => ?_⟩
      · rw [hn, append_assoc, cons_append]
        exact hsub.nodup hnodup
      · simp only [getMandatoryCryptoTypes, mem_cons, not_mem_nil, or_false] at ha
        rcases ha with rfl | rfl <;> simp [hn]
  | hash | cipherBlock | authTag | sas =>
    exact ⟨by simp [getAvailableCryptoTypes, getAllAvailableCryptoTypes], hnodup,
      fun a ha => mandatory_getAllAvailable available ha⟩

/-- The list may be the input itself or, set by the user in at most 7 entries, first cut to what the
build has. The other lists stay. -/
theorem completedFrom_mandatory (t : AlgoType) (algoTypes : Bytes) :
    t.CompletedFrom algoTypes (addMandatoryCryptoTypesIfNeeded t algoTypes) ∧
      ∀ (available : UInt32) (algoType : UInt8) (zrtpContext : CryptoSettings),
        AlgoType.ofInt algoType = some t → algoTypes.length ≤ 7 → zrtpContext.isInitialised = false →
        ∃ zrtpContext', zrtpContext.setSupportedCryptoTypes available algoType algoTypes = .ok zrtpContext' ∧
          t.CompletedFrom algoTypes (zrtpContext'.get t) ∧
          ∀ t', t' ≠ t → zrtpContext'.get t' = zrtpContext.get t' := by
  constructor
  · exact completedFrom_addMandatory (Sublist.refl _) fun a _ ha => ha
  · intro available algoType zrtpContext htype hlength hinit
    refine ⟨_, by simp only [CryptoSettings.setSupportedCryptoTypes, hinit, htype,
      Bool.false_eq_true, if_false]; rfl, ?_, fun t' ht' => ?_⟩
    · rw [CryptoTypes.get_set, if_pos rfl]
      refine completedFrom_addMandatory selectCommonLoop_sublist fun a ha hmem => ?_
      exact (mem_selectCommonAlgo_iff hlength).mpr ⟨hmem, mandatory_getAllAvailable available ha⟩
    · rw [CryptoTypes.get_set, if_neg ht']

/-- A list of the user that is full, with a repetition and one of the two mandatory algorithms. -/
theorem completedFrom_mandatory_full :
    let algoTypes := [ZRTP_KEYAGREEMENT_X255, ZRTP_KEYAGREEMENT_X448, ZRTP_KEYAGREEMENT_MLK1,
      ZRTP_KEYAGREEMENT_X255, ZRTP_KEYAGREEMENT_KYB1, ZRTP_KEYAGREEMENT_DH2k, ZRTP_KEYAGREEMENT_Mult]
    ∃ zrtpContext', (CryptoSettings.createBzrtpContext 0x7fff).setSupportedCryptoTypes 0x7fff 0x08
        algoTypes = .ok zrtpContext' ∧
      AlgoType.keyAgreement.CompletedFrom algoTypes (zrtpContext'.get .keyAgreement) ∧
      ∀ t', t' ≠ .keyAgreement → zrtpContext'.get t' = (CryptoSettings.createBzrtpContext 0x7fff).get t' :=
  (completedFrom_mandatory .keyAgreement _).2 0x7fff 0x08 (.createBzrtpContext 0x7fff) (by decide)
    (by decide) rfl

lemma mem_of_getAvailable (ha : a ∈ getAvailableCryptoTypes available t) :
    a ∈ getAllAvailableCryptoTypes available t := by
  cases t with
  | keyAgreement =>
    rw [getAvailableCryptoTypes] at ha
    split_ifs at ha
    · exact ha
    · rcases mem_append.mp ha with ha | ha
      · exact mem_of_mem_take ha
      · rw [mem_singleton.mp ha]
        simp [getAllAvailableCryptoTypes]
  | hash | cipherBlock | authTag | sas => exact ha

end lists

namespace CryptoTypes

/-- Each list is complete, with algorithms of the build. -/
structure Usable (available : UInt32) (c : CryptoTypes) : Prop where
  complete : ∀ t : AlgoType, t.Complete (c.get t)
  implemented : ∀ t, ∀ a ∈ c.get t, a ∈ getAllAvailableCryptoTypes available t

variable {available : UInt32} {c : CryptoTypes}

lemma Usable.sendable (h : c.Usable available) : c.Sendable where
  complete := h.complete
  known t a ha := known_of_getAllAvailable (h.implemented t a ha)

lemma Usable.set {t : AlgoType} {l : Bytes} (h : c.Usable available) (hcomplete : t.Complete l)
    (himplemented : ∀ a ∈ l, a ∈ getAllAvailableCryptoTypes available t) : (c.set l t).Usable available := by
  constructor
  · intro t'
    rw [get_set]
    split_ifs with ht
    · rw [ht]; exact hcomplete
    · exact h.complete t'
  · intro t' a ha
    rw [get_set] at ha
    split_ifs at ha with ht
    · rw [ht]; exact himplemented a ha
    · exact h.implemented t' a ha

lemma Usable.appendIfRoom {t : AlgoType} {algo : UInt8} (h : c.Usable available)
    (halgo : algo ∈ getAllAvailableCryptoTypes available t) :
    (c.set (CryptoSettings.appendIfRoom algo (c.get t)) t).Usable available := by
  rw [CryptoSettings.appendIfRoom]
  split_ifs with hroom
  · refine h.set ⟨?_, ?_, ?_⟩ ?_
    · rw [length_append, length_singleton]
      omega
    · exact (h.complete t).nodup.append (nodup_singleton algo) (by simpa using hroom.2)
    · exact fun a ha => mem_append_left _ ((h.complete t).mandatory a ha)
    · intro a ha
      rcases mem_append.mp ha with ha | ha
      · exact h.implemented t a ha
      · rw [mem_singleton.mp ha]
        exact halgo
  · exact h.set (h.complete t) (h.implemented t)

end CryptoTypes

namespace CryptoSettings

/-- The lists of a configured context. -/
theorem Configured.usable {available : UInt32} {c : CryptoSettings} (h : Configured available c) :
    c.Usable available := by
  induction h with
  | create =>
    constructor
    · intro t
      rw [createBzrtpContext, CryptoTypes.get_ofFun]
      exact complete_getAvailable available t
    · intro t a ha
      rw [createBzrtpContext, CryptoTypes.get_ofFun] at ha
      exact mem_of_getAvailable ha
  | set algoType supportedTypes h hset ih =>
    rw [setSupportedCryptoTypes] at hset
    split_ifs at hset
    cases ht : AlgoType.ofInt algoType with
    | none =>
      rw [ht] at hset
      cases hset
      exact ih
    | some t =>
      rw [ht] at hset
      cases hset
      refine ih.set (complete_addMandatory t _) fun a ha => ?_
      rcases mem_of_addMandatory ha with ha | ha
      · exact (mem_of_selectCommonAlgo ha).2
      · exact mandatory_getAllAvailable available ha
  | @initialise c h ih =>
    rw [initBzrtpContext]
    split_ifs
    · have hcipher := ih.appendIfRoom
        (show ZRTP_CIPHER_AES3 ∈ getAllAvailableCryptoTypes available .cipherBlock by
          simp [getAllAvailableCryptoTypes])
      exact hcipher.appendIfRoom
        (show ZRTP_HASH_S512 ∈ getAllAvailableCryptoTypes available .hash by
          simp [getAllAvailableCryptoTypes])
    · exact ih

end CryptoSettings

/-! ### Agreement -/

namespace ChannelAlgos

variable {self peer : CryptoTypes} {t : AlgoType} {a : UInt8} {availableSelf availablePeer : UInt32}

lemma mandatory_common (hself : t.Complete (self.get t)) (hpeer : t.Complete (peer.get t))
    (ha : a ∈ getMandatoryCryptoTypes t) : a ∈ selectCommonAlgo (self.get t) (peer.get t) := by
  rw [mem_selectCommonAlgo_iff hself.length_le]
  exact ⟨hself.mandatory a ha, hpeer.mandatory a ha⟩

lemma headD_mem {l : Bytes} (ha : a ∈ l) : l.headD ZRTP_UNSET_ALGO ∈ l := by
  cases l with
  | nil => cases ha
  | cons b l => exact mem_cons_self

lemma selectAlgo_mem {ka weakest : UInt8} {strongest common : Bytes} (h : weakest ∈ common) :
    selectAlgo ka strongest weakest common ∈ common := by
  rw [selectAlgo]
  split_ifs
  · cases hfind : strongest.find? (· ∈ common) with
    | none => exact h
    | some a => simpa using find?_some hfind
  · exact headD_mem h

/-- The key agreement is the favourite of one of the sides, the fastest one. -/
lemma agreed_selectKeyAgreement (hself : t.Complete (self.get t)) (hpeer : t.Complete (peer.get t))
    (ha : a ∈ getMandatoryCryptoTypes t) : agreed UInt8.toNat (self.get t) (peer.get t) = some (selectKeyAgreement
      (selectCommonAlgo (self.get t) (peer.get t)) (selectCommonAlgo (peer.get t) (self.get t))) := by
  obtain ⟨b, hb⟩ := exists_favourite (hself.mandatory a ha) (hpeer.mandatory a ha)
  obtain ⟨c, hc⟩ := exists_favourite (hpeer.mandatory a ha) (hself.mandatory a ha)
  rw [agreed, selectKeyAgreement, hb, hc, headD_eq_head?_getD, headD_eq_head?_getD,
    head?_selectCommonAlgo, head?_selectCommonAlgo, hb, hc]
  simp only [bind_some, map_some, getD_some, UInt8.lt_iff_toNat_lt]

/-- What a side selects. -/
structure Selected (c c' : CryptoTypes) (ch : ChannelAlgos) : Prop where
  consistent : ch.Consistent
  keyAgreement : agreed UInt8.toNat c.supportedKeyAgreement c'.supportedKeyAgreement = some ch.keyAgreementAlgo
  hash : ch.hashAlgo = selectAlgo ch.keyAgreementAlgo [ZRTP_HASH_S512, ZRTP_HASH_S384]
    ZRTP_HASH_S256 (selectCommonAlgo c.supportedHash c'.supportedHash)
  mem : ∀ t, ch.algo t ∈ c.get t ∧ ch.algo t ∈ c'.get t

/-- The algorithms of a build have functions. -/
lemma settable_of_implemented {available : UInt32} {ch : ChannelAlgos}
    (h : ∀ t, ch.algo t ∈ getAllAvailableCryptoTypes available t) : ch.Settable := by
  have hall : ∀ t, ch.algo t ∈ allCryptoTypes t :=
    fun t => (sublist_allCryptoTypes available t).subset (h t)
  constructor
  · have hhash : ∀ a ∈ allCryptoTypes .hash, (hashPointers a).isSome := by decide +kernel
    exact hhash _ (hall .hash)
  · have hcipher : ∀ a ∈ allCryptoTypes .cipherBlock, (cipherPointers a).isSome := by decide +kernel
    exact hcipher _ (hall .cipherBlock)
  · have hkeyAgreement : ∀ a ∈ allCryptoTypes .keyAgreement, a ∈ validKeyAgreements := by decide +kernel
    exact hkeyAgreement _ (hall .keyAgreement)
  · have hsas : ∀ a ∈ allCryptoTypes .sas, (sasPointer a).isSome := by decide +kernel
    exact hsas _ (hall .sas)

lemma wp_cryptoAlgoAgreement (hself : self.Usable availableSelf) (hpeer : peer.Usable availablePeer)
    (ch : ChannelAlgos) :
    wp (cryptoAlgoAgreement self peer) (fun _ ch' => Selected self peer ch') (fun _ _ => False) ch := by
  have hcommon : ∀ t : AlgoType, ∃ a, a ∈ getMandatoryCryptoTypes t ∧
      a ∈ selectCommonAlgo (self.get t) (peer.get t) := by
    intro t
    obtain ⟨a, ha⟩ : ∃ a, a ∈ getMandatoryCryptoTypes t := by
      cases t <;> exact ⟨_, mem_cons_self⟩
    exact ⟨a, ha, mandatory_common (hself.complete t) (hpeer.complete t) ha⟩
  have hne : ∀ t, (selectCommonAlgo (self.get t) (peer.get t)).length ≠ 0 := by
    intro t hlength
    obtain ⟨a, -, ha⟩ := hcommon t
    rw [length_eq_zero_iff.mp hlength] at ha
    cases ha
  have hkey (c : CryptoTypes) (hc : AlgoType.keyAgreement.Complete c.supportedKeyAgreement) :
      c.supportedKeyAgreement.length ≠ 0 := by
    intro hlength
    have hDH3k := hc.mandatory ZRTP_KEYAGREEMENT_DH3k mem_cons_self
    rw [length_eq_zero_iff.mp hlength] at hDH3k
    cases hDH3k
  have hagreed := agreed_selectKeyAgreement (hself.complete .keyAgreement)
    (hpeer.complete .keyAgreement) (show ZRTP_KEYAGREEMENT_DH3k ∈ _ from mem_cons_self)
  simp only [cryptoAlgoAgreement, hne, hkey self (hself.complete .keyAgreement),
    hkey peer (hpeer.complete .keyAgreement), if_false, wp_bind, wp_modify]
  set ch1 : ChannelAlgos := { ch with
    keyAgreementAlgo := _, cipherAlgo := _, hashAlgo := _, authTagAlgo := _, sasAlgo := _ } with hch1
  have hmem : ∀ t, ch1.algo t ∈ self.get t ∧ ch1.algo t ∈ peer.get t := by
    have hmandatory (t : AlgoType) (a : UInt8) (ha : a ∈ getMandatoryCryptoTypes t) :=
      mandatory_common (hself.complete t) (hpeer.complete t) ha
    intro t
    cases t with
    | hash =>
      exact mem_of_selectCommonAlgo (selectAlgo_mem (hmandatory .hash ZRTP_HASH_S256 (by decide)))
    | cipherBlock =>
      exact mem_of_selectCommonAlgo
        (selectAlgo_mem (hmandatory .cipherBlock ZRTP_CIPHER_AES1 (by decide)))
    | authTag =>
      exact mem_of_selectCommonAlgo (headD_mem (hmandatory .authTag ZRTP_AUTHTAG_HS32 (by decide)))
    | keyAgreement => exact mem_of_agreed hagreed
    | sas => exact mem_of_selectCommonAlgo (headD_mem (hmandatory .sas ZRTP_SAS_B32 (by decide)))
  have hsettable := settable_of_implemented fun t => hself.implemented t _ (hmem t).1
  refine wp_mono (wp_updateCryptoFunctionPointers hsettable) ?_ (fun _ _ h => h)
  rintro - ch' ⟨hconsistent, halgo⟩
  have hkeyAgreement : ch'.keyAgreementAlgo = ch1.keyAgreementAlgo := congrFun halgo .keyAgreement
  refine ⟨hconsistent, ?_, ?_, fun t => ?_⟩
  · rw [hkeyAgreement]
    exact hagreed
  · rw [hkeyAgreement]
    exact congrFun halgo .hash
  · rw [halgo]
    exact hmem t

end ChannelAlgos

/-- Two configured contexts run the agreement, each on the Hello message of the other: both succeed,
with the same key agreement and algorithms in the lists of both. -/
theorem cryptoAlgoAgreement_symmetric {available available' : UInt32} {self peer : CryptoSettings}
    (hself : CryptoSettings.Configured available self)
    (hpeer : CryptoSettings.Configured available' peer) (selfChannel peerChannel : ChannelAlgos) :
    ∃ ch ch', ChannelAlgos.cryptoAlgoAgreement self.toCryptoTypes peer.received selfChannel = .ok () ch ∧
      ChannelAlgos.cryptoAlgoAgreement peer.toCryptoTypes self.received peerChannel = .ok () ch' ∧
      ch.keyAgreementAlgo = ch'.keyAgreementAlgo ∧
      ∀ t, (ch.algo t ∈ self.get t ∧ ch.algo t ∈ peer.get t) ∧ (ch'.algo t ∈ self.get t ∧ ch'.algo t ∈ peer.get t) := by
  rw [hself.usable.sendable.received, hpeer.usable.sendable.received]
  obtain ⟨⟨⟩, ch, hrun, hselected⟩ := exists_ok_of_wp
    (ChannelAlgos.wp_cryptoAlgoAgreement hself.usable hpeer.usable selfChannel)
  obtain ⟨⟨⟩, ch', hrun', hselected'⟩ := exists_ok_of_wp
    (ChannelAlgos.wp_cryptoAlgoAgreement hpeer.usable hself.usable peerChannel)
  refine ⟨ch, ch', hrun, hrun', ?_, fun t => ⟨hselected.mem t, (hselected'.mem t).symm⟩⟩
  have hcomm := agreed_comm (fun _ _ => UInt8.toNat_inj.mp) self.supportedKeyAgreement
    peer.supportedKeyAgreement
  rw [hselected.keyAgreement, hselected'.keyAgreement, some_inj] at hcomm
  exact hcomm

/-- The lists of a build with the whole crypto library, once a hybrid key agreement is preferred. -/
def CryptoSettings.preferringHybrid : CryptoSettings :=
  initBzrtpContext { createBzrtpContext 0x7fff with
    supportedKeyAgreement := [ZRTP_KEYAGREEMENT_K255_KYB512, ZRTP_KEYAGREEMENT_X255,
      ZRTP_KEYAGREEMENT_DH3k, ZRTP_KEYAGREEMENT_Mult] }

lemma CryptoSettings.configured_preferringHybrid : Configured 0x7fff preferringHybrid :=
  .initialise (.set 0x08 [ZRTP_KEYAGREEMENT_K255_KYB512, ZRTP_KEYAGREEMENT_X255] .create
    (by decide))

/-- The algorithms of a channel before any agreement. -/
def ChannelAlgos.unset : ChannelAlgos where
  hashAlgo := ZRTP_UNSET_ALGO
  cipherAlgo := ZRTP_UNSET_ALGO
  authTagAlgo := ZRTP_UNSET_ALGO
  keyAgreementAlgo := ZRTP_UNSET_ALGO
  sasAlgo := ZRTP_UNSET_ALGO
  hashFunction := none
  hmacFunction := none
  hashLength := 0
  cipherEncryptionFunction := none
  cipherDecryptionFunction := none
  cipherKeyLength := 0
  sasFunction := none
  sasLength := 0

/-- The agreement of that context with one that has its default lists. -/
theorem cryptoAlgoAgreement_symmetric_preferringHybrid : let self := CryptoSettings.preferringHybrid
    let peer := (CryptoSettings.createBzrtpContext 0x7fff).initBzrtpContext
    ∃ ch ch', ChannelAlgos.cryptoAlgoAgreement self.toCryptoTypes peer.received .unset = .ok () ch ∧
      ChannelAlgos.cryptoAlgoAgreement peer.toCryptoTypes self.received .unset = .ok () ch' ∧
      ch.keyAgreementAlgo = ch'.keyAgreementAlgo ∧
      ∀ t, (ch.algo t ∈ self.get t ∧ ch.algo t ∈ peer.get t) ∧ (ch'.algo t ∈ self.get t ∧ ch'.algo t ∈ peer.get t) :=
  cryptoAlgoAgreement_symmetric CryptoSettings.configured_preferringHybrid
    (.initialise (.create : CryptoSettings.Configured 0x7fff _)) .unset .unset

end Bzrtp
