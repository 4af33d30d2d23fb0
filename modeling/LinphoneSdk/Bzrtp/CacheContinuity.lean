import LinphoneSdk.Bzrtp.CryptoAgreement
import LinphoneSdk.Bzrtp.RetainedSecrets
import Mathlib.Logic.Relation

/-!
# The caches over sessions

Each side computes the identifiers of its secrets in `bzrtp_responseToHelloMessage`, with the hash it
selected on the Hello message of its peer. `bzrtp_updateCachedSecrets` moves the `rs1` it kept to `rs2`
and writes a new `rs1`, on one side before the other: the caches must still have a secret in common
when the session stops in between.
-/

namespace Bzrtp

open Bytes Preference Exec Option CachedSecret Primitives ChannelAlgos CryptoSettings

/-! ### The hash of the identifiers -/

namespace ChannelAlgos

variable {available available' : UInt32} {c c' : CryptoTypes} {ch ch' : ChannelAlgos}

/-- The hash algorithms of a build have functions of their own. -/
lemma hashPointers_injective {h h' : UInt8} (hh : h ∈ allCryptoTypes .hash)
    (hh' : h' ∈ allCryptoTypes .hash) (heq : hashPointers h = hashPointers h') : h = h' := by
  have hall : ∀ h ∈ allCryptoTypes .hash, ∀ h' ∈ allCryptoTypes .hash,
      hashPointers h = hashPointers h' → h = h' := by decide +kernel
  exact hall h hh h' hh' heq

lemma exists_hashPointers {h : UInt8} (hh : h ∈ allCryptoTypes .hash) :
    ∃ hash, hashPointers h = some (some hash) := by
  simp only [allCryptoTypes, getAllAvailableCryptoTypes, List.mem_cons, List.not_mem_nil, or_false] at hh
  rcases hh with rfl | rfl | rfl <;> exact ⟨_, rfl⟩

lemma Selected.hash_mem (h : Selected c c' ch) (hc : c.Usable available) : ch.hashAlgo ∈ allCryptoTypes .hash :=
  (sublist_allCryptoTypes available .hash).subset (hc.implemented .hash _ (h.mem .hash).1)

/-- A side computes MACs with the hash it selected. -/
lemma Selected.exists_hmac (h : Selected c c' ch) (hc : c.Usable available) :
    ∃ hash, ch.hmacFunction = some hash ∧ hashPointers ch.hashAlgo = some (some hash) := by
  obtain ⟨hash, hhash⟩ := exists_hashPointers (h.hash_mem hc)
  have hfunction := h.consistent.hashFunction
  rw [hhash, some_inj] at hfunction
  exact ⟨hash, by rw [h.consistent.hmacFunction, hfunction], hhash⟩

lemma Selected.hmac_eq_iff (h : Selected c c' ch) (h' : Selected c' c ch') (hc : c.Usable available)
    (hc' : c'.Usable available') : ch.hmacFunction = ch'.hmacFunction ↔ ch.hashAlgo = ch'.hashAlgo := by
  obtain ⟨hash, hhmac, hhash⟩ := h.exists_hmac hc
  obtain ⟨hash', hhmac', hhash'⟩ := h'.exists_hmac hc'
  rw [hhmac, hhmac', some_inj]
  constructor
  · rintro rfl
    exact hashPointers_injective (h.hash_mem hc) (h'.hash_mem hc') (hhash.trans hhash'.symm)
  · intro heq
    rw [heq, hhash', some_inj, some_inj] at hhash
    exact hhash.symm

/-- The hash is the favourite of each side, except with a key agreement that needs the strongest. -/
lemma Selected.hash_eq_iff (h : Selected c c' ch) (h' : Selected c' c ch') (hc : c.Usable available)
    (hc' : c'.Usable available') (hka : ch.keyAgreementAlgo = ch'.keyAgreementAlgo) :
    ch.hashAlgo = ch'.hashAlgo ↔ requiresStrong ch.keyAgreementAlgo = true ∨
      favourite c.supportedHash c'.supportedHash = favourite c'.supportedHash c.supportedHash := by
  have hmem : ∀ a, a ∈ selectCommonAlgo c.supportedHash c'.supportedHash ↔
      a ∈ selectCommonAlgo c'.supportedHash c.supportedHash := by
    intro a
    have hself : a ∈ selectCommonAlgo c.supportedHash c'.supportedHash ↔ _ :=
      mem_selectCommonAlgo_iff (hc.complete .hash).length_le
    have hpeer : a ∈ selectCommonAlgo c'.supportedHash c.supportedHash ↔ _ :=
      mem_selectCommonAlgo_iff (hc'.complete .hash).length_le
    exact hself.trans (and_comm.trans hpeer.symm)
  rw [h.hash, h'.hash, ← hka]
  cases hstrong : requiresStrong ch.keyAgreementAlgo with
  | true => simp [selectAlgo, hstrong, hmem]
  | false =>
    obtain ⟨a, ha⟩ := exists_favourite ((hc.complete .hash).mandatory ZRTP_HASH_S256 (by decide))
      ((hc'.complete .hash).mandatory ZRTP_HASH_S256 (by decide))
    obtain ⟨a', ha'⟩ := exists_favourite ((hc'.complete .hash).mandatory ZRTP_HASH_S256 (by decide))
      ((hc.complete .hash).mandatory ZRTP_HASH_S256 (by decide))
    simp only [CryptoTypes.get] at ha ha'
    simp [selectAlgo, hstrong, List.headD_eq_head?_getD, head?_selectCommonAlgo, ha, ha']

end ChannelAlgos

/-- The check of the peer's identifiers leaves the `rs1` of a cache in place. -/
structure Retained.Keeps (s : Retained) (c : CachedSecret) : Prop where
  rs1 : s.cachedSecret.rs1 = c.rs1
  cacheMismatchFlag : s.cacheMismatchFlag = false

/-- A match of both `rs1` is enough, in both roles. -/
lemma keepRetained_of_rs1rs1 (role : Role) {m : Matches} {c : CachedSecret} (aux : AuxSecretMismatch)
    (hm : c.rs1.isSome → m.rs1rs1 = true) : keepRetained role m ⟨c, false, aux⟩ = ⟨c, false, aux⟩ := by
  cases hrs1 : c.rs1 with
  | none => exact keepRetained_of_rs1_none role aux hrs1
  | some x =>
    have h11 : m.rs1rs1 = true := hm (by simp [hrs1])
    cases role <;> simp [keepRetained, keepAsInitiator, keepAsResponder, hrs1, h11]

namespace SecretHolder

variable {P : Primitives} {hash : HashAlgo} {role : Role} {h peer : SecretHolder}

/-- Identifiers computed with the same hash match when the secrets do. -/
lemma kept_of_same_rs1 (hrs1 : h.cachedSecret.rs1 = peer.cachedSecret.rs1) :
    (h.kept P hash hash role peer).Keeps h.cachedSecret := by
  have hkeep := keepRetained_of_rs1rs1 role .UNSET (c := h.cachedSecret)
    (m := (h.expected P hash role).compare (peer.sent P hash role.other).toCachedSecretHash) (by
      intro hsome
      obtain ⟨x, hx⟩ := isSome_iff_exists.mp hsome
      simp [CachedSecretHash.compare, expected, sent, secretIDs, cachedSecretHash, hx, ← hrs1])
  constructor
  · simp [kept, checkSecrets, hkeep]
  · rw [kept_cacheMismatchFlag, hkeep]

end SecretHolder

/-- The sides compute the identifiers with the same hash and, whichever is the initiator, keep their
`rs1`. -/
def SharedSecretMatches (P : Primitives) (ch ch' : ChannelAlgos) (a b : SecretHolder) : Prop :=
  ∃ hash hash', ch.hmacFunction = some hash ∧ ch'.hmacFunction = some hash' ∧ hash = hash' ∧
    ∀ role, (a.kept P hash hash' role b).Keeps a.cachedSecret ∧ (b.kept P hash' hash role.other a).Keeps b.cachedSecret

/-- With the same `rs1` on both sides, the identifiers are computed with the same hash and match
exactly when the sides have the same favourite hash, or when the key agreement takes the choice from
them. There are no identifiers in Multistream mode. -/
theorem sharedSecretMatches_iff (P : Primitives) {available available' : UInt32}
    {self peer : CryptoSettings} (hself : Configured available self)
    (hpeer : Configured available' peer) {c ch c' ch' : ChannelAlgos}
    (hrun : cryptoAlgoAgreement self.toCryptoTypes peer.received c = .ok () ch)
    (hrun' : cryptoAlgoAgreement peer.toCryptoTypes self.received c' = .ok () ch')
    {a b : SecretHolder} {x : Bytes} (ha : a.cachedSecret.rs1 = some x) (hb : b.cachedSecret.rs1 = some x) :
    (ch.keyAgreementAlgo ≠ ZRTP_KEYAGREEMENT_Mult → SharedSecretMatches P ch ch' a b) ↔
      (∃ ka, agreed UInt8.toNat self.supportedKeyAgreement peer.supportedKeyAgreement = some ka ∧
          (ka = ZRTP_KEYAGREEMENT_Mult ∨ requiresStrong ka = true)) ∨
        favourite self.supportedHash peer.supportedHash = favourite peer.supportedHash self.supportedHash := by
  rw [hpeer.usable.sendable.received] at hrun
  rw [hself.usable.sendable.received] at hrun'
  have hselected : Selected self.toCryptoTypes peer.toCryptoTypes ch := by
    have hwp := wp_cryptoAlgoAgreement hself.usable hpeer.usable c
    rwa [wp, hrun] at hwp
  have hselected' : Selected peer.toCryptoTypes self.toCryptoTypes ch' := by
    have hwp := wp_cryptoAlgoAgreement hpeer.usable hself.usable c'
    rwa [wp, hrun'] at hwp
  have hka : ch.keyAgreementAlgo = ch'.keyAgreementAlgo := by
    have hcomm := agreed_comm (fun _ _ => UInt8.toNat_inj.mp) self.supportedKeyAgreement
      peer.supportedKeyAgreement
    rwa [hselected.keyAgreement, hselected'.keyAgreement, some_inj] at hcomm
  have hsame : SharedSecretMatches P ch ch' a b ↔ ch.hmacFunction = ch'.hmacFunction := by
    constructor
    · rintro ⟨hash, hash', h, h', rfl, -⟩
      rw [h, h']
    · intro heq
      obtain ⟨hash, h, -⟩ := hselected.exists_hmac hself.usable
      refine ⟨hash, hash, h, heq ▸ h, rfl, fun role => ⟨?_, ?_⟩⟩
      · exact SecretHolder.kept_of_same_rs1 (ha.trans hb.symm)
      · exact SecretHolder.kept_of_same_rs1 (hb.trans ha.symm)
  rw [hsame, hselected.hmac_eq_iff hselected' hself.usable hpeer.usable,
    hselected.hash_eq_iff hselected' hself.usable hpeer.usable hka, hselected.keyAgreement]
  simp only [some_inj, exists_eq_left']
  by_cases hmult : ch.keyAgreementAlgo = ZRTP_KEYAGREEMENT_Mult
  · simp [hmult]
  · simp [hmult]

/-- The lists of a build with the mandatory key agreement, with these hash algorithms. -/
def CryptoSettings.withHash (hashes : Bytes) : CryptoSettings :=
  initBzrtpContext { createBzrtpContext 0 with supportedHash := hashes }

lemma CryptoSettings.configured_withHash : Configured 0 (withHash [ZRTP_HASH_S256, ZRTP_HASH_S384]) ∧
      Configured 0 (withHash [ZRTP_HASH_S384, ZRTP_HASH_S256]) :=
  ⟨.initialise (.set 0x01 [ZRTP_HASH_S256, ZRTP_HASH_S384] .create (by decide)),
    .initialise (.set 0x01 [ZRTP_HASH_S384, ZRTP_HASH_S256] .create (by decide))⟩

/-- Primitives whose MAC depends on the hash. -/
def Primitives.sampleByHash : Primitives :=
  { sample with
    hmacFunction := fun hash key input length =>
      List.replicate length.toNat (hash.hashLength * key.sum + input.sum) }

/-- Two contexts that prefer the same hash. -/
theorem sharedSecretMatches_iff_withHash : let self := withHash [ZRTP_HASH_S384, ZRTP_HASH_S256]
    ∃ ch ch', cryptoAlgoAgreement self.toCryptoTypes self.received .unset = .ok () ch ∧
      cryptoAlgoAgreement self.toCryptoTypes self.received .unset = .ok () ch' ∧
      ((ch.keyAgreementAlgo ≠ ZRTP_KEYAGREEMENT_Mult → SharedSecretMatches sampleByHash ch ch'
          (sampleHolder (some [1]) none) (sampleHolder (some [1]) none)) ↔
        (∃ ka, agreed UInt8.toNat self.supportedKeyAgreement self.supportedKeyAgreement = some ka ∧
            (ka = ZRTP_KEYAGREEMENT_Mult ∨ requiresStrong ka = true)) ∨
          favourite self.supportedHash self.supportedHash = favourite self.supportedHash self.supportedHash) :=
  ⟨_, _, rfl, rfl, sharedSecretMatches_iff sampleByHash
    configured_withHash.2 configured_withHash.2 rfl rfl rfl rfl⟩

/-- Two contexts that prefer different hash algorithms: with the same `rs1` on both sides, the flag is
raised on both sides, whichever is the initiator. -/
theorem not_sharedSecretMatches_withHash : ∃ ch ch', cryptoAlgoAgreement
          (withHash [ZRTP_HASH_S256, ZRTP_HASH_S384]).toCryptoTypes
          (withHash [ZRTP_HASH_S384, ZRTP_HASH_S256]).received .unset = .ok () ch ∧ cryptoAlgoAgreement
          (withHash [ZRTP_HASH_S384, ZRTP_HASH_S256]).toCryptoTypes
          (withHash [ZRTP_HASH_S256, ZRTP_HASH_S384]).received .unset = .ok () ch' ∧
      ch.keyAgreementAlgo ≠ ZRTP_KEYAGREEMENT_Mult ∧
      ¬ SharedSecretMatches sampleByHash ch ch' (sampleHolder (some [1]) none) (sampleHolder (some [1]) none) ∧
      ∀ role, ∃ hash hash', ch.hmacFunction = some hash ∧ ch'.hmacFunction = some hash' ∧
        ((sampleHolder (some [1]) none).kept sampleByHash hash hash' role
          (sampleHolder (some [1]) none)).cacheMismatchFlag = true ∧
        ((sampleHolder (some [1]) none).kept sampleByHash hash' hash role.other
          (sampleHolder (some [1]) none)).cacheMismatchFlag = true := by
  refine ⟨_, _, rfl, rfl, by decide, ?_, fun role => ⟨.S256, .S384, rfl, rfl, ?_⟩⟩
  · rintro ⟨hash, hash', h, h', rfl, -⟩
    cases h
    cases h'
  · cases role <;> decide

/-! ### The update of the caches -/

/-- `bzrtp_updateCachedSecrets`, on the cache of the side. The session has the secrets that the side
kept, the channel has its `s0`. -/
def updateCachedSecrets (P : Primitives) (s : Session P) (cacheMismatchFlag : Bool) (ch : Channel)
    (cache : CachedSecret) : CachedSecret :=
  if ch.algos.keyAgreement = .Mult then cache
  -- the update is delayed until the user confirms the SAS
  else if cacheMismatchFlag then cache
  else { cache with
    rs1 := some (deriveFromS0 P ch "retained secret" 32)
    -- without a rs1 the rs2 of the cache is erased
    rs2 := if ch.algos.keyAgreement ≠ .Prsh then s.cachedSecret.rs1 else none }

/-- A side of a session in DHM mode: what it draws, the hash it selects, what it exchanges, and whether
it gets to the update of its cache. -/
structure Endpoint (P : Primitives) where
  H3 : Buf 32
  random : RandomIDs
  hash : HashAlgo
  session : Session P
  channel : Channel
  updates : Bool

namespace Endpoint

variable {P : Primitives}

/-- The side with the secrets of its cache. Each side has the H3 of the other from its Hello. -/
def holder (e : Endpoint P) (c : CachedSecret) (peer : Endpoint P) : SecretHolder where
  cachedSecret := c
  selfH3 := e.H3
  peerH3 := peer.H3
  random := e.random

variable (e : Endpoint P) (role : Role) (c : CachedSecret) (peer : Endpoint P) (cpeer : CachedSecret)

/-- What the side keeps once it received the identifiers of its peer. -/
def keeps : Retained :=
  (e.holder c peer).kept P e.hash peer.hash role (peer.holder cpeer e)

def keptSession : Session P :=
  { e.session with cachedSecret := (e.keeps role c peer cpeer).cachedSecret }

def cacheAfter : CachedSecret :=
  if e.updates then
    let r := computeS0DHMMode P (e.keptSession role c peer cpeer) e.channel
    updateCachedSecrets P r.1 (e.keeps role c peer cpeer).cacheMismatchFlag r.2 c
  else c

end Endpoint

/-- The identifiers of the other secrets tell them apart too. -/
structure SecretHolder.NoOtherCollision (P : Primitives) (hash : HashAlgo) (role : Role)
    (h peer : SecretHolder) : Prop where
  auxsecret : ∀ x y, h.cachedSecret.auxsecret = some x → peer.cachedSecret.auxsecret = some y →
    hmac8 P hash x h.peerH3.toList = hmac8 P hash y h.peerH3.toList → x = y
  random_auxsecret : ∀ x, h.cachedSecret.auxsecret = some x →
    hmac8 P hash x h.peerH3.toList ≠ (peer.random.get role.other).auxsecretID
  pbxsecret : ∀ x y, h.cachedSecret.pbxsecret = some x → peer.cachedSecret.pbxsecret = some y →
    hmac8 P hash x role.other.secretLabel = hmac8 P hash y role.other.secretLabel → x = y
  random_pbxsecret : ∀ x, h.cachedSecret.pbxsecret = some x →
    hmac8 P hash x role.other.secretLabel ≠ (peer.random.get role.other).pbxsecretID

section kept

variable {P : Primitives} {hash : HashAlgo} {role : Role} {h peer : SecretHolder}

/-- A secret kept when its identifier is the one of the peer. -/
lemma keepEqual {own : Option Bytes} {peerSecret : Option Bytes} {f : Bytes → Buf 8}
    {random : Buf 8} (hinjective : ∀ x y, own = some x → peerSecret = some y → f x = f y → x = y)
    (hrandom : ∀ x, own = some x → f x ≠ random) {x : Bytes} (hx : own = some x) :
    f x = peerSecret.elim random f ↔ own = peerSecret := by
  cases hpeer : peerSecret with
  | none => simpa [hx] using hrandom x hx
  | some y =>
    constructor
    · intro heq
      rw [hx, hinjective x y hx hpeer heq]
    · intro heq
      rw [hx] at heq
      cases heq
      rfl

lemma kept_auxsecret (hn : h.NoOtherCollision P hash role peer) (hH3 : h.peerH3 = peer.selfH3) :
    (h.kept P hash hash role peer).cachedSecret.auxsecret =
      if h.cachedSecret.auxsecret = peer.cachedSecret.auxsecret then h.cachedSecret.auxsecret else none := by
  simp only [SecretHolder.kept, checkSecrets, keepPbx_auxsecret, keepAux_auxsecret, keepRetained_auxsecret]
  cases haux : h.cachedSecret.auxsecret with
  | none => simp
  | some x =>
    have hequal := keepEqual hn.auxsecret hn.random_auxsecret haux
    rw [haux, hH3] at hequal
    simp [SecretHolder.expected, SecretHolder.sent, SecretHolder.secretIDs, haux, hH3, hequal]

lemma kept_pbxsecret (hn : h.NoOtherCollision P hash role peer) :
    (h.kept P hash hash role peer).cachedSecret.pbxsecret =
      if h.cachedSecret.pbxsecret = peer.cachedSecret.pbxsecret then h.cachedSecret.pbxsecret else none := by
  simp only [SecretHolder.kept, checkSecrets, keepPbx_pbxsecret, keepAux_pbxsecret, keepRetained_pbxsecret]
  cases hpbx : h.cachedSecret.pbxsecret with
  | none => simp
  | some x =>
    have hequal := keepEqual hn.pbxsecret hn.random_pbxsecret hpbx
    rw [hpbx] at hequal
    simp [SecretHolder.expected, SecretHolder.sent, SecretHolder.secretIDs, cachedSecretHash, hpbx, hequal]

end kept

section shared

variable {P : Primitives} {hash : HashAlgo} {role : Role} {h peer : SecretHolder} {m : Matches}
  {c cpeer : CachedSecret} {x : Bytes}

lemma CachedSecret.shared_other (role : Role) (c cpeer : CachedSecret) :
    shared role.other cpeer c = shared role c cpeer := by
  cases role <;> rfl

lemma CachedSecret.exists_shared (role : Role) (hc : c.Has x) (hpeer : cpeer.Has x) :
    ∃ y, shared role c cpeer = some y := by
  cases role with
  | initiator => exact exists_firstShared hc hpeer
  | responder => exact exists_firstShared hpeer hc

lemma CachedSecret.has_of_shared (hshared : shared role c cpeer = some x) : c.Has x ∧ cpeer.Has x := by
  cases role with
  | initiator => exact has_of_firstShared hshared
  | responder => exact (has_of_firstShared hshared).symm

/-- With a secret in common, a side keeps the shared secret and does not raise the flag. -/
lemma kept_of_has (hn : h.NoCollision P hash role peer) (hx : h.cachedSecret.Has x) (hpeer : peer.cachedSecret.Has x) :
    (h.kept P hash hash role peer).cachedSecret.s1 = shared role h.cachedSecret peer.cachedSecret ∧
      (h.kept P hash hash role peer).cacheMismatchFlag = false := by
  by_cases hrs1 : h.cachedSecret.rs1 = none
  · obtain ⟨hs1, hflag⟩ := kept_of_rs1_none (P := P) hash hash role peer hrs1
    refine ⟨?_, hflag⟩
    have hrs2 := (has_iff_of_rs1_none hrs1).mp hx
    have hlone : ∀ y, h.cachedSecret.rs2 = some y → peer.cachedSecret.Has y := by
      intro y hy
      rw [hrs2] at hy
      cases hy
      exact hpeer
    rw [hs1]
    cases role with
    | initiator => exact (rs2_eq_firstShared_iff hrs1).mpr hlone
    | responder => exact ((firstShared_eq_rs2_iff hrs1).mpr hlone).symm
  · obtain ⟨hs1, hflag⟩ := kept_of_rs1 hn hrs1
    obtain ⟨y, hy⟩ := exists_shared role hx hpeer
    exact ⟨hs1, by simp [hflag, hy]⟩

/-- The check leaves in place a `rs1` that is the shared secret. -/
lemma keepRetained_rs1 (role : Role) (aux : AuxSecretMismatch) (hm : m.Tell c cpeer)
    (hshared : shared role c cpeer = c.rs1) : (keepRetained role m ⟨c, false, aux⟩).cachedSecret.rs1 = c.rs1 := by
  cases hrs1 : c.rs1 with
  | none => simp [keepRetained_of_rs1_none role aux hrs1, hrs1]
  | some x =>
    rw [hrs1] at hshared
    have hpeer := (has_of_shared hshared).2
    cases role with
    | initiator =>
      rcases (hm.has_rs1 hrs1).mp hpeer with h1 | h1 <;>
        simp [keepRetained, keepAsInitiator, hrs1, h1]
    | responder =>
      cases h11 : m.rs1rs1 with
      | true => simp [keepRetained, keepAsResponder, hrs1, h11]
      | false =>
        have h12 : m.rs1rs2 = true := by simpa [h11] using (hm.has_rs1 hrs1).mp hpeer
        -- the first secret of the initiator would be the shared one
        have h21 : ¬ (c.rs2.isSome ∧ m.rs2rs1 = true) := by
          rintro ⟨hsome, h21⟩
          obtain ⟨y, hy⟩ := isSome_iff_exists.mp hsome
          have hfirst := (hm.rs2rs1 y hy).mp h21
          have hshared' := firstShared_of_rs1 hfirst (.inr hy : c.Has y)
          rw [shared, hshared', some_inj] at hshared
          rw [hshared] at hfirst
          rw [(hm.rs1rs1 x hrs1).mpr hfirst] at h11
          cases h11
        simp [keepRetained, keepAsResponder, hrs1, h11, h12, h21]

lemma kept_rs1 (hn : h.NoCollision P hash role peer)
    (hshared : shared role h.cachedSecret peer.cachedSecret = h.cachedSecret.rs1) :
    (h.kept P hash hash role peer).cachedSecret.rs1 = h.cachedSecret.rs1 := by
  simp only [SecretHolder.kept, checkSecrets, keepPbx_rs1, keepAux_rs1]
  exact keepRetained_rs1 role .UNSET hn.tell hshared

end shared

namespace Endpoint

variable {P : Primitives} {e peer : Endpoint P} {role : Role} {c cpeer : CachedSecret} {x : Bytes}

/-- The new `rs1` of the side. -/
def newSecret (e : Endpoint P) (role : Role) (c : CachedSecret) (peer : Endpoint P) (cpeer : CachedSecret) : Bytes :=
  deriveFromS0 P (computeS0DHMMode P (e.keptSession role c peer cpeer) e.channel).2
    "retained secret" 32

/-- The identifiers tell the secrets apart, and the key agreement is one of the DHM mode. -/
structure Valid (e : Endpoint P) (role : Role) (c : CachedSecret) (peer : Endpoint P)
    (cpeer : CachedSecret) : Prop where
  noCollision : (e.holder c peer).NoCollision P e.hash role (peer.holder cpeer e)
  noOtherCollision : (e.holder c peer).NoOtherCollision P e.hash role (peer.holder cpeer e)
  keyAgreement : e.channel.algos.keyAgreement ≠ .Mult ∧ e.channel.algos.keyAgreement ≠ .Prsh

lemma cacheAfter_of_not_updates (h : e.updates = false) : e.cacheAfter role c peer cpeer = c := by
  simp [cacheAfter, h]

lemma Valid.cacheAfter (hv : e.Valid role c peer cpeer) (h : e.updates = true)
    (hflag : (e.keeps role c peer cpeer).cacheMismatchFlag = false) :
    e.cacheAfter role c peer cpeer = { c with
        rs1 := some (e.newSecret role c peer cpeer)
        rs2 := (e.keeps role c peer cpeer).cachedSecret.rs1 } := by
  have hka : (computeS0DHMMode P (e.keptSession role c peer cpeer) e.channel).2.algos = e.channel.algos := rfl
  simp only [Endpoint.cacheAfter, h, if_true, updateCachedSecrets, hka, hv.keyAgreement.1, if_false,
    hflag, Bool.false_eq_true, ne_eq, hv.keyAgreement.2, not_false_eq_true]
  rfl

variable (hv : e.Valid role c peer cpeer) (hhash : e.hash = peer.hash)
include hv hhash

lemma Valid.keeps (hc : c.Has x) (hpeer : cpeer.Has x) :
    (e.keeps role c peer cpeer).cachedSecret.s1 = shared role c cpeer ∧
      (e.keeps role c peer cpeer).cacheMismatchFlag = false := by
  rw [Endpoint.keeps, ← hhash]
  exact kept_of_has hv.noCollision hc hpeer

/-- A side that updates its cache alone keeps the shared secret in `rs2`. -/
lemma Valid.has_cacheAfter (hc : c.Has x) (hpeer : cpeer.Has x)
    (hshared : e.updates = true → shared role c cpeer = c.rs1) :
    ∃ y, (e.cacheAfter role c peer cpeer).Has y ∧ cpeer.Has y := by
  cases h : e.updates with
  | false =>
    rw [cacheAfter_of_not_updates h]
    exact ⟨x, hc, hpeer⟩
  | true =>
    obtain ⟨y, hy⟩ := exists_shared role hc hpeer
    have hrs1 : (e.keeps role c peer cpeer).cachedSecret.rs1 = c.rs1 := by
      rw [Endpoint.keeps, ← hhash]
      exact kept_rs1 hv.noCollision (hshared h)
    rw [hv.cacheAfter h (hv.keeps hhash hc hpeer).2, hrs1, ← hshared h, hy]
    exact ⟨y, .inr rfl, (has_of_shared hy).2⟩

end Endpoint

/-- The caches of the two sides. -/
structure Caches where
  a : CachedSecret
  b : CachedSecret

/-- The caches have a retained secret in common. -/
def Caches.Shares (c : Caches) : Prop := ∃ x, c.a.Has x ∧ c.b.Has x

/-- A session between the two sides. -/
structure Exchange (P : Primitives) where
  roleA : Role
  a : Endpoint P
  b : Endpoint P

namespace Exchange

variable {P : Primitives} {E : Exchange P} {c : Caches}

def run (E : Exchange P) (c : Caches) : Caches where
  a := E.a.cacheAfter E.roleA c.a E.b c.b
  b := E.b.cacheAfter E.roleA.other c.b E.a c.a

def keptA (E : Exchange P) (c : Caches) : Retained := E.a.keeps E.roleA c.a E.b c.b

def keptB (E : Exchange P) (c : Caches) : Retained := E.b.keeps E.roleA.other c.b E.a c.a

/-- A session the caches may run. When both sides get to the update, each checked the Confirm message
of the other: they exchanged the same messages. -/
structure Valid (E : Exchange P) (c : Caches) : Prop where
  a : E.a.Valid E.roleA c.a E.b c.b
  b : E.b.Valid E.roleA.other c.b E.a c.a
  selfZID : E.a.session.selfZID = E.b.session.peerZID
  peerZID : E.a.session.peerZID = E.b.session.selfZID
  paired : E.a.updates = true → E.b.updates = true → PairedDHM E.a.session E.b.session E.a.channel E.b.channel

/-- The sides select the same hash, and one that updates its cache while its peer does not has the
shared secret in its `rs1`. -/
structure Continues (E : Exchange P) (c : Caches) : Prop where
  hash : E.a.hash = E.b.hash
  a : E.a.updates = true → E.b.updates = false → shared E.roleA c.a c.b = c.a.rs1
  b : E.b.updates = true → E.a.updates = false → shared E.roleA.other c.b c.a = c.b.rs1

/-- The sides keep the same secrets. -/
lemma Valid.peers (hv : E.Valid c) (hhash : E.a.hash = E.b.hash) (hs : c.Shares) :
    Peers (E.a.keptSession E.roleA c.a E.b c.b) (E.b.keptSession E.roleA.other c.b E.a c.a) := by
  obtain ⟨x, ha, hb⟩ := hs
  refine ⟨hv.selfZID, hv.peerZID, ?_, ?_, ?_⟩
  · simp only [Endpoint.keptSession, (hv.a.keeps hhash ha hb).1, (hv.b.keeps hhash.symm hb ha).1, shared_other]
  · have hkeptA := kept_auxsecret hv.a.noOtherCollision rfl
    have hkeptB := kept_auxsecret hv.b.noOtherCollision rfl
    simp only [Endpoint.keptSession, Endpoint.keeps, s2]
    rw [← hhash] at hkeptB ⊢
    rw [hkeptA, hkeptB]
    simp only [Endpoint.holder]
    by_cases heq : c.a.auxsecret = c.b.auxsecret
    · simp [heq]
    · simp [heq, Ne.symm heq]
  · have hkeptA := kept_pbxsecret hv.a.noOtherCollision
    have hkeptB := kept_pbxsecret hv.b.noOtherCollision
    simp only [Endpoint.keptSession, Endpoint.keeps, s3]
    rw [← hhash] at hkeptB ⊢
    rw [hkeptA, hkeptB]
    simp only [Endpoint.holder]
    by_cases heq : c.a.pbxsecret = c.b.pbxsecret
    · simp [heq]
    · simp [heq, Ne.symm heq]

/-- When both sides get to the update, they derive the same new secret. -/
lemma Valid.newSecret_eq (hP : P.Correct) (hv : E.Valid c) (hhash : E.a.hash = E.b.hash)
    (hs : c.Shares) (ha : E.a.updates = true) (hb : E.b.updates = true) :
    E.a.newSecret E.roleA c.a E.b c.b = E.b.newSecret E.roleA.other c.b E.a c.a := by
  have hpaired : PairedDHM (E.a.keptSession E.roleA c.a E.b c.b)
      (E.b.keptSession E.roleA.other c.b E.a c.a) E.a.channel E.b.channel := hv.paired ha hb
  have halgos : E.a.channel.algos = E.b.channel.algos := by
    rcases hv.paired ha hb with h | h
    · exact h.1.algos
    · exact h.1.algos.symm
  obtain ⟨-, -, hcoincide⟩ := coincide_DHM hP (hv.peers hhash hs) hpaired
  have hcontext : (computeS0DHMMode P (E.a.keptSession E.roleA c.a E.b c.b) E.a.channel).2.KDFContext =
      (computeS0DHMMode P (E.b.keptSession E.roleA.other c.b E.a c.a) E.b.channel).2.KDFContext :=
    hcoincide.KDFContext
  have hs0 : (computeS0DHMMode P (E.a.keptSession E.roleA c.a E.b c.b) E.a.channel).2.s0 =
      (computeS0DHMMode P (E.b.keptSession E.roleA.other c.b E.a c.a) E.b.channel).2.s0 :=
    hcoincide.s0
  simp only [Endpoint.newSecret, deriveFromS0, hcontext, hs0]
  simp only [computeS0DHMMode, deriveKeysFromS0, halgos]

/-- No side raises the flag when the caches have a secret in common. -/
lemma Valid.not_mismatch (hv : E.Valid c) (hhash : E.a.hash = E.b.hash) (hs : c.Shares) :
    (E.keptA c).cacheMismatchFlag = false ∧ (E.keptB c).cacheMismatchFlag = false := by
  obtain ⟨x, ha, hb⟩ := hs
  exact ⟨(hv.a.keeps hhash ha hb).2, (hv.b.keeps hhash.symm hb ha).2⟩

/-- One session. -/
lemma Valid.shares_run (hP : P.Correct) (hv : E.Valid c) (hcont : E.Continues c) (hs : c.Shares) :
    (E.run c).Shares := by
  obtain ⟨x, ha, hb⟩ := hs
  cases hA : E.a.updates with
  | false =>
    have ha' : (E.run c).a = c.a := Endpoint.cacheAfter_of_not_updates hA
    obtain ⟨y, hy⟩ := hv.b.has_cacheAfter hcont.hash.symm hb ha fun h => hcont.b h hA
    exact ⟨y, ha' ▸ hy.2, hy.1⟩
  | true =>
    cases hB : E.b.updates with
    | false =>
      have hb' : (E.run c).b = c.b := Endpoint.cacheAfter_of_not_updates hB
      obtain ⟨y, hy⟩ := hv.a.has_cacheAfter hcont.hash ha hb fun h => hcont.a h hB
      exact ⟨y, hy.1, hb' ▸ hy.2⟩
    | true =>
      refine ⟨E.a.newSecret E.roleA c.a E.b c.b, .inl ?_, .inl ?_⟩
      · simp only [run, hv.a.cacheAfter hA (hv.a.keeps hcont.hash ha hb).2]
      · rw [hv.newSecret_eq hP hcont.hash ⟨x, ha, hb⟩ hA hB]
        simp only [run, hv.b.cacheAfter hB (hv.b.keeps hcont.hash.symm hb ha).2]

end Exchange

/-- A session of a run, on which a condition may be put. -/
def Caches.Step (P : Primitives) (condition : Exchange P → Caches → Prop) (c c' : Caches) : Prop :=
  ∃ E : Exchange P, E.Valid c ∧ condition E c ∧ c' = E.run c

/-- In a run whose sessions all meet the condition the caches keep a secret in common, and the flag is
raised on no side in the session that comes next. -/
theorem caches_share {P : Primitives} (hP : P.Correct) {c c' : Caches} (hs : c.Shares)
    (hrun : Relation.ReflTransGen (Caches.Step P Exchange.Continues) c c') :
    c'.Shares ∧ ∀ E : Exchange P, E.Valid c' → E.a.hash = E.b.hash →
      (E.keptA c').cacheMismatchFlag = false ∧ (E.keptB c').cacheMismatchFlag = false := by
  have hshares : c'.Shares := by
    induction hrun with
    | refl => exact hs
    | tail hrun hstep ih =>
      obtain ⟨E, hv, hcont, rfl⟩ := hstep
      exact hv.shares_run hP hcont ih
  exact ⟨hshares, fun E hv hhash => hv.not_mismatch hhash hshares⟩

/-! ### Sessions where one side gets to the update -/

/-- A side whose draws are all zero. -/
def sampleEndpoint (session : Session sample) (channel : Channel) (updates : Bool) : Endpoint sample where
  H3 := zeros 32
  random := (sampleHolder none none).random
  hash := .S384
  session := session
  channel := channel
  updates := updates

/-- A session whose responder alone gets to the update. -/
def sampleExchange : Exchange sample where
  roleA := .initiator
  a := sampleEndpoint (sampleSession 1 2 5)
    (sampleChannel .initiator ⟨[1], [2], sampleDHPart 5⟩ ⟨[3], [], sampleDHPart 9⟩ (.dh .X255)) false
  b := sampleEndpoint (sampleSession 2 1 9)
    (sampleChannel .responder ⟨[3], [], sampleDHPart 9⟩ ⟨[1], [2], sampleDHPart 5⟩ (.dh .X255)) true

/-- Caches with these retained secrets. -/
def sampleCaches (rs1 rs1' rs2' : Option Bytes) : Caches where
  a := ⟨rs1, none, none, none⟩
  b := ⟨rs1', rs2', none, none⟩

def sampleSecret (x : UInt8) : Bytes := List.replicate 32 x

lemma sampleExchange_valid (rs1 rs1' rs2' : Option Bytes)
    (hi : (sampleHolder rs1 none).NoCollision sample .S384 .initiator (sampleHolder rs1' rs2'))
    (hr : (sampleHolder rs1' rs2').NoCollision sample .S384 .responder (sampleHolder rs1 none)) :
    sampleExchange.Valid (sampleCaches rs1 rs1' rs2') where
  a := ⟨hi, ⟨by rintro - - ⟨⟩, by rintro - ⟨⟩, by rintro - - ⟨⟩, by rintro - ⟨⟩⟩, by decide⟩
  b := ⟨hr, ⟨by rintro - - ⟨⟩, by rintro - ⟨⟩, by rintro - - ⟨⟩, by rintro - ⟨⟩⟩, by decide⟩
  selfZID := rfl
  peerZID := rfl
  paired := by rintro ⟨⟩

lemma valid_sampleCaches_first :
    sampleExchange.Valid (sampleCaches (some (sampleSecret 1)) (some (sampleSecret 1)) none) :=
  sampleExchange_valid _ _ _ (sampleHolder_noCollision _ _ _ _ _ (by decide) (by decide))
    (sampleHolder_noCollision _ _ _ _ _ (by decide) (by decide))

lemma valid_sampleCaches_second : sampleExchange.Valid
      (sampleCaches (some (sampleSecret 1)) (some (sampleSecret 88)) (some (sampleSecret 1))) :=
  sampleExchange_valid _ _ _ (sampleHolder_noCollision _ _ _ _ _ (by decide) (by decide))
    (sampleHolder_noCollision _ _ _ _ _ (by decide) (by decide))

/-- The responder has a new `rs1`, and the one of the initiator in its `rs2`. -/
lemma run_sampleCaches_first : sampleExchange.run (sampleCaches (some (sampleSecret 1)) (some (sampleSecret 1)) none) =
      sampleCaches (some (sampleSecret 1)) (some (sampleSecret 88)) (some (sampleSecret 1)) := by
  have hnew : sampleExchange.b.newSecret .responder ⟨some (sampleSecret 1), none, none, none⟩
      sampleExchange.a ⟨some (sampleSecret 1), none, none, none⟩ = sampleSecret 88 := by
    decide +kernel
  rw [Exchange.run, valid_sampleCaches_first.b.cacheAfter rfl (by decide)]
  exact congrArg (fun x => sampleCaches (some (sampleSecret 1)) (some x) (some (sampleSecret 1))) hnew

/-- The `rs2` of the responder matched: it is erased. -/
lemma run_sampleCaches_second : sampleExchange.run
        (sampleCaches (some (sampleSecret 1)) (some (sampleSecret 88)) (some (sampleSecret 1))) =
      sampleCaches (some (sampleSecret 1)) (some (sampleSecret 88)) none := by
  have hnew : sampleExchange.b.newSecret .responder
      ⟨some (sampleSecret 88), some (sampleSecret 1), none, none⟩ sampleExchange.a
      ⟨some (sampleSecret 1), none, none, none⟩ = sampleSecret 88 := by
    decide +kernel
  rw [Exchange.run, valid_sampleCaches_second.b.cacheAfter rfl (by decide)]
  exact congrArg (fun x => sampleCaches (some (sampleSecret 1)) (some x) none) hnew

lemma shares_sampleCaches : (sampleCaches (some (sampleSecret 1)) (some (sampleSecret 1)) none).Shares :=
  ⟨sampleSecret 1, .inl rfl, .inl rfl⟩

/-- A session where the responder gets to the update of its cache and the initiator does not. -/
theorem caches_share_interrupted : (sampleExchange.run
        (sampleCaches (some (sampleSecret 1)) (some (sampleSecret 1)) none)).Shares ∧
      ∀ E : Exchange sample, E.Valid (sampleExchange.run
          (sampleCaches (some (sampleSecret 1)) (some (sampleSecret 1)) none)) → E.a.hash = E.b.hash →
        (E.keptA (sampleExchange.run (sampleCaches (some (sampleSecret 1)) (some (sampleSecret 1))
            none))).cacheMismatchFlag = false ∧
          (E.keptB (sampleExchange.run (sampleCaches (some (sampleSecret 1)) (some (sampleSecret 1))
            none))).cacheMismatchFlag = false :=
  caches_share correct_sample shares_sampleCaches
    (.single ⟨sampleExchange, valid_sampleCaches_first, ⟨rfl, by rintro ⟨⟩, fun _ _ => by decide⟩, rfl⟩)

/-- Two such sessions: in the second one the secret in common is in the `rs2` of the responder, which
erases it. The flag is raised in the session that comes next. -/
theorem not_caches_share : ¬ ∀ (P : Primitives), P.Correct → ∀ c c' : Caches, c.Shares →
      Relation.ReflTransGen (Caches.Step P fun E _ => E.a.hash = E.b.hash) c c' →
      c'.Shares ∧ ∀ E : Exchange P, E.Valid c' → E.a.hash = E.b.hash →
        (E.keptA c').cacheMismatchFlag = false ∧ (E.keptB c').cacheMismatchFlag = false := by
  intro hall
  obtain ⟨-, hflag⟩ := hall sample correct_sample _
    (sampleCaches (some (sampleSecret 1)) (some (sampleSecret 88)) none) shares_sampleCaches
    (.tail (.single ⟨sampleExchange, valid_sampleCaches_first, rfl, run_sampleCaches_first.symm⟩)
      ⟨sampleExchange, valid_sampleCaches_second, rfl, run_sampleCaches_second.symm⟩)
  have hvalid : sampleExchange.Valid
      (sampleCaches (some (sampleSecret 1)) (some (sampleSecret 88)) none) :=
    sampleExchange_valid _ _ _ (sampleHolder_noCollision _ _ _ _ _ (by decide) (by decide))
      (sampleHolder_noCollision _ _ _ _ _ (by decide) (by decide))
  have hmismatch := (hflag sampleExchange hvalid rfl).1
  revert hmismatch
  decide

end Bzrtp
