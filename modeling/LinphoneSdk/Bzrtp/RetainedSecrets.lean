import LinphoneSdk.Bzrtp.KeyAgreement

/-!
# Retained secrets

Each side computes identifiers of the secrets it retained from earlier sessions with the peer, one
for each role, and sends those of its role in its DHPart message. The message of the peer tells which
secrets it has too: the initiator checks its own ones in `state_keyAgreement_sendingCommit`, the
responder in `state_keyAgreement_responderSendingDHPart1`, each in its own order, and they erase the
secrets that must not be used in `s0`.
-/

namespace Bzrtp

open Bytes Option

/-! ### Identifiers -/

/-- Identifiers of the cached secrets (`bzrtpCachedSecretsHash_t`), for one role. -/
structure CachedSecretHash where
  rs1ID : Buf 8
  rs2ID : Buf 8
  pbxsecretID : Buf 8
  deriving DecidableEq

/-- The identifiers in a DHPart message. -/
structure SecretIDs extends CachedSecretHash where
  auxsecretID : Buf 8
  deriving DecidableEq

/-- The first 8 bytes of a MAC. -/
def hmac8 (P : Primitives) (hash : HashAlgo) (key input : Bytes) : Buf 8 :=
  bufAt (P.hmacFunction hash key input 8) 0 8

def Role.secretLabel : Role → Bytes
  | .initiator => ascii "Initiator"
  | .responder => ascii "Responder"

/-- The identifiers of a role; a random one stands for a secret that is not there. -/
def cachedSecretHash (P : Primitives) (hash : HashAlgo) (role : Role) (random : CachedSecretHash)
    (c : CachedSecret) : CachedSecretHash where
  rs1ID := c.rs1.elim random.rs1ID fun secret => hmac8 P hash secret role.secretLabel
  rs2ID := c.rs2.elim random.rs2ID fun secret => hmac8 P hash secret role.secretLabel
  pbxsecretID := c.pbxsecret.elim random.pbxsecretID fun secret => hmac8 P hash secret role.secretLabel

/-! ### Checks -/

/-- What is known of the auxiliary secret of the peer. -/
inductive AuxSecretMismatch where
  | UNSET
  | MATCH
  | MISMATCH
  deriving DecidableEq, Repr

/-- The part of the context the checks work on. -/
structure Retained where
  cachedSecret : CachedSecret
  cacheMismatchFlag : Bool
  auxSecretMismatch : AuxSecretMismatch

/-- Comparisons of the identifiers of the retained secrets: `rs1rs2` is the one of the own `rs1` with
the `rs2` of the peer. -/
structure Matches where
  rs1rs1 : Bool
  rs1rs2 : Bool
  rs2rs1 : Bool
  rs2rs2 : Bool

def CachedSecretHash.compare (own received : CachedSecretHash) : Matches where
  rs1rs1 := own.rs1ID == received.rs1ID
  rs1rs2 := own.rs1ID == received.rs2ID
  rs2rs1 := own.rs2ID == received.rs1ID
  rs2rs2 := own.rs2ID == received.rs2ID

/-- The check of the initiator, when DHPart1 arrives. -/
def keepAsInitiator (m : Matches) (s : Retained) : Retained :=
  let s := if s.cachedSecret.rs1.isSome ∧ ¬ m.rs1rs1 ∧ ¬ m.rs1rs2 then
      { s with cachedSecret.rs1 := none, cacheMismatchFlag := true }
    else s
  -- no match with rs1: rs2 may match
  if s.cacheMismatchFlag ∧ s.cachedSecret.rs2.isSome then
    if ¬ m.rs2rs1 ∧ ¬ m.rs2rs2 then { s with cachedSecret.rs2 := none }
    else { s with cacheMismatchFlag := false }
  else s

/-- The check of the responder, when DHPart2 arrives. -/
def keepAsResponder (m : Matches) (s : Retained) : Retained :=
  let (cacheMatchFlag, s) :=
    if s.cachedSecret.rs1.isSome then
      if m.rs1rs1 then (true, s)
      else if s.cachedSecret.rs2.isSome ∧ m.rs2rs1 then
        (true, { s with cachedSecret.rs1 := none })
      else (false, s)
    else (false, s)
  if s.cachedSecret.rs1.isSome ∧ ¬ cacheMatchFlag ∧ ¬ m.rs1rs2 then
    let s := { s with cachedSecret.rs1 := none }
    if s.cachedSecret.rs2.isSome then
      if m.rs2rs2 then s
      else { s with cachedSecret.rs2 := none, cacheMismatchFlag := true }
    else { s with cacheMismatchFlag := true }
  else s

def keepRetained : Role → Matches → Retained → Retained
  | .initiator => keepAsInitiator
  | .responder => keepAsResponder

variable (own received : Buf 8) (s : Retained)

/-- The check of the auxiliary secret. -/
def keepAux : Retained :=
  if s.cachedSecret.auxsecret.isSome then
    if own ≠ received then { s with cachedSecret.auxsecret := none, auxSecretMismatch := .MISMATCH }
    else { s with auxSecretMismatch := .MATCH }
  else s

def keepPbx : Retained :=
  if s.cachedSecret.pbxsecret.isSome ∧ own ≠ received then { s with cachedSecret.pbxsecret := none }
  else s

/-- The checks of a side when the DHPart message of its peer arrives, with the identifiers it computed
for the role of the peer. -/
def checkSecrets (role : Role) (own received : SecretIDs) (s : Retained) : Retained :=
  keepPbx own.pbxsecretID received.pbxsecretID
    (keepAux own.auxsecretID received.auxsecretID
      (keepRetained role (own.compare received.toCachedSecretHash) s))

@[simp] lemma keepAux_rs1 : (keepAux own received s).cachedSecret.rs1 = s.cachedSecret.rs1 := by
  rw [keepAux]
  split_ifs <;> rfl

@[simp] lemma keepAux_rs2 : (keepAux own received s).cachedSecret.rs2 = s.cachedSecret.rs2 := by
  rw [keepAux]
  split_ifs <;> rfl

@[simp] lemma keepAux_cacheMismatchFlag : (keepAux own received s).cacheMismatchFlag = s.cacheMismatchFlag := by
  rw [keepAux]
  split_ifs <;> rfl

@[simp] lemma keepPbx_rs1 : (keepPbx own received s).cachedSecret.rs1 = s.cachedSecret.rs1 := by
  rw [keepPbx]
  split_ifs <;> rfl

@[simp] lemma keepPbx_rs2 : (keepPbx own received s).cachedSecret.rs2 = s.cachedSecret.rs2 := by
  rw [keepPbx]
  split_ifs <;> rfl

@[simp] lemma keepPbx_cacheMismatchFlag : (keepPbx own received s).cacheMismatchFlag = s.cacheMismatchFlag := by
  rw [keepPbx]
  split_ifs <;> rfl

@[simp] lemma keepPbx_auxsecret : (keepPbx own received s).cachedSecret.auxsecret = s.cachedSecret.auxsecret := by
  rw [keepPbx]
  split_ifs <;> rfl

@[simp] lemma keepAux_pbxsecret : (keepAux own received s).cachedSecret.pbxsecret = s.cachedSecret.pbxsecret := by
  rw [keepAux]
  split_ifs <;> rfl

lemma keepAux_auxsecret : (keepAux own received s).cachedSecret.auxsecret =
      if own = received then s.cachedSecret.auxsecret else none := by
  by_cases heq : own = received <;> cases haux : s.cachedSecret.auxsecret <;>
    simp [keepAux, heq, haux]

lemma keepPbx_pbxsecret : (keepPbx own received s).cachedSecret.pbxsecret =
      if own = received then s.cachedSecret.pbxsecret else none := by
  by_cases heq : own = received <;> cases hpbx : s.cachedSecret.pbxsecret <;>
    simp [keepPbx, heq, hpbx]

@[simp] lemma keepRetained_auxsecret (role : Role) (m : Matches) (s : Retained) :
    (keepRetained role m s).cachedSecret.auxsecret = s.cachedSecret.auxsecret := by
  cases role <;> simp only [keepRetained, keepAsInitiator, keepAsResponder] <;> split_ifs <;> rfl

@[simp] lemma keepRetained_pbxsecret (role : Role) (m : Matches) (s : Retained) :
    (keepRetained role m s).cachedSecret.pbxsecret = s.cachedSecret.pbxsecret := by
  cases role <;> simp only [keepRetained, keepAsInitiator, keepAsResponder] <;> split_ifs <;> rfl

/-! ### Secrets both sides have -/

structure Matches.Tell (m : Matches) (c peer : CachedSecret) : Prop where
  rs1rs1 : ∀ x, c.rs1 = some x → (m.rs1rs1 = true ↔ peer.rs1 = some x)
  rs1rs2 : ∀ x, c.rs1 = some x → (m.rs1rs2 = true ↔ peer.rs2 = some x)
  rs2rs1 : ∀ x, c.rs2 = some x → (m.rs2rs1 = true ↔ peer.rs1 = some x)
  rs2rs2 : ∀ x, c.rs2 = some x → (m.rs2rs2 = true ↔ peer.rs2 = some x)

namespace CachedSecret

/-- The retained secrets of a cache. -/
def Has (c : CachedSecret) (x : Bytes) : Prop := c.rs1 = some x ∨ c.rs2 = some x

instance (c : CachedSecret) : DecidablePred c.Has := fun _ => inferInstanceAs (Decidable (_ ∨ _))

/-- The first retained secret of the initiator that the responder has too. -/
def firstShared (i r : CachedSecret) : Option Bytes :=
  (i.rs1.filter fun x => r.Has x).or (i.rs2.filter fun x => r.Has x)

/-- A secret that stands alone in `rs2`, which no check looks at, is one of the peer. -/
def LoneShared (c peer : CachedSecret) : Prop :=
  c.rs1 = none → ∀ x, c.rs2 = some x → peer.Has x

variable {i r : CachedSecret} {x : Bytes}

lemma firstShared_of_rs1 (hx : i.rs1 = some x) (h : r.Has x) : i.firstShared r = some x := by
  simp [firstShared, hx, filter_some, h]

lemma firstShared_of_not_rs1 (h : ∀ x, i.rs1 = some x → ¬ r.Has x) :
    i.firstShared r = i.rs2.filter fun x => r.Has x := by
  rw [firstShared, filter_eq_none_iff.mpr (by simpa using h), none_or]

lemma firstShared_of_rs2 (h1 : ∀ x, i.rs1 = some x → ¬ r.Has x) (hx : i.rs2 = some x) (h : r.Has x) :
    i.firstShared r = some x := by
  simp [firstShared_of_not_rs1 h1, hx, filter_some, h]

lemma firstShared_eq_none (h1 : ∀ x, i.rs1 = some x → ¬ r.Has x)
    (h2 : ∀ x, i.rs2 = some x → ¬ r.Has x) : i.firstShared r = none := by
  rw [firstShared_of_not_rs1 h1, filter_eq_none_iff]
  simpa using h2

end CachedSecret

section keep

open CachedSecret

variable {m : Matches} {c peer : CachedSecret} {x : Bytes}

lemma Matches.Tell.has_rs1 (h : m.Tell c peer) (hx : c.rs1 = some x) :
    peer.Has x ↔ m.rs1rs1 = true ∨ m.rs1rs2 = true := by
  rw [h.rs1rs1 x hx, h.rs1rs2 x hx, CachedSecret.Has]

lemma Matches.Tell.has_rs2 (h : m.Tell c peer) (hx : c.rs2 = some x) :
    peer.Has x ↔ m.rs2rs1 = true ∨ m.rs2rs2 = true := by
  rw [h.rs2rs1 x hx, h.rs2rs2 x hx, CachedSecret.Has]

/-- The secret a side keeps, when it has a `rs1`: the first one of the initiator that the responder
has too. The flag is raised when there is none. -/
structure KeepsFirst (i r : CachedSecret) (kept : Retained) : Prop where
  s1 : kept.cachedSecret.s1 = i.firstShared r
  cacheMismatchFlag : kept.cacheMismatchFlag = (i.firstShared r).isNone

lemma keepAsInitiator_of_rs1 (aux : AuxSecretMismatch) (h : m.Tell c peer) (hrs1 : c.rs1 = some x) :
    KeepsFirst c peer (keepAsInitiator m ⟨c, false, aux⟩) := by
  by_cases hx : peer.Has x
  · have hfirst := firstShared_of_rs1 hrs1 hx
    have hkeep : keepAsInitiator m ⟨c, false, aux⟩ = ⟨c, false, aux⟩ := by
      rcases (h.has_rs1 hrs1).mp hx with hm | hm <;> simp [keepAsInitiator, hm]
    rw [hkeep]
    exact ⟨by simp [CachedSecret.s1, hrs1, hfirst], by simp [hfirst]⟩
  · have hnot : ∀ y, c.rs1 = some y → ¬ peer.Has y := by
      rintro y hy
      rw [hrs1] at hy
      cases hy
      exact hx
    have hm := (h.has_rs1 hrs1).not.mp hx
    simp only [not_or, Bool.not_eq_true] at hm
    cases hrs2 : c.rs2 with
    | none =>
      have hfirst := firstShared_eq_none hnot (by simp [hrs2])
      constructor <;> simp [keepAsInitiator, hrs1, hrs2, hm, hfirst, CachedSecret.s1]
    | some y =>
      by_cases hy : peer.Has y
      · have hfirst := firstShared_of_rs2 hnot hrs2 hy
        rcases (h.has_rs2 hrs2).mp hy with hm2 | hm2 <;> constructor <;>
          simp [keepAsInitiator, hrs1, hrs2, hm, hm2, hfirst, CachedSecret.s1]
      · have hfirst := firstShared_eq_none hnot (by simpa [hrs2] using hy)
        have hm2 := (h.has_rs2 hrs2).not.mp hy
        simp only [not_or, Bool.not_eq_true] at hm2
        constructor <;> simp [keepAsInitiator, hrs1, hrs2, hm, hm2, hfirst, CachedSecret.s1]

lemma Matches.Tell.not_has_peer_rs1 (h : m.Tell c peer) (h1 : m.rs1rs1 = false)
    (h2 : c.rs2 = none ∨ m.rs2rs1 = false) : ∀ y, peer.rs1 = some y → ¬ c.Has y := by
  rintro y hy (hc | hc)
  · rw [(h.rs1rs1 y hc).mpr hy] at h1
    cases h1
  · rcases h2 with h2 | h2
    · rw [hc] at h2
      cases h2
    · rw [(h.rs2rs1 y hc).mpr hy] at h2
      cases h2

lemma Matches.Tell.not_has_peer_rs2 (h : m.Tell c peer) (h1 : m.rs1rs2 = false)
    (h2 : c.rs2 = none ∨ m.rs2rs2 = false) : ∀ y, peer.rs2 = some y → ¬ c.Has y := by
  rintro y hy (hc | hc)
  · rw [(h.rs1rs2 y hc).mpr hy] at h1
    cases h1
  · rcases h2 with h2 | h2
    · rw [hc] at h2
      cases h2
    · rw [(h.rs2rs2 y hc).mpr hy] at h2
      cases h2

lemma keepAsResponder_of_rs1 (aux : AuxSecretMismatch) (h : m.Tell c peer) (hrs1 : c.rs1 = some x) :
    KeepsFirst peer c (keepAsResponder m ⟨c, false, aux⟩) := by
  have hx : c.Has x := .inl hrs1
  cases h11 : m.rs1rs1 with
  | true =>
    have hfirst := firstShared_of_rs1 ((h.rs1rs1 x hrs1).mp h11) hx
    constructor <;> simp [keepAsResponder, hrs1, h11, hfirst, CachedSecret.s1]
  | false =>
    cases hrs2 : c.rs2 with
    | none =>
      have hnot := h.not_has_peer_rs1 h11 (.inl hrs2)
      cases h12 : m.rs1rs2 with
      | true =>
        have hfirst := firstShared_of_rs2 hnot ((h.rs1rs2 x hrs1).mp h12) hx
        constructor <;> simp [keepAsResponder, hrs1, hrs2, h11, h12, hfirst, CachedSecret.s1]
      | false =>
        have hfirst := firstShared_eq_none hnot (h.not_has_peer_rs2 h12 (.inl hrs2))
        constructor <;> simp [keepAsResponder, hrs1, hrs2, h11, h12, hfirst, CachedSecret.s1]
    | some y =>
      have hy : c.Has y := .inr hrs2
      cases h21 : m.rs2rs1 with
      | true =>
        have hfirst := firstShared_of_rs1 ((h.rs2rs1 y hrs2).mp h21) hy
        constructor <;> simp [keepAsResponder, hrs1, hrs2, h11, h21, hfirst, CachedSecret.s1]
      | false =>
        have hnot := h.not_has_peer_rs1 h11 (.inr h21)
        cases h12 : m.rs1rs2 with
        | true =>
          have hfirst := firstShared_of_rs2 hnot ((h.rs1rs2 x hrs1).mp h12) hx
          constructor <;> simp [keepAsResponder, hrs1, hrs2, h11, h21, h12, hfirst, CachedSecret.s1]
        | false =>
          cases h22 : m.rs2rs2 with
          | true =>
            have hfirst := firstShared_of_rs2 hnot ((h.rs2rs2 y hrs2).mp h22) hy
            constructor <;>
              simp [keepAsResponder, hrs1, hrs2, h11, h21, h12, h22, hfirst, CachedSecret.s1]
          | false =>
            have hfirst := firstShared_eq_none hnot (h.not_has_peer_rs2 h12 (.inr h22))
            constructor <;>
              simp [keepAsResponder, hrs1, hrs2, h11, h21, h12, h22, hfirst, CachedSecret.s1]

/-- Without a `rs1` nothing is checked. -/
lemma keepRetained_of_rs1_none (role : Role) (aux : AuxSecretMismatch) (hrs1 : c.rs1 = none) :
    keepRetained role m ⟨c, false, aux⟩ = ⟨c, false, aux⟩ := by
  cases role <;> simp [keepRetained, keepAsInitiator, keepAsResponder, hrs1]

/-- The first retained secret of the initiator that the responder has too, for a side of this role. -/
def CachedSecret.shared : Role → CachedSecret → CachedSecret → Option Bytes
  | .initiator, c, peer => c.firstShared peer
  | .responder, c, peer => peer.firstShared c

lemma keepRetained_of_rs1 (role : Role) (aux : AuxSecretMismatch) (h : m.Tell c peer) (hrs1 : c.rs1 ≠ none) :
    (keepRetained role m ⟨c, false, aux⟩).cachedSecret.s1 = CachedSecret.shared role c peer ∧
      (keepRetained role m ⟨c, false, aux⟩).cacheMismatchFlag = (CachedSecret.shared role c peer).isNone := by
  obtain ⟨x, hx⟩ := ne_none_iff_exists'.mp hrs1
  cases role with
  | initiator =>
    obtain ⟨hs1, hflag⟩ := keepAsInitiator_of_rs1 aux h hx
    exact ⟨hs1, hflag⟩
  | responder =>
    obtain ⟨hs1, hflag⟩ := keepAsResponder_of_rs1 aux h hx
    exact ⟨hs1, hflag⟩

end keep

/-! ### The exchange of the identifiers -/

/-- The random identifiers a side draws, for each role. -/
structure RandomIDs where
  initiator : SecretIDs
  responder : SecretIDs

def RandomIDs.get (random : RandomIDs) : Role → SecretIDs
  | .initiator => random.initiator
  | .responder => random.responder

def Role.other : Role → Role
  | .initiator => .responder
  | .responder => .initiator

/-- A side of the exchange: its cache, the H3 of both sides and the identifiers it draws. -/
structure SecretHolder where
  cachedSecret : CachedSecret
  selfH3 : Buf 32
  peerH3 : Buf 32
  random : RandomIDs

namespace SecretHolder

variable (P : Primitives) (hash : HashAlgo) (role : Role)

/-- The identifiers computed for a role, with the H3 of the side that has it. -/
def secretIDs (H3 : Buf 32) (h : SecretHolder) : SecretIDs where
  toCachedSecretHash :=
    cachedSecretHash P hash role (h.random.get role).toCachedSecretHash h.cachedSecret
  auxsecretID := h.cachedSecret.auxsecret.elim (h.random.get role).auxsecretID fun secret =>
    hmac8 P hash secret H3.toList

/-- The identifiers in the DHPart message of a side. -/
def sent (h : SecretHolder) : SecretIDs :=
  h.secretIDs P hash role h.selfH3

def expected (h : SecretHolder) : SecretIDs :=
  h.secretIDs P hash role.other h.peerH3

/-- What a side keeps once it received the identifiers of its peer. Each side computes identifiers
with the hash it selected when the Hello message of the other arrived. -/
def kept (P : Primitives) (hash peerHash : HashAlgo) (role : Role) (h peer : SecretHolder) : Retained :=
  checkSecrets role (h.expected P hash role) (peer.sent P peerHash role.other)
    ⟨h.cachedSecret, false, .UNSET⟩

/-- The identifiers a side compares tell the secrets apart: they are injective on the secrets of both
sides, and no random one is the identifier of a secret. -/
structure NoCollision (P : Primitives) (hash : HashAlgo) (role : Role) (h peer : SecretHolder) :
    Prop where
  injective : ∀ x y, h.cachedSecret.Has x → peer.cachedSecret.Has y →
    hmac8 P hash x role.other.secretLabel = hmac8 P hash y role.other.secretLabel → x = y
  random_rs1 : ∀ x, h.cachedSecret.Has x → hmac8 P hash x role.other.secretLabel ≠ (peer.random.get role.other).rs1ID
  random_rs2 : ∀ x, h.cachedSecret.Has x → hmac8 P hash x role.other.secretLabel ≠ (peer.random.get role.other).rs2ID

variable {P : Primitives} {hash : HashAlgo} {role : Role} {h peer : SecretHolder}

lemma NoCollision.tell (hn : NoCollision P hash role h peer) :
    ((h.expected P hash role).compare (peer.sent P hash role.other).toCachedSecretHash).Tell
      h.cachedSecret peer.cachedSecret := by
  have hID : ∀ x (slot : Option Bytes) (random : Buf 8), h.cachedSecret.Has x →
      (∀ y, slot = some y → peer.cachedSecret.Has y) →
      hmac8 P hash x role.other.secretLabel ≠ random →
      ((hmac8 P hash x role.other.secretLabel ==
        slot.elim random fun y => hmac8 P hash y role.other.secretLabel) = true ↔ slot = some x) := by
    intro x slot random hx hslot hrandom
    rw [beq_iff_eq]
    cases slot with
    | none => simpa using hrandom
    | some y =>
      constructor
      · intro heq
        rw [hn.injective x y hx (hslot y rfl) heq]
      · intro heq
        cases heq
        rfl
  constructor
  · intro x hx
    simpa [CachedSecretHash.compare, expected, sent, secretIDs, cachedSecretHash, hx] using
      hID x peer.cachedSecret.rs1 _ (.inl hx) (fun y => .inl) (hn.random_rs1 x (.inl hx))
  · intro x hx
    simpa [CachedSecretHash.compare, expected, sent, secretIDs, cachedSecretHash, hx] using
      hID x peer.cachedSecret.rs2 _ (.inl hx) (fun y => .inr) (hn.random_rs2 x (.inl hx))
  · intro x hx
    simpa [CachedSecretHash.compare, expected, sent, secretIDs, cachedSecretHash, hx] using
      hID x peer.cachedSecret.rs1 _ (.inr hx) (fun y => .inl) (hn.random_rs1 x (.inr hx))
  · intro x hx
    simpa [CachedSecretHash.compare, expected, sent, secretIDs, cachedSecretHash, hx] using
      hID x peer.cachedSecret.rs2 _ (.inr hx) (fun y => .inr) (hn.random_rs2 x (.inr hx))

lemma kept_s1 (peerHash : HashAlgo) : (h.kept P hash peerHash role peer).cachedSecret.s1 =
      (keepRetained role ((h.expected P hash role).compare (peer.sent P peerHash role.other).toCachedSecretHash)
          ⟨h.cachedSecret, false, .UNSET⟩).cachedSecret.s1 := by
  simp [kept, checkSecrets, CachedSecret.s1]

lemma kept_cacheMismatchFlag (peerHash : HashAlgo) : (h.kept P hash peerHash role peer).cacheMismatchFlag =
      (keepRetained role ((h.expected P hash role).compare (peer.sent P peerHash role.other).toCachedSecretHash)
          ⟨h.cachedSecret, false, .UNSET⟩).cacheMismatchFlag := by
  simp [kept, checkSecrets]

end SecretHolder

section exchange

variable {P : Primitives} {hash : HashAlgo} {role : Role} {h peer : SecretHolder}

/-- A side with a `rs1` keeps the shared secret, and raises the flag when there is none. -/
lemma kept_of_rs1 (hn : h.NoCollision P hash role peer) (hrs1 : h.cachedSecret.rs1 ≠ none) :
    (h.kept P hash hash role peer).cachedSecret.s1 = CachedSecret.shared role h.cachedSecret peer.cachedSecret ∧
      (h.kept P hash hash role peer).cacheMismatchFlag =
        (CachedSecret.shared role h.cachedSecret peer.cachedSecret).isNone := by
  rw [SecretHolder.kept_s1, SecretHolder.kept_cacheMismatchFlag]
  exact keepRetained_of_rs1 role .UNSET hn.tell hrs1

/-- A side without keeps its `rs2`, unchecked. -/
lemma kept_of_rs1_none (hash peerHash : HashAlgo) (role : Role) (peer : SecretHolder)
    (hrs1 : h.cachedSecret.rs1 = none) : (h.kept P hash peerHash role peer).cachedSecret.s1 = h.cachedSecret.rs2 ∧
      (h.kept P hash peerHash role peer).cacheMismatchFlag = false := by
  rw [SecretHolder.kept_s1, SecretHolder.kept_cacheMismatchFlag, keepRetained_of_rs1_none role .UNSET hrs1]
  simp [CachedSecret.s1, hrs1]

namespace CachedSecret

variable {i r : CachedSecret} {x : Bytes}

lemma has_of_firstShared (h : i.firstShared r = some x) : i.Has x ∧ r.Has x := by
  rw [firstShared, or_eq_some_iff] at h
  simp only [filter_eq_some_iff, decide_eq_true_eq] at h
  rcases h with h | ⟨-, h⟩
  · exact ⟨.inl h.1, h.2⟩
  · exact ⟨.inr h.1, h.2⟩

lemma exists_firstShared (hi : i.Has x) (hr : r.Has x) : ∃ y, i.firstShared r = some y := by
  by_cases h1 : ∃ y, i.rs1 = some y ∧ r.Has y
  · obtain ⟨y, hy, hhas⟩ := h1
    exact ⟨y, firstShared_of_rs1 hy hhas⟩
  · have hnot : ∀ y, i.rs1 = some y → ¬ r.Has y := fun y hy hhas => h1 ⟨y, hy, hhas⟩
    rcases hi with hi | hi
    · exact absurd hr (hnot x hi)
    · exact ⟨x, firstShared_of_rs2 hnot hi hr⟩

lemma has_iff_of_rs1_none (h : i.rs1 = none) : i.Has x ↔ i.rs2 = some x := by
  simp [Has, h]

/-- An initiator without `rs1` has its `rs2` for shared secret when the responder has it. -/
lemma rs2_eq_firstShared_iff (h : i.rs1 = none) : i.rs2 = i.firstShared r ↔ ∀ x, i.rs2 = some x → r.Has x := by
  rw [firstShared_of_not_rs1 (by simp [h])]
  cases i.rs2 with
  | none => simp
  | some y =>
    rw [eq_comm, filter_eq_some_iff]
    simp

/-- So does a responder. -/
lemma firstShared_eq_rs2_iff (h : r.rs1 = none) : i.firstShared r = r.rs2 ↔ ∀ x, r.rs2 = some x → i.Has x := by
  constructor
  · intro heq x hx
    exact (has_of_firstShared (heq.trans hx)).1
  · intro hshared
    cases hr : r.rs2 with
    | none =>
      refine firstShared_eq_none ?_ ?_ <;> simp [has_iff_of_rs1_none h, hr]
    | some x =>
      obtain ⟨y, hy⟩ := exists_firstShared (hshared x hr) (.inr hr)
      have hry := (has_iff_of_rs1_none h).mp (has_of_firstShared hy).2
      rw [hy, ← hr, hry]

end CachedSecret

variable {i r : SecretHolder}

/-- The retained secrets both sides use are the same exactly when a secret that stands alone in the
`rs2` of one of them is in the cache of the other. -/
theorem kept_s1_eq_iff (hi : i.NoCollision P hash .initiator r) (hr : r.NoCollision P hash .responder i) :
    (i.kept P hash hash .initiator r).cachedSecret.s1 = (r.kept P hash hash .responder i).cachedSecret.s1 ↔
      i.cachedSecret.LoneShared r.cachedSecret ∧ r.cachedSecret.LoneShared i.cachedSecret := by
  by_cases hi1 : i.cachedSecret.rs1 = none
  · rw [(kept_of_rs1_none hash hash .initiator r hi1).1]
    by_cases hr1 : r.cachedSecret.rs1 = none
    · rw [(kept_of_rs1_none hash hash .responder i hr1).1]
      simp only [CachedSecret.LoneShared, CachedSecret.has_iff_of_rs1_none hi1,
        CachedSecret.has_iff_of_rs1_none hr1, hi1, hr1, true_implies]
      constructor
      · intro heq
        simp [heq]
      · rintro ⟨hleft, hright⟩
        exact ext fun x => ⟨fun hx => hleft x hx, fun hx => hright x hx⟩
    · rw [(kept_of_rs1 hr hr1).1]
      simp only [CachedSecret.shared, CachedSecret.LoneShared, hi1, hr1, true_implies, false_implies, and_true]
      exact CachedSecret.rs2_eq_firstShared_iff hi1
  · rw [(kept_of_rs1 hi hi1).1]
    by_cases hr1 : r.cachedSecret.rs1 = none
    · rw [(kept_of_rs1_none hash hash .responder i hr1).1]
      simp only [CachedSecret.shared, CachedSecret.LoneShared, hi1, hr1, true_implies, false_implies, true_and]
      exact CachedSecret.firstShared_eq_rs2_iff hr1
    · rw [(kept_of_rs1 hr hr1).1]
      simp [CachedSecret.shared, CachedSecret.LoneShared, hi1, hr1]

end exchange

/-! ### Caches that differ by one session -/

/-- A side with these retained secrets, whose random identifiers are all zero. -/
def sampleHolder (rs1 rs2 : Option Bytes) : SecretHolder where
  cachedSecret := ⟨rs1, rs2, none, none⟩
  selfH3 := zeros 32
  peerH3 := zeros 32
  random :=
    { initiator := ⟨⟨zeros 8, zeros 8, zeros 8⟩, zeros 8⟩
      responder := ⟨⟨zeros 8, zeros 8, zeros 8⟩, zeros 8⟩ }

lemma sampleHolder_noCollision {hash : HashAlgo} (role : Role) (rs1 rs2 peerRs1 peerRs2 : Option Bytes)
    (hinjective : ∀ x ∈ rs1.toList ++ rs2.toList, ∀ y ∈ peerRs1.toList ++ peerRs2.toList,
      hmac8 Primitives.sample hash x role.other.secretLabel =
        hmac8 Primitives.sample hash y role.other.secretLabel → x = y)
    (hrandom : ∀ x ∈ rs1.toList ++ rs2.toList, hmac8 Primitives.sample hash x role.other.secretLabel ≠ zeros 8) :
    (sampleHolder rs1 rs2).NoCollision Primitives.sample hash role (sampleHolder peerRs1 peerRs2) := by
  have hmem : ∀ (rs1 rs2 : Option Bytes) (x : Bytes),
      (sampleHolder rs1 rs2).cachedSecret.Has x → x ∈ rs1.toList ++ rs2.toList := by
    rintro rs1 rs2 x (hx | hx) <;> cases hx <;> simp
  refine ⟨fun x y hx hy => hinjective x (hmem _ _ _ hx) y (hmem _ _ _ hy), fun x hx => ?_, fun x hx => ?_⟩
  · cases role <;> exact hrandom x (hmem _ _ _ hx)
  · cases role <;> exact hrandom x (hmem _ _ _ hx)

/-- The responder rolled its cache one step further than the initiator. -/
theorem kept_s1_eq_iff_rolled : ((sampleHolder (some [1]) none).kept Primitives.sample .S256 .S256 .initiator
          (sampleHolder (some [2]) (some [1]))).cachedSecret.s1 =
        ((sampleHolder (some [2]) (some [1])).kept Primitives.sample .S256 .S256 .responder
          (sampleHolder (some [1]) none)).cachedSecret.s1 ↔
      (sampleHolder (some [1]) none).cachedSecret.LoneShared (sampleHolder (some [2]) (some [1])).cachedSecret ∧
        (sampleHolder (some [2]) (some [1])).cachedSecret.LoneShared (sampleHolder (some [1]) none).cachedSecret :=
  kept_s1_eq_iff (sampleHolder_noCollision .initiator _ _ _ _ (by decide) (by decide))
    (sampleHolder_noCollision .responder _ _ _ _ (by decide) (by decide))

/-- The initiator has a secret in `rs2` only and the responder has none: the initiator keeps it. -/
theorem not_kept_s1_eq_lone_rs2 : ¬ ∀ (P : Primitives) (hash : HashAlgo) (i r : SecretHolder),
      i.NoCollision P hash .initiator r → r.NoCollision P hash .responder i →
      (i.kept P hash hash .initiator r).cachedSecret.s1 = (r.kept P hash hash .responder i).cachedSecret.s1 := by
  intro hall
  have h := hall Primitives.sample .S256 (sampleHolder none (some [1])) (sampleHolder none none)
    (sampleHolder_noCollision .initiator _ _ _ _ (by decide) (by decide))
    (sampleHolder_noCollision .responder _ _ _ _ (by decide) (by decide))
  revert h
  decide

end Bzrtp
