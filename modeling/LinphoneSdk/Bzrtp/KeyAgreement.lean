import LinphoneSdk.Bzrtp.KeyDerivation
import Mathlib.Data.UInt

/-!
# The two sides derive the same keys

The sides of a session exchanged the same messages on each of its channels. The roles are those of a
channel: the initiator of the main channel may be the responder of another one.
-/

namespace Bzrtp

open Bytes List

variable {P : Primitives}

/-! ### Exchanges -/

/-- An initiator and a responder that exchanged the same Hello and Commit messages, with the
algorithms negotiated there. -/
structure Exchanged (i r : Channel) : Prop where
  initiator : i.role = .initiator
  responder : r.role = .responder
  algos : i.algos = r.algos
  hello : i.peerPackets.hello = r.selfPackets.hello
  commit : i.selfPackets.commit = r.peerPackets.commit

/-- The same with DHPart messages. -/
structure ExchangedDHPart (i r : Channel) : Prop extends Exchanged i r where
  dhPart1 : i.peerPackets.dhPart = r.selfPackets.dhPart
  dhPart2 : i.selfPackets.dhPart = r.peerPackets.dhPart

/-- Each side sent its own public material. -/
def SentPublicValues (sI sR : Session P) (i r : Channel) : Prop :=
  match i.algos.keyAgreement, sI.keyAgreementContext, sR.keyAgreementContext with
  | .dh algo, .DH a, .DH b =>
    dhPartPv i.selfPackets.dhPart algo.publicValueLength = P.publicValue algo a ∧
      dhPartPv r.selfPackets.dhPart algo.publicValueLength = P.publicValue algo b
  | .kem algo, .KEMKeyPair secret, .KEMEncaps random =>
    commitPv i.selfPackets.commit (P.getPkSize algo) = P.getPublicKey algo secret ∧
      dhPartPv r.selfPackets.dhPart (P.getCtSize algo) =
        (P.encaps algo r.algos.hash (commitPv r.peerPackets.commit (P.getPkSize algo)) random).1
  | _, _, _ => False

/-- Two sides of a session: each knows the identifier of the other, and they use the same retained
secrets. -/
structure Peers (a b : Session P) : Prop where
  selfZID : a.selfZID = b.peerZID
  peerZID : a.peerZID = b.selfZID
  s1 : a.cachedSecret.s1 = b.cachedSecret.s1
  s2 : a.cachedSecret.s2 = b.cachedSecret.s2
  s3 : a.cachedSecret.s3 = b.cachedSecret.s3

lemma Peers.symm {a b : Session P} (h : Peers a b) : Peers b a :=
  ⟨h.peerZID.symm, h.selfZID.symm, h.s1.symm, h.s2.symm, h.s3.symm⟩

/-- The keys of two channels are the same, those of one side being those of the peer of the other. -/
structure Coincide (a b : Channel) : Prop where
  KDFContext : a.KDFContext = b.KDFContext
  s0 : a.s0 = b.s0
  mackeyi : a.mackeyi = b.mackeyi
  mackeyr : a.mackeyr = b.mackeyr
  zrtpkeyi : a.zrtpkeyi = b.zrtpkeyi
  zrtpkeyr : a.zrtpkeyr = b.zrtpkeyr
  selfKey : a.srtpSecrets.selfSrtpKey = b.srtpSecrets.peerSrtpKey
  selfSalt : a.srtpSecrets.selfSrtpSalt = b.srtpSecrets.peerSrtpSalt
  peerKey : a.srtpSecrets.peerSrtpKey = b.srtpSecrets.selfSrtpKey
  peerSalt : a.srtpSecrets.peerSrtpSalt = b.srtpSecrets.selfSrtpSalt
  sas : a.srtpSecrets.sas = b.srtpSecrets.sas

lemma Coincide.symm {a b : Channel} (h : Coincide a b) : Coincide b a :=
  ⟨h.KDFContext.symm, h.s0.symm, h.mackeyi.symm, h.mackeyr.symm, h.zrtpkeyi.symm, h.zrtpkeyr.symm,
    h.peerKey.symm, h.peerSalt.symm, h.selfKey.symm, h.selfSalt.symm, h.sas.symm⟩

/-! ### Derivation -/

/-- What the derivation of the keys of a channel reads. -/
structure SameInputs (i r : Channel) : Prop where
  initiator : i.role = .initiator
  responder : r.role = .responder
  algos : i.algos = r.algos
  KDFContext : i.KDFContext = r.KDFContext
  s0 : i.s0 = r.s0

variable {i r : Channel}

lemma SameInputs.deriveFromS0 (h : SameInputs i r) (label : String) (length : UInt8) :
    Bzrtp.deriveFromS0 P i label length = Bzrtp.deriveFromS0 P r label length := by
  rw [Bzrtp.deriveFromS0, Bzrtp.deriveFromS0, h.algos, h.KDFContext, h.s0]

/-- Both sides derive the same keys from the same inputs. -/
lemma SameInputs.coincide (h : SameInputs i r) : Coincide (deriveSrtpKeysFromS0 P (deriveKeysFromS0 P i))
      (deriveSrtpKeysFromS0 P (deriveKeysFromS0 P r)) := by
  have hkey : ∀ (label : String) (length : UInt8), Bzrtp.deriveFromS0 P (deriveKeysFromS0 P i) label length =
        Bzrtp.deriveFromS0 P (deriveKeysFromS0 P r) label length := fun label length =>
    h.deriveFromS0 label length
  constructor
  · exact h.KDFContext
  · exact h.s0
  · simp only [deriveSrtpKeysFromS0, deriveKeysFromS0, h.deriveFromS0, h.algos]
  · simp only [deriveSrtpKeysFromS0, deriveKeysFromS0, h.deriveFromS0, h.algos]
  · simp only [deriveSrtpKeysFromS0, deriveKeysFromS0, h.deriveFromS0, h.algos]
  · simp only [deriveSrtpKeysFromS0, deriveKeysFromS0, h.deriveFromS0, h.algos]
  all_goals
    simp only [deriveSrtpKeysFromS0, hkey]
    simp only [deriveKeysFromS0, h.initiator, h.responder, h.algos]

/-! ### Inputs -/

variable {sI sR : Session P}

lemma kdfContext_eq (hpeers : Peers sI sR) (h : Exchanged i r) {totalHash totalHash' : Bytes}
    (heq : totalHash = totalHash') : kdfContext P sI i totalHash = kdfContext P sR r totalHash' := by
  simp only [kdfContext, ZIDs, h.initiator, h.responder, hpeers.selfZID, hpeers.peerZID, heq]

lemma totalHashMultiStream_eq (h : Exchanged i r) : totalHashMultiStream P i = totalHashMultiStream P r := by
  simp only [totalHashMultiStream, h.initiator, h.responder, h.algos, h.hello, h.commit]

lemma totalHashDHM_eq (h : ExchangedDHPart i r) : totalHashDHM P i = totalHashDHM P r := by
  simp only [totalHashDHM, h.initiator, h.responder, h.algos, h.hello, h.commit, h.dhPart1, h.dhPart2]

/-- The key agreement gives both sides the same secret. -/
lemma sharedSecret_eq (hP : P.Correct) (h : ExchangedDHPart i r) (hpv : SentPublicValues sI sR i r) :
    sharedSecret P sI i = sharedSecret P sR r := by
  have halgos := h.algos
  unfold SentPublicValues at hpv
  split at hpv
  · rename_i algo a b hka hI hR
    rw [halgos] at hka
    simp only [sharedSecret, halgos, hka, hI, hR, h.dhPart1, hpv.2, ← h.dhPart2, hpv.1]
    exact hP.computeSecret_comm algo a b
  · rename_i algo secret random hka hI hR
    rw [halgos] at hka
    simp only [sharedSecret, halgos, hka, hI, hR, h.dhPart1, hpv.2, ← h.commit, hpv.1]
    exact hP.decaps_encaps algo _ secret random
  · exact hpv.elim

/-- Inputs of the main channel, in DHM mode. -/
lemma sameInputs_DHM (hP : P.Correct) (hpeers : Peers sI sR) (h : ExchangedDHPart i r)
    (hpv : SentPublicValues sI sR i r) :
    SameInputs
      { i with
        KDFContext := kdfContext P sI i (totalHashDHM P i)
        s0 := s0DHM P sI i (kdfContext P sI i (totalHashDHM P i)) }
      { r with
        KDFContext := kdfContext P sR r (totalHashDHM P r)
        s0 := s0DHM P sR r (kdfContext P sR r (totalHashDHM P r)) } := by
  have hcontext := kdfContext_eq hpeers h.toExchanged (totalHashDHM_eq (P := P) h)
  refine ⟨h.initiator, h.responder, h.algos, hcontext, ?_⟩
  simp only [s0DHM, hcontext, sharedSecret_eq hP h hpv, h.algos, hpeers.s1, hpeers.s2, hpeers.s3]

/-- Inputs of the other channels, in Multistream mode. -/
lemma sameInputs_multiStream (hpeers : Peers sI sR) (hsess : sI.ZRTPSess = sR.ZRTPSess) (h : Exchanged i r) :
    SameInputs
      { i with
        KDFContext := kdfContext P sI i (totalHashMultiStream P i)
        s0 := keyDerivationFunction P i.algos.hash sI.ZRTPSess (ascii "ZRTP MSK")
          (kdfContext P sI i (totalHashMultiStream P i)) i.algos.hash.hashLength }
      { r with
        KDFContext := kdfContext P sR r (totalHashMultiStream P r)
        s0 := keyDerivationFunction P r.algos.hash sR.ZRTPSess (ascii "ZRTP MSK")
          (kdfContext P sR r (totalHashMultiStream P r)) r.algos.hash.hashLength } := by
  have hcontext := kdfContext_eq hpeers h (totalHashMultiStream_eq (P := P) h)
  refine ⟨h.initiator, h.responder, h.algos, hcontext, ?_⟩
  simp only [hcontext, h.algos, hsess]

/-! ### Channels -/

/-- The main channel, whichever side is the initiator. -/
def PairedDHM (a b : Session P) (ca cb : Channel) : Prop :=
  (ExchangedDHPart ca cb ∧ SentPublicValues a b ca cb) ∨ (ExchangedDHPart cb ca ∧ SentPublicValues b a cb ca)

/-- Another channel, whichever side is the initiator. -/
def PairedMultiStream (ca cb : Channel) : Prop := Exchanged ca cb ∨ Exchanged cb ca

variable {a b : Session P} {ca cb : Channel}

lemma coincide_DHM (hP : P.Correct) (hpeers : Peers a b) (h : PairedDHM a b ca cb) :
    totalHashDHM P ca = totalHashDHM P cb ∧
      (computeS0DHMMode P a ca).1.ZRTPSess = (computeS0DHMMode P b cb).1.ZRTPSess ∧
      Coincide (deriveSrtpKeysFromS0 P (computeS0DHMMode P a ca).2)
        (deriveSrtpKeysFromS0 P (computeS0DHMMode P b cb).2) := by
  obtain ⟨h, hpv⟩ | ⟨h, hpv⟩ := h
  · have hsame := sameInputs_DHM hP hpeers h hpv
    refine ⟨totalHashDHM_eq h, ?_, hsame.coincide⟩
    simp only [computeS0DHMMode]
    rw [hsame.deriveFromS0, h.algos]
  · have hsame := sameInputs_DHM hP hpeers.symm h hpv
    refine ⟨(totalHashDHM_eq h).symm, ?_, hsame.coincide.symm⟩
    simp only [computeS0DHMMode]
    rw [← hsame.deriveFromS0, h.algos]

lemma coincide_multiStream (hpeers : Peers a b) (hsess : a.ZRTPSess = b.ZRTPSess) (h : PairedMultiStream ca cb) :
    totalHashMultiStream P ca = totalHashMultiStream P cb ∧
      Coincide (deriveSrtpKeysFromS0 P (computeS0MultiStreamMode P a ca))
        (deriveSrtpKeysFromS0 P (computeS0MultiStreamMode P b cb)) := by
  obtain h | h := h
  · exact ⟨totalHashMultiStream_eq h, (sameInputs_multiStream hpeers hsess h).coincide⟩
  · exact ⟨(totalHashMultiStream_eq h).symm, (sameInputs_multiStream hpeers.symm hsess.symm h).coincide.symm⟩

/-- On every channel of a session, both sides compute the same total hash, context, `s0`, session key
and keys, with self and peer swapped. -/
theorem establish_coincide (hP : P.Correct) (hpeers : Peers a b) (hmain : PairedDHM a b ca cb)
    (others : List (Channel × Channel)) (hothers : ∀ c ∈ others, PairedMultiStream c.1 c.2) :
    (totalHashDHM P ca = totalHashDHM P cb ∧ ∀ c ∈ others, totalHashMultiStream P c.1 = totalHashMultiStream P c.2) ∧
      (establish P a ca (others.map Prod.fst)).1.ZRTPSess = (establish P b cb (others.map Prod.snd)).1.ZRTPSess ∧
      Coincide (establish P a ca (others.map Prod.fst)).2.1 (establish P b cb (others.map Prod.snd)).2.1 ∧
      Forall₂ Coincide (establish P a ca (others.map Prod.fst)).2.2
        (establish P b cb (others.map Prod.snd)).2.2 := by
  obtain ⟨htotal, hsess, hcoincide⟩ := coincide_DHM hP hpeers hmain
  -- the session key is the only part of the session that the main channel changes
  have hpeers' : Peers (computeS0DHMMode P a ca).1 (computeS0DHMMode P b cb).1 :=
    ⟨hpeers.selfZID, hpeers.peerZID, hpeers.s1, hpeers.s2, hpeers.s3⟩
  refine ⟨⟨htotal, fun c hc => ?_⟩, hsess, hcoincide, ?_⟩
  · exact (coincide_multiStream hpeers' hsess (hothers c hc)).1
  · simp only [establish, map_map, forall₂_map_left_iff, forall₂_map_right_iff, forall₂_same]
    intro c hc
    exact (coincide_multiStream hpeers' hsess (hothers c hc)).2

/-! ### A session on concrete inputs -/

/-- Primitives on single bytes that satisfy the equations of `Primitives.Correct`. -/
def Primitives.sample : Primitives where
  hashFunction _ input length := replicate length.toNat input.sum
  hmacFunction _ key input length := replicate length.toNat (3 * key.sum + input.sum)
  DHSecret := UInt8
  publicValue algo a := replicate algo.publicValueLength a
  computeSecret algo a pv := replicate algo.publicValueLength (a * pv.headD 0)
  KEMSecret := UInt8
  KEMRandom := UInt8
  getPublicKey _ a := [a]
  encaps _ _ pk random := ([random], [pk.headD 0 + random])
  decaps _ _ a ct := [a + ct.headD 0]
  getPkSize _ := 1
  getCtSize _ := 1
  kSsSize _ := 1
  pgpWordsEven x := [x]
  pgpWordsOdd x := [x]

lemma Primitives.correct_sample : Primitives.sample.Correct where
  computeSecret_comm := fun algo (a b : UInt8) => by
    have h : replicate algo.publicValueLength (a * b) =
      replicate algo.publicValueLength (b * a) := congrArg _ (UInt8.mul_comm a b)
    cases algo <;> exact h
  decaps_encaps _ _ _ _ := rfl

/-- One side of a session, with an identifier for each side and a secret for the key agreement. -/
def sampleSession (self peer secret : UInt8) : Session Primitives.sample where
  selfZID := ⟨replicate 12 self, rfl⟩
  peerZID := ⟨replicate 12 peer, rfl⟩
  cachedSecret := ⟨none, some [1, 2], none, none⟩
  keyAgreementContext := .DH secret
  ZRTPSess := []

def sampleChannel (role : Role) (self peer : Packets) (keyAgreement : KeyAgreementAlgo) : Channel where
  role := role
  selfPackets := self
  peerPackets := peer
  algos := ⟨.S384, .AES1, .GCM, keyAgreement, .B32⟩
  KDFContext := []
  s0 := []
  mackeyi := []
  mackeyr := []
  zrtpkeyi := []
  zrtpkeyr := []
  srtpSecrets := ⟨[], [], [], [], none⟩

/-- The DHPart message that carries the public value of a secret. -/
def sampleDHPart (secret : UInt8) : Bytes :=
  replicate 76 0 ++ replicate 32 secret ++ replicate 8 0

/-- A session of two channels, where the sides have opposite roles. -/
theorem establish_coincide_two_channels : Coincide (establish Primitives.sample (sampleSession 1 2 5)
          (sampleChannel .initiator ⟨[1], [2], sampleDHPart 5⟩ ⟨[3], [], sampleDHPart 9⟩ (.dh .X255))
          [sampleChannel .responder ⟨[4], [], []⟩ ⟨[5], [6], []⟩ .Mult]).2.1
        (establish Primitives.sample (sampleSession 2 1 9)
          (sampleChannel .responder ⟨[3], [], sampleDHPart 9⟩ ⟨[1], [2], sampleDHPart 5⟩ (.dh .X255))
          [sampleChannel .initiator ⟨[5], [6], []⟩ ⟨[4], [], []⟩ .Mult]).2.1 ∧ Forall₂ Coincide
        (establish Primitives.sample (sampleSession 1 2 5)
          (sampleChannel .initiator ⟨[1], [2], sampleDHPart 5⟩ ⟨[3], [], sampleDHPart 9⟩ (.dh .X255))
          [sampleChannel .responder ⟨[4], [], []⟩ ⟨[5], [6], []⟩ .Mult]).2.2
        (establish Primitives.sample (sampleSession 2 1 9)
          (sampleChannel .responder ⟨[3], [], sampleDHPart 9⟩ ⟨[1], [2], sampleDHPart 5⟩ (.dh .X255))
          [sampleChannel .initiator ⟨[5], [6], []⟩ ⟨[4], [], []⟩ .Mult]).2.2 := by
  have hmain : PairedDHM (sampleSession 1 2 5) (sampleSession 2 1 9)
      (sampleChannel .initiator ⟨[1], [2], sampleDHPart 5⟩ ⟨[3], [], sampleDHPart 9⟩ (.dh .X255))
      (sampleChannel .responder ⟨[3], [], sampleDHPart 9⟩ ⟨[1], [2], sampleDHPart 5⟩ (.dh .X255)) :=
    Or.inl ⟨⟨⟨rfl, rfl, rfl, rfl, rfl⟩, rfl, rfl⟩, rfl, rfl⟩
  have hpeers : Peers (sampleSession 1 2 5) (sampleSession 2 1 9) := ⟨rfl, rfl, rfl, rfl, rfl⟩
  have hother : PairedMultiStream (sampleChannel .responder ⟨[4], [], []⟩ ⟨[5], [6], []⟩ .Mult)
      (sampleChannel .initiator ⟨[5], [6], []⟩ ⟨[4], [], []⟩ .Mult) :=
    Or.inr ⟨rfl, rfl, rfl, rfl, rfl⟩
  have h := establish_coincide Primitives.correct_sample hpeers hmain
    [(_, _)] (fun c hc => mem_singleton.mp hc ▸ hother)
  exact ⟨h.2.2.1, h.2.2.2⟩

end Bzrtp
