import LinphoneSdk.Bzrtp.Authentication

/-!
# Commit contention

Both sides sent a Commit message. Each takes the one of the other at least once, however often they are repeated and in
whatever order they come.
-/

namespace Bzrtp

open Bytes Exec Option

/-! ### The comparison of the messages -/

lemma memcmpLt_iff_not {n : ℕ} {a b : Buf n} : (memcmpLt a b ↔ ¬memcmpLt b a) ↔ a ≠ b := by
  constructor
  · rintro h rfl
    exact iff_not_self h
  · intro hne
    refine ⟨fun h h' => List.lt_asymm h h', fun h => ?_⟩
    by_contra h'
    exact hne (List.Vector.toList_injective (List.le_antisymm h h'))

/-- What counts of the messages of a side: the M flag of its Hello message, and the key agreement of its Commit message
with the nonce and the hvi. -/
structure Stake where
  M : Bool
  keyAgreementAlgo : UInt8
  nonce : Buf 16
  hvi : Buf 32
  deriving DecidableEq

namespace Stake

def ofCommit (M : Bool) (message : CommitMessage) : Stake :=
  ⟨M, message.keyAgreementAlgo, message.nonce, message.hvi⟩

/-- `losesContention` of what counts. -/
def Loses (own peer : Stake) : Prop :=
  if peer.keyAgreementAlgo ≠ own.keyAgreementAlgo then
    peer.keyAgreementAlgo ≠ ZRTP_KEYAGREEMENT_Prsh ∧ own.keyAgreementAlgo = ZRTP_KEYAGREEMENT_Prsh
  else if peer.keyAgreementAlgo = ZRTP_KEYAGREEMENT_Prsh ∧ (own.M ∨ peer.M) then own.M = true
  else if NoDHM own.keyAgreementAlgo then memcmpLt own.nonce peer.nonce
  else memcmpLt own.hvi peer.hvi

lemma losesContention_iff (selfHello peerHello : HelloMessage) (selfCommit peerCommit : CommitMessage) :
    losesContention selfHello peerHello selfCommit peerCommit ↔
      (ofCommit selfHello.M selfCommit).Loses (ofCommit peerHello.M peerCommit) :=
  Iff.rfl

/-- Two key agreements decide when one is Preshared, and one does when the flags, or else the values, differ. -/
def Decisive (own peer : Stake) : Prop :=
  if peer.keyAgreementAlgo ≠ own.keyAgreementAlgo then
    peer.keyAgreementAlgo = ZRTP_KEYAGREEMENT_Prsh ∨ own.keyAgreementAlgo = ZRTP_KEYAGREEMENT_Prsh
  else if peer.keyAgreementAlgo = ZRTP_KEYAGREEMENT_Prsh ∧ (own.M ∨ peer.M) then own.M ≠ peer.M
  else if NoDHM own.keyAgreementAlgo then own.nonce ≠ peer.nonce
  else own.hvi ≠ peer.hvi

/-- One side loses, and not the other. -/
lemma loses_iff_not (own peer : Stake) : (own.Loses peer ↔ ¬peer.Loses own) ↔ own.Decisive peer := by
  unfold Loses Decisive
  by_cases hmodes : peer.keyAgreementAlgo = own.keyAgreementAlgo
  · simp only [hmodes, ne_eq, not_true_eq_false, if_false, or_comm (a := peer.M = true)]
    split_ifs
    · cases own.M <;> cases peer.M <;> simp
    · exact memcmpLt_iff_not
    · exact memcmpLt_iff_not
  · simp only [hmodes, Ne.symm hmodes, ne_eq, not_false_eq_true, if_true]
    by_cases hpeer : peer.keyAgreementAlgo = ZRTP_KEYAGREEMENT_Prsh
    · simp only [hpeer] at hmodes ⊢
      simp [Ne.symm hmodes]
    · simp [hpeer]

end Stake

/-! ### A channel that sent its Commit message -/

namespace Core

/-- It has this stake, and a Hello message of its peer with this flag. -/
structure Contends (c : Core) (own : Stake) (peerM : Bool) : Prop where
  stateMachine : c.stateMachine = some .keyAgreement_sendingCommit
  role : c.role = .initiator
  own : c.selfCommit.map (fun commit => Stake.ofCommit c.selfHello.messageData.M commit.messageData) = some own
  peerHello : c.peerHello.map (·.messageData.M) = some peerM

variable {c c' : Core} {own peer : Stake} {P : Primitives} {m : Handed} {message : CommitMessage}

lemma Contends.turnedBy_iff (h : c.Contends own peer.M) (hmessage : .ofCommit peer.M message = peer) :
    c.TurnedBy message ↔ own.Loses peer := by
  obtain ⟨hello, hhello, hpeer⟩ := map_eq_some_iff.1 h.peerHello
  obtain ⟨commit, hcommit, hself⟩ := map_eq_some_iff.1 h.own
  rw [TurnedBy, h.role, hhello, hcommit, ← hself, ← hmessage, ← hpeer]
  simp [Stake.losesContention_iff]

/-- The channel is a responder that lost, or it still contends, and did not lose once it took a message. -/
def Contended (own peer : Stake) (taken : Prop) (c : Core) : Prop :=
  c.role = .responder ∧ own.Loses peer ∨ c.Contends own peer.M ∧ (taken → ¬own.Loses peer)

lemma Contends.transition (h : c.Contends own peer.M) (hcommit : m.commit = some message)
    (hmessage : .ofCommit peer.M message = peer) (ht : Transition P (.message m) c c') :
    c'.Contended own peer True := by
  have hs := h.stateMachine
  cases ht with
  | kept e he => exact absurd rfl (he m)
  | won _ hcommit' hwon =>
    rw [hcommit, some_inj] at hcommit'
    subst hcommit'
    exact .inr ⟨⟨hs, h.role, h.own, h.peerHello⟩, fun _ hloses => hwon ((h.turnedBy_iff hmessage).2 hloses)⟩
  | turned hs' hcommit' hstate _ _ _ _ _ _ hc' =>
    rw [hcommit, some_inj] at hcommit'
    rw [hs, some_inj] at hs'
    subst hcommit' hs'
    obtain ⟨_, _, _, _, rfl⟩ := hc'.exists_eq
    rcases hstate with hstate | ⟨-, hturned⟩ | hstate
    · cases hstate
    · exact .inl ⟨rfl, (h.turnedBy_iff hmessage).1 hturned⟩
    · cases hstate
  | refused _ hnone => rw [hnone hs] at hcommit; cases hcommit
  | derived _ _ hnone | dhPart1 _ hnone | confirm1NoDHM _ hnone => rw [hnone] at hcommit; cases hcommit
  | repeated hs' hrepeating =>
    rw [hs, some_inj] at hs'
    subst hs'
    exact absurd hrepeating (by decide)
  | discovered hs' hstate | goneClear hs' hstate => simp [hs] at hs'; subst hs'; simp at hstate
  | helloAcked hs' | dhPart2 hs' | confirm1 hs' | confirm2 hs' | confirm2Unanswered hs' | conf2ACK hs' =>
    rw [hs] at hs'
    cases hs'

/-- A responder stays one, whatever Commit messages it gets. -/
lemma responder_transition (hrole : c.role = .responder) (htype : m.zrtpPacket.messageType = .commit)
    (ht : Transition P (.message m) c c') : c'.role = .responder := by
  cases ht with
  | turned _ _ _ _ _ _ _ _ _ hc' =>
    obtain ⟨_, _, _, _, rfl⟩ := hc'.exists_eq
    rfl
  | dhPart2 _ _ _ _ _ hc' =>
    obtain ⟨_, _, _, _, rfl⟩ := hc'.exists_eq
    exact hrole
  | confirm1NoDHM _ _ hc' => rcases hc' with ⟨rfl, -⟩ | ⟨-, _, _, rfl, -⟩ <;> exact hrole
  | goneClear _ hstate => simp [htype] at hstate
  | _ => exact hrole

end Core

/-! ### Runs -/

section runs

variable {P : CipherPrimitives} {w w' : World P} {own peer : Stake} {taken : Prop}

/-- The channel takes a packet with a Commit message of this stake. -/
def Takes (peer : Stake) (w w' : World P) : Prop :=
  ∃ env input zrtpPacket packetString message,
    (packetCheck env.malloc input w.ch.toChannelContext).result = .packet zrtpPacket packetString ∧
    w.ch.stateMachine.isSome ∧ zrtpPacket.messageType = .commit ∧
    readCommit P env.outside w.ch.toParserContext zrtpPacket packetString = some message ∧
    .ofCommit peer.M message = peer ∧ Performed env (.processMessage input) w w'

/-- The timer of the channel may fire between two messages. -/
def ContentionStep (peer : Stake) (w w' : World P) : Prop :=
  Takes peer w w' ∨ ∃ env timeReference, Performed env (.iterateEngine timeReference) w w'

/-- A run in which the channel takes the message, once or more. -/
def Receives (peer : Stake) (w w' : World P) : Prop :=
  ∃ w₁ w₂, Relation.ReflTransGen (ContentionStep peer) w w₁ ∧ Takes peer w₁ w₂ ∧
    Relation.ReflTransGen (ContentionStep peer) w₂ w'

lemma core_eq_of_performed {env : Environment P} {call : Call P} (hkeeps : Keeps (perform env call))
    (h : Performed env call w w') : w'.core = w.core := by
  rw [Performed, wp] at h
  cases hrun : perform env call w with
  | ok a w₁ =>
    have hcore := wp_of_ok (hkeeps w) hrun
    rw [hrun] at h
    exact h ▸ hcore
  | error e w₁ =>
    have hcore := wp_of_error (hkeeps w) hrun
    rw [hrun] at h
    exact h.2 ▸ hcore h.1

namespace Core

lemma Contended.takes (h : w.core.Contended own peer taken) (htakes : Takes peer w w') :
    w'.core.Contended own peer True := by
  obtain ⟨env, input, zrtpPacket, packetString, message, hpacket, hstarted, htype, hcommit, hmessage, hperformed⟩ :=
    htakes
  obtain ⟨accepted, ht⟩ := exists_transition_of_performed hperformed
  obtain ⟨s, hs⟩ := isSome_iff_exists.1 hstarted
  have hping : zrtpPacket.messageType ≠ .ping := by
    rw [htype]
    decide
  simp only [eventOf, hs, hpacket, if_neg hping] at ht
  rcases h with ⟨hrole, hloses⟩ | ⟨hcontends, -⟩
  · exact .inl ⟨responder_transition hrole htype ht, hloses⟩
  · exact hcontends.transition hcommit hmessage ht

lemma Contended.run (h : w.core.Contended own peer taken)
    (hrun : Relation.ReflTransGen (ContentionStep peer) w w') : w'.core.Contended own peer taken := by
  induction hrun with
  | refl => exact h
  | tail _ hstep ih =>
    rcases hstep with htakes | ⟨env, timeReference, hperformed⟩
    · exact (ih.takes htakes).imp_right fun hcontends => ⟨hcontends.1, fun _ => hcontends.2 trivial⟩
    · exact core_eq_of_performed (keeps_iterateEngine timeReference) hperformed ▸ ih

lemma Contends.role_iff (h : w.core.Contends own peer.M) (hreceives : Receives peer w w') :
    w'.ch.role = .responder ↔ own.Loses peer := by
  obtain ⟨w₁, w₂, hbefore, htakes, hafter⟩ := hreceives
  have hcontended : w.core.Contended own peer False := .inr ⟨h, False.elim⟩
  rcases ((hcontended.run hbefore).takes htakes).run hafter with ⟨hrole, hloses⟩ | ⟨hcontends, hwins⟩
  · exact iff_of_true hrole hloses
  · refine iff_of_false (fun hrole => ?_) (hwins trivial)
    cases hcontends.role.symm.trans hrole

end Core

/-- One side alone turns into a responder when the messages decide it, and only then. -/
theorem contention_decisive {x y : Stake} {a a' b b' : World P} (ha : a.core.Contends x y.M)
    (hb : b.core.Contends y x.M) (hreceivesA : Receives y a a') (hreceivesB : Receives x b b') :
    (a'.ch.role = .responder ↔ b'.ch.role ≠ .responder) ↔ x.Decisive y := by
  rw [ha.role_iff hreceivesA, Ne, hb.role_iff hreceivesB]
  exact x.loses_iff_not y

end runs

/-! ### Two sides in Multistream mode -/

/-- A channel that drew this nonce for the Commit message it sent when its Hello message was acknowledged. -/
def multWorld (x : UInt8) : World .sample :=
  final (perform { Environment.sample with nonce := List.Vector.replicate 16 x }
    (.processMessage (samplePacket 2 .helloACK []))) channelHelloWorld

/-- The last packet that it sent. -/
def multPacket (x : UInt8) : Bytes := (multWorld x).sent.getLastD []

def multTakenWorld (x y : UInt8) : World .sample :=
  final (perform .sample (.processMessage (multPacket y))) (multWorld x)

def multStake (x : UInt8) : Stake := ⟨false, ZRTP_KEYAGREEMENT_Mult, List.Vector.replicate 16 x, zeros 32⟩

-- its run is evaluated by the kernel only
attribute [local irreducible] channelHelloWorld

lemma contends_multWorld {x : UInt8} (h : x = 0 ∨ x = 1) : (multWorld x).core.Contends (multStake x) false := by
  constructor
  all_goals rcases h with rfl | rfl <;> decide +kernel

lemma receives_multTakenWorld {x y : UInt8} (h : x = 0 ∧ y = 1 ∨ x = 1 ∧ y = 0) :
    Receives (multStake y) (multWorld x) (multTakenWorld x y) := by
  have hread : (readCommit .sample (fun _ => 0) (multWorld x).ch.toParserContext ⟨3, 100, .commit, 0⟩
      (multPacket y)).map (Stake.ofCommit false) = some (multStake y) := by
    rcases h with ⟨rfl, rfl⟩ | ⟨rfl, rfl⟩ <;> decide +kernel
  obtain ⟨message, hmessage⟩ := map_eq_some_iff.1 hread
  refine ⟨_, _, .refl, ⟨.sample, multPacket y, ⟨3, 100, .commit, 0⟩, multPacket y, message, ?_, ?_, rfl, hmessage.1,
    hmessage.2, performed_of_eq rfl ?_⟩, .refl⟩
  all_goals rcases h with ⟨rfl, rfl⟩ | ⟨rfl, rfl⟩ <;> decide +kernel

/-- Each side takes the packet that the other one sent. -/
theorem contention_decisive_mult :
    ((multTakenWorld 0 1).ch.role = .responder ↔ (multTakenWorld 1 0).ch.role ≠ .responder) ↔
      (multStake 0).Decisive (multStake 1) :=
  contention_decisive (contends_multWorld (.inl rfl)) (contends_multWorld (.inr rfl))
    (receives_multTakenWorld (.inl ⟨rfl, rfl⟩)) (receives_multTakenWorld (.inr ⟨rfl, rfl⟩))

end Bzrtp
