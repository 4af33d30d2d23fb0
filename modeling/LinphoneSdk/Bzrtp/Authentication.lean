import LinphoneSdk.Bzrtp.Refinement
import Mathlib.Logic.Relation

/-!
# Authentication of the exchange

The chain of hashes of the peer: what a Confirm message reveals verifies the DHPart message, or the
Commit message, or the Hello message, and so on down to the Hello message. The messages verified are the
ones that the context of the key derivations hashes.
-/

namespace Bzrtp

open Bytes Chunks Exec List Option

/-! ### Chains -/

namespace Core

variable {P : Primitives} {c c' : Core} {e : Event}

/-- The states before any Commit message. -/
def discoveryStates : List (Option EngineState) :=
  [none, some .discovery_init, some .discovery_waitingForHello]

/-- The states before any DHPart message. -/
def commitStates : List (Option EngineState) :=
  [some .discovery_waitingForHelloAck, some .keyAgreement_sendingCommit]

/-- The messages stored verify each other. -/
structure Chained (P : Primitives) (c : Core) : Prop where
  hello_of_commit : ∀ commit, c.peerCommit = some commit → c.HelloVerified P commit.messageData.H2
  hello_of_dhPart : ∀ dhPart, c.peerDHPart = some dhPart → c.HelloVerified P (sha256 P dhPart.messageData.H1.toList)
  commit_of_dhPart : ∀ dhPart, c.peerDHPart = some dhPart → c.role = .responder →
    c.CommitVerified P dhPart.messageData.H1
  noCommit : c.stateMachine ∈ discoveryStates → c.peerCommit = none
  noDHPart : c.stateMachine ∈ discoveryStates ++ commitStates → c.peerDHPart = none

lemma chained_of_none (hcommit : c.peerCommit = none) (hdhPart : c.peerDHPart = none) : c.Chained P where
  hello_of_commit commit h := by rw [hcommit] at h; cases h
  hello_of_dhPart dhPart h := by rw [hdhPart] at h; cases h
  commit_of_dhPart dhPart h := by rw [hdhPart] at h; cases h
  noCommit _ := hcommit
  noDHPart _ := hdhPart

/-- The state of the machine may change, if it is not back to a state before the messages stored. -/
lemma Chained.congr (h : c.Chained P) (hhello : c'.peerHello = c.peerHello)
    (hcommit : c'.peerCommit = c.peerCommit) (hdhPart : c'.peerDHPart = c.peerDHPart)
    (hrole : c'.role = .responder → c.role = .responder)
    (hdiscovery : c'.stateMachine ∈ discoveryStates → c.stateMachine ∈ discoveryStates)
    (hstates : c'.stateMachine ∈ discoveryStates ++ commitStates →
      c.stateMachine ∈ discoveryStates ++ commitStates) : c'.Chained P where
  hello_of_commit := by
    rw [hcommit]
    simp only [HelloVerified, hhello]
    exact h.hello_of_commit
  hello_of_dhPart := by
    rw [hdhPart]
    simp only [HelloVerified, hhello]
    exact h.hello_of_dhPart
  commit_of_dhPart := by
    rw [hdhPart]
    simp only [CommitVerified, hcommit]
    exact fun dhPart hd hr => h.commit_of_dhPart dhPart hd (hrole hr)
  noCommit hs := hcommit.trans (h.noCommit (hdiscovery hs))
  noDHPart hs := hdhPart.trans (h.noDHPart (hstates hs))

lemma Chained.later (h : c.Chained P) (hs : c'.stateMachine ∉ discoveryStates ++ commitStates)
    (hhello : c'.peerHello = c.peerHello) (hcommit : c'.peerCommit = c.peerCommit)
    (hdhPart : c'.peerDHPart = c.peerDHPart) (hrole : c'.role = .responder → c.role = .responder) : c'.Chained P :=
  h.congr hhello hcommit hdhPart hrole (fun hs' => absurd (mem_append_left _ hs') hs)
    fun hs' => absurd hs' hs

lemma Chained.seen (h : c.Chained P) (zrtpPacket : Packet) : (c.seen zrtpPacket).Chained P :=
  h.congr rfl rfl rfl (fun h => h) (fun h => h) fun h => h

/-- A message that reveals H1 verifies the Hello message too. -/
lemma Chained.hello_of_h1 (h : c.Chained P) {H1 : Buf 32} (hH1 : c.H1Verified P H1) :
    c.HelloVerified P (sha256 P H1.toList) := by
  rw [H1Verified] at hH1
  cases hrole : c.role with
  | initiator =>
    rw [hrole] at hH1
    exact hH1
  | responder =>
    rw [hrole] at hH1
    obtain ⟨commit, hcommit, hH2, -⟩ := hH1
    rw [hH2]
    exact h.hello_of_commit commit hcommit

lemma Chained.takingDHPart (h : c.Chained P) {dhPart : ZrtpPacket DHPartMessage}
    (hH1 : c.H1Verified P dhPart.messageData.H1) (hs : c'.stateMachine ∉ discoveryStates ++ commitStates)
    (hhello : c'.peerHello = c.peerHello) (hcommit : c'.peerCommit = c.peerCommit)
    (hdhPart : c'.peerDHPart = some dhPart) (hrole : c'.role = c.role) : c'.Chained P where
  hello_of_commit := by
    rw [hcommit]
    simp only [HelloVerified, hhello]
    exact h.hello_of_commit
  hello_of_dhPart d hd := by
    rw [hdhPart, some_inj] at hd
    subst hd
    rw [HelloVerified, hhello]
    exact h.hello_of_h1 hH1
  commit_of_dhPart d hd hr := by
    rw [hdhPart, some_inj] at hd
    subst hd
    rw [hrole] at hr
    rw [H1Verified, hr] at hH1
    rw [CommitVerified, hcommit]
    exact hH1
  noCommit hs' := absurd (mem_append_left _ hs') hs
  noDHPart hs' := absurd hs' hs

lemma chained_of_turned {commit : ZrtpPacket CommitMessage}
    (hH2 : c.HelloVerified P commit.messageData.H2) (hs : c'.stateMachine ∉ discoveryStates)
    (hhello : c'.peerHello = c.peerHello) (hcommit : c'.peerCommit = some commit)
    (hdhPart : c'.peerDHPart = none) : c'.Chained P where
  hello_of_commit d hd := by
    rw [hcommit, some_inj] at hd
    subst hd
    rw [HelloVerified, hhello]
    exact hH2
  hello_of_dhPart d hd := by rw [hdhPart] at hd; cases hd
  commit_of_dhPart d hd := by rw [hdhPart] at hd; cases hd
  noCommit hs' := absurd hs' hs
  noDHPart _ := hdhPart

lemma responderState_not_mem (algo : UInt8) : some (responderState algo) ∉ discoveryStates ++ commitStates := by
  rw [responderState]
  split_ifs
  · decide
  · decide

lemma Chained.transition (h : c.Chained P) (ht : Transition P e c c') : c'.Chained P := by
  cases ht with
  | kept | refused => exact h
  | session | derived | confirm2Unanswered =>
    exact h.congr rfl rfl rfl (fun h => h) (fun h => h) fun h => h
  | repeated | won => exact h.seen _
  | backToSecure | reset | packetsDeleted | restarted => exact chained_of_none rfl rfl
  | started hs =>
    refine h.congr rfl rfl rfl (fun h => h) ?_ ?_
    · simp [hs, discoveryStates]
    · simp [hs, discoveryStates]
  | discovered hs hdiscovery =>
    have hstate : c.stateMachine ∈ discoveryStates := by
      rcases hdiscovery with rfl | rfl
      · simp [hs, discoveryStates]
      · simp [hs, discoveryStates]
    exact chained_of_none (h.noCommit hstate) (h.noDHPart (mem_append_left _ hstate))
  | helloAcked hs =>
    refine h.congr rfl rfl rfl (fun h => h) ?_ ?_
    · simp [discoveryStates]
    · simp [hs, discoveryStates, commitStates]
  | @turned _ _ m message s s' hs hcommit hstate hs' hH2 selfCommit selfDHPart hmacFunction hashLength hc' =>
    obtain ⟨_, _, _, _, rfl⟩ := hc'.exists_eq
    have hs'' : some s' ∉ discoveryStates := by
      rcases hs' with ⟨rfl, -⟩ | rfl
      · rcases hstate with rfl | ⟨rfl, -⟩ | rfl <;> decide
      · exact fun h => responderState_not_mem _ (mem_append_left _ h)
    refine chained_of_turned hH2 hs'' ?_ rfl ?_
    · split_ifs
      · rfl
      · rfl
    · split_ifs with hclear
      · rfl
      · refine h.noDHPart (mem_append_right _ ?_)
        rcases hstate with rfl | ⟨rfl, -⟩ | rfl
        · simp [hs, commitStates]
        · simp [hs, commitStates]
        · exact absurd rfl hclear
  | dhPart1 hs hcommit hdhm hH1 =>
    exact h.takingDHPart hH1 (by simp [discoveryStates, commitStates]) rfl rfl rfl rfl
  | dhPart2 hs hH1 hhashed hs0 hhmac hc' =>
    obtain ⟨_, _, _, _, rfl⟩ := hc'.exists_eq
    exact h.takingDHPart hH1 (by simp [discoveryStates, commitStates]) rfl rfl rfl rfl
  | confirm1NoDHM hs hcommit hc' =>
    rcases hc' with ⟨rfl, -⟩ | ⟨-, KDFContext, s0, rfl, -⟩
    · exact h.later (by simp [discoveryStates, commitStates]) rfl rfl rfl fun h => h
    · exact h.later (by simp [discoveryStates, commitStates]) rfl rfl rfl fun h => h
  | goClearStarted | confirm1 | confirm2 | conf2ACK =>
    exact h.later (by simp [discoveryStates, commitStates]) rfl rfl rfl fun h => h
  | wentClear | goneClear =>
    exact h.later (by simp [cleared, discoveryStates, commitStates]) rfl rfl rfl (by simp [cleared])

/-! ### Keys -/

/-- What must hold of a channel for an event to leave a secure one authenticated. -/
def KeepsSecure (P : Primitives) (c : Core) : Event → Prop
  | .message m => ∀ message, m.commit = some message →
      message.keyAgreementAlgo = ZRTP_KEYAGREEMENT_Mult → c.hasSession = false → c.KDFContext = none
  | .peerHelloHash peerHelloHash => c.isSecure = true → ∀ hello, c.peerHello = some hello →
      sha256 P hello.message = peerHelloHash
  | .packetsDeleted => c.isSecure = false ∧ c.stateMachine ≠ some .confirmation_initiatorSendingConfirm2
  | .restarted => c.isSecure = false
  | .session _ | .other => True

/-- The messages stored are those of the keys, where keys are awaiting a Confirm message. -/
structure Keyed (P : Primitives) (c : Core) : Prop where
  context : ∀ role, c.keys role = true → c.KDFContext.isSome
  role : c.stateMachine = some .keyAgreement_responderSendingDHPart1 ∨
    c.stateMachine = some .confirmation_responderSendingConfirm1 → c.role = .responder
  dhm : c.stateMachine = some .keyAgreement_responderSendingDHPart1 ∨
    c.stateMachine = some .keyAgreement_initiatorSendingDHPart2 → ¬ NoDHM c.keyAgreementAlgo
  hashed : c.stateMachine = some .keyAgreement_initiatorSendingDHPart2 ∨
    c.stateMachine = some .confirmation_responderSendingConfirm1 →
    c.keyAgreementAlgo ≠ ZRTP_KEYAGREEMENT_Prsh → ∀ role, c.keys role = true →
      c.Hashed P ∨ c.peerCommit = none ∧ c.peerDHPart = none

/-- The states where the keys of the exchange wait for a Confirm message, or for the DHPart2 one. -/
def keyedStates : List (Option EngineState) :=
  [some .keyAgreement_responderSendingDHPart1, some .keyAgreement_initiatorSendingDHPart2,
    some .confirmation_responderSendingConfirm1]

lemma keyed_of_not_mem (hcontext : ∀ role, c.keys role = true → c.KDFContext.isSome)
    (hs : c.stateMachine ∉ keyedStates) : c.Keyed P where
  context := hcontext
  role h := absurd (by rcases h with h | h <;> simp [h, keyedStates]) hs
  dhm h := absurd (by rcases h with h | h <;> simp [h, keyedStates]) hs
  hashed h := absurd (by rcases h with h | h <;> simp [h, keyedStates]) hs

lemma hashed_of_ne (hka : c.keyAgreementAlgo ≠ ZRTP_KEYAGREEMENT_Mult)
    (h : IsHash P c.KDFContext c.dhmMessages) : c.Hashed P := by
  rw [Hashed, transcript_of_ne hka]
  exact h

lemma ne_mult_of_dhm {algo : UInt8} (h : ¬ NoDHM algo) : algo ≠ ZRTP_KEYAGREEMENT_Mult :=
  fun hMult => h (.inr hMult)

/-- A responder in Multistream mode has no key, or has those of the Commit message. -/
lemma Keyed.turned (h : c.Keyed P) {commit : ZrtpPacket CommitMessage} {s s' : EngineState} {accepted : Bool}
    {zrtpPacket : Packet} {selfCommit : Option (SelfPacket CommitMessage)}
    {selfDHPart : Option (SelfPacket DHPartMessage)} {x : ExportState}
    (hok : commit.messageData.keyAgreementAlgo = ZRTP_KEYAGREEMENT_Mult → c.hasSession = false → c.KDFContext = none)
    (hstate : s = .discovery_waitingForHelloAck ∨
      s = .keyAgreement_sendingCommit ∧ c.TurnedBy commit.messageData ∨ s = .clear)
    (hs' : s' = s ∧ accepted = false ∨ s' = responderState commit.messageData.keyAgreementAlgo)
    (hc' : AtOnce P { ((if s = .clear then c.withoutPackets else c).seen zrtpPacket).respondingTo commit
      (some s') with selfCommit := selfCommit, selfDHPart := selfDHPart, exportState := x } c') : c'.Keyed P := by
  have hkept : (if s = .clear then c.withoutPackets else c).keys = c.keys ∧
      (if s = .clear then c.withoutPackets else c).KDFContext = c.KDFContext ∧
      (if s = .clear then c.withoutPackets else c).hasSession = c.hasSession := by
    split_ifs
    · exact ⟨rfl, rfl, rfl⟩
    · exact ⟨rfl, rfl, rfl⟩
  generalize (if s = .clear then c.withoutPackets else c) = b at hc' hkept
  obtain ⟨hkeys, hcontext, hsession⟩ := hkept
  have hcontext' (role : Role) (hk : c'.keys role = true) : c'.KDFContext.isSome := by
    rcases hc' with ⟨rfl, -⟩ | ⟨-, KDFContext, s0, rfl, -⟩
    · have hk' : b.keys role = true := hk
      exact hcontext ▸ h.context role (hkeys ▸ hk')
    · rfl
  have hrole : c'.role = .responder := by
    obtain ⟨_, _, _, _, rfl⟩ := hc'.exists_eq
    rfl
  have hs'' : c'.stateMachine = some s' := by
    obtain ⟨_, _, _, _, rfl⟩ := hc'.exists_eq
    rfl
  have hka : c'.keyAgreementAlgo = commit.messageData.keyAgreementAlgo := by
    obtain ⟨_, _, _, _, rfl⟩ := hc'.exists_eq
    rfl
  rcases hs' with ⟨rfl, -⟩ | rfl
  · refine keyed_of_not_mem hcontext' ?_
    rw [hs'']
    rcases hstate with rfl | ⟨rfl, -⟩ | rfl
    · decide
    · decide
    · decide
  · by_cases hNoDHM : NoDHM commit.messageData.keyAgreementAlgo
    · rw [responderState_of_noDHM hNoDHM] at hc' hs''
      refine ⟨hcontext', fun _ => hrole, by simp [hs''], fun _ hPrsh role hk => .inl ?_⟩
      rcases hc' with ⟨rfl, hnone⟩ | ⟨-, KDFContext, s0, -, hhashed⟩
      · have hMult := hNoDHM.resolve_left hPrsh
        have hempty : b.KDFContext = none := hcontext.trans (hok hMult (hsession.symm.trans (hnone hMult rfl)))
        have hsome : b.KDFContext.isSome := hcontext' role hk
        rw [hempty] at hsome
        cases hsome
      · exact hhashed
    · rw [responderState_of_dhm hNoDHM] at hs''
      exact ⟨hcontext', fun _ => hrole, fun _ => hka ▸ hNoDHM, by simp [hs'']⟩

/-- Each transition keeps the keys those of the messages stored, in a session that has its key. -/
lemma Keyed.transition (h : c.Keyed P) (hok : c.KeepsSecure P e) (ht : Transition P e c c') : c'.Keyed P := by
  cases ht with
  | kept | refused => exact h
  | session | repeated | won | confirm2Unanswered => exact ⟨h.context, h.role, h.dhm, h.hashed⟩
  | packetsDeleted => exact ⟨h.context, h.role, h.dhm, fun _ _ _ _ => .inr ⟨rfl, rfl⟩⟩
  | started | goClearStarted | backToSecure | restarted | helloAcked | confirm1 | confirm2 | conf2ACK =>
    exact keyed_of_not_mem h.context (by simp [restarted, keyedStates])
  | wentClear | goneClear =>
    exact keyed_of_not_mem (fun role hk => absurd hk (not_keys rfl rfl role)) (by simp [cleared, keyedStates])
  | reset hhello hmismatch s hs =>
    refine keyed_of_not_mem (fun role hk => absurd hk (not_keys rfl rfl role)) ?_
    rcases hs with rfl | rfl
    · simp [keyedStates]
    · simp [keyedStates]
  | derived hs => exact keyed_of_not_mem (fun _ _ => rfl) (by simp [keyed, hs, keyedStates])
  | discovered hs hdiscovery hs' =>
    refine keyed_of_not_mem h.context ?_
    simp only [mem_cons, not_mem_nil, or_false] at hs'
    rcases hs' with rfl | rfl | rfl | rfl <;> simp [keyedStates]
  | confirm1NoDHM hs hcommit hc' =>
    rcases hc' with ⟨rfl, -⟩ | ⟨-, KDFContext, s0, rfl, -⟩
    · exact keyed_of_not_mem h.context (by simp [keyedStates])
    · exact keyed_of_not_mem (fun _ _ => rfl) (by simp [keyedStates])
  | dhPart1 hs hcommit hdhm hH1 hhashed =>
    refine ⟨fun _ _ => rfl, by simp, fun _ => hdhm, fun _ _ _ _ => .inl ?_⟩
    exact hashed_of_ne (ne_mult_of_dhm hdhm) hhashed
  | @dhPart2 _ _ m dhPart KDFContext s0 hs hH1 hhashed hs0 hhmac hc' =>
    have hdhm : ¬ NoDHM c.keyAgreementAlgo := h.dhm (.inl hs)
    rcases hc' with ⟨rfl, -⟩ | ⟨hMult, -⟩
    · refine ⟨fun _ _ => rfl, fun _ => h.role (.inl hs), by simp, fun _ _ _ _ => .inl ?_⟩
      exact hashed_of_ne (ne_mult_of_dhm hdhm) hhashed
    · exact absurd hMult (ne_mult_of_dhm hdhm)
  | @turned _ _ m message s s' hs hcommit hstate hs' hH2 selfCommit selfDHPart hmacFunction hashLength hc' =>
    exact h.turned (hok message hcommit) hstate hs' hc'

/-- A channel that received its Confirm message. -/
structure Confirmed (P : Primitives) (c : Core) : Prop where
  confirm : ∃ confirm, c.peerConfirm = some confirm ∧ c.H0Verified P confirm.messageData.H0
  hashed : c.keyAgreementAlgo ≠ ZRTP_KEYAGREEMENT_Prsh → c.Hashed P

/-- The invariant of a channel. -/
structure Sound (P : Primitives) (c : Core) : Prop extends c.Chained P, c.Keyed P where
  secure : c.isSecure = true → c.stateMachine = some .secure ∨ c.stateMachine = some .sending_GoClear
  confirmed : c.stateMachine = some .confirmation_initiatorSendingConfirm2 ∨ c.isSecure = true → c.Confirmed P

lemma not_deleted_of_h0 {H0 : Buf 32} (hH0 : c.H0Verified P H0) (h : c.role = .responder ∨ ¬ NoDHM c.keyAgreementAlgo) :
    ¬ (c.peerCommit = none ∧ c.peerDHPart = none) := by
  rintro ⟨hcommit, hdhPart⟩
  rw [H0Verified] at hH0
  split_ifs at hH0 with hNoDHM
  · have hrole := h.resolve_right (not_not.mpr hNoDHM)
    rw [H1Verified, hrole] at hH0
    obtain ⟨commit, hsome, -⟩ := hH0
    rw [hcommit] at hsome
    cases hsome
  · obtain ⟨dhPart, hsome, -⟩ := hH0
    rw [hdhPart] at hsome
    cases hsome

lemma Sound.not_secure (h : c.Sound P) {s : EngineState} (hs : c.stateMachine = some s)
    (hne : s ≠ .secure ∧ s ≠ .sending_GoClear) : c.isSecure ≠ true := by
  intro hsecure
  rcases h.secure hsecure with h | h
  · exact hne.1 (some_inj.mp (hs.symm.trans h))
  · exact hne.2 (some_inj.mp (hs.symm.trans h))

/-- A transition that leaves a channel not secure, out of the state that waits for the Conf2ACK message. -/
lemma sound_of_not_secure (hchained : c'.Chained P) (hkeyed : c'.Keyed P) (hsecure : c'.isSecure ≠ true)
    (hs : c'.stateMachine ≠ some .confirmation_initiatorSendingConfirm2) : c'.Sound P where
  toChained := hchained
  toKeyed := hkeyed
  secure h := absurd h hsecure
  confirmed h := (h.elim hs hsecure).elim

/-- Each transition keeps the invariant, if the channel stays authenticated. -/
lemma Sound.transition (h : c.Sound P) (hok : c.KeepsSecure P e) (ht : Transition P e c c') : c'.Sound P := by
  have hchained := h.toChained.transition ht
  have hkeyed := h.toKeyed.transition hok ht
  cases ht with
  | kept | refused => exact h
  | session | repeated | won =>
    exact ⟨hchained, hkeyed, h.secure, fun hs => ⟨(h.confirmed hs).confirm, (h.confirmed hs).hashed⟩⟩
  | started hs =>
    refine sound_of_not_secure hchained hkeyed ?_ (by simp)
    intro hsecure
    rcases h.secure hsecure with h | h
    · rw [hs] at h; cases h
    · rw [hs] at h; cases h
  | goClearStarted =>
    refine ⟨hchained, hkeyed, fun _ => .inr rfl, fun hs => ?_⟩
    have hconfirmed := h.confirmed (.inr (hs.resolve_left (by simp)))
    exact ⟨hconfirmed.confirm, hconfirmed.hashed⟩
  | wentClear | goneClear =>
    exact sound_of_not_secure hchained hkeyed (by simp [cleared]) (by simp [cleared])
  | backToSecure hs =>
    exact sound_of_not_secure hchained hkeyed (h.not_secure hs (by decide)) (by simp [restarted])
  | reset hhello hmismatch s hs =>
    refine sound_of_not_secure hchained hkeyed (fun hsecure => hmismatch (hok hsecure _ hhello)) ?_
    rcases hs with rfl | rfl
    · simp
    · simp
  | packetsDeleted =>
    exact sound_of_not_secure hchained hkeyed (by simp [withoutPackets, hok.1]) hok.2
  | restarted =>
    refine sound_of_not_secure hchained hkeyed ?_ (by simp [restarted])
    rw [show (c.restarted _).isSecure = c.isSecure from rfl, show c.isSecure = false from hok]
    simp
  | derived hs => exact sound_of_not_secure hchained hkeyed (h.not_secure hs (by decide)) (by simp [keyed, hs])
  | discovered hs hdiscovery hs' =>
    refine sound_of_not_secure hchained hkeyed (h.not_secure hs ?_) ?_
    · rcases hdiscovery with rfl | rfl <;> decide
    · simp only [mem_cons, not_mem_nil, or_false] at hs'
      rcases hs' with rfl | rfl | rfl | rfl <;> simp
  | helloAcked hs => exact sound_of_not_secure hchained hkeyed (h.not_secure hs (by decide)) (by simp)
  | dhPart1 hs => exact sound_of_not_secure hchained hkeyed (h.not_secure hs (by decide)) (by simp)
  | @turned _ _ m message s s' hs hcommit hstate hs' hH2 selfCommit selfDHPart hmacFunction hashLength hc' =>
    obtain ⟨_, _, _, _, rfl⟩ := hc'.exists_eq
    have hearly : s ≠ .secure ∧ s ≠ .sending_GoClear ∧ s ≠ .confirmation_initiatorSendingConfirm2 := by
      rcases hstate with rfl | ⟨rfl, -⟩ | rfl <;> decide
    refine sound_of_not_secure hchained hkeyed ?_ ?_
    · have hsecure : (if s = .clear then c.withoutPackets else c).isSecure = c.isSecure := by
        split_ifs <;> rfl
      exact hsecure ▸ h.not_secure hs ⟨hearly.1, hearly.2.1⟩
    · rcases hs' with ⟨rfl, -⟩ | rfl
      · exact fun hs' => hearly.2.2 (some_inj.mp hs')
      · rw [responderState]
        split_ifs <;> simp [respondingTo]
  | dhPart2 hs hH1 hhashed hs0 hhmac hc' =>
    obtain ⟨_, _, _, _, rfl⟩ := hc'.exists_eq
    exact sound_of_not_secure hchained hkeyed (h.not_secure hs (by decide)) (by simp)
  | confirm1 hs hkeys hH0 =>
    refine ⟨hchained, hkeyed, fun hsecure => absurd hsecure (h.not_secure hs (by decide)),
      fun _ => ⟨⟨_, rfl, hH0⟩, fun hPrsh => ?_⟩⟩
    exact (h.hashed (.inl hs) hPrsh _ hkeys).resolve_right
      (not_deleted_of_h0 hH0 (.inr (h.dhm (.inr hs))))
  | confirm1NoDHM hs hcommit hc' hNoDHM hkeys hH0 =>
    rcases hc' with ⟨rfl, hMult⟩ | ⟨-, KDFContext, s0, rfl, hhashed⟩
    · refine ⟨hchained, hkeyed, fun hsecure => absurd hsecure (h.not_secure hs (by decide)),
        fun _ => ⟨⟨_, rfl, hH0⟩, fun hPrsh => ?_⟩⟩
      exact absurd hNoDHM (not_or.mpr ⟨hPrsh, hMult⟩)
    · exact ⟨hchained, hkeyed, fun hsecure => absurd hsecure (h.not_secure hs (by decide)),
        fun _ => ⟨⟨_, rfl, hH0⟩, fun _ => hhashed⟩⟩
  | confirm2 hs hkeys hH0 =>
    refine ⟨hchained, hkeyed, fun _ => .inl rfl, fun _ => ⟨⟨_, rfl, hH0⟩, fun hPrsh => ?_⟩⟩
    exact (h.hashed (.inr hs) hPrsh _ hkeys).resolve_right
      (not_deleted_of_h0 hH0 (.inl (h.role (.inr hs))))
  | confirm2Unanswered hs =>
    exact sound_of_not_secure hchained hkeyed (h.not_secure hs (by decide)) (by simp [seen, hs])
  | conf2ACK hs =>
    have hconfirmed := h.confirmed (.inl hs)
    exact ⟨hchained, hkeyed, fun _ => .inl rfl, fun _ => ⟨hconfirmed.confirm, hconfirmed.hashed⟩⟩

/-- The invariant holds of a channel just created. -/
lemma sound_of_initial {P : CipherPrimitives} {w : World P} (h : w.Initial) : w.core.Sound P.toPrimitives := by
  obtain ⟨env, selfSSRC, isMain, H0, random, hch⟩ := h
  have hcore : w.core.stateMachine = none ∧ w.core.isSecure = false ∧ w.core.initiatorKeys = false ∧
      w.core.responderKeys = false ∧ w.core.peerCommit = none ∧ w.core.peerDHPart = none := by
    rw [World.core, hch]
    exact ⟨rfl, rfl, rfl, rfl, rfl, rfl⟩
  obtain ⟨hs, hsecure, hinitiator, hresponder, hcommit, hdhPart⟩ := hcore
  refine sound_of_not_secure (chained_of_none hcommit hdhPart) (keyed_of_not_mem ?_ ?_) ?_ ?_
  · exact fun role hk => absurd hk (not_keys hinitiator hresponder role)
  · simp [hs, keyedStates]
  · simp [hsecure]
  · simp [hs]

end Core

/-! ### Runs -/

section runs

variable {P : CipherPrimitives}

def hashedMessages (ch : ChannelState) : Option Bytes :=
  if ch.algos.keyAgreementAlgo = ZRTP_KEYAGREEMENT_Mult then multiStreamMessages ch else dhmMessages ch

/-- From H0, the chain of hashes of the peer verifies its messages, which are those hashed. -/
structure Authenticated (P : CipherPrimitives) (ch : ChannelState) (H0 : Buf 32) : Prop where
  hello : Verified P.toPrimitives ch.peerHello HelloMessage.H3 HelloMessage.MAC
    (sha256 P.toPrimitives (sha256 P.toPrimitives H0.toList).toList)
  commit : ch.role = .responder → Verified P.toPrimitives ch.peerCommit CommitMessage.H2 CommitMessage.MAC
    (sha256 P.toPrimitives H0.toList)
  dhPart : ¬ NoDHM ch.algos.keyAgreementAlgo →
    Verified P.toPrimitives ch.peerDHPart DHPartMessage.H1 DHPartMessage.MAC H0
  total_hash : ch.algos.keyAgreementAlgo ≠ ZRTP_KEYAGREEMENT_Prsh → ∃ ZIDs hash messages length,
    hashedMessages ch = some messages ∧ ch.KDFContext = some (ZIDs ++ P.hashFunction hash messages length)

lemma authenticated_of_sound {w : World P} (h : w.core.Sound P.toPrimitives) (hsecure : w.ch.isSecure = true) :
    ∃ confirm, w.ch.peerConfirm = some confirm ∧ Authenticated P w.ch confirm.messageData.H0 := by
  obtain ⟨⟨confirm, hconfirm, hH0⟩, hhashed⟩ := h.confirmed (.inr hsecure)
  refine ⟨confirm, hconfirm, ?_⟩
  have htotal_hash : w.ch.algos.keyAgreementAlgo ≠ ZRTP_KEYAGREEMENT_Prsh → ∃ ZIDs hash messages length,
      hashedMessages w.ch = some messages ∧
        w.ch.KDFContext = some (ZIDs ++ P.hashFunction hash messages length) := hhashed
  rw [Core.H0Verified] at hH0
  split_ifs at hH0 with hNoDHM
  · refine ⟨h.hello_of_h1 hH0, fun hrole => ?_, fun hdhm => absurd hNoDHM hdhm, htotal_hash⟩
    rw [Core.H1Verified, show w.core.role = .responder from hrole] at hH0
    exact hH0
  · obtain ⟨dhPart, hdhPart, hchain, hMAC⟩ := hH0
    refine ⟨?_, fun hrole => ?_, fun _ => ⟨dhPart, hdhPart, hchain, hMAC⟩, htotal_hash⟩
    · rw [hchain]
      exact h.hello_of_dhPart dhPart hdhPart
    · rw [hchain]
      exact h.commit_of_dhPart dhPart hdhPart hrole

/-- A call that leaves a secure channel authenticated. -/
def Call.KeepsSecure (env : Environment P) (call : Call P) (w : World P) : Prop :=
  ∀ accepted, w.core.KeepsSecure P.toPrimitives (eventOf env call w accepted)

/-- Such a call returns. -/
def SafeStep (w w' : World P) : Prop :=
  ∃ env call, Performed env call w w' ∧ call.KeepsSecure env w

/-- In a run where no secure channel loses its packets, the messages of the peer of a secure channel are
verified down to its Hello message. -/
theorem authenticated_of_secure {w w' : World P} (hinit : w.Initial)
    (hrun : Relation.ReflTransGen SafeStep w w') (hsecure : w'.ch.isSecure = true) :
    ∃ confirm, w'.ch.peerConfirm = some confirm ∧ Authenticated P w'.ch confirm.messageData.H0 := by
  have hsound : w'.core.Sound P.toPrimitives := by
    clear hsecure
    induction hrun with
    | refl => exact Core.sound_of_initial hinit
    | tail _ hstep ih =>
      obtain ⟨env, call, hperformed, hok⟩ := hstep
      obtain ⟨accepted, htransition⟩ := exists_transition_of_performed hperformed
      exact ih.transition (hok accepted) htransition
  exact authenticated_of_sound hsound hsecure

/-- Any message is safe in a session that has its key. -/
lemma keepsSecure_processMessage (env : Environment P) (w : World P) (input : Bytes)
    (hsession : w.core.hasSession = true) : (Call.processMessage input).KeepsSecure env w := by
  intro accepted
  rw [eventOf]
  split
  · split_ifs
    · trivial
    · intro message _ _ hnone
      rw [hsession] at hnone
      cases hnone
  · trivial

lemma keepsSecure_startChannelEngine (env : Environment P) (w : World P) :
    Call.startChannelEngine.KeepsSecure env w := fun _ => trivial

def Call.isDefined (env : Environment P) (call : Call P) (w : World P) : Bool :=
  match perform env call w with
  | .ok _ _ => true
  | .error e _ => decide (e ≠ .UNDEFINED)

lemma performed_of_eq {env : Environment P} {call : Call P} {w w' : World P}
    (hw : w' = final (perform env call) w) (h : call.isDefined env w = true) : Performed env call w w' := by
  subst hw
  rw [Call.isDefined] at h
  rw [Performed, wp, final]
  cases hrun : perform env call w with
  | ok a w' => rfl
  | error e w' =>
    rw [hrun] at h
    exact ⟨of_decide_eq_true h, rfl⟩

end runs

/-! ### A hash given to a secure channel -/

def samplePacket (sequenceNumber : UInt16) (t : MessageType) (content : Bytes) : Bytes :=
  let packet := [0x10, 0x00] ++ be16 sequenceNumber ++ be32 ZRTP_MAGIC_COOKIE ++ [0, 0, 0, 0] ++ buildMessage t content
  packet ++ be32 (CRC32 packet)

def sampleHelloPacket : Bytes :=
  samplePacket 1 .hello (withMAC .sample (zeros 32) .hello
    (helloBody (createHello (.sample sampleSettings) ⟨zeros 32⟩)))

/-- A Commit message in Multistream mode. -/
def sampleMultPacket : Bytes :=
  samplePacket 2 .commit (withMAC .sample (zeros 32) .commit
    (commitBody .sample (fun _ => 0) (.sample ZRTP_KEYAGREEMENT_Mult)))

/-- A Confirm2 message for the keys of a channel. -/
def sampleConfirm2Packet (w : World .sample) : Bytes :=
  samplePacket 3 .confirm2 ((confirmContent .sample (fun _ => 0)
    { w.ch.toParserContext with role := .initiator }
    { confirm_mac := zeros 8
      CFBIV := zeros 16
      H0 := zeros 32
      sig_len := 0
      E := false
      V := false
      A := false
      D := false
      cacheExpirationInterval := 0xFFFFFFFF
      signatureBlockType := zeros 4
      signatureBlock := none }).toOption.getD [])

def securedSession : ZrtpContext .sample :=
  { ZrtpContext.sample sampleSettings with isSecure := true, ZRTPSess := some [1] }

/-- Another channel, just created in that session. -/
def sampleChannelWorld : World .sample where
  ctx := securedSession
  ch := initChannelContext .sample securedSession 0 false (zeros 32) 0
  sent := []

def channelStartedWorld : World .sample := final (perform .sample .startChannelEngine) sampleChannelWorld

def channelHelloWorld : World .sample :=
  final (perform .sample (.processMessage sampleHelloPacket)) channelStartedWorld

def channelCommitWorld : World .sample :=
  final (perform .sample (.processMessage sampleMultPacket)) channelHelloWorld

def channelSecureWorld : World .sample :=
  final (perform .sample (.processMessage (sampleConfirm2Packet channelCommitWorld))) channelCommitWorld

/-- That channel, when the hash given is not the one of the Hello message of its peer. -/
def channelRestartedWorld : World .sample :=
  final (perform .sample (.setPeerHelloHash (zeros 32))) channelSecureWorld

-- the run is evaluated by the kernel only
attribute [local irreducible] Performed Call.KeepsSecure

/-- The calls of that run return, in a session that has its key. -/
lemma isDefined_channel : Call.isDefined .sample .startChannelEngine sampleChannelWorld = true ∧
    Call.isDefined .sample (.processMessage sampleHelloPacket) channelStartedWorld = true ∧
    Call.isDefined .sample (.processMessage sampleMultPacket) channelHelloWorld = true ∧
    Call.isDefined .sample (.processMessage (sampleConfirm2Packet channelCommitWorld)) channelCommitWorld = true ∧
    Call.isDefined .sample (.setPeerHelloHash (zeros 32)) channelSecureWorld = true ∧
    channelStartedWorld.core.hasSession = true ∧ channelHelloWorld.core.hasSession = true ∧
    channelCommitWorld.core.hasSession = true ∧ channelSecureWorld.ch.isSecure = true ∧
    channelRestartedWorld.ch.isSecure = true ∧ channelRestartedWorld.ch.peerConfirm.isNone = true := by
  decide +kernel

/-- The channel turns secure as a responder, in Multistream mode. -/
theorem authenticated_of_secure_mult : ∃ confirm, channelSecureWorld.ch.peerConfirm = some confirm ∧
      Authenticated .sample channelSecureWorld.ch confirm.messageData.H0 := by
  obtain ⟨hstart, hHello, hCommit, hConfirm, -, hsession₁, hsession₂, hsession₃, hsecure, -⟩ :=
    isDefined_channel
  have hstarted : SafeStep sampleChannelWorld channelStartedWorld :=
    ⟨.sample, .startChannelEngine, performed_of_eq rfl hstart, keepsSecure_startChannelEngine .sample _⟩
  have hhello : SafeStep channelStartedWorld channelHelloWorld :=
    ⟨.sample, .processMessage sampleHelloPacket, performed_of_eq rfl hHello,
      keepsSecure_processMessage .sample _ _ hsession₁⟩
  have hcommit : SafeStep channelHelloWorld channelCommitWorld :=
    ⟨.sample, .processMessage sampleMultPacket, performed_of_eq rfl hCommit,
      keepsSecure_processMessage .sample _ _ hsession₂⟩
  have hconfirm : SafeStep channelCommitWorld channelSecureWorld :=
    ⟨.sample, .processMessage (sampleConfirm2Packet channelCommitWorld), performed_of_eq rfl hConfirm,
      keepsSecure_processMessage .sample _ _ hsession₃⟩
  exact authenticated_of_secure ⟨.sample, 0, false, zeros 32, 0, rfl⟩
    ((((Relation.ReflTransGen.single hstarted).tail hhello).tail hcommit).tail hconfirm) hsecure

/-- The channel restarted is still secure, without any message of its peer. -/
theorem not_authenticated_of_secure : ¬ ∀ (P : CipherPrimitives) (w w' : World P), w.Initial →
      Relation.ReflTransGen (fun w w' => ∃ env call, Performed env call w w') w w' → w'.ch.isSecure = true →
      ∃ confirm, w'.ch.peerConfirm = some confirm ∧ Authenticated P w'.ch confirm.messageData.H0 := by
  intro hall
  obtain ⟨hstart, hHello, hCommit, hConfirm, hrestart, -, -, -, -, hsecure, hnone⟩ := isDefined_channel
  have hstarted : ∃ env call, Performed env call sampleChannelWorld channelStartedWorld :=
    ⟨.sample, .startChannelEngine, performed_of_eq rfl hstart⟩
  have hhello : ∃ env call, Performed env call channelStartedWorld channelHelloWorld :=
    ⟨.sample, .processMessage sampleHelloPacket, performed_of_eq rfl hHello⟩
  have hcommit : ∃ env call, Performed env call channelHelloWorld channelCommitWorld :=
    ⟨.sample, .processMessage sampleMultPacket, performed_of_eq rfl hCommit⟩
  have hconfirm : ∃ env call, Performed env call channelCommitWorld channelSecureWorld :=
    ⟨.sample, .processMessage (sampleConfirm2Packet channelCommitWorld), performed_of_eq rfl hConfirm⟩
  have hrestarted : ∃ env call, Performed env call channelSecureWorld channelRestartedWorld :=
    ⟨.sample, .setPeerHelloHash (zeros 32), performed_of_eq rfl hrestart⟩
  obtain ⟨confirm, hpeerConfirm, -⟩ := hall _ _ _ ⟨.sample, 0, false, zeros 32, 0, rfl⟩
    (((((Relation.ReflTransGen.single hstarted).tail hhello).tail hcommit).tail hconfirm).tail hrestarted)
    hsecure
  rw [hpeerConfirm] at hnone
  cases hnone

end Bzrtp
