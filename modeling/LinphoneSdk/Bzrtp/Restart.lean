import LinphoneSdk.Bzrtp.Authentication

/-!
# Restarts of a channel

`bzrtp_setPeerHelloHash` resets a channel field by field when the hash is not the one of the Hello message
of the peer. The list misses fields that the creation of a channel sets: the flags `isSecure` and
`isClear`, the role, the pointer to the SAS, the results of the comparison of the retained secrets, the
sequence numbers, the fragments received, the hash images of the peer and the identifiers of the auxiliary
secret.
-/

namespace Bzrtp

open Bytes Chunks Exec

/-! ### Keys of a secure channel -/

namespace Core

variable {P : Primitives} {c c' : Core} {e : Event}

/-- The keys that a secure channel needs. -/
structure Provided (c : Core) : Prop where
  paired : c.initiatorKeys = c.responderKeys
  context : c.initiatorKeys = true → c.KDFContext.isSome
  secrets : c.isSecure = true ∨ c.stateMachine = some .confirmation_initiatorSendingConfirm2 →
    c.initiatorKeys = true ∧ c.hasSecrets = true

/-- A hash does not restart a secure channel. -/
def KeepsProvided (P : Primitives) (c : Core) : Event → Prop
  | .peerHelloHash peerHelloHash => c.isSecure = true → ∀ hello, c.peerHello = some hello →
      sha256 P hello.message = peerHelloHash
  | _ => True

/-- The keys are all there, or none is. -/
lemma Provided.keys (h : c.Provided) {role : Role} (hk : c.keys role = true) (role' : Role) :
    c.keys role' = true := by
  have hpaired := h.paired
  cases role <;> cases role' <;> simp_all [Core.keys]

/-- The keys may change if the channel is not about to be secure. -/
lemma Provided.congr (h : c.Provided) (hinitiator : c'.initiatorKeys = c.initiatorKeys)
    (hresponder : c'.responderKeys = c.responderKeys) (hcontext : c'.KDFContext = c.KDFContext)
    (hsecrets : c'.hasSecrets = c.hasSecrets) (hsecure : c'.isSecure = true → c.isSecure = true)
    (hs : c'.stateMachine = some .confirmation_initiatorSendingConfirm2 →
      c.stateMachine = some .confirmation_initiatorSendingConfirm2) : c'.Provided where
  paired := by rw [hinitiator, hresponder, h.paired]
  context := by rw [hinitiator, hcontext]; exact h.context
  secrets hc := by
    rw [hinitiator, hsecrets]
    exact h.secrets (hc.imp hsecure hs)

/-- New keys. -/
lemma Provided.keyed (h : c.Provided) {KDFContext : Bytes} (hinitiator : c'.initiatorKeys = true)
    (hresponder : c'.responderKeys = true) (hcontext : c'.KDFContext = some KDFContext)
    (hsecrets : c'.hasSecrets = c.hasSecrets) (hsecure : c'.isSecure = true → c.isSecure = true)
    (hs : c'.stateMachine = some .confirmation_initiatorSendingConfirm2 →
      c.stateMachine = some .confirmation_initiatorSendingConfirm2) : c'.Provided where
  paired := by rw [hinitiator, hresponder]
  context _ := by rw [hcontext]; rfl
  secrets hc := by
    rw [hsecrets]
    exact ⟨hinitiator, (h.secrets (hc.imp hsecure hs)).2⟩

lemma provided_of_none (hinitiator : c.initiatorKeys = false) (hresponder : c.responderKeys = false)
    (hsecure : c.isSecure = false) (hs : c.stateMachine ≠ some .confirmation_initiatorSendingConfirm2) :
    c.Provided where
  paired := by rw [hinitiator, hresponder]
  context hk := by rw [hinitiator] at hk; cases hk
  secrets hc := by
    rcases hc with h | h
    · rw [hsecure] at h; cases h
    · exact absurd h hs

/-- The keys of a responder in Multistream mode. -/
lemma Provided.atOnce (h : c.Provided) (hc' : AtOnce P c c') : c'.Provided := by
  rcases hc' with ⟨rfl, -⟩ | ⟨-, KDFContext, s0, rfl, -⟩
  · exact h
  · exact h.keyed rfl rfl rfl rfl (fun h => h) fun h => h

/-- A channel with all its keys derives its secrets. -/
lemma Provided.confirmed (h : c.Provided) {role : Role} (hk : c.keys role = true)
    (hinitiator : c'.initiatorKeys = c.initiatorKeys) (hresponder : c'.responderKeys = c.responderKeys)
    (hcontext : c'.KDFContext = c.KDFContext)
    (hsecrets : (∀ role, c.keys role = true) → c'.hasSecrets = true) : c'.Provided where
  paired := by rw [hinitiator, hresponder, h.paired]
  context := by rw [hinitiator, hcontext]; exact h.context
  secrets _ := by
    rw [hinitiator]
    exact ⟨h.keys hk .initiator, hsecrets (h.keys hk)⟩

/-- Each transition provides the keys that a secure channel needs. -/
lemma Provided.transition (h : c.Provided) (hok : c.KeepsProvided P e) (ht : Transition P e c c') : c'.Provided := by
  cases ht with
  | kept | refused => exact h
  | session | started | goClearStarted | repeated | won | packetsDeleted | backToSecure | restarted
  | helloAcked =>
    exact h.congr rfl rfl rfl rfl (fun h => h) (by simp [seen, withoutPackets, Core.restarted])
  | discovered hs hdiscovery hs' =>
    refine h.congr rfl rfl rfl rfl (fun h => h) ?_
    simp only [List.mem_cons, List.not_mem_nil, or_false] at hs'
    rcases hs' with rfl | rfl | rfl | rfl <;> simp
  | wentClear | goneClear => exact provided_of_none rfl rfl rfl (by simp [cleared])
  | reset hhello hmismatch s hs =>
    refine provided_of_none rfl rfl ?_ ?_
    · by_contra hsecure
      exact hmismatch (hok (Bool.eq_true_of_not_eq_false hsecure) _ hhello)
    · rcases hs with rfl | rfl
      · simp
      · simp
  | derived => exact h.keyed rfl rfl rfl rfl (fun h => h) fun h => h
  | @turned _ _ m message s s' hs hcommit hstate hs' hH2 selfCommit selfDHPart hmacFunction hashLength hc' =>
    refine Provided.atOnce (h.congr ?_ ?_ ?_ ?_ ?_ ?_) hc'
    · split_ifs <;> rfl
    · split_ifs <;> rfl
    · split_ifs <;> rfl
    · split_ifs <;> rfl
    · split_ifs <;> exact fun h => h
    · rcases hs' with ⟨rfl, -⟩ | rfl
      · rcases hstate with rfl | ⟨rfl, -⟩ | rfl <;> simp [respondingTo]
      · rw [responderState]
        split_ifs <;> simp [respondingTo]
  | dhPart1 => exact h.keyed rfl rfl rfl rfl (fun h => h) (by simp)
  | dhPart2 hs hH1 hhashed hs0 hhmac hc' =>
    refine Provided.atOnce ?_ hc'
    exact h.keyed rfl rfl rfl rfl (fun h => h) (by simp)
  | confirm1 hs hkeys hH0 hasSecrets hsecrets => exact h.confirmed hkeys rfl rfl rfl hsecrets
  | confirm1NoDHM hs hcommit hc' hNoDHM hkeys hH0 hasSecrets hsecrets =>
    rcases hc' with ⟨rfl, -⟩ | ⟨-, KDFContext, s0, rfl, -⟩
    · exact h.confirmed hkeys rfl rfl rfl hsecrets
    · have hkeyed : (Core.keyed KDFContext s0 c).Provided := h.keyed rfl rfl rfl rfl (fun h => h) fun h => h
      exact hkeyed.confirmed hkeys rfl rfl rfl hsecrets
  | confirm2 hs hkeys => exact h.confirmed hkeys rfl rfl rfl fun _ => rfl
  | confirm2Unanswered hs =>
    refine ⟨h.paired, h.context, fun hc => ?_⟩
    have hinitiator := (h.secrets (hc.imp (fun h => h) fun h => h)).1
    exact ⟨hinitiator, rfl⟩
  | conf2ACK hs =>
    exact ⟨h.paired, h.context, fun _ => h.secrets (Or.inr hs)⟩

end Core

/-! ### Channels restarted -/

section restarts

variable {P : CipherPrimitives}

structure ChannelState.HasKeys (ch : ChannelState) : Prop where
  srtpSecrets : ch.srtpSecrets.isSome
  KDFContext : ch.KDFContext.isSome
  mackeyi : ch.mackeyi.isSome
  mackeyr : ch.mackeyr.isSome
  zrtpkeyi : ch.zrtpkeyi.isSome
  zrtpkeyr : ch.zrtpkeyr.isSome

variable {w : World P}

lemma hasKeys_of_provided (h : w.core.Provided) (hsecure : w.ch.isSecure = true) : w.ch.HasKeys := by
  obtain ⟨hinitiator, hsecrets⟩ := h.secrets (Or.inl hsecure)
  have hresponder := h.paired.symm.trans hinitiator
  have hcontext := h.context hinitiator
  simp only [World.core, Bool.and_eq_true] at hinitiator hresponder hsecrets hcontext
  exact ⟨hsecrets, hcontext, hinitiator.2, hresponder.2, hinitiator.1, hresponder.1⟩

lemma provided_of_initial (h : w.Initial) : w.core.Provided := by
  obtain ⟨env, selfSSRC, isMain, H0, random, hch⟩ := h
  rw [World.core, hch]
  exact Core.provided_of_none rfl rfl rfl (by simp [initChannelContext])

def World.Mismatches (w : World P) (peerHelloHash : Buf 32) : Prop :=
  ∃ hello, w.ch.peerHello = some hello ∧ sha256 P.toPrimitives hello.message ≠ peerHelloHash

/-- `peerH`: the images are zeros until they are received. -/
def ChannelState.peerH (ch : ChannelState) : List (Buf 32) :=
  [ch.peerH0, ch.peerH1, ch.peerH2, ch.peerH3].map fun image => image.getD (zeros 32)

/-- The other fields, but for the identity of the channel and the hash stored. The creation of a channel
gives a timer that is off its step only. -/
def ChannelState.EqFields (ch created : ChannelState) : Prop :=
  ch = { created with
    selfSSRC := ch.selfSSRC
    selfH := ch.selfH
    selfHello := ch.selfHello
    selfHelloBuilt := ch.selfHelloBuilt
    peerHelloHash := ch.peerHelloHash
    peerH0 := ch.peerH0
    peerH1 := ch.peerH1
    peerH2 := ch.peerH2
    peerH3 := ch.peerH3
    timer := if created.timer.status then created.timer
      else { ch.timer with status := false, timerStep := created.timer.timerStep } }

/-- A channel equal to one just created, but for its identity and the hash stored. -/
def ChannelState.EqCreated (ch created : ChannelState) : Prop :=
  ch.peerH = created.peerH ∧ ch.EqFields created

/-- A channel created with the same identity, for some random draws. -/
def World.created (w : World P) (env : Environment P) (random : UInt16) : ChannelState :=
  initChannelContext env w.ctx w.ch.selfSSRC w.ch.isMainChannel w.ch.selfH.H0 random

def World.Fresh (w : World P) : Prop :=
  ∃ env random, w.ch.EqCreated (final (startChannelEngine (P := P)) { w with ch := w.created env random }).ch

/-- What the reset misses is as in a channel just created. -/
structure ChannelState.Resettable (ch created : ChannelState) (starts : Bool) : Prop where
  isSecure : ch.isSecure = false
  isClear : ch.isClear = false
  role : ch.role = .initiator
  sas : ch.srtpSecrets.bind SrtpSecrets.sas = none
  cacheMismatch : ch.cacheMismatch = false
  auxSecretMismatch : ch.auxSecretMismatch = .UNSET
  toChannelContext : ch.toChannelContext = .init
  peerH : ch.peerH = List.replicate 4 (zeros 32)
  initiatorAuxsecretID : ch.initiatorAuxsecretID = zeros 8
  responderAuxsecretID : ch.responderAuxsecretID = zeros 8
  selfSequenceNumber : ch.selfSequenceNumber = created.selfSequenceNumber
  selfMessageSequenceNumber : ch.selfMessageSequenceNumber = created.selfMessageSequenceNumber
  timerStep : starts = false → ch.timer.timerStep = HELLO_BASE_RETRANSMISSION_STEP

def World.Resettable (w : World P) : Prop :=
  ∃ env random, w.ch.Resettable (w.created env random) (w.ch.isMainChannel || w.ctx.isSecure)

def startedChannel (isSecure : Bool) (ch : ChannelState) : ChannelState :=
  let starts := ch.isMainChannel || isSecure
  { ch with
    stateMachine := if starts then some .discovery_init else ch.stateMachine
    timer := if starts then ⟨true, 0, 0, HELLO_BASE_RETRANSMISSION_STEP⟩ else ch.timer
    selfSequenceNumber := if starts then ch.selfSequenceNumber + 1 else ch.selfSequenceNumber }

def World.StartedFrom (w w' : World P) : Prop :=
  (∃ t, w'.ctx = { w.ctx with timeReference := t }) ∧ w'.ch = startedChannel w.ctx.isSecure w.ch

lemma wp_startChannelEngine_started (hs : w.ch.stateMachine = none) :
    wp startChannelEngine (fun _ => w.StartedFrom) (fun _ => w.StartedFrom) w := by
  simp only [startChannelEngine, wp_bind, wp_get, wp_ite, wp_throw, wp_modifyCtx, wp_setState, hs, Option.isSome_none]
  refine ⟨fun h => absurd h (by decide), fun _ => ⟨fun h => ?_, fun h => ?_⟩⟩
  · have hstarts : (w.ch.isMainChannel || w.ctx.isSecure) = false := by simp_all
    exact ⟨⟨w.ctx.timeReference, rfl⟩, by simp [startedChannel, hstarts]⟩
  · have hstarts : (w.ch.isMainChannel || w.ctx.isSecure) = true := by
      rw [not_and_or, not_not, not_not] at h
      exact Bool.or_eq_true_iff.mpr h
    exact ⟨⟨0, rfl⟩, by simp [startedChannel, hstarts]⟩

lemma wp_setPeerHelloHash {peerHelloHash : Buf 32} (h : w.Mismatches peerHelloHash) :
    wp (setPeerHelloHash peerHelloHash) (fun _ _ => False)
      (fun e w' => e ≠ .UNDEFINED → w.ch.sasFreed = false ∧ World.StartedFrom
        { w with ch := resetChannel { w.ch with peerHelloHash := some peerHelloHash } } w') w := by
  obtain ⟨hello, hhello, hmismatch⟩ := h
  simp only [setPeerHelloHash, wp_bind, wp_modifyCh, wp_get, hhello, wp_ite, wp_throw, wp_tryCatch, wp_pure]
  refine ⟨fun _ => ⟨fun _ he => absurd rfl he, fun hfreed => ?_⟩, fun h => absurd hmismatch h⟩
  have hfreed' : w.ch.sasFreed = false := Bool.eq_false_of_not_eq_true hfreed
  refine wp_mono (wp_startChannelEngine_started rfl) ?_ ?_
  · exact fun _ _ hstarted _ => ⟨hfreed', hstarted⟩
  · exact fun _ _ hstarted _ => ⟨hfreed', hstarted⟩

section created

variable (env : Environment P) (ctx : ZrtpContext P) (selfSSRC : UInt32) (H0 : Buf 32) (random : UInt16)
  {ch : ChannelState} (peerHelloHash : Buf 32)

/-- A channel reset is as one just created exactly when what the reset misses is so before. -/
lemma eqCreated_reset_iff (s : Option EngineState) (timer timer' : Timer) (n n' : UInt16) (starts : Bool)
    (hn : n = n' ↔ ch.selfSequenceNumber = (random &&& 0x0FFF) + 1)
    (htimer : timer = (if timer'.status then timer'
        else { timer with status := false, timerStep := timer'.timerStep }) ↔
      (starts = false → ch.timer.timerStep = HELLO_BASE_RETRANSMISSION_STEP)) :
    ChannelState.EqCreated
      { resetChannel { ch with peerHelloHash := some peerHelloHash } with
        stateMachine := s, timer := timer, selfSequenceNumber := n }
      { initChannelContext env ctx selfSSRC ch.isMainChannel H0 random with
        stateMachine := s, timer := timer', selfSequenceNumber := n' } ↔
      ch.Resettable (initChannelContext env ctx selfSSRC ch.isMainChannel H0 random) starts := by
  constructor
  · rintro ⟨hpeerH, h⟩
    simp only [ChannelState.EqFields, resetChannel, deletePackets, initChannelContext] at h
    have hfield {α : Type} (f : ChannelState → α) := congrArg f h
    have hsas : (ch.srtpSecrets.bind SrtpSecrets.sas).isSome = false := hfield (·.sasFreed)
    exact ⟨hfield (·.isSecure), hfield (·.isClear), hfield (·.role),
      Option.isNone_iff_eq_none.mp (Option.isSome_eq_false_iff.mp hsas), hfield (·.cacheMismatch),
      hfield (·.auxSecretMismatch), hfield (·.toChannelContext), hpeerH,
      hfield (·.initiatorAuxsecretID), hfield (·.responderAuxsecretID),
      hn.mp (hfield (·.selfSequenceNumber)), hfield (·.selfMessageSequenceNumber),
      htimer.mp (hfield (·.timer))⟩
  · rintro ⟨hsecure, hclear, hrole, hsas, hcache, haux, hcontext, hpeerH, hinitiator, hresponder,
      hnumber, hmessage, hstep⟩
    refine ⟨hpeerH, ?_⟩
    rw [ChannelState.EqFields]
    simp only [← htimer.mpr hstep]
    simp only [resetChannel, deletePackets, hsecure, hclear, hrole, hsas, hcache, haux, hcontext,
      hinitiator, hresponder, hmessage, hn.mpr hnumber, Option.isSome_none]
    -- no algorithm, no function
    rfl

lemma eqCreated_started_iff (isSecure : Bool) :
    (startedChannel isSecure (resetChannel { ch with peerHelloHash := some peerHelloHash })).EqCreated
      (startedChannel isSecure (initChannelContext env ctx selfSSRC ch.isMainChannel H0 random)) ↔
      ch.Resettable (initChannelContext env ctx selfSSRC ch.isMainChannel H0 random)
        (ch.isMainChannel || isSecure) := by
  refine eqCreated_reset_iff env ctx selfSSRC H0 random peerHelloHash _ _ _ _ _ _ ?_ ?_
  · cases hstarts : ch.isMainChannel || isSecure with
    | false => simp [resetChannel, deletePackets, initChannelContext, hstarts]
    | true => simp [resetChannel, deletePackets, initChannelContext, hstarts]
  · cases hstarts : ch.isMainChannel || isSecure with
    | false => simp [resetChannel, deletePackets, initChannelContext, hstarts, Timer.mk.injEq]
    | true => simp [resetChannel, deletePackets, initChannelContext, hstarts]

end created

/-- A restart leaves a channel as one just created exactly when what the reset misses is so before. -/
lemma fresh_iff_of_performed {env : Environment P} {w w' : World P} {peerHelloHash : Buf 32}
    (h : w.Mismatches peerHelloHash) (hrun : Performed env (.setPeerHelloHash peerHelloHash) w w') :
    w'.Fresh ↔ w.Resettable := by
  obtain ⟨⟨t, hctx⟩, hch⟩ : World.StartedFrom
      { w with ch := resetChannel { w.ch with peerHelloHash := some peerHelloHash } } w' := by
    have hwp := wp_setPeerHelloHash h
    rw [Performed, wp] at hrun
    cases hresult : perform env (.setPeerHelloHash peerHelloHash) w with
    | ok a w₁ => exact (wp_of_ok hwp hresult).elim
    | error e w₁ =>
      rw [hresult] at hrun
      have hstarted := wp_of_error hwp hresult
      exact hrun.2 ▸ (hstarted hrun.1).2
  have hcreated (env : Environment P) (random : UInt16) : w'.created env random = w.created env random := by
    rw [World.created, hctx, hch]
    rfl
  have hfinal (env : Environment P) (random : UInt16) :
      (final (startChannelEngine (P := P)) { w' with ch := w'.created env random }).ch =
        startedChannel w.ctx.isSecure (w.created env random) := by
    have hstarted := final_of_wp (wp_startChannelEngine_started
      (w := { w' with ch := w'.created env random }) rfl)
    rw [hstarted.2, hcreated, hctx]
  simp only [World.Fresh, hfinal]
  rw [hch]
  exact exists_congr fun env => exists_congr fun random =>
    eqCreated_started_iff env w.ctx w.ch.selfSSRC w.ch.selfH.H0 random peerHelloHash _

/-- A channel is reset only when what the reset misses is as in a channel just created. -/
def Call.KeepsFresh (call : Call P) (w : World P) : Prop :=
  ∀ peerHelloHash, call = .setPeerHelloHash peerHelloHash → w.Mismatches peerHelloHash → w.Resettable

lemma keepsFresh_of_ne {call : Call P} (h : ∀ peerHelloHash, call ≠ .setPeerHelloHash peerHelloHash) :
    call.KeepsFresh w :=
  fun peerHelloHash hcall => absurd hcall (h peerHelloHash)

/-- Such a call returns. -/
def RestartStep (w w' : World P) : Prop := ∃ env call, Performed env call w w' ∧ call.KeepsFresh w

lemma keepsProvided_of_keepsFresh {env : Environment P} {call : Call P} (h : call.KeepsFresh w) (accepted : Bool) :
    w.core.KeepsProvided P.toPrimitives (eventOf env call w accepted) := by
  cases call with
  | setPeerHelloHash peerHelloHash =>
    intro hsecure hello hhello
    by_contra hmismatch
    obtain ⟨_, _, hresettable⟩ := h peerHelloHash rfl ⟨hello, hhello, hmismatch⟩
    have hinsecure : w.core.isSecure = false := hresettable.isSecure
    rw [hinsecure] at hsecure
    cases hsecure
  | processMessage input =>
    rw [eventOf]
    split
    · split_ifs
      · trivial
      · trivial
    · trivial
  | _ => trivial

lemma provided_of_reachable {w w' : World P} (hinit : w.Initial)
    (hrun : Relation.ReflTransGen RestartStep w w') : w'.core.Provided := by
  induction hrun with
  | refl => exact provided_of_initial hinit
  | tail _ hstep ih =>
    obtain ⟨env, call, hperformed, hok⟩ := hstep
    obtain ⟨accepted, htransition⟩ := exists_transition_of_performed hperformed
    exact ih.transition (keepsProvided_of_keepsFresh hok accepted) htransition

/-- In a run where a channel is reset only when what the reset misses is as in a channel just created, a
secure channel has its keys, and a restart leaves a channel as one just created exactly in that case. -/
theorem hasKeys_and_fresh_of_reachable {w w' : World P} (hinit : w.Initial)
    (hrun : Relation.ReflTransGen RestartStep w w') :
    (w'.ch.isSecure = true → w'.ch.HasKeys) ∧ ∀ env peerHelloHash w'', w'.Mismatches peerHelloHash →
        Performed env (.setPeerHelloHash peerHelloHash) w' w'' → (w''.Fresh ↔ w'.Resettable) :=
  ⟨hasKeys_of_provided (provided_of_reachable hinit hrun), fun _ _ _ => fresh_iff_of_performed⟩

def Call.OnChannel : Call P → Prop
  | .startChannelEngine | .processMessage _ | .iterateEngine _ | .resetRetransmissionTimer
  | .setPeerHelloHash _ => True
  | _ => False

end restarts

/-! ### A hash given after the exchange -/

-- the run is evaluated by the kernel only
attribute [local irreducible] Performed Call.KeepsFresh

lemma isDefined_restart : channelSecureWorld.ch.peerHello.any (fun hello =>
      decide (sha256 Primitives.sample hello.message ≠ zeros 32)) = true ∧
    channelRestartedWorld.ch.srtpSecrets.isNone = true := by
  decide +kernel

lemma mismatches_channelSecureWorld : channelSecureWorld.Mismatches (zeros 32) := by
  obtain ⟨hmismatch, -⟩ := isDefined_restart
  cases hhello : channelSecureWorld.ch.peerHello with
  | none => rw [hhello] at hmismatch; cases hmismatch
  | some hello =>
    rw [hhello] at hmismatch
    exact ⟨hello, hhello, of_decide_eq_true hmismatch⟩

/-- The channel that turned secure has its keys, and a restart does not leave it as one just created. -/
theorem hasKeys_and_fresh_of_reachable_secure : channelSecureWorld.ch.HasKeys ∧ ¬ channelRestartedWorld.Fresh := by
  obtain ⟨hstart, hHello, hCommit, hConfirm, hrestart, -, -, -, hsecure, -⟩ := isDefined_channel
  have hstarted : RestartStep sampleChannelWorld channelStartedWorld :=
    ⟨.sample, .startChannelEngine, performed_of_eq rfl hstart, keepsFresh_of_ne (by simp)⟩
  have hhello : RestartStep channelStartedWorld channelHelloWorld :=
    ⟨.sample, .processMessage sampleHelloPacket, performed_of_eq rfl hHello, keepsFresh_of_ne (by simp)⟩
  have hcommit : RestartStep channelHelloWorld channelCommitWorld :=
    ⟨.sample, .processMessage sampleMultPacket, performed_of_eq rfl hCommit, keepsFresh_of_ne (by simp)⟩
  have hconfirm : RestartStep channelCommitWorld channelSecureWorld :=
    ⟨.sample, .processMessage (sampleConfirm2Packet channelCommitWorld), performed_of_eq rfl hConfirm,
      keepsFresh_of_ne (by simp)⟩
  have h := hasKeys_and_fresh_of_reachable ⟨.sample, 0, false, zeros 32, 0, rfl⟩
    ((((Relation.ReflTransGen.single hstarted).tail hhello).tail hcommit).tail hconfirm)
  refine ⟨h.1 hsecure, fun hfresh => ?_⟩
  obtain ⟨_, _, hresettable⟩ := (h.2 .sample (zeros 32) channelRestartedWorld
    mismatches_channelSecureWorld (performed_of_eq rfl hrestart)).mp hfresh
  rw [hresettable.isSecure] at hsecure
  cases hsecure

/-- The channel restarted once it is secure is still secure, without its keys. -/
theorem not_hasKeys_and_fresh_of_reachable : ¬ ∀ (P : CipherPrimitives) (w w' : World P), w.Initial →
      Relation.ReflTransGen (fun w w' => ∃ env call, Performed env call w w' ∧ call.OnChannel) w w' →
      (w'.ch.isSecure = true → w'.ch.HasKeys) ∧ ∀ env peerHelloHash w'', w'.Mismatches peerHelloHash →
          Performed env (.setPeerHelloHash peerHelloHash) w' w'' → w''.Fresh := by
  intro hall
  obtain ⟨hstart, hHello, hCommit, hConfirm, hrestart, -, -, -, -, hsecure, -⟩ := isDefined_channel
  obtain ⟨-, hnone⟩ := isDefined_restart
  have hstep {call : Call .sample} {w : World .sample} (w' : World .sample) (hw : w' = final (perform .sample call) w)
      (hdefined : call.isDefined .sample w = true) (hcall : call.OnChannel) :
      ∃ env call, Performed env call w w' ∧ call.OnChannel :=
    ⟨.sample, call, performed_of_eq hw hdefined, hcall⟩
  have hstarted := hstep channelStartedWorld rfl hstart trivial
  have hhello := hstep channelHelloWorld rfl hHello trivial
  have hcommit := hstep channelCommitWorld rfl hCommit trivial
  have hconfirm := hstep channelSecureWorld rfl hConfirm trivial
  have hrestarted := hstep channelRestartedWorld rfl hrestart trivial
  have h := hall .sample sampleChannelWorld channelRestartedWorld ⟨.sample, 0, false, zeros 32, 0, rfl⟩
    (((((Relation.ReflTransGen.single hstarted).tail hhello).tail hcommit).tail hconfirm).tail hrestarted)
  have hsecrets := (h.1 hsecure).srtpSecrets
  rw [Option.isNone_iff_eq_none.mp hnone] at hsecrets
  cases hsecrets

end Bzrtp
