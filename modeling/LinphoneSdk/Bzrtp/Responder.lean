import LinphoneSdk.Bzrtp.ParserBounds
import LinphoneSdk.Bzrtp.StateMachine

/-!
# The responder

`bzrtp_turnIntoResponder` takes the algorithms of a Commit message. Nothing compares them with the
lists of the context, or with the key agreement that the DHPart packet of the channel was made for.
-/

namespace Bzrtp

open Bytes Chunks Exec

/-! ### Algorithms of a Commit message -/

def CommitMessage.algo (m : CommitMessage) : AlgoType → UInt8
  | .hash => m.hashAlgo
  | .cipherBlock => m.cipherAlgo
  | .authTag => m.authTagAlgo
  | .keyAgreement => m.keyAgreementAlgo
  | .sas => m.sasAlgo

namespace ChannelAlgos

/-- The functions change, not the algorithms, even on an error. -/
lemma wp_updateCryptoFunctionPointers_algo (algos : ChannelAlgos) :
    wp updateCryptoFunctionPointers (fun _ algos' => algos'.algo = algos.algo)
      (fun _ algos' => algos'.algo = algos.algo) algos := by
  have hfamily (algos' : ChannelAlgos) (h : ∀ t, algos'.algo t = algos.algo t) :
      algos'.algo = algos.algo := funext h
  cases hhash : hashPointers algos.hashAlgo with
  | none =>
    simp only [updateCryptoFunctionPointers, wp_bind, wp_get, hhash, wp_throw]
  | some f =>
    cases hcipher : cipherPointers algos.cipherAlgo with
    | none =>
      simp only [updateCryptoFunctionPointers, wp_bind, wp_get, hhash, wp_modify, hcipher, wp_throw]
      exact hfamily _ fun t => by cases t <;> rfl
    | some g =>
      simp only [updateCryptoFunctionPointers, wp_bind, wp_get, hhash, wp_modify, hcipher, wp_ite,
        wp_throw]
      refine ⟨fun _ => hfamily _ fun t => by cases t <;> rfl, fun _ => ?_⟩
      cases hsas : sasPointer algos.sasAlgo with
      | none => exact hfamily _ fun t => by cases t <;> rfl
      | some sas => exact hfamily _ fun t => by cases t <;> rfl

end ChannelAlgos

lemma algo_takeAlgos (m : CommitMessage) (algos : ChannelAlgos) : (takeAlgos m algos).algo = m.algo := by
  set taken : ChannelAlgos := { algos with
    hashAlgo := m.hashAlgo
    cipherAlgo := m.cipherAlgo
    authTagAlgo := m.authTagAlgo
    keyAgreementAlgo := m.keyAgreementAlgo
    sasAlgo := m.sasAlgo } with htaken
  have halgo : taken.algo = m.algo := funext fun t => by cases t <;> rfl
  have hwp := ChannelAlgos.wp_updateCryptoFunctionPointers_algo taken
  rw [takeAlgos, ← htaken]
  cases hrun : ChannelAlgos.updateCryptoFunctionPointers taken with
  | ok _ algos' => exact (wp_of_ok hwp hrun).trans halgo
  | error _ algos' => exact (wp_of_error hwp hrun).trans halgo

@[simp] lemma keyAgreementAlgo_takeAlgos (m : CommitMessage) (algos : ChannelAlgos) :
    (takeAlgos m algos).keyAgreementAlgo = m.keyAgreementAlgo :=
  congrFun (algo_takeAlgos m algos) .keyAgreement

/-- Algorithms of the build have functions. -/
lemma consistent_takeAlgos {available : UInt32} {m : CommitMessage}
    (h : ∀ t, m.algo t ∈ getAllAvailableCryptoTypes available t) (algos : ChannelAlgos) :
    (takeAlgos m algos).Consistent := by
  set taken : ChannelAlgos := { algos with
    hashAlgo := m.hashAlgo
    cipherAlgo := m.cipherAlgo
    authTagAlgo := m.authTagAlgo
    keyAgreementAlgo := m.keyAgreementAlgo
    sasAlgo := m.sasAlgo } with htaken
  have hsettable : taken.Settable := ChannelAlgos.settable_of_implemented fun t => by
    have ht := h t
    cases t <;> exact ht
  obtain ⟨⟨⟩, algos', hrun, hconsistent, -⟩ :=
    exists_ok_of_wp (ChannelAlgos.wp_updateCryptoFunctionPointers hsettable)
  rw [takeAlgos, ← htaken, hrun]
  exact hconsistent

/-! ### Rules -/

section rules

variable {P : CipherPrimitives} {w : World P} {Q : Unit → World P → Prop}
  {E : EngineError → World P → Prop} (env : Environment P)

@[simp] lemma wp_setState (s : EngineState) :
    wp (setState s) Q E w ↔ Q () { w with ch.stateMachine := some s } := Iff.rfl

def publicValueLength (P : CipherPrimitives) (keyAgreementAlgo : UInt8) : ℕ :=
  (computeKeyAgreementPublicValueLength P.toPrimitives keyAgreementAlgo .DHPart1).toNat

/-- The DHPart packet of a responder: a new one for a KEM, the one of the initiator otherwise. -/
structure Rebuilt (keyAgreementAlgo : UInt8) (dhPart dhPart' : SelfPacket DHPartMessage) : Prop where
  kem : isKem keyAgreementAlgo → dhPart'.messageData.pv.length = publicValueLength P keyAgreementAlgo
  notKem : ¬ isKem keyAgreementAlgo → dhPart'.messageData.pv = dhPart.messageData.pv
  length : publicValueLength P keyAgreementAlgo ≠ 0

/-- The contents of a DHPart1 message need a public value. -/
lemma publicValueLength_ne_zero {outside : ℕ → UInt8} {ch : ParserContext} {selfH : HashChain}
    {m : DHPartMessage} {content : Bytes}
    (h : messageContent P outside ch selfH .DHPart1 (.dhPart m) = .ok content) :
    publicValueLength P ch.algos.keyAgreementAlgo ≠ 0 := by
  rw [messageContent_DHPart1] at h
  split_ifs at h with hzero
  intro hlength
  exact hzero (UInt16.toNat_inj.mp hlength)

lemma wp_rebuildDHPart (hQ : ∀ context algo secret i r n dhPart,
      Option.Rel (Rebuilt (P := P) w.ch.algos.keyAgreementAlgo) w.ch.selfDHPart dhPart →
      Q () { w with
        ctx.keyAgreementContext := context
        ctx.keyAgreementAlgo := algo
        ctx.sharedSecret := secret
        ch.initiatorAuxsecretID := i
        ch.responderAuxsecretID := r
        ch.selfMessageSequenceNumber := n
        ch.selfDHPart := dhPart })
    (hE : ∀ e context algo secret i r n dhPart,
      E e { w with
        ctx.keyAgreementContext := context
        ctx.keyAgreementAlgo := algo
        ctx.sharedSecret := secret
        ch.initiatorAuxsecretID := i
        ch.responderAuxsecretID := r
        ch.selfMessageSequenceNumber := n
        ch.selfDHPart := dhPart }) : wp (rebuildDHPart env) Q E w := by
  simp only [rebuildDHPart, wp_bind, wp_get]
  cases hdhPart : w.ch.selfDHPart with
  | none =>
    have h := hQ w.ctx.keyAgreementContext w.ctx.keyAgreementAlgo w.ctx.sharedSecret
      w.ch.initiatorAuxsecretID w.ch.responderAuxsecretID w.ch.selfMessageSequenceNumber
      none (by rw [hdhPart]; exact .none)
    rw [← hdhPart] at h
    exact h
  | some d =>
    simp only [wp_bind, wp_modifyCh, wp_ite, wp_modifyCtx, wp_get]
    constructor
    · intro hkem
      refine wp_createDHPart env .DHPart1 (fun message context algo secret hlength => ?_) (fun e => ?_)
      · refine wp_buildPacket env .DHPart1 message _ (fun content built n hcontent => ?_) (fun e _ => ?_)
        · refine hQ _ _ _ _ _ _ _ ?_
          rw [hdhPart]
          exact .some ⟨fun _ => hlength, fun h => absurd hkem h, publicValueLength_ne_zero hcontent⟩
        · exact hE _ _ _ _ _ _ w.ch.selfMessageSequenceNumber none
      · exact hE _ none w.ctx.keyAgreementAlgo w.ctx.sharedSecret _ _ w.ch.selfMessageSequenceNumber none
    · intro hkem
      refine wp_buildPacket env .DHPart1 _ _ (fun content built n hcontent => ?_) (fun e _ => ?_)
      · refine hQ w.ctx.keyAgreementContext w.ctx.keyAgreementAlgo w.ctx.sharedSecret _ _ _ _ ?_
        rw [hdhPart]
        exact .some ⟨fun h => absurd h hkem, fun _ => rfl, publicValueLength_ne_zero hcontent⟩
      · exact hE _ w.ctx.keyAgreementContext w.ctx.keyAgreementAlgo w.ctx.sharedSecret _ _
          w.ch.selfMessageSequenceNumber _

lemma wp_responderSendingDHPart1_first (hQ : ∀ n sent, w.ch.selfDHPart.isSome → Q () { w with
      ch.timer.status := false, ch.selfSequenceNumber := n, sent := sent })
    (hE : ∀ e n sent status, E e { w with
      ch.timer.status := status, ch.selfSequenceNumber := n, sent := sent }) :
    wp (responderSendingDHPart1_first (P := P)) Q E w := by
  simp only [responderSendingDHPart1_first, wp_bind, wp_get]
  cases hdhPart : w.ch.selfDHPart with
  | none => exact hE _ w.ch.selfSequenceNumber w.sent w.ch.timer.status
  | some packet =>
    simp only [wp_bind, wp_timerOff]
    exact wp_sendPacket packet (fun n sent => hQ n sent (by simp [hdhPart]))
      (fun _ e n sent => hE e n sent false)

/-- The keys of the Confirm messages are derived from the messages of a channel in Multistream mode. -/
structure Derived (w : World P) (context s0 a b c d : Option Bytes) : Prop where
  context : ∃ messages hash, multiStreamMessages w.ch = some messages ∧
    w.ch.algos.hashFunction = some hash ∧ context = some (channelZIDs w.ctx w.ch.role ++
      P.hashFunction hash messages w.ch.algos.hashLength)
  s0 : s0.isSome
  mackeyi : a.isSome
  mackeyr : b.isSome
  zrtpkeyi : c.isSome
  zrtpkeyr : d.isSome

/-- The keys of the Confirm messages stay. -/
structure Underived (w : World P) (context s0 a b c d : Option Bytes) : Prop where
  context : context = w.ch.KDFContext
  s0 : s0 = w.ch.s0
  mackeyi : a = w.ch.mackeyi
  mackeyr : b = w.ch.mackeyr
  zrtpkeyi : c = w.ch.zrtpkeyi
  zrtpkeyr : d = w.ch.zrtpkeyr

lemma wp_responderSendingConfirm1_first (hQ : ∀ context s0 a b c d packet m n sent,
      (w.ch.algos.keyAgreementAlgo = ZRTP_KEYAGREEMENT_Mult → Derived w context s0 a b c d) →
      (w.ch.algos.keyAgreementAlgo ≠ ZRTP_KEYAGREEMENT_Mult → Underived w context s0 a b c d) →
      Q () { w with
        ch.timer.status := false
        ch.KDFContext := context
        ch.s0 := s0
        ch.mackeyi := a
        ch.mackeyr := b
        ch.zrtpkeyi := c
        ch.zrtpkeyr := d
        ch.selfConfirm := packet
        ch.selfMessageSequenceNumber := m
        ch.selfSequenceNumber := n
        sent := sent })
    (hE : ∀ e context status s0 a b c d packet m n sent,
      w.ch.algos.keyAgreementAlgo = ZRTP_KEYAGREEMENT_Mult ∧ Derived w context s0 a b c d ∨
        Underived w context s0 a b c d ∧
          (w.ch.algos.keyAgreementAlgo = ZRTP_KEYAGREEMENT_Mult → w.ctx.ZRTPSess = none) →
      E e { w with
        ch.timer.status := status
        ch.KDFContext := context
        ch.s0 := s0
        ch.mackeyi := a
        ch.mackeyr := b
        ch.zrtpkeyi := c
        ch.zrtpkeyr := d
        ch.selfConfirm := packet
        ch.selfMessageSequenceNumber := m
        ch.selfSequenceNumber := n
        sent := sent })
    (hU : ∀ w', E .UNDEFINED w') : wp (responderSendingConfirm1_first env) Q E w := by
  have hE' (e : EngineError)
      (h : w.ch.algos.keyAgreementAlgo = ZRTP_KEYAGREEMENT_Mult → w.ctx.ZRTPSess = none) : E e w :=
    hE e w.ch.KDFContext w.ch.timer.status w.ch.s0 w.ch.mackeyi w.ch.mackeyr w.ch.zrtpkeyi w.ch.zrtpkeyr
      w.ch.selfConfirm w.ch.selfMessageSequenceNumber w.ch.selfSequenceNumber w.sent
      (.inr ⟨⟨rfl, rfl, rfl, rfl, rfl, rfl⟩, h⟩)
  simp only [responderSendingConfirm1_first, wp_bind, wp_get, wp_ite, wp_throw, wp_timerOff,
    wp_createConfirm, wp_modifyCh]
  refine ⟨fun hMult => ⟨fun hnone => hE' _ fun _ => Option.isNone_iff_eq_none.mp hnone, fun _ => ?_⟩,
    fun hMult => ⟨fun _ => ?_, fun _ => ⟨fun _ => hE' _ fun h => absurd h hMult, fun _ => ?_⟩⟩⟩
  · refine wp_computeS0MultiStream (fun messages hash s0 a b c d hm hhash => ?_) (fun w' _ => hU w')
    have hderived : Derived w (some (channelZIDs w.ctx w.ch.role ++
        P.hashFunction hash messages w.ch.algos.hashLength)) (some s0) (some a) (some b) (some c)
        (some d) := ⟨⟨_, _, hm, hhash, rfl⟩, rfl, rfl, rfl, rfl, rfl⟩
    refine wp_buildPacket env .confirm1 _ _ (fun _ _ m _ => ?_)
      (fun e _ => hE _ _ _ _ _ _ _ _ w.ch.selfConfirm w.ch.selfMessageSequenceNumber
        w.ch.selfSequenceNumber w.sent (.inl ⟨hMult, hderived⟩))
    exact wp_sendPacket _
      (fun n sent => hQ _ _ _ _ _ _ _ _ _ _ (fun _ => hderived) (fun h => absurd hMult h))
      (fun _ e n sent => hE _ _ _ _ _ _ _ _ _ _ _ _ (.inl ⟨hMult, hderived⟩))
  all_goals
    have hunderived : Underived w w.ch.KDFContext w.ch.s0 w.ch.mackeyi w.ch.mackeyr w.ch.zrtpkeyi
        w.ch.zrtpkeyr := ⟨rfl, rfl, rfl, rfl, rfl, rfl⟩
    refine wp_buildPacket env .confirm1 _ _ (fun _ _ m _ => ?_)
      (fun e _ => hE _ w.ch.KDFContext _ w.ch.s0 w.ch.mackeyi w.ch.mackeyr w.ch.zrtpkeyi w.ch.zrtpkeyr
        w.ch.selfConfirm w.ch.selfMessageSequenceNumber w.ch.selfSequenceNumber w.sent
        (.inr ⟨hunderived, fun h => absurd h hMult⟩))
    exact wp_sendPacket _
      (fun n sent => hQ w.ch.KDFContext w.ch.s0 w.ch.mackeyi w.ch.mackeyr w.ch.zrtpkeyi w.ch.zrtpkeyr
        _ _ _ _ (fun h => absurd h hMult) (fun _ => hunderived))
      (fun _ e n sent => hE _ w.ch.KDFContext _ w.ch.s0 w.ch.mackeyi w.ch.mackeyr w.ch.zrtpkeyi
        w.ch.zrtpkeyr _ _ _ _ (.inr ⟨hunderived, fun h => absurd h hMult⟩))

/-- A key agreement without Diffie-Hellman. -/
def NoDHM (keyAgreementAlgo : UInt8) : Prop :=
  keyAgreementAlgo = ZRTP_KEYAGREEMENT_Prsh ∨ keyAgreementAlgo = ZRTP_KEYAGREEMENT_Mult

instance (keyAgreementAlgo : UInt8) : Decidable (NoDHM keyAgreementAlgo) := by
  unfold NoDHM
  infer_instance

/-- The keys of a channel are those of its messages. -/
def World.Derived (w : World P) : Prop :=
  Bzrtp.Derived w w.ch.KDFContext w.ch.s0 w.ch.mackeyi w.ch.mackeyr w.ch.zrtpkeyi w.ch.zrtpkeyr

/-- The keys of a channel stay. -/
def World.Underived (w w' : World P) : Prop :=
  Bzrtp.Underived w w'.ch.KDFContext w'.ch.s0 w'.ch.mackeyi w'.ch.mackeyr w'.ch.zrtpkeyi w'.ch.zrtpkeyr

/-- What a channel that turns into a responder has. -/
structure Turned (zrtpPacket : ZrtpPacket CommitMessage) (w w' : World P) : Prop where
  role : w'.ch.role = .responder
  peerCommit : w'.ch.peerCommit = some zrtpPacket
  algos : w'.ch.algos = takeAlgos zrtpPacket.messageData w.ch.algos
  isSecure : w'.ch.isSecure = w.ch.isSecure
  selfHello : w'.ch.selfHello = w.ch.selfHello
  selfCommit : w'.ch.selfCommit = w.ch.selfCommit
  peerHelloHash : w'.ch.peerHelloHash = w.ch.peerHelloHash
  peerHello : w'.ch.peerHello = w.ch.peerHello
  peerDHPart : w'.ch.peerDHPart = w.ch.peerDHPart
  peerConfirm : w'.ch.peerConfirm = w.ch.peerConfirm
  toChannelContext : w'.ch.toChannelContext = w.ch.toChannelContext
  toCryptoTypes : w'.ctx.toCryptoTypes = w.ctx.toCryptoTypes
  ZRTPSess : w'.ctx.ZRTPSess = w.ctx.ZRTPSess
  srtpSecrets : w'.ch.srtpSecrets = w.ch.srtpSecrets
  exportedKey : w'.ctx.exportedKey = w.ctx.exportedKey

/-- The end of a call that succeeds. -/
structure Answered (zrtpPacket : ZrtpPacket CommitMessage) (w w' : World P) : Prop
    extends Turned zrtpPacket w w' where
  dhPart : Option.Rel (Rebuilt (P := P) zrtpPacket.messageData.keyAgreementAlgo) w.ch.selfDHPart
    w'.ch.selfDHPart
  noDHM : NoDHM zrtpPacket.messageData.keyAgreementAlgo →
    w'.ch.stateMachine = some .confirmation_responderSendingConfirm1
  dhm : ¬ NoDHM zrtpPacket.messageData.keyAgreementAlgo →
    w'.ch.stateMachine = some .keyAgreement_responderSendingDHPart1 ∧ w'.ch.selfDHPart.isSome
  derived : zrtpPacket.messageData.keyAgreementAlgo = ZRTP_KEYAGREEMENT_Mult →
    w'.Derived
  underived : zrtpPacket.messageData.keyAgreementAlgo ≠ ZRTP_KEYAGREEMENT_Mult →
    w.Underived w'

/-- A call that fails may have set the next state. -/
structure Stopped (zrtpPacket : ZrtpPacket CommitMessage) (w w' : World P) : Prop
    extends Turned zrtpPacket w w' where
  stateMachine : w'.ch.stateMachine = w.ch.stateMachine ∧
      w.Underived w' ∨
    w'.ch.stateMachine = some (if NoDHM zrtpPacket.messageData.keyAgreementAlgo then
        .confirmation_responderSendingConfirm1 else .keyAgreement_responderSendingDHPart1) ∧
      (zrtpPacket.messageData.keyAgreementAlgo = ZRTP_KEYAGREEMENT_Mult ∧
          w'.Derived ∨
        w.Underived w' ∧
          (zrtpPacket.messageData.keyAgreementAlgo = ZRTP_KEYAGREEMENT_Mult → w.ctx.ZRTPSess = none))

theorem wp_turnIntoResponder (zrtpPacket : ZrtpPacket CommitMessage) :
    wp (turnIntoResponder env zrtpPacket) (fun _ w' => Answered zrtpPacket w w')
      (fun e w' => e ≠ .UNDEFINED → Stopped zrtpPacket w w') w := by
  simp only [turnIntoResponder, wp_bind, wp_timerOff, wp_modifyCh]
  refine wp_rebuildDHPart env (fun context algo secret i r n dhPart hdhPart => ?_)
    (fun e _ _ _ _ _ _ _ _ => ⟨⟨rfl, rfl, rfl, rfl, rfl, rfl, rfl, rfl, rfl, rfl, rfl, rfl, rfl, rfl, rfl⟩,
      .inl ⟨rfl, rfl, rfl, rfl, rfl, rfl, rfl⟩⟩)
  simp only [keyAgreementAlgo_takeAlgos] at hdhPart
  simp only [wp_ite, wp_bind, wp_setState]
  refine ⟨fun hNoDHM => ?_, fun hdhm => ?_⟩
  · refine wp_responderSendingConfirm1_first env
      (fun context s0 a b c d packet m n sent hMult hPrsh => ?_)
      (fun e context status s0 a b c d packet m n sent hkeys _ =>
        ⟨⟨rfl, rfl, rfl, rfl, rfl, rfl, rfl, rfl, rfl, rfl, rfl, rfl, rfl, rfl, rfl⟩, .inr ⟨?_, ?_⟩⟩)
      (fun w' h => absurd rfl h)
    · simp only [keyAgreementAlgo_takeAlgos] at hMult hPrsh
      refine ⟨⟨rfl, rfl, rfl, rfl, rfl, rfl, rfl, rfl, rfl, rfl, rfl, rfl, rfl, rfl, rfl⟩, hdhPart, fun _ => rfl,
        fun h => absurd hNoDHM h, fun h => ?_, fun h => ?_⟩
      · exact ⟨(hMult h).context, (hMult h).s0, (hMult h).mackeyi, (hMult h).mackeyr, (hMult h).zrtpkeyi, (hMult h).zrtpkeyr⟩
      · exact ⟨(hPrsh h).context, (hPrsh h).s0, (hPrsh h).mackeyi, (hPrsh h).mackeyr, (hPrsh h).zrtpkeyi,
          (hPrsh h).zrtpkeyr⟩
    · exact congrArg some (if_pos hNoDHM).symm
    · simp only [keyAgreementAlgo_takeAlgos] at hkeys
      rcases hkeys with ⟨hMult, hderived⟩ | ⟨hunderived, hnone⟩
      · exact .inl ⟨hMult, hderived.context, hderived.s0, hderived.mackeyi, hderived.mackeyr, hderived.zrtpkeyi,
          hderived.zrtpkeyr⟩
      · exact .inr ⟨⟨hunderived.context, hunderived.s0, hunderived.mackeyi, hunderived.mackeyr, hunderived.zrtpkeyi,
          hunderived.zrtpkeyr⟩, hnone⟩
  · refine wp_responderSendingDHPart1_first (fun n sent hsome => ?_) (fun e n sent status _ =>
        ⟨⟨rfl, rfl, rfl, rfl, rfl, rfl, rfl, rfl, rfl, rfl, rfl, rfl, rfl, rfl, rfl⟩, .inr ⟨?_, ?_⟩⟩)
    · exact ⟨⟨rfl, rfl, rfl, rfl, rfl, rfl, rfl, rfl, rfl, rfl, rfl, rfl, rfl, rfl, rfl⟩, hdhPart,
        fun h => absurd h hdhm, fun _ => ⟨rfl, hsome⟩, fun h => absurd (.inr h) hdhm,
        fun _ => ⟨rfl, rfl, rfl, rfl, rfl, rfl⟩⟩
    · exact congrArg some (if_neg hdhm).symm
    · exact .inr ⟨⟨rfl, rfl, rfl, rfl, rfl, rfl⟩, fun h => absurd (.inr h) hdhm⟩

end rules

/-! ### Supported algorithms -/

section supported

variable {P : CipherPrimitives}

/-- A channel works with algorithms its endpoint supports. -/
structure Supported (w : World P) : Prop where
  mem : ∀ t, w.ch.algos.algo t ∈ w.ctx.get t
  consistent : w.ch.algos.Consistent
  publicValue : ∀ dhPart, w.ch.selfDHPart = some dhPart →
    dhPart.messageData.pv.length = publicValueLength P w.ch.algos.keyAgreementAlgo

/-- The public value of the channel, prepared for the key agreement of the Hello messages, may serve
another one. -/
def FitsCommit (m : CommitMessage) (ch : ChannelState) : Prop :=
  ∀ dhPart, ch.selfDHPart = some dhPart → ¬ isKem m.keyAgreementAlgo →
    dhPart.messageData.pv.length = publicValueLength P m.keyAgreementAlgo

section answered

variable {zrtpPacket : ZrtpPacket CommitMessage} {w w' : World P}

lemma Answered.algo (h : Answered zrtpPacket w w') : w'.ch.algos.algo = zrtpPacket.messageData.algo := by
  rw [h.algos, algo_takeAlgos]

lemma Answered.mem (h : Answered zrtpPacket w w') (hsupported : Supported w') (t : AlgoType) :
    zrtpPacket.messageData.algo t ∈ w.ctx.get t := by
  rw [← h.algo, ← h.toCryptoTypes]
  exact hsupported.mem t

lemma Answered.fitsCommit (h : Answered zrtpPacket w w') (hsupported : Supported w') :
    FitsCommit (P := P) zrtpPacket.messageData w.ch := by
  intro d hd hkem
  have hdhPart := h.dhPart
  rw [hd] at hdhPart
  cases hd' : w'.ch.selfDHPart with
  | none => rw [hd'] at hdhPart; cases hdhPart
  | some d' =>
    rw [hd'] at hdhPart
    obtain ⟨hrebuilt⟩ := hdhPart
    have hka : w'.ch.algos.keyAgreementAlgo = zrtpPacket.messageData.keyAgreementAlgo :=
      congrFun h.algo .keyAgreement
    rw [← hka, ← hsupported.publicValue d' hd', hrebuilt.notKem hkem]

lemma Answered.supported {available : UInt32} (h : Answered zrtpPacket w w')
    (husable : w.ctx.toCryptoTypes.Usable available) (hmem : ∀ t, zrtpPacket.messageData.algo t ∈ w.ctx.get t)
    (hfits : FitsCommit (P := P) zrtpPacket.messageData w.ch) : Supported w' := by
  constructor
  · intro t
    rw [h.algo, h.toCryptoTypes]
    exact hmem t
  · rw [h.algos]
    exact consistent_takeAlgos (fun t => husable.implemented t _ (hmem t)) _
  · intro d' hd'
    have hdhPart := h.dhPart
    rw [hd'] at hdhPart
    cases hd : w.ch.selfDHPart with
    | none => rw [hd] at hdhPart; cases hdhPart
    | some d =>
      rw [hd] at hdhPart
      obtain ⟨hrebuilt⟩ := hdhPart
      rw [show w'.ch.algos.keyAgreementAlgo = zrtpPacket.messageData.keyAgreementAlgo from
        congrFun h.algo .keyAgreement]
      by_cases hkem : isKem zrtpPacket.messageData.keyAgreementAlgo
      · exact hrebuilt.kem hkem
      · rw [hrebuilt.notKem hkem]
        exact hfits d hd hkem

end answered

/-- After a call that succeeds in an endpoint configured by its user, the channel only works with
supported algorithms exactly when the Commit message names such algorithms, and the public value
there was made for a key agreement with values of this length. -/
theorem supported_iff_of_turnIntoResponder {available : UInt32} {settings : CryptoSettings}
    (env : Environment P) {zrtpPacket : ZrtpPacket CommitMessage} {w w' : World P}
    (hconf : CryptoSettings.Configured available settings) (hctx : w.ctx.toCryptoTypes = settings.toCryptoTypes)
    (hrun : turnIntoResponder env zrtpPacket w = .ok () w') :
    Supported w' ↔ (∀ t, zrtpPacket.messageData.algo t ∈ w.ctx.get t) ∧
      FitsCommit (P := P) zrtpPacket.messageData w.ch := by
  have hanswered := wp_of_ok (wp_turnIntoResponder env zrtpPacket) hrun
  constructor
  · intro hsupported
    exact ⟨hanswered.mem hsupported, hanswered.fitsCommit hsupported⟩
  · rintro ⟨hmem, hfits⟩
    have husable := hconf.usable
    rw [← hctx] at husable
    exact hanswered.supported husable hmem hfits

end supported

/-! ### A Commit message with another key agreement -/

def Environment.sample : Environment .sample where
  malloc := zeros
  outside _ := 0
  createsContext _ := true
  DHSecret := (5 : UInt8)
  KEMSecret := (6 : UInt8)
  KEMRandom := (7 : UInt8)
  nonce := zeros 16
  CFBIV := zeros 16
  random := ⟨⟨⟨zeros 8, zeros 8, zeros 8⟩, zeros 8⟩, ⟨⟨zeros 8, zeros 8, zeros 8⟩, zeros 8⟩⟩
  cache := (⟨none, none, none, none⟩, false)

/-- The context of a build without post quantum key agreements. -/
def sampleSettings : CryptoSettings :=
  (CryptoSettings.createBzrtpContext (BCTBX_DHM_2048 ||| BCTBX_ECDH_X25519 ||| BCTBX_ECDH_X448)).initBzrtpContext

/-- A context just initialised, whose callback accepts every packet. -/
def ZrtpContext.sample (settings : CryptoSettings) : ZrtpContext .sample where
  toCryptoTypes := settings.toCryptoTypes
  toContext := setMTU 1452
  selfZID := zeros 12
  peerZID := zeros 12
  keyAgreementContext := none
  keyAgreementAlgo := ZRTP_UNSET_ALGO
  sharedSecret := []
  isSecure := false
  selfAcceptGoClear := false
  peerAcceptGoClear := false
  timeReference := 0
  sendData := some fun _ => true
  cachedSecret := ⟨none, none, none, none⟩
  previouslyVerifiedSas := false
  peerPVS := false
  cacheMismatchFlag := false
  initiatorCachedSecretHash := ⟨zeros 8, zeros 8, zeros 8⟩
  responderCachedSecretHash := ⟨zeros 8, zeros 8, zeros 8⟩
  transientAuxSecret := none
  ZRTPSess := none
  ZRTPSessContext := zeros 24
  exportedKey := none
  peerBzrtpVersion := 0
  contextReadyForExportedKeys := false

def sampleWorld : World .sample where
  ctx := .sample sampleSettings
  ch := initChannelContext .sample (.sample sampleSettings) 0 true (zeros 32) 0
  sent := []

/-- A Commit message in DHM mode, with default algorithms but the key agreement. -/
def CommitMessage.sample (keyAgreementAlgo : UInt8) : CommitMessage where
  H2 := zeros 32
  ZID := zeros 12
  hashAlgo := ZRTP_HASH_S256
  cipherAlgo := ZRTP_CIPHER_AES1
  authTagAlgo := ZRTP_AUTHTAG_HS32
  keyAgreementAlgo := keyAgreementAlgo
  sasAlgo := ZRTP_SAS_B32
  nonce := zeros 16
  keyID := zeros 8
  hvi := zeros 32
  pv := none
  MAC := zeros 8

def sampleCommitPacket (keyAgreementAlgo : UInt8) : ZrtpPacket CommitMessage :=
  ⟨⟨1, 116, .commit, 0⟩, .sample keyAgreementAlgo, List.replicate 132 0⟩

/-- A channel that prepared its DHPart packet for X255. -/
def sampleX255World : World .sample where
  ctx := .sample sampleSettings
  ch := { sampleWorld.ch with
    stateMachine := some .discovery_waitingForHelloAck
    selfDHPart := some ⟨.DHPart2,
      { H1 := zeros 32
        rs1ID := zeros 8
        rs2ID := zeros 8
        pbxsecretID := zeros 8
        auxsecretID := zeros 8
        pv := List.replicate 32 5
        MAC := zeros 8 }, [], .whole []⟩ }
  sent := []

/-- The Commit message names X255. -/
theorem supported_iff_of_turnIntoResponder_X255 :
    ∃ w', turnIntoResponder .sample (sampleCommitPacket ZRTP_KEYAGREEMENT_X255) sampleX255World = .ok () w' ∧
      (Supported w' ↔ (∀ t, (CommitMessage.sample ZRTP_KEYAGREEMENT_X255).algo t ∈ sampleX255World.ctx.get t) ∧
        FitsCommit (P := .sample) (.sample ZRTP_KEYAGREEMENT_X255) sampleX255World.ch) := by
  obtain ⟨⟨⟩, w', hrun⟩ := exists_ok_of_returns
    (show returns (turnIntoResponder .sample (sampleCommitPacket ZRTP_KEYAGREEMENT_X255))
      sampleX255World = true by decide +kernel)
  exact ⟨w', hrun, supported_iff_of_turnIntoResponder .sample
    (.initialise .create : CryptoSettings.Configured _ sampleSettings) rfl hrun⟩

/-- The Commit message names DH3k, which is supported: its public values have 384 bytes. -/
theorem not_supported_of_turnIntoResponder :
    ¬ ∀ (P : CipherPrimitives) (env : Environment P) (zrtpPacket : ZrtpPacket CommitMessage)
      (w w' : World P) (available : UInt32) (settings : CryptoSettings),
      CryptoSettings.Configured available settings → w.ctx.toCryptoTypes = settings.toCryptoTypes →
      turnIntoResponder env zrtpPacket w = .ok () w' → Supported w' := by
  intro hall
  obtain ⟨⟨⟩, w', hrun⟩ := exists_ok_of_returns
    (show returns (turnIntoResponder .sample (sampleCommitPacket ZRTP_KEYAGREEMENT_DH3k))
      sampleX255World = true by decide +kernel)
  have hsupported := hall _ _ _ _ _ _ sampleSettings (.initialise .create) rfl hrun
  have hanswered := wp_of_ok (wp_turnIntoResponder _ _) hrun
  have hlength : 32 = 384 := hanswered.fitsCommit hsupported _ rfl (by decide)
  cases hlength

end Bzrtp
