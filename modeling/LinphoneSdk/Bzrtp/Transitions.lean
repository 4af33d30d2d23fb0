import LinphoneSdk.Bzrtp.Responder

/-!
# Transitions of a channel

What a channel does with the messages of its peer, as a transition system on the part of its state that
decides it: the state of the machine, the role, the packets stored. `Transition` lists the changes that
the library may make to that part; the state functions refine it.
-/

namespace Bzrtp

open Bytes Chunks Exec

/-! ### The core of a channel -/

structure ExportState where
  s0 : Option Bytes
  exportedKey : Option Bytes
  hmacFunction : Option HashAlgo
  hashLength : UInt8

/-- The algorithms change. -/
def ExportState.using (hmacFunction : Option HashAlgo) (hashLength : UInt8) (x : ExportState) : ExportState :=
  { x with hmacFunction := hmacFunction, hashLength := hashLength }

/-- Secrets may be destroyed. -/
structure ExportState.Forgets (x x' : ExportState) : Prop where
  s0 : x'.s0 = none ∨ x'.s0 = x.s0
  exportedKey : x'.exportedKey = none ∨ x'.exportedKey = x.exportedKey
  hmacFunction : x'.hmacFunction = x.hmacFunction
  hashLength : x'.hashLength = x.hashLength

lemma ExportState.Forgets.refl (x : ExportState) : x.Forgets x := ⟨Or.inr rfl, Or.inr rfl, rfl, rfl⟩

structure Core where
  stateMachine : Option EngineState
  role : Role
  keyAgreementAlgo : UInt8
  isSecure : Bool
  /-- The keys of the Confirm messages of the initiator are derived. -/
  initiatorKeys : Bool
  responderKeys : Bool
  hasSecrets : Bool
  exportState : ExportState
  KDFContext : Option Bytes
  /-- The session has its key. -/
  hasSession : Bool
  selfHello : ZrtpPacket HelloMessage
  selfCommit : Option (SelfPacket CommitMessage)
  selfDHPart : Option (SelfPacket DHPartMessage)
  peerHello : Option (ZrtpPacket HelloMessage)
  peerCommit : Option (ZrtpPacket CommitMessage)
  peerDHPart : Option (ZrtpPacket DHPartMessage)
  peerConfirm : Option (ZrtpPacket ConfirmMessage)
  peerSequenceNumber : UInt16

def World.core {P : CipherPrimitives} (w : World P) : Core where
  stateMachine := w.ch.stateMachine
  role := w.ch.role
  keyAgreementAlgo := w.ch.algos.keyAgreementAlgo
  isSecure := w.ch.isSecure
  initiatorKeys := w.ch.zrtpkeyi.isSome && w.ch.mackeyi.isSome
  responderKeys := w.ch.zrtpkeyr.isSome && w.ch.mackeyr.isSome
  hasSecrets := w.ch.srtpSecrets.isSome
  exportState := ⟨w.ch.s0, w.ctx.exportedKey, w.ch.algos.hmacFunction, w.ch.algos.hashLength⟩
  KDFContext := w.ch.KDFContext
  hasSession := w.ctx.ZRTPSess.isSome
  selfHello := w.ch.selfHello
  selfCommit := w.ch.selfCommit
  selfDHPart := w.ch.selfDHPart
  peerHello := w.ch.peerHello
  peerCommit := w.ch.peerCommit
  peerDHPart := w.ch.peerDHPart
  peerConfirm := w.ch.peerConfirm
  peerSequenceNumber := w.ch.peerSequenceNumber

namespace Core

/-- A packet is valid. -/
def seen (zrtpPacket : Packet) (c : Core) : Core :=
  { c with peerSequenceNumber := zrtpPacket.sequenceNumber }

def withoutPackets (c : Core) : Core :=
  { c with
    selfCommit := none, selfDHPart := none, peerCommit := none, peerDHPart := none, peerConfirm := none }

def withoutKeys (c : Core) : Core :=
  { c with
    initiatorKeys := false, responderKeys := false, hasSecrets := false, KDFContext := none
    exportState := { c.exportState with s0 := none } }

/-- The keys of the Confirm messages of a side. -/
def keys (c : Core) : Role → Bool
  | .initiator => c.initiatorKeys
  | .responder => c.responderKeys

lemma not_keys {c : Core} (hi : c.initiatorKeys = false) (hr : c.responderKeys = false) (role : Role) :
    ¬ c.keys role = true := by
  cases role with
  | initiator => exact Bool.eq_false_iff.mp hi
  | responder => exact Bool.eq_false_iff.mp hr

def keyed (KDFContext s0 : Bytes) (c : Core) : Core :=
  { c with
    initiatorKeys := true, responderKeys := true, KDFContext := some KDFContext
    exportState := { c.exportState with s0 := some s0 } }

def cleared (c : Core) : Core :=
  { c.withoutKeys with stateMachine := some .clear, isSecure := false, role := .initiator }

/-- The channel negotiates again, in Multistream mode. -/
def restarted (selfCommit : Option (SelfPacket CommitMessage)) (c : Core) : Core :=
  { c.withoutPackets with
    stateMachine := some .keyAgreement_sendingCommit
    keyAgreementAlgo := ZRTP_KEYAGREEMENT_Mult
    selfCommit := selfCommit }

/-- The channel turns into a responder. -/
def respondingTo (commit : ZrtpPacket CommitMessage) (s : Option EngineState) (c : Core) : Core :=
  { c with
    stateMachine := s
    role := .responder
    keyAgreementAlgo := commit.messageData.keyAgreementAlgo
    peerCommit := some commit }

/-- A DHPart message arrives, and the keys are derived. -/
def takingDHPart (dhPart : ZrtpPacket DHPartMessage) (KDFContext s0 : Bytes) (c : Core) : Core :=
  { c.keyed KDFContext s0 with hasSession := true, peerDHPart := some dhPart }

/-! ### Transcript -/

def multiStreamMessages (c : Core) : Option Bytes :=
  match c.role with
  | .responder => c.peerCommit.map fun commit => c.selfHello.message ++ commit.message
  | .initiator => c.peerHello.bind fun hello => c.selfCommit.map fun commit =>
      hello.message ++ commit.message

def dhmMessages (c : Core) : Option Bytes :=
  match c.role with
  | .responder => c.peerCommit.bind fun commit => c.selfDHPart.bind fun dhPart1 =>
      c.peerDHPart.map fun dhPart2 =>
        c.selfHello.message ++ commit.message ++ dhPart1.message ++ dhPart2.message
  | .initiator => c.peerHello.bind fun hello => c.selfCommit.bind fun commit =>
      c.peerDHPart.bind fun dhPart1 => c.selfDHPart.map fun dhPart2 =>
        hello.message ++ commit.message ++ dhPart1.message ++ dhPart2.message

def transcript (c : Core) : Option Bytes :=
  if c.keyAgreementAlgo = ZRTP_KEYAGREEMENT_Mult then c.multiStreamMessages else c.dhmMessages

lemma transcript_of_mult {c : Core} (h : c.keyAgreementAlgo = ZRTP_KEYAGREEMENT_Mult) :
    c.transcript = c.multiStreamMessages := if_pos h

lemma transcript_of_ne {c : Core} (h : c.keyAgreementAlgo ≠ ZRTP_KEYAGREEMENT_Mult) :
    c.transcript = c.dhmMessages := if_neg h

/-- The context of the key derivations is made with the hash of these messages. -/
def IsHash (P : Primitives) (KDFContext messages : Option Bytes) : Prop :=
  ∃ ZIDs hash bytes length, messages = some bytes ∧ KDFContext = some (ZIDs ++ P.hashFunction hash bytes length)

/-- The messages of the exchange are hashed. -/
def Hashed (P : Primitives) (c : Core) : Prop := IsHash P c.KDFContext c.transcript

end Core

/-! ### Verified messages -/

section verified

variable (P : Primitives)

/-- The MAC of a stored message is verified with a hash whose own hash is in the message. -/
def Verified {α : Type} (stored : Option (ZrtpPacket α)) (hash : α → Buf 32) (MAC : α → Buf 8) (key : Buf 32) : Prop :=
  ∃ packet, stored = some packet ∧ sha256 P key.toList = hash packet.messageData ∧
    messageMAC P key packet = MAC packet.messageData

namespace Core

def HelloVerified (c : Core) (H2 : Buf 32) : Prop := Verified P c.peerHello HelloMessage.H3 HelloMessage.MAC H2

def CommitVerified (c : Core) (H1 : Buf 32) : Prop :=
  Verified P c.peerCommit CommitMessage.H2 CommitMessage.MAC H1

def DHPartVerified (c : Core) (H0 : Buf 32) : Prop :=
  Verified P c.peerDHPart DHPartMessage.H1 DHPartMessage.MAC H0

def H1Verified (c : Core) (H1 : Buf 32) : Prop :=
  match c.role with
  | .responder => c.CommitVerified P H1
  | .initiator => c.HelloVerified P (sha256 P H1.toList)

def H0Verified (c : Core) (H0 : Buf 32) : Prop :=
  if NoDHM c.keyAgreementAlgo then c.H1Verified P (sha256 P H0.toList) else c.DHPartVerified P H0

end Core

end verified

section checks

variable {P : CipherPrimitives} {w : World P}

lemma helloVerified_of_check {H2 : Buf 32} (h : checkHello P.toPrimitives w.ch.toParserContext H2 = .ok ()) :
    w.core.HelloVerified P.toPrimitives H2 := by
  rw [checkHello] at h
  split at h
  · cases h
  · rename_i hello hstored
    split_ifs at h with hchain hMAC
    exact ⟨hello, hstored, not_not.mp hchain, not_not.mp hMAC⟩

lemma commitVerified_of_check {H1 : Buf 32} (h : checkCommit P.toPrimitives w.ch.toParserContext H1 = .ok ()) :
    w.core.CommitVerified P.toPrimitives H1 := by
  rw [checkCommit] at h
  split at h
  · cases h
  · rename_i commit hstored
    split_ifs at h with hchain hMAC
    exact ⟨commit, hstored, not_not.mp hchain, not_not.mp hMAC⟩

lemma dhPartVerified_of_check {H0 : Buf 32} (h : checkDHPart P.toPrimitives w.ch.toParserContext H0 = .ok ()) :
    w.core.DHPartVerified P.toPrimitives H0 := by
  rw [checkDHPart] at h
  split at h
  · cases h
  · rename_i dhPart hstored
    split_ifs at h with hchain hMAC
    exact ⟨dhPart, hstored, not_not.mp hchain, not_not.mp hMAC⟩

lemma h1Verified_of_check {H1 : Buf 32} (h : checkH1 P.toPrimitives w.ch.toParserContext H1 = .ok ()) :
    w.core.H1Verified P.toPrimitives H1 := by
  rw [checkH1] at h
  rw [Core.H1Verified, show w.core.role = w.ch.role from rfl]
  cases hrole : w.ch.role with
  | responder =>
    rw [hrole] at h
    exact commitVerified_of_check h
  | initiator =>
    rw [hrole] at h
    exact helloVerified_of_check h

lemma h0Verified_of_check {H0 : Buf 32} (h : checkH0 P.toPrimitives w.ch.toParserContext H0 = .ok ()) :
    w.core.H0Verified P.toPrimitives H0 := by
  rw [checkH0] at h
  rw [Core.H0Verified]
  split_ifs at h with hNoDHM
  · rw [if_pos (show NoDHM w.core.keyAgreementAlgo from hNoDHM)]
    exact h1Verified_of_check h
  · rw [if_neg (show ¬ NoDHM w.core.keyAgreementAlgo from hNoDHM)]
    exact dhPartVerified_of_check h

end checks

/-! ### Transitions -/

structure Handed where
  zrtpPacket : Packet
  packetString : Bytes
  /-- The Commit message read in it. -/
  commit : Option CommitMessage
  /-- The state function returned 0. -/
  accepted : Bool

/-- The Commit message in a packet, if it is one that the parser accepts. -/
def readCommit (P : CipherPrimitives) (outside : ℕ → UInt8) (ch : ParserContext) (zrtpPacket : Packet)
    (input : Bytes) : Option CommitMessage :=
  match (packetParser P ch zrtpPacket outside ⟨input, outside⟩).result with
  | .ok (.commit message) => some message
  | _ => none

inductive Event where
  | message (m : Handed)
  /-- The hash of the Hello message of the peer is given. -/
  | peerHelloHash (peerHelloHash : Buf 32)
  /-- Another channel goes back to secure, without this one. -/
  | packetsDeleted
  /-- Another channel goes back to secure, with this one. -/
  | restarted
  /-- Another channel changes the session, whose exported key is then this one. -/
  | session (exportedKey : Option Bytes)
  | other

/-- The states where the packet that led there may be repeated. -/
def repeatingStates : List EngineState :=
  [.discovery_waitingForHelloAck, .keyAgreement_responderSendingDHPart1,
    .keyAgreement_initiatorSendingDHPart2, .confirmation_responderSendingConfirm1,
    .confirmation_initiatorSendingConfirm2, .secure, .sending_GoClear]

def responderState (keyAgreementAlgo : UInt8) : EngineState :=
  if NoDHM keyAgreementAlgo then .confirmation_responderSendingConfirm1
  else .keyAgreement_responderSendingDHPart1

/-- A Commit message turns a channel that sent its own into a responder. -/
def Core.TurnedBy (c : Core) (message : CommitMessage) : Prop :=
  c.role = .responder ∨ ∃ selfCommit hello, c.selfCommit = some selfCommit ∧ c.peerHello = some hello ∧
    losesContention c.selfHello.messageData hello.messageData selfCommit.messageData message

/-- The keys of a responder in Multistream mode are derived at once, if the session has its key. -/
def Core.AtOnce (P : Primitives) (c c' : Core) : Prop :=
  c' = c ∧ (c.keyAgreementAlgo = ZRTP_KEYAGREEMENT_Mult →
      c.stateMachine = some .confirmation_responderSendingConfirm1 → c.hasSession = false) ∨
    c.keyAgreementAlgo = ZRTP_KEYAGREEMENT_Mult ∧ ∃ KDFContext s0, c' = c.keyed KDFContext s0 ∧ c'.Hashed P

lemma Core.AtOnce.exists_eq {P : Primitives} {c c' : Core} (h : Core.AtOnce P c c') :
    ∃ i r KDFContext x, c' = { c with
      initiatorKeys := i, responderKeys := r, KDFContext := KDFContext, exportState := x } := by
  rcases h with ⟨rfl, -⟩ | ⟨-, KDFContext, s0, rfl, -⟩
  · exact ⟨_, _, _, _, rfl⟩
  · exact ⟨true, true, some KDFContext, _, rfl⟩

inductive Transition (P : Primitives) : Event → Core → Core → Prop where
  | kept {c : Core} (e : Event) (h : ∀ m, e ≠ .message m) : Transition P e c c
  | session {c : Core} (hasSession : Bool) (exportedKey : Option Bytes) :
      Transition P (.session exportedKey) c { c with
        hasSession := hasSession, exportState := { c.exportState with exportedKey := exportedKey } }
  | started {c : Core} (hs : c.stateMachine = none) :
      Transition P .other c { c with stateMachine := some .discovery_init }
  | goClearStarted {c : Core} : Transition P .other c { c with stateMachine := some .sending_GoClear }
  | wentClear {c : Core} : Transition P .other c c.cleared
  | backToSecure {c : Core} (hs : c.stateMachine = some .clear)
      (selfCommit : Option (SelfPacket CommitMessage)) : Transition P .other c (c.restarted selfCommit)
  | reset {c : Core} {peerHelloHash : Buf 32} {hello : ZrtpPacket HelloMessage}
      (hhello : c.peerHello = some hello) (hmismatch : sha256 P hello.message ≠ peerHelloHash)
      (s : Option EngineState) (hs : s = none ∨ s = some .discovery_init) (keyAgreementAlgo : UInt8)
      (hmacFunction : Option HashAlgo) (hashLength : UInt8) :
      Transition P (.peerHelloHash peerHelloHash) c { c.withoutPackets.withoutKeys with
        stateMachine := s, peerHello := none, keyAgreementAlgo := keyAgreementAlgo
        exportState := c.withoutKeys.exportState.using hmacFunction hashLength }
  | packetsDeleted {c : Core} : Transition P .packetsDeleted c c.withoutPackets
  | restarted {c : Core} (selfCommit : Option (SelfPacket CommitMessage)) :
      Transition P .restarted c (c.restarted selfCommit)
  | refused {c : Core} {m : Handed} (haccepted : m.accepted = false)
      (hcommit : c.stateMachine = some .keyAgreement_sendingCommit → m.commit = none) :
      Transition P (.message m) c c
  /-- The keys are derived before a Confirm1 message is refused. -/
  | derived {c : Core} {m : Handed} (hs : c.stateMachine = some .keyAgreement_sendingCommit)
      (haccepted : m.accepted = false) (hcommit : m.commit = none)
      (hMult : c.keyAgreementAlgo = ZRTP_KEYAGREEMENT_Mult) (KDFContext s0 : Bytes) :
      Transition P (.message m) c (c.keyed KDFContext s0)
  | repeated {c : Core} {m : Handed} {s : EngineState} (hs : c.stateMachine = some s)
      (hrepeating : s ∈ repeatingStates) : Transition P (.message m) c (c.seen m.zrtpPacket)
  | discovered {c : Core} {m : Handed} {s s' : EngineState} (hs : c.stateMachine = some s)
      (hdiscovery : s = .discovery_init ∨ s = .discovery_waitingForHello)
      (hs' : s' ∈ [.discovery_init, .discovery_waitingForHello, .discovery_waitingForHelloAck,
        .keyAgreement_sendingCommit])
      (keyAgreementAlgo : UInt8) (peerHello : Option (ZrtpPacket HelloMessage))
      (selfDHPart : Option (SelfPacket DHPartMessage)) (selfCommit : Option (SelfPacket CommitMessage))
      (hmacFunction : Option HashAlgo) (hashLength : UInt8) :
      Transition P (.message m) c { c.seen m.zrtpPacket with
        stateMachine := some s', keyAgreementAlgo := keyAgreementAlgo, peerHello := peerHello
        selfDHPart := selfDHPart, selfCommit := selfCommit
        exportState := c.exportState.using hmacFunction hashLength }
  | helloAcked {c : Core} {m : Handed} (hs : c.stateMachine = some .discovery_waitingForHelloAck)
      (selfCommit : Option (SelfPacket CommitMessage)) :
      Transition P (.message m) c { c.seen m.zrtpPacket with
        stateMachine := some .keyAgreement_sendingCommit, selfCommit := selfCommit }
  | won {c : Core} {m : Handed} {message : CommitMessage}
      (hs : c.stateMachine = some .keyAgreement_sendingCommit) (hcommit : m.commit = some message)
      (hwon : ¬ c.TurnedBy message) : Transition P (.message m) c (c.seen m.zrtpPacket)
  | turned {c c' : Core} {m : Handed} {message : CommitMessage} {s s' : EngineState}
      (hs : c.stateMachine = some s) (hcommit : m.commit = some message)
      (hstate : s = .discovery_waitingForHelloAck ∨ s = .keyAgreement_sendingCommit ∧ c.TurnedBy message ∨ s = .clear)
      (hs' : s' = s ∧ m.accepted = false ∨ s' = responderState message.keyAgreementAlgo)
      (hH2 : c.HelloVerified P message.H2) (selfCommit : Option (SelfPacket CommitMessage))
      (selfDHPart : Option (SelfPacket DHPartMessage)) (hmacFunction : Option HashAlgo) (hashLength : UInt8)
      (hc' : Core.AtOnce P { ((if s = .clear then c.withoutPackets else c).seen m.zrtpPacket).respondingTo
        ⟨m.zrtpPacket, message, m.packetString⟩ (some s') with
          selfCommit := selfCommit, selfDHPart := selfDHPart
          exportState := c.exportState.using hmacFunction hashLength } c') : Transition P (.message m) c c'
  | dhPart1 {c : Core} {m : Handed} {dhPart : ZrtpPacket DHPartMessage} {KDFContext s0 : Bytes}
      (hs : c.stateMachine = some .keyAgreement_sendingCommit) (hcommit : m.commit = none)
      (hdhm : ¬ NoDHM c.keyAgreementAlgo) (hH1 : c.H1Verified P dhPart.messageData.H1)
      (hhashed : Core.IsHash P (some KDFContext) (c.takingDHPart dhPart KDFContext s0).dhmMessages)
      (hs0 : IsDHMKey P s0 KDFContext) (hhmac : c.exportState.hmacFunction.isSome) :
      Transition P (.message m) c { (c.seen m.zrtpPacket).takingDHPart dhPart KDFContext s0 with
        stateMachine := some .keyAgreement_initiatorSendingDHPart2 }
  | dhPart2 {c c' : Core} {m : Handed} {dhPart : ZrtpPacket DHPartMessage} {KDFContext s0 : Bytes}
      (hs : c.stateMachine = some .keyAgreement_responderSendingDHPart1)
      (hH1 : c.H1Verified P dhPart.messageData.H1)
      (hhashed : Core.IsHash P (some KDFContext) (c.takingDHPart dhPart KDFContext s0).dhmMessages)
      (hs0 : IsDHMKey P s0 KDFContext) (hhmac : c.exportState.hmacFunction.isSome)
      (hc' : Core.AtOnce P { (c.seen m.zrtpPacket).takingDHPart dhPart KDFContext s0 with
        stateMachine := some .confirmation_responderSendingConfirm1 } c') : Transition P (.message m) c c'
  | confirm1 {c : Core} {m : Handed} {confirm : ZrtpPacket ConfirmMessage}
      (hs : c.stateMachine = some .keyAgreement_initiatorSendingDHPart2)
      (hkeys : c.keys c.role.other = true) (hH0 : c.H0Verified P confirm.messageData.H0) (hasSecrets : Bool)
      (hsecrets : (∀ role, c.keys role = true) → hasSecrets = true) :
      Transition P (.message m) c { c.seen m.zrtpPacket with
        stateMachine := some .confirmation_initiatorSendingConfirm2, peerConfirm := some confirm
        hasSecrets := hasSecrets }
  /-- The Confirm1 message that answers a Commit message. -/
  | confirm1NoDHM {c c' : Core} {m : Handed} {confirm : ZrtpPacket ConfirmMessage}
      (hs : c.stateMachine = some .keyAgreement_sendingCommit) (hcommit : m.commit = none)
      (hc' : c' = c ∧ c.keyAgreementAlgo ≠ ZRTP_KEYAGREEMENT_Mult ∨
        c.keyAgreementAlgo = ZRTP_KEYAGREEMENT_Mult ∧ ∃ KDFContext s0, c' = c.keyed KDFContext s0 ∧ c'.Hashed P)
      (hNoDHM : NoDHM c.keyAgreementAlgo) (hkeys : c'.keys c.role.other = true)
      (hH0 : c.H0Verified P confirm.messageData.H0) (hasSecrets : Bool)
      (hsecrets : (∀ role, c'.keys role = true) → hasSecrets = true) :
      Transition P (.message m) c { c'.seen m.zrtpPacket with
        stateMachine := some .confirmation_initiatorSendingConfirm2, peerConfirm := some confirm
        hasSecrets := hasSecrets }
  | confirm2 {c : Core} {m : Handed} {confirm : ZrtpPacket ConfirmMessage}
      (hs : c.stateMachine = some .confirmation_responderSendingConfirm1)
      (hkeys : c.keys c.role.other = true) (hH0 : c.H0Verified P confirm.messageData.H0) (x : ExportState)
      (hx : c.exportState.Forgets x) :
      Transition P (.message m) c { c.seen m.zrtpPacket with
        stateMachine := some .secure, isSecure := true, peerConfirm := some confirm, hasSecrets := true
        exportState := x }
  /-- The answer could not be sent. -/
  | confirm2Unanswered {c : Core} {m : Handed} {confirm : ZrtpPacket ConfirmMessage}
      (hs : c.stateMachine = some .confirmation_responderSendingConfirm1)
      (haccepted : m.accepted = false) (x : ExportState) (hx : c.exportState.Forgets x) :
      Transition P (.message m) c { c.seen m.zrtpPacket with
        peerConfirm := some confirm, hasSecrets := true, exportState := x }
  /-- The sequence number is not kept. -/
  | conf2ACK {c : Core} {m : Handed}
      (hs : c.stateMachine = some .confirmation_initiatorSendingConfirm2)
      (htype : m.zrtpPacket.messageType = .conf2ACK) (x : ExportState) (hx : c.exportState.Forgets x) :
      Transition P (.message m) c { c with
        stateMachine := some .secure, isSecure := true, exportState := x }
  /-- The sequence number is not kept. -/
  | goneClear {c : Core} {m : Handed} {s : EngineState} (hs : c.stateMachine = some s)
      (hstate : s = .secure ∧ m.zrtpPacket.messageType = .goClear ∨
        s = .sending_GoClear ∧ m.zrtpPacket.messageType = .clearACK) :
      Transition P (.message m) c c.cleared

end Bzrtp
