import LinphoneSdk.Bzrtp.Building
import LinphoneSdk.Bzrtp.Parser

/-!
# The engine of a channel

The state of a channel, the part of the session it shares with the other channels, and what the state
machine does with them: creating, building and sending packets, deriving the keys, answering a Hello
message. A routine keeps the updates it made before it fails.
-/

namespace Bzrtp

open Bytes Chunks Exec

/-! ### States -/

inductive EngineState where
  | discovery_init
  | discovery_waitingForHello
  | discovery_waitingForHelloAck
  | keyAgreement_sendingCommit
  | keyAgreement_responderSendingDHPart1
  | keyAgreement_initiatorSendingDHPart2
  | confirmation_responderSendingConfirm1
  | confirmation_initiatorSendingConfirm2
  | secure
  | sending_GoClear
  | clear
  deriving DecidableEq, Repr

structure Timer where
  status : Bool
  firingTime : ℕ
  firingCount : UInt8
  timerStep : ℕ
  deriving DecidableEq, Repr

/-- A packet built by the channel. -/
structure SelfPacket (α : Type) where
  messageType : MessageType
  messageData : α
  /-- The message of the packet. -/
  message : Bytes
  built : BuiltPacket

/-- The keys derived from `s0` are those of the parser. -/
structure ChannelState extends ParserContext, ChannelContext where
  /-- `none` when the channel is not started. -/
  stateMachine : Option EngineState
  timer : Timer
  selfSSRC : UInt32
  isSecure : Bool
  isMainChannel : Bool
  isClear : Bool
  selfH : HashChain
  peerH0 : Option (Buf 32)
  peerH1 : Option (Buf 32)
  peerH2 : Option (Buf 32)
  peerH3 : Option (Buf 32)
  selfHelloBuilt : BuiltPacket
  selfCommit : Option (SelfPacket CommitMessage)
  selfDHPart : Option (SelfPacket DHPartMessage)
  selfConfirm : Option (SelfPacket ConfirmMessage)
  selfGoClear : Option (SelfPacket (Buf 8))
  peerConfirm : Option (ZrtpPacket ConfirmMessage)
  /-- Nothing stores a packet there. -/
  peerGoClear : Option (ZrtpPacket (Buf 8))
  selfSequenceNumber : UInt16
  selfMessageSequenceNumber : UInt16
  s0 : Option Bytes
  KDFContext : Option Bytes
  initiatorAuxsecretID : Buf 8
  responderAuxsecretID : Buf 8
  srtpSecrets : Option SrtpSecrets
  /-- The pointer to the SAS is left on a block that is freed. -/
  sasFreed : Bool
  cacheMismatch : Bool
  auxSecretMismatch : AuxSecretMismatch

/-- The session, as its channels share it. -/
structure ZrtpContext (P : CipherPrimitives) extends CryptoTypes, Context where
  selfZID : Buf 12
  peerZID : Buf 12
  keyAgreementContext : Option (KeyAgreementContext P.toPrimitives)
  keyAgreementAlgo : UInt8
  /-- The shared secret of the key agreement context, once it is computed. -/
  sharedSecret : Bytes
  isSecure : Bool
  selfAcceptGoClear : Bool
  peerAcceptGoClear : Bool
  timeReference : ℕ
  /-- The callback that sends a packet: does it succeed? -/
  sendData : Option (Bytes → Bool)
  cachedSecret : CachedSecret
  previouslyVerifiedSas : Bool
  peerPVS : Bool
  cacheMismatchFlag : Bool
  initiatorCachedSecretHash : CachedSecretHash
  responderCachedSecretHash : CachedSecretHash
  transientAuxSecret : Option Bytes
  ZRTPSess : Option Bytes
  ZRTPSessContext : Buf 24
  exportedKey : Option Bytes
  peerBzrtpVersion : UInt32
  /-- The callback `bzrtp_contextReadyForExportedKeys` is set. -/
  contextReadyForExportedKeys : Bool

/-- What a step of the engine gets from outside. -/
structure Environment (P : CipherPrimitives) where
  /-- Contents of a block just allocated. -/
  malloc : (n : ℕ) → Buf n
  /-- Bytes after the end of a block. -/
  outside : ℕ → UInt8
  /-- Does the crypto library create a context for this key agreement? -/
  createsContext : UInt8 → Bool
  DHSecret : P.DHSecret
  KEMSecret : P.KEMSecret
  KEMRandom : P.KEMRandom
  /-- Random numbers: nonce of a Commit message, or of a DHPart2 message. -/
  nonce : Buf 16
  CFBIV : Buf 16
  random : RandomIDs
  /-- The secrets of the peer in the cache, with the flag of the SAS. -/
  cache : CachedSecret × Bool

inductive EngineError where
  | check (exitCode : ExitCode)
  | parser (error : ParserError)
  | builder (error : BuilderError)
  | agreement (error : CryptoAgreementError)
  | INVALIDCONTEXT
  | UNABLETOCREATECRYPTOCONTEXT
  | UNSUPPORTEDZRTPVERSION
  | MULTICHANNELNOTSUPPORTEDBYPEER
  | UNMATCHINGPACKETREPETITION
  | INVALIDCLEARMAC
  | PEERDOESNTACCEPTGOCLEAR
  | CHANNELALREADYSTARTED
  | CONTEXTNOTREADY
  | HELLOHASH_MISMATCH
  /-- The exit code of the callback that sends a packet. -/
  | sendData
  /-- Not an exit code: an access through a null pointer is undefined in the source. -/
  | UNDEFINED
  deriving DecidableEq, Repr

/-- What a routine works on, with the packets sent so far. -/
structure World (P : CipherPrimitives) where
  ctx : ZrtpContext P
  ch : ChannelState
  sent : List Bytes

abbrev Engine (P : CipherPrimitives) (α : Type) : Type := EStateM EngineError (World P) α

section routines

variable {P : CipherPrimitives}

def modifyCh (f : ChannelState → ChannelState) : Engine P Unit := modify fun w => { w with ch := f w.ch }

def modifyCtx (f : ZrtpContext P → ZrtpContext P) : Engine P Unit :=
  modify fun w => { w with ctx := f w.ctx }

/-- Access through a pointer. -/
def deref {α : Type} (pointer : Option α) : Engine P α :=
  match pointer with
  | some a => pure a
  | none => throw .UNDEFINED

/-- Result of a routine on something else, as an error of the engine. -/
def orThrow {ε α : Type} (toError : ε → EngineError) (x : Except ε α) : Engine P α :=
  match x with
  | .ok a => pure a
  | .error e => throw (toError e)

/-! ### Timer -/

def HELLO_BASE_RETRANSMISSION_STEP : ℕ := 50

def HELLO_CAP_RETRANSMISSION_STEP : ℕ := 200

def HELLO_MAX_RETRANSMISSION_NUMBER : UInt8 := 20

def NON_HELLO_BASE_RETRANSMISSION_STEP : ℕ := 150

def NON_HELLO_CAP_RETRANSMISSION_STEP : ℕ := 1200

def NON_HELLO_MAX_RETRANSMISSION_NUMBER : UInt8 := 10

def CLEARACK_BASE_RETRANSMISSION_STEP : ℕ := 5000

def CLEARACK_MAX_RETRANSMISSION_NUMBER : UInt8 := 20

def timerOff : Engine P Unit := modifyCh fun ch => { ch with timer.status := false }

def timerOn (firingTime timerStep : ℕ) : Engine P Unit :=
  modifyCh fun ch => { ch with timer := ⟨true, firingTime, 0, timerStep⟩ }

/-- The timer when it fired: the next time is later and later, up to a cap, until there have been
enough retransmissions. -/
def Timer.again (timeReference : ℕ) (max : UInt8) (cap : Option ℕ) (timer : Timer) : Timer :=
  if timer.firingCount ≤ max then
    let timerStep := match cap with
      | some cap => if 2 * timer.timerStep ≤ cap then 2 * timer.timerStep else timer.timerStep
      | none => timer.timerStep
    { timer with timerStep := timerStep, firingTime := timeReference + timerStep }
  else { timer with status := false }

def timerAgain (max : UInt8) (cap : Option ℕ) : Engine P Unit :=
  modify fun w => { w with ch.timer := w.ch.timer.again w.ctx.timeReference max cap }

/-! ### Sending -/

def sendFragments (sendData : Bytes → Bool) : List FragmentPacket → Engine P Unit
  | [] => pure ()
  | fragment :: fragments => do
    let w ← get
    let packet := fragment.send w.ch.selfSequenceNumber
    modify fun w => { w with sent := w.sent ++ [packet] }
    if ¬ sendData packet then throw .sendData
    modifyCh fun ch => { ch with selfSequenceNumber := ch.selfSequenceNumber + 1 }
    sendFragments sendData fragments

def sendBuilt (messageLength : ℕ) (built : BuiltPacket) : Engine P Unit := do
  let w ← get
  match w.ctx.sendData with
  | none => throw .INVALIDCONTEXT
  | some sendData =>
    match built with
    | .whole packetString =>
      let packet := packetSetSequenceNumber ZRTP_PACKET_HEADER_LENGTH messageLength
        w.ch.selfSequenceNumber packetString
      modify fun w => { w with
        sent := w.sent ++ [packet]
        ch.selfSequenceNumber := w.ch.selfSequenceNumber + 1 }
      if ¬ sendData packet then throw .sendData
    | .fragmented fragments => sendFragments sendData fragments

def sendPacket {α : Type} (packet : SelfPacket α) : Engine P Unit :=
  sendBuilt packet.message.length packet.built

variable (env : Environment P)

/-! ### Building -/

def EngineError.ofBuilder : BuilderError → EngineError
  | .UNDEFINED => .UNDEFINED
  | e => .builder e

def buildPacket {α : Type} (t : MessageType) (messageData : α) (data : MessageData) :
    Engine P (SelfPacket α) := do
  let w ← get
  let content ← orThrow .ofBuilder (messageContent P env.outside w.ch.toParserContext w.ch.selfH t data)
  let r := packetBuild env.malloc w.ctx.toContext w.ch.selfSSRC t content
    w.ch.selfMessageSequenceNumber
  modifyCh fun ch => { ch with selfMessageSequenceNumber := r.2 }
  pure ⟨t, messageData, buildMessage t content, r.1⟩

def sendEmpty (t : MessageType) : Engine P Unit := do
  let packet ← buildPacket env t () .empty
  sendPacket packet

/-! ### Creating -/

/-- Diffie-Hellman groups and curves that the engine implements. -/
def dhAlgoOf (keyAgreementAlgo : UInt8) : Option DHAlgo :=
  if keyAgreementAlgo = ZRTP_KEYAGREEMENT_DH2k then some .DH2k
  else if keyAgreementAlgo = ZRTP_KEYAGREEMENT_DH3k then some .DH3k
  else if keyAgreementAlgo = ZRTP_KEYAGREEMENT_X255 then some .X255
  else if keyAgreementAlgo = ZRTP_KEYAGREEMENT_X448 then some .X448
  else none

/-- A cipher text or a public key in a block of zeros of the length of the public value. -/
def paddedTo (pvLength : UInt16) (value : Bytes) : Bytes := value.takeD pvLength.toNat 0

def createCommit : Engine P CommitMessage := do
  let w ← get
  let ch := w.ch
  let message : CommitMessage :=
    { H2 := ch.selfH.H2 P.toPrimitives
      ZID := w.ctx.selfZID
      hashAlgo := ch.algos.hashAlgo
      cipherAlgo := ch.algos.cipherAlgo
      authTagAlgo := ch.algos.authTagAlgo
      keyAgreementAlgo := ch.algos.keyAgreementAlgo
      sasAlgo := ch.algos.sasAlgo
      nonce := zeros 16
      keyID := zeros 8
      hvi := zeros 32
      pv := none
      MAC := zeros 8 }
  if message.keyAgreementAlgo = ZRTP_KEYAGREEMENT_Prsh ∨
      message.keyAgreementAlgo = ZRTP_KEYAGREEMENT_Mult then
    pure { message with nonce := env.nonce }
  else
    let dhPart ← deref ch.selfDHPart
    let hello ← deref ch.peerHello
    let _ ← deref ch.algos.hashFunction
    let message := { message with
      hvi := computeHvi P.toPrimitives ch.algos.hashFunction dhPart.message hello.message }
    match kemOf message.keyAgreementAlgo with
    | some algo =>
      if env.createsContext message.keyAgreementAlgo then
        modifyCtx fun ctx => { ctx with
          keyAgreementContext := some (.KEMKeyPair env.KEMSecret)
          keyAgreementAlgo := message.keyAgreementAlgo }
        pure { message with
          pv := some (paddedTo
            (computeKeyAgreementPublicValueLength P.toPrimitives message.keyAgreementAlgo .commit)
            (P.getPublicKey algo env.KEMSecret)) }
      else pure message
    | none => pure message

/-- The identifiers of the secrets in a DHPart message, those of its role. -/
def dhPartSecretIDs (w : World P) : MessageType → SecretIDs
  | .DHPart2 => ⟨w.ctx.initiatorCachedSecretHash, w.ch.initiatorAuxsecretID⟩
  | _ => ⟨w.ctx.responderCachedSecretHash, w.ch.responderAuxsecretID⟩

/-- The shared secret and the cipher text of a KEM, which does not depend on the hash. -/
def KEM_encaps (algo : KEMAlgo) (hash : Option HashAlgo) (publicKey : Bytes) : Bytes × Bytes :=
  P.encaps algo (hash.getD .S256) (publicKey.take (P.getPkSize algo)) env.KEMRandom

def createDHPart (t : MessageType) : Engine P DHPartMessage := do
  let w ← get
  let ch := w.ch
  let keyAgreementAlgo := ch.algos.keyAgreementAlgo
  let pvLength := computeKeyAgreementPublicValueLength P.toPrimitives keyAgreementAlgo t
  let message (pv : Bytes) : DHPartMessage :=
    { toSecretIDs := dhPartSecretIDs w t
      H1 := ch.selfH.H1 P.toPrimitives
      pv := pv
      MAC := zeros 8 }
  match dhAlgoOf keyAgreementAlgo, kemOf keyAgreementAlgo with
  | some algo, _ =>
    if ¬ env.createsContext keyAgreementAlgo then throw .UNABLETOCREATECRYPTOCONTEXT
    modifyCtx fun ctx => { ctx with
      keyAgreementContext := some (.DH env.DHSecret), keyAgreementAlgo := keyAgreementAlgo }
    pure (message (paddedTo pvLength (P.publicValue algo env.DHSecret)))
  | none, some algo =>
    if t = .DHPart1 then
      if ¬ env.createsContext keyAgreementAlgo then throw .UNABLETOCREATECRYPTOCONTEXT
      let commit ← deref ch.peerCommit
      let publicKey ← deref commit.messageData.pv
      let r := KEM_encaps env algo ch.algos.hashFunction publicKey
      modifyCtx fun ctx => { ctx with
        keyAgreementContext := some (.KEMEncaps env.KEMRandom)
        keyAgreementAlgo := keyAgreementAlgo
        sharedSecret := r.2 }
      pure (message (paddedTo pvLength r.1))
    else pure (message (paddedTo pvLength env.nonce.toList))
  | none, none => throw .UNABLETOCREATECRYPTOCONTEXT

def createConfirm : Engine P ConfirmMessage := do
  let w ← get
  pure
    { confirm_mac := zeros 8
      CFBIV := env.CFBIV
      H0 := w.ch.selfH.H0
      sig_len := 0
      E := false
      V := w.ctx.previouslyVerifiedSas
      A := w.ctx.selfAcceptGoClear
      D := false
      cacheExpirationInterval := 0xFFFFFFFF
      signatureBlockType := zeros 4
      signatureBlock := none }

/-! ### Keys -/

def multiStreamMessages (ch : ChannelState) : Option Bytes :=
  match ch.role with
  | .responder => ch.peerCommit.map fun commit => ch.selfHello.message ++ commit.message
  | .initiator => ch.peerHello.bind fun hello => ch.selfCommit.map fun commit =>
      hello.message ++ commit.message

/-- The messages hashed in DHM mode: Hello of the responder, Commit, DHPart1, DHPart2. -/
def dhmMessages (ch : ChannelState) : Option Bytes :=
  match ch.role with
  | .responder => ch.peerCommit.bind fun commit => ch.selfDHPart.bind fun dhPart1 =>
      ch.peerDHPart.map fun dhPart2 =>
        ch.selfHello.message ++ commit.message ++ dhPart1.message ++ dhPart2.message
  | .initiator => ch.peerHello.bind fun hello => ch.selfCommit.bind fun commit =>
      ch.peerDHPart.bind fun dhPart1 => ch.selfDHPart.map fun dhPart2 =>
        hello.message ++ commit.message ++ dhPart1.message ++ dhPart2.message

def channelZIDs (ctx : ZrtpContext P) (role : Role) : Bytes :=
  match role with
  | .responder => ctx.peerZID.toList ++ ctx.selfZID.toList
  | .initiator => ctx.selfZID.toList ++ ctx.peerZID.toList

def setKDFContext (messages : Option Bytes) : Engine P Unit := do
  let w ← get
  let messages ← deref messages
  let hash ← deref w.ch.algos.hashFunction
  let total_hash := P.hashFunction hash messages w.ch.algos.hashLength
  modifyCh fun ch => { ch with KDFContext := some (channelZIDs w.ctx ch.role ++ total_hash) }

/-- `bzrtp_keyDerivationFunction` with the MAC of the channel. -/
def derive (ch : ChannelState) (key : Option Bytes) (label : String)
    (context : Option Bytes) (length : UInt8) : Engine P Bytes := do
  let hmac ← deref ch.algos.hmacFunction
  pure (keyDerivationFunction P.toPrimitives hmac (key.getD []) (ascii label) (context.getD []) length)

def deriveChannelKeys : Engine P Unit := do
  let w ← get
  let ch := w.ch
  let mackeyi ← derive ch ch.s0 "Initiator HMAC key" ch.KDFContext ch.algos.hashLength
  let mackeyr ← derive ch ch.s0 "Responder HMAC key" ch.KDFContext ch.algos.hashLength
  let zrtpkeyi ← derive ch ch.s0 "Initiator ZRTP key" ch.KDFContext ch.algos.cipherKeyLength
  let zrtpkeyr ← derive ch ch.s0 "Responder ZRTP key" ch.KDFContext ch.algos.cipherKeyLength
  modifyCh fun ch => { ch with
    mackeyi := some mackeyi, mackeyr := some mackeyr, zrtpkeyi := some zrtpkeyi
    zrtpkeyr := some zrtpkeyr }

def computeS0MultiStream : Engine P Unit := do
  let w ← get
  setKDFContext (multiStreamMessages w.ch)
  let w ← get
  let s0 ← derive w.ch w.ctx.ZRTPSess "ZRTP MSK" w.ch.KDFContext w.ch.algos.hashLength
  modifyCh fun ch => { ch with s0 := some s0 }
  deriveChannelKeys

def channelSecretLength (ch : ChannelState) : ℕ :=
  match dhAlgoOf ch.algos.keyAgreementAlgo, kemOf ch.algos.keyAgreementAlgo with
  | some algo, _ => algo.publicValueLength
  | none, some algo => if algo.isHybrid then ch.algos.hashLength.toNat else P.kSsSize algo
  | none, none => 0

/-- The context of the session keys: both identifiers are copied at its start. -/
def sessionContext (ctx : ZrtpContext P) (role : Role) : Buf 24 :=
  let copy (ZRTPSessContext : Bytes) (ZID : Buf 12) : Bytes :=
    patch ZRTPSessContext 0 ZID.toList
  match role with
  | .initiator => bufAt (copy (copy ctx.ZRTPSessContext.toList ctx.selfZID) ctx.peerZID) 0 24
  | .responder => bufAt (copy (copy ctx.ZRTPSessContext.toList ctx.peerZID) ctx.selfZID) 0 24

def computeS0DHM : Engine P Unit := do
  let w ← get
  setKDFContext (dhmMessages w.ch)
  let w ← get
  let hash ← deref w.ch.algos.hashFunction
  let dhResult := w.ctx.sharedSecret.takeD (channelSecretLength (P := P) w.ch) 0
  let dataToHash := be32 0x00000001 ++ dhResult ++ ascii "ZRTP-HMAC-KDF" ++ w.ch.KDFContext.getD [] ++
    lengthAndSecret w.ctx.cachedSecret.s1 ++ lengthAndSecret w.ctx.cachedSecret.s2 ++
    lengthAndSecret w.ctx.cachedSecret.s3
  let s0 := P.hashFunction hash dataToHash w.ch.algos.hashLength
  modifyCh fun ch => { ch with s0 := some s0 }
  let ZRTPSess ← derive w.ch (some s0) "ZRTP Session Key" w.ch.KDFContext w.ch.algos.hashLength
  modifyCtx fun ctx => { ctx with
    ZRTPSess := some ZRTPSess
    ZRTPSessContext := sessionContext ctx w.ch.role
    keyAgreementContext := none
    keyAgreementAlgo := ZRTP_UNSET_ALGO }
  deriveChannelKeys

def deriveSrtpKeys : Engine P Unit := do
  let w ← get
  let ch := w.ch
  let saltLength : UInt8 := if ch.algos.authTagAlgo = ZRTP_AUTHTAG_GCM then 12 else 14
  let srtpkeyi ← derive ch ch.s0 "Initiator SRTP master key" ch.KDFContext ch.algos.cipherKeyLength
  let srtpsalti ← derive ch ch.s0 "Initiator SRTP master salt" ch.KDFContext saltLength
  let srtpkeyr ← derive ch ch.s0 "Responder SRTP master key" ch.KDFContext ch.algos.cipherKeyLength
  let srtpsaltr ← derive ch ch.s0 "Responder SRTP master salt" ch.KDFContext saltLength
  let secrets (sas : Option Bytes) : SrtpSecrets := match ch.role with
    | .initiator => ⟨srtpkeyi, srtpsalti, srtpkeyr, srtpsaltr, sas⟩
    | .responder => ⟨srtpkeyr, srtpsaltr, srtpkeyi, srtpsalti, sas⟩
  if ch.algos.keyAgreementAlgo = ZRTP_KEYAGREEMENT_Mult then
    modifyCh fun ch => { ch with srtpSecrets := some (secrets none) }
  else
    let sasHash ← derive ch ch.s0 "SAS" ch.KDFContext 32
    let algo ← deref ch.algos.sasFunction
    modifyCh fun ch => { ch with
      srtpSecrets := some (secrets (some (sasFunction P.toPrimitives algo (be32At sasHash 0))))
      sasFreed := false
      cacheMismatch := ch.cacheMismatch || w.ctx.cacheMismatchFlag }

/-- The update of the retained secrets, for what the channel and the session keep. -/
def forgetSecrets : Engine P Unit := do
  let w ← get
  if w.ch.algos.keyAgreementAlgo = ZRTP_KEYAGREEMENT_Mult then
    modifyCh fun ch => { ch with s0 := none }
  else if w.ctx.cacheMismatchFlag then pure ()
  else
    let _ ← deref w.ch.algos.hmacFunction
    modifyCh fun ch => { ch with s0 := none }
    modifyCtx fun ctx => { ctx with
      cachedSecret := ⟨none, none, none, none⟩
      exportedKey := if ctx.contextReadyForExportedKeys then none else ctx.exportedKey }

end routines

/-! ### Rules

What each routine changes, in a world given field by field. -/

section rules

variable {P : CipherPrimitives} {α : Type} {w : World P}

variable {Q : Unit → World P → Prop} {E : EngineError → World P → Prop}

@[simp] lemma wp_modifyCh
    (f : ChannelState → ChannelState) : wp (modifyCh f) Q E w ↔ Q () { w with ch := f w.ch } := Iff.rfl

@[simp] lemma wp_modifyCtx (f : ZrtpContext P → ZrtpContext P) :
    wp (modifyCtx f) Q E w ↔ Q () { w with ctx := f w.ctx } := Iff.rfl

@[simp] lemma wp_timerOff : wp timerOff Q E w ↔ Q () { w with ch.timer.status := false } := Iff.rfl

@[simp] lemma wp_timerOn (firingTime timerStep : ℕ) :
    wp (timerOn firingTime timerStep) Q E w ↔
      Q () { w with ch.timer := ⟨true, firingTime, 0, timerStep⟩ } := Iff.rfl

lemma wp_deref {Q : α → World P → Prop} {E : EngineError → World P → Prop} (pointer : Option α) :
    wp (deref pointer) Q E w ↔ (∀ a, pointer = some a → Q a w) ∧ (pointer = none → E .UNDEFINED w) := by
  cases pointer <;> simp [deref]

lemma wp_orThrow {ε : Type} {Q : α → World P → Prop} {E : EngineError → World P → Prop}
    (toError : ε → EngineError) (x : Except ε α) : wp (orThrow toError x) Q E w ↔
      (∀ a, x = .ok a → Q a w) ∧ (∀ e, x = .error e → E (toError e) w) := by
  cases x <;> simp [orThrow]

variable {Q : Unit → World P → Prop} {E : EngineError → World P → Prop}

/-- The callback accepts every packet. -/
def ZrtpContext.Sends (ctx : ZrtpContext P) : Prop :=
  ∃ sendData, ctx.sendData = some sendData ∧ ∀ packet, sendData packet = true

lemma wp_sendFragments {sendData : Bytes → Bool} (hsend : w.ctx.sendData = some sendData)
    (fragments : List FragmentPacket)
    (hQ : ∀ n sent, Q () { w with ch.selfSequenceNumber := n, sent := sent })
    (hE : ¬ w.ctx.Sends → ∀ e n sent, E e { w with ch.selfSequenceNumber := n, sent := sent }) :
    wp (sendFragments sendData fragments) Q E w := by
  induction fragments generalizing w with
  | nil => exact hQ w.ch.selfSequenceNumber w.sent
  | cons fragment fragments ih =>
    simp only [sendFragments, wp_bind, wp_get, wp_modify, wp_ite, wp_throw, wp_modifyCh]
    refine ⟨fun hfail => hE ?_ _ _ _, fun _ => ih hsend ?_ ?_⟩
    · rintro ⟨f, hf, haccept⟩
      rw [hsend, Option.some_inj] at hf
      exact hfail (hf ▸ haccept _)
    · exact fun n sent => hQ n sent
    · exact fun hfail e n sent => hE hfail e n sent

lemma wp_sendBuilt (messageLength : ℕ) (built : BuiltPacket)
    (hQ : ∀ n sent, Q () { w with ch.selfSequenceNumber := n, sent := sent })
    (hE : ¬ w.ctx.Sends → ∀ e n sent, E e { w with ch.selfSequenceNumber := n, sent := sent }) :
    wp (sendBuilt messageLength built) Q E w := by
  simp only [sendBuilt, wp_bind, wp_get]
  cases hsend : w.ctx.sendData with
  | none =>
    refine hE ?_ _ w.ch.selfSequenceNumber w.sent
    rintro ⟨f, hf, -⟩
    rw [hsend] at hf
    cases hf
  | some sendData =>
    cases built with
    | whole packetString =>
      simp only [wp_bind, wp_modify, wp_ite, wp_throw, wp_pure]
      refine ⟨fun hfail => hE ?_ _ _ _, fun _ => hQ _ _⟩
      rintro ⟨f, hf, haccept⟩
      rw [hsend, Option.some_inj] at hf
      exact hfail (hf ▸ haccept _)
    | fragmented fragments => exact wp_sendFragments hsend fragments hQ hE

lemma wp_sendPacket (packet : SelfPacket α)
    (hQ : ∀ n sent, Q () { w with ch.selfSequenceNumber := n, sent := sent })
    (hE : ¬ w.ctx.Sends → ∀ e n sent, E e { w with ch.selfSequenceNumber := n, sent := sent }) :
    wp (sendPacket packet) Q E w :=
  wp_sendBuilt packet.message.length packet.built hQ hE

variable (env : Environment P)

/-- Building a packet may take an identifier of fragmented message. -/
lemma wp_buildPacket {Q : SelfPacket α → World P → Prop} (t : MessageType) (messageData : α)
    (data : MessageData)
    (hQ : ∀ content built n,
      messageContent P env.outside w.ch.toParserContext w.ch.selfH t data = .ok content →
        Q ⟨t, messageData, buildMessage t content, built⟩
          { w with ch.selfMessageSequenceNumber := n })
    (hE : ∀ e, messageContent P env.outside w.ch.toParserContext w.ch.selfH t data = .error e →
      E (.ofBuilder e) w) :
    wp (buildPacket env t messageData data) Q E w := by
  simp only [buildPacket, wp_bind, wp_get, wp_orThrow, wp_modifyCh, wp_pure]
  exact ⟨fun content h => hQ content _ _ h, hE⟩

lemma wp_sendEmpty (t : MessageType)
    (hQ : ∀ m n sent, Q () { w with
      ch.selfMessageSequenceNumber := m, ch.selfSequenceNumber := n, sent := sent })
    (hE : ∀ e m n sent, E e { w with
      ch.selfMessageSequenceNumber := m, ch.selfSequenceNumber := n, sent := sent }) :
    wp (sendEmpty env t) Q E w := by
  simp only [sendEmpty, wp_bind]
  refine wp_buildPacket env t () .empty (fun content built m _ => ?_) (fun e _ => hE _ _ _ _)
  exact wp_sendPacket _ (hQ m) (fun _ e => hE e m)

/-- Creating a Commit message may make a key pair. -/
lemma wp_createCommit {Q : CommitMessage → World P → Prop}
    (hQ : ∀ message context algo,
      message.keyAgreementAlgo = w.ch.algos.keyAgreementAlgo →
        Q message { w with ctx.keyAgreementContext := context, ctx.keyAgreementAlgo := algo })
    (hE : E .UNDEFINED w) : wp (createCommit env) Q E w := by
  simp only [createCommit, wp_bind, wp_get, wp_ite, wp_pure, wp_deref]
  refine ⟨fun _ => hQ _ w.ctx.keyAgreementContext w.ctx.keyAgreementAlgo rfl, fun _ => ?_⟩
  refine ⟨fun dhPart _ => ⟨fun hello _ => ⟨fun hash _ => ?_, fun _ => hE⟩, fun _ => hE⟩, fun _ => hE⟩
  split
  · simp only [wp_ite, wp_bind, wp_modifyCtx, wp_pure]
    exact ⟨fun _ => hQ _ _ _ rfl,
      fun _ => hQ _ w.ctx.keyAgreementContext w.ctx.keyAgreementAlgo rfl⟩
  · exact hQ _ w.ctx.keyAgreementContext w.ctx.keyAgreementAlgo rfl

@[simp] lemma length_paddedTo (pvLength : UInt16) (value : Bytes) :
    (paddedTo pvLength value).length = pvLength.toNat := by
  simp [paddedTo]

lemma wp_createDHPart {Q : DHPartMessage → World P → Prop} (t : MessageType)
    (hQ : ∀ message context algo secret,
      message.pv.length =
          (computeKeyAgreementPublicValueLength P.toPrimitives w.ch.algos.keyAgreementAlgo t).toNat →
        Q message { w with
          ctx.keyAgreementContext := context
          ctx.keyAgreementAlgo := algo
          ctx.sharedSecret := secret })
    (hE : ∀ e, E e w) : wp (createDHPart env t) Q E w := by
  simp only [createDHPart, wp_bind, wp_get]
  split
  · simp only [wp_ite]
    exact ⟨fun _ => hE _, fun _ => hQ _ _ _ w.ctx.sharedSecret (length_paddedTo _ _)⟩
  · simp only [wp_ite, wp_throw, wp_bind, wp_deref, wp_modifyCtx, wp_pure]
    refine ⟨fun _ => ⟨fun _ => hE _, fun _ => ?_⟩, fun _ => ?_⟩
    · exact ⟨fun commit _ => ⟨fun publicKey _ => hQ _ _ _ _ (length_paddedTo _ _), fun _ => hE _⟩,
        fun _ => hE _⟩
    · exact hQ _ w.ctx.keyAgreementContext w.ctx.keyAgreementAlgo w.ctx.sharedSecret
        (length_paddedTo _ _)
  · exact hE _

@[simp] lemma wp_createConfirm {Q : ConfirmMessage → World P → Prop} : wp (createConfirm env) Q E w ↔
      Q { confirm_mac := zeros 8
          CFBIV := env.CFBIV
          H0 := w.ch.selfH.H0
          sig_len := 0
          E := false
          V := w.ctx.previouslyVerifiedSas
          A := w.ctx.selfAcceptGoClear
          D := false
          cacheExpirationInterval := 0xFFFFFFFF
          signatureBlockType := zeros 4
          signatureBlock := none } w := Iff.rfl

lemma wp_derive {Q : Bytes → World P → Prop} (ch : ChannelState) (key : Option Bytes)
    (label : String) (context : Option Bytes) (length : UInt8) (hQ : ∀ x, Q x w)
    (hE : ch.algos.hmacFunction = none → E .UNDEFINED w) : wp (derive ch key label context length) Q E w := by
  simp only [derive, wp_bind, wp_deref, wp_pure]
  exact ⟨fun _ _ => hQ _, hE⟩

lemma wp_setKDFContext (messages : Option Bytes)
    (hQ : ∀ m hash, messages = some m → w.ch.algos.hashFunction = some hash →
      Q () { w with
        ch.KDFContext :=
          some (channelZIDs w.ctx w.ch.role ++ P.hashFunction hash m w.ch.algos.hashLength) })
    (hE : messages = none ∨ w.ch.algos.hashFunction = none → E .UNDEFINED w) :
    wp (setKDFContext messages) Q E w := by
  simp only [setKDFContext, wp_bind, wp_get, wp_deref, wp_modifyCh]
  exact ⟨fun m hm => ⟨fun hash hhash => hQ m hash hm hhash, fun h => hE (.inr h)⟩,
    fun h => hE (.inl h)⟩

lemma wp_deriveChannelKeys (hQ : ∀ a b c d, Q () { w with
      ch.mackeyi := some a, ch.mackeyr := some b, ch.zrtpkeyi := some c, ch.zrtpkeyr := some d })
    (hE : w.ch.algos.hmacFunction = none → E .UNDEFINED w) : wp deriveChannelKeys Q E w := by
  simp only [deriveChannelKeys, wp_bind, wp_get, wp_modifyCh]
  refine wp_derive _ _ _ _ _ (fun _ => ?_) hE
  refine wp_derive _ _ _ _ _ (fun _ => ?_) hE
  refine wp_derive _ _ _ _ _ (fun _ => ?_) hE
  exact wp_derive _ _ _ _ _ (fun _ => hQ _ _ _ _) hE

/-- The derivation of the keys in Multistream mode. -/
lemma wp_computeS0MultiStream
    (hQ : ∀ m hash s0 a b c d, multiStreamMessages w.ch = some m → w.ch.algos.hashFunction = some hash →
      Q () { w with
        ch.KDFContext :=
          some (channelZIDs w.ctx w.ch.role ++ P.hashFunction hash m w.ch.algos.hashLength)
        ch.s0 := some s0
        ch.mackeyi := some a
        ch.mackeyr := some b
        ch.zrtpkeyi := some c
        ch.zrtpkeyr := some d })
    (hE : ∀ w', multiStreamMessages w.ch = none ∨ w.ch.algos.hashFunction = none ∨
      w.ch.algos.hmacFunction = none → E .UNDEFINED w') : wp computeS0MultiStream Q E w := by
  simp only [computeS0MultiStream, wp_bind, wp_get]
  refine wp_setKDFContext _ (fun m hash hm hhash => ?_) (fun h => hE _ ?_)
  · refine wp_derive _ _ _ _ _ (fun s0 => ?_) (fun h => hE _ (.inr (.inr h)))
    simp only [wp_modifyCh]
    exact wp_deriveChannelKeys (fun a b c d => hQ m hash s0 a b c d hm hhash)
      (fun h => hE _ (.inr (.inr h)))
  · rcases h with h | h
    · exact .inl h
    · exact .inr (.inl h)

/-- A key is derived in DHM mode, with this context. -/
def IsDHMKey (P : Primitives) (s0 KDFContext : Bytes) : Prop :=
  ∃ hash dhResult s1 s2 s3 length, s0 = P.hashFunction hash
    (be32 0x00000001 ++ dhResult ++ ascii "ZRTP-HMAC-KDF" ++ KDFContext ++ lengthAndSecret s1 ++
      lengthAndSecret s2 ++ lengthAndSecret s3) length

/-- The derivation of the keys in DHM mode. -/
lemma wp_computeS0DHM (hQ : ∀ m hash ctx s0 a b c d, dhmMessages w.ch = some m → w.ch.algos.hashFunction = some hash →
      ctx.ZRTPSess.isSome → ctx.exportedKey = w.ctx.exportedKey → w.ch.algos.hmacFunction.isSome →
      IsDHMKey P.toPrimitives s0
        (channelZIDs w.ctx w.ch.role ++ P.hashFunction hash m w.ch.algos.hashLength) →
      Q () { w with
        ctx := ctx
        ch.KDFContext :=
          some (channelZIDs w.ctx w.ch.role ++ P.hashFunction hash m w.ch.algos.hashLength)
        ch.s0 := some s0
        ch.mackeyi := some a
        ch.mackeyr := some b
        ch.zrtpkeyi := some c
        ch.zrtpkeyr := some d })
    (hE : ∀ w', E .UNDEFINED w') : wp computeS0DHM Q E w := by
  simp only [computeS0DHM, wp_bind, wp_get]
  refine wp_setKDFContext _ (fun m hash hm hhash => ?_) (fun _ => hE _)
  simp only [wp_deref, wp_modifyCh, wp_modifyCtx]
  refine ⟨fun hash' _ => ?_, fun _ => hE _⟩
  rw [derive, wp_bind, wp_deref]
  refine ⟨fun hmac hhmac => ?_, fun _ => hE _⟩
  refine wp_deriveChannelKeys (fun a b c d => hQ m hash _ _ a b c d hm hhash rfl rfl ?_ ?_) (fun _ => hE _)
  · exact Option.isSome_iff_exists.mpr ⟨hmac, hhmac⟩
  · exact ⟨hash', _, _, _, _, _, rfl⟩

lemma wp_deriveSrtpKeys (hQ : ∀ secrets freed mismatch, Q () { w with
      ch.srtpSecrets := some secrets, ch.sasFreed := freed, ch.cacheMismatch := mismatch })
    (hE : E .UNDEFINED w) : wp deriveSrtpKeys Q E w := by
  simp only [deriveSrtpKeys, wp_bind, wp_get]
  refine wp_derive _ _ _ _ _ (fun _ => ?_) (fun _ => hE)
  refine wp_derive _ _ _ _ _ (fun _ => ?_) (fun _ => hE)
  refine wp_derive _ _ _ _ _ (fun _ => ?_) (fun _ => hE)
  refine wp_derive _ _ _ _ _ (fun _ => ?_) (fun _ => hE)
  simp only [wp_ite, wp_modifyCh, wp_bind]
  refine ⟨fun _ => hQ _ w.ch.sasFreed w.ch.cacheMismatch, fun _ => ?_⟩
  refine wp_derive _ _ _ _ _ (fun _ => ?_) (fun _ => hE)
  simp only [wp_deref]
  exact ⟨fun _ _ => hQ _ _ _, fun _ => hE⟩

lemma wp_forgetSecrets (hQ : ∀ s0 secrets key, s0 = none ∨ s0 = w.ch.s0 → key = none ∨ key = w.ctx.exportedKey →
      Q () { w with ch.s0 := s0, ctx.cachedSecret := secrets, ctx.exportedKey := key })
    (hE : E .UNDEFINED w) : wp forgetSecrets Q E w := by
  simp only [forgetSecrets, wp_bind, wp_get, wp_ite, wp_modifyCh, wp_modifyCtx, wp_pure, wp_deref]
  refine ⟨fun _ => hQ none w.ctx.cachedSecret w.ctx.exportedKey (.inl rfl) (.inr rfl), fun _ =>
    ⟨fun _ => hQ w.ch.s0 w.ctx.cachedSecret w.ctx.exportedKey (.inr rfl) (.inr rfl), fun _ => ?_⟩⟩
  refine ⟨fun _ _ => hQ none _ _ (.inl rfl) ?_, fun _ => hE⟩
  split_ifs
  · exact .inl rfl
  · exact .inr rfl

end rules

end Bzrtp
