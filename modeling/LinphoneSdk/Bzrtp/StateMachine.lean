import LinphoneSdk.Bzrtp.Engine

/-!
# The state machine of a channel

The state functions of a channel, on the messages accepted by `bzrtp_packetCheck`, the timer and the
requests of the user, then the functions of the library that call them. A state function that does
something to every channel of the session does it here to its own; what the other channels do to this
one are calls of their own.
-/

namespace Bzrtp

open Bytes Chunks Exec Reading

section handlers

variable {P : CipherPrimitives} (env : Environment P)

/-! ### Common parts -/

def unexpectedMessage {α : Type} : Engine P α := throw (.parser .UNEXPECTEDMESSAGE)

def setState (s : EngineState) : Engine P Unit := modifyCh fun ch => { ch with stateMachine := some s }

def setSequenceNumber (zrtpPacket : Packet) : Engine P Unit :=
  modifyCh fun ch => { ch with peerSequenceNumber := zrtpPacket.sequenceNumber }

variable (zrtpPacket : Packet) (input : Bytes)

def parsePacket : Engine P MessageData := do
  let w ← get
  orThrow .parser
    (packetParser P w.ch.toParserContext zrtpPacket env.outside ⟨input, env.outside⟩).result

def checkRepetition {α : Type} (stored : Option (ZrtpPacket α)) (zrtpPacket : Packet)
    (input : Bytes) : Engine P Unit := do
  let stored ← deref stored
  if stored.messageLength ≠ zrtpPacket.messageLength then throw .UNMATCHINGPACKETREPETITION
  let length := stored.messageLength.toNat
  if (⟨input, env.outside⟩ : Block).read ZRTP_PACKET_HEADER_LENGTH length ≠
      (⟨stored.packetString, env.outside⟩ : Block).read ZRTP_PACKET_HEADER_LENGTH length then
    throw .UNMATCHINGPACKETREPETITION

/-! ### First calls -/

def discovery_init_first : Engine P Unit := do
  timerOn 0 HELLO_BASE_RETRANSMISSION_STEP
  modifyCh fun ch => { ch with selfSequenceNumber := ch.selfSequenceNumber + 1 }

def sendingCommit_first : Engine P Unit := do
  let w ← get
  if w.ch.selfCommit.isNone then
    let message ← createCommit env
    -- the exit code returned then is the one of the creation
    let packet ← tryCatch (some <$> buildPacket env .commit message (.commit message)) fun e =>
      match e with
      | .builder _ => pure none
      | e => throw e
    match packet with
    | none => pure ()
    | some packet =>
      modifyCh fun ch => { ch with selfCommit := some packet }
      timerOn (w.ctx.timeReference + NON_HELLO_BASE_RETRANSMISSION_STEP)
        NON_HELLO_BASE_RETRANSMISSION_STEP
      sendPacket packet

def responderSendingDHPart1_first : Engine P Unit := do
  let w ← get
  match w.ch.selfDHPart with
  | none => throw .INVALIDCONTEXT
  | some packet =>
    timerOff
    sendPacket packet

def initiatorSendingDHPart2_first : Engine P Unit := do
  let w ← get
  timerOn (w.ctx.timeReference + NON_HELLO_BASE_RETRANSMISSION_STEP)
    NON_HELLO_BASE_RETRANSMISSION_STEP
  let packet ← deref w.ch.selfDHPart
  sendPacket packet

def responderSendingConfirm1_first : Engine P Unit := do
  let w ← get
  if w.ch.algos.keyAgreementAlgo = ZRTP_KEYAGREEMENT_Mult then
    if w.ctx.ZRTPSess.isNone then throw .INVALIDCONTEXT
    computeS0MultiStream
  else if w.ch.algos.keyAgreementAlgo = ZRTP_KEYAGREEMENT_Prsh then pure ()
  else if w.ch.mackeyr.isNone ∨ w.ch.zrtpkeyr.isNone then throw .INVALIDCONTEXT
  timerOff
  let message ← createConfirm env
  let packet ← buildPacket env .confirm1 message (.confirm message)
  modifyCh fun ch => { ch with selfConfirm := some packet }
  sendPacket packet

def initiatorSendingConfirm2_first : Engine P Unit := do
  let w ← get
  if w.ch.mackeyi.isNone ∨ w.ch.zrtpkeyi.isNone then throw .INVALIDCONTEXT
  let message ← createConfirm env
  let packet ← buildPacket env .confirm2 message (.confirm message)
  modifyCh fun ch => { ch with selfConfirm := some packet }
  deriveSrtpKeys
  sendPacket packet
  modifyCh fun ch => { ch with selfSequenceNumber := ch.selfSequenceNumber + 1 }
  timerOn (w.ctx.timeReference + NON_HELLO_BASE_RETRANSMISSION_STEP)
    NON_HELLO_BASE_RETRANSMISSION_STEP

def secure_first : Engine P Unit := do
  timerOff
  modify fun w => { w with
    ctx.isSecure := w.ctx.isSecure || w.ch.algos.keyAgreementAlgo != ZRTP_KEYAGREEMENT_Mult
    ch.isSecure := true }

def clearMac (ch : ChannelState) (role : Role) : Engine P (Buf 8) := do
  let hash ← deref ch.algos.hmacFunction
  let macKey ← deref (match role with
    | .initiator => ch.mackeyi
    | .responder => ch.mackeyr)
  pure (hmac8 P.toPrimitives hash (macKey.take ch.algos.hashLength.toNat) (ascii "GoClear "))

def sending_GoClear_first : Engine P Unit := do
  let w ← get
  let clear_mac ← clearMac w.ch w.ch.role
  let packet ← buildPacket env .goClear clear_mac (.goClear clear_mac)
  modifyCh fun ch => { ch with selfGoClear := some packet }
  sendPacket packet
  timerOn (w.ctx.timeReference + NON_HELLO_BASE_RETRANSMISSION_STEP)
    NON_HELLO_BASE_RETRANSMISSION_STEP

def clear_first : Engine P Unit := modifyCh fun ch => { ch with isClear := true, role := .initiator }

/-! ### Hello -/

/-- The identifiers of the retained secrets, with the hash selected. -/
def setSecretHashes (hash : HashAlgo) (H3 : Buf 32) : Engine P Unit := do
  modifyCtx fun ctx => if ctx.cachedSecret.rs1.isNone then
    { ctx with cachedSecret := env.cache.1, previouslyVerifiedSas := env.cache.2 } else ctx
  modifyCtx fun ctx => { ctx with
    initiatorCachedSecretHash := cachedSecretHash P.toPrimitives hash .initiator
      env.random.initiator.toCachedSecretHash ctx.cachedSecret
    responderCachedSecretHash := cachedSecretHash P.toPrimitives hash .responder
      env.random.responder.toCachedSecretHash ctx.cachedSecret
    cachedSecret.auxsecret := match ctx.transientAuxSecret with
      | none => ctx.cachedSecret.auxsecret
      | some secret => some (ctx.cachedSecret.auxsecret.getD [] ++ secret) }
  modify fun w => { w with
    ch.initiatorAuxsecretID := w.ctx.cachedSecret.auxsecret.elim env.random.initiator.auxsecretID
      fun secret => hmac8 P.toPrimitives hash secret (w.ch.selfH.H3 P.toPrimitives).toList
    ch.responderAuxsecretID := w.ctx.cachedSecret.auxsecret.elim env.random.responder.auxsecretID
      fun secret => hmac8 P.toPrimitives hash secret H3.toList }

/-- Run a routine on the algorithms of the channel. -/
def onAlgos (m : EStateM CryptoAgreementError ChannelAlgos Unit) : Engine P Unit := do
  let w ← get
  match m w.ch.algos with
  | .ok _ algos => modifyCh fun ch => { ch with algos := algos }
  | .error e algos => do
    modifyCh fun ch => { ch with algos := algos }
    throw (.agreement e)

/-- The version of the library of the peer, from the string that its Hello message gives. -/
def peerBzrtpVersion (clientIdentifier : Buf 16) : UInt32 :=
  let clientIdentifier := clientIdentifier.toList.takeWhile (· ≠ 0)
  if clientIdentifier = ascii "LINPHONE-ZRTPCPP" ∨ clientIdentifier = ascii "BZRTP" then 0x010000
  else if clientIdentifier = ascii "BZRTPv1.1" then 0x010100
  else 0

def responseToHelloMessage (zrtpPacket : ZrtpPacket HelloMessage) : Engine P Unit := do
  let helloMessage := zrtpPacket.messageData
  if helloMessage.version.toList.take 3 ≠ ascii "1.1" then throw .UNSUPPORTEDZRTPVERSION
  let w ← get
  onAlgos (ChannelAlgos.cryptoAlgoAgreement w.ctx.toCryptoTypes helloMessage.toCryptoTypes)
  modifyCtx fun ctx => { ctx with peerZID := helloMessage.ZID }
  modifyCh fun ch => { ch with peerH3 := some helloMessage.H3, peerHello := some zrtpPacket }
  modifyCtx fun ctx => { ctx with peerBzrtpVersion := peerBzrtpVersion helloMessage.clientIdentifier }
  if ¬ w.ch.isMainChannel ∧ w.ctx.ZRTPSess.isSome then
    if ZRTP_KEYAGREEMENT_Mult ∈ helloMessage.supportedKeyAgreement then
      modifyCh fun ch => { ch with algos.keyAgreementAlgo := ZRTP_KEYAGREEMENT_Mult }
    -- the packet is freed, but the channel still has it
    else throw .MULTICHANNELNOTSUPPORTEDBYPEER
  else
    let w ← get
    let hash ← deref w.ch.algos.hmacFunction
    setSecretHashes env hash helloMessage.H3
  let w ← get
  if w.ch.algos.keyAgreementAlgo ≠ ZRTP_KEYAGREEMENT_Prsh ∧ w.ch.algos.keyAgreementAlgo ≠ ZRTP_KEYAGREEMENT_Mult then
    let message ← createDHPart env .DHPart2
    let packet ← buildPacket env .DHPart2 message (.dhPart message)
    modifyCh fun ch => { ch with selfDHPart := some packet }
  sendEmpty env .helloACK

/-! ### Responder -/

/-- The DHPart2 message made for a Diffie-Hellman exchange is the DHPart1 one of the responder, with
the identifiers of its role. -/
def turnIntoDHPart1 (w : World P) (message : DHPartMessage) : DHPartMessage :=
  { message with toSecretIDs := ⟨w.ctx.responderCachedSecretHash, w.ch.responderAuxsecretID⟩ }

/-- The self DHPart packet, when there is one, is rebuilt for the responder. -/
def rebuildDHPart : Engine P Unit := do
  let w ← get
  match w.ch.selfDHPart with
  | none => pure ()
  | some dhPart =>
    modifyCh fun ch => { ch with
      initiatorAuxsecretID := ch.responderAuxsecretID
      responderAuxsecretID := ch.initiatorAuxsecretID }
    if isKem w.ch.algos.keyAgreementAlgo then
      modifyCtx fun ctx => { ctx with keyAgreementContext := none }
      modifyCh fun ch => { ch with selfDHPart := none }
      let message ← createDHPart env .DHPart1
      let packet ← buildPacket env .DHPart1 message (.dhPart message)
      modifyCh fun ch => { ch with selfDHPart := some packet }
    else
      let w ← get
      let message := turnIntoDHPart1 w dhPart.messageData
      -- the packet string is freed
      modifyCh fun ch => { ch with selfDHPart := some ⟨.DHPart1, message, [], .whole []⟩ }
      let packet ← buildPacket env .DHPart1 message (.dhPart message)
      modifyCh fun ch => { ch with selfDHPart := some packet }

/-- The algorithms of the Commit message become those of the channel. The exit code of
`bzrtp_updateCryptoFunctionPointers` is ignored. -/
def takeAlgos (commitMessage : CommitMessage) (algos : ChannelAlgos) : ChannelAlgos :=
  let algos := { algos with
    hashAlgo := commitMessage.hashAlgo
    cipherAlgo := commitMessage.cipherAlgo
    authTagAlgo := commitMessage.authTagAlgo
    keyAgreementAlgo := commitMessage.keyAgreementAlgo
    sasAlgo := commitMessage.sasAlgo }
  match ChannelAlgos.updateCryptoFunctionPointers algos with
  | .ok _ algos => algos
  | .error _ algos => algos

def turnIntoResponder (zrtpPacket : ZrtpPacket CommitMessage) : Engine P Unit := do
  let commitMessage := zrtpPacket.messageData
  timerOff
  modifyCh fun ch => { ch with
    peerCommit := some zrtpPacket
    peerH2 := some commitMessage.H2
    role := .responder
    algos := takeAlgos commitMessage ch.algos }
  rebuildDHPart env
  if commitMessage.keyAgreementAlgo = ZRTP_KEYAGREEMENT_Prsh ∨
      commitMessage.keyAgreementAlgo = ZRTP_KEYAGREEMENT_Mult then
    setState .confirmation_responderSendingConfirm1
    responderSendingConfirm1_first env
  else
    setState .keyAgreement_responderSendingDHPart1
    responderSendingDHPart1_first

/-! ### DHPart -/

/-- The check of the retained secrets, when the DHPart message of the peer arrives. -/
def checkCachedSecrets (role : Role) (message : DHPartMessage) : Engine P Unit := do
  let w ← get
  let own : SecretIDs := match role with
    | .initiator => ⟨w.ctx.responderCachedSecretHash, w.ch.responderAuxsecretID⟩
    | .responder => ⟨w.ctx.initiatorCachedSecretHash, w.ch.initiatorAuxsecretID⟩
  let kept := checkSecrets role own message.toSecretIDs
    ⟨w.ctx.cachedSecret, w.ctx.cacheMismatchFlag, w.ch.auxSecretMismatch⟩
  modify fun w => { w with
    ctx.cachedSecret := kept.cachedSecret
    ctx.cacheMismatchFlag := kept.cacheMismatchFlag
    ctx.previouslyVerifiedSas := w.ctx.previouslyVerifiedSas && !kept.cacheMismatchFlag
    ch.auxSecretMismatch := kept.auxSecretMismatch }

/-- The shared secret, when the DHPart message of the peer arrives. -/
def computeSharedSecret (role : Role) (pv : Bytes) : Engine P Unit := do
  let w ← get
  match dhAlgoOf w.ctx.keyAgreementAlgo, kemOf w.ctx.keyAgreementAlgo, w.ctx.keyAgreementContext with
  | some algo, _, some (.DH secret) =>
    let peer := (⟨pv, env.outside⟩ : Block).read 0 algo.publicValueLength
    modifyCtx fun ctx => { ctx with sharedSecret := P.computeSecret algo secret peer }
  | some _, _, _ => throw .UNDEFINED
  | none, some algo, some (.KEMKeyPair secret) =>
    -- the responder of a KEM has its secret since the Commit message
    if role = .initiator then
      let hash ← deref w.ch.algos.hashFunction
      let cipherText := (⟨pv, env.outside⟩ : Block).read 0 (P.getCtSize algo)
      modifyCtx fun ctx => { ctx with sharedSecret := P.decaps algo hash secret cipherText }
  | _, _, _ => pure ()

def takeDHPart (role : Role) (zrtpPacket : ZrtpPacket DHPartMessage) : Engine P Unit := do
  modifyCh fun ch => { ch with
    peerH1 := some zrtpPacket.messageData.H1, peerDHPart := some zrtpPacket }
  computeSharedSecret env role zrtpPacket.messageData.pv
  computeS0DHM

def takeConfirm (zrtpPacket : ZrtpPacket ConfirmMessage) : Engine P Unit := do
  let message := zrtpPacket.messageData
  modify fun w => { w with
    ch.peerH0 := some message.H0
    ch.peerConfirm := some zrtpPacket
    ctx.peerAcceptGoClear := if w.ch.isMainChannel then message.A else w.ctx.peerAcceptGoClear
    ctx.peerPVS := if w.ch.algos.keyAgreementAlgo ≠ ZRTP_KEYAGREEMENT_Mult then message.V
      else w.ctx.peerPVS }

/-! ### Commit contention -/

/-- `memcmp` of buffers of the same length is negative. -/
def memcmpLt {n : ℕ} (a b : Buf n) : Prop := a.toList < b.toList

instance {n : ℕ} (a b : Buf n) : Decidable (memcmpLt a b) :=
  inferInstanceAs (Decidable (a.toList < b.toList))

/-- Does the contention of two Commit messages turn a side into a responder? -/
def losesContention (selfHello peerHello : HelloMessage) (selfCommit peerCommit : CommitMessage) : Prop :=
  if peerCommit.keyAgreementAlgo ≠ selfCommit.keyAgreementAlgo then
    peerCommit.keyAgreementAlgo ≠ ZRTP_KEYAGREEMENT_Prsh ∧ selfCommit.keyAgreementAlgo = ZRTP_KEYAGREEMENT_Prsh
  else if peerCommit.keyAgreementAlgo = ZRTP_KEYAGREEMENT_Prsh ∧ (selfHello.M ∨ peerHello.M) then
    selfHello.M = true
  else if selfCommit.keyAgreementAlgo = ZRTP_KEYAGREEMENT_Prsh ∨
      selfCommit.keyAgreementAlgo = ZRTP_KEYAGREEMENT_Mult then
    memcmpLt selfCommit.nonce peerCommit.nonce
  else memcmpLt selfCommit.hvi peerCommit.hvi

instance (selfHello peerHello : HelloMessage) (selfCommit peerCommit : CommitMessage) :
    Decidable (losesContention selfHello peerHello selfCommit peerCommit) := by
  unfold losesContention
  infer_instance

def contention (zrtpPacket : ZrtpPacket CommitMessage) : Engine P Unit := do
  let w ← get
  let selfCommit ← deref w.ch.selfCommit
  let peerHello ← deref w.ch.peerHello
  if losesContention w.ch.selfHello.messageData peerHello.messageData selfCommit.messageData
      zrtpPacket.messageData then modifyCh fun ch => { ch with role := .responder }
  let w ← get
  if w.ch.role = .responder then
    modifyCh fun ch => { ch with selfCommit := none }
    turnIntoResponder env zrtpPacket

/-! ### GoClear -/

/-- Key material and flag of a channel when the session goes clear. -/
def destroyKeyMaterial : Engine P Unit := do
  let w ← get
  -- the SAS would be freed twice
  if w.ch.sasFreed then throw .UNDEFINED
  modifyCh fun ch => { ch with
    isSecure := false
    s0 := none
    KDFContext := none
    mackeyi := none
    mackeyr := none
    zrtpkeyi := none
    zrtpkeyr := none
    srtpSecrets := none }

/-- The session goes clear. -/
def goClear (ch : ChannelState) : Engine P Unit := do
  destroyKeyMaterial
  let w ← get
  let ZRTPSess ← deref w.ctx.ZRTPSess
  let ZRTPSess ← derive ch (some ZRTPSess) "New ZRTP Session" (some w.ctx.ZRTPSessContext.toList)
    ch.algos.hashLength
  modifyCtx fun ctx => { ctx with ZRTPSess := some ZRTPSess }

/-- Check the MAC of a GoClear message of the peer. The parser, whose outcome the source ignores here, does not fail on
such a message. -/
def checkClearMac : Engine P Unit := do
  let data ← parsePacket env zrtpPacket input
  let w ← get
  let computedClearMAC ← clearMac w.ch w.ch.role.other
  if data ≠ .goClear computedClearMAC then throw .INVALIDCLEARMAC

def deletePackets (ch : ChannelState) : ChannelState :=
  { ch with
    selfCommit := none
    peerCommit := none
    selfDHPart := none
    peerDHPart := none
    selfConfirm := none
    peerConfirm := none
    selfGoClear := none
    peerGoClear := none }

/-- The channel negotiates again, in Multistream mode. -/
def restartInMult : Engine P Unit := do
  modifyCh fun ch => { ch with
    algos.keyAgreementAlgo := ZRTP_KEYAGREEMENT_Mult
    isClear := false
    stateMachine := some .keyAgreement_sendingCommit }
  sendingCommit_first env

/-! ### Messages -/

def discovery_init_message : Engine P Unit := do
  if zrtpPacket.messageType ≠ .hello ∧ zrtpPacket.messageType ≠ .helloACK then unexpectedMessage
  let data ← parsePacket env zrtpPacket input
  setSequenceNumber zrtpPacket
  match data with
  | .hello message =>
    responseToHelloMessage env ⟨zrtpPacket, message, input⟩
    timerOn 0 HELLO_BASE_RETRANSMISSION_STEP
    setState .discovery_waitingForHelloAck
  | _ =>
    timerOff
    setState .discovery_waitingForHello

def discovery_waitingForHello_message : Engine P Unit := do
  if zrtpPacket.messageType ≠ .hello then unexpectedMessage
  let data ← parsePacket env zrtpPacket input
  setSequenceNumber zrtpPacket
  match data with
  | .hello message =>
    responseToHelloMessage env ⟨zrtpPacket, message, input⟩
    setState .keyAgreement_sendingCommit
    sendingCommit_first env
  | _ => throw .UNDEFINED

def discovery_waitingForHelloAck_message : Engine P Unit := do
  if zrtpPacket.messageType = .hello then
    let w ← get
    checkRepetition env w.ch.peerHello zrtpPacket input
    setSequenceNumber zrtpPacket
    sendEmpty env .helloACK
  else
    if zrtpPacket.messageType ≠ .helloACK ∧ zrtpPacket.messageType ≠ .commit then unexpectedMessage
    let data ← parsePacket env zrtpPacket input
    setSequenceNumber zrtpPacket
    match data with
    | .commit message => turnIntoResponder env ⟨zrtpPacket, message, input⟩
    | _ =>
      timerOff
      setState .keyAgreement_sendingCommit
      sendingCommit_first env

def keyAgreement_sendingCommit_message : Engine P Unit := do
  let w ← get
  let ka := w.ch.algos.keyAgreementAlgo
  let t := zrtpPacket.messageType
  if t ≠ .commit ∧ t ≠ .DHPart1 ∧ t ≠ .confirm1 then unexpectedMessage
  -- the test is made twice, and never with Mult
  if t = .DHPart1 ∧ (ka = ZRTP_KEYAGREEMENT_Prsh ∨ ka = ZRTP_KEYAGREEMENT_Prsh) then
    unexpectedMessage
  if t = .confirm1 ∧ ka ≠ ZRTP_KEYAGREEMENT_Prsh ∧ ka ≠ ZRTP_KEYAGREEMENT_Mult then unexpectedMessage
  if t = .confirm1 ∧ ka = ZRTP_KEYAGREEMENT_Mult then computeS0MultiStream
  let data ← parsePacket env zrtpPacket input
  setSequenceNumber zrtpPacket
  match data with
  | .dhPart message =>
    timerOff
    checkCachedSecrets .initiator message
    takeDHPart env .initiator ⟨zrtpPacket, message, input⟩
    setState .keyAgreement_initiatorSendingDHPart2
    initiatorSendingDHPart2_first
  | .confirm message =>
    timerOff
    modifyCh fun ch => { ch with
      peerH0 := some message.H0, peerConfirm := some ⟨zrtpPacket, message, input⟩ }
    setState .confirmation_initiatorSendingConfirm2
    initiatorSendingConfirm2_first env
  | .commit message => contention env ⟨zrtpPacket, message, input⟩
  | _ => throw .UNDEFINED

def keyAgreement_responderSendingDHPart1_message : Engine P Unit := do
  let w ← get
  match w.ch.selfDHPart with
  | none => throw .INVALIDCONTEXT
  | some packet =>
    if zrtpPacket.messageType = .commit then
      checkRepetition env w.ch.peerCommit zrtpPacket input
      setSequenceNumber zrtpPacket
      sendPacket packet
    else
      if zrtpPacket.messageType ≠ .DHPart2 then unexpectedMessage
      let data ← parsePacket env zrtpPacket input
      match data with
      | .dhPart message =>
        checkCachedSecrets .responder message
        setSequenceNumber zrtpPacket
        takeDHPart env .responder ⟨zrtpPacket, message, input⟩
        setState .confirmation_responderSendingConfirm1
        responderSendingConfirm1_first env
      | _ => throw .UNDEFINED

def keyAgreement_initiatorSendingDHPart2_message : Engine P Unit := do
  if zrtpPacket.messageType = .DHPart1 then
    let w ← get
    checkRepetition env w.ch.peerDHPart zrtpPacket input
    setSequenceNumber zrtpPacket
  else
    if zrtpPacket.messageType ≠ .confirm1 then unexpectedMessage
    let data ← parsePacket env zrtpPacket input
    match data with
    | .confirm message =>
      timerOff
      takeConfirm ⟨zrtpPacket, message, input⟩
      setSequenceNumber zrtpPacket
      setState .confirmation_initiatorSendingConfirm2
      initiatorSendingConfirm2_first env
    | _ => throw .UNDEFINED

def confirmation_responderSendingConfirm1_message : Engine P Unit := do
  let w ← get
  let isDHM : Bool := w.ch.algos.keyAgreementAlgo ≠ ZRTP_KEYAGREEMENT_Prsh ∧
    w.ch.algos.keyAgreementAlgo ≠ ZRTP_KEYAGREEMENT_Mult
  if zrtpPacket.messageType = .commit then
    if isDHM then unexpectedMessage
    checkRepetition env w.ch.peerCommit zrtpPacket input
    setSequenceNumber zrtpPacket
    let packet ← deref w.ch.selfConfirm
    sendPacket packet
  else if zrtpPacket.messageType = .DHPart2 then
    if ¬ isDHM then unexpectedMessage
    checkRepetition env w.ch.peerDHPart zrtpPacket input
    setSequenceNumber zrtpPacket
    let packet ← deref w.ch.selfConfirm
    sendPacket packet
  else
    if zrtpPacket.messageType ≠ .confirm2 then unexpectedMessage
    let data ← parsePacket env zrtpPacket input
    match data with
    | .confirm message =>
      takeConfirm ⟨zrtpPacket, message, input⟩
      setSequenceNumber zrtpPacket
      deriveSrtpKeys
      forgetSecrets
      sendEmpty env .conf2ACK
      setState .secure
      secure_first
    | _ => throw .UNDEFINED

def confirmation_initiatorSendingConfirm2_message : Engine P Unit := do
  if zrtpPacket.messageType = .confirm1 then
    let w ← get
    checkRepetition env w.ch.peerConfirm zrtpPacket input
    setSequenceNumber zrtpPacket
  else
    if zrtpPacket.messageType ≠ .conf2ACK then unexpectedMessage
    let _ ← parsePacket env zrtpPacket input
    timerOff
    forgetSecrets
    setState .secure
    secure_first

def secure_message : Engine P Unit := do
  let w ← get
  if zrtpPacket.messageType = .confirm2 then
    checkRepetition env w.ch.peerConfirm zrtpPacket input
    setSequenceNumber zrtpPacket
    sendEmpty env .conf2ACK
  else
    if ¬ (zrtpPacket.messageType = .goClear ∧ w.ctx.selfAcceptGoClear) then unexpectedMessage
    checkClearMac env zrtpPacket input
    sendEmpty env .clearACK
    goClear w.ch
    timerOn (w.ctx.timeReference + CLEARACK_BASE_RETRANSMISSION_STEP) CLEARACK_BASE_RETRANSMISSION_STEP
    setState .clear
    clear_first

def sending_GoClear_message : Engine P Unit := do
  let w ← get
  if zrtpPacket.messageType = .clearACK then
    timerOff
    goClear w.ch
    setState .clear
    clear_first
  else
    if zrtpPacket.messageType ≠ .goClear then unexpectedMessage
    if w.ch.peerGoClear.isNone then checkClearMac env zrtpPacket input
    else checkRepetition env w.ch.peerGoClear zrtpPacket input
    setSequenceNumber zrtpPacket
    sendEmpty env .clearACK

def clear_message : Engine P Unit := do
  if zrtpPacket.messageType ≠ .commit then unexpectedMessage
  let data ← parsePacket env zrtpPacket input
  match data with
  | .commit message =>
    modifyCh fun ch => { deletePackets ch with isClear := false }
    setSequenceNumber zrtpPacket
    turnIntoResponder env ⟨zrtpPacket, message, input⟩
  | _ => throw .UNDEFINED

def stateMessage : EngineState → Packet → Bytes → Engine P Unit
  | .discovery_init => discovery_init_message env
  | .discovery_waitingForHello => discovery_waitingForHello_message env
  | .discovery_waitingForHelloAck => discovery_waitingForHelloAck_message env
  | .keyAgreement_sendingCommit => keyAgreement_sendingCommit_message env
  | .keyAgreement_responderSendingDHPart1 => keyAgreement_responderSendingDHPart1_message env
  | .keyAgreement_initiatorSendingDHPart2 => keyAgreement_initiatorSendingDHPart2_message env
  | .confirmation_responderSendingConfirm1 => confirmation_responderSendingConfirm1_message env
  | .confirmation_initiatorSendingConfirm2 => confirmation_initiatorSendingConfirm2_message env
  | .secure => secure_message env
  | .sending_GoClear => sending_GoClear_message env
  | .clear => clear_message env

def resend {α : Type} (packet : Option (SelfPacket α)) : Engine P Unit := do
  timerAgain NON_HELLO_MAX_RETRANSMISSION_NUMBER (some NON_HELLO_CAP_RETRANSMISSION_STEP)
  let packet ← deref packet
  sendPacket packet

def stateTimer (s : EngineState) : Engine P Unit := do
  let w ← get
  match s with
  | .discovery_init | .discovery_waitingForHelloAck =>
    timerAgain HELLO_MAX_RETRANSMISSION_NUMBER (some HELLO_CAP_RETRANSMISSION_STEP)
    sendBuilt w.ch.selfHello.message.length w.ch.selfHelloBuilt
  | .keyAgreement_sendingCommit => resend w.ch.selfCommit
  | .keyAgreement_responderSendingDHPart1 =>
    if w.ch.selfDHPart.isNone then throw .INVALIDCONTEXT
  | .keyAgreement_initiatorSendingDHPart2 => resend w.ch.selfDHPart
  | .confirmation_initiatorSendingConfirm2 => resend w.ch.selfConfirm
  | .secure => throw .PEERDOESNTACCEPTGOCLEAR
  | .sending_GoClear => resend w.ch.selfGoClear
  | .clear =>
    timerAgain CLEARACK_MAX_RETRANSMISSION_NUMBER none
    sendEmpty env .clearACK
  | .discovery_waitingForHello | .confirmation_responderSendingConfirm1 => pure ()

/-! ### Requests of the user -/

def stateGoClear (s : EngineState) : Engine P Unit := do
  let w ← get
  match s with
  | .secure =>
    if w.ctx.peerAcceptGoClear then
      setState .sending_GoClear
      sending_GoClear_first env
    else throw .PEERDOESNTACCEPTGOCLEAR
  | .keyAgreement_responderSendingDHPart1 =>
    if w.ch.selfDHPart.isNone then throw .INVALIDCONTEXT
  | _ => pure ()

def stateAcceptGoClear (s : EngineState) : Engine P Unit := do
  let w ← get
  match s with
  | .clear => timerOff
  | .secure => throw .PEERDOESNTACCEPTGOCLEAR
  | .keyAgreement_responderSendingDHPart1 =>
    if w.ch.selfDHPart.isNone then throw .INVALIDCONTEXT
  | _ => pure ()

/-- The state functions, on the request to be secure again. -/
def stateBackToSecure (s : EngineState) : Engine P Unit := do
  let w ← get
  match s with
  | .clear =>
    modifyCh deletePackets
    restartInMult env
  | .secure => throw .PEERDOESNTACCEPTGOCLEAR
  | .keyAgreement_responderSendingDHPart1 =>
    if w.ch.selfDHPart.isNone then throw .INVALIDCONTEXT
  | _ => pure ()

/-! ### Library -/

/-- The answer to a Ping message; the state machine does not see it. -/
def answerPing : Engine P Unit := do
  let data ← parsePacket env zrtpPacket input
  match data with
  | .ping _ endpointHash =>
    let w ← get
    let content := ascii "1.10" ++ w.ctx.selfZID.toList.take 8 ++ endpointHash.toList ++
      be32 zrtpPacket.sourceIdentifier
    let r := packetBuild env.malloc w.ctx.toContext w.ch.selfSSRC .pingACK content
      w.ch.selfMessageSequenceNumber
    match w.ctx.sendData, r.1 with
    | some _, .whole packetString =>
      let packet := packetSetSequenceNumber ZRTP_PACKET_HEADER_LENGTH
        (buildMessage .pingACK content).length w.ch.selfSequenceNumber packetString
      modify fun w => { w with
        sent := w.sent ++ [packet]
        ch.selfSequenceNumber := w.ch.selfSequenceNumber + 1 }
    | _, _ => pure ()
  | _ => throw .UNDEFINED

def processMessage (input : Bytes) : Engine P Unit := do
  let w ← get
  match w.ch.stateMachine with
  | none => throw .INVALIDCONTEXT
  | some s =>
    let checked := packetCheck env.malloc input w.ch.toChannelContext
    modifyCh fun ch => { ch with toChannelContext := checked.context }
    match checked.result with
    | .error .PACKETFRAGMENT => pure ()
    | .error exitCode => throw (.check exitCode)
    | .packet zrtpPacket packetString =>
      if zrtpPacket.messageType = .ping then answerPing env zrtpPacket packetString
      else stateMessage env s zrtpPacket packetString

def iterateEngine (timeReference : ℕ) : Engine P Unit := do
  modifyCtx fun ctx => { ctx with timeReference := timeReference }
  let w ← get
  if w.ch.timer.status ∧ w.ch.timer.firingTime ≤ timeReference then
    modifyCh fun ch => { ch with timer.firingCount := ch.timer.firingCount + 1 }
    match w.ch.stateMachine with
    | none => pure ()
    | some s => stateTimer env s

def startChannelEngine : Engine P Unit := do
  let w ← get
  if w.ch.stateMachine.isSome then throw .CHANNELALREADYSTARTED
  if ¬ w.ch.isMainChannel ∧ ¬ w.ctx.isSecure then throw .CONTEXTNOTREADY
  modifyCtx fun ctx => { ctx with timeReference := 0 }
  setState .discovery_init
  discovery_init_first

/-- The channel of a session that started with the wrong Hello message, before it is restarted. -/
def resetChannel (ch : ChannelState) : ChannelState :=
  let algos := { ch.algos with
    hashAlgo := ZRTP_UNSET_ALGO
    cipherAlgo := ZRTP_UNSET_ALGO
    authTagAlgo := ZRTP_UNSET_ALGO
    keyAgreementAlgo := ZRTP_UNSET_ALGO
    sasAlgo := ZRTP_UNSET_ALGO }
  { deletePackets ch with
    stateMachine := none
    timer.status := false
    s0 := none
    KDFContext := none
    mackeyi := none
    mackeyr := none
    zrtpkeyi := none
    zrtpkeyr := none
    peerHello := none
    srtpSecrets := none
    -- the pointer stays
    sasFreed := (ch.srtpSecrets.bind SrtpSecrets.sas).isSome
    algos := match ChannelAlgos.updateCryptoFunctionPointers algos with
      | .ok _ algos => algos
      | .error _ algos => algos }

/-- `bzrtp_setPeerHelloHash`, with the hash read in the string. -/
def setPeerHelloHash (peerHelloHash : Buf 32) : Engine P Unit := do
  modifyCh fun ch => { ch with peerHelloHash := some peerHelloHash }
  let w ← get
  match w.ch.peerHello with
  | none => pure ()
  | some hello =>
    if sha256 P.toPrimitives hello.message ≠ peerHelloHash then
      -- the SAS would be freed twice
      if w.ch.sasFreed then throw .UNDEFINED
      modifyCh resetChannel
      -- the exit code of the restart is ignored
      tryCatch startChannelEngine fun _ => pure ()
      throw .HELLOHASH_MISMATCH

def resetRetransmissionTimer : Engine P Unit :=
  modifyCh fun ch =>
    if ¬ ch.isSecure ∧ ch.role = .initiator then
      { ch with timer := ⟨true, 0, 0xFF, if ch.timer.timerStep % NON_HELLO_BASE_RETRANSMISSION_STEP = 0 then
            NON_HELLO_BASE_RETRANSMISSION_STEP
          else HELLO_BASE_RETRANSMISSION_STEP⟩ }
    else ch

def request (count : Bool) (toState : EngineState → Engine P Unit) : Engine P Unit := do
  if count then modifyCh fun ch => { ch with timer.firingCount := ch.timer.firingCount + 1 }
  let w ← get
  match w.ch.stateMachine with
  | none => pure ()
  | some s => toState s

/-- Calls of the library on a channel, and what the other channels of the session do to it. -/
inductive Call (P : CipherPrimitives) where
  | processMessage (input : Bytes)
  | iterateEngine (timeReference : ℕ)
  | startChannelEngine
  | setPeerHelloHash (peerHelloHash : Buf 32)
  | resetRetransmissionTimer
  | sendGoClear
  | confirmGoClear
  | backToSecureMode
  /-- Another channel changes the session. -/
  | session (ctx : ZrtpContext P)
  /-- Another channel starts to go clear. -/
  | goClearStarted
  /-- Another channel goes clear. -/
  | wentClear
  /-- Another channel goes back to secure: the packets of all the channels are deleted, and an error
  stops it before this one is restarted. -/
  | packetsDeleted
  /-- Another channel goes back to secure: the packets are deleted and this one is restarted. -/
  | restarted

def perform : Call P → Engine P Unit
  | .processMessage input => processMessage env input
  | .iterateEngine timeReference => iterateEngine env timeReference
  | .startChannelEngine => startChannelEngine
  | .setPeerHelloHash peerHelloHash => setPeerHelloHash peerHelloHash
  | .resetRetransmissionTimer => resetRetransmissionTimer
  | .sendGoClear => request false (stateGoClear env)
  | .confirmGoClear => request true stateAcceptGoClear
  | .backToSecureMode => request true (stateBackToSecure env)
  | .session ctx => modifyCtx fun _ => ctx
  | .goClearStarted => setState .sending_GoClear
  | .wentClear => do
    destroyKeyMaterial
    setState .clear
    clear_first
  | .packetsDeleted => modifyCh deletePackets
  | .restarted => do
    modifyCh deletePackets
    restartInMult env

end handlers

/-! ### Runs -/

section runs

variable {P : CipherPrimitives}

def createHello (ctx : ZrtpContext P) (selfH : HashChain) : HelloMessage where
  toCryptoTypes := ctx.toCryptoTypes
  version := bufAt (ascii "1.10") 0 4
  clientIdentifier := bufAt (ascii "BZRTPv1.1") 0 16
  H3 := selfH.H3 P.toPrimitives
  ZID := ctx.selfZID
  S := false
  M := false
  P := false
  MAC := zeros 8

/-- `bzrtp_initChannelContext`, with the random numbers drawn. -/
def initChannelContext (env : Environment P) (ctx : ZrtpContext P) (selfSSRC : UInt32)
    (isMain : Bool) (H0 : Buf 32) (random : UInt16) : ChannelState :=
  let selfH : HashChain := ⟨H0⟩
  let hello := createHello ctx selfH
  let content := withMAC P (selfH.H2 P.toPrimitives) .hello (helloBody hello)
  let selfSequenceNumber := (random &&& 0x0FFF) + 1
  let built := packetBuild env.malloc ctx.toContext selfSSRC .hello content selfSequenceNumber
  { peerHelloHash := none
    role := .initiator
    algos := ⟨ZRTP_UNSET_ALGO, ZRTP_UNSET_ALGO, ZRTP_UNSET_ALGO, ZRTP_UNSET_ALGO, ZRTP_UNSET_ALGO,
      none, none, 0, none, none, 0, none, 0⟩
    mackeyi := none
    mackeyr := none
    zrtpkeyi := none
    zrtpkeyr := none
    peerHello := none
    peerCommit := none
    peerDHPart := none
    selfHello := ⟨⟨0, messageLengthOf content, .hello, selfSSRC⟩, hello,
      -- the header of the packet is not read
      (zeros ZRTP_PACKET_HEADER_LENGTH).toList ++ buildMessage .hello content⟩
    toChannelContext := .init
    stateMachine := none
    timer := ⟨false, 0, 0, HELLO_BASE_RETRANSMISSION_STEP⟩
    selfSSRC := selfSSRC
    isSecure := false
    isMainChannel := isMain
    isClear := false
    selfH := selfH
    peerH0 := none
    peerH1 := none
    peerH2 := none
    peerH3 := none
    selfHelloBuilt := built.1
    selfCommit := none
    selfDHPart := none
    selfConfirm := none
    selfGoClear := none
    peerConfirm := none
    peerGoClear := none
    selfSequenceNumber := selfSequenceNumber
    selfMessageSequenceNumber := built.2
    s0 := none
    KDFContext := none
    initiatorAuxsecretID := zeros 8
    responderAuxsecretID := zeros 8
    srtpSecrets := none
    sasFreed := false
    cacheMismatch := false
    auxSecretMismatch := .UNSET }

/-- A channel just created, in a session. -/
def World.Initial (w : World P) : Prop :=
  ∃ env selfSSRC isMain H0 random, w.ch = initChannelContext env w.ctx selfSSRC isMain H0 random

/-- A call that returns, whatever its exit code. After an undefined access there is nothing. -/
def Performed (env : Environment P) (call : Call P) (w w' : World P) : Prop :=
  wp (perform env call) (fun _ w₁ => w₁ = w') (fun e w₁ => e ≠ .UNDEFINED ∧ w₁ = w') w

end runs

end Bzrtp
