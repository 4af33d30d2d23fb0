import LinphoneSdk.Bzrtp.Transitions

/-!
# The state functions refine the transitions

`coreWp m Q R c` is `Exec.wp` seen from the core of the channel: in a channel with the core `c`, the
routine `m` returns in `Q`, raises in `R`, or makes an undefined access.
-/

namespace Bzrtp

open Bytes Chunks Exec Reading Option

section rules

variable {P : CipherPrimitives} {α β : Type} {c : Core}

def coreWp (m : Engine P α) (Q : α → Core → Prop) (R : Core → Prop) (c : Core) : Prop :=
  ∀ w : World P, w.core = c → wp m (fun a w' => Q a w'.core) (fun e w' => e ≠ .UNDEFINED → R w'.core) w

variable {Q : α → Core → Prop} {R : Core → Prop}

lemma coreWp_pure {a : α} (h : Q a c) : coreWp (pure a : Engine P α) Q R c := by
  rintro w rfl
  exact h

lemma coreWp_bind {m : Engine P β} {f : β → Engine P α}
    (h : coreWp m (fun b c' => coreWp (f b) Q R c') R c) : coreWp (m >>= f) Q R c := by
  intro w hw
  rw [wp_bind]
  exact wp_mono (h w hw) (fun b w' hb => hb w' rfl) (fun _ _ he => he)

lemma coreWp_get {Q : World P → Core → Prop} (h : ∀ w : World P, w.core = c → Q w c) :
    coreWp (get : Engine P (World P)) Q R c := by
  intro w hw
  subst hw
  exact h w rfl

lemma coreWp_throw {e : EngineError} (h : e ≠ .UNDEFINED → R c) : coreWp (throw e : Engine P α) Q R c := by
  rintro w rfl
  exact h

lemma coreWp_ite {p : Prop} [Decidable p] {m n : Engine P α} (hm : p → coreWp m Q R c)
    (hn : ¬ p → coreWp n Q R c) : coreWp (if p then m else n) Q R c := by
  by_cases h : p
  · rw [if_pos h]
    exact hm h
  · rw [if_neg h]
    exact hn h

lemma coreWp_deref {pointer : Option α} (h : ∀ a, pointer = some a → Q a c) :
    coreWp (deref pointer : Engine P α) Q R c := by
  intro w hw
  subst hw
  rw [wp_deref]
  exact ⟨h, fun _ he => absurd rfl he⟩

/-- The effect of an update on the core. -/
lemma coreWp_modifyCh {Q : Unit → Core → Prop} {f : ChannelState → ChannelState} {g : Core → Core}
    (hf : ∀ w : World P, { w with ch := f w.ch }.core = g w.core) (h : Q () (g c)) :
    coreWp (modifyCh f : Engine P Unit) Q R c := by
  rintro w rfl
  rw [wp_modifyCh, hf]
  exact h

/-- The core stays. -/
def Keeps (m : Engine P α) : Prop :=
  ∀ w : World P, wp m (fun _ w' => w'.core = w.core)
    (fun e w' => e ≠ .UNDEFINED → w'.core = w.core) w

variable {m : Engine P α}

lemma Keeps.coreWp (hm : Keeps m) (hQ : ∀ a, Q a c) (hR : R c) : coreWp m Q R c := by
  rintro w rfl
  exact wp_mono (hm w) (fun a w' h => h ▸ hQ a) (fun e w' h he => h he ▸ hR)

lemma Keeps.bind {m : Engine P β} {f : β → Engine P α} (hm : Keeps m) (hf : ∀ b, Keeps (f b)) : Keeps (m >>= f) := by
  intro w
  rw [wp_bind]
  refine wp_mono (hm w) (fun b w' h => ?_) (fun _ _ h => h)
  rw [← h]
  exact hf b w'

/-- The core stays, and nothing but an undefined access stops the routine. -/
def Steady (m : Engine P α) : Prop :=
  ∀ w : World P, wp m (fun _ w' => w'.core = w.core) (fun e _ => e = .UNDEFINED) w

lemma Steady.coreWp (hm : Steady m) (hQ : ∀ a, Q a c) : coreWp m Q R c := by
  rintro w rfl
  exact wp_mono (hm w) (fun a w' h => h ▸ hQ a) (fun e w' h he => absurd h he)

lemma Steady.keeps (hm : Steady m) : Keeps m :=
  fun w => wp_mono (hm w) (fun _ _ h => h) (fun _ _ h he => absurd h he)

lemma Keeps.pure (a : α) : Keeps (P := P) (pure a) := fun _ => rfl

lemma Keeps.throw (e : EngineError) : Keeps (throw e : Engine P α) := fun _ _ => rfl

lemma Keeps.get_bind {f : World P → Engine P α} (hf : ∀ w, Keeps (f w)) :
    Keeps (get >>= f) := fun w => hf w w

lemma Keeps.ite {p : Prop} [Decidable p] {m n : Engine P α} (hm : p → Keeps m) (hn : ¬ p → Keeps n) :
    Keeps (if p then m else n) := by
  by_cases h : p
  · rw [if_pos h]
    exact hm h
  · rw [if_neg h]
    exact hn h

lemma Keeps.deref (pointer : Option α) : Keeps (deref pointer : Engine P α) := by
  intro w
  rw [wp_deref]
  exact ⟨fun _ _ => rfl, fun _ _ => rfl⟩

lemma Keeps.modify {f : World P → World P} (hf : ∀ w, (f w).core = w.core) : Keeps (modify f : Engine P Unit) := hf

lemma Keeps.modifyCh {f : ChannelState → ChannelState}
    (hf : ∀ w : World P, { w with ch := f w.ch }.core = w.core) : Keeps (modifyCh f : Engine P Unit) := hf

lemma Keeps.modifyCtx {f : ZrtpContext P → ZrtpContext P}
    (hf : ∀ ctx, (f ctx).ZRTPSess = ctx.ZRTPSess ∧ (f ctx).exportedKey = ctx.exportedKey) :
    Keeps (modifyCtx f : Engine P Unit) := fun w => by
  rw [wp_modifyCtx, World.core, (hf w.ctx).1, (hf w.ctx).2]
  rfl

end rules

/-! ### What keeps the core -/

section keeps

variable {P : CipherPrimitives} {α : Type} (env : Environment P)

lemma steady_timerOff : Steady (timerOff (P := P)) := fun _ => rfl

lemma steady_timerOn (firingTime timerStep : ℕ) : Steady (timerOn (P := P) firingTime timerStep) :=
  fun _ => rfl

lemma keeps_timerAgain (max : UInt8) (cap : Option ℕ) : Keeps (timerAgain (P := P) max cap) :=
  fun _ => rfl

lemma keeps_sendBuilt (messageLength : ℕ) (built : BuiltPacket) : Keeps (sendBuilt (P := P) messageLength built) :=
  fun _ => wp_sendBuilt messageLength built (fun _ _ => rfl) (fun _ _ _ _ _ => rfl)

lemma keeps_sendPacket (packet : SelfPacket α) : Keeps (sendPacket (P := P) packet) :=
  fun _ => wp_sendPacket packet (fun _ _ => rfl) (fun _ _ _ _ _ => rfl)

variable (t : MessageType)

lemma keeps_buildPacket (messageData : α) (data : MessageData) : Keeps (buildPacket env t messageData data) :=
  fun _ => wp_buildPacket env t messageData data (fun _ _ _ _ => rfl) (fun _ _ _ => rfl)

lemma keeps_sendEmpty : Keeps (sendEmpty env t) :=
  fun _ => wp_sendEmpty env t (fun _ _ _ => rfl) (fun _ _ _ _ _ => rfl)

lemma keeps_createDHPart : Keeps (createDHPart env t) :=
  fun _ => wp_createDHPart env t (fun _ _ _ _ _ => rfl) (fun _ _ => rfl)

lemma keeps_resend (packet : Option (SelfPacket α)) : Keeps (resend (P := P) packet) :=
  (keeps_timerAgain _ _).bind fun _ => (Keeps.deref packet).bind keeps_sendPacket

lemma keeps_checkRepetition (stored : Option (ZrtpPacket α)) (zrtpPacket : Packet)
    (input : Bytes) : Keeps (checkRepetition env stored zrtpPacket input) :=
  (Keeps.deref stored).bind fun _ => Keeps.ite (fun _ => Keeps.throw _) fun _ =>
    Keeps.ite (fun _ => Keeps.throw _) fun _ => Keeps.pure _

lemma keeps_parsePacket (zrtpPacket : Packet) (input : Bytes) : Keeps (parsePacket env zrtpPacket input) := by
  refine Keeps.get_bind fun w w' => ?_
  rw [wp_orThrow]
  exact ⟨fun _ _ => rfl, fun _ _ _ => rfl⟩

lemma keeps_clearMac (ch : ChannelState) (role : Role) : Keeps (clearMac (P := P) ch role) :=
  (Keeps.deref _).bind fun _ => (Keeps.deref _).bind fun _ => Keeps.pure _

lemma keeps_checkClearMac (zrtpPacket : Packet) (input : Bytes) : Keeps (checkClearMac env zrtpPacket input) :=
  (keeps_parsePacket env zrtpPacket input).bind fun _ => Keeps.get_bind fun w =>
    (keeps_clearMac w.ch _).bind fun _ => Keeps.ite (fun _ => Keeps.throw _) fun _ => Keeps.pure _

lemma steady_checkCachedSecrets (role : Role) (message : DHPartMessage) :
    Steady (checkCachedSecrets (P := P) role message) := fun _ => rfl

lemma steady_computeSharedSecret (role : Role) (pv : Bytes) : Steady (computeSharedSecret env role pv) := by
  intro w
  rw [computeSharedSecret, wp_bind, wp_get]
  split
  · rfl
  · rfl
  · rw [wp_ite]
    refine ⟨fun _ => ?_, fun _ => rfl⟩
    rw [wp_bind, wp_deref]
    exact ⟨fun _ _ => rfl, fun _ => rfl⟩
  · rfl

lemma keeps_initiatorSendingDHPart2_first : Keeps (initiatorSendingDHPart2_first (P := P)) :=
  Keeps.get_bind fun _ => (steady_timerOn _ _).keeps.bind fun _ => (Keeps.deref _).bind keeps_sendPacket

lemma keeps_sending_GoClear_first : Keeps (sending_GoClear_first env) := by
  refine Keeps.get_bind fun w => (keeps_clearMac w.ch _).bind fun _ => ?_
  refine (keeps_buildPacket env _ _ _).bind fun _ => (Keeps.modifyCh ?_).bind fun _ =>
    (keeps_sendPacket _).bind fun _ => (steady_timerOn _ _).keeps
  exact fun _ => rfl

lemma keeps_setSecretHashes (hash : HashAlgo) (H3 : Buf 32) : Keeps (setSecretHashes env hash H3) := by
  refine (Keeps.modifyCtx fun ctx => ?_).bind fun _ => (Keeps.modifyCtx fun _ => ⟨rfl, rfl⟩).bind fun _ =>
    Keeps.modify fun _ => rfl
  split
  · exact ⟨rfl, rfl⟩
  · exact ⟨rfl, rfl⟩

end keeps

/-! ### What the parser verifies -/

section parser

variable {P : CipherPrimitives} {ch : ParserContext} {zrtpPacket : Packet} {outside : ℕ → UInt8}
  {c : Cursor}

lemma wp_parseCommitVariable_H2 (message : CommitMessage) :
    wp (parseCommitVariable P message) (fun m _ => m.H2 = message.H2) (fun _ _ => True) c := by
  simp [parseCommitVariable, wp_ite]

lemma wp_parseCommit : wp (parseCommit P ch zrtpPacket) (fun m _ => checkHello P.toPrimitives ch m.H2 = .ok ())
      (fun _ _ => True) c := by
  simp only [parseCommit, nextAlgo, wp_bind, wp_nextBuf, wp_ofExcept, wp_map, wp_next, wp_ite, wp_throw]
  refine ⟨fun _ hcheck => ⟨fun _ => trivial, fun _ => ⟨fun _ => trivial, fun _ => ?_⟩⟩, fun _ _ => trivial⟩
  refine wp_mono (wp_parseCommitVariable_H2 _) (fun m c' hm => ?_) (fun _ _ h => h)
  simp only [wp_pure, hm]
  exact hcheck

lemma publicValueLength_of_noDHM {algo : UInt8} (h : NoDHM algo) :
    computeKeyAgreementPublicValueLength P.toPrimitives algo .DHPart1 = 0 := by
  rcases h with rfl | rfl
  · rfl
  · rfl

lemma wp_parseDHPart : wp (parseDHPart P ch zrtpPacket)
      (fun m _ => (zrtpPacket.messageType = .DHPart1 → ¬ NoDHM ch.algos.keyAgreementAlgo) ∧
        checkH1 P.toPrimitives ch m.H1 = .ok ()) (fun _ _ => True) c := by
  simp only [parseDHPart, wp_bind, wp_nextBuf, wp_ofExcept, wp_next, wp_ite, wp_throw, wp_peek, wp_pure]
  refine ⟨fun _ => trivial, fun hpv => ⟨fun _ => trivial, fun _ => ⟨fun _ hcheck => ?_, fun _ _ => trivial⟩⟩⟩
  have hdhm (htype : zrtpPacket.messageType = .DHPart1) : ¬ NoDHM ch.algos.keyAgreementAlgo := fun h =>
    hpv (by rw [htype]; exact publicValueLength_of_noDHM h)
  exact ⟨fun _ => ⟨fun _ _ => ⟨hdhm, hcheck⟩, fun _ _ => trivial⟩, fun _ => ⟨hdhm, hcheck⟩⟩

lemma wp_parsePlain (confirm_mac : Buf 8) (CFBIV : Buf 16) :
    wp (parsePlain P ch confirm_mac CFBIV) (fun m _ => checkH0 P.toPrimitives ch m.H0 = .ok ())
      (fun _ _ => True) c := by
  simp only [parsePlain, wp_bind, wp_nextBuf, wp_skip, wp_ofExcept, wp_nextByte, wp_next, wp_ite, wp_pure]
  exact ⟨fun _ hcheck => ⟨fun _ => hcheck, fun _ => hcheck⟩, fun _ _ => trivial⟩

def Revealed (P : Primitives) (ch : ParserContext) (t : MessageType) : MessageData → Prop
  | .commit m => t = .commit ∧ checkHello P ch m.H2 = .ok ()
  | .dhPart m => (t = .DHPart1 ∧ ¬ NoDHM ch.algos.keyAgreementAlgo ∨ t = .DHPart2) ∧ checkH1 P ch m.H1 = .ok ()
  | .confirm m => (t = .confirm1 ∨ t = .confirm2) ∧ (confirmKeys ch).isSome ∧ checkH0 P ch m.H0 = .ok ()
  | _ => True

variable {data : MessageData}

lemma revealed_ofRun {α : Type} {toData : α → MessageData} {m : Parse α} {t : MessageType}
    (h : wp m (fun a _ => Revealed P.toPrimitives ch t (toData a)) (fun _ _ => True) c)
    (hdata : (Parsed.ofRun toData (m c)).result = .ok data) : Revealed P.toPrimitives ch t data := by
  cases hm : m c with
  | ok a c' =>
    rw [hm] at hdata
    cases hdata
    have hchecked := wp_of_ok h hm
    exact hchecked
  | error e c' =>
    rw [hm] at hdata
    cases hdata

lemma wp_openConfirm : wp (openConfirm P ch zrtpPacket) (fun _ _ => (confirmKeys ch).isSome) (fun _ _ => True) c := by
  rw [openConfirm]
  cases confirmKeys ch with
  | none => trivial
  | some keys => exact wp_mono (wp_trivial _ _) (fun _ _ _ => rfl) (fun _ _ h => h)

lemma revealed_of_parsedConfirm {t : MessageType} (ht : t = .confirm1 ∨ t = .confirm2)
    (h : (parseConfirm P ch zrtpPacket outside c).result = .ok data) : Revealed P.toPrimitives ch t data := by
  simp only [parseConfirm] at h
  split at h
  · cases h
  · rename_i hopen
    split at h
    · rename_i hplain
      cases h
      have hkeys := wp_of_ok wp_openConfirm hopen
      have hchecked := wp_of_ok (wp_parsePlain _ _) hplain
      exact ⟨ht, hkeys, hchecked⟩
    · cases h

/-- What the parser checks when it reads a message. -/
lemma revealed_of_parsed {input : Block} (h : (packetParser P ch zrtpPacket outside input).result = .ok data) :
    Revealed P.toPrimitives ch zrtpPacket.messageType data := by
  simp only [packetParser] at h
  cases htype : zrtpPacket.messageType <;> simp only [htype] at h
  case hello => exact revealed_ofRun (wp_trivial _ _) h
  case helloACK => exact revealed_ofRun (wp_trivial _ _) h
  case commit =>
    refine revealed_ofRun (wp_mono wp_parseCommit ?_ fun _ _ h => h) h
    exact fun _ _ hcheck => ⟨rfl, hcheck⟩
  case DHPart1 =>
    refine revealed_ofRun (wp_mono wp_parseDHPart ?_ fun _ _ h => h) h
    exact fun _ _ hcheck => ⟨.inl ⟨rfl, hcheck.1 htype⟩, hcheck.2⟩
  case DHPart2 =>
    refine revealed_ofRun (wp_mono wp_parseDHPart ?_ fun _ _ h => h) h
    exact fun _ _ hcheck => ⟨.inr rfl, hcheck.2⟩
  case confirm1 => exact revealed_of_parsedConfirm (.inl rfl) h
  case confirm2 => exact revealed_of_parsedConfirm (.inr rfl) h
  case goClear => exact revealed_ofRun (wp_trivial _ _) h
  case ping => exact revealed_ofRun (wp_trivial _ _) h
  all_goals
    cases h
    trivial

lemma readCommit_of_ne {input : Bytes} (htype : zrtpPacket.messageType ≠ .commit) :
    readCommit P outside ch zrtpPacket input = none := by
  rw [readCommit]
  split
  · rename_i message hparsed
    have hrevealed := revealed_of_parsed hparsed
    exact absurd hrevealed.1 htype
  · rfl

lemma readCommit_congr {ch' : ParserContext} {input : Bytes} (h : ch'.peerHello = ch.peerHello) :
    readCommit P outside ch' zrtpPacket input = readCommit P outside ch zrtpPacket input := by
  by_cases htype : zrtpPacket.messageType = .commit
  · simp only [readCommit, packetParser, htype, parseCommit, checkHello, h]
  · rw [readCommit_of_ne htype, readCommit_of_ne htype]

end parser

/-! ### Messages -/

section messages

variable {P : CipherPrimitives} {α : Type} {c : Core} (env : Environment P)

/-- What a message tells in a channel with this core, and the Commit message read in it. -/
def Core.Reads (P : Primitives) (c : Core) (t : MessageType) (commit : Option CommitMessage) : MessageData → Prop
  | .commit m => t = .commit ∧ commit = some m ∧ c.HelloVerified P m.H2
  | .dhPart m => (t = .DHPart1 ∧ ¬ NoDHM c.keyAgreementAlgo ∨ t = .DHPart2) ∧ commit = none ∧ c.H1Verified P m.H1
  | .confirm m => (t = .confirm1 ∨ t = .confirm2) ∧ commit = none ∧ c.keys c.role.other = true ∧ c.H0Verified P m.H0
  | _ => commit = none

lemma keys_of_confirmKeys {w : World P} (h : (confirmKeys w.ch.toParserContext).isSome) :
    w.core.keys w.core.role.other = true := by
  rw [confirmKeys] at h
  rw [show w.core.role = w.ch.role from rfl]
  cases hrole : w.ch.role with
  | responder =>
    rw [hrole] at h
    cases hkey : w.ch.zrtpkeyi <;> cases hmac : w.ch.mackeyi <;> simp_all [Core.keys, Role.other, World.core]
  | initiator =>
    rw [hrole] at h
    cases hkey : w.ch.zrtpkeyr <;> cases hmac : w.ch.mackeyr <;> simp_all [Core.keys, Role.other, World.core]

variable {R : Core → Prop}

lemma coreWp_parsePacket {Q : MessageData → Core → Prop} {zrtpPacket : Packet} {input : Bytes}
    {ch : ParserContext} (hch : ch.peerHello = c.peerHello)
    (hQ : ∀ data, c.Reads P.toPrimitives zrtpPacket.messageType
      (readCommit P env.outside ch zrtpPacket input) data → Q data c)
    (hR : readCommit P env.outside ch zrtpPacket input = none → R c) :
    coreWp (parsePacket env zrtpPacket input) Q R c := by
  rintro w rfl
  rw [parsePacket, wp_bind, wp_get, wp_orThrow]
  have hcommit : readCommit P env.outside ch zrtpPacket input =
      readCommit P env.outside w.ch.toParserContext zrtpPacket input := readCommit_congr hch
  rw [hcommit] at hQ hR
  constructor
  · intro data hparsed
    refine hQ data ?_
    have hrevealed := revealed_of_parsed hparsed
    rw [readCommit, hparsed]
    cases data with
    | commit m => exact ⟨hrevealed.1, rfl, helloVerified_of_check hrevealed.2⟩
    | dhPart m => exact ⟨hrevealed.1, rfl, h1Verified_of_check hrevealed.2⟩
    | confirm m =>
      exact ⟨hrevealed.1, rfl, keys_of_confirmKeys hrevealed.2.1, h0Verified_of_check hrevealed.2.2⟩
    | hello | goClear | ping | empty => rfl
  · intro e hparsed _
    refine hR ?_
    rw [readCommit, hparsed]

lemma coreWp_unexpectedMessage {Q : α → Core → Prop} (h : R c) :
    coreWp (unexpectedMessage : Engine P α) Q R c := coreWp_throw fun _ => h

variable {Q : Unit → Core → Prop}

lemma coreWp_setState (s : EngineState) (h : Q () { c with stateMachine := some s }) :
    coreWp (setState s : Engine P Unit) Q R c := by
  rintro w rfl
  exact h

lemma coreWp_setSequenceNumber (zrtpPacket : Packet) (h : Q () (c.seen zrtpPacket)) :
    coreWp (setSequenceNumber zrtpPacket : Engine P Unit) Q R c := by
  rintro w rfl
  exact h

lemma coreWp_takeConfirm (confirm : ZrtpPacket ConfirmMessage) (h : Q () { c with peerConfirm := some confirm }) :
    coreWp (takeConfirm confirm : Engine P Unit) Q R c := by
  rintro w rfl
  exact h

lemma coreWp_secure_first (h : Q () { c with isSecure := true }) : coreWp (secure_first : Engine P Unit) Q R c := by
  rintro w rfl
  exact h

lemma coreWp_clear_first (h : Q () { c with role := .initiator }) : coreWp (clear_first : Engine P Unit) Q R c := by
  rintro w rfl
  exact h

lemma coreWp_destroyKeyMaterial (h : Q () { c.withoutKeys with isSecure := false }) :
    coreWp (destroyKeyMaterial : Engine P Unit) Q R c := by
  unfold destroyKeyMaterial
  refine coreWp_bind (coreWp_get fun w _ => coreWp_ite (fun _ => ?_) fun _ => ?_)
  · exact coreWp_bind (coreWp_throw fun he => absurd rfl he)
  · exact coreWp_modifyCh (g := fun c => { c.withoutKeys with isSecure := false }) (fun _ => rfl) h

lemma coreWp_goClear (ch : ChannelState) (h : Q () { c.withoutKeys with isSecure := false }) :
    coreWp (goClear ch : Engine P Unit) Q R c := by
  unfold goClear
  refine coreWp_bind (coreWp_destroyKeyMaterial ?_)
  rintro w hw
  rw [← hw] at h
  simp only [wp_bind, wp_get, wp_deref, wp_modifyCtx]
  refine ⟨fun ZRTPSess hsession => ?_, fun _ he => absurd rfl he⟩
  rw [show w.core = { w.core with hasSession := true } by simp [World.core, hsession]] at h
  exact wp_derive _ _ _ _ _ (fun _ => h) (fun _ he => absurd rfl he)

/-- The derivation of the keys in Multistream mode hashes the messages of that mode. -/
lemma coreWp_computeS0MultiStream
    (hQ : ∀ KDFContext, Core.IsHash P.toPrimitives (some KDFContext) c.multiStreamMessages →
      ∀ s0, Q () (c.keyed KDFContext s0)) : coreWp (computeS0MultiStream (P := P)) Q R c := by
  rintro w rfl
  refine wp_computeS0MultiStream (fun m hash s0 a b c d hm _ => ?_) (fun _ _ h => absurd rfl h)
  exact hQ _ ⟨_, hash, m, _, hm, rfl⟩ s0

/-- The derivation of the keys in DHM mode hashes the messages of that mode. -/
lemma coreWp_computeS0DHM (hQ : ∀ KDFContext, Core.IsHash P.toPrimitives (some KDFContext) c.dhmMessages →
      ∀ s0, IsDHMKey P.toPrimitives s0 KDFContext → c.exportState.hmacFunction.isSome →
        Q () { c.keyed KDFContext s0 with hasSession := true }) : coreWp (computeS0DHM (P := P)) Q R c := by
  rintro w rfl
  refine wp_computeS0DHM (fun m hash ctx s0 a b c d hm _ hsession hexported hhmac hs0 => ?_)
    (fun _ h => absurd rfl h)
  have h := hQ _ ⟨channelZIDs w.ctx w.ch.role, hash, m, w.ch.algos.hashLength, hm, rfl⟩ s0 hs0 hhmac
  rw [← hsession] at h
  simp only [Core.keyed, World.core, ← hexported] at h
  exact h

lemma coreWp_forgetSecrets (h : ∀ x, c.exportState.Forgets x → Q () { c with exportState := x }) :
    coreWp (forgetSecrets (P := P)) Q R c := by
  rintro w rfl
  exact wp_forgetSecrets (fun _ _ _ hs0 hkey => h _ ⟨hs0, hkey, rfl, rfl⟩) fun he => absurd rfl he

lemma coreWp_deriveSrtpKeys (h : Q () { c with hasSecrets := true }) : coreWp (deriveSrtpKeys (P := P)) Q R c := by
  rintro w rfl
  exact wp_deriveSrtpKeys (fun _ _ _ => h) fun he => absurd rfl he

/-- An initiator that has the keys of both sides fails after the secrets are derived only. -/
lemma coreWp_initiatorSendingConfirm2_first (hQ : Q () { c with hasSecrets := true })
    (hR : ∀ hasSecrets, ((∀ role, c.keys role = true) → hasSecrets = true) → R { c with hasSecrets := hasSecrets }) :
    coreWp (initiatorSendingConfirm2_first env) Q R c := by
  rintro w rfl
  have hstay (h : ¬ ∀ role, w.core.keys role = true) : R w.core :=
    hR w.core.hasSecrets fun hkeys => absurd hkeys h
  unfold initiatorSendingConfirm2_first
  simp only [wp_bind, wp_get, wp_ite, wp_throw, wp_createConfirm, wp_modifyCh]
  refine ⟨fun hnone _ => hstay fun hkeys => ?_, fun hsome => ?_⟩
  · have hinitiator := hkeys .initiator
    rcases hnone with hnone | hnone
    · simp_all [Core.keys, World.core]
    · simp_all [Core.keys, World.core]
  refine wp_buildPacket env .confirm2 _ _ (fun content built n _ => ?_) (fun e hcontent => ?_)
  · refine wp_deriveSrtpKeys (fun secrets freed mismatch => ?_) fun he => absurd rfl he
    refine wp_sendPacket _ (fun _ _ => hQ) fun _ e _ _ _ => hR true fun _ => rfl
  · intro he
    refine hstay fun hkeys => ?_
    have hself := hkeys w.ch.role
    rw [messageContent_confirm2, confirmContent, buildKeys] at hcontent
    cases hrole : w.ch.role
    all_goals
      rw [hrole] at hself hcontent
      simp only [Core.keys, World.core, Bool.and_eq_true, isSome_iff_exists] at hself
      obtain ⟨⟨key, hkey⟩, macKey, hmac⟩ := hself
      simp only [hkey, hmac, bind_some, map_some] at hcontent
      split at hcontent
      · cases hcontent
      · cases hcontent
        exact he rfl

lemma coreWp_takeDHPart (role : Role) (dhPart : ZrtpPacket DHPartMessage)
    (h : ∀ KDFContext s0, Core.IsHash P.toPrimitives (some KDFContext)
        (c.takingDHPart dhPart KDFContext s0).dhmMessages → IsDHMKey P.toPrimitives s0 KDFContext →
      c.exportState.hmacFunction.isSome → Q () (c.takingDHPart dhPart KDFContext s0)) :
    coreWp (takeDHPart env role dhPart) Q R c := by
  unfold takeDHPart
  refine coreWp_bind (coreWp_modifyCh (g := fun c => { c with peerDHPart := some dhPart }) (fun _ => rfl) ?_)
  refine coreWp_bind ((steady_computeSharedSecret env role _).coreWp fun _ => ?_)
  exact coreWp_computeS0DHM fun KDFContext hhashed s0 hs0 hhmac => h KDFContext s0 hhashed hs0 hhmac

lemma coreWp_sendingCommit_first (hQ : ∀ commit, Q () { c with selfCommit := commit })
    (hR : ∀ commit, R { c with selfCommit := commit }) :
    coreWp (sendingCommit_first env) Q R c := by
  rintro w rfl
  simp only [sendingCommit_first, wp_bind, wp_get, wp_ite, wp_pure, wp_tryCatch, wp_map]
  refine ⟨fun _ => ?_, fun _ => hQ w.core.selfCommit⟩
  refine wp_createCommit env (fun message context algo _ => ?_) (fun he => absurd rfl he)
  refine wp_buildPacket env .commit message _ (fun content built m _ => ?_) (fun e _ => ?_)
  swap
  · cases e with
    | UNDEFINED => exact fun he => absurd rfl he
    | _ => exact hQ w.core.selfCommit
  simp only [wp_modifyCh, wp_timerOn]
  exact wp_sendPacket _ (fun n sent => hQ (some _)) (fun _ e n sent _ => hR (some _))

lemma coreWp_restartInMult (hQ : ∀ commit, Q () (c.restarted commit)) (hR : ∀ commit, R (c.restarted commit)) :
    coreWp (do
      modifyCh deletePackets
      restartInMult env) Q R c := by
  rintro w rfl
  rw [wp_bind, wp_modifyCh, restartInMult, wp_bind, wp_modifyCh]
  exact coreWp_sendingCommit_first env hQ hR _ rfl

lemma coreWp_onAlgos (m : EStateM CryptoAgreementError ChannelAlgos Unit) (hQ : ∀ algo hmac length, Q () { c with
      keyAgreementAlgo := algo, exportState := c.exportState.using hmac length })
    (hR : ∀ algo hmac length, R { c with keyAgreementAlgo := algo, exportState := c.exportState.using hmac length }) :
    coreWp (onAlgos (P := P) m) Q R c := by
  rintro w rfl
  rw [onAlgos, wp_bind, wp_get]
  cases m w.ch.algos with
  | ok _ algos => exact hQ algos.keyAgreementAlgo algos.hmacFunction algos.hashLength
  | error e algos => exact fun _ => hR algos.keyAgreementAlgo algos.hmacFunction algos.hashLength

def Core.greeted (algo : UInt8) (hello : Option (ZrtpPacket HelloMessage))
    (dhPart : Option (SelfPacket DHPartMessage)) (hmac : Option HashAlgo) (length : UInt8) (c : Core) : Core :=
  { c with
    keyAgreementAlgo := algo, peerHello := hello, selfDHPart := dhPart
    exportState := c.exportState.using hmac length }

/-- The end of the answer to a Hello message. -/
lemma coreWp_prepareDHPart (hQ : ∀ dhPart, Q () { c with selfDHPart := dhPart })
    (hR : ∀ dhPart, R { c with selfDHPart := dhPart }) :
    coreWp (P := P) (do
      let w ← get
      if w.ch.algos.keyAgreementAlgo ≠ ZRTP_KEYAGREEMENT_Prsh ∧
          w.ch.algos.keyAgreementAlgo ≠ ZRTP_KEYAGREEMENT_Mult then
        let message ← createDHPart env .DHPart2
        let packet ← buildPacket env .DHPart2 message (.dhPart message)
        modifyCh fun ch => { ch with selfDHPart := some packet }
      sendEmpty env .helloACK) Q R c := by
  refine coreWp_bind (coreWp_get fun w _ => coreWp_ite (fun _ => ?_) fun _ => ?_)
  · refine coreWp_bind ((keeps_createDHPart env _).coreWp (fun message => ?_) (hR c.selfDHPart))
    refine coreWp_bind ((keeps_buildPacket env _ _ _).coreWp (fun packet => ?_) (hR c.selfDHPart))
    refine coreWp_bind (coreWp_modifyCh (g := fun c => { c with selfDHPart := some packet }) (fun _ => rfl) ?_)
    exact (keeps_sendEmpty env _).coreWp (fun _ => hQ (some packet)) (hR (some packet))
  · exact (keeps_sendEmpty env _).coreWp (fun _ => hQ c.selfDHPart) (hR c.selfDHPart)

/-- The Hello message of the peer gives the key agreement. -/
lemma coreWp_responseToHelloMessage (zrtpPacket : ZrtpPacket HelloMessage)
    (hQ : ∀ algo hello dhPart hmac length, Q () (c.greeted algo hello dhPart hmac length))
    (hR : ∀ algo hello dhPart hmac length, R (c.greeted algo hello dhPart hmac length)) :
    coreWp (responseToHelloMessage env zrtpPacket) Q R c := by
  have hR' (algo : UInt8) (hmac : Option HashAlgo) (length : UInt8) : R { c with
      keyAgreementAlgo := algo, exportState := c.exportState.using hmac length } :=
    hR algo c.peerHello c.selfDHPart hmac length
  unfold responseToHelloMessage
  refine coreWp_ite (fun _ => coreWp_bind (coreWp_throw fun _ =>
    hR' c.keyAgreementAlgo c.exportState.hmacFunction c.exportState.hashLength)) fun _ => ?_
  refine coreWp_bind (coreWp_get fun w _ => coreWp_bind (coreWp_onAlgos _ (fun algo hmac length => ?_)
    fun algo hmac length => hR' algo hmac length))
  refine coreWp_bind (Keeps.coreWp (Keeps.modifyCtx ?_) (fun _ => ?_) (hR' algo hmac length))
  · exact fun _ => ⟨rfl, rfl⟩
  refine coreWp_bind (coreWp_modifyCh (g := fun c => { c with peerHello := some zrtpPacket }) (fun _ => rfl) ?_)
  have hgreeted (algo : UInt8) (dhPart : Option (SelfPacket DHPartMessage)) :=
    hR algo (some zrtpPacket) dhPart hmac length
  refine coreWp_bind (Keeps.coreWp (Keeps.modifyCtx ?_) (fun _ => ?_) (hgreeted algo c.selfDHPart))
  · exact fun _ => ⟨rfl, rfl⟩
  refine coreWp_ite (fun _ => coreWp_ite (fun _ => ?_) fun _ => ?_) fun _ => ?_
  · refine coreWp_bind (coreWp_modifyCh
      (g := fun c => { c with keyAgreementAlgo := ZRTP_KEYAGREEMENT_Mult }) (fun _ => rfl) ?_)
    exact coreWp_prepareDHPart env (fun dhPart => hQ _ (some zrtpPacket) dhPart hmac length)
      fun dhPart => hgreeted _ dhPart
  · exact coreWp_bind (coreWp_throw fun _ => hgreeted algo c.selfDHPart)
  · refine coreWp_bind (coreWp_get fun w _ => coreWp_bind (coreWp_deref fun hash _ => ?_))
    refine coreWp_bind ((keeps_setSecretHashes env hash _).coreWp (fun _ => ?_)
      (hgreeted algo c.selfDHPart))
    exact coreWp_prepareDHPart env (fun dhPart => hQ _ (some zrtpPacket) dhPart hmac length)
      fun dhPart => hgreeted _ dhPart

lemma responderState_of_noDHM {algo : UInt8} (h : NoDHM algo) :
    responderState algo = .confirmation_responderSendingConfirm1 := if_pos h

lemma responderState_of_dhm {algo : UInt8} (h : ¬ NoDHM algo) :
    responderState algo = .keyAgreement_responderSendingDHPart1 := if_neg h

lemma Turned.core {commit : ZrtpPacket CommitMessage} {w w' : World P} (h : Turned commit w w') :
    w'.core = { w.core.respondingTo commit w'.ch.stateMachine with
      initiatorKeys := w'.core.initiatorKeys, responderKeys := w'.core.responderKeys
      KDFContext := w'.ch.KDFContext, selfDHPart := w'.ch.selfDHPart
      exportState := { w.core.exportState.using w'.ch.algos.hmacFunction w'.ch.algos.hashLength with
        s0 := w'.ch.s0 } } := by
  simp only [World.core, Core.respondingTo, h.role, h.peerCommit, h.algos, h.isSecure, h.selfHello,
    h.selfCommit, h.peerHello, h.peerDHPart, h.peerConfirm, h.toChannelContext, h.ZRTPSess, h.srtpSecrets,
    h.exportedKey, keyAgreementAlgo_takeAlgos, ExportState.using]

lemma Turned.core_of_underived {commit : ZrtpPacket CommitMessage} {w w' : World P} (h : Turned commit w w')
    (hkeys : w.Underived w') :
    w'.core = { w.core.respondingTo commit w'.ch.stateMachine with
      selfDHPart := w'.ch.selfDHPart
      exportState := w.core.exportState.using w'.ch.algos.hmacFunction w'.ch.algos.hashLength } := by
  rw [h.core]
  simp only [World.core, Core.respondingTo, hkeys.context, hkeys.mackeyi, hkeys.mackeyr, hkeys.zrtpkeyi,
    hkeys.zrtpkeyr, hkeys.s0, ExportState.using]

lemma World.Derived.atOnce {w : World P} (hw : w.core = { c with
      initiatorKeys := w.core.initiatorKeys, responderKeys := w.core.responderKeys
      KDFContext := w.ch.KDFContext, exportState := { c.exportState with s0 := w.ch.s0 } })
    (hMult : c.keyAgreementAlgo = ZRTP_KEYAGREEMENT_Mult) (hkeys : w.Derived) :
    Core.AtOnce P.toPrimitives c w.core := by
  obtain ⟨messages, hash, hmessages, -, hcontext⟩ := hkeys.context
  obtain ⟨s0, hs0⟩ := isSome_iff_exists.mp hkeys.s0
  refine .inr ⟨hMult, channelZIDs w.ctx w.ch.role ++ P.hashFunction hash messages w.ch.algos.hashLength,
    s0, ?_, _, hash, messages, _, ?_, hcontext⟩
  · rw [hw, Core.keyed, ← hcontext, hs0]
    simp only [World.core, hkeys.mackeyi, hkeys.mackeyr, hkeys.zrtpkeyi, hkeys.zrtpkeyr, Bool.and_self]
  · rw [Core.transcript_of_mult]
    · exact hmessages
    · rw [hw]
      exact hMult

lemma coreWp_responderSendingConfirm1_first (hQ : ∀ c', Core.AtOnce P.toPrimitives c c' → Q () c')
    (hR : ∀ c', Core.AtOnce P.toPrimitives c c' → R c') : coreWp (responderSendingConfirm1_first env) Q R c := by
  rintro w rfl
  refine wp_responderSendingConfirm1_first env (fun context s0 a b c d packet m n sent hMult hPrsh => hQ _ ?_)
    (fun e context status s0 a b c d packet m n sent hkeys _ => hR _ ?_) (fun _ h => absurd rfl h)
  · by_cases hka : w.ch.algos.keyAgreementAlgo = ZRTP_KEYAGREEMENT_Mult
    · exact World.Derived.atOnce rfl hka ⟨(hMult hka).context, (hMult hka).s0, (hMult hka).mackeyi, (hMult hka).mackeyr,
        (hMult hka).zrtpkeyi, (hMult hka).zrtpkeyr⟩
    · obtain ⟨rfl, rfl, rfl, rfl, rfl, rfl⟩ := hPrsh hka
      exact .inl ⟨rfl, fun h => absurd h hka⟩
  · rcases hkeys with ⟨hka, hderived⟩ | ⟨⟨rfl, rfl, rfl, rfl, rfl, rfl⟩, hnone⟩
    · exact World.Derived.atOnce rfl hka ⟨hderived.context, hderived.s0, hderived.mackeyi, hderived.mackeyr,
        hderived.zrtpkeyi, hderived.zrtpkeyr⟩
    · refine .inl ⟨rfl, fun h _ => ?_⟩
      simp [World.core, hnone h]

lemma coreWp_turnIntoResponder (commit : ZrtpPacket CommitMessage)
    (hs : c.stateMachine ≠ some .confirmation_responderSendingConfirm1)
    (hQ : ∀ selfDHPart hmac length c', Core.AtOnce P.toPrimitives { c.respondingTo commit
        (some (responderState commit.messageData.keyAgreementAlgo)) with
          selfDHPart := selfDHPart, exportState := c.exportState.using hmac length } c' → Q () c')
    (hR : ∀ selfDHPart hmac length s c', s = c.stateMachine ∨
        s = some (responderState commit.messageData.keyAgreementAlgo) →
      Core.AtOnce P.toPrimitives { c.respondingTo commit s with
        selfDHPart := selfDHPart, exportState := c.exportState.using hmac length } c' → R c') :
    coreWp (turnIntoResponder env commit) Q R c := by
  rintro w rfl
  refine wp_mono (wp_turnIntoResponder env commit) (fun _ w' h => ?_) (fun e w' h he => ?_)
  · have hstate : w'.ch.stateMachine = some (responderState commit.messageData.keyAgreementAlgo) := by
      by_cases hNoDHM : NoDHM commit.messageData.keyAgreementAlgo
      · rw [responderState_of_noDHM hNoDHM, h.noDHM hNoDHM]
      · rw [responderState_of_dhm hNoDHM, (h.dhm hNoDHM).1]
    refine hQ w'.ch.selfDHPart w'.ch.algos.hmacFunction w'.ch.algos.hashLength w'.core ?_
    rw [← hstate]
    by_cases hMult : commit.messageData.keyAgreementAlgo = ZRTP_KEYAGREEMENT_Mult
    · exact World.Derived.atOnce h.toTurned.core hMult (h.derived hMult)
    · exact .inl ⟨h.toTurned.core_of_underived (h.underived hMult), fun h => absurd h hMult⟩
  · rcases (h he).stateMachine with ⟨hstate, hkeys⟩ | ⟨hstate, ⟨hMult, hkeys⟩ | ⟨hkeys, hnone⟩⟩
    · refine hR w'.ch.selfDHPart w'.ch.algos.hmacFunction w'.ch.algos.hashLength w'.ch.stateMachine w'.core
        (.inl hstate) (.inl ⟨?_, fun _ hs' => ?_⟩)
      · exact (h he).toTurned.core_of_underived hkeys
      · exact absurd (hstate.symm.trans hs') hs
    · refine hR w'.ch.selfDHPart w'.ch.algos.hmacFunction w'.ch.algos.hashLength w'.ch.stateMachine w'.core
        (.inr hstate) ?_
      exact World.Derived.atOnce (h he).toTurned.core hMult hkeys
    · refine hR w'.ch.selfDHPart w'.ch.algos.hmacFunction w'.ch.algos.hashLength w'.ch.stateMachine w'.core
        (.inr hstate) (.inl ⟨?_, fun h' _ => ?_⟩)
      · exact (h he).toTurned.core_of_underived hkeys
      · have hsession := hnone h'
        simp [World.core, Core.respondingTo, hsession]

variable (ch : ParserContext) (zrtpPacket : Packet) (input : Bytes)

def handed (accepted : Bool) : Handed :=
  ⟨zrtpPacket, input, readCommit P env.outside ch zrtpPacket input, accepted⟩

abbrev Handles (accepted : Bool) (c c' : Core) : Prop :=
  Transition P.toPrimitives (.message (handed env ch zrtpPacket input accepted)) c c'

/-- From the core `c'`, which was `c`, the engine ends such a transition. -/
abbrev Ends (c : Core) (m : Engine P Unit)
    (c' : Core) : Prop :=
  coreWp m (fun _ => Handles env ch zrtpPacket input true c) (Handles env ch zrtpPacket input false c) c'

/-- The state function of a state makes a transition with each message, whatever the exit code. -/
def Refines (s : EngineState) (f : Packet → Bytes → Engine P Unit) : Prop :=
  ∀ (zrtpPacket : Packet) (input : Bytes) (ch : ParserContext) (c : Core),
    c.stateMachine = some s → ch.peerHello = c.peerHello →
    coreWp (f zrtpPacket input)
      (fun _ => Transition P.toPrimitives (.message (handed env ch zrtpPacket input true)) c)
      (Transition P.toPrimitives (.message (handed env ch zrtpPacket input false)) c) c

section handlers

variable {env} {zrtpPacket : Packet} {input : Bytes} {ch : ParserContext} {s : EngineState}

lemma transition_refused (hs : c.stateMachine = some s) (hne : s ≠ .keyAgreement_sendingCommit) :
    Handles env ch zrtpPacket input false c c :=
  .refused rfl fun h => absurd (some_inj.mp (hs.symm.trans h)) hne

/-- The checks on the packet change nothing. -/
lemma coreWp_checked {p : Prop} [Decidable p] {rejected : α → Engine P Unit} {next : Engine P Unit}
    (hs : c.stateMachine = some s) (hne : s ≠ .keyAgreement_sendingCommit)
    (hnext : ¬ p → Ends env ch zrtpPacket input c next c) :
    Ends env ch zrtpPacket input c (if p then unexpectedMessage >>= rejected else next) c :=
  coreWp_ite (fun _ => coreWp_bind (coreWp_unexpectedMessage (transition_refused hs hne))) hnext

lemma coreWp_parsed {next : MessageData → Engine P Unit} (hs : c.stateMachine = some s)
    (hne : s ≠ .keyAgreement_sendingCommit) (hch : ch.peerHello = c.peerHello)
    (hnext : ∀ data, c.Reads P.toPrimitives zrtpPacket.messageType
        (readCommit P env.outside ch zrtpPacket input) data → Ends env ch zrtpPacket input c (next data) c) :
    Ends env ch zrtpPacket input c (parsePacket env zrtpPacket input >>= next) c :=
  coreWp_bind (coreWp_parsePacket env hch hnext fun _ => transition_refused hs hne)

lemma coreWp_repetition {β : Type} {stored : Option (ZrtpPacket β)} {next : Engine P Unit}
    (hs : c.stateMachine = some s) (hrepeating : s ∈ repeatingStates) (hnext : Keeps next) :
    Ends env ch zrtpPacket input c (do
        checkRepetition env stored zrtpPacket input
        setSequenceNumber zrtpPacket
        next) c := by
  have hne : s ≠ .keyAgreement_sendingCommit := fun h => by
    subst h
    revert hrepeating
    decide
  refine coreWp_bind ((keeps_checkRepetition env stored zrtpPacket input).coreWp (fun _ => ?_)
    (transition_refused hs hne))
  refine coreWp_bind (coreWp_setSequenceNumber _ ?_)
  exact hnext.coreWp (fun _ => .repeated hs hrepeating) (.repeated hs hrepeating)

/-- A channel takes the side of the responder, from a core that tells no more than the one before. -/
lemma coreWp_turned {m : CommitMessage} {c₀ : Core} (hs : c.stateMachine = some s)
    (hcommit : readCommit P env.outside ch zrtpPacket input = some m)
    (hstate : s = .discovery_waitingForHelloAck ∨ s = .keyAgreement_sendingCommit ∧ c.TurnedBy m ∨ s = .clear)
    (hH2 : c.HelloVerified P.toPrimitives m.H2) (selfCommit : Option (SelfPacket CommitMessage))
    (hs₀ : c₀.stateMachine = some s) (hexport : c₀.exportState = c.exportState)
    (hc₀ : ∀ s', c₀.respondingTo ⟨zrtpPacket, m, input⟩ s' =
      { ((if s = .clear then c.withoutPackets else c).seen zrtpPacket).respondingTo ⟨zrtpPacket, m, input⟩ s' with
        selfCommit := selfCommit }) :
    Ends env ch zrtpPacket input c (turnIntoResponder env ⟨zrtpPacket, m, input⟩) c₀ := by
  have hne : s ≠ .confirmation_responderSendingConfirm1 := by
    rcases hstate with rfl | ⟨rfl, -⟩ | rfl <;> decide
  refine coreWp_turnIntoResponder env _ (by simpa [hs₀] using hne) (fun dhPart hmac length c' hc' => ?_)
    fun dhPart hmac length s' c' hs' hc' => ?_
  · rw [hc₀, hexport] at hc'
    exact .turned hs hcommit hstate (.inr rfl) hH2 selfCommit dhPart hmac length hc'
  · rw [hc₀, hexport] at hc'
    rcases hs' with rfl | rfl
    · rw [hs₀] at hc'
      exact .turned hs hcommit hstate (.inl ⟨rfl, rfl⟩) hH2 selfCommit dhPart hmac length hc'
    · exact .turned hs hcommit hstate (.inr rfl) hH2 selfCommit dhPart hmac length hc'

end handlers

lemma refines_confirmation_responderSendingConfirm1 : Refines env .confirmation_responderSendingConfirm1
      (confirmation_responderSendingConfirm1_message env) := by
  intro zrtpPacket input ch c hs hch
  have hanswer (packet : Option (SelfPacket ConfirmMessage)) :
      Keeps (P := P) (deref packet >>= fun packet => sendPacket packet) :=
    (Keeps.deref packet).bind keeps_sendPacket
  unfold confirmation_responderSendingConfirm1_message
  refine coreWp_bind (coreWp_get fun w _ => ?_)
  refine coreWp_ite (fun _ => ?_) fun _ => coreWp_ite (fun _ => ?_) fun _ => ?_
  · refine coreWp_checked hs (by decide) fun _ => ?_
    exact coreWp_repetition hs (by decide) (hanswer _)
  · refine coreWp_checked hs (by decide) fun _ => ?_
    exact coreWp_repetition hs (by decide) (hanswer _)
  · refine coreWp_checked hs (by decide) fun _ => ?_
    refine coreWp_parsed hs (by decide) hch fun data hdata => ?_
    cases data with
    | confirm m =>
      refine coreWp_bind (coreWp_takeConfirm _ ?_)
      refine coreWp_bind (coreWp_setSequenceNumber _ ?_)
      have hunanswered (x : ExportState) (hx : c.exportState.Forgets x) :
          Handles env ch zrtpPacket input false c
          { c.seen zrtpPacket with
            peerConfirm := some ⟨zrtpPacket, m, input⟩, hasSecrets := true, exportState := x } :=
        .confirm2Unanswered hs rfl x hx
      refine coreWp_bind (coreWp_deriveSrtpKeys ?_)
      refine coreWp_bind (coreWp_forgetSecrets fun x hx => ?_)
      refine coreWp_bind ((keeps_sendEmpty env _).coreWp (fun _ => ?_) (hunanswered x hx))
      refine coreWp_bind (coreWp_setState _ ?_)
      exact coreWp_secure_first
        (@Transition.confirm2 _ _ _ ⟨zrtpPacket, m, input⟩ hs hdata.2.2.1 hdata.2.2.2 x hx)
    | _ => exact coreWp_throw fun h => absurd rfl h

lemma refines_discovery_init : Refines env .discovery_init (discovery_init_message env) := by
  intro zrtpPacket input ch c hs hch
  have hdiscovered (accepted : Bool) (s' : EngineState) (hs' : s' ∈ [.discovery_init,
      .discovery_waitingForHello, .discovery_waitingForHelloAck, .keyAgreement_sendingCommit])
      (algo : UInt8) (hello : Option (ZrtpPacket HelloMessage)) (dhPart : Option (SelfPacket DHPartMessage))
      (hmac : Option HashAlgo) (length : UInt8) :
      Handles env ch zrtpPacket input accepted c
        { (c.seen zrtpPacket).greeted algo hello dhPart hmac length with stateMachine := some s' } :=
    .discovered hs (.inl rfl) hs' algo hello dhPart c.selfCommit hmac length
  unfold discovery_init_message
  refine coreWp_checked hs (by decide) fun _ => ?_
  refine coreWp_parsed hs (by decide) hch fun data _ => ?_
  refine coreWp_bind (coreWp_setSequenceNumber _ ?_)
  have hother : Ends env ch zrtpPacket input c (do
      timerOff
      setState .discovery_waitingForHello) (c.seen zrtpPacket) := by
    have htrue := hdiscovered true .discovery_waitingForHello (by decide) c.keyAgreementAlgo c.peerHello
      c.selfDHPart c.exportState.hmacFunction c.exportState.hashLength
    exact coreWp_bind (steady_timerOff.coreWp fun _ => coreWp_setState _ htrue)
  cases data with
  | hello m =>
    have hstay (algo : UInt8) (hello : Option (ZrtpPacket HelloMessage))
        (dhPart : Option (SelfPacket DHPartMessage)) (hmac : Option HashAlgo) (length : UInt8) :=
      hdiscovered false .discovery_init (by decide) algo hello dhPart hmac length
    rw [← hs] at hstay
    refine coreWp_bind (coreWp_responseToHelloMessage env _ (fun algo hello dhPart hmac length => ?_) hstay)
    refine coreWp_bind ((steady_timerOn _ _).coreWp fun _ => ?_)
    exact coreWp_setState _ (hdiscovered true _ (by decide) algo hello dhPart hmac length)
  | _ => exact hother

lemma refines_discovery_waitingForHello :
    Refines env .discovery_waitingForHello (discovery_waitingForHello_message env) := by
  intro zrtpPacket input ch c hs hch
  unfold discovery_waitingForHello_message
  refine coreWp_checked hs (by decide) fun _ => ?_
  refine coreWp_parsed hs (by decide) hch fun data _ => ?_
  refine coreWp_bind (coreWp_setSequenceNumber _ ?_)
  cases data with
  | hello m =>
    refine coreWp_bind (coreWp_responseToHelloMessage env _ (fun algo hello dhPart hmac length => ?_)
      fun algo hello dhPart hmac length => ?_)
    · refine coreWp_bind (coreWp_setState _ (coreWp_sendingCommit_first env (fun commit => ?_)
        fun commit => ?_))
      · exact .discovered hs (.inr rfl) (by decide) algo hello dhPart commit hmac length
      · exact .discovered hs (.inr rfl) (by decide) algo hello dhPart commit hmac length
    · have hstay : Handles env ch zrtpPacket input false c
          { (c.seen zrtpPacket).greeted algo hello dhPart hmac length with
            stateMachine := some .discovery_waitingForHello } :=
        .discovered hs (.inr rfl) (by decide) algo hello dhPart c.selfCommit hmac length
      rw [← hs] at hstay
      exact hstay
  | _ => exact coreWp_throw fun h => absurd rfl h

lemma refines_discovery_waitingForHelloAck :
    Refines env .discovery_waitingForHelloAck (discovery_waitingForHelloAck_message env) := by
  intro zrtpPacket input ch c hs hch
  have hacked (accepted : Bool) (commit : Option (SelfPacket CommitMessage)) :
      Handles env ch zrtpPacket input accepted c
        { c.seen zrtpPacket with
          stateMachine := some .keyAgreement_sendingCommit, selfCommit := commit } :=
    .helloAcked hs commit
  unfold discovery_waitingForHelloAck_message
  refine coreWp_ite (fun _ => ?_) fun _ => ?_
  · refine coreWp_bind (coreWp_get fun w _ => ?_)
    exact coreWp_repetition hs (by decide) (keeps_sendEmpty env _)
  · refine coreWp_checked hs (by decide) fun _ => ?_
    refine coreWp_parsed hs (by decide) hch fun data hdata => ?_
    refine coreWp_bind (coreWp_setSequenceNumber _ ?_)
    have hother : Ends env ch zrtpPacket input c (do
        timerOff
        setState .keyAgreement_sendingCommit
        sendingCommit_first env) (c.seen zrtpPacket) := by
      refine coreWp_bind (steady_timerOff.coreWp fun _ => ?_)
      refine coreWp_bind (coreWp_setState _ ?_)
      exact coreWp_sendingCommit_first env (fun commit => hacked true commit) fun commit => hacked false commit
    cases data with
    | commit m =>
      exact coreWp_turned hs hdata.2.1 (.inl rfl) hdata.2.2 c.selfCommit hs rfl fun _ => rfl
    | _ => exact hother

lemma coreWp_contention {zrtpPacket : Packet} {input : Bytes} {ch : ParserContext}
    {m : CommitMessage} (hs : c.stateMachine = some .keyAgreement_sendingCommit)
    (hcommit : readCommit P env.outside ch zrtpPacket input = some m) (hH2 : c.HelloVerified P.toPrimitives m.H2) :
    Ends env ch zrtpPacket input c (contention env ⟨zrtpPacket, m, input⟩) (c.seen zrtpPacket) := by
  have hturned (hby : c.TurnedBy m) : Ends env ch zrtpPacket input c (do
      modifyCh fun ch => { ch with selfCommit := none }
      turnIntoResponder env ⟨zrtpPacket, m, input⟩) { c.seen zrtpPacket with role := .responder } := by
    refine coreWp_bind (coreWp_modifyCh (g := fun c => { c with selfCommit := none }) (fun _ => rfl) ?_)
    exact coreWp_turned hs hcommit (.inr (.inl ⟨rfl, hby⟩)) hH2 none hs rfl fun _ => rfl
  unfold contention
  refine coreWp_bind (coreWp_get fun w hw => ?_)
  refine coreWp_bind (coreWp_deref fun selfCommit hself => ?_)
  refine coreWp_bind (coreWp_deref fun hello hhello => ?_)
  have hselfHello : w.ch.selfHello = c.selfHello := congrArg Core.selfHello hw
  have hselfCommit : c.selfCommit = some selfCommit := (congrArg Core.selfCommit hw).symm.trans hself
  have hpeerHello : c.peerHello = some hello := (congrArg Core.peerHello hw).symm.trans hhello
  rw [hselfHello]
  refine coreWp_ite (fun hloses => ?_) fun hloses => ?_
  · refine coreWp_bind (coreWp_modifyCh (g := fun c => { c with role := .responder }) (fun _ => rfl) ?_)
    refine coreWp_bind (coreWp_get fun w' hw' => coreWp_ite (fun _ => ?_) fun hrole => ?_)
    · exact hturned (.inr ⟨_, _, hselfCommit, hpeerHello, hloses⟩)
    · exact absurd (congrArg Core.role hw') hrole
  · refine coreWp_bind (coreWp_get fun w' hw' => coreWp_ite (fun hrole => ?_) fun hrole => ?_)
    · have hrole' : c.role = .responder := (congrArg Core.role hw').symm.trans hrole
      have h := hturned (.inl hrole')
      rw [← hrole'] at h
      exact h
    · refine coreWp_pure (.won hs hcommit ?_)
      rintro (hrole' | ⟨selfCommit', hello', hself', hhello', hloses'⟩)
      · exact hrole ((congrArg Core.role hw').trans hrole')
      · rw [hselfCommit, some_inj] at hself'
        rw [hpeerHello, some_inj] at hhello'
        subst hself' hhello'
        exact hloses hloses'

/-- What `keyAgreement_sendingCommit_message` does with the message that it reads. -/
def sendingCommitReceived (zrtpPacket : Packet) (input : Bytes) : MessageData → Engine P Unit
  | .dhPart message => do
    timerOff
    checkCachedSecrets .initiator message
    takeDHPart env .initiator ⟨zrtpPacket, message, input⟩
    setState .keyAgreement_initiatorSendingDHPart2
    initiatorSendingDHPart2_first
  | .confirm message => do
    timerOff
    modifyCh fun ch => { ch with
      peerH0 := some message.H0, peerConfirm := some ⟨zrtpPacket, message, input⟩ }
    setState .confirmation_initiatorSendingConfirm2
    initiatorSendingConfirm2_first env
  | .commit message => contention env ⟨zrtpPacket, message, input⟩
  | _ => throw .UNDEFINED

lemma refines_keyAgreement_sendingCommit :
    Refines env .keyAgreement_sendingCommit (keyAgreement_sendingCommit_message env) := by
  intro zrtpPacket input ch c hs hch
  have hrefused (h : readCommit P env.outside ch zrtpPacket input = none) :
      Handles env ch zrtpPacket input false c c :=
    .refused rfl fun _ => h
  unfold keyAgreement_sendingCommit_message
  refine coreWp_bind (coreWp_get fun w hw => ?_)
  have hka : w.ch.algos.keyAgreementAlgo = c.keyAgreementAlgo := congrArg Core.keyAgreementAlgo hw
  refine coreWp_ite (fun h => coreWp_bind (coreWp_unexpectedMessage (hrefused (readCommit_of_ne h.1)))) fun htype => ?_
  refine coreWp_ite (fun h => coreWp_bind (coreWp_unexpectedMessage (hrefused (readCommit_of_ne ?_)))) fun _ => ?_
  · rw [h.1]
    decide
  refine coreWp_ite (fun h => coreWp_bind (coreWp_unexpectedMessage (hrefused (readCommit_of_ne ?_)))) fun hDHM => ?_
  · rw [h.1]
    decide
  -- the keys are derived before a Confirm1 message is read
  have hparse (c' : Core) (hc' : c' = c ∧ (zrtpPacket.messageType = .confirm1 →
        c.keyAgreementAlgo ≠ ZRTP_KEYAGREEMENT_Mult) ∨
      zrtpPacket.messageType = .confirm1 ∧ c.keyAgreementAlgo = ZRTP_KEYAGREEMENT_Mult ∧
        ∃ KDFContext s0, c' = c.keyed KDFContext s0 ∧ c'.Hashed P.toPrimitives) :
      Ends env ch zrtpPacket input c (do
        let data ← parsePacket env zrtpPacket input
        setSequenceNumber zrtpPacket
        sendingCommitReceived env zrtpPacket input data) c' := by
    have hhello : ch.peerHello = c'.peerHello := by
      rcases hc' with ⟨rfl, -⟩ | ⟨-, -, KDFContext, s0, rfl, -⟩
      · exact hch
      · exact hch
    have hrefused' (h : readCommit P env.outside ch zrtpPacket input = none) :
        Handles env ch zrtpPacket input false c c' := by
      rcases hc' with ⟨rfl, -⟩ | ⟨-, hMult, KDFContext, s0, rfl, -⟩
      · exact hrefused h
      · exact .derived hs rfl h hMult KDFContext s0
    have hsame (h : zrtpPacket.messageType ≠ .confirm1) : c' = c := by
      rcases hc' with ⟨rfl, -⟩ | ⟨htype, -⟩
      · rfl
      · exact absurd htype h
    refine coreWp_bind (coreWp_parsePacket env hhello (fun data hdata => ?_) hrefused')
    refine coreWp_bind (coreWp_setSequenceNumber _ ?_)
    cases data with
    | commit m =>
      rw [hsame (by rw [hdata.1]; decide)] at hdata ⊢
      exact coreWp_contention env hs hdata.2.1 hdata.2.2
    | dhPart m =>
      rcases hdata.1 with ⟨hDHPart1, hdhm⟩ | hDHPart2
      · rw [hsame (by rw [hDHPart1]; decide)] at hdata hdhm ⊢
        have hdhPart1 (accepted : Bool) (KDFContext s0 : Bytes) (hhashed : Core.IsHash P.toPrimitives
            (some KDFContext) ((c.seen zrtpPacket).takingDHPart ⟨zrtpPacket, m, input⟩ KDFContext s0).dhmMessages)
            (hs0 : IsDHMKey P.toPrimitives s0 KDFContext) (hhmac : c.exportState.hmacFunction.isSome) :
            Handles env ch zrtpPacket input accepted c
              { (c.seen zrtpPacket).takingDHPart ⟨zrtpPacket, m, input⟩ KDFContext s0 with
                stateMachine := some .keyAgreement_initiatorSendingDHPart2 } :=
          @Transition.dhPart1 _ _ _ ⟨zrtpPacket, m, input⟩ _ _ hs hdata.2.1 hdhm hdata.2.2 hhashed hs0 hhmac
        refine coreWp_bind (steady_timerOff.coreWp fun _ => ?_)
        refine coreWp_bind ((steady_checkCachedSecrets _ _).coreWp fun _ => ?_)
        refine coreWp_bind (coreWp_takeDHPart env _ _ fun KDFContext s0 hhashed hs0 hhmac => ?_)
        refine coreWp_bind (coreWp_setState _ ?_)
        exact keeps_initiatorSendingDHPart2_first.coreWp (fun _ => hdhPart1 true _ _ hhashed hs0 hhmac)
          (hdhPart1 false _ _ hhashed hs0 hhmac)
      · simp [hDHPart2] at htype
    | confirm m =>
      have hConfirm1 : zrtpPacket.messageType = .confirm1 := by
        rcases hdata.1 with h | h
        · exact h
        · simp [h] at htype
      have hNoDHM : NoDHM c.keyAgreementAlgo := by
        by_contra h
        rw [NoDHM, not_or, ← hka] at h
        exact hDHM ⟨hConfirm1, h⟩
      have hH0 : c.H0Verified P.toPrimitives m.H0 := by
        rcases hc' with ⟨rfl, -⟩ | ⟨-, -, KDFContext, s0, rfl, -⟩
        · exact hdata.2.2.2
        · exact hdata.2.2.2
      have hrole : c'.role = c.role := by
        rcases hc' with ⟨rfl, -⟩ | ⟨-, -, KDFContext, s0, rfl, -⟩
        · rfl
        · rfl
      have hkeys : c' = c ∧ c.keyAgreementAlgo ≠ ZRTP_KEYAGREEMENT_Mult ∨ c.keyAgreementAlgo = ZRTP_KEYAGREEMENT_Mult ∧
            ∃ KDFContext s0, c' = c.keyed KDFContext s0 ∧ c'.Hashed P.toPrimitives := by
        rcases hc' with ⟨hc', hMult⟩ | ⟨-, hderived⟩
        · exact .inl ⟨hc', hMult hConfirm1⟩
        · exact .inr hderived
      have hconfirm1 (accepted hasSecrets : Bool)
          (hsecrets : (∀ role, c'.keys role = true) → hasSecrets = true) :
          Handles env ch zrtpPacket input accepted c
            { c'.seen zrtpPacket with
              stateMachine := some .confirmation_initiatorSendingConfirm2
              peerConfirm := some ⟨zrtpPacket, m, input⟩
              hasSecrets := hasSecrets } :=
        @Transition.confirm1NoDHM _ _ _ _ ⟨zrtpPacket, m, input⟩ hs hdata.2.1 hkeys hNoDHM (hrole ▸ hdata.2.2.1) hH0
          hasSecrets hsecrets
      refine coreWp_bind (steady_timerOff.coreWp fun _ => ?_)
      refine coreWp_bind (coreWp_modifyCh
        (g := fun c => { c with peerConfirm := some ⟨zrtpPacket, m, input⟩ }) (fun _ => rfl) ?_)
      refine coreWp_bind (coreWp_setState _ ?_)
      exact coreWp_initiatorSendingConfirm2_first env (hconfirm1 true true fun _ => rfl) (hconfirm1 false)
    | _ => exact coreWp_throw fun h => absurd rfl h
  refine coreWp_ite (fun h => coreWp_bind (coreWp_computeS0MultiStream fun KDFContext hhashed s0 => ?_)) fun h => ?_
  · have hMult : c.keyAgreementAlgo = ZRTP_KEYAGREEMENT_Mult := hka.symm.trans h.2
    refine hparse _ (.inr ⟨h.1, hMult, KDFContext, s0, rfl, ?_⟩)
    rw [Core.Hashed, Core.transcript_of_mult (c := c.keyed KDFContext s0) hMult]
    exact hhashed
  · refine hparse c (.inl ⟨rfl, fun hConfirm1 hMult => h ⟨hConfirm1, ?_⟩⟩)
    exact hka.trans hMult

lemma refines_keyAgreement_responderSendingDHPart1 : Refines env .keyAgreement_responderSendingDHPart1
      (keyAgreement_responderSendingDHPart1_message env) := by
  intro zrtpPacket input ch c hs hch
  have hrefused : Handles env ch zrtpPacket input false c c :=
    transition_refused hs (by decide)
  unfold keyAgreement_responderSendingDHPart1_message
  refine coreWp_bind (coreWp_get fun w _ => ?_)
  cases w.ch.selfDHPart with
  | none => exact coreWp_throw fun _ => hrefused
  | some packet =>
    refine coreWp_ite (fun _ => coreWp_repetition hs (by decide) (keeps_sendPacket packet)) fun _ => ?_
    refine coreWp_checked hs (by decide) fun _ => ?_
    refine coreWp_parsed hs (by decide) hch fun data hdata => ?_
    cases data with
    | dhPart m =>
      refine coreWp_bind ((steady_checkCachedSecrets _ _).coreWp fun _ => ?_)
      refine coreWp_bind (coreWp_setSequenceNumber _ ?_)
      refine coreWp_bind (coreWp_takeDHPart env _ _ fun KDFContext s0 hhashed hs0 hhmac => ?_)
      refine coreWp_bind (coreWp_setState _ ?_)
      refine coreWp_responderSendingConfirm1_first env (fun c' hc' => ?_) fun c' hc' => ?_
      · exact @Transition.dhPart2 _ _ _ _ ⟨zrtpPacket, m, input⟩ _ _ hs hdata.2.2 hhashed hs0 hhmac hc'
      · exact @Transition.dhPart2 _ _ _ _ ⟨zrtpPacket, m, input⟩ _ _ hs hdata.2.2 hhashed hs0 hhmac hc'
    | _ => exact coreWp_throw fun h => absurd rfl h

lemma refines_keyAgreement_initiatorSendingDHPart2 : Refines env .keyAgreement_initiatorSendingDHPart2
      (keyAgreement_initiatorSendingDHPart2_message env) := by
  intro zrtpPacket input ch c hs hch
  unfold keyAgreement_initiatorSendingDHPart2_message
  refine coreWp_ite (fun _ => coreWp_bind (coreWp_get fun w _ => ?_)) fun _ => ?_
  · exact coreWp_repetition hs (by decide) (Keeps.pure ())
  · refine coreWp_checked hs (by decide) fun _ => ?_
    refine coreWp_parsed hs (by decide) hch fun data hdata => ?_
    cases data with
    | confirm m =>
      have hconfirm1 (accepted hasSecrets : Bool)
          (hsecrets : (∀ role, c.keys role = true) → hasSecrets = true) :
          Handles env ch zrtpPacket input accepted c
            { c.seen zrtpPacket with
              stateMachine := some .confirmation_initiatorSendingConfirm2
              peerConfirm := some ⟨zrtpPacket, m, input⟩
              hasSecrets := hasSecrets } :=
        @Transition.confirm1 _ _ _ ⟨zrtpPacket, m, input⟩ hs hdata.2.2.1 hdata.2.2.2 hasSecrets hsecrets
      refine coreWp_bind (steady_timerOff.coreWp fun _ => ?_)
      refine coreWp_bind (coreWp_takeConfirm _ ?_)
      refine coreWp_bind (coreWp_setSequenceNumber _ ?_)
      refine coreWp_bind (coreWp_setState _ ?_)
      exact coreWp_initiatorSendingConfirm2_first env (hconfirm1 true true fun _ => rfl) (hconfirm1 false)
    | _ => exact coreWp_throw fun h => absurd rfl h

lemma refines_confirmation_initiatorSendingConfirm2 : Refines env .confirmation_initiatorSendingConfirm2
      (confirmation_initiatorSendingConfirm2_message env) := by
  intro zrtpPacket input ch c hs hch
  unfold confirmation_initiatorSendingConfirm2_message
  refine coreWp_ite (fun _ => coreWp_bind (coreWp_get fun w _ => ?_)) fun _ => ?_
  · exact coreWp_repetition hs (by decide) (Keeps.pure ())
  · refine coreWp_checked hs (by decide) fun htype => ?_
    refine coreWp_parsed hs (by decide) hch fun _ _ => ?_
    refine coreWp_bind (steady_timerOff.coreWp fun _ => ?_)
    refine coreWp_bind (coreWp_forgetSecrets fun x hx => ?_)
    refine coreWp_bind (coreWp_setState _ ?_)
    exact coreWp_secure_first (.conf2ACK hs (not_not.mp htype) x hx)

lemma refines_secure : Refines env .secure (secure_message env) := by
  intro zrtpPacket input ch c hs hch
  have hrefused : Handles env ch zrtpPacket input false c c :=
    transition_refused hs (by decide)
  unfold secure_message
  refine coreWp_bind (coreWp_get fun w _ => ?_)
  refine coreWp_ite (fun _ => coreWp_repetition hs (by decide) (keeps_sendEmpty env _)) fun _ => ?_
  refine coreWp_checked hs (by decide) fun htype => ?_
  refine coreWp_bind ((keeps_checkClearMac env _ _).coreWp (fun _ => ?_) hrefused)
  refine coreWp_bind ((keeps_sendEmpty env _).coreWp (fun _ => ?_) hrefused)
  refine coreWp_bind (coreWp_goClear _ ?_)
  refine coreWp_bind ((steady_timerOn _ _).coreWp fun _ => ?_)
  refine coreWp_bind (coreWp_setState _ ?_)
  exact coreWp_clear_first (.goneClear hs (.inl ⟨rfl, (not_not.mp htype).1⟩))

lemma refines_sending_GoClear : Refines env .sending_GoClear (sending_GoClear_message env) := by
  intro zrtpPacket input ch c hs hch
  have hrefused : Handles env ch zrtpPacket input false c c :=
    transition_refused hs (by decide)
  have hanswer : Ends env ch zrtpPacket input c (do
      setSequenceNumber zrtpPacket
      sendEmpty env .clearACK) c :=
    coreWp_bind (coreWp_setSequenceNumber _ ((keeps_sendEmpty env _).coreWp
      (fun _ => .repeated hs (by decide)) (.repeated hs (by decide))))
  unfold sending_GoClear_message
  refine coreWp_bind (coreWp_get fun w _ => coreWp_ite (fun htype => ?_) fun _ => ?_)
  · refine coreWp_bind (steady_timerOff.coreWp fun _ => ?_)
    refine coreWp_bind (coreWp_goClear _ ?_)
    refine coreWp_bind (coreWp_setState _ ?_)
    exact coreWp_clear_first (.goneClear hs (.inr ⟨rfl, htype⟩))
  · refine coreWp_checked hs (by decide) fun _ => ?_
    refine coreWp_ite (fun _ => ?_) fun _ => ?_
    · exact coreWp_bind ((keeps_checkClearMac env _ _).coreWp (fun _ => hanswer) hrefused)
    · exact coreWp_bind ((keeps_checkRepetition env _ _ _).coreWp (fun _ => hanswer) hrefused)

lemma refines_clear : Refines env .clear (clear_message env) := by
  intro zrtpPacket input ch c hs hch
  unfold clear_message
  refine coreWp_checked hs (by decide) fun _ => ?_
  refine coreWp_parsed hs (by decide) hch fun data hdata => ?_
  cases data with
  | commit m =>
    refine coreWp_bind (coreWp_modifyCh (g := Core.withoutPackets) (fun _ => rfl) ?_)
    refine coreWp_bind (coreWp_setSequenceNumber _ ?_)
    exact coreWp_turned hs hdata.2.1 (.inr (.inr rfl)) hdata.2.2 none hs rfl fun _ => rfl
  | _ => exact coreWp_throw fun h => absurd rfl h

lemma refines_stateMessage (s : EngineState) : Refines env s (stateMessage env s) := by
  cases s with
  | discovery_init => exact refines_discovery_init env
  | discovery_waitingForHello => exact refines_discovery_waitingForHello env
  | discovery_waitingForHelloAck => exact refines_discovery_waitingForHelloAck env
  | keyAgreement_sendingCommit => exact refines_keyAgreement_sendingCommit env
  | keyAgreement_responderSendingDHPart1 => exact refines_keyAgreement_responderSendingDHPart1 env
  | keyAgreement_initiatorSendingDHPart2 => exact refines_keyAgreement_initiatorSendingDHPart2 env
  | confirmation_responderSendingConfirm1 => exact refines_confirmation_responderSendingConfirm1 env
  | confirmation_initiatorSendingConfirm2 => exact refines_confirmation_initiatorSendingConfirm2 env
  | secure => exact refines_secure env
  | sending_GoClear => exact refines_sending_GoClear env
  | clear => exact refines_clear env

end messages

/-! ### Calls of the library -/

section calls

variable {P : CipherPrimitives} {c : Core} (env : Environment P)

lemma keeps_stateTimer (s : EngineState) : Keeps (stateTimer env s) := by
  refine Keeps.get_bind fun w => ?_
  cases s with
  | discovery_init | discovery_waitingForHelloAck =>
    exact Keeps.bind (fun _ => rfl) fun _ => keeps_sendBuilt _ _
  | keyAgreement_sendingCommit => exact keeps_resend _
  | keyAgreement_responderSendingDHPart1 => exact Keeps.ite (fun _ => Keeps.throw _) fun _ => Keeps.pure _
  | keyAgreement_initiatorSendingDHPart2 => exact keeps_resend _
  | confirmation_initiatorSendingConfirm2 => exact keeps_resend _
  | secure => exact Keeps.throw _
  | sending_GoClear => exact keeps_resend _
  | clear => exact Keeps.bind (fun _ => rfl) fun _ => keeps_sendEmpty env _
  | discovery_waitingForHello | confirmation_responderSendingConfirm1 => exact Keeps.pure _

lemma keeps_stateAcceptGoClear (s : EngineState) : Keeps (stateAcceptGoClear (P := P) s) := by
  refine Keeps.get_bind fun w => ?_
  cases s with
  | clear => exact steady_timerOff.keeps
  | secure => exact Keeps.throw _
  | keyAgreement_responderSendingDHPart1 => exact Keeps.ite (fun _ => Keeps.throw _) fun _ => Keeps.pure _
  | _ => exact Keeps.pure _

lemma keeps_answerPing (zrtpPacket : Packet) (input : Bytes) : Keeps (answerPing env zrtpPacket input) := by
  refine (keeps_parsePacket env _ _).bind fun data => ?_
  cases data with
  | ping version endpointHash =>
    refine Keeps.get_bind fun w => ?_
    simp only
    split
    · exact Keeps.modify fun _ => rfl
    · exact Keeps.pure _
  | _ => exact Keeps.throw _

lemma peerSequenceNumber_packetCheck (malloc : (n : ℕ) → Buf n) (input : Bytes) (ch : ChannelContext) :
    (packetCheck malloc input ch).context.peerSequenceNumber = ch.peerSequenceNumber := by
  rw [packetCheck]
  cases packetHeaderCheck input ch with
  | some exitCode => rfl
  | none =>
    simp only
    split_ifs
    · rw [fragmentCheck]
      split_ifs
      · rfl
      · simp only
        split_ifs
        · rfl
        · rfl
    · rfl

def eventOf (call : Call P) (w : World P) (accepted : Bool) : Event :=
  match call with
  | .processMessage input =>
    match w.ch.stateMachine, (packetCheck env.malloc input w.ch.toChannelContext).result with
    | some _, .packet zrtpPacket packetString =>
      if zrtpPacket.messageType = .ping then .other
      else .message (handed env w.ch.toParserContext zrtpPacket packetString accepted)
    | _, _ => .other
  | .setPeerHelloHash peerHelloHash => .peerHelloHash peerHelloHash
  | .packetsDeleted => .packetsDeleted
  | .restarted => .restarted
  | .session ctx => .session ctx.exportedKey
  | _ => .other

def Follows (call : Call P) : Prop :=
  ∀ w : World P, wp (perform env call)
    (fun _ w' => Transition P.toPrimitives (eventOf env call w true) w.core w'.core)
    (fun e w' => e ≠ .UNDEFINED → Transition P.toPrimitives (eventOf env call w false) w.core w'.core) w

variable {env}

variable {call : Call P}

/-- A call whose event does not depend on the channel. -/
lemma follows_of_coreWp {e : Event} (he : ∀ w accepted, eventOf env call w accepted = e)
    (h : ∀ c, coreWp (perform env call) (fun _ => Transition P.toPrimitives e c) (Transition P.toPrimitives e c) c) :
    Follows env call := by
  intro w
  rw [he, he]
  exact h w.core w rfl

lemma transition_other : Transition P.toPrimitives .other c c := .kept .other fun _ h => by cases h

lemma follows_of_keeps (he : ∀ w accepted, eventOf env call w accepted = .other) (h : Keeps (perform env call)) :
    Follows env call :=
  follows_of_coreWp he fun _ => h.coreWp (fun _ => transition_other) transition_other

lemma coreWp_request {Q : Unit → Core → Prop} {R : Core → Prop} (count : Bool)
    {toState : EngineState → Engine P Unit} (hnone : Q () c)
    (h : ∀ s, c.stateMachine = some s → coreWp (toState s) Q R c) : coreWp (request count toState) Q R c := by
  unfold request
  refine coreWp_ite (fun _ => coreWp_bind (coreWp_modifyCh (g := id) (fun _ => rfl) ?_)) fun _ => ?_
  all_goals
    refine coreWp_bind (coreWp_get fun w hw => ?_)
    have hcore : w.core = c := hw
    cases hs : w.ch.stateMachine with
    | none => exact coreWp_pure hnone
    | some s => exact h s (hcore ▸ hs)

lemma follows_processMessage (input : Bytes) : Follows env (.processMessage input) := by
  intro w
  simp only [perform, processMessage, wp_bind, wp_get, eventOf]
  cases hs : w.ch.stateMachine with
  | none => exact fun _ => transition_other
  | some s =>
    simp only [wp_bind, wp_modifyCh]
    have hcore : { w with ch.toChannelContext :=
        (packetCheck env.malloc input w.ch.toChannelContext).context }.core = w.core := by
      simp only [World.core, peerSequenceNumber_packetCheck]
    cases hresult : (packetCheck env.malloc input w.ch.toChannelContext).result with
    | error exitCode =>
      cases exitCode with
      | PACKETFRAGMENT =>
        rw [wp_pure, hcore]
        exact transition_other
      | _ =>
        rw [wp_throw, hcore]
        exact fun _ => transition_other
    | packet zrtpPacket packetString =>
      simp only [wp_ite]
      refine ⟨fun hping => ?_, fun hping => ?_⟩
      · simp only [if_pos hping]
        refine ((keeps_answerPing env zrtpPacket packetString).coreWp (fun _ => ?_) ?_) _ hcore
        · exact transition_other
        · exact transition_other
      · simp only [if_neg hping]
        exact refines_stateMessage env s zrtpPacket packetString w.ch.toParserContext w.core hs rfl _ hcore

lemma keeps_iterateEngine (timeReference : ℕ) : Keeps (perform env (.iterateEngine timeReference)) := by
  refine Keeps.bind (Keeps.modifyCtx fun _ => ⟨rfl, rfl⟩) fun _ => Keeps.get_bind fun w => ?_
  refine Keeps.ite (fun _ => (Keeps.modifyCh ?_).bind fun _ => ?_) fun _ => Keeps.pure _
  · exact fun _ => rfl
  · cases w.ch.stateMachine with
    | none => exact Keeps.pure _
    | some s => exact keeps_stateTimer env s

lemma follows_iterateEngine (timeReference : ℕ) : Follows env (.iterateEngine timeReference) :=
  follows_of_keeps (fun _ _ => rfl) (keeps_iterateEngine timeReference)

/-- The engine starts in its first state, or an exit code says why it does not. -/
lemma wp_startChannelEngine (w : World P) :
    wp startChannelEngine
      (fun _ w' => w.ch.stateMachine = none ∧ w'.core = { w.core with stateMachine := some .discovery_init })
      (fun e w' => e ≠ .UNDEFINED ∧ w'.core = w.core) w := by
  simp only [startChannelEngine, wp_bind, wp_get, wp_ite, wp_throw, wp_modifyCtx, wp_setState]
  refine ⟨fun _ => ⟨by decide, trivial⟩, fun hnone => ⟨fun _ => ⟨by decide, trivial⟩, fun _ => ?_⟩⟩
  exact ⟨not_isSome_iff_eq_none.mp hnone, rfl⟩

lemma follows_startChannelEngine : Follows env .startChannelEngine := by
  intro w
  refine wp_mono (wp_startChannelEngine w) (fun _ w' h => ?_) (fun e w' h _ => ?_)
  · rw [h.2]
    exact .started h.1
  · rw [h.2]
    exact transition_other

lemma follows_setPeerHelloHash (peerHelloHash : Buf 32) : Follows env (.setPeerHelloHash peerHelloHash) := by
  refine follows_of_coreWp (fun _ _ => rfl) fun c => ?_
  have hkept : Transition P.toPrimitives (.peerHelloHash peerHelloHash) c c := .kept _ fun _ h => by cases h
  rw [perform, setPeerHelloHash]
  refine coreWp_bind (coreWp_modifyCh (g := id) (fun _ => rfl) (coreWp_bind (coreWp_get fun w hw => ?_)))
  cases hhello : w.ch.peerHello with
  | none => exact coreWp_pure hkept
  | some hello =>
    refine coreWp_ite (fun hmismatch => ?_) fun _ => coreWp_pure hkept
    have hpeerHello : c.peerHello = some hello := (congrArg Core.peerHello hw).symm.trans hhello
    clear hw hhello
    intro w hw
    subst hw
    simp only [wp_bind, wp_ite, wp_modifyCh, wp_tryCatch, wp_pure, wp_throw]
    refine ⟨fun _ he => absurd rfl he, fun _ => ?_⟩
    have hreset (s : Option EngineState) (hs : s = none ∨ s = some .discovery_init) :
        Transition P.toPrimitives (.peerHelloHash peerHelloHash) w.core
          { { w with ch := resetChannel w.ch }.core with stateMachine := s } :=
      .reset hpeerHello hmismatch s hs (resetChannel w.ch).algos.keyAgreementAlgo
        (resetChannel w.ch).algos.hmacFunction (resetChannel w.ch).algos.hashLength
    refine wp_mono (wp_startChannelEngine _) (fun _ w' h _ => ?_) (fun e w' h _ => ?_)
    · rw [h.2]
      exact hreset _ (.inr rfl)
    · rw [h.2]
      exact hreset none (.inl rfl)

lemma follows_sendGoClear : Follows env .sendGoClear := by
  refine follows_of_coreWp (fun _ _ => rfl) fun c => coreWp_request false transition_other fun s hs => ?_
  refine coreWp_bind (coreWp_get fun w _ => ?_)
  cases s with
  | secure =>
    refine coreWp_ite (fun _ => coreWp_bind (coreWp_setState _ ?_)) fun _ => coreWp_throw fun _ => transition_other
    exact (keeps_sending_GoClear_first env).coreWp (fun _ => .goClearStarted) .goClearStarted
  | keyAgreement_responderSendingDHPart1 =>
    exact coreWp_ite (fun _ => coreWp_throw fun _ => transition_other) fun _ => coreWp_pure transition_other
  | _ => exact coreWp_pure transition_other

lemma follows_confirmGoClear : Follows env .confirmGoClear :=
  follows_of_coreWp (fun _ _ => rfl) fun _ => coreWp_request true transition_other fun s _ =>
    (keeps_stateAcceptGoClear s).coreWp (fun _ => transition_other) transition_other

lemma follows_backToSecureMode : Follows env .backToSecureMode := by
  refine follows_of_coreWp (fun _ _ => rfl) fun c => coreWp_request true transition_other fun s hs => ?_
  refine coreWp_bind (coreWp_get fun w _ => ?_)
  cases s with
  | clear =>
    exact coreWp_restartInMult env (fun commit => .backToSecure hs commit)
      fun commit => .backToSecure hs commit
  | secure => exact coreWp_throw fun _ => transition_other
  | keyAgreement_responderSendingDHPart1 =>
    exact coreWp_ite (fun _ => coreWp_throw fun _ => transition_other) fun _ => coreWp_pure transition_other
  | _ => exact coreWp_pure transition_other

lemma follows (call : Call P) : Follows env call := by
  cases call with
  | processMessage input => exact follows_processMessage input
  | iterateEngine timeReference => exact follows_iterateEngine timeReference
  | startChannelEngine => exact follows_startChannelEngine
  | setPeerHelloHash peerHelloHash => exact follows_setPeerHelloHash peerHelloHash
  | resetRetransmissionTimer =>
    refine follows_of_keeps (fun _ _ => rfl) fun w => ?_
    rw [perform, resetRetransmissionTimer, wp_modifyCh]
    by_cases h : ¬ w.ch.isSecure = true ∧ w.ch.role = .initiator
    · rw [if_pos h]
      rfl
    · rw [if_neg h]
  | sendGoClear => exact follows_sendGoClear
  | confirmGoClear => exact follows_confirmGoClear
  | backToSecureMode => exact follows_backToSecureMode
  | session ctx =>
    refine follows_of_coreWp (fun _ _ => rfl) fun c => ?_
    rintro w rfl
    exact .session ctx.ZRTPSess.isSome ctx.exportedKey
  | goClearStarted => exact follows_of_coreWp (fun _ _ => rfl) fun _ => coreWp_setState _ .goClearStarted
  | wentClear =>
    refine follows_of_coreWp (fun _ _ => rfl) fun c => ?_
    refine coreWp_bind (coreWp_destroyKeyMaterial ?_)
    exact coreWp_bind (coreWp_setState _ (coreWp_clear_first .wentClear))
  | packetsDeleted =>
    exact follows_of_coreWp (fun _ _ => rfl) fun _ =>
      coreWp_modifyCh (g := Core.withoutPackets) (fun _ => rfl) .packetsDeleted
  | restarted =>
    exact follows_of_coreWp (fun _ _ => rfl) fun _ =>
      coreWp_restartInMult env (fun commit => .restarted commit) fun commit => .restarted commit

/-- A call that returns makes a transition. -/
theorem exists_transition_of_performed {w w' : World P} (h : Performed env call w w') :
    ∃ accepted, Transition P.toPrimitives (eventOf env call w accepted) w.core w'.core := by
  have hfollows := (follows call : Follows env call) w
  rw [Performed, wp] at h
  cases hrun : perform env call w with
  | ok a w₁ =>
    rw [hrun] at h
    have htransition := wp_of_ok hfollows hrun
    exact ⟨true, h ▸ htransition⟩
  | error e w₁ =>
    rw [hrun] at h
    have htransition := wp_of_error hfollows hrun
    exact ⟨false, h.2 ▸ htransition h.1⟩

end calls

end Bzrtp
