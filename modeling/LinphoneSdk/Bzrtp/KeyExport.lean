import LinphoneSdk.Bzrtp.SessionKeys

/-!
# Export of keys

`bzrtp_exportKey` derives the keys that the application asks for from a key that it computes once, from the
s0 of the first channel of the session.
-/

namespace Bzrtp

open Bytes Chunks Exec Option

/-! ### The exported key -/

section exportedKey

variable {P : CipherPrimitives}

@[simp] lemma wp_deref_some {α : Type} {Q : α → World P → Prop} {E : EngineError → World P → Prop}
    {w : World P} (a : α) : wp (deref (some a)) Q E w ↔ Q a w := Iff.rfl

@[simp] lemma wp_deref_none {α : Type} {Q : α → World P → Prop} {E : EngineError → World P → Prop}
    {w : World P} : wp (deref (none : Option α)) Q E w ↔ E .UNDEFINED w := Iff.rfl

/-- The key that the others are derived from, computed if it is not there yet. -/
def masterExportedKey : Engine P Bytes := do
  let w ← get
  match w.ctx.exportedKey with
  | some exportedKey => pure exportedKey
  | none => do
    -- a derivation from a null pointer is undefined in the source
    let s0 ← deref w.ch.s0
    let exportedKey ← derive w.ch (some s0) "Exported key" w.ch.KDFContext w.ch.algos.hashLength
    modifyCtx fun ctx => { ctx with exportedKey := some exportedKey }
    pure exportedKey

/-- `bzrtp_exportKey`, on the first channel of the session: it returns 0 with no key when the peer has the
version 1.0 of the library. -/
def exportKey (label : Bytes) (derivedKeyLength : ℕ) : Engine P (Option Bytes) := do
  let w ← get
  if w.ctx.peerBzrtpVersion = 0x010000 then pure none
  else if w.ch.s0.isNone ∧ w.ctx.exportedKey.isSome ∨ w.ch.KDFContext.isNone then throw .INVALIDCONTEXT
  else do
    let exportedKey ← masterExportedKey
    let derivedKeyLength := UInt8.ofNat (min derivedKeyLength w.ch.algos.hashLength.toNat)
    let hmac ← deref w.ch.algos.hmacFunction
    pure (some (keyDerivationFunction P.toPrimitives hmac exportedKey label (w.ch.KDFContext.getD [])
      derivedKeyLength))

/-- `bzrtp_SASVerified`, on the first channel: with a mismatch of the caches, the secrets are kept up to here. -/
def SASVerified : Engine P Unit := do
  let w ← get
  if w.ctx.cacheMismatchFlag then
    modifyCtx fun ctx => { ctx with cacheMismatchFlag := false }
    forgetSecrets

end exportedKey

/-! ### The exchange of the first channel -/

namespace Core

variable {P : Primitives} {c c' : Core} {e : Event}

/-- The key computed from the s0 of a channel. -/
def IsExportedKey (P : Primitives) (c : Core) (exportedKey s0 : Bytes) : Prop :=
  ∃ KDFContext hmac, c.KDFContext = some KDFContext ∧ c.exportState.hmacFunction = some hmac ∧
    exportedKey = keyDerivationFunction P hmac s0 (ascii "Exported key") KDFContext c.exportState.hashLength

def unkeyedStates : List (Option EngineState) :=
  [none, some .discovery_init, some .discovery_waitingForHello, some .discovery_waitingForHelloAck,
    some .clear, some .keyAgreement_responderSendingDHPart1]

/-- A channel whose s0 and exported key are those of its DHM exchange. -/
structure Exportable (P : Primitives) (c : Core) : Prop where
  dhm : ∀ s0, c.exportState.s0 = some s0 → ∃ KDFContext, c.KDFContext = some KDFContext ∧
    IsDHMKey P s0 KDFContext ∧ c.exportState.hmacFunction.isSome
  exported : ∀ exportedKey s0, c.exportState.exportedKey = some exportedKey → c.exportState.s0 = some s0 →
    c.IsExportedKey P exportedKey s0
  unkeyed : c.stateMachine ∈ unkeyedStates → c.exportState.s0 = none
  commit : c.stateMachine = some .keyAgreement_sendingCommit →
    c.keyAgreementAlgo ≠ ZRTP_KEYAGREEMENT_Mult → c.exportState.s0 = none

/-- What must hold of the first channel for an event to keep its keys those of its DHM exchange. -/
def KeepsExport (c : Core) : Event → Prop
  | .message m => c.keyAgreementAlgo ≠ ZRTP_KEYAGREEMENT_Mult ∧
      (∀ message ∈ m.commit, message.keyAgreementAlgo ≠ ZRTP_KEYAGREEMENT_Mult) ∧
      (c.stateMachine = some .keyAgreement_sendingCommit ∨
        c.stateMachine = some .keyAgreement_responderSendingDHPart1 → c.exportState.exportedKey = none)
  | .session exportedKey => exportedKey = none ∨ exportedKey = c.exportState.exportedKey
  | _ => True

instance (c : Core) : DecidablePred c.KeepsExport
  | .message _ => inferInstanceAs (Decidable (_ ∧ _ ∧ (_ → _)))
  | .session _ => inferInstanceAs (Decidable (_ ∨ _))
  | .peerHelloHash _ | .packetsDeleted | .restarted | .other => instDecidableTrue

lemma exportable_of_none (h : c.exportState.s0 = none) : c.Exportable P where
  dhm s0 hs0 := by rw [h] at hs0; cases hs0
  exported _ s0 _ hs0 := by rw [h] at hs0; cases hs0
  unkeyed _ := h
  commit _ _ := h

/-- The keys are kept or destroyed, out of the states that have none. -/
lemma Exportable.forgets (h : c.Exportable P) (hx : c.exportState.Forgets c'.exportState)
    (hcontext : c'.KDFContext = c.KDFContext)
    (hunkeyed : c'.stateMachine ∈ unkeyedStates → c.stateMachine ∈ unkeyedStates)
    (hcommit : c'.stateMachine = some .keyAgreement_sendingCommit →
      c'.keyAgreementAlgo ≠ ZRTP_KEYAGREEMENT_Mult → c.exportState.s0 = none) : c'.Exportable P := by
  rcases hx.s0 with hnone | hs0
  · exact exportable_of_none hnone
  · constructor
    · rw [hs0, hcontext, hx.hmacFunction]
      exact h.dhm
    · intro exportedKey s0 hkey hs0'
      rw [hs0] at hs0'
      rcases hx.exportedKey with hnone | heq
      · rw [hnone] at hkey
        cases hkey
      · rw [heq] at hkey
        have hexported := h.exported exportedKey s0 hkey hs0'
        rw [IsExportedKey, hcontext, hx.hmacFunction, hx.hashLength]
        exact hexported
    · rw [hs0]
      exact fun hs => h.unkeyed (hunkeyed hs)
    · rw [hs0]
      exact hcommit

/-- The keys are neither changed nor destroyed. -/
lemma Exportable.congr (h : c.Exportable P) (hx : c'.exportState = c.exportState)
    (hcontext : c'.KDFContext = c.KDFContext)
    (hunkeyed : c'.stateMachine ∈ unkeyedStates → c.stateMachine ∈ unkeyedStates)
    (hcommit : c'.stateMachine = some .keyAgreement_sendingCommit →
      c'.keyAgreementAlgo ≠ ZRTP_KEYAGREEMENT_Mult → c.exportState.s0 = none) : c'.Exportable P :=
  h.forgets (hx ▸ .refl _) hcontext hunkeyed hcommit

lemma exportable_keyed {KDFContext s0 : Bytes} (hs0 : IsDHMKey P s0 KDFContext)
    (hhmac : c.exportState.hmacFunction.isSome) (hkey : c.exportState.exportedKey = none)
    (hx : c'.exportState = { c.exportState with s0 := some s0 }) (hcontext : c'.KDFContext = some KDFContext)
    (hs : c'.stateMachine ∉ some .keyAgreement_sendingCommit :: unkeyedStates) : c'.Exportable P where
  dhm s0' hs0' := by
    rw [hx, some_inj] at hs0'
    subst hs0'
    exact ⟨KDFContext, hcontext, hs0, by rw [hx]; exact hhmac⟩
  exported exportedKey s0' hkey' := by
    rw [hx, hkey] at hkey'
    cases hkey'
  unkeyed hs' := absurd (List.mem_cons_of_mem _ hs') hs
  commit hs' := absurd (hs' ▸ List.mem_cons_self) hs

lemma unkeyed_of_turned {s : EngineState} {message : CommitMessage}
    (h : s = .discovery_waitingForHelloAck ∨ s = .keyAgreement_sendingCommit ∧ c.TurnedBy message ∨
      s = .clear) : s = .keyAgreement_sendingCommit ∨ some s ∈ unkeyedStates := by
  rcases h with rfl | ⟨rfl, -⟩ | rfl
  · exact .inr (by decide)
  · exact .inl rfl
  · exact .inr (by decide)

/-- Each transition keeps the keys of a channel those of its DHM exchange. -/
lemma Exportable.transition (h : c.Exportable P) (hok : c.KeepsExport e) (ht : Transition P e c c') :
    c'.Exportable P := by
  cases ht with
  | kept | refused => exact h
  | session hasSession exportedKey =>
    exact h.forgets ⟨.inr rfl, hok, rfl, rfl⟩ rfl (fun hs => hs) h.commit
  | started hs =>
    exact exportable_of_none (h.unkeyed (by rw [hs]; decide))
  | goClearStarted => exact h.congr rfl rfl (by simp [unkeyedStates]) (by simp)
  | packetsDeleted => exact h.congr rfl rfl (fun hs => hs) h.commit
  | repeated | won => exact h.congr rfl rfl (fun hs => hs) h.commit
  | wentClear | goneClear | reset => exact exportable_of_none rfl
  | backToSecure hs | restarted =>
    refine h.congr rfl rfl (by simp [Core.restarted, unkeyedStates]) fun _ hMult => ?_
    exact absurd rfl hMult
  | derived hs haccepted hcommit hMult => exact absurd hMult hok.1
  | discovered hs hdiscovery =>
    refine exportable_of_none (h.unkeyed ?_)
    rw [hs]
    rcases hdiscovery with rfl | rfl
    · decide
    · decide
  | helloAcked hs => exact exportable_of_none (h.unkeyed (by rw [hs]; decide))
  | @turned _ _ m message s s' hs hcommit hstate hs' hH2 selfCommit selfDHPart hmacFunction hashLength hc' =>
    have hnone : c.exportState.s0 = none := by
      rcases unkeyed_of_turned hstate with rfl | hunkeyed
      · exact h.commit hs hok.1
      · exact h.unkeyed (hs ▸ hunkeyed)
    rcases hc' with ⟨rfl, -⟩ | ⟨hMult, -⟩
    · exact exportable_of_none hnone
    · exact absurd hMult (hok.2.1 message hcommit)
  | dhPart1 hs hcommit hdhm hH1 hhashed hs0 hhmac =>
    exact exportable_keyed hs0 hhmac (hok.2.2 (.inl hs)) rfl rfl (by simp [unkeyedStates])
  | dhPart2 hs hH1 hhashed hs0 hhmac hc' =>
    rcases hc' with ⟨rfl, -⟩ | ⟨hMult, -⟩
    · exact exportable_keyed hs0 hhmac (hok.2.2 (.inr hs)) rfl rfl (by simp [unkeyedStates])
    · exact absurd hMult hok.1
  | confirm1 hs => exact h.congr rfl rfl (by simp [unkeyedStates]) (by simp)
  | confirm1NoDHM hs hcommit hc' =>
    rcases hc' with ⟨rfl, -⟩ | ⟨hMult, -⟩
    · exact h.congr rfl rfl (by simp [unkeyedStates]) (by simp)
    · exact absurd hMult hok.1
  | confirm2 hs hkeys hH0 x hx | conf2ACK hs htype x hx =>
    exact h.forgets hx rfl (by simp [unkeyedStates]) (by simp)
  | confirm2Unanswered hs haccepted x hx =>
    exact h.forgets hx rfl (fun hs => hs) h.commit

end Core

/-! ### Exports in a run -/

section exports

variable {P : CipherPrimitives} {w w' : World P} {label : Bytes} {derivedKeyLength : ℕ}

def exportOf (P : Primitives) (hmac : HashAlgo) (s0 KDFContext : Bytes) (hashLength : UInt8)
    (label : Bytes) (derivedKeyLength : ℕ) : Bytes :=
  keyDerivationFunction P hmac (keyDerivationFunction P hmac s0 (ascii "Exported key") KDFContext hashLength)
    label KDFContext (UInt8.ofNat (min derivedKeyLength hashLength.toNat))

/-- The first channel has the keys of a DHM exchange, and no other key is exported. -/
structure World.ExportsFrom (w : World P) (hmac : HashAlgo) (s0 KDFContext : Bytes) : Prop where
  secret : w.ch.s0 = some s0
  context : w.ch.KDFContext = some KDFContext
  hmacFunction : w.ch.algos.hmacFunction = some hmac
  exportedKey : ∀ exportedKey, w.ctx.exportedKey = some exportedKey → exportedKey =
    keyDerivationFunction P.toPrimitives hmac s0 (ascii "Exported key") KDFContext w.ch.algos.hashLength

/-- A key exported is the one of a label, for the DHM exchange of the first channel. -/
def World.IsExport (w : World P) (label : Bytes) (derivedKeyLength : ℕ) (key : Option Bytes) : Prop :=
  ∃ hmac s0 KDFContext, w.ch.s0 = some s0 ∧ w.ch.KDFContext = some KDFContext ∧
    w.ch.algos.hmacFunction = some hmac ∧ IsDHMKey P.toPrimitives s0 KDFContext ∧
    key = some (exportOf P.toPrimitives hmac s0 KDFContext w.ch.algos.hashLength label derivedKeyLength)

/-- Every export gives such a key, which the next one with the same label gives again, or an exit code. -/
def SoundExport (w : World P) : Prop :=
  ∀ label derivedKeyLength, wp (exportKey label derivedKeyLength)
    (fun key w' => w.IsExport label derivedKeyLength key ∧
      wp (exportKey label derivedKeyLength) (fun key' _ => key' = key) (fun _ _ => False) w')
    (fun e _ => e ≠ .UNDEFINED) w

/-- The first channel has a context, but nothing to derive a key from. -/
def World.Spent (w : World P) : Prop :=
  w.ch.s0 = none ∧ w.ctx.exportedKey = none ∧ w.ch.KDFContext.isSome

def World.exporting (w : World P) (hmac : HashAlgo) (s0 KDFContext : Bytes) : World P :=
  { w with ctx.exportedKey := some (keyDerivationFunction P.toPrimitives hmac s0 (ascii "Exported key")
      KDFContext w.ch.algos.hashLength) }

variable {s0 KDFContext : Bytes}

lemma World.ExportsFrom.exporting {hmac : HashAlgo} (h : w.ExportsFrom hmac s0 KDFContext) :
    (w.exporting hmac s0 KDFContext).ExportsFrom hmac s0 KDFContext :=
  ⟨h.secret, h.context, h.hmacFunction, fun _ hkey => (some_inj.mp hkey).symm⟩

lemma wp_masterExportedKey {hmac : HashAlgo} {Q : Bytes → World P → Prop} {E : EngineError → World P → Prop}
    (h : w.ExportsFrom hmac s0 KDFContext)
    (hQ : Q (keyDerivationFunction P.toPrimitives hmac s0 (ascii "Exported key") KDFContext
      w.ch.algos.hashLength) (w.exporting hmac s0 KDFContext)) : wp masterExportedKey Q E w := by
  simp only [masterExportedKey, wp_bind, wp_get]
  cases hkey : w.ctx.exportedKey with
  | none =>
    simp only [h.secret, derive, h.hmacFunction, h.context, wp_bind, wp_deref_some, wp_modifyCtx, wp_pure]
    exact hQ
  | some exportedKey =>
    have heq := h.exportedKey exportedKey hkey
    have hw : w.exporting hmac s0 KDFContext = w := by
      rw [World.exporting, ← heq, ← hkey]
    rw [hw, ← heq] at hQ
    exact hQ

/-- The key is computed at the first export, and serves them all. -/
lemma wp_exportKey {hmac : HashAlgo} (h : w.ExportsFrom hmac s0 KDFContext)
    (hversion : w.ctx.peerBzrtpVersion ≠ 0x010000) {Q : Option Bytes → World P → Prop}
    {E : EngineError → World P → Prop}
    (hQ : Q (some (exportOf P.toPrimitives hmac s0 KDFContext w.ch.algos.hashLength label derivedKeyLength))
      (w.exporting hmac s0 KDFContext)) : wp (exportKey label derivedKeyLength) Q E w := by
  simp only [exportKey, wp_bind, wp_get, wp_ite, wp_pure, wp_throw]
  refine ⟨fun hobsolete => absurd hobsolete hversion, fun _ => ⟨fun hrefused => ?_, fun _ => ?_⟩⟩
  · simp [h.secret, h.context] at hrefused
  · refine wp_masterExportedKey h ?_
    simp only [h.hmacFunction, h.context, wp_deref_some]
    exact hQ

lemma exportsFrom_of_exportable (h : w.core.Exportable P.toPrimitives) {s0 : Bytes}
    (hs0 : w.ch.s0 = some s0) : ∃ hmac KDFContext, w.ExportsFrom hmac s0 KDFContext ∧
      IsDHMKey P.toPrimitives s0 KDFContext := by
  obtain ⟨KDFContext, hcontext, hdhm, hhmac⟩ := h.dhm s0 hs0
  obtain ⟨hmac, hhmac⟩ := isSome_iff_exists.mp hhmac
  refine ⟨hmac, KDFContext, ⟨hs0, hcontext, hhmac, fun exportedKey hkey => ?_⟩, hdhm⟩
  obtain ⟨KDFContext', hmac', hcontext', hhmac', heq⟩ := h.exported exportedKey s0 hkey hs0
  obtain rfl := some_inj.mp (hcontext.symm.trans hcontext')
  obtain rfl := some_inj.mp (hhmac.symm.trans hhmac')
  exact heq

/-- With the keys of its DHM exchange, a channel exports sound keys unless it is spent. -/
lemma soundExport_of_exportable (h : w.core.Exportable P.toPrimitives)
    (hversion : w.ctx.peerBzrtpVersion ≠ 0x010000) (hspent : ¬ w.Spent) : SoundExport w := by
  intro label derivedKeyLength
  cases hs0 : w.ch.s0 with
  | some s0 =>
    obtain ⟨hmac, KDFContext, hexports, hdhm⟩ := exportsFrom_of_exportable h hs0
    refine wp_exportKey hexports hversion ⟨?_, ?_⟩
    · exact ⟨hmac, s0, KDFContext, hexports.secret, hexports.context, hexports.hmacFunction, hdhm, rfl⟩
    · exact wp_exportKey hexports.exporting hversion rfl
  | none =>
    simp only [exportKey, wp_bind, wp_get, wp_ite, wp_pure, wp_throw]
    refine ⟨fun hobsolete => absurd hobsolete hversion, fun _ => ⟨fun _ => by decide, fun hready => ?_⟩⟩
    exfalso
    refine hspent ⟨hs0, ?_, ?_⟩
    · by_contra hkey
      exact hready (.inl ⟨by simp [hs0], ne_none_iff_isSome.mp hkey⟩)
    · by_contra hcontext
      exact hready (.inr (by simpa using hcontext))

lemma not_soundExport_of_obsolete (hversion : w.ctx.peerBzrtpVersion = 0x010000) : ¬ SoundExport w := by
  intro h
  have hexport := h [] 0
  simp only [exportKey, wp_bind, wp_get, wp_ite, wp_pure] at hexport
  obtain ⟨hmac, s0, KDFContext, -, -, -, -, hkey⟩ := (hexport.1 hversion).1
  cases hkey

/-- The key would be derived from a null pointer. -/
lemma not_soundExport_of_spent (hspent : w.Spent) : ¬ SoundExport w := by
  intro h
  by_cases hversion : w.ctx.peerBzrtpVersion = 0x010000
  · exact not_soundExport_of_obsolete hversion h
  · obtain ⟨hs0, hkey, hcontext⟩ := hspent
    have hexport := h [] 0
    have hready : ¬ (w.ch.s0.isNone ∧ w.ctx.exportedKey.isSome ∨ w.ch.KDFContext.isNone) := by
      simp [hkey, isSome_iff_ne_none.mp hcontext]
    rw [exportKey, wp_bind, wp_get, wp_ite, wp_ite] at hexport
    have hmaster := (hexport.2 hversion).2 hready
    simp only [masterExportedKey, wp_bind, wp_get, hkey, hs0, wp_deref_none] at hmaster
    exact hmaster rfl

/-- An export keeps the keys of a channel those of its DHM exchange. -/
lemma wp_exportKey_exportable (h : w.core.Exportable P.toPrimitives) (label : Bytes) (derivedKeyLength : ℕ) :
    wp (exportKey label derivedKeyLength) (fun _ w' => w'.core.Exportable P.toPrimitives)
      (fun e w' => e ≠ .UNDEFINED → w'.core.Exportable P.toPrimitives) w := by
  by_cases hversion : w.ctx.peerBzrtpVersion = 0x010000
  · rw [exportKey, wp_bind, wp_get, wp_ite]
    exact ⟨fun _ => h, fun hrecent => absurd hversion hrecent⟩
  · cases hs0 : w.ch.s0 with
    | some s0 =>
      obtain ⟨hmac, KDFContext, hexports, -⟩ := exportsFrom_of_exportable h hs0
      refine wp_exportKey hexports hversion ⟨h.dhm, fun exportedKey s0' hkey hs0' => ?_, h.unkeyed, h.commit⟩
      obtain rfl := some_inj.mp hkey
      obtain rfl := some_inj.mp (hs0.symm.trans hs0')
      exact ⟨KDFContext, hmac, hexports.context, hexports.hmacFunction, rfl⟩
    | none =>
      simp only [exportKey, masterExportedKey, wp_bind, wp_get, wp_ite, wp_pure, wp_throw]
      refine ⟨fun _ => h, fun _ => ⟨fun _ _ => h, fun hready => ?_⟩⟩
      have hkey : w.ctx.exportedKey = none := by
        by_contra hkey
        exact hready (.inl ⟨by simp [hs0], ne_none_iff_isSome.mp hkey⟩)
      simp only [hkey, hs0, wp_bind, wp_deref_none]
      exact fun hdefined => absurd rfl hdefined

/-- A call that keeps the keys of the first channel those of its DHM exchange. -/
def Call.KeepsExport (env : Environment P) (call : Call P) (w : World P) : Prop :=
  ∀ accepted, w.core.KeepsExport (eventOf env call w accepted)

/-- Such a call returns, or an export does, or the user has verified the SAS. -/
inductive ExportStep (w w' : World P) : Prop where
  | call {env : Environment P} {call : Call P} (h : Performed env call w w') (hok : call.KeepsExport env w)
  | exportKey {label : Bytes} {derivedKeyLength : ℕ}
      (h : wp (exportKey label derivedKeyLength) (fun _ w₁ => w₁ = w')
        (fun e w₁ => e ≠ .UNDEFINED ∧ w₁ = w') w)
  | SASVerified (h : wp SASVerified (fun _ w₁ => w₁ = w') (fun e w₁ => e ≠ .UNDEFINED ∧ w₁ = w') w)

/-- The verification destroys the keys, or keeps them. -/
lemma wp_SASVerified_exportable (h : w.core.Exportable P.toPrimitives) :
    wp SASVerified (fun _ w' => w'.core.Exportable P.toPrimitives)
      (fun e w' => e ≠ .UNDEFINED → w'.core.Exportable P.toPrimitives) w := by
  simp only [SASVerified, forgetSecrets, wp_bind, wp_get, wp_ite, wp_pure, wp_modifyCh, wp_modifyCtx, wp_deref]
  refine ⟨fun _ => ⟨fun _ => Core.exportable_of_none rfl, fun _ => ⟨fun _ => h, fun _ => ?_⟩⟩, fun _ => h⟩
  exact ⟨fun _ _ => Core.exportable_of_none rfl, fun _ hdefined => absurd rfl hdefined⟩

lemma exportable_of_initial (h : w.Initial) : w.core.Exportable P.toPrimitives := by
  obtain ⟨env, selfSSRC, isMain, H0, random, hch⟩ := h
  refine Core.exportable_of_none ?_
  rw [World.core, hch]
  rfl

/-- What a routine keeps holds in the world that it leaves. -/
lemma exportable_of_wp {α : Type} {routine : Engine P α}
    (hkept : wp routine (fun _ w' => w'.core.Exportable P.toPrimitives)
      (fun e w' => e ≠ .UNDEFINED → w'.core.Exportable P.toPrimitives) w)
    (h : wp routine (fun _ w₁ => w₁ = w') (fun e w₁ => e ≠ .UNDEFINED ∧ w₁ = w') w) :
    w'.core.Exportable P.toPrimitives := by
  rw [wp] at h
  cases hrun : routine w with
  | ok a w₁ =>
    rw [hrun] at h
    have hexportable := wp_of_ok hkept hrun
    exact h ▸ hexportable
  | error e w₁ =>
    rw [hrun] at h
    have hexportable := wp_of_error hkept hrun
    exact h.2 ▸ hexportable h.1

lemma exportable_of_step (h : w.core.Exportable P.toPrimitives) (hstep : ExportStep w w') :
    w'.core.Exportable P.toPrimitives := by
  cases hstep with
  | call hperformed hok =>
    obtain ⟨accepted, htransition⟩ := exists_transition_of_performed hperformed
    exact h.transition (hok accepted) htransition
  | exportKey hexport => exact exportable_of_wp (wp_exportKey_exportable h _ _) hexport
  | SASVerified hverified => exact exportable_of_wp (wp_SASVerified_exportable h) hverified

lemma exportable_of_reachable (hinit : w.Initial) (hrun : Relation.ReflTransGen ExportStep w w') :
    w'.core.Exportable P.toPrimitives := by
  induction hrun with
  | refl => exact exportable_of_initial hinit
  | tail _ hstep ih => exact exportable_of_step ih hstep

/-- In a run where the keys of the first channel are those of its DHM exchange, the exports of a state are
sound exactly when the peer has not the version 1.0 of the library and the channel is not spent. -/
theorem soundExport_iff_of_reachable (hinit : w.Initial) (hrun : Relation.ReflTransGen ExportStep w w') :
    SoundExport w' ↔ w'.ctx.peerBzrtpVersion ≠ 0x010000 ∧ ¬ w'.Spent := by
  constructor
  · intro hsound
    exact ⟨fun hversion => not_soundExport_of_obsolete hversion hsound,
      fun hspent => not_soundExport_of_spent hspent hsound⟩
  · rintro ⟨hversion, hspent⟩
    exact soundExport_of_exportable (exportable_of_reachable hinit hrun) hversion hspent

end exports

/-! ### A key exported once the channel is secure -/

def sampleDHPart2Message : Bytes :=
  withMAC .sample (zeros 32) .DHPart2 (dhPartBody (fun _ => 0) 32 sampleX255DHPart)

def renumbered (sequenceNumber : UInt16) (packet : Bytes) : Bytes :=
  let packet := packet.take 2 ++ be16 sequenceNumber ++ (packet.drop 4).take (packet.length - 8)
  packet ++ be32 (CRC32 packet)

def mainStartedWorld : World .sample := final (perform .sample .startChannelEngine) sampleWorld

def mainHelloWorld : World .sample :=
  final (perform .sample (.processMessage sampleHelloPacket)) mainStartedWorld

def sampleX255CommitPacket : Bytes :=
  samplePacket 2 .commit (withMAC .sample (zeros 32) .commit
    (commitBody .sample (fun _ => 0) { CommitMessage.sample ZRTP_KEYAGREEMENT_X255 with
      hvi := computeHvi .sample (some .S256) (buildMessage .DHPart2 sampleDHPart2Message)
        mainHelloWorld.ch.selfHello.message }))

def mainCommitWorld : World .sample :=
  final (perform .sample (.processMessage sampleX255CommitPacket)) mainHelloWorld

/-- The keys of the main channel are derived. -/
def mainDHPartWorld : World .sample :=
  final (perform .sample (.processMessage (samplePacket 3 .DHPart2 sampleDHPart2Message))) mainCommitWorld

def mainSecureWorld : World .sample :=
  final (perform .sample (.processMessage (renumbered 4 (sampleConfirm2Packet mainDHPartWorld))))
    mainDHPartWorld

instance (env : Environment .sample) (call : Call .sample) (w : World .sample) :
    Decidable (call.KeepsExport env w) := inferInstanceAs (Decidable (∀ _ : Bool, _))

-- the run is evaluated by the kernel only
attribute [local irreducible] Performed Call.KeepsExport SoundExport

lemma isDefined_main : Call.isDefined .sample .startChannelEngine sampleWorld = true ∧
    Call.isDefined .sample (.processMessage sampleHelloPacket) mainStartedWorld = true ∧
    Call.isDefined .sample (.processMessage sampleX255CommitPacket) mainHelloWorld = true ∧
    Call.isDefined .sample (.processMessage (samplePacket 3 .DHPart2 sampleDHPart2Message)) mainCommitWorld = true ∧
    Call.isDefined .sample (.processMessage (renumbered 4 (sampleConfirm2Packet mainDHPartWorld)))
      mainDHPartWorld = true ∧ Call.startChannelEngine.KeepsExport .sample sampleWorld ∧
    (Call.processMessage sampleHelloPacket).KeepsExport .sample mainStartedWorld ∧
    (Call.processMessage sampleX255CommitPacket).KeepsExport .sample mainHelloWorld ∧
    (Call.processMessage (samplePacket 3 .DHPart2 sampleDHPart2Message)).KeepsExport .sample mainCommitWorld ∧
    mainDHPartWorld.ctx.peerBzrtpVersion ≠ 0x010000 ∧ mainDHPartWorld.ch.s0.isSome = true ∧
    mainSecureWorld.ch.s0.isNone = true ∧ mainSecureWorld.ctx.exportedKey.isNone = true ∧
    mainSecureWorld.ch.KDFContext.isSome = true := by
  decide +kernel

/-- The main channel exports keys once they are derived. -/
theorem soundExport_iff_of_reachable_DHPart : SoundExport mainDHPartWorld := by
  obtain ⟨hstart, hHello, hCommit, hDHPart, -, hok₁, hok₂, hok₃, hok₄, hversion, hsome, -⟩ := isDefined_main
  have hstep {call : Call .sample} {w : World .sample} (w' : World .sample)
      (hdefined : call.isDefined .sample w = true) (hok : call.KeepsExport .sample w)
      (hw : w' = final (perform .sample call) w) : ExportStep w w' :=
    .call (performed_of_eq hw hdefined) hok
  have hstarted := hstep mainStartedWorld hstart hok₁ rfl
  have hhello := hstep mainHelloWorld hHello hok₂ rfl
  have hcommit := hstep mainCommitWorld hCommit hok₃ rfl
  have hdhPart := hstep mainDHPartWorld hDHPart hok₄ rfl
  refine (soundExport_iff_of_reachable ⟨.sample, 0, true, zeros 32, 0, rfl⟩
    ((((Relation.ReflTransGen.single hstarted).tail hhello).tail hcommit).tail hdhPart)).mpr ⟨hversion, ?_⟩
  rintro ⟨hnone, -⟩
  rw [hnone] at hsome
  cases hsome

/-- Once the channel is secure, a first export derives from a null pointer. -/
theorem not_soundExport_of_reachable : ¬ ∀ (P : CipherPrimitives) (w w' : World P), w.Initial →
      Relation.ReflTransGen (fun w w' => ∃ env call, Performed env call w w' ∧ call.OnChannel) w w' →
      SoundExport w' := by
  intro hall
  obtain ⟨hstart, hHello, hCommit, hDHPart, hConfirm, -, -, -, -, -, -, hs0, hkey, hcontext⟩ := isDefined_main
  have hstep {call : Call .sample} {w : World .sample} (w' : World .sample)
      (hdefined : call.isDefined .sample w = true) (hcall : call.OnChannel)
      (hw : w' = final (perform .sample call) w) : ∃ env call, Performed env call w w' ∧ call.OnChannel :=
    ⟨.sample, call, performed_of_eq hw hdefined, hcall⟩
  have hstarted := hstep mainStartedWorld hstart trivial rfl
  have hhello := hstep mainHelloWorld hHello trivial rfl
  have hcommit := hstep mainCommitWorld hCommit trivial rfl
  have hdhPart := hstep mainDHPartWorld hDHPart trivial rfl
  have hsecure := hstep mainSecureWorld hConfirm trivial rfl
  refine not_soundExport_of_spent ?_ (hall .sample sampleWorld mainSecureWorld
    ⟨.sample, 0, true, zeros 32, 0, rfl⟩
    (((((Relation.ReflTransGen.single hstarted).tail hhello).tail hcommit).tail hdhPart).tail hsecure))
  exact ⟨isNone_iff_eq_none.mp hs0, isNone_iff_eq_none.mp hkey, hcontext⟩

end Bzrtp
