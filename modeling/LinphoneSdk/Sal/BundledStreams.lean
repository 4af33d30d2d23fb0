import LinphoneSdk.Sal.OfferAnswer

/-!
# The streams of an answered bundle

What the negotiation of a stream says of it as a member of the bundle of the answer, read off the offer and the local
capabilities, and the answered streams that have it.
-/

namespace Sal

open List Option

/-! ### Descriptions that differ in a part of their configurations -/

namespace SalStreamDescription

/-- The configurations of the second stream are those of the first one, changed in a certain way. -/
structure SameBut (R : SalStreamConfiguration → SalStreamConfiguration → Prop) (s t : SalStreamDescription) : Prop where
  rest : t = { s with cfgs := t.cfgs }
  has (idx : CfgIndex) : t.hasConfigurationAtIndex idx = s.hasConfigurationAtIndex idx
  cfg (idx : CfgIndex) : R (s.getConfigurationAtIndex idx) (t.getConfigurationAtIndex idx)

abbrev SameButProto (s t : SalStreamDescription) : Prop :=
  SameBut (fun cfg cfg' => ∃ proto, cfg' = { cfg with proto := proto }) s t

abbrev SameButPayloads (s t : SalStreamDescription) : Prop :=
  SameBut (fun cfg cfg' => ∃ payloads, cfg' = { cfg with payloads := payloads }) s t

variable {R : SalStreamConfiguration → SalStreamConfiguration → Prop} {s t u : SalStreamDescription} {idx : CfgIndex}
  {cfg : SalStreamConfiguration}

lemma SameBut.cfgIndex (h : SameBut R s t) : t.cfgIndex = s.cfgIndex := by rw [h.rest]

lemma SameBut.rtp_addr (h : SameBut R s t) : t.rtp_addr = s.rtp_addr := by rw [h.rest]

lemma SameBut.rtp_port (h : SameBut R s t) : t.rtp_port = s.rtp_port := by rw [h.rest]

lemma SameBut.trans (hR : ∀ cfg cfg' cfg'', R cfg cfg' → R cfg' cfg'' → R cfg cfg'') (h : SameBut R s t)
    (h' : SameBut R t u) : SameBut R s u where
  rest := by rw [h'.rest, h.rest]
  has idx := (h'.has idx).trans (h.has idx)
  cfg idx := hR _ _ _ (h.cfg idx) (h'.cfg idx)

/-- Another configuration at an index that has one. -/
lemma sameBut_addConfigurationAtIndex (hR : ∀ cfg, R cfg cfg) (h : s.hasConfigurationAtIndex idx)
    (hcfg : R (s.getConfigurationAtIndex idx) cfg) : SameBut R s (s.addConfigurationAtIndex idx cfg) where
  rest := rfl
  has idx' := by
    rw [hasConfigurationAtIndex_addConfigurationAtIndex]
    by_cases heq : idx' = idx
    · simp [heq, h]
    · simp [heq]
  cfg idx' := by
    by_cases heq : idx' = idx
    · subst heq
      rwa [s.getConfigurationAtIndex_addConfigurationAtIndex_self]
    · rw [s.getConfigurationAtIndex_addConfigurationAtIndex_of_ne heq]
      exact hR _

lemma SameButProto.refl (s : SalStreamDescription) : SameButProto s s := ⟨rfl, fun _ => rfl, fun _ => ⟨_, rfl⟩⟩

lemma SameButProto.trans (h : SameButProto s t) (h' : SameButProto t u) : SameButProto s u :=
  SameBut.trans (fun _ _ _ ⟨_, hcfg⟩ ⟨proto, hcfg'⟩ => ⟨proto, by rw [hcfg', hcfg]⟩) h h'

lemma SameButProto.getMid (h : SameButProto s t) : t.getMid = s.getMid := by
  obtain ⟨proto, ht⟩ := h.cfg s.cfgIndex
  rw [SalStreamDescription.getMid, getChosenConfiguration, h.cfgIndex, ht]
  rfl

lemma SameButPayloads.refl (s : SalStreamDescription) : SameButPayloads s s := ⟨rfl, fun _ => rfl, fun _ => ⟨_, rfl⟩⟩

lemma SameButPayloads.trans (h : SameButPayloads s t) (h' : SameButPayloads t u) : SameButPayloads s u :=
  SameBut.trans (fun _ _ _ ⟨_, hcfg⟩ ⟨payloads, hcfg'⟩ => ⟨payloads, by rw [hcfg', hcfg]⟩) h h'

lemma SameButPayloads.getMid (h : SameButPayloads s t) : t.getMid = s.getMid := by
  obtain ⟨payloads, ht⟩ := h.cfg s.cfgIndex
  rw [SalStreamDescription.getMid, getChosenConfiguration, h.cfgIndex, ht]
  rfl

lemma hasConfigurationAtIndex_of_not_equal (h : (s.getConfigurationAtIndex idx).equal {} = false) :
    s.hasConfigurationAtIndex idx = true := by
  rw [hasConfigurationAtIndex]
  rw [getConfigurationAtIndex] at h
  cases hfind : s.cfgs.find idx with
  | none =>
    rw [hfind] at h
    exact absurd SalStreamConfiguration.equal_empty (by rw [getD_none] at h; rw [h]; decide)
  | some cfg => rfl

/-- The configurations of a stream have the mid of the stream. -/
lemma OneMid.mid_eq (h : s.OneMid) (hidx : s.hasConfigurationAtIndex idx) :
    (s.getConfigurationAtIndex idx).mid = s.getMid :=
  (h.mid idx hidx).trans (h.mid s.cfgIndex h.chosen).symm

end SalStreamDescription

namespace OfferAnswerEngine

open SalStreamDescription

variable (engine : OfferAnswerEngine)

/-! ### One configuration -/

structure SameMember (cfg cfg' : SalStreamConfiguration) : Prop where
  mid : cfg'.mid = cfg.mid
  bundle_only : cfg'.bundle_only = cfg.bundle_only
  rtcp_mux : cfg'.rtcp_mux = cfg.rtcp_mux
  dir : cfg'.dir = cfg.dir

section fill

variable {availableEncs : List LinphoneMediaEncryption} {localCfgIdx remoteCfgIdx : CfgIndex}
  {localCfg remoteCfg resultCfg cfg : SalStreamConfiguration}

lemma sameMember_fillSrtpAttributes (h : fillSrtpAttributes availableEncs localCfg remoteCfg resultCfg = some cfg) :
    SameMember resultCfg cfg := by
  rw [fillSrtpAttributes] at h
  split_ifs at h
  · obtain ⟨algo, -, rfl⟩ := map_eq_some_iff.1 h
    exact ⟨rfl, rfl, rfl, rfl⟩
  · cases h
    exact ⟨rfl, rfl, rfl, rfl⟩

lemma sameMember_fillZrtpAttributes
    (h : fillZrtpAttributes availableEncs localCfgIdx remoteCfgIdx localCfg remoteCfg resultCfg = some cfg) :
    SameMember resultCfg cfg := by
  rw [fillZrtpAttributes] at h
  split_ifs at h <;> cases h <;> exact ⟨rfl, rfl, rfl, rfl⟩

lemma sameMember_fillDtlsAttributes (h : fillDtlsAttributes availableEncs localCfg remoteCfg resultCfg = some cfg) :
    SameMember resultCfg cfg := by
  rw [fillDtlsAttributes] at h
  split_ifs at h <;> cases h <;> exact ⟨rfl, rfl, rfl, rfl⟩

end fill

def answeredDirection (remote_offer : SalStreamDescription) (localCfg remoteCfg : SalStreamConfiguration) :
    SalStreamDir :=
  if engine.offersMulticast remote_offer then remoteCfg.dir else computeDirIncoming localCfg.dir remoteCfg.dir

structure Answered (remote_offer : SalStreamDescription) (bundle_owner_mid : String)
    (localCfg remoteCfg cfg : SalStreamConfiguration) : Prop where
  mid : cfg.mid = if bundleEnabled bundle_owner_mid localCfg remoteCfg then remoteCfg.mid else ""
  bundle_only : cfg.bundle_only =
    (bundleEnabled bundle_owner_mid localCfg remoteCfg && remoteCfg.mid != bundle_owner_mid)
  rtcp_mux : cfg.rtcp_mux = (remoteCfg.rtcp_mux && localCfg.rtcp_mux)
  dir : cfg.dir = engine.answeredDirection remote_offer localCfg remoteCfg

section configuration

variable {engine} {local_cap local_cap' remote_offer remote_offer' result : SalStreamDescription} {bundle_owner_mid : String}
  {localCfgIdx remoteCfgIdx : CfgIndex} {localCfg remoteCfg resultCfg cfg : SalStreamConfiguration}

lemma fillDirection_eq_some (h : engine.fillDirection remote_offer localCfg remoteCfg resultCfg = some cfg) :
    cfg.mid = resultCfg.mid ∧ cfg.bundle_only = resultCfg.bundle_only ∧
      cfg.dir = engine.answeredDirection remote_offer localCfg remoteCfg := by
  rw [fillDirection] at h
  rw [answeredDirection]
  split_ifs at h ⊢ <;> cases h <;> exact ⟨rfl, rfl, rfl⟩

lemma completeConfiguration_eq_some
    (h : engine.completeConfiguration local_cap remote_offer localCfgIdx remoteCfgIdx localCfg remoteCfg resultCfg =
      some cfg) : cfg.mid = resultCfg.mid ∧ cfg.bundle_only = resultCfg.bundle_only ∧
      cfg.rtcp_mux = (remoteCfg.rtcp_mux && localCfg.rtcp_mux) ∧
      cfg.dir = engine.answeredDirection remote_offer localCfg remoteCfg := by
  rw [completeConfiguration] at h
  obtain ⟨directed, hdirected, h⟩ := bind_eq_some_iff.1 h
  split_ifs at h
  obtain ⟨secured, hsecured, h⟩ := bind_eq_some_iff.1 h
  obtain ⟨hashed, hhashed, h⟩ := bind_eq_some_iff.1 h
  obtain ⟨fingerprinted, hfingerprinted, h⟩ := bind_eq_some_iff.1 h
  cases h
  obtain ⟨hmid, honly, hdir⟩ := fillDirection_eq_some hdirected
  have hsrtp := sameMember_fillSrtpAttributes hsecured
  have hzrtp := sameMember_fillZrtpAttributes hhashed
  have hdtls := sameMember_fillDtlsAttributes hfingerprinted
  refine ⟨?_, ?_, ?_, ?_⟩
  · exact hdtls.mid.trans (hzrtp.mid.trans (hsrtp.mid.trans hmid))
  · exact hdtls.bundle_only.trans (hzrtp.bundle_only.trans (hsrtp.bundle_only.trans honly))
  · exact hdtls.rtcp_mux.trans (hzrtp.rtcp_mux.trans hsrtp.rtcp_mux)
  · exact hdtls.dir.trans (hzrtp.dir.trans (hsrtp.dir.trans hdir))

lemma fillBundleAttributes_mid : (fillBundleAttributes bundle_owner_mid localCfg remoteCfg {}).mid =
      if bundleEnabled bundle_owner_mid localCfg remoteCfg then remoteCfg.mid else "" := by
  rw [fillBundleAttributes]
  split_ifs <;> rfl

lemma fillBundleAttributes_bundle_only : (fillBundleAttributes bundle_owner_mid localCfg remoteCfg {}).bundle_only =
      (bundleEnabled bundle_owner_mid localCfg remoteCfg && remoteCfg.mid != bundle_owner_mid) := by
  rw [fillBundleAttributes]
  by_cases henabled : bundleEnabled bundle_owner_mid localCfg remoteCfg = true
  · by_cases hmid : remoteCfg.mid = bundle_owner_mid
    · simp [henabled, hmid]
    · simp [henabled, hmid]
  · simp [henabled]

variable (engine) (local_cap remote_offer result) (bundle_owner_mid) (localCfgIdx remoteCfgIdx)

/-- The two streams after an attempt differ from those before it in the payload types and in the protocols. -/
lemma sameBut_initiateIncomingConfiguration :
    SameButPayloads local_cap (engine.initiateIncomingConfiguration local_cap remote_offer result bundle_owner_mid
      localCfgIdx remoteCfgIdx).2.1 ∧
    SameButProto remote_offer (engine.initiateIncomingConfiguration local_cap remote_offer result bundle_owner_mid
      localCfgIdx remoteCfgIdx).2.2 := by
  rw [initiateIncomingConfiguration]
  dsimp only
  by_cases hempty : ((local_cap.getConfigurationAtIndex localCfgIdx).equal {} ||
      (remote_offer.getConfigurationAtIndex remoteCfgIdx).equal {}) = true
  · rw [if_pos hempty]
    exact ⟨.refl _, .refl _⟩
  · rw [if_neg hempty]
    rw [Bool.not_eq_true, Bool.or_eq_false_iff] at hempty
    have hnoted (payloads : List PayloadType) : SameButPayloads local_cap (local_cap.addConfigurationAtIndex localCfgIdx
        { local_cap.getConfigurationAtIndex localCfgIdx with payloads := payloads }) :=
      sameBut_addConfigurationAtIndex (fun cfg => ⟨cfg.payloads, rfl⟩) (hasConfigurationAtIndex_of_not_equal hempty.1)
        ⟨payloads, rfl⟩
    have hdowngraded (proto : SalMediaProto) : SameButProto remote_offer (remote_offer.addConfigurationAtIndex
        remoteCfgIdx { remote_offer.getConfigurationAtIndex remoteCfgIdx with proto := proto }) :=
      sameBut_addConfigurationAtIndex (fun cfg => ⟨cfg.proto, rfl⟩) (hasConfigurationAtIndex_of_not_equal hempty.2)
        ⟨proto, rfl⟩
    split_ifs
    · exact ⟨hnoted _, hdowngraded _⟩
    · exact ⟨hnoted _, .refl _⟩
    · exact ⟨hnoted _, .refl _⟩

variable {engine local_cap remote_offer result bundle_owner_mid localCfgIdx remoteCfgIdx}

lemma answered_initiateIncomingConfiguration (hresult : result.getActualConfiguration = {})
    (h : (engine.initiateIncomingConfiguration local_cap remote_offer result bundle_owner_mid localCfgIdx
      remoteCfgIdx).1 = some cfg) :
    local_cap.hasConfigurationAtIndex localCfgIdx ∧ remote_offer.hasConfigurationAtIndex remoteCfgIdx ∧
      engine.Answered remote_offer bundle_owner_mid (local_cap.getConfigurationAtIndex localCfgIdx)
        (remote_offer.getConfigurationAtIndex remoteCfgIdx) cfg := by
  have hsame := (engine.sameBut_initiateIncomingConfiguration local_cap remote_offer result bundle_owner_mid
    localCfgIdx remoteCfgIdx).2
  rw [initiateIncomingConfiguration] at h hsame
  dsimp only at h hsame
  by_cases hempty : ((local_cap.getConfigurationAtIndex localCfgIdx).equal {} ||
      (remote_offer.getConfigurationAtIndex remoteCfgIdx).equal {}) = true
  · rw [if_pos hempty] at h
    cases h
  rw [if_neg hempty] at h hsame
  by_cases hproto : areProtoCompatibles (local_cap.getConfigurationAtIndex localCfgIdx).proto
      (remote_offer.getConfigurationAtIndex remoteCfgIdx).proto = true
  · rw [if_pos hproto] at h hsame
    obtain ⟨proto, hcfg⟩ := hsame.cfg remoteCfgIdx
    obtain ⟨hmid, honly, hmux, hdir⟩ := completeConfiguration_eq_some h
    rw [Bool.not_eq_true, Bool.or_eq_false_iff] at hempty
    refine ⟨hasConfigurationAtIndex_of_not_equal hempty.1, hasConfigurationAtIndex_of_not_equal hempty.2, ?_⟩
    rw [hresult] at hmid honly
    rw [hcfg] at hmux hdir
    refine ⟨hmid.trans fillBundleAttributes_mid, honly.trans fillBundleAttributes_bundle_only, hmux, hdir.trans ?_⟩
    rw [answeredDirection, answeredDirection, offersMulticast, offersMulticast, hsame.rtp_addr]
  · rw [if_neg hproto] at h
    cases h

lemma Answered.of_sameBut
    (h : engine.Answered remote_offer' bundle_owner_mid (local_cap'.getConfigurationAtIndex localCfgIdx)
      (remote_offer'.getConfigurationAtIndex remoteCfgIdx) cfg)
    (hlocal : SameButPayloads local_cap local_cap') (hremote : SameButProto remote_offer remote_offer') :
    engine.Answered remote_offer bundle_owner_mid (local_cap.getConfigurationAtIndex localCfgIdx)
      (remote_offer.getConfigurationAtIndex remoteCfgIdx) cfg := by
  obtain ⟨payloads, hlocalCfg⟩ := hlocal.cfg localCfgIdx
  obtain ⟨proto, hcfg⟩ := hremote.cfg remoteCfgIdx
  rw [hlocalCfg, hcfg] at h
  refine ⟨h.mid, h.bundle_only, h.rtcp_mux, h.dir.trans ?_⟩
  rw [answeredDirection, answeredDirection, offersMulticast, offersMulticast, hremote.rtp_addr]

end configuration

/-! ### One stream -/

section stream

variable {engine} {local_cap remote_offer result ls rs stream : SalStreamDescription} {bundle_owner_mid : String}
  {allowCapabilityNegotiation : Bool} {localCfgIdx remoteCfgIdx : CfgIndex} {cfg : SalStreamConfiguration}

variable (engine local_cap remote_offer result bundle_owner_mid allowCapabilityNegotiation) in
lemma sameBut_negotiateConfigurations :
    SameButPayloads local_cap (engine.negotiateConfigurations local_cap remote_offer result bundle_owner_mid
      allowCapabilityNegotiation).2.1 ∧
    SameButProto remote_offer (engine.negotiateConfigurations local_cap remote_offer result bundle_owner_mid
      allowCapabilityNegotiation).2.2 := by
  rw [negotiateConfigurations]
  generalize configurationPairs local_cap remote_offer allowCapabilityNegotiation = pairs
  induction pairs generalizing local_cap remote_offer with
  | nil => exact ⟨.refl _, .refl _⟩
  | cons pair pairs ih =>
    have hsame := engine.sameBut_initiateIncomingConfiguration local_cap remote_offer result bundle_owner_mid
      pair.1 pair.2
    rw [firstAnswered]
    split
    · next heq => rwa [heq] at hsame
    · next local_cap' remote_offer' heq =>
      rw [heq] at hsame
      obtain ⟨hlocal, hremote⟩ := ih local_cap' remote_offer'
      exact ⟨hsame.1.trans hlocal, hsame.2.trans hremote⟩

lemma answered_negotiateConfigurations (hresult : result.getActualConfiguration = {})
    (h : (engine.negotiateConfigurations local_cap remote_offer result bundle_owner_mid
      allowCapabilityNegotiation).1 = some (cfg, localCfgIdx, remoteCfgIdx)) :
    local_cap.hasConfigurationAtIndex localCfgIdx ∧ remote_offer.hasConfigurationAtIndex remoteCfgIdx ∧
      engine.Answered remote_offer bundle_owner_mid (local_cap.getConfigurationAtIndex localCfgIdx)
        (remote_offer.getConfigurationAtIndex remoteCfgIdx) cfg := by
  rw [negotiateConfigurations] at h
  generalize configurationPairs local_cap remote_offer allowCapabilityNegotiation = pairs at h
  induction pairs generalizing local_cap remote_offer with
  | nil => cases h
  | cons pair pairs ih =>
    have hsame := engine.sameBut_initiateIncomingConfiguration local_cap remote_offer result bundle_owner_mid
      pair.1 pair.2
    rw [firstAnswered] at h
    split at h
    · next heq =>
      cases h
      exact answered_initiateIncomingConfiguration hresult (congrArg Prod.fst heq)
    · next heq =>
      rw [heq] at hsame
      obtain ⟨hlocal, hremote, hanswered⟩ := ih h
      exact ⟨hsame.1.has _ ▸ hlocal, hsame.2.has _ ▸ hremote, hanswered.of_sameBut hsame.1 hsame.2⟩

end stream

structure BundledStream where
  mid : String
  /-- It is the transport owner of its group in the offer. -/
  owns : Bool
  /-- Both configurations that are chosen have RTCP multiplexing. -/
  rtcp_mux : Bool
  /-- The local port, or the offered one if the address is multicast. -/
  port : ℤ
  /-- The direction that is answered is not inactive. -/
  active : Bool
  deriving DecidableEq

/-- A stream that does not own the transport has no port. -/
def BundledStream.enabled (b : BundledStream) : Bool := if b.owns then decide (0 < b.port) else b.active

/-- The stream of the bundle for the configurations that are chosen, if its mid can be answered. -/
def bundleMember (ls rs : SalStreamDescription) (bundle_owner_mid : String)
    (localCfg remoteCfg : SalStreamConfiguration) : Option BundledStream :=
  if bundleEnabled bundle_owner_mid localCfg remoteCfg then
    some {
      mid := rs.getMid
      owns := rs.getMid == bundle_owner_mid
      rtcp_mux := remoteCfg.rtcp_mux && localCfg.rtcp_mux
      port := if engine.offersMulticast rs then rs.rtp_port else ls.rtp_port
      active := engine.answeredDirection rs localCfg remoteCfg != .inactive }
  else none

def answeredMember (ls rs : SalStreamDescription) (bundle_owner_mid : String) (allowCapabilityNegotiation : Bool) :
    Option BundledStream :=
  (engine.negotiateConfigurations ls rs (incomingResult ls rs) bundle_owner_mid allowCapabilityNegotiation).1.bind
    fun answered => engine.bundleMember ls rs bundle_owner_mid (ls.getConfigurationAtIndex answered.2.1)
      (rs.getConfigurationAtIndex answered.2.2)

def IsAnswer (stream : SalStreamDescription) : Option BundledStream → Prop
  | none => stream.getMid = ""
  | some b => stream.getMid = b.mid ∧ stream.isBundleOnly = !b.owns ∧
      stream.getChosenConfiguration.rtcp_mux = b.rtcp_mux ∧ stream.enabled = b.enabled ∧
      (b.owns = true → stream.rtp_port = b.port)

section stream

variable {engine} {stream stream' ls rs : SalStreamDescription} {bundle_owner_mid : String} {b? : Option BundledStream}
  {allowCapabilityNegotiation : Bool} {resultCfg : SalStreamConfiguration}

lemma IsAnswer.congr (h : IsAnswer stream b?) (hport : stream'.rtp_port = stream.rtp_port)
    (hcfg : SameMember stream.getChosenConfiguration stream'.getChosenConfiguration) : IsAnswer stream' b? := by
  have hmid : stream'.getMid = stream.getMid := hcfg.mid
  have honly : stream'.isBundleOnly = stream.isBundleOnly := hcfg.bundle_only
  have henabled : stream'.enabled = stream.enabled := by
    rw [SalStreamDescription.enabled, SalStreamDescription.enabled, hport, honly, hcfg.dir]
  cases b? with
  | none => exact hmid.trans h
  | some b =>
    obtain ⟨hmid', honly', hmux', henabled', hport'⟩ := h
    exact ⟨hmid.trans hmid', honly.trans honly', hcfg.rtcp_mux.trans hmux', henabled.trans henabled',
      fun howns => hport.trans (hport' howns)⟩

lemma fillTransport_cfgs : (engine.fillTransport ls rs stream resultCfg).cfgs = stream.cfgs := by
  rw [fillTransport]
  split_ifs <;> rfl

lemma fillTransport_cfgIndex : (engine.fillTransport ls rs stream resultCfg).cfgIndex = stream.cfgIndex := by
  rw [fillTransport]
  split_ifs <;> rfl

lemma fillTransport_rtp_port : (engine.fillTransport ls rs stream resultCfg).rtp_port =
    if resultCfg.bundle_only then 0 else if engine.offersMulticast rs then rs.rtp_port else ls.rtp_port := by
  rw [fillTransport]
  split_ifs <;> rfl

lemma getChosenConfiguration_addActualConfiguration (h : stream.cfgIndex = actualConfigurationIndex) :
    (stream.addActualConfiguration resultCfg).getChosenConfiguration = resultCfg := by
  rw [getChosenConfiguration]
  change (stream.addActualConfiguration resultCfg).getConfigurationAtIndex stream.cfgIndex = resultCfg
  rw [h, addActualConfiguration, getConfigurationAtIndex_addConfigurationAtIndex_self]

/-- The answer may get another configuration that says the same of the bundle. -/
lemma IsAnswer.addActualConfiguration (h : IsAnswer stream b?) (hindex : stream.cfgIndex = actualConfigurationIndex)
    (attributes : List (String × String)) (hcfg : SameMember stream.getActualConfiguration resultCfg) :
    IsAnswer ({ stream with custom_sdp_attributes := attributes }.addActualConfiguration resultCfg) b? := by
  refine h.congr rfl ?_
  have hchosen : stream.getChosenConfiguration = stream.getActualConfiguration := by
    rw [getChosenConfiguration, hindex, getActualConfiguration]
  have hadded : ({ stream with custom_sdp_attributes := attributes }.addActualConfiguration
      resultCfg).getChosenConfiguration = resultCfg := getChosenConfiguration_addActualConfiguration hindex
  rw [hchosen, hadded]
  exact hcfg

lemma isAnswer_fillTransport {ls' rs' : SalStreamDescription} {localCfg : SalStreamConfiguration} {remoteCfgIdx : CfgIndex}
    (hstream : stream.cfgIndex = actualConfigurationIndex) (hlocal : SameButPayloads ls ls')
    (hsame : SameButProto rs rs') (hrs : rs.OneMid) (hremote : rs.hasConfigurationAtIndex remoteCfgIdx)
    (h : engine.Answered rs bundle_owner_mid localCfg (rs.getConfigurationAtIndex remoteCfgIdx) resultCfg) :
    IsAnswer (engine.fillTransport ls' rs' (stream.addActualConfiguration resultCfg) resultCfg)
      (engine.bundleMember ls rs bundle_owner_mid localCfg (rs.getConfigurationAtIndex remoteCfgIdx)) := by
  have hchosen : (engine.fillTransport ls' rs' (stream.addActualConfiguration resultCfg)
      resultCfg).getChosenConfiguration = resultCfg := by
    rw [getChosenConfiguration, getConfigurationAtIndex, fillTransport_cfgs, fillTransport_cfgIndex]
    exact getChosenConfiguration_addActualConfiguration hstream
  have hport : (engine.fillTransport ls' rs' (stream.addActualConfiguration resultCfg) resultCfg).rtp_port = _ :=
    fillTransport_rtp_port
  generalize engine.fillTransport ls' rs' (stream.addActualConfiguration resultCfg) resultCfg = answer at hchosen hport
  have hmid := h.mid
  have honly := h.bundle_only
  rw [hrs.mid_eq hremote] at hmid honly
  rw [bundleMember]
  by_cases hbundle : bundleEnabled bundle_owner_mid localCfg (rs.getConfigurationAtIndex remoteCfgIdx) = true
  · rw [if_pos hbundle]
    rw [if_pos hbundle] at hmid
    rw [hbundle, Bool.true_and] at honly
    have hanswerOnly : answer.isBundleOnly = !(rs.getMid == bundle_owner_mid) := by
      rw [isBundleOnly, hchosen, honly]
      rfl
    have hanswerPort (howns : (rs.getMid == bundle_owner_mid) = true) :
        answer.rtp_port = if engine.offersMulticast rs then rs.rtp_port else ls.rtp_port := by
      have hnotOnly : resultCfg.bundle_only = false := by rw [honly, bne, howns]; rfl
      rw [hport, hnotOnly, offersMulticast, hsame.rtp_addr, hsame.rtp_port, hlocal.rtp_port]
      rfl
    refine ⟨?_, hanswerOnly, ?_, ?_, hanswerPort⟩
    · rw [getMid, hchosen, hmid]
    · rw [hchosen, h.rtcp_mux]
    · rw [SalStreamDescription.enabled, hanswerOnly, hchosen, h.dir, BundledStream.enabled]
      cases howns : rs.getMid == bundle_owner_mid with
      | true => simp [hanswerPort howns]
      | false =>
        have hzero : answer.rtp_port = 0 := by
          rw [hport, honly, bne, howns]
          rfl
        simp [hzero]
  · rw [if_neg hbundle]
    rw [if_neg hbundle] at hmid
    rw [IsAnswer, getMid, hchosen, hmid]

variable (engine bundle_owner_mid allowCapabilityNegotiation) in
/-- What the negotiation of a stream answers, and that the two streams keep their mids. -/
lemma initiateIncomingStream_spec (hls : ls.OneMid) (hrs : rs.OneMid) :
    IsAnswer (engine.initiateIncomingStream ls rs bundle_owner_mid allowCapabilityNegotiation).1
        (engine.answeredMember ls rs bundle_owner_mid allowCapabilityNegotiation) ∧
      (engine.initiateIncomingStream ls rs bundle_owner_mid allowCapabilityNegotiation).1.cfgIndex =
        actualConfigurationIndex ∧
      (engine.initiateIncomingStream ls rs bundle_owner_mid allowCapabilityNegotiation).2.1.getMid = ls.getMid ∧
      (engine.initiateIncomingStream ls rs bundle_owner_mid allowCapabilityNegotiation).2.2.getMid = rs.getMid := by
  have hsame := sameBut_negotiateConfigurations engine ls rs (incomingResult ls rs) bundle_owner_mid
    allowCapabilityNegotiation
  have hanswered (cfg : SalStreamConfiguration) (localCfgIdx remoteCfgIdx : CfgIndex)
      (h : (engine.negotiateConfigurations ls rs (incomingResult ls rs) bundle_owner_mid
        allowCapabilityNegotiation).1 = some (cfg, localCfgIdx, remoteCfgIdx)) :=
    answered_negotiateConfigurations (show (incomingResult ls rs).getActualConfiguration = {} from rfl) h
  rw [initiateIncomingStream, answeredMember]
  generalize engine.negotiateConfigurations ls rs (incomingResult ls rs) bundle_owner_mid allowCapabilityNegotiation =
    negotiated at hsame hanswered
  obtain ⟨_ | ⟨cfg, localCfgIdx, remoteCfgIdx⟩, ls', rs'⟩ := negotiated
  · exact ⟨getMid_disable _, rfl, hsame.1.getMid, hsame.2.getMid⟩
  · obtain ⟨hlocal, hremote, hcfg⟩ := hanswered cfg localCfgIdx remoteCfgIdx rfl
    refine ⟨isAnswer_fillTransport rfl hsame.1 hsame.2 hrs hremote hcfg, fillTransport_cfgIndex, ?_, ?_⟩
    · obtain ⟨payloads, hpayloads⟩ := hsame.1.cfg localCfgIdx
      change (ls'.getConfigurationAtIndex localCfgIdx).mid = ls.getMid
      rw [hpayloads, ← hls.mid_eq hlocal]
    · obtain ⟨proto, hproto⟩ := hsame.2.cfg remoteCfgIdx
      change (rs'.getConfigurationAtIndex remoteCfgIdx).mid = rs.getMid
      rw [hproto, ← hrs.mid_eq hremote]

end stream

/-! ### The whole description -/

/-- The stream of the bundle at an index of the offer, if the two streams at the index can be negotiated. -/
def bundledStream (local_capabilities remote_offer : SalMediaDescription) (i : ℕ) : Option BundledStream :=
  (remote_offer.streams[i]?).bind fun rs => (local_capabilities.streams[i]?).bind fun ls =>
    if rs.type = ls.type ∧ areProtoInStreamCompatibles ls rs then
      engine.answeredMember ls rs (bundleOwnerMid local_capabilities remote_offer rs)
        local_capabilities.capabilityNegotiationSupported
    else none

end OfferAnswerEngine

namespace SalMediaDescription

variable {md md' : SalMediaDescription} {s s' : SalStreamDescription} {mid : String} {i : ℕ}

lemma lookupMid_eq : md.lookupMid mid = match md.mids.findIdx? (· == mid) with
    | some index => (index : ℤ)
    | none => -1 := by
  rw [lookupMid, mids, findIdx?_map]
  rfl

lemma getIndexOfTransportOwner_congr (hmids : md'.mids = md.mids) (hbundles : md'.bundles = md.bundles)
    (hs : s'.getMid = s.getMid) : md'.getIndexOfTransportOwner s' = md.getIndexOfTransportOwner s := by
  simp only [getIndexOfTransportOwner, getBundleFromMid, lookupMid_eq, hmids, hbundles, hs]

/-- The mids do not change with a stream that keeps its mid. -/
lemma mids_set (hs : md.streams[i]? = some s) (hmid : s'.getMid = s.getMid) :
    (md.streams.set i s').map (·.getMid) = md.mids := by
  refine ext_getElem? fun k => ?_
  rw [mids, getElem?_map, getElem?_map, getElem?_set]
  split_ifs with hik hlen
  · rw [← hik, hs, map_some, map_some, hmid]
  · exact absurd (List.getElem?_eq_some_iff.1 hs).1 (hik ▸ hlen)
  · rfl

end SalMediaDescription

namespace OfferAnswerEngine

open SalMediaDescription

variable {engine : OfferAnswerEngine} {l r : SalMediaDescription} {i : ℕ} {n : Negotiation}

/-- The mid of the transport owner is that in descriptions with the same mids. -/
lemma bundleOwnerMid_congr {l' r' : SalMediaDescription} {rs : SalStreamDescription}
    (haccept : l'.accept_bundles = l.accept_bundles) (hmids : r'.mids = r.mids) (hbundles : r'.bundles = r.bundles) :
    bundleOwnerMid l' r' rs = bundleOwnerMid l r rs := by
  have howner (k : ℕ) : (r'.streams[k]?).map (·.getMid) = (r.streams[k]?).map (·.getMid) := by
    rw [← getElem?_map, ← getElem?_map]
    exact congrArg (·[k]?) hmids
  simp only [bundleOwnerMid, haccept, getIndexOfTransportOwner_congr hmids hbundles rfl, howner]

/-- The negotiation has come to a stream. The answers are those of the streams of the bundle, and the two descriptions
have kept their mids and the streams that it has not come to. -/
structure Negotiated (engine : OfferAnswerEngine) (l r : SalMediaDescription) (i : ℕ) (n : Negotiation) : Prop where
  localMids : n.local_capabilities.mids = l.mids
  localBundles : n.local_capabilities.bundles = l.bundles
  localAccept : n.local_capabilities.accept_bundles = l.accept_bundles
  localStreams : ∀ j, i ≤ j → n.local_capabilities.streams[j]? = l.streams[j]?
  remoteMids : n.remote_offer.mids = r.mids
  remoteBundles : n.remote_offer.bundles = r.bundles
  remoteStreams : ∀ j, i ≤ j → n.remote_offer.streams[j]? = r.streams[j]?
  length : n.result.streams.length = i
  bundles : n.result.bundles = []
  supported : n.result.capabilityNegotiationSupported = l.capabilityNegotiationSupported
  answers : ∀ k s, n.result.streams[k]? = some s → IsAnswer s (engine.bundledStream l r k)

lemma negotiated_init : engine.Negotiated l r 0 ⟨l, r, incomingDescription l r⟩ where
  localMids := rfl
  localBundles := rfl
  localAccept := rfl
  localStreams _ _ := rfl
  remoteMids := rfl
  remoteBundles := rfl
  remoteStreams _ _ := rfl
  length := rfl
  bundles := rfl
  supported := rfl
  answers _ _ h := by cases h

lemma Negotiated.concat {s : SalStreamDescription} (h : engine.Negotiated l r i n)
    (hs : IsAnswer s (engine.bundledStream l r i)) :
    engine.Negotiated l r (i + 1) { n with result.streams := n.result.streams ++ [s] } where
  localMids := h.localMids
  localBundles := h.localBundles
  localAccept := h.localAccept
  localStreams j hj := h.localStreams j (by omega)
  remoteMids := h.remoteMids
  remoteBundles := h.remoteBundles
  remoteStreams j hj := h.remoteStreams j (by omega)
  length := by rw [length_append, h.length]; rfl
  bundles := h.bundles
  supported := h.supported
  answers k t ht := by
    obtain hk | hk := Nat.lt_or_ge k n.result.streams.length
    · rw [getElem?_append_left hk] at ht
      exact h.answers k t ht
    · rw [getElem?_append_right hk, getElem?_singleton] at ht
      split_ifs at ht with hzero
      cases ht
      rw [show k = i from h.length ▸ Nat.le_antisymm (Nat.sub_eq_zero_iff_le.1 hzero) hk]
      exact hs

/-- The two streams at the index get other configurations. -/
lemma Negotiated.set {ls ls' rs rs' : SalStreamDescription} (h : engine.Negotiated l r (i + 1) n)
    (hls : n.local_capabilities.streams[i]? = some ls) (hlmid : ls'.getMid = ls.getMid)
    (hrs : n.remote_offer.streams[i]? = some rs) (hrmid : rs'.getMid = rs.getMid) :
    engine.Negotiated l r (i + 1) { n with
      local_capabilities.streams := n.local_capabilities.streams.set i ls'
      remote_offer.streams := n.remote_offer.streams.set i rs' } where
  localMids := (mids_set hls hlmid).trans h.localMids
  localBundles := h.localBundles
  localAccept := h.localAccept
  localStreams j hj := by rw [← h.localStreams j hj]; exact getElem?_set_ne (by omega)
  remoteMids := (mids_set hrs hrmid).trans h.remoteMids
  remoteBundles := h.remoteBundles
  remoteStreams j hj := by rw [← h.remoteStreams j hj]; exact getElem?_set_ne (by omega)
  length := h.length
  bundles := h.bundles
  supported := h.supported
  answers := h.answers

lemma isAnswer_declinedStream (rs : SalStreamDescription) (attributes : List (String × String)) :
    IsAnswer { declinedStream rs with custom_sdp_attributes := attributes } none := by
  have hchosen : (declinedStream rs).getChosenConfiguration = _ := getChosenConfiguration_addActualConfiguration rfl
  exact congrArg SalStreamConfiguration.mid hchosen

lemma Negotiated.step (h : engine.Negotiated l r i n) (hi : i < r.streams.length)
    (hl : ∀ s ∈ l.streams, s.OneMid) (hr : ∀ s ∈ r.streams, s.OneMid) :
    engine.Negotiated l r (i + 1) (engine.negotiateStream n i) := by
  obtain ⟨rs, hrs⟩ : ∃ rs, r.streams[i]? = some rs := ⟨_, getElem?_eq_getElem hi⟩
  have hrs' : n.remote_offer.streams[i]? = some rs := (h.remoteStreams i le_rfl).trans hrs
  rw [negotiateStream, hrs']
  dsimp only
  cases hls : l.streams[i]? with
  | none =>
    rw [(h.localStreams i le_rfl).trans hls]
    refine h.concat ?_
    rw [bundledStream, hrs, hls]
    exact isAnswer_declinedStream rs _
  | some ls =>
    have hls' : n.local_capabilities.streams[i]? = some ls := (h.localStreams i le_rfl).trans hls
    rw [hls']
    dsimp only
    have hmember : engine.bundledStream l r i = if rs.type = ls.type ∧ areProtoInStreamCompatibles ls rs then
        engine.answeredMember ls rs (bundleOwnerMid l r rs) l.capabilityNegotiationSupported else none := by
      rw [bundledStream, hrs, hls]
      rfl
    split_ifs with hcompatible
    · obtain ⟨hanswer, hindex, hlmid, hrmid⟩ := initiateIncomingStream_spec engine
        (bundleOwnerMid n.local_capabilities n.remote_offer rs) n.result.capabilityNegotiationSupported
        (hl ls (mem_of_getElem? hls)) (hr rs (mem_of_getElem? hrs))
      refine (h.concat ?_).set hls' hlmid hrs' hrmid
      rw [hmember, if_pos hcompatible, ← h.supported, ← bundleOwnerMid_congr h.localAccept h.remoteMids h.remoteBundles]
      exact hanswer.addActualConfiguration hindex _ ⟨rfl, rfl, rfl, rfl⟩
    · refine h.concat ?_
      rw [hmember, if_neg hcompatible]
      exact isAnswer_declinedStream rs _

variable (engine) in
lemma negotiated_negotiateStreams (hl : ∀ s ∈ l.streams, s.OneMid) (hr : ∀ s ∈ r.streams, s.OneMid) :
    engine.Negotiated l r r.streams.length (engine.negotiateStreams l r) := by
  have hrun (k : ℕ) (hk : k ≤ r.streams.length) :
      engine.Negotiated l r k
        ((range k).foldl engine.negotiateStream ⟨l, r, incomingDescription l r⟩) := by
    induction k with
    | zero => exact negotiated_init
    | succ k ih =>
      rw [range_succ, foldl_concat]
      exact (ih (by omega)).step hk hl hr
  exact hrun r.streams.length le_rfl

end OfferAnswerEngine

end Sal
