import LinphoneSdk.Sal.BundledStreams
import LinphoneSdk.Sal.PayloadMatching
import Mathlib.Data.List.TakeWhile

/-!
# Failed negotiation attempts

With capability negotiation, `initiateIncomingStream` tries the pairs of configurations until one is answered. An
attempt matches the payload types, and downgrades an AVPF configuration of the offer to AVP, before its last checks. So
an attempt that fails may leave both descriptions changed, for the attempts after it and for the caller: the protocol
of the offered configuration, and in the local one what the providers note down in its payload types.
-/

namespace Sal

open SalStreamDescription List Option PayloadType

/-- The protocol without feedback. -/
def SalMediaProto.avp : SalMediaProto → SalMediaProto
  | .rtpAvpf => .rtpAvp
  | .rtpSavpf => .rtpSavp
  | .udpTlsRtpSavpf => .udpTlsRtpSavp
  | proto => proto

namespace SalStreamConfiguration

def withProto (proto : SalMediaProto) (cfg : SalStreamConfiguration) : SalStreamConfiguration :=
  { cfg with proto := proto }

/-- The answer with another protocol and other payload types. -/
def withAnswer (proto : SalMediaProto) (payloads : List PayloadType) (cfg : SalStreamConfiguration) :
    SalStreamConfiguration :=
  { cfg with proto := proto, payloads := payloads }

/-- The configuration once it is downgraded. -/
def toAvp (cfg : SalStreamConfiguration) : SalStreamConfiguration := cfg.withProto cfg.proto.avp

variable {cfg : SalStreamConfiguration}

lemma hasAvpf_toAvp : cfg.toAvp.hasAvpf = false := by
  rw [hasAvpf, toAvp, withProto]
  cases cfg.proto <;> rfl

lemma toAvp_eq_self_iff : cfg.toAvp = cfg ↔ cfg.hasAvpf = false := by
  constructor
  · intro h
    rw [← h, hasAvpf_toAvp]
  · intro h
    have hproto : cfg.proto.avp = cfg.proto := by
      rw [hasAvpf] at h
      cases hproto : cfg.proto <;> rw [hproto] at h <;> first | rfl | cases h
    rw [toAvp, hproto]
    rfl

lemma withAnswer_eq_self_iff {proto : SalMediaProto} {payloads : List PayloadType} :
    cfg.withAnswer proto payloads = cfg ↔ cfg.proto = proto ∧ cfg.payloads = payloads := by
  constructor
  · intro h
    exact ⟨(congrArg SalStreamConfiguration.proto h).symm, (congrArg SalStreamConfiguration.payloads h).symm⟩
  · rintro ⟨rfl, rfl⟩
    rfl

lemma isSamePayloadList_nil (payloads : List PayloadType) :
    isSamePayloadList payloads [] = payloads.all isRecvOnly := by
  cases payloads <;> rfl

end SalStreamConfiguration

/-- The payload type without its parameters. -/
def PayloadType.codec (pt : PayloadType) : PayloadType := { pt with recv_fmtp := none, send_fmtp := none }

/-- What decides if an answered payload type counts. -/
def PayloadType.kind (pt : PayloadType) : Bool × Bool := (pt.hasMime "telephone-event", pt.hasMime "flexfec")

open SalStreamConfiguration

namespace OfferAnswerEngine

variable (engine : OfferAnswerEngine)

/-! ### What is noted down -/

/-- The matching changes no more than the parameters of the local payload types, and they do not decide if a codec is
matched. -/
structure KeepsCodecs : Prop where
  noted (localPayloads remotePayloads : List PayloadType) :
    (engine.notePayloads localPayloads remotePayloads).map codec = localPayloads.map codec
  matched {localPayloads localPayloads' : List PayloadType}
    (h : localPayloads'.map codec = localPayloads.map codec) (remotePayloads : List PayloadType)
    (bundle_enabled : Bool) : onlyTelephoneEvent (engine.matchPayloads localPayloads' remotePayloads bundle_enabled) =
      onlyTelephoneEvent (engine.matchPayloads localPayloads remotePayloads bundle_enabled)

section notes

variable {engine} {l l' remotePayloads : List PayloadType} {p2 : PayloadType} {place : ℕ}

lemma map_codec_modify {f : PayloadType → PayloadType} (hf : ∀ pt, (f pt).codec = pt.codec) (i : ℕ) :
    (l.modify i f).map codec = l.map codec := by
  refine ext_getElem? fun j => ?_
  rw [getElem?_map, getElem?_map, getElem?_modify]
  cases l[j]? with
  | none => rfl
  | some pt =>
    change some (if i = j then f pt else pt).codec = some pt.codec
    split_ifs
    · rw [hf]
    · rfl

lemma codecs_redNoted (l remotePayloads : List PayloadType) : (redNoted l remotePayloads).map codec = l.map codec := by
  rw [redNoted]
  cases remotePayloads.find? (·.hasMime "t140") with
  | none => rfl
  | some pt2 =>
    refine map_codec_modify (fun pt => ?_) _
    rw [setRecvFmtp]
    split_ifs <;> rfl

lemma codecs_h264Noted (l : List PayloadType) (place : ℕ) (remotePayloads : List PayloadType) :
    (h264Noted l place remotePayloads).map codec = l.map codec := by
  rw [h264Noted]
  split_ifs
  · refine map_codec_modify (fun pt => ?_) _
    rw [fixPacketizationMode]
    split_ifs <;> rfl
  · rfl

lemma codecs_notePayload : (engine.withProviders.notePayload l p2 place remotePayloads).map codec = l.map codec := by
  rw [notePayload]
  cases h : p2.mime_type.bind engine.withProviders.mMsFactory with
  | none => rfl
  | some ctx =>
    obtain ⟨mime_type, -, hcontext⟩ := bind_eq_some_iff.1 h
    obtain ⟨match_payload, -, rfl⟩ := map_eq_some_iff.1 hcontext
    dsimp only
    split_ifs
    · exact codecs_redNoted l remotePayloads
    · exact codecs_h264Noted l place remotePayloads
    · rfl

lemma strcasecmp_trans {s t u : String} (h : strcasecmp s t = true) (h' : strcasecmp s u = true) :
    strcasecmp t u = true := by
  simp only [strcasecmp, beq_iff_eq] at h h' ⊢
  rw [← h, h']

lemma kind_of_h264 {pt : PayloadType} (h : pt.hasMime "h264" = true) : pt.kind = (false, false) := by
  rw [hasMime, Option.any_eq_true] at h
  obtain ⟨mime, hmime, h264⟩ := h
  have hother (name : String) (hname : strcasecmp "h264" name = false) : pt.hasMime name = false := by
    rw [hasMime, hmime, Option.any_some]
    by_contra htrue
    rw [Bool.not_eq_false] at htrue
    exact Bool.false_ne_true (hname.symm.trans (strcasecmp_trans h264 htrue))
  exact Prod.ext (hother _ (by decide)) (hother _ (by decide))

/-- Whichever payload type `h264_match` takes, it is one of that codec. -/
lemma kind_h264Match : (h264Match l p2 place remotePayloads).map kind =
    if (remotePayloads.findIdx? fun pt => pt.hasMime "h264" && getPacketizationMode pt.send_fmtp == 1).all
        (· == place) && l.any (·.hasMime "h264") then some (false, false) else none := by
  have hhead (f : PayloadType → PayloadType) (hf : ∀ pt, (f pt).kind = pt.kind) :
      ((l.filter (·.hasMime "h264")).head?.map f).map kind =
        if l.any (·.hasMime "h264") then some (false, false) else none := by
    cases hlist : l.filter (·.hasMime "h264") with
    | nil =>
      rw [if_neg (by simpa using hlist)]
      rfl
    | cons pt list =>
      have hmem : pt ∈ l.filter (·.hasMime "h264") := hlist ▸ mem_cons_self
      rw [mem_filter] at hmem
      rw [if_pos (any_eq_true.2 ⟨pt, hmem⟩), head?_cons, map_some, map_some, hf, kind_of_h264 hmem.2]
  rw [h264Match]
  cases remotePayloads.findIdx? fun pt => pt.hasMime "h264" && getPacketizationMode pt.send_fmtp == 1 with
  | none => exact hhead _ fun _ => rfl
  | some mode1 =>
    by_cases hplace : mode1 = place
    · simp only [hplace, ne_eq, not_true_eq_false, if_false, all_some, beq_self_eq_true, Bool.true_and]
      cases hfind : (l.filter (·.hasMime "h264")).find? fun pt => getPacketizationMode pt.recv_fmtp == 1 with
      | some pt =>
        have hmem := mem_filter.1 (mem_of_find?_eq_some hfind)
        rw [if_pos (any_eq_true.2 ⟨pt, hmem⟩), ← kind_of_h264 hmem.2]
        rfl
      | none =>
        refine hhead _ fun pt => ?_
        rw [fixPacketizationMode]
        split_ifs <;> rfl
    · simp [hplace]

/-- The parameters of the local payload types do not decide if a codec is matched. -/
lemma kind_findPayloadTypeBestMatch (h : l'.map codec = l.map codec) :
    (engine.withProviders.findPayloadTypeBestMatch l' p2 place remotePayloads).map kind =
      (engine.withProviders.findPayloadTypeBestMatch l p2 place remotePayloads).map kind := by
  suffices hcodec : ∀ l,
      (engine.withProviders.findPayloadTypeBestMatch l p2 place remotePayloads).map kind =
        (engine.withProviders.findPayloadTypeBestMatch (l.map codec) p2 place remotePayloads).map kind by
    rw [hcodec l', hcodec l, h]
  intro l
  rw [findPayloadTypeBestMatch, findPayloadTypeBestMatch]
  cases hcontext : p2.mime_type.bind engine.withProviders.mMsFactory with
  | none =>
    simp only [genericMatch, List.find?_map, Option.map_map]
    rfl
  | some ctx =>
    obtain ⟨mime_type, -, hcontext⟩ := Option.bind_eq_some_iff.1 hcontext
    obtain ⟨match_payload, hprovider, rfl⟩ := Option.map_eq_some_iff.1 hcontext
    obtain ⟨⟨_, provider⟩, hfind, rfl⟩ := Option.map_eq_some_iff.1 hprovider
    have hmem := List.mem_of_find?_eq_some hfind
    dsimp only
    rw [offerAnswerProviders, List.mem_cons, List.mem_cons, List.mem_cons, List.mem_singleton] at hmem
    rcases hmem with hmem | hmem | hmem | hmem <;> cases hmem
    · simp only [opusMatch, List.filter_map, List.getLast?_map, List.head?_map]
      split_ifs
      · rw [Option.map_map, Option.map_map, Option.map_map]
        rfl
      · rw [Option.map_map, Option.map_map, Option.map_map]
        rfl
      · rfl
    · simp only [g729AMatch, List.filter_map, List.getLast?_map, Option.map_map]
      rfl
    · simp only [redMatch, List.find?_map, Option.map_map]
      cases remotePayloads.find? (·.hasMime "t140") <;> rfl
    · rw [kind_h264Match, kind_h264Match, List.any_map]
      rfl

lemma kind_answeredPayload (matched : PayloadType) : (engine.answeredPayload matched p2).kind = matched.kind := by
  have hmime : (engine.answeredPayload matched p2).mime_type = matched.mime_type :=
    @PayloadMatching.mime_type_sentPayload engine false matched p2
  rw [kind, hasMime, hasMime, hmime]
  rfl

lemma kind_matchOffered {bundle_enabled : Bool} (offered : List (PayloadType × ℕ)) (found_codec : Bool)
    (h : l'.map codec = l.map codec) :
    (engine.withProviders.matchOffered remotePayloads bundle_enabled offered found_codec l').map kind =
      (engine.withProviders.matchOffered remotePayloads bundle_enabled offered found_codec l).map kind := by
  induction offered generalizing found_codec l l' with
  | nil => rfl
  | cons p2 offered ih =>
    obtain ⟨p2, place⟩ := p2
    have hnoted : (engine.withProviders.notePayload l' p2 place remotePayloads).map codec =
        (engine.withProviders.notePayload l p2 place remotePayloads).map codec := by
      rw [codecs_notePayload, codecs_notePayload, h]
    have hkind := @kind_findPayloadTypeBestMatch engine l l' remotePayloads p2 place h
    simp only [matchOffered]
    generalize engine.withProviders.findPayloadTypeBestMatch l' p2 place remotePayloads = matched' at hkind
    generalize engine.withProviders.findPayloadTypeBestMatch l p2 place remotePayloads = matched at hkind
    cases matched' with
    | none =>
      cases matched with
      | none => exact ih found_codec hnoted
      | some matched => cases hkind
    | some matched' =>
      cases matched with
      | none => cases hkind
      | some matched =>
        have hkind : matched'.kind = matched.kind := some.inj hkind
        have hevent : matched'.hasMime "telephone-event" = matched.hasMime "telephone-event" := congrArg Prod.fst hkind
        have hflexfec : matched'.hasMime "flexfec" = matched.hasMime "flexfec" := congrArg Prod.snd hkind
        dsimp only
        rw [hevent, hflexfec]
        split_ifs
        · exact ih _ hnoted
        · exact ih _ hnoted
        · rw [map_cons, map_cons, kind_answeredPayload, kind_answeredPayload, hkind, ih _ hnoted]

lemma onlyTelephoneEvent_eq_kind (payloads : List PayloadType) :
    onlyTelephoneEvent payloads = (payloads.map kind).all Prod.fst := by
  rw [onlyTelephoneEvent, List.all_map]
  rfl

variable (engine) in
lemma keepsCodecs_withProviders : engine.withProviders.KeepsCodecs where
  noted localPayloads remotePayloads := by
    rw [notePayloads]
    generalize remotePayloads.zipIdx = offered
    induction offered generalizing localPayloads with
    | nil => rfl
    | cons p2 offered ih => rw [foldl_cons, ih, codecs_notePayload]
  matched h remotePayloads bundle_enabled := by
    have hall (payloads : List PayloadType) : onlyTelephoneEvent
        (payloads.filter (·.hasFlag PAYLOAD_TYPE_PRIORITY_BONUS) ++
          payloads.filter (!·.hasFlag PAYLOAD_TYPE_PRIORITY_BONUS)) = onlyTelephoneEvent payloads :=
      (filter_append_perm _ payloads).all_eq
    rw [matchPayloads, matchPayloads, hall, hall, onlyTelephoneEvent_eq_kind, onlyTelephoneEvent_eq_kind,
      kind_matchOffered _ _ h]

end notes

/-! ### The checks after the protocol -/

section complete

variable {engine} {local_cap local_cap' offer offer' : SalStreamDescription} {localCfgIdx remoteCfgIdx : CfgIndex}
  {localCfg remoteCfg resultCfg resultCfg' cfg : SalStreamConfiguration} {proto proto' : SalMediaProto}
  {payloads payloads' : List PayloadType} {availableEncs : List LinphoneMediaEncryption}

lemma areProtoCompatibles_avp (proto proto' : SalMediaProto) :
    areProtoCompatibles proto proto'.avp = areProtoCompatibles proto proto' := by
  cases proto <;> cases proto' <;> rfl

lemma fillDirection_withAnswer (haddr : offer'.rtp_addr = offer.rtp_addr)
    (h : resultCfg' = resultCfg.withAnswer proto payloads)
    (hsrtp : (resultCfg.withAnswer proto payloads).hasSrtp = resultCfg.hasSrtp) :
    engine.fillDirection offer' localCfg remoteCfg resultCfg' =
      (engine.fillDirection offer localCfg remoteCfg resultCfg).map (withAnswer proto payloads) := by
  subst h
  rw [fillDirection, fillDirection, offersMulticast, offersMulticast, haddr, hsrtp]
  split_ifs <;> rfl

lemma same_of_fillDirection (h : engine.fillDirection offer localCfg remoteCfg resultCfg = some cfg) :
    cfg.hasSrtp = resultCfg.hasSrtp ∧ cfg.payloads = resultCfg.payloads := by
  rw [fillDirection] at h
  split_ifs at h <;> cases h <;> exact ⟨rfl, rfl⟩

section

variable (h : resultCfg' = resultCfg.withAnswer proto payloads)
include h

lemma fillSrtpAttributes_withAnswer (hsrtp : (resultCfg.withAnswer proto payloads).hasSrtp = resultCfg.hasSrtp) :
    fillSrtpAttributes availableEncs localCfg remoteCfg resultCfg' =
      (fillSrtpAttributes availableEncs localCfg remoteCfg resultCfg).map (withAnswer proto payloads) := by
  subst h
  rw [fillSrtpAttributes, fillSrtpAttributes, hsrtp]
  split_ifs
  · rw [Option.map_map]
    rfl
  · rfl
  · rfl

lemma fillZrtpAttributes_withAnswer :
    fillZrtpAttributes availableEncs localCfgIdx remoteCfgIdx localCfg remoteCfg resultCfg' =
      (fillZrtpAttributes availableEncs localCfgIdx remoteCfgIdx localCfg remoteCfg resultCfg).map
        (withAnswer proto payloads) := by
  subst h
  rw [fillZrtpAttributes, fillZrtpAttributes]
  split_ifs <;> rfl

lemma fillDtlsAttributes_withAnswer : fillDtlsAttributes availableEncs localCfg remoteCfg resultCfg' =
      (fillDtlsAttributes availableEncs localCfg remoteCfg resultCfg).map (withAnswer proto payloads) := by
  subst h
  rw [fillDtlsAttributes, fillDtlsAttributes]
  split_ifs <;> rfl

end

/-- Steps that keep the change of the answer, one after the other. -/
lemma bind_withAnswer {x y : Option SalStreamConfiguration}
    {f g : SalStreamConfiguration → Option SalStreamConfiguration} (h : x = y.map (withAnswer proto payloads))
    (hfg : ∀ cfg, y = some cfg → f (cfg.withAnswer proto payloads) = (g cfg).map (withAnswer proto payloads)) :
    x.bind f = (y.bind g).map (withAnswer proto payloads) := by
  subst h
  cases y with
  | none => rfl
  | some cfg => exact hfg cfg rfl

lemma isEmpty_or_onlyTelephoneEvent (payloads : List PayloadType) :
    (payloads.isEmpty || onlyTelephoneEvent payloads) = onlyTelephoneEvent payloads := by
  cases payloads <;> rfl

/-- Only the family of the protocol is checked, and that a codec is answered. -/
lemma completeConfiguration_withAnswer (hencs : local_cap'.supportedEncryption = local_cap.supportedEncryption)
    (haddr : offer'.rtp_addr = offer.rtp_addr) (henabled : offer'.enabled = offer.enabled)
    (hsrtp : (resultCfg.withAnswer proto payloads).hasSrtp = resultCfg.hasSrtp)
    (hevents : onlyTelephoneEvent payloads = onlyTelephoneEvent resultCfg.payloads) :
    engine.completeConfiguration local_cap' offer' localCfgIdx remoteCfgIdx { localCfg with payloads := payloads' }
        (remoteCfg.withProto proto') (resultCfg.withAnswer proto payloads) =
      (engine.completeConfiguration local_cap offer localCfgIdx remoteCfgIdx localCfg remoteCfg
        resultCfg).map (withAnswer proto payloads) := by
  -- the protocol of the offered configuration is not read, nor are the local payload types
  change engine.completeConfiguration local_cap' offer' localCfgIdx remoteCfgIdx localCfg remoteCfg
    (resultCfg.withAnswer proto payloads) = _
  rw [completeConfiguration, completeConfiguration, hencs]
  refine bind_withAnswer (fillDirection_withAnswer haddr rfl hsrtp) fun directed hdirected => ?_
  obtain ⟨hdirectedSrtp, hdirectedPayloads⟩ := same_of_fillDirection hdirected
  have hsame := hsrtp.trans hdirectedSrtp.symm
  have hcodec : (directed.withAnswer proto payloads).payloads = payloads := rfl
  rw [henabled, isEmpty_or_onlyTelephoneEvent, isEmpty_or_onlyTelephoneEvent, hcodec, hevents, hdirectedPayloads,
    apply_ite (Option.map (withAnswer proto payloads))]
  refine if_congr Iff.rfl rfl (bind_withAnswer (fillSrtpAttributes_withAnswer rfl hsame) fun _ _ => ?_)
  refine bind_withAnswer (fillZrtpAttributes_withAnswer rfl) fun _ _ => ?_
  exact bind_withAnswer (fillDtlsAttributes_withAnswer rfl) fun _ _ => rfl

lemma answer_of_completeConfiguration (h : engine.completeConfiguration local_cap offer localCfgIdx remoteCfgIdx
    localCfg remoteCfg (resultCfg.withAnswer proto payloads) = some cfg) :
    cfg.proto = proto ∧ cfg.payloads = payloads := by
  have hmap : some cfg = (some cfg).map (withAnswer proto payloads) := by
    rw [← h]
    exact @completeConfiguration_withAnswer engine local_cap local_cap offer offer localCfgIdx remoteCfgIdx localCfg
      remoteCfg (resultCfg.withAnswer proto payloads) proto remoteCfg.proto payloads localCfg.payloads rfl rfl rfl rfl
      rfl
  exact withAnswer_eq_self_iff.1 (some.inj hmap).symm

lemma completeConfiguration_congr (hencs : local_cap'.supportedEncryption = local_cap.supportedEncryption)
    (haddr : offer'.rtp_addr = offer.rtp_addr) (henabled : offer'.enabled = offer.enabled) :
    engine.completeConfiguration local_cap' offer' localCfgIdx remoteCfgIdx { localCfg with payloads := payloads' }
        (remoteCfg.withProto proto') resultCfg =
      engine.completeConfiguration local_cap offer localCfgIdx remoteCfgIdx localCfg remoteCfg resultCfg := by
  change engine.completeConfiguration local_cap' offer' localCfgIdx remoteCfgIdx localCfg remoteCfg resultCfg = _
  simp only [completeConfiguration, fillDirection, offersMulticast, hencs, haddr, henabled]

end complete

/-! ### One attempt -/

/-- The descriptions of a stream, which the attempts share. -/
structure Descriptions where
  local_cap : SalStreamDescription
  offer : SalStreamDescription

namespace Descriptions

variable (d : Descriptions) (a : CfgIndex × CfgIndex)

def localCfg (idx : CfgIndex) : SalStreamConfiguration := d.local_cap.getConfigurationAtIndex idx

def remoteCfg (idx : CfgIndex) : SalStreamConfiguration := d.offer.getConfigurationAtIndex idx

/-- The protocol that is answered for a pair. -/
def answeredProto : SalMediaProto :=
  if (d.localCfg a.1).proto ≠ (d.remoteCfg a.2).proto ∧ (d.remoteCfg a.2).hasAvpf then (d.localCfg a.1).proto
  else (d.remoteCfg a.2).proto

/-- The attempt with a pair matches the payload types. -/
def matchesPayloads : Bool := !((d.localCfg a.1).equal {} || (d.remoteCfg a.2).equal {})

def compatible : Bool := areProtoCompatibles (d.localCfg a.1).proto (d.remoteCfg a.2).proto

/-- The attempt with a pair changes the offered configuration. -/
def downgrades : Bool :=
  d.matchesPayloads a && d.compatible a && (d.localCfg a.1).proto != (d.remoteCfg a.2).proto &&
    (d.remoteCfg a.2).hasAvpf

/-- One of some attempts changes an offered configuration. -/
def touched (attempts : List (CfgIndex × CfgIndex)) (idx : CfgIndex) : Bool :=
  attempts.any fun a => d.downgrades a && a.2 == idx

variable {d a} {attempts : List (CfgIndex × CfgIndex)} {idx : CfgIndex}

lemma proto_of_downgrades (h : d.downgrades a) : (d.localCfg a.1).proto = (d.remoteCfg a.2).proto.avp := by
  simp only [downgrades, compatible, Bool.and_eq_true, bne_iff_ne, hasAvpf] at h
  cases hl : (d.localCfg a.1).proto <;> cases hr : (d.remoteCfg a.2).proto <;>
    simp_all [areProtoCompatibles, SalMediaProto.avp]

lemma offered_of_downgrades (h : d.downgrades a) :
    (d.remoteCfg a.2).hasAvpf = true ∧ (d.remoteCfg a.2).equal {} = false := by
  simp only [downgrades, matchesPayloads, Bool.and_eq_true, Bool.not_eq_true', Bool.or_eq_false_iff] at h
  exact ⟨h.2, h.1.1.1.2⟩

lemma touched_iff : d.touched attempts idx ↔ ∃ a ∈ attempts, d.downgrades a ∧ a.2 = idx := by
  simp [touched]

lemma touched_mono {attempts' : List (CfgIndex × CfgIndex)} (hsub : attempts ⊆ attempts') (h : d.touched attempts idx) :
    d.touched attempts' idx := by
  obtain ⟨a, ha, hdowngrades⟩ := touched_iff.1 h
  exact touched_iff.2 ⟨a, hsub ha, hdowngrades⟩

lemma offered_of_touched (h : d.touched attempts idx) :
    (d.remoteCfg idx).hasAvpf = true ∧ (d.remoteCfg idx).equal {} = false := by
  obtain ⟨a, -, hdowngrades, rfl⟩ := touched_iff.1 h
  exact offered_of_downgrades hdowngrades

lemma hasSrtp_avp {cfg : SalStreamConfiguration} {payloads payloads' : List PayloadType} (h : d.compatible a) :
    (cfg.withAnswer (d.remoteCfg a.2).proto.avp payloads).hasSrtp =
      (cfg.withAnswer (d.answeredProto a) payloads').hasSrtp := by
  rw [compatible] at h
  rw [answeredProto]
  generalize (d.remoteCfg a.2).hasAvpf = feedback
  generalize (d.localCfg a.1).proto = proto at *
  generalize (d.remoteCfg a.2).proto = proto' at *
  cases proto <;> cases proto' <;> first | exact absurd h (by decide) | cases feedback <;> rfl

end Descriptions

open Descriptions

variable (result : SalStreamDescription) (mid : String) (d : Descriptions) (a : CfgIndex × CfgIndex)

/-- What is answered for a pair, and the descriptions as the attempt leaves them. -/
def attempt : Option SalStreamConfiguration × Descriptions :=
  let (answer, local_cap, offer) := engine.initiateIncomingConfiguration d.local_cap d.offer result mid a.1 a.2
  (answer, ⟨local_cap, offer⟩)

/-- The payload types that are answered for a pair, if these are the local ones. -/
def matched (localPayloads : List PayloadType) : List PayloadType :=
  engine.matchPayloads localPayloads (d.remoteCfg a.2).payloads
    (bundleEnabled mid (d.localCfg a.1) (d.remoteCfg a.2))

/-- The payload types of a local configuration after some attempts with it. -/
def noted (attempts : List (CfgIndex × CfgIndex)) (idx : CfgIndex) : List PayloadType :=
  (attempts.filter fun a => a.1 == idx && d.matchesPayloads a).foldl
    (fun payloads a => engine.notePayloads payloads (d.remoteCfg a.2).payloads) (d.localCfg idx).payloads

section attempt

variable {engine result mid d a} {d' : Descriptions} {attempts pairs : List (CfgIndex × CfgIndex)} {idx : CfgIndex}
  {cfg : SalStreamConfiguration}

lemma enabled_of_sameButProto {offer offer' : SalStreamDescription} (h : SameButProto offer offer') :
    offer'.enabled = offer.enabled := by
  obtain ⟨proto, hcfg⟩ := h.cfg offer.cfgIndex
  have hchosen : offer'.getChosenConfiguration = { offer.getChosenConfiguration with proto := proto } := by
    rw [getChosenConfiguration, h.cfgIndex, hcfg]
    rfl
  rw [SalStreamDescription.enabled, SalStreamDescription.enabled, isBundleOnly, isBundleOnly, hchosen, h.rtp_port]

lemma attempt_local : (engine.attempt result mid d a).2.localCfg idx =
    if d.matchesPayloads a && a.1 == idx then
      { d.localCfg idx with payloads := engine.notePayloads (d.localCfg idx).payloads (d.remoteCfg a.2).payloads }
    else d.localCfg idx := by
  have hlocal : (engine.attempt result mid d a).2.local_cap =
      if d.matchesPayloads a then d.local_cap.addConfigurationAtIndex a.1 { d.localCfg a.1 with
        payloads := engine.notePayloads (d.localCfg a.1).payloads (d.remoteCfg a.2).payloads }
      else d.local_cap := by
    rw [attempt, initiateIncomingConfiguration, matchesPayloads, localCfg, remoteCfg]
    dsimp only
    cases (d.local_cap.getConfigurationAtIndex a.1).equal {} || (d.offer.getConfigurationAtIndex a.2).equal {} with
    | true => rfl
    | false =>
      rw [if_neg Bool.false_ne_true, Bool.not_false, if_pos (Eq.refl true)]
      split_ifs <;> rfl
  rw [localCfg, hlocal]
  cases d.matchesPayloads a with
  | false => rfl
  | true =>
    by_cases hidx : a.1 = idx
    · subst hidx
      simp
    · rw [if_pos rfl, d.local_cap.getConfigurationAtIndex_addConfigurationAtIndex_of_ne (Ne.symm hidx)]
      simp [hidx, localCfg]

lemma attempt_remote : (engine.attempt result mid d a).2.remoteCfg idx =
    if d.downgrades a && a.2 == idx then (d.remoteCfg idx).toAvp else d.remoteCfg idx := by
  have hoffer : (engine.attempt result mid d a).2.offer =
      if d.downgrades a then d.offer.addConfigurationAtIndex a.2 (d.remoteCfg a.2).toAvp else d.offer := by
    by_cases h : d.downgrades a
    · rw [if_pos h, toAvp, withProto, ← proto_of_downgrades h]
      simp only [downgrades, matchesPayloads, Bool.and_eq_true, Bool.not_eq_true', bne_iff_ne] at h
      obtain ⟨⟨⟨hempty, hcompatible⟩, hne⟩, havpf⟩ := h
      rw [compatible] at hcompatible
      rw [localCfg, remoteCfg] at *
      rw [attempt, initiateIncomingConfiguration]
      dsimp only
      rw [if_neg (by rw [hempty]; decide), if_pos hcompatible, if_pos ⟨hne, havpf⟩]
    · rw [if_neg h, attempt, initiateIncomingConfiguration]
      rw [downgrades, matchesPayloads, compatible, localCfg, remoteCfg] at h
      dsimp only
      split_ifs with hempty hcompatible hdowngrades
      · rfl
      · rw [Bool.not_eq_true] at hempty
        simp [hempty, hcompatible, hdowngrades] at h
      · rfl
      · rfl
  rw [remoteCfg, hoffer]
  cases d.downgrades a with
  | false => rfl
  | true =>
    by_cases hidx : a.2 = idx
    · subst hidx
      simp
    · rw [if_pos rfl, d.offer.getConfigurationAtIndex_addConfigurationAtIndex_of_ne (Ne.symm hidx)]
      simp [hidx, remoteCfg]

lemma attempt_same : SameButPayloads d.local_cap (engine.attempt result mid d a).2.local_cap ∧
    SameButProto d.offer (engine.attempt result mid d a).2.offer :=
  engine.sameBut_initiateIncomingConfiguration d.local_cap d.offer result mid a.1 a.2

/-- What is answered depends on the two configurations, and on the address and the port of the offer. -/
lemma attempt_answer : (engine.attempt result mid d a).1 = if d.matchesPayloads a && d.compatible a then
      engine.completeConfiguration d.local_cap d.offer a.1 a.2 (d.localCfg a.1) (d.remoteCfg a.2)
        ((fillBundleAttributes mid (d.localCfg a.1) (d.remoteCfg a.2) result.getActualConfiguration).withAnswer
          (d.answeredProto a) (engine.matched mid d a (d.localCfg a.1).payloads)) else none := by
  have hsame := (engine.sameBut_initiateIncomingConfiguration d.local_cap d.offer result mid a.1 a.2).2
  rw [initiateIncomingConfiguration] at hsame
  rw [attempt, initiateIncomingConfiguration, matchesPayloads, compatible, answeredProto, matched, localCfg, remoteCfg]
  dsimp only at hsame ⊢
  cases hempty : (d.local_cap.getConfigurationAtIndex a.1).equal {} ||
    (d.offer.getConfigurationAtIndex a.2).equal {} with
  | true => rfl
  | false =>
    rw [hempty, if_neg Bool.false_ne_true] at hsame
    rw [if_neg Bool.false_ne_true, Bool.not_false, Bool.true_and]
    split_ifs at hsame ⊢ with hcompatible hdowngrades
    · rw [getConfigurationAtIndex_addConfigurationAtIndex_self]
      exact @completeConfiguration_congr engine d.local_cap _ d.offer _ a.1 a.2 _ _ _ _ _ rfl hsame.rtp_addr
        (enabled_of_sameButProto hsame)
    · exact @completeConfiguration_congr engine d.local_cap _ d.offer _ a.1 a.2 _ _ _ _ _ rfl rfl rfl
    · rfl

/-! ### What some attempts leave behind -/

/-- The descriptions after some attempts. What was noted down is known as long as no configuration is downgraded to the
empty one, which is not matched again. -/
structure Attempted (engine : OfferAnswerEngine) (d d' : Descriptions) (attempts : List (CfgIndex × CfgIndex)) :
    Prop where
  sameLocal : SameButPayloads d.local_cap d'.local_cap
  sameOffer : SameButProto d.offer d'.offer
  remote (idx : CfgIndex) :
    d'.remoteCfg idx = if d.touched attempts idx then (d.remoteCfg idx).toAvp else d.remoteCfg idx
  codecs (idx : CfgIndex) : (d'.localCfg idx).payloads.map codec = (d.localCfg idx).payloads.map codec
  noted (h : ∀ idx, d.touched attempts idx → (d.remoteCfg idx).toAvp.equal {} = false) (idx : CfgIndex) :
    (d'.localCfg idx).payloads = engine.noted d attempts idx

lemma attempted_nil : Attempted engine d d [] where
  sameLocal := .refl _
  sameOffer := .refl _
  remote _ := rfl
  codecs _ := rfl
  noted _ _ := rfl

section

variable (h : Attempted engine d d' attempts)
include h

lemma Attempted.localCfg_eq (idx : CfgIndex) :
    d'.localCfg idx = { d.localCfg idx with payloads := (d'.localCfg idx).payloads } := by
  obtain ⟨payloads, hcfg⟩ := h.sameLocal.cfg idx
  rw [localCfg, hcfg]
  rfl

lemma Attempted.localEmpty (idx : CfgIndex) : (d'.localCfg idx).equal {} = (d.localCfg idx).equal {} := by
  have hall (payloads : List PayloadType) : isSamePayloadList payloads [] = (payloads.map codec).all isRecvOnly := by
    rw [isSamePayloadList_nil, List.all_map]
    rfl
  rw [h.localCfg_eq, SalStreamConfiguration.equal, SalStreamConfiguration.equal, hall, hall, h.codecs]

lemma Attempted.localCfg_eq_iff (idx : CfgIndex) :
    d'.localCfg idx = d.localCfg idx ↔ (d'.localCfg idx).payloads = (d.localCfg idx).payloads := by
  refine ⟨congrArg SalStreamConfiguration.payloads, fun hpayloads => ?_⟩
  rw [h.localCfg_eq, hpayloads]

lemma Attempted.remoteCfg_eq_iff (idx : CfgIndex) :
    d'.remoteCfg idx = d.remoteCfg idx ↔ ¬ d.touched attempts idx := by
  rw [h.remote]
  split_ifs with htouched
  · rw [toAvp_eq_self_iff, (offered_of_touched htouched).1]
    simp [htouched]
  · simp [htouched]

lemma Attempted.matchesPayloads_eq (a : CfgIndex × CfgIndex) :
    d'.matchesPayloads a = (d.matchesPayloads a && !(d'.remoteCfg a.2).equal {}) := by
  rw [matchesPayloads, matchesPayloads, h.localEmpty]
  cases hempty : (d.remoteCfg a.2).equal {} with
  | false => cases (d.localCfg a.1).equal {} <;> simp
  | true =>
    have hnot : ¬ d.touched attempts a.2 := fun htouched => by simp [(offered_of_touched htouched).2] at hempty
    rw [h.remote, if_neg hnot, hempty]
    simp

lemma Attempted.compatible_eq (a : CfgIndex × CfgIndex) : d'.compatible a = d.compatible a := by
  rw [compatible, compatible, h.localCfg_eq, h.remote]
  split_ifs
  · exact areProtoCompatibles_avp _ _
  · rfl

lemma Attempted.downgrades_eq (a : CfgIndex × CfgIndex) :
    d'.downgrades a = (d.downgrades a && !d.touched attempts a.2) := by
  rw [downgrades, downgrades, h.compatible_eq, h.localCfg_eq, h.matchesPayloads_eq, h.remote]
  cases htouched : d.touched attempts a.2 with
  | true => simp [hasAvpf_toAvp]
  | false =>
    rw [if_neg Bool.false_ne_true, matchesPayloads]
    cases (d.remoteCfg a.2).equal {} <;> simp

lemma Attempted.answeredProto_eq (a : CfgIndex × CfgIndex) :
    d'.answeredProto a = if d.touched attempts a.2 then (d.remoteCfg a.2).proto.avp else d.answeredProto a := by
  rw [answeredProto, h.localCfg_eq, h.remote]
  split_ifs with htouched hagain
  · simp [hasAvpf_toAvp] at hagain
  · rfl
  · rw [answeredProto, if_pos ‹_›]
  · rw [answeredProto, if_neg ‹_›]

end

/-- One attempt more. -/
lemma Attempted.attempt (hengine : engine.KeepsCodecs) (h : Attempted engine d d' attempts) (result mid a) :
    Attempted engine d (engine.attempt result mid d' a).2 (attempts ++ [a]) where
  sameLocal := h.sameLocal.trans attempt_same.1
  sameOffer := h.sameOffer.trans attempt_same.2
  remote idx := by
    have happend : d.touched (attempts ++ [a]) idx = (d.touched attempts idx || (d.downgrades a && a.2 == idx)) := by
      simp [touched]
    rw [attempt_remote, h.downgrades_eq, happend, h.remote idx]
    by_cases hidx : a.2 = idx
    · subst hidx
      cases d.touched attempts a.2 <;> cases d.downgrades a <;> simp
    · simp [hidx]
  codecs idx := by
    rw [attempt_local]
    split_ifs
    · exact (hengine.noted _ _).trans (h.codecs idx)
    · exact h.codecs idx
  noted hempty idx := by
    have hbefore (idx : CfgIndex) (htouched : d.touched attempts idx) :=
      hempty idx (touched_mono (subset_append_left _ _) htouched)
    have hmatch : d'.matchesPayloads a = d.matchesPayloads a := by
      rw [h.matchesPayloads_eq, h.remote, matchesPayloads]
      split_ifs with htouched
      · rw [hbefore a.2 htouched, Bool.not_false, Bool.and_true]
      · cases (d.remoteCfg a.2).equal {} <;> simp
    obtain ⟨proto, hproto⟩ := h.sameOffer.cfg a.2
    rw [attempt_local, hmatch, OfferAnswerEngine.noted, filter_append, foldl_append, filter_singleton, Bool.and_comm]
    cases a.1 == idx && d.matchesPayloads a with
    | false => exact h.noted hbefore idx
    | true =>
      rw [if_pos rfl, remoteCfg, hproto, h.noted hbefore]
      rfl

/-- An attempt on the changed descriptions gives what it gives at first, with the protocol and the payload types that
are answered now, unless the offered configuration is the empty one now. -/
lemma Attempted.answer (hengine : engine.KeepsCodecs) (h : Attempted engine d d' attempts) (result mid a) :
    (engine.attempt result mid d' a).1 = if d'.matchesPayloads a then (engine.attempt result mid d a).1.map
          (withAnswer (d'.answeredProto a) (engine.matched mid d a (d'.localCfg a.1).payloads)) else none := by
  obtain ⟨proto, hproto⟩ := h.sameOffer.cfg a.2
  have hremote : d'.remoteCfg a.2 = (d.remoteCfg a.2).withProto proto := hproto
  have hmatched (payloads : List PayloadType) :
      engine.matched mid d' a payloads = engine.matched mid d a payloads := by
    rw [matched, matched, h.localCfg_eq, hremote]
    rfl
  rw [attempt_answer, attempt_answer, h.compatible_eq, hmatched]
  cases hmatch : d'.matchesPayloads a with
  | false => rfl
  | true =>
    rw [h.matchesPayloads_eq, Bool.and_eq_true] at hmatch
    rw [hmatch.1, Bool.true_and, if_pos rfl, apply_ite (Option.map _)]
    refine ite_congr rfl (fun hcompatible => ?_) fun _ => rfl
    have hevents := @hengine.matched _ _ (h.codecs a.1)
    have hbundle : fillBundleAttributes mid (d'.localCfg a.1) (d'.remoteCfg a.2) result.getActualConfiguration =
        fillBundleAttributes mid (d.localCfg a.1) (d.remoteCfg a.2) result.getActualConfiguration := by
      rw [h.localCfg_eq, hremote, fillBundleAttributes, fillBundleAttributes]
      rfl
    rw [hbundle, hremote, h.localCfg_eq]
    generalize fillBundleAttributes mid (d.localCfg a.1) (d.remoteCfg a.2) result.getActualConfiguration = bundled
    have hsrtp : ((bundled.withAnswer (d.answeredProto a) (engine.matched mid d a (d.localCfg a.1).payloads)).withAnswer
        (d'.answeredProto a) (engine.matched mid d a (d'.localCfg a.1).payloads)).hasSrtp =
          (bundled.withAnswer (d.answeredProto a) (engine.matched mid d a (d.localCfg a.1).payloads)).hasSrtp := by
      rw [h.answeredProto_eq]
      split_ifs
      · exact hasSrtp_avp hcompatible
      · rfl
    have hencs : d'.local_cap.supportedEncryption = d.local_cap.supportedEncryption := by rw [h.sameLocal.rest]
    exact completeConfiguration_withAnswer hencs h.sameOffer.rtp_addr (enabled_of_sameButProto h.sameOffer)
      hsrtp (hevents _ _)

/-! ### All the attempts -/

/-- The attempts one after the other, up to the first answer. -/
def attemptAll (engine : OfferAnswerEngine) (result : SalStreamDescription) (mid : String)
    (pairs : List (CfgIndex × CfgIndex)) (d : Descriptions) :
    Option (SalStreamConfiguration × CfgIndex × CfgIndex) × Descriptions :=
  let (answer, local_cap, offer) :=
    firstAnswered (fun l o => engine.initiateIncomingConfiguration l o result mid) pairs d.local_cap d.offer
  (answer, ⟨local_cap, offer⟩)

lemma attemptAll_of_none (h : (engine.attempt result mid d a).1 = none) :
    engine.attemptAll result mid (a :: pairs) d =
      engine.attemptAll result mid pairs (engine.attempt result mid d a).2 := by
  rw [attempt] at h ⊢
  rw [attemptAll, attemptAll, firstAnswered]
  generalize engine.initiateIncomingConfiguration d.local_cap d.offer result mid a.1 a.2 = r at *
  obtain ⟨_, _, _⟩ := r
  subst h
  rfl

lemma attemptAll_of_some (h : (engine.attempt result mid d a).1 = some cfg) :
    engine.attemptAll result mid (a :: pairs) d = (some (cfg, a), (engine.attempt result mid d a).2) := by
  rw [attempt] at h ⊢
  rw [attemptAll, firstAnswered]
  generalize engine.initiateIncomingConfiguration d.local_cap d.offer result mid a.1 a.2 = r at *
  obtain ⟨_, _, _⟩ := r
  subst h
  rfl

/-- The attempts before the first pair that is answered on the untouched descriptions. -/
lemma Attempted.run (hengine : engine.KeepsCodecs) (h : Attempted engine d d' attempts)
    (hfail : ∀ a ∈ pairs, (engine.attempt result mid d a).1 = none) (rest : List (CfgIndex × CfgIndex)) :
    ∃ d'', Attempted engine d d'' (attempts ++ pairs) ∧
      engine.attemptAll result mid (pairs ++ rest) d' = engine.attemptAll result mid rest d'' := by
  induction pairs generalizing d' attempts with
  | nil => exact ⟨d', by rwa [append_nil], rfl⟩
  | cons a pairs ih =>
    rw [forall_mem_cons] at hfail
    obtain ⟨d'', hattempted, hrun⟩ := ih (h.attempt hengine result mid a) hfail.2
    refine ⟨d'', by simpa using hattempted, ?_⟩
    rw [cons_append, attemptAll_of_none (by rw [h.answer hengine, hfail.1, map_none, ite_self]), hrun]

/-- What is answered in the end was answered on descriptions that other attempts had changed. -/
lemma Attempted.answered (hengine : engine.KeepsCodecs) (h : Attempted engine d d' attempts)
    (hanswered : (engine.attemptAll result mid pairs d').1 = some (cfg, a)) :
    ∃ d'' attempts', attempts ⊆ attempts' ∧ Attempted engine d d'' attempts' ∧
      (engine.attempt result mid d'' a).1 = some cfg := by
  induction pairs generalizing d' attempts with
  | nil => cases hanswered
  | cons b pairs ih =>
    cases hb : (engine.attempt result mid d' b).1 with
    | none =>
      rw [attemptAll_of_none hb] at hanswered
      obtain ⟨d'', attempts', hsub, hattempted, hcfg⟩ := ih (h.attempt hengine result mid b) hanswered
      exact ⟨d'', attempts', fun c hc => hsub (mem_append_left _ hc), hattempted, hcfg⟩
    | some cfg' =>
      rw [attemptAll_of_some hb] at hanswered
      simp only [some.injEq, Prod.mk.injEq] at hanswered
      obtain ⟨rfl, rfl⟩ := hanswered
      exact ⟨d', attempts, Subset.refl _, h, hb⟩

end attempt

/-- What a pair gives on the untouched descriptions. -/
def untouchedAnswer : Option SalStreamConfiguration :=
  (engine.attempt (incomingResult d.local_cap d.offer) mid d a).1

def acceptedPair : Option (CfgIndex × CfgIndex) :=
  (configurationPairs d.local_cap d.offer true).find? fun a => (engine.untouchedAnswer mid d a).isSome

def failedPairs : List (CfgIndex × CfgIndex) :=
  (configurationPairs d.local_cap d.offer true).takeWhile fun a => (engine.untouchedAnswer mid d a).isNone

/-- The answer is that of the first pair answered on the untouched descriptions, and no configuration has
changed but the two of this pair. -/
structure LeavesNoTrace : Prop where
  chosen :
    (engine.negotiateConfigurations d.local_cap d.offer (incomingResult d.local_cap d.offer) mid true).1 =
      (engine.acceptedPair mid d).bind fun a => (engine.untouchedAnswer mid d a).map fun cfg => (cfg, a)
  offered : ∀ idx, (∀ a ∈ engine.acceptedPair mid d, idx ≠ a.2) →
    (engine.initiateIncomingStream d.local_cap d.offer mid true).2.2.getConfigurationAtIndex idx =
      d.offer.getConfigurationAtIndex idx
  capability : ∀ idx, (∀ a ∈ engine.acceptedPair mid d, idx ≠ a.1) →
    (engine.initiateIncomingStream d.local_cap d.offer mid true).2.1.getConfigurationAtIndex idx =
      d.local_cap.getConfigurationAtIndex idx

/-- Each attempt that fails after it has downgraded a configuration has downgraded the one that is chosen,
which its own attempt downgrades too, and which is not the empty one then. -/
def DowngradesCleanly : Prop :=
  ∀ a ∈ engine.failedPairs mid d, d.downgrades a →
    ∃ b ∈ engine.acceptedPair mid d, b.2 = a.2 ∧ d.downgrades b ∧ (d.remoteCfg b.2).toAvp.equal {} = false

/-- What the attempts that fail note down in the payload types of a local configuration leaves these as they are, unless
the configuration is the chosen one. The same payload types are answered with the notes then. -/
structure NotesCleanly : Prop where
  other : ∀ idx, (∀ b ∈ engine.acceptedPair mid d, idx ≠ b.1) →
    engine.noted d (engine.failedPairs mid d) idx = (d.localCfg idx).payloads
  chosen : ∀ b ∈ engine.acceptedPair mid d,
    engine.matched mid d b (engine.noted d (engine.failedPairs mid d) b.1) =
      engine.matched mid d b (d.localCfg b.1).payloads

section traces

variable {engine mid d a} {cfg : SalStreamConfiguration}

/-- The answer has the protocol and the payload types of the pair, which has a configuration that is not empty. -/
lemma answer_of_untouchedAnswer (hanswer : engine.untouchedAnswer mid d a = some cfg) :
    cfg.proto = d.answeredProto a ∧ cfg.payloads = engine.matched mid d a (d.localCfg a.1).payloads ∧
      d.matchesPayloads a = true ∧ d.compatible a = true := by
  rw [untouchedAnswer, attempt_answer] at hanswer
  split_ifs at hanswer with hmatch
  rw [Bool.and_eq_true] at hmatch
  obtain ⟨hproto, hpayloads⟩ := answer_of_completeConfiguration hanswer
  exact ⟨hproto, hpayloads, hmatch⟩

/-- The protocol that is answered is an AVP one if the pair downgrades. -/
lemma answeredProto_eq_avp_iff (hmatch : d.matchesPayloads a = true) (hcompatible : d.compatible a = true)
    (havpf : (d.remoteCfg a.2).hasAvpf = true) :
    d.answeredProto a = (d.remoteCfg a.2).proto.avp ↔ d.downgrades a := by
  have hdown : d.downgrades a ↔ (d.localCfg a.1).proto ≠ (d.remoteCfg a.2).proto := by
    simp [downgrades, havpf, hmatch, hcompatible]
  rw [hdown, answeredProto]
  split_ifs with h
  · exact iff_of_true (proto_of_downgrades (hdown.mpr h.1)) h.1
  · refine iff_of_false (fun havp => ?_) fun hne => h ⟨hne, havpf⟩
    have hsame : (d.remoteCfg a.2).toAvp = d.remoteCfg a.2 := by
      rw [toAvp, ← havp]
      rfl
    rw [toAvp_eq_self_iff, havpf] at hsame
    cases hsame

/-- The trace is that of all the attempts: their answer, and the configurations that they leave. -/
lemma leavesNoTrace_iff_attemptAll {r : Option (SalStreamConfiguration × CfgIndex × CfgIndex) × Descriptions}
    (h : engine.attemptAll (incomingResult d.local_cap d.offer) mid (configurationPairs d.local_cap d.offer true) d =
      r) : engine.LeavesNoTrace mid d ↔
      r.1 = ((engine.acceptedPair mid d).bind fun a => (engine.untouchedAnswer mid d a).map fun cfg => (cfg, a)) ∧
      (∀ idx, (∀ a ∈ engine.acceptedPair mid d, idx ≠ a.2) → r.2.remoteCfg idx = d.remoteCfg idx) ∧
      ∀ idx, (∀ a ∈ engine.acceptedPair mid d, idx ≠ a.1) → r.2.localCfg idx = d.localCfg idx := by
  have hstream (idx : CfgIndex) :
      (engine.initiateIncomingStream d.local_cap d.offer mid true).2.1.getConfigurationAtIndex idx =
        r.2.localCfg idx ∧
      (engine.initiateIncomingStream d.local_cap d.offer mid true).2.2.getConfigurationAtIndex idx =
        r.2.remoteCfg idx := by
    subst h
    rw [initiateIncomingStream, negotiateConfigurations, attemptAll]
    generalize firstAnswered _ _ d.local_cap d.offer = r
    obtain ⟨_ | ⟨cfg, localCfgIdx, remoteCfgIdx⟩, local_cap', offer'⟩ := r <;> exact ⟨rfl, rfl⟩
  have hchosen : (engine.negotiateConfigurations d.local_cap d.offer (incomingResult d.local_cap d.offer) mid
      true).1 = r.1 := congrArg Prod.fst h
  constructor
  · intro hleaves
    exact ⟨hchosen.symm.trans hleaves.chosen, fun idx hidx => (hstream idx).2.symm.trans (hleaves.offered idx hidx),
      fun idx hidx => (hstream idx).1.symm.trans (hleaves.capability idx hidx)⟩
  · rintro ⟨hanswer, hoffered, hcapability⟩
    exact ⟨hchosen.trans hanswer, fun idx hidx => (hstream idx).2.trans (hoffered idx hidx),
      fun idx hidx => (hstream idx).1.trans (hcapability idx hidx)⟩

/-- When no pair is answered, the descriptions must be as they were. -/
lemma leavesNoTrace_iff_of_none (hengine : engine.KeepsCodecs) (haccepted : engine.acceptedPair mid d = none) :
    engine.LeavesNoTrace mid d ↔ engine.DowngradesCleanly mid d ∧ engine.NotesCleanly mid d := by
  have hfail := find?_eq_none.mp haccepted
  simp only [not_isSome_iff_eq_none] at hfail
  obtain ⟨d', hattempted, hrun⟩ := attempted_nil.run hengine hfail []
  rw [append_nil, show engine.attemptAll _ mid [] d' = (none, d') from rfl] at hrun
  have hfailed : engine.failedPairs mid d = configurationPairs d.local_cap d.offer true :=
    takeWhile_eq_self_iff.mpr fun a ha => isNone_iff_eq_none.mpr (hfail a ha)
  have hdowngrades : engine.DowngradesCleanly mid d ↔ ∀ idx, ¬ d.touched (engine.failedPairs mid d) idx := by
    simp only [DowngradesCleanly, haccepted, touched_iff]
    grind
  rw [nil_append, ← hfailed] at hattempted
  rw [leavesNoTrace_iff_attemptAll hrun, haccepted, hdowngrades]
  simp only [mem_def, reduceCtorEq, false_implies, forall_const, hattempted.remoteCfg_eq_iff,
    hattempted.localCfg_eq_iff, bind_none, true_and]
  refine and_congr_right fun hclean => ?_
  have hnoted := hattempted.noted fun idx htouched => absurd htouched (hclean idx)
  simp only [hnoted]
  exact ⟨fun h => ⟨fun idx _ => h idx, by simp [haccepted]⟩, fun h idx => h.other idx (by simp [haccepted])⟩

/-- When a pair is answered, the attempts before it must leave its answer and the other configurations as they were. -/
lemma leavesNoTrace_iff_of_some {b : CfgIndex × CfgIndex} (hengine : engine.KeepsCodecs)
    (haccepted : engine.acceptedPair mid d = some b) :
    engine.LeavesNoTrace mid d ↔ engine.DowngradesCleanly mid d ∧ engine.NotesCleanly mid d := by
  obtain ⟨hb, before, after, hlist, hbefore⟩ := find?_eq_some_iff_append.mp haccepted
  obtain ⟨cfg, hcfg⟩ := isSome_iff_exists.mp hb
  have hfail : ∀ a ∈ before, engine.untouchedAnswer mid d a = none := fun a ha => by simpa using hbefore a ha
  have hfailed : engine.failedPairs mid d = before := by
    rw [failedPairs, hlist, takeWhile_append_of_pos fun a ha => by rw [hfail a ha]; rfl,
      takeWhile_cons_of_neg (by simp [hcfg]), append_nil]
  obtain ⟨d', hattempted, hrun⟩ := attempted_nil.run hengine hfail (b :: after)
  rw [← hlist] at hrun
  rw [nil_append] at hattempted
  obtain ⟨hproto, hpayloads, hmatch, hcompatible⟩ := answer_of_untouchedAnswer hcfg
  have hvalue := hattempted.answer hengine (incomingResult d.local_cap d.offer) mid b
  rw [← untouchedAnswer, hcfg, map_some] at hvalue
  have hother : engine.DowngradesCleanly mid d ↔
      (∀ a ∈ before, d.downgrades a → a.2 = b.2) ∧
        (d.touched before b.2 → d.downgrades b ∧ (d.remoteCfg b.2).toAvp.equal {} = false) := by
    simp only [DowngradesCleanly, hfailed, haccepted, mem_def, some.injEq, exists_eq_left', touched_iff]
    grind
  have hnotes : engine.NotesCleanly mid d ↔
      (∀ idx, idx ≠ b.1 → engine.noted d before idx = (d.localCfg idx).payloads) ∧
        engine.matched mid d b (engine.noted d before b.1) = cfg.payloads := by
    rw [hpayloads]
    constructor
    · intro h
      exact ⟨fun idx hidx => hfailed ▸ h.other idx (by simpa [haccepted] using hidx), hfailed ▸ h.chosen b haccepted⟩
    · rintro ⟨hother, hchosen⟩
      refine ⟨fun idx hidx => hfailed.symm ▸ hother idx (hidx b haccepted), fun c hc => ?_⟩
      rw [mem_def, haccepted] at hc
      cases hc
      rwa [hfailed]
  rw [hother, hnotes]
  cases hagain : d'.matchesPayloads b with
  | false =>
    -- the configuration is the empty one by now, which is never answered
    have htouched : d.touched before b.2 ∧ (d.remoteCfg b.2).toAvp.equal {} = true := by
      rw [hattempted.matchesPayloads_eq, hmatch, hattempted.remote] at hagain
      rw [matchesPayloads] at hmatch
      split_ifs at hagain with htouched
      · exact ⟨htouched, by simpa using hagain⟩
      · simp_all
    refine iff_of_false (fun h => ?_) fun h => by simp [(h.1.2 htouched.1).2] at htouched
    rw [hagain, if_neg Bool.false_ne_true] at hvalue
    have hchosen := ((leavesNoTrace_iff_attemptAll hrun).1 h).1
    rw [haccepted, attemptAll_of_none hvalue, bind_some, hcfg] at hchosen
    obtain ⟨d'', attempts', hsub, hlater, hlast⟩ := (hattempted.attempt hengine _ mid b).answered hengine hchosen
    have hstill : d.touched attempts' b.2 := touched_mono (fun a ha => hsub (mem_append_left _ ha)) htouched.1
    rw [hlater.answer hengine, hlater.matchesPayloads_eq, hlater.remote, if_pos hstill, htouched.2] at hlast
    simp at hlast
  | true =>
    rw [hagain, if_pos rfl] at hvalue
    have hnonempty (htouched : d.touched before b.2) : (d.remoteCfg b.2).toAvp.equal {} = false := by
      rw [hattempted.matchesPayloads_eq, hattempted.remote, if_pos htouched, Bool.and_eq_true,
        Bool.not_eq_true'] at hagain
      exact hagain.2
    have hdowngraded : cfg.proto = d'.answeredProto b ↔ (d.touched before b.2 →
        d.downgrades b ∧ (d.remoteCfg b.2).toAvp.equal {} = false) := by
      rw [hproto, hattempted.answeredProto_eq]
      split_ifs with htouched
      · rw [answeredProto_eq_avp_iff hmatch hcompatible (offered_of_touched htouched).1]
        simp [htouched, hnonempty htouched]
      · simp [htouched]
    have hoffered (idx : CfgIndex) (hidx : idx ≠ b.2) :
        (engine.attempt (incomingResult d.local_cap d.offer) mid d' b).2.remoteCfg idx = d.remoteCfg idx ↔
          ¬ d.touched before idx := by
      rw [attempt_remote, beq_false_of_ne (Ne.symm hidx), Bool.and_false]
      exact hattempted.remoteCfg_eq_iff idx
    have hcapability (idx : CfgIndex) (hidx : idx ≠ b.1) :
        (engine.attempt (incomingResult d.local_cap d.offer) mid d' b).2.localCfg idx = d.localCfg idx ↔
          (d'.localCfg idx).payloads = (d.localCfg idx).payloads := by
      rw [attempt_local, beq_false_of_ne (Ne.symm hidx), Bool.and_false]
      exact hattempted.localCfg_eq_iff idx
    have htouched : (∀ idx, idx ≠ b.2 → ¬ d.touched before idx) ↔ ∀ a ∈ before, d.downgrades a → a.2 = b.2 := by
      simp only [touched_iff]
      grind
    have hnoted (hclean : ∀ a ∈ before, d.downgrades a → a.2 = b.2) := hattempted.noted fun idx hidx => by
      obtain ⟨a, ha, hdowngrades, rfl⟩ := touched_iff.1 hidx
      rw [hclean a ha hdowngrades] at hidx ⊢
      exact hnonempty hidx
    rw [leavesNoTrace_iff_attemptAll (hrun.trans (attemptAll_of_some hvalue)), haccepted, bind_some, hcfg, map_some,
      some.injEq, Prod.mk.injEq, and_iff_left rfl, withAnswer_eq_self_iff, hdowngraded, ← htouched]
    simp only [mem_def, some.injEq, forall_eq']
    constructor
    · rintro ⟨⟨hdown, hsame⟩, hoffer, hlocal⟩
      have hclean := fun idx hidx => (hoffered idx hidx).1 (hoffer idx hidx)
      simp only [hnoted (htouched.1 hclean)] at hsame hcapability
      exact ⟨⟨hclean, hdown⟩, fun idx hidx => (hcapability idx hidx).1 (hlocal idx hidx), hsame.symm⟩
    · rintro ⟨⟨hclean, hdown⟩, hkept, hsame⟩
      simp only [hnoted (htouched.1 hclean)] at hcapability ⊢
      exact ⟨⟨hdown, hsame.symm⟩, fun idx hidx => (hoffered idx hidx).2 (hclean idx hidx),
        fun idx hidx => (hcapability idx hidx).2 (hkept idx hidx)⟩

end traces

/-- The attempts leave no trace exactly when those that fail downgrade and note down cleanly. -/
theorem leavesNoTrace_iff : engine.withProviders.LeavesNoTrace mid d ↔
      engine.withProviders.DowngradesCleanly mid d ∧ engine.withProviders.NotesCleanly mid d := by
  cases haccepted : engine.withProviders.acceptedPair mid d with
  | none => exact leavesNoTrace_iff_of_none engine.keepsCodecs_withProviders haccepted
  | some b => exact leavesNoTrace_iff_of_some engine.keepsCodecs_withProviders haccepted

def sampleStream (cfg : SalStreamConfiguration) : SalStreamDescription :=
  { rtp_port := 5000 : SalStreamDescription }.addActualConfiguration cfg

def sampleConfiguration : SalStreamConfiguration where
  proto := .rtpAvpf
  payloads := [{ mime_type := some "opus", clock_rate := 48000, channels := 2, number := 96 }]
  dir := .sendRecv

def h264Configuration (proto : SalMediaProto) (fmtp : String) : SalStreamConfiguration where
  proto := proto
  payloads := [clone
    { mime_type := some "H264", clock_rate := 90000, channels := 1, number := 96, recv_fmtp := some fmtp,
      send_fmtp := some fmtp }]
  dir := .sendRecv

def sampleEngine : OfferAnswerEngine := { mMsFactory := fun _ => none, isMulticast := fun _ => false }

/-- The AVPF offer is answered as it would be with AVP, which a configuration without a common codec has left in the
offer. An offer of H.264 with packetization mode 1 is answered without SRTP, but the payload type of the SAVP
configuration has been mended. -/
theorem not_leavesNoTrace_downgraded : ¬ sampleEngine.withProviders.LeavesNoTrace ""
      ⟨(sampleStream sampleConfiguration).addConfigurationAtIndex ⟨1⟩
        { sampleConfiguration with proto := .rtpAvp, payloads := [] }, sampleStream sampleConfiguration⟩ ∧
    ¬ sampleEngine.withProviders.LeavesNoTrace ""
      ⟨(sampleStream (h264Configuration .rtpAvp "profile-level-id=42801F")).addConfigurationAtIndex ⟨1⟩
        (h264Configuration .rtpSavp "profile-level-id=42801F"),
        sampleStream (h264Configuration .rtpAvp "packetization-mode=1")⟩ := by
  constructor
  · intro h
    have hproto := congrArg (Option.map fun r => r.1.proto) h.chosen
    revert hproto
    decide +kernel
  · intro h
    have hsame := congrArg SalStreamConfiguration.payloads (h.capability ⟨1⟩ (by decide +kernel))
    revert hsame
    decide +kernel

end OfferAnswerEngine

end Sal
