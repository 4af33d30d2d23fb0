import LinphoneSdk.Sal.MediaDescription

/-!
# The answer to an offer

`OfferAnswerEngine::initiateIncoming`: each stream of the offer is negotiated with the local stream at its place, the
streams that are answered with a mid go in one bundle, and a last pass disables those whose transport owner is not that
of the offer and of the local capabilities.

The negotiation chooses configurations in the two descriptions it is given, and may change the protocol of the offered
one and the payload types of the local one; the descriptions are passed along.
-/

namespace Sal

/-- What matches an offered payload type, at its place among the offered ones, with the local ones. -/
structure MSOfferAnswerContext where
  match_payload : List PayloadType → PayloadType → ℕ → List PayloadType → Option PayloadType
  /-- The local payload types with what is noted down in them. -/
  noted : List PayloadType → PayloadType → ℕ → List PayloadType → List PayloadType := fun local_payloads _ _ _ =>
    local_payloads

/-- The factory has a context for some codecs. -/
structure OfferAnswerEngine where
  mMsFactory : String → Option MSOfferAnswerContext
  /-- `ms_is_multicast`, which asks `getaddrinfo`. -/
  isMulticast : String → Bool
  mUseOneMatchingCodec : Bool := false
  mAnswerWithOwnNumbering : Bool := false

/-- The common AVPF features, when both sides enable the feedback. -/
def commonAvpf (answered p2 : PayloadType) : PayloadType :=
  if answered.hasFlag PAYLOAD_TYPE_RTCP_FEEDBACK_ENABLED && p2.hasFlag PAYLOAD_TYPE_RTCP_FEEDBACK_ENABLED then
    { answered.setFlag PAYLOAD_TYPE_RTCP_FEEDBACK_ENABLED with
      avpf :=
        { features := answered.avpf.features &&& p2.avpf.features
          rpsi_compatibility := p2.avpf.rpsi_compatibility
          trr_interval :=
            if answered.avpf.trr_interval < p2.avpf.trr_interval then p2.avpf.trr_interval
            else answered.avpf.trr_interval } }
  else answered.unsetFlag PAYLOAD_TYPE_RTCP_FEEDBACK_ENABLED

namespace OfferAnswerEngine

variable (engine : OfferAnswerEngine)

/-! ### Payload types -/

def onlyTelephoneEvent (payloads : List PayloadType) : Bool := payloads.all (·.hasMime "telephone-event")

variable (local_payloads : List PayloadType) (refpt : PayloadType)

def genericMatch : Option PayloadType :=
  (local_payloads.find? fun pt =>
    refpt.mime_type.any pt.hasMime && pt.clock_rate == refpt.clock_rate && pt.channels == refpt.channels).map (·.clone)

def findPayloadTypeBestMatch (place : ℕ) (remote_payloads : List PayloadType) : Option PayloadType :=
  match refpt.mime_type.bind engine.mMsFactory with
  | some ctx => ctx.match_payload local_payloads refpt place remote_payloads
  | none => genericMatch local_payloads refpt

/-- The local payload types after `findPayloadTypeBestMatch`. -/
def notePayload (place : ℕ) (remote_payloads : List PayloadType) : List PayloadType :=
  match refpt.mime_type.bind engine.mMsFactory with
  | some ctx => ctx.noted local_payloads refpt place remote_payloads
  | none => local_payloads

/-- What is answered for an offered payload type: the common AVPF features, under the offered number. -/
def answeredPayload (matched p2 : PayloadType) : PayloadType :=
  let answered := match p2.send_fmtp with
    | none => matched
    | some fmtp => matched.appendSendFmtp fmtp
  let answered := answered.setFlag (PAYLOAD_TYPE_FLAG_CAN_RECV ||| PAYLOAD_TYPE_FLAG_CAN_SEND)
  let answered := commonAvpf answered p2
  { answered with number := if engine.mAnswerWithOwnNumbering then matched.number else p2.number }.setFlag
    PAYLOAD_TYPE_FROZEN_NUMBER

/-- The offered payload types with their places, one after the other. -/
def matchOffered (remotePayloads : List PayloadType) (bundle_enabled : Bool) :
    List (PayloadType × ℕ) → Bool → List PayloadType → List PayloadType
  | [], _, _ => []
  | (p2, place) :: offered, found_codec, localPayloads =>
    let noted := engine.notePayload localPayloads p2 place remotePayloads
    match engine.findPayloadTypeBestMatch localPayloads p2 place remotePayloads with
    | none => matchOffered remotePayloads bundle_enabled offered found_codec noted
    | some matched =>
      let counted := engine.mUseOneMatchingCodec && !matched.hasMime "telephone-event"
      if counted && found_codec then matchOffered remotePayloads bundle_enabled offered found_codec noted
      else if matched.hasMime "flexfec" && !bundle_enabled then
        matchOffered remotePayloads bundle_enabled offered (found_codec || counted) noted
      else
        engine.answeredPayload matched p2 ::
          matchOffered remotePayloads bundle_enabled offered (found_codec || counted) noted

/-- `matchPayloads` for an answer. The codecs of high priority come first. -/
def matchPayloads (localPayloads remotePayloads : List PayloadType) (bundle_enabled : Bool) : List PayloadType :=
  let res := engine.matchOffered remotePayloads bundle_enabled remotePayloads.zipIdx false localPayloads
  res.filter (·.hasFlag PAYLOAD_TYPE_PRIORITY_BONUS) ++ res.filter (!·.hasFlag PAYLOAD_TYPE_PRIORITY_BONUS)

/-- The local payload types after `matchPayloads`. -/
def notePayloads (localPayloads remotePayloads : List PayloadType) : List PayloadType :=
  remotePayloads.zipIdx.foldl (fun noted p2 => engine.notePayload noted p2.1 p2.2 remotePayloads) localPayloads

/-! ### One configuration -/

def areProtoCompatibles (localProto otherProto : SalMediaProto) : Bool :=
  match localProto with
  | .rtpAvp | .rtpAvpf => otherProto == .rtpAvp || otherProto == .rtpAvpf
  | .rtpSavp | .rtpSavpf => otherProto == .rtpSavp || otherProto == .rtpSavpf
  | .udpTlsRtpSavp | .udpTlsRtpSavpf => otherProto == .udpTlsRtpSavp || otherProto == .udpTlsRtpSavpf
  | .other => otherProto == localProto

def areProtoInStreamCompatibles (localStream otherStream : SalStreamDescription) : Bool :=
  otherStream.cfgs.entries.any fun otherCfg =>
    localStream.cfgs.entries.any fun localCfg => areProtoCompatibles localCfg.2.proto otherCfg.2.proto

def computeDirIncoming (localDir offered : SalStreamDir) : SalStreamDir :=
  match localDir, offered with
  | .sendRecv, .sendOnly => .recvOnly
  | .sendRecv, .recvOnly => .sendOnly
  | .sendRecv, .inactive => .inactive
  | .sendRecv, .sendRecv => .sendRecv
  | .sendOnly, .recvOnly => .sendOnly
  | .sendOnly, .sendRecv => .sendOnly
  | .recvOnly, .sendOnly => .recvOnly
  | .recvOnly, .sendRecv => .recvOnly
  | _, _ => .inactive

def getExtensionId (localExtensionId remoteExtensionId : ℤ) : ℤ :=
  if localExtensionId = 0 ∨ remoteExtensionId = 0 then 0
  else if localExtensionId ≠ remoteExtensionId then remoteExtensionId
  else localExtensionId

/-- `matchCryptoAlgo` for an answer: the first offered algorithm that there is locally, with the local key and the
offered tag. -/
def matchCryptoAlgo (localAlgos : List SalSrtpCryptoAlgo) : List SalSrtpCryptoAlgo → Option SalSrtpCryptoAlgo
  | [] => none
  | rc :: remoteAlgos =>
    if rc.algo = .invalid then none
    else
      match localAlgos.find? (·.algo == rc.algo) with
      | some lc => some { tag := rc.tag, algo := rc.algo, master_key := lc.master_key }
      | none => matchCryptoAlgo localAlgos remoteAlgos

variable (availableEncs : List LinphoneMediaEncryption)

def fillSrtpAttributes (localCfg remoteCfg resultCfg : SalStreamConfiguration) : Option SalStreamConfiguration :=
  if resultCfg.hasSrtp then
    if .srtp ∈ availableEncs then
      (matchCryptoAlgo localCfg.crypto remoteCfg.crypto).map fun algo => { resultCfg with crypto := [algo] }
    else none
  else some resultCfg

def fillZrtpAttributes (localCfgIdx remoteCfgIdx : CfgIndex)
    (localCfg remoteCfg resultCfg : SalStreamConfiguration) : Option SalStreamConfiguration :=
  let actualCfgs := localCfgIdx == actualConfigurationIndex && remoteCfgIdx == actualConfigurationIndex
  if !actualCfgs && localCfg.haveZrtpHash != remoteCfg.haveZrtpHash then none
  else if remoteCfg.haveZrtpHash == 1 || localCfg.haveZrtpHash == 1 then
    if actualCfgs || availableEncs.contains .zrtp then
      some { resultCfg with
        zrtphash := if localCfg.zrtphash ≠ "" then localCfg.zrtphash else resultCfg.zrtphash
        haveZrtpHash := if localCfg.zrtphash ≠ "" ∨ remoteCfg.zrtphash ≠ "" then 1 else 0 }
    else none
  else some resultCfg

def fillDtlsAttributes (localCfg remoteCfg resultCfg : SalStreamConfiguration) : Option SalStreamConfiguration :=
  if localCfg.dtls_role ≠ .invalid ∧ remoteCfg.dtls_role ≠ .invalid ∧ localCfg.dtls_fingerprint ≠ "" ∧
      remoteCfg.dtls_fingerprint ≠ "" then
    if .dtls ∈ availableEncs then
      some { resultCfg with
        dtls_fingerprint := localCfg.dtls_fingerprint
        dtls_role := if remoteCfg.dtls_role = .unset then .isClient else resultCfg.dtls_role }
    else none
  else some { resultCfg with dtls_fingerprint := "", dtls_role := .invalid }

/-- The mid of the offer can be answered: both configurations have one, and its header extension, and the transport
owner of the bundle is known. -/
def bundleEnabled (bundle_owner_mid : String) (localCfg remoteCfg : SalStreamConfiguration) : Bool :=
  localCfg.mid != "" && remoteCfg.mid != "" && bundle_owner_mid != "" && localCfg.mid_rtp_ext_header_id != 0 &&
    remoteCfg.mid_rtp_ext_header_id != 0

/-- The RTP bundle part of the negotiation of a configuration. RTCP multiplexing must be enabled in bundle mode. -/
def fillBundleAttributes (bundle_owner_mid : String) (localCfg remoteCfg resultCfg : SalStreamConfiguration) :
    SalStreamConfiguration :=
  if bundleEnabled bundle_owner_mid localCfg remoteCfg then
    { resultCfg with
      mid := remoteCfg.mid
      mid_rtp_ext_header_id := remoteCfg.mid_rtp_ext_header_id
      bundle_only := if remoteCfg.mid ≠ bundle_owner_mid then true else resultCfg.bundle_only
      rtcp_mux := true }
  else resultCfg

/-- The answer is for a multicast address. -/
def offersMulticast (remote_offer : SalStreamDescription) : Bool :=
  remote_offer.rtp_addr != "" && engine.isMulticast remote_offer.rtp_addr

/-- The direction and the packet times, unless SRTP is asked for a multicast address. -/
def fillDirection (remote_offer : SalStreamDescription) (localCfg remoteCfg resultCfg : SalStreamConfiguration) :
    Option SalStreamConfiguration :=
  if engine.offersMulticast remote_offer then
    if resultCfg.hasSrtp then none
    else
      some { resultCfg with
        dir := remoteCfg.dir, ptime := remoteCfg.ptime, maxptime := remoteCfg.maxptime, ttl := remoteCfg.ttl }
  else
    some { resultCfg with
      dir := computeDirIncoming localCfg.dir remoteCfg.dir, ptime := localCfg.ptime, maxptime := localCfg.maxptime }

variable (local_cap remote_offer : SalStreamDescription)

/-- The negotiation of a configuration once the protocol is chosen. -/
def completeConfiguration (localCfgIdx remoteCfgIdx : CfgIndex)
    (localCfg remoteCfg resultCfg : SalStreamConfiguration) : Option SalStreamConfiguration := do
  let availableEncs := local_cap.supportedEncryption
  let resultCfg := { resultCfg with
    delete_media_attributes := localCfg.delete_media_attributes
    delete_session_attributes := localCfg.delete_session_attributes }
  let resultCfg ← engine.fillDirection remote_offer localCfg remoteCfg resultCfg
  if resultCfg.payloads.isEmpty || onlyTelephoneEvent resultCfg.payloads || !remote_offer.enabled then none
  else
    let resultCfg := { resultCfg with
      rtcp_mux := remoteCfg.rtcp_mux && localCfg.rtcp_mux
      mixer_to_client_extension_id :=
        getExtensionId localCfg.mixer_to_client_extension_id remoteCfg.mixer_to_client_extension_id
      client_to_mixer_extension_id :=
        getExtensionId localCfg.client_to_mixer_extension_id remoteCfg.client_to_mixer_extension_id
      frame_marking_extension_id :=
        getExtensionId localCfg.frame_marking_extension_id remoteCfg.frame_marking_extension_id
      conference_ssrc := localCfg.conference_ssrc }
    let resultCfg ← fillSrtpAttributes availableEncs localCfg remoteCfg resultCfg
    let resultCfg ← fillZrtpAttributes availableEncs localCfgIdx remoteCfgIdx localCfg remoteCfg resultCfg
    let resultCfg := { resultCfg with
      set_nortpproxy := localCfg.set_nortpproxy
      rtp_ssrc := localCfg.rtp_ssrc
      rtcp_cname := localCfg.rtcp_cname }
    let resultCfg ← fillDtlsAttributes availableEncs localCfg remoteCfg resultCfg
    return { resultCfg with
      implicit_rtcp_fb := localCfg.implicit_rtcp_fb && remoteCfg.implicit_rtcp_fb
      tcapIndex := remoteCfg.tcapIndex
      acapIndexes := remoteCfg.acapIndexes
      index := remoteCfg.index }

variable (local_cap remote_offer result : SalStreamDescription)

/-- The configuration that is answered for two configurations, if they go together, and the two streams. The matching
may change the local payload types, and an AVP answer to an AVPF offer changes the protocol of the offered
configuration. -/
def initiateIncomingConfiguration (bundle_owner_mid : String) (localCfgIdx remoteCfgIdx : CfgIndex) :
    Option SalStreamConfiguration × SalStreamDescription × SalStreamDescription :=
  let localCfg := local_cap.getConfigurationAtIndex localCfgIdx
  let remoteCfg := remote_offer.getConfigurationAtIndex remoteCfgIdx
  if localCfg.equal {} || remoteCfg.equal {} then (none, local_cap, remote_offer)
  else
    let resultCfg := fillBundleAttributes bundle_owner_mid localCfg remoteCfg result.getActualConfiguration
    let bundle_enabled := bundleEnabled bundle_owner_mid localCfg remoteCfg
    let resultCfg :=
      { resultCfg with payloads := engine.matchPayloads localCfg.payloads remoteCfg.payloads bundle_enabled }
    let localCfg := { localCfg with payloads := engine.notePayloads localCfg.payloads remoteCfg.payloads }
    let local_cap := local_cap.addConfigurationAtIndex localCfgIdx localCfg
    if areProtoCompatibles localCfg.proto remoteCfg.proto then
      let remote_offer :=
        if localCfg.proto ≠ remoteCfg.proto ∧ remoteCfg.hasAvpf then
          remote_offer.addConfigurationAtIndex remoteCfgIdx { remoteCfg with proto := localCfg.proto }
        else remote_offer
      let remoteCfg := remote_offer.getConfigurationAtIndex remoteCfgIdx
      let resultCfg := { resultCfg with proto := remoteCfg.proto }
      (engine.completeConfiguration local_cap remote_offer localCfgIdx remoteCfgIdx localCfg remoteCfg resultCfg,
        local_cap, remote_offer)
    else (none, local_cap, remote_offer)

/-! ### One stream -/

/-- The pairs of configurations that are tried, the indices of the local one and of the offered one. -/
def configurationPairs (allowCapabilityNegotiation : Bool) : List (CfgIndex × CfgIndex) :=
  if allowCapabilityNegotiation then
    remote_offer.cfgs.entries.flatMap fun remoteCfg =>
      local_cap.cfgs.entries.map fun localCfg => (localCfg.1, remoteCfg.1)
  else [(actualConfigurationIndex, actualConfigurationIndex)]

/-- The first pair of configurations that go together, with what is answered for them. -/
def firstAnswered (answer : SalStreamDescription → SalStreamDescription → CfgIndex → CfgIndex →
      Option SalStreamConfiguration × SalStreamDescription × SalStreamDescription) :
    List (CfgIndex × CfgIndex) → SalStreamDescription → SalStreamDescription →
      Option (SalStreamConfiguration × CfgIndex × CfgIndex) × SalStreamDescription × SalStreamDescription
  | [], local_cap, remote_offer => (none, local_cap, remote_offer)
  | (localCfgIdx, remoteCfgIdx) :: pairs, local_cap, remote_offer =>
    match answer local_cap remote_offer localCfgIdx remoteCfgIdx with
    | (some resultCfg, local_cap, remote_offer) =>
      (some (resultCfg, localCfgIdx, remoteCfgIdx), local_cap, remote_offer)
    | (none, local_cap, remote_offer) => firstAnswered answer pairs local_cap remote_offer

/-- The loops of `initiateIncomingStream` over the configurations. -/
def negotiateConfigurations (bundle_owner_mid : String) (allowCapabilityNegotiation : Bool) :
    Option (SalStreamConfiguration × CfgIndex × CfgIndex) × SalStreamDescription × SalStreamDescription :=
  firstAnswered
    (fun local_cap remote_offer => engine.initiateIncomingConfiguration local_cap remote_offer result bundle_owner_mid)
    (configurationPairs local_cap remote_offer allowCapabilityNegotiation) local_cap remote_offer

/-- What the answer for a stream has before its configuration is negotiated. -/
def incomingResult : SalStreamDescription where
  name := local_cap.name
  type := local_cap.type
  typeother := if local_cap.type = .other then remote_offer.typeother else ""
  ice_pwd := local_cap.ice_pwd
  ice_ufrag := local_cap.ice_ufrag
  ice_mismatch := local_cap.ice_mismatch
  ice_candidates := local_cap.ice_candidates
  ice_remote_candidates := local_cap.ice_remote_candidates
  label := if remote_offer.label = "" then local_cap.label else remote_offer.label
  content := local_cap.content

/-- The addresses and the ports of an answered stream. -/
def fillTransport (resultCfg : SalStreamConfiguration) : SalStreamDescription :=
  let result :=
    if engine.offersMulticast remote_offer then
      { result with
        rtp_addr := remote_offer.rtp_addr
        rtcp_addr := remote_offer.rtcp_addr
        rtp_port := remote_offer.rtp_port
        rtcp_port := 0
        bandwidth := remote_offer.bandwidth
        multicast_role := .receiver }
    else
      { result with
        rtp_addr := local_cap.rtp_addr
        rtcp_addr := local_cap.rtcp_addr
        rtp_port := local_cap.rtp_port
        rtcp_port := local_cap.rtcp_port
        bandwidth := local_cap.bandwidth }
  let result := if resultCfg.bundle_only then { result with rtp_port := 0 } else result
  if resultCfg.rtcp_mux then { result with rtcp_port := 0 } else result

/-- The stream that is answered, and the two streams with the configurations that are chosen. The answer to a stream
that is rejected keeps the offered protocol. -/
def initiateIncomingStream (bundle_owner_mid : String)
    (allowCapabilityNegotiation : Bool) : SalStreamDescription × SalStreamDescription × SalStreamDescription :=
  let result := incomingResult local_cap remote_offer
  match engine.negotiateConfigurations local_cap remote_offer result bundle_owner_mid allowCapabilityNegotiation with
  | (some (resultCfg, localCfgIdx, remoteCfgIdx), local_cap, remote_offer) =>
    (engine.fillTransport local_cap remote_offer (result.addActualConfiguration resultCfg) resultCfg,
      { local_cap with cfgIndex := localCfgIdx }, { remote_offer with cfgIndex := remoteCfgIdx })
  | (none, local_cap, remote_offer) =>
    let cfg := { result.getActualConfiguration with proto := remote_offer.getActualConfiguration.proto }
    ((result.addActualConfiguration cfg).disable, local_cap, remote_offer)

/-! ### The whole description -/

structure Negotiation where
  local_capabilities : SalMediaDescription
  remote_offer : SalMediaDescription
  result : SalMediaDescription

variable (local_capabilities remote_offer : SalMediaDescription)

/-- The mid of the transport owner of an offered stream, empty if bundles are not accepted or if there is none. -/
def bundleOwnerMid (rs : SalStreamDescription) : String :=
  if local_capabilities.accept_bundles then
    let owner_index := remote_offer.getIndexOfTransportOwner rs
    if 0 ≤ owner_index then ((remote_offer.streams[owner_index.toNat]?).map (·.getMid)).getD "" else ""
  else ""

/-- The RTCP extended reports of an answered stream. -/
def incomingRtcpXr (local_capabilities : SalMediaDescription) (ls rs : SalStreamDescription) :
    OrtpRtcpXrConfiguration :=
  if rs.getChosenConfiguration.rtcp_xr.enabled then
    if ls.getChosenConfiguration.rtcp_xr.enabled then ls.getChosenConfiguration.rtcp_xr
    else if local_capabilities.rtcp_xr.enabled then local_capabilities.rtcp_xr
    else {}
  else {}

/-- The answer to a stream without a local stream that it can be negotiated with. -/
def declinedStream (rs : SalStreamDescription) : SalStreamDescription :=
  { type := rs.type, typeother := if rs.type = .other then rs.typeother else "" : SalStreamDescription }
    |>.addActualConfiguration
      { dir := .inactive
        proto := rs.getChosenConfiguration.proto
        proto_other := if rs.getChosenConfiguration.proto = .other then rs.getChosenConfiguration.proto_other else "" }

/-- The negotiation of one stream, the answer to which goes at the end of the result. -/
def negotiateStream (n : Negotiation) (i : ℕ) : Negotiation :=
  match n.remote_offer.streams[i]? with
  | none => n
  | some rs =>
    match n.local_capabilities.streams[i]? with
    | none => { n with result.streams := n.result.streams ++ [declinedStream rs] }
    | some ls =>
      if rs.type = ls.type ∧ areProtoInStreamCompatibles ls rs then
        let bundle_owner_mid := bundleOwnerMid n.local_capabilities n.remote_offer rs
        let (stream, ls, rs) :=
          engine.initiateIncomingStream ls rs bundle_owner_mid n.result.capabilityNegotiationSupported
        let actualCfg := { stream.getActualConfiguration with
          rtcp_fb := rs.getChosenConfiguration.rtcp_fb
          rtcp_xr := incomingRtcpXr n.local_capabilities ls rs }
        let stream := { stream with custom_sdp_attributes := ls.custom_sdp_attributes }
        { n with
          local_capabilities.streams := n.local_capabilities.streams.set i ls
          remote_offer.streams := n.remote_offer.streams.set i rs
          result.streams := n.result.streams ++ [stream.addActualConfiguration actualCfg] }
      else
        let stream := { declinedStream rs with custom_sdp_attributes := ls.custom_sdp_attributes }
        { n with result.streams := n.result.streams ++ [stream] }

def addToBundles (bundles : List SalStreamBundle) (s : SalStreamDescription) : List SalStreamBundle :=
  if s.getMid = "" then bundles
  else (bundles.headD {}).addStream s.getChosenConfiguration s.getMid :: bundles.tail

/-- A stream of the result is disabled if it is in a bundle that is not the one of the offer and of the local
capabilities, or if it is in none although it is in one of the offer and in one of the local capabilities. -/
def verifyBundle (local_capabilities remote_offer result : SalMediaDescription) (i : ℕ) : SalMediaDescription :=
  match result.streams[i]?, local_capabilities.streams[i]?, remote_offer.streams[i]? with
  | some s, some ls, some rs =>
    let result_owner_index := result.getIndexOfTransportOwner s
    let local_owner_index := local_capabilities.getIndexOfTransportOwner ls
    let remote_owner_index := remote_offer.getIndexOfTransportOwner rs
    if (0 ≤ result_owner_index ∧ (local_owner_index ≠ result_owner_index ∨ remote_owner_index ≠ result_owner_index)) ∨
        (result_owner_index < 0 ∧ 0 ≤ local_owner_index ∧ 0 ≤ remote_owner_index) then
      { result with streams := result.streams.set i s.disable }
    else result
  | _, _, _ => result

def verifyBundles (local_capabilities remote_offer result : SalMediaDescription) : SalMediaDescription :=
  (List.range result.streams.length).foldl (verifyBundle local_capabilities remote_offer) result

/-- What the answer has but for its streams. -/
def incomingDescription : SalMediaDescription where
  capabilityNegotiationSupported := local_capabilities.capabilityNegotiationSupported
  record :=
    if remote_offer.record ≠ .none ∧ local_capabilities.record ≠ .none then local_capabilities.record else .none
  username := local_capabilities.username
  addr := local_capabilities.addr
  times := remote_offer.times
  bandwidth := local_capabilities.bandwidth
  origin_addr := local_capabilities.origin_addr
  session_ver := local_capabilities.session_ver
  session_id := local_capabilities.session_id
  ice_pwd := local_capabilities.ice_pwd
  ice_ufrag := local_capabilities.ice_ufrag
  ice_lite := local_capabilities.ice_lite
  set_nortpproxy := local_capabilities.set_nortpproxy
  custom_sdp_attributes := local_capabilities.custom_sdp_attributes
  name := local_capabilities.name
  rtcp_xr :=
    if remote_offer.rtcp_xr.enabled ∧ local_capabilities.rtcp_xr.enabled ∧ local_capabilities.dir = .sendRecv then
      local_capabilities.rtcp_xr
    else {}

def negotiateStreams : Negotiation :=
  (List.range remote_offer.streams.length).foldl engine.negotiateStream
    ⟨local_capabilities, remote_offer, incomingDescription local_capabilities remote_offer⟩

def initiateIncoming : Negotiation :=
  let n := engine.negotiateStreams local_capabilities remote_offer
  let result := { n.result with bundles := n.result.streams.foldl addToBundles n.result.bundles }
  { n with result := verifyBundles n.local_capabilities n.remote_offer result }

end OfferAnswerEngine

end Sal
