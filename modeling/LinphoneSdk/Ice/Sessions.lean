import LinphoneSdk.Ice.Checks

/-!
# Sessions

The operations of the application on a session and on its check lists, the timers, and the runs that they make.
-/

namespace Ice

open Bytes Stun IceCheckList

/-! ### Check lists of a session -/

namespace IceSession

variable (s : IceSession) (i : StreamIndex)

def addCheckList (cl : IceCheckList) : IceSession :=
  if (s.streams i).isSome then s
  else
    { s with
      streams := Function.update s.streams i (some cl)
      state := if cl.state = .running then .running else s.state }

def removeCheckList : IceSession :=
  let s := { s with streams := Function.update s.streams i none }
  if s.AllCompleted then { s with state := .completed } else s

def removeCheckListFromIdx : IceSession := { s with streams := Function.update s.streams i none }

end IceSession

namespace IceCheckList

variable (cl : IceCheckList)

/-- Each remote component needs a default candidate. -/
def checkMismatch : IceCheckList :=
  if cl.remote_componentIDs.all fun componentID =>
      (cl.findDefaultCandidate cl.remote_candidates componentID).isSome then cl
  else { cl with mismatch := true, state := .failed }

def setRemoteCredentials (ufrag pwd : CString) : IceCheckList :=
  { cl with
    remote_ufrag := some (.ofBytes (ufrag.val.take ICE_MAX_UFRAG_LEN))
    remote_pwd := some (.ofBytes (pwd.val.take ICE_MAX_PWD_LEN)) }

end IceCheckList

namespace IceSession

variable (s : IceSession)

def setLocalCredentials (ufrag pwd : CString) : IceSession :=
  { s with
    local_ufrag := .ofBytes (ufrag.val.take ICE_MAX_UFRAG_LEN)
    local_pwd := .ofBytes (pwd.val.take ICE_MAX_PWD_LEN) }

def setRemoteCredentials (ufrag pwd : CString) : IceSession :=
  { s with
    remote_ufrag := some (.ofBytes (ufrag.val.take ICE_MAX_UFRAG_LEN))
    remote_pwd := some (.ofBytes (pwd.val.take ICE_MAX_PWD_LEN)) }

def setKeepaliveTimeout (timeout : UInt8) : IceSession :=
  { s with keepalive_timeout := if timeout < ICE_DEFAULT_KEEPALIVE_TIMEOUT then ICE_DEFAULT_KEEPALIVE_TIMEOUT else timeout }

def enableTurn (enable udp : Bool) : IceSession :=
  if enable then
    { s.mapCheckLists (fun cl =>
        { cl with
          rtp_turn_context := cl.rtp_turn_context.or (some ⟨.idle, 0, udp⟩)
          rtcp_turn_context := cl.rtcp_turn_context.or (some ⟨.idle, 0, udp⟩) }) with turn_enabled := true }
  else { s with turn_enabled := false }

end IceSession

namespace Agent

variable (P : Platform) (a : Agent) (i : StreamIndex)

/-! ### Gathering -/

def gatheringRequest (componentID : UInt16) (transactions : List (Buf 12)) (time : MSTimeSpec) : IceStunServerRequest where
  componentID := componentID
  stun_method := if a.session.turn_enabled then MS_TURN_METHOD_ALLOCATE else MS_STUN_METHOD_BINDING
  transactions := transactions
  next_transmission_time := time
  peer_address := .zero
  channel_number := 0
  gathering := true
  responded := false
  to_remove := false

/-- `ice_check_list_gather_candidates`. The first check list sends its request for RTP at once. -/
def gatherCandidatesOf (index : ℕ) : Agent :=
  let cl := a.cl i
  let curtime := a.now P
  if cl.gathering_candidates ∨ cl.state = .completed ∨ cl.gathering_finished then a
  else
    let rtp :=
      if index = 0 then
        a.gatheringRequest ICE_RTP_COMPONENT_ID [a.trId P] (curtime.addMs ICE_DEFAULT_RTO_DURATION)
      else a.gatheringRequest ICE_RTP_COMPONENT_ID [] (curtime.addMs (2 * index * ICE_DEFAULT_TA_DURATION))
    let rtcp :=
      a.gatheringRequest ICE_RTCP_COMPONENT_ID []
        (curtime.addMs (2 * index * ICE_DEFAULT_TA_DURATION + ICE_DEFAULT_TA_DURATION))
    let creating (turn : MSTurnContext) : MSTurnContext := { turn with state := .creatingAllocation }
    (a.modify i fun cl =>
      let cl := { cl with
        gathering_candidates := true
        gathering_start_time := curtime
        stun_server_requests := cl.stun_server_requests ++ rtp :: if cl.rtcp_mux then [] else [rtcp] }
      if a.session.turn_enabled then
        let cl := if index = 0 then cl.setTurnContext ICE_RTP_COMPONENT_ID creating else cl
        if cl.rtcp_mux then cl else cl.setTurnContext ICE_RTCP_COMPONENT_ID creating
      else cl).tick.draw

/-- The index counts the check lists that begin to gather. -/
def gatherCandidates (ss : MSStunAddress) : Agent :=
  let a := a.setSession fun s => { s with ss }
  ((List.finRange 8).foldl (fun (a, index) i =>
    match a.session.streams i with
    | some cl =>
      if cl.gathering_candidates ∨ cl.state = .completed ∨ cl.gathering_finished then (a, index)
      else (a.gatherCandidatesOf P i index, index + 1)
    | none => (a, index)) (a, 0)).1

/-- One late check list stops them all. -/
def checkGatheringTimeout (curtime : MSTimeSpec) : Agent :=
  if ∃ j, ∃ cl ∈ a.session.streams j,
      cl.gathering_candidates ∧ ICE_GATHERING_CANDIDATES_TIMEOUT ≤ curtime.compare cl.gathering_start_time then
    a.setSession fun s => s.mapCheckLists stopGathering
  else a

/-- `ice_send_stun_server_requests`. A refresh is not sent when the context is idle. -/
def sendStunServerRequest (request : IceStunServerRequest) : Agent × IceStunServerRequest :=
  let curtime := a.now P
  if !request.responded ∧ 0 ≤ curtime.compare request.next_transmission_time ∧
      request.transactions.length < ICE_MAX_STUN_REQUEST_RETRANSMISSIONS then
    let request := { request with next_transmission_time := curtime.addMs ICE_DEFAULT_RTO_DURATION }
    if request.stun_method = MS_TURN_METHOD_REFRESH ∧
        ((a.cl i).turnContext request.componentID).any fun turn => turn.state = .idle then
      (a.tick, { request with to_remove := true })
    else (a.tick.draw, { request with transactions := request.transactions ++ [a.trId P] })
  else (a.tick, request)

/-- The requests to the server, and the removal of those that are not to be sent any more. -/
def sendStunServerRequests : Agent :=
  let (a, requests) := (a.cl i).stun_server_requests.foldl (fun (a, requests) request =>
    let (a, request) := a.sendStunServerRequest P i request
    (a, requests ++ [request])) (a, [])
  a.modify i fun cl => { cl with stun_server_requests := requests.filter fun request => !request.to_remove }

/-! ### Start and restart -/

def withoutPort : MSStunAddress → MSStunAddress
  | .v4 _ addr => .v4 0 addr
  | .v6 _ addr => .v6 0 addr
  | .other family _ addr => .other family 0 addr

/-- The address of a permission has no port. -/
def createTurnPermission (c : CandidateId) : Agent :=
  let cl := a.cl i
  let candidate := cl.candidate c
  match cl.findFromTypeFamilyAndComponentID cl.local_candidates .relayed candidate.taddr.family candidate.componentID with
  | some l =>
    if (cl.candidate l).base = none ∨
        candidate.componentID ≠ ICE_RTP_COMPONENT_ID ∧ candidate.componentID ≠ ICE_RTCP_COMPONENT_ID then a
    else
      a.sendServerRequest i P
        { componentID := candidate.componentID
          stun_method := MS_TURN_METHOD_CREATE_PERMISSION
          transactions := []
          next_transmission_time := .zero
          peer_address := withoutPort (P.toStunAddress { candidate.taddr with port := 3478 })
          channel_number := 0
          gathering := false
          responded := false
          to_remove := false }
  | none => a

def createTurnPermissions : Agent :=
  if a.session.turn_enabled then (a.cl i).remote_candidates.foldl (fun a c => a.createTurnPermission P i c) a else a

def pairCandidatesOf : Option Agent :=
  match a.session.streams i with
  | none => some a
  | some cl =>
    if cl.state = .running then
      let a := (a.modify i fun cl => { cl with connectivity_checks_running := true }).createTurnPermissions P i
      let formed := (a.cl i).formCandidatePairs a.session.role a.session.check_message_integrity
      (formed.pruneCandidatePairs a.session.max_connectivity_checks).map fun cl =>
        a.modify i fun _ => cl.generatePairFoundationsList
    else some a

def firstRunning : Option StreamIndex :=
  (List.finRange 8).find? fun i => (a.session.streams i).any fun cl => cl.state = .running

def pairCandidates : Option Agent :=
  match a.firstRunning with
  | none => some a
  | some first => do
    let a ← (List.finRange 8).foldlM (fun a i => a.pairCandidatesOf P i) a
    pure (a.modify first computePairsStates)

def startConnectivityChecks : Option Agent := do
  let a ← a.pairCandidates P
  pure (a.setSession fun s => { s with state := .running })

def restart (role : IceRole) : Agent :=
  let now := a.now P
  (a.setSession fun s =>
    ({ s with
        state := .stopped
        tie_breaker := P.randomTieBreaker a.draws
        local_ufrag := P.randomUfrag a.draws
        local_pwd := P.randomPwd a.draws
        remote_ufrag := none
        remote_pwd := none }.mapCheckLists fun cl => cl.restart now).setRole role).tick.draw

def reset (role : IceRole) : Agent :=
  (a.restart P role).setSession fun s => s.mapCheckLists fun cl =>
    { cl with local_candidates := [], local_componentIDs := [] }

/-! ### Losing pairs -/

/-- The local candidate of a losing pair. One that a proxy added is added too: a null pointer is followed when it cannot
be. -/
def localOfLosingPair (componentID : UInt16) (taddr : IceTransportAddress) (cl : IceCheckList) :
    Option (IceCheckList × Option CandidateId × Bool) :=
  match cl.findFromTransportAddressAndComponentID cl.local_candidates taddr componentID with
  | some l => some (cl, some l, false)
  | none =>
    match (if cl.remote_candidates.any fun c => (cl.candidate c).taddr.ip = taddr.ip then
        cl.findFromTypeAndComponentID cl.remote_candidates .serverReflexive componentID else none) with
    | none => some (cl, none, false)
    | some srflx =>
      match cl.addLocalCandidate .relayed taddr componentID (some srflx) with
      | (cl, some l) => some (cl.computeCandidateFoundation l, some l, true)
      | (_, none) => none

def remoteChecks (r : CandidateId) (cl : IceCheckList) (state : IceCandidatePairState) : Bool :=
  cl.check_list.any fun p => sameCandidate (cl.remoteOf p) (cl.candidate r) && (cl.pair p).state = state

def addLosingPair (componentID : UInt16) (local_taddr remote_taddr : IceTransportAddress) : Option Agent := do
  let (cl, l, added_missing_relay_candidate) ← localOfLosingPair componentID local_taddr (a.cl i)
  match l with
  | none => pure a
  | some l =>
    match cl.findFromTransportAddressAndComponentID cl.remote_candidates remote_taddr componentID with
    | none => pure (a.modify i fun _ => cl)
    | some r =>
      let pair := cl.pairNew a.session.role a.session.check_message_integrity l r
      let cl := if added_missing_relay_candidate then cl.addPair pair else cl
      let (cl, p) :=
        match cl.findPair cl.pairs l r with
        | some p => (cl, p)
        | none => (cl.addPair pair, cl.nb_pairs)
      match cl.findInValidList p with
      | some v => pure (a.modify i fun _ => cl.setSelectedValidPair v)
      | none =>
        pure (a.modify i fun _ =>
          if remoteChecks r cl .inProgress ∧ p ∉ cl.losing_pairs then { cl with losing_pairs := cl.losing_pairs ++ [p] }
          else cl)

/-! ### Timers -/

/-- A check is sent again after its timeout. -/
def retransmitConnectivityChecks (curtime : MSTimeSpec) : Agent :=
  (a.cl i).check_list.foldl (fun a p =>
    let pair := (a.cl i).pair p
    if (a.cl i).nomination_in_progress ∧ !pair.use_candidate then a
    else if pair.state = .inProgress ∧ pair.rto ≤ curtime.compare pair.transmission_time then a.sendBindingRequest P i p
    else a) a

def sendTriggeredCheck (p : PairId) (list : List PairId) : Agent :=
  (a.modify i fun cl => { cl with triggered_checks_queue := list }).sendBindingRequest P i p

/-- An ordinary check, or the conclusion when there is none left. -/
def sendOrdinaryCheck : Agent :=
  let cl := a.cl i
  if cl.check_list.all fun p => (cl.pair p).state = .frozen then a.modify i computePairsStates
  else
    match (cl.check_list.find? fun p => (cl.pair p).state = .waiting).or
        (cl.check_list.find? fun p => (cl.pair p).state = .frozen) with
    | some p => a.sendBindingRequest P i p
    | none =>
      if cl.check_list.any fun p =>
          (cl.pair p).state = .inProgress ∧ (cl.pair p).retransmissions ≤ ICE_MAX_RETRANSMISSIONS then a
      else a.concludeProcessing i P false

/-- One new check at most, every `ta`. -/
def processChecks (curtime : MSTimeSpec) (ordinary : Bool) : Agent :=
  let a := a.retransmitConnectivityChecks P i curtime
  if curtime.compare (a.cl i).ta_time < a.session.ta then a
  else
    let a := a.modify i fun cl => { cl with ta_time := curtime }
    match (a.cl i).triggered_checks_queue with
    | p :: list => a.sendTriggeredCheck P i p list
    | [] => if ordinary then a.sendOrdinaryCheck P i else a

def checkNominationDelay (curtime : MSTimeSpec) : Agent :=
  if (a.cl i).nomination_delay_running ∧
      ICE_NOMINATION_DELAY ≤ curtime.compare (a.cl i).nomination_delay_start_time then a.concludeProcessing i P true
  else a

def process : Agent :=
  let curtime := a.now P
  let a := a.tick
  let a := if (a.cl i).gathering_candidates then a.checkGatheringTimeout curtime else a
  let a := a.sendStunServerRequests P i
  if a.session.state = .stopped ∨ a.session.state = .failed then a
  else
    match (a.cl i).state with
    | .completed =>
      let a :=
        if a.session.keepalive_timeout.toNat * 1000 ≤ curtime.compare (a.cl i).keepalive_time then
          (a.sendKeepalivePackets P i).modify i fun cl => { cl with keepalive_time := curtime }
        else a
      a.processChecks P i curtime false
    | .running =>
      let a := a.sendKeepalivePackets P i
      let delayed := (a.cl i).nomination_delay_running ∧
        ICE_NOMINATION_DELAY ≤ curtime.compare (a.cl i).nomination_delay_start_time
      let a := a.checkNominationDelay P i curtime
      if delayed ∧ a.session.state = .completed then a else a.processChecks P i curtime true
    | .failed => a

end Agent

/-- What can be done with a session. -/
inductive Operation where
  | addCheckList (i : StreamIndex) (rtcp_mux : Bool)
  | removeCheckList (i : StreamIndex)
  | removeCheckListFromIdx (i : StreamIndex)
  | checkMismatch
  | setCheckListState (i : StreamIndex) (state : IceCheckListState)
  | checkCompleted (i : StreamIndex)
  | setRole (role : IceRole)
  | setLocalCredentials (ufrag pwd : CString)
  | setRemoteCredentials (ufrag pwd : CString)
  | setCheckListRemoteCredentials (i : StreamIndex) (ufrag pwd : CString)
  | setMaxConnectivityChecks (max_connectivity_checks : UInt8)
  | setKeepaliveTimeout (timeout : UInt8)
  | enableMessageIntegrityCheck (enable : Bool)
  | enableForcedRelay (enable : Bool)
  | enableTurn (enable udp : Bool)
  | setDefaultCandidates (types : List IceCandidateType) (prefer_ipv6 : Bool)
  | gatherCandidates (ss : MSStunAddress)
  | addLocalCandidate (i : StreamIndex) (type : IceCandidateType) (taddr : IceTransportAddress) (componentID : UInt16)
      (base : Option CandidateId)
  | addRemoteCandidate (i : StreamIndex) (type : IceCandidateType) (taddr : IceTransportAddress) (componentID : UInt16)
      (priority : UInt32) (foundation : CString) (is_default : Bool)
  | setBaseForSrflxCandidates
  | computeCandidatesFoundations
  | eliminateRedundantCandidates
  | chooseDefaultCandidates
  | chooseDefaultRemoteCandidates
  | addLosingPair (i : StreamIndex) (componentID : UInt16) (local_taddr remote_taddr : IceTransportAddress)
  | selectCandidates
  | removeRtcpCandidates (i : StreamIndex)
  | startConnectivityChecks
  | handleStunPacket (i : StreamIndex) (evt_data : OrtpEventData)
  | process (i : StreamIndex)
  | restart (role : IceRole)
  | reset (role : IceRole)

namespace Operation

def index : Operation → Option StreamIndex
  | setCheckListState i _ | checkCompleted i | setCheckListRemoteCredentials i _ _ | addLocalCandidate i _ _ _ _
  | addRemoteCandidate i _ _ _ _ _ _ | addLosingPair i _ _ _ | removeRtcpCandidates i | handleStunPacket i _
  | process i => some i
  | _ => none

end Operation

namespace Agent

variable (P : Platform) (a : Agent)

/-- What an operation does, if it follows no null pointer. -/
def apply : Operation → Option Agent
  | .addCheckList i rtcp_mux => some (a.setSession fun s => s.addCheckList i (.new (a.now P) rtcp_mux)).tick
  | .removeCheckList i => some (a.setSession fun s => s.removeCheckList i)
  | .removeCheckListFromIdx i => some (a.setSession fun s => s.removeCheckListFromIdx i)
  | .checkMismatch => some (a.setSession fun s => s.mapCheckLists checkMismatch)
  | .setCheckListState i state => some (a.setState i state)
  | .checkCompleted i => some (a.checkCompleted i)
  | .setRole role => some (a.setSession fun s => s.setRole role)
  | .setLocalCredentials ufrag pwd => some (a.setSession fun s => s.setLocalCredentials ufrag pwd)
  | .setRemoteCredentials ufrag pwd => some (a.setSession fun s => s.setRemoteCredentials ufrag pwd)
  | .setCheckListRemoteCredentials i ufrag pwd => some (a.modify i fun cl => cl.setRemoteCredentials ufrag pwd)
  | .setMaxConnectivityChecks max_connectivity_checks => some (a.setSession fun s => { s with max_connectivity_checks })
  | .setKeepaliveTimeout timeout => some (a.setSession fun s => s.setKeepaliveTimeout timeout)
  | .enableMessageIntegrityCheck enable => some (a.setSession fun s => { s with check_message_integrity := enable })
  | .enableForcedRelay enable => some (a.setSession fun s => { s with forced_relay := enable })
  | .enableTurn enable udp => some (a.setSession fun s => s.enableTurn enable udp)
  | .setDefaultCandidates types prefer_ipv6 =>
    some (a.setSession fun s => { s with default_types := types, default_candidates_prefer_ipv6 := prefer_ipv6 })
  | .gatherCandidates ss => some (a.gatherCandidates P ss)
  | .addLocalCandidate i type taddr componentID base =>
    some (a.modify i fun cl => (cl.addLocalCandidate type taddr componentID base).1)
  | .addRemoteCandidate i type taddr componentID priority foundation is_default =>
    some (a.modify i fun cl => (cl.addRemoteCandidate type taddr componentID priority foundation is_default).1)
  | .setBaseForSrflxCandidates => some (a.setSession fun s => s.mapCheckLists setBaseForSrflxCandidates)
  | .computeCandidatesFoundations =>
    some (a.setSession fun s => s.mapCheckLists computeCandidatesFoundations)
  | .eliminateRedundantCandidates =>
    some (a.setSession fun s => s.mapCheckLists eliminateRedundantCandidates)
  | .chooseDefaultCandidates =>
    some (a.setSession fun s => s.mapCheckLists fun cl =>
      cl.chooseDefaultCandidates s.default_types s.default_candidates_prefer_ipv6)
  | .chooseDefaultRemoteCandidates =>
    some (a.setSession fun s => s.mapCheckLists fun cl =>
      cl.chooseDefaultRemoteCandidates s.default_types s.default_candidates_prefer_ipv6)
  | .addLosingPair i componentID local_taddr remote_taddr => a.addLosingPair i componentID local_taddr remote_taddr
  | .selectCandidates => some (a.setSession fun s => s.mapCheckLists selectCandidates)
  | .removeRtcpCandidates i => some (a.modify i removeRtcpCandidates)
  | .startConnectivityChecks => a.startConnectivityChecks P
  | .handleStunPacket i evt_data => a.handleStunPacket P i evt_data
  | .process i => some (a.process P i)
  | .restart role => some (a.restart P role)
  | .reset role => some (a.reset P role)

end Agent

end Ice
