import LinphoneSdk.Ice.Processing

/-!
# Connectivity checks

The binding requests and the responses that an agent sends, what it does of the STUN packets that it receives
(`ice_handle_stun_packet`), and the work of the timers (`ice_check_list_process`).
-/

namespace Ice

open Bytes Stun

def MS_STUN_TYPE_REQUEST : UInt16 := 0x0000
def MS_STUN_TYPE_INDICATION : UInt16 := 0x0010
def MS_STUN_TYPE_SUCCESS_RESPONSE : UInt16 := 0x0100
def MS_STUN_TYPE_ERROR_RESPONSE : UInt16 := 0x0110

def MS_STUN_METHOD_BINDING : UInt16 := 0x001
def MS_TURN_METHOD_ALLOCATE : UInt16 := 0x003
def MS_TURN_METHOD_REFRESH : UInt16 := 0x004
def MS_TURN_METHOD_CREATE_PERMISSION : UInt16 := 0x008
def MS_TURN_METHOD_CHANNEL_BIND : UInt16 := 0x009

def MS_STUN_ERROR_CODE_BAD_REQUEST : UInt16 := 400
def MS_STUN_ERROR_CODE_UNAUTHORIZED : UInt16 := 401
def MS_ICE_ERROR_CODE_ROLE_CONFLICT : UInt16 := 487

def messageCreate (type method : UInt16) (tr_id : Buf 12) : MSStunMessage :=
  { MSStunMessage.new0 with type, method, tr_id }

def text (s : String) : CString := .ofBytes (s.toList.map fun c => .ofNat c.toNat)

/-- What `snprintf` writes for a null pointer. -/
def printed (s : Option CString) : CString := s.getD (text "(null)")

/-- Two fragments with a colon between them. -/
def userName (first second : CString) : CString := .ofBytes (first.val ++ 58 :: second.val)

/-- `ms_compare_stun_addresses`, negated. -/
def sameStunAddress : MSStunAddress → MSStunAddress → Bool
  | .v4 p a, .v4 p' a' => p = p' ∧ a = a'
  | .v6 p a, .v6 p' a' => p = p' ∧ a = a'
  | _, _ => false

/-- `strcmp` finds no difference between two buffers that end with a null byte. -/
def sameHmac (b b' : Buf 20) : Bool := CString.ofBytes b.toList = CString.ofBytes b'.toList

namespace IceSession

variable (s : IceSession) (cl : IceCheckList)

def remoteUfrag : Option CString := cl.remote_ufrag.or s.remote_ufrag

def remotePwd : Option CString := cl.remote_pwd.or s.remote_pwd

/-! ### Messages -/

def bindingRequest (p : PairId) (tr_id : Buf 12) : MSStunMessage :=
  { messageCreate MS_STUN_TYPE_REQUEST MS_STUN_METHOD_BINDING tr_id with
    username := some (userName (printed (s.remoteUfrag cl)) s.local_ufrag)
    password := s.remotePwd cl
    has_message_integrity := true
    has_fingerprint := true
    priority := some ((cl.localOf p).priority &&& (0x00ffffff : UInt32) |||
      IceCandidateType.preference .peerReflexive <<< (24 : UInt32))
    has_use_candidate := s.role = .controlling && (cl.pair p).use_candidate
    ice_controlling := if s.role = .controlling then some s.tie_breaker else none
    ice_controlled := if s.role = .controlled then some s.tie_breaker else none
    has_dummy_message_integrity := (cl.pair p).use_dummy_hmac }

def bindingResponse (msg : MSStunMessage) (dest : MSStunAddress) : MSStunMessage :=
  { messageCreate MS_STUN_TYPE_SUCCESS_RESPONSE MS_STUN_METHOD_BINDING msg.tr_id with
    username := some (userName s.local_ufrag (printed (s.remoteUfrag cl)))
    password := some s.local_pwd
    has_message_integrity := true
    has_fingerprint := true
    has_dummy_message_integrity := msg.has_dummy_message_integrity
    xor_mapped_address := some dest }

end IceSession

/-- The error response to a request. The transaction id of the request is not copied. -/
def errorResponse (tr_id : Buf 12) (error_num : UInt16) (error_msg : String) : MSStunMessage :=
  { messageCreate MS_STUN_TYPE_ERROR_RESPONSE MS_STUN_METHOD_BINDING tr_id with
    has_fingerprint := true
    error_code := some ⟨some (text error_msg), error_num⟩ }

/-- A keepalive. -/
def bindingIndication (tr_id : Buf 12) (use_dummy_hmac : Bool) : MSStunMessage :=
  { messageCreate MS_STUN_TYPE_INDICATION MS_STUN_METHOD_BINDING tr_id with
    has_fingerprint := true
    has_dummy_message_integrity := use_dummy_hmac }

namespace Agent

variable (P : Platform) (a : Agent) (i : StreamIndex)

/-! ### Sending -/

variable (p : PairId)

def firstTransmission (cl : IceCheckList) : IceCheckList :=
  cl.setPair p fun pair =>
    { pair with rto := ICE_DEFAULT_RTO_DURATION, retransmissions := 0, role := a.session.role, state := .inProgress }

/-- Under a forced relay, only relayed candidates are used. -/
def isWithheld : Bool :=
  a.session.forced_relay ∧ ((a.cl i).remoteOf p).type ≠ .relayed ∧ ((a.cl i).localOf p).type ≠ .relayed

variable (msg : MSStunMessage)

def transmit : Agent :=
  if a.isWithheld i p then a
  else
    a.send
      { componentID := (a.cl i).componentOf p
        source := P.toStunAddress ((a.cl i).localOf p).taddr
        dest := P.toStunAddress ((a.cl i).remoteOf p).taddr
        msg }

/-- `ice_send_binding_request` once the pair was looked at: with its transaction when it is a retransmission. -/
def sendRequest (transaction : Option IceTransaction) : Agent :=
  let a := (a.modify i fun cl => cl.setPair p fun pair => { pair with transmission_time := a.now P }).tick
  if (a.cl i).componentOf p = ICE_RTP_COMPONENT_ID ∨ (a.cl i).componentOf p = ICE_RTCP_COMPONENT_ID then
    match transaction with
    | some transaction =>
      (a.transmit P i p (a.session.bindingRequest (a.cl i) p transaction.transactionID)).draw
    | none =>
      let tr_id := a.trId P
      let a := (a.modify i fun cl => cl.createTransaction p tr_id).draw
      (a.transmit P i p (a.session.bindingRequest (a.cl i) p tr_id)).modify i (a.firstTransmission p)
  else a

/-- A nomination that gets no answer is given up. -/
def renominate : Agent :=
  let pair := (a.cl i).pair p
  if a.session.role = .controlling ∧ pair.use_candidate ∧ !pair.nomination_failing ∧
      ICE_MAX_RETRANSMISSIONS_FOR_NOMINATIONS < pair.retransmissions then
    (a.modify i fun cl =>
      { cl.setPair p fun pair => { pair with nomination_failing := true } with
        nomination_in_progress := false }.performNominations false (a.now P)).tick
  else a

/-- The last retransmission makes the pair fail. -/
def sendBindingRequest : Agent :=
  if ((a.cl i).pair p).state = .inProgress then
    match (a.cl i).findTransaction p with
    | none => a
    | some transaction =>
      let a := (a.modify i fun cl => cl.setPair p fun pair =>
        { pair with retransmissions := pair.retransmissions + 1 }).renominate P i p
      if ICE_MAX_RETRANSMISSIONS < ((a.cl i).pair p).retransmissions then
        a.modify i fun cl => cl.setPairState p .failed
      else
        (a.modify i fun cl => cl.setPair p fun pair => { pair with rto := 2 * pair.rto }).sendRequest P i p
          (some transaction)
  else a.sendRequest P i p none

/-- A response goes back where the request comes from. -/
def sendResponse (evt_data : OrtpEventData) (dest : MSStunAddress) (msg : MSStunMessage) : Agent :=
  a.send { componentID := evt_data.socket_type.componentID, source := evt_data.recv_addr, dest, msg }

variable (evt_data : OrtpEventData) (msg : MSStunMessage)

def sendBindingResponse (dest : MSStunAddress) : Agent :=
  (a.sendResponse evt_data dest (a.session.bindingResponse (a.cl i) msg dest)).draw

def sendErrorResponse (evt_data : OrtpEventData) (dest : MSStunAddress) (error_num : UInt16) (error_msg : String) :
    Agent :=
  (a.sendResponse evt_data dest (errorResponse (a.trId P) error_num error_msg)).draw

def sendIndication : Agent :=
  let cl := a.cl i
  if cl.componentOf p = ICE_RTP_COMPONENT_ID ∨ cl.componentOf p = ICE_RTCP_COMPONENT_ID then
    (a.send
      { componentID := cl.componentOf p
        source := P.toStunAddress (cl.localOf p).taddr
        dest := P.toStunAddress (cl.remoteOf p).taddr
        msg := bindingIndication (a.trId P) (cl.pair p).use_dummy_hmac }).draw
  else a

def sendKeepalivePackets : Agent :=
  match (a.cl i).state with
  | .completed =>
    (a.cl i).local_componentIDs.foldl (fun a componentID =>
      match (a.cl i).findSelected componentID with
      | some v => a.sendIndication P i ((a.cl i).validOf v)
      | none => a) a
  | .running =>
    let curtime := a.now P
    (a.cl i).valid_list.foldl (fun a v =>
      if 3000 ≤ curtime.compare ((a.cl i).valid_pair v).last_keepalive then
        (a.sendIndication P i ((a.cl i).validOf v)).modify i fun cl =>
          cl.setValid v fun valid_pair => { valid_pair with last_keepalive := curtime }
      else a) a.tick
  | .failed => a

/-! ### Binding requests -/

/-- The checks of a binding request before its role is looked at. -/
inductive RequestCheck where
  | refused (error_num : UInt16) (error_msg : String)
  | accepted
  deriving DecidableEq

def checkAttributes : RequestCheck :=
  if !msg.has_message_integrity then .refused MS_STUN_ERROR_CODE_BAD_REQUEST "Missing MESSAGE-INTEGRITY attribute"
  else if msg.username = none then .refused MS_STUN_ERROR_CODE_BAD_REQUEST "Missing USERNAME attribute"
  else if !msg.has_fingerprint then .refused MS_STUN_ERROR_CODE_BAD_REQUEST "Missing FINGERPRINT attribute"
  else if msg.priority = none then .refused MS_STUN_ERROR_CODE_BAD_REQUEST "Missing PRIORITY attribute"
  else if msg.ice_controlling = none ∧ msg.ice_controlled = none then
    .refused MS_STUN_ERROR_CODE_BAD_REQUEST "Missing ICE-CONTROLLING or ICE-CONTROLLED attribute"
  else .accepted

/-- The integrity of what precedes it, without the fingerprint. -/
def expectedIntegrity (packet : Bytes) (length : UInt16) (pwd : CString) : Buf 20 :=
  calculateIntegrityShortTerm P.digests ((Chunks.patch packet 2 (be16 (length - 8))).take (packet.length - 24 - 8)) pwd

def checkIntegrity (packet : Bytes) (msg : MSStunMessage) : RequestCheck :=
  if msg.message_integrity.any fun hmac =>
      sameHmac hmac (expectedIntegrity P packet msg.length a.session.local_pwd) then .accepted
  else if !a.session.check_message_integrity ∧ msg.has_dummy_message_integrity then .accepted
  else .refused MS_STUN_ERROR_CODE_UNAUTHORIZED "Wrong MESSAGE-INTEGRITY attribute"

/-- `ice_check_received_binding_request_username`. What is before the colon is only compared with the beginning of the
local fragment. -/
def checkUsername : RequestCheck :=
  if msg.username.any fun username =>
      58 ∈ username.val ∧ username.val.takeWhile (· ≠ 58) <+: a.session.local_ufrag.val then .accepted
  else .refused MS_STUN_ERROR_CODE_UNAUTHORIZED "Wrong USERNAME attribute"

/-- The role that a request makes an agent take, when it is not refused. -/
def resolvedRole : Option IceRole :=
  match a.session.role with
  | .controlling =>
    match msg.ice_controlling with
    | some tie_breaker => if tie_breaker ≤ a.session.tie_breaker then none else some .controlled
    | none => some .controlling
  | .controlled =>
    match msg.ice_controlled with
    | some tie_breaker => if tie_breaker ≤ a.session.tie_breaker then some .controlling else none
    | none => some .controlled

/-- `ice_check_received_binding_request_role_conflict`, without the change of role. -/
def checkRoleConflict : RequestCheck :=
  match a.resolvedRole msg with
  | some _ => .accepted
  | none => .refused MS_ICE_ERROR_CODE_ROLE_CONFLICT "Role Conflict"

def checkRequest (packet : Bytes) (msg : MSStunMessage) : RequestCheck :=
  match checkAttributes msg with
  | .refused error_num error_msg => .refused error_num error_msg
  | .accepted =>
    match a.checkIntegrity P packet msg with
    | .refused error_num error_msg => .refused error_num error_msg
    | .accepted =>
      match a.checkUsername msg with
      | .refused error_num error_msg => .refused error_num error_msg
      | .accepted => a.checkRoleConflict msg

/-- `ice_learn_peer_reflexive_candidate`, with the candidate that is learned, if any. -/
def learnPeerReflexiveCandidate (foundation : List CString → CString) (componentID : UInt16) (msg : MSStunMessage)
    (taddr : IceTransportAddress) (cl : IceCheckList) : IceCheckList × Option CandidateId :=
  match cl.findFromTransportAddressAndComponentID cl.remote_candidates taddr componentID with
  | some _ => (cl, none)
  | none =>
    cl.addRemoteCandidate .peerReflexive taddr componentID (msg.priority.getD 0)
      (foundation (cl.remote_candidates.map fun c => (cl.candidate c).foundation)) false

/-- A check in progress is canceled once. -/
def triggerKnownPair (cl : IceCheckList) : IceCheckList :=
  match (cl.pair p).state with
  | .waiting | .frozen | .failed => cl.triggerCheck p
  | .inProgress =>
    if (cl.pair p).has_canceled_transaction ∨ cl.findTransaction p = none then cl
    else
      ({ cl with transaction_list := IceCheckList.cancelTransaction p cl.transaction_list }.triggerCheck p).setPair p
        fun pair => { pair with has_canceled_transaction := true }
  | .succeeded => cl

variable (role : IceRole) (check_message_integrity : Bool)

/-- A check of a pair that is not in the check list, and maybe not among the pairs. -/
def triggerNewPair (l r : CandidateId) (cl : IceCheckList) : IceCheckList × PairId :=
  let (cl, p) :=
    match cl.findPair cl.pairs l r with
    | some p => (cl, p)
    | none => (cl.addPair (cl.pairNew role check_message_integrity l r), cl.nb_pairs)
  (({ cl with
      check_list := if p ∈ cl.check_list then cl.check_list else cl.insertByPriority cl.check_list p }).triggerCheck p, p)

/-- `ice_trigger_connectivity_check_on_binding_request`, with the pair that is checked, if any. -/
def triggerConnectivityCheck (local_taddr : IceTransportAddress)
    (prflx_candidate : Option CandidateId) (remote_taddr : IceTransportAddress) (cl : IceCheckList) :
    IceCheckList × Option PairId :=
  match cl.findFromTransportAddress cl.local_candidates local_taddr with
  | none => (cl, none)
  | some l =>
    match prflx_candidate.or
        (cl.findFromTransportAddressAndComponentID cl.remote_candidates remote_taddr (cl.candidate l).componentID) with
    | none => (cl, none)
    | some r =>
      match cl.findPair cl.check_list l r with
      | some p => (triggerKnownPair p cl, some p)
      | none =>
        let (cl, p) := triggerNewPair role check_message_integrity l r cl
        (cl, some p)

def updateNominatedFlagOnBindingRequest (role : IceRole) (msg : MSStunMessage) (p : PairId) (cl : IceCheckList) :
    IceCheckList :=
  if msg.has_use_candidate ∧ role = .controlled then
    match (cl.pair p).state with
    | .succeeded => cl.setPair ((cl.lookupPossibleValidPair p).getD p) fun pair => { pair with is_nominated := true }
    | .waiting | .frozen | .inProgress => cl.setPair p fun pair => { pair with nomination_pending := true }
    | .failed => cl
  else cl

variable (remote_addr : MSStunAddress)

def receiveRequest (cl : IceCheckList) : IceCheckList :=
  let taddr := P.toTransportAddress remote_addr
  let (cl, prflx_candidate) :=
    learnPeerReflexiveCandidate (P.arbitraryFoundation a.draws) evt_data.socket_type.componentID msg taddr cl
  let (cl, pair) :=
    triggerConnectivityCheck a.session.role a.session.check_message_integrity
      (P.toTransportAddress evt_data.recv_addr) prflx_candidate taddr cl
  match pair with
  | some p => updateNominatedFlagOnBindingRequest a.session.role msg p cl
  | none => cl

def handleReceivedBindingRequest : Agent :=
  match a.checkRequest P evt_data.packet.bytes msg with
  | .refused error_num error_msg => a.sendErrorResponse P evt_data remote_addr error_num error_msg
  | .accepted =>
    let a := a.setSession fun s => s.setRole ((a.resolvedRole msg).getD s.role)
    let a := (a.modify i (a.receiveRequest P evt_data msg remote_addr)).draw
    (a.sendBindingResponse i evt_data msg remote_addr).concludeProcessing i P false

/-! ### Responses of the server -/

def hasTransaction (tr_id : Buf 12) (request : IceStunServerRequest) : Bool := tr_id ∈ request.transactions

def getStunServerRequest (tr_id : Buf 12) (cl : IceCheckList) : Option IceStunServerRequest :=
  cl.stun_server_requests.find? (hasTransaction tr_id)

def removeStunServerRequest (tr_id : Buf 12) (cl : IceCheckList) : IceCheckList :=
  { cl with stun_server_requests := cl.stun_server_requests.filter fun request => !hasTransaction tr_id request }

def markResponded (tr_id : Buf 12) : List IceStunServerRequest → List IceStunServerRequest
  | [] => []
  | request :: list =>
    if hasTransaction tr_id request then { request with responded := true } :: list
    else request :: markResponded tr_id list

/-- The requests of the gathering are removed. -/
def stopGathering (cl : IceCheckList) : IceCheckList :=
  { cl with
    gathering_candidates := false
    gathering_finished := true
    stun_server_requests := cl.stun_server_requests.filter fun request => !request.gathering }

def scheduleRequest (stun_method componentID channel_number : UInt16) (peer_address : MSStunAddress) (ms : ℤ) : Agent :=
  (a.modify i fun cl =>
    { cl with
      stun_server_requests :=
        cl.stun_server_requests ++
          [{ componentID
             stun_method
             transactions := []
             next_transmission_time := (a.now P).addMs (if a.session.short_turn_refresh then 5000 else ms)
             peer_address
             channel_number
             gathering := false
             responded := false
             to_remove := false }] }).tick

/-- `ice_schedule_turn_allocation_refresh`, after 90% of the lifetime, without the rounding of the source. -/
def scheduleTurnAllocationRefresh (componentID : UInt16) (lifetime : UInt32) : Agent :=
  a.scheduleRequest P i MS_TURN_METHOD_REFRESH componentID 0 .zero (lifetime.toNat * 900)

def scheduleTurnPermissionRefresh (componentID : UInt16) (peer_address : MSStunAddress) : Agent :=
  a.scheduleRequest P i MS_TURN_METHOD_CREATE_PERMISSION componentID 0 peer_address 240000

def scheduleTurnChannelBindRefresh (componentID channel_number : UInt16) (peer_address : MSStunAddress) : Agent :=
  a.scheduleRequest P i MS_TURN_METHOD_CHANNEL_BIND componentID channel_number peer_address 540000

/-- The candidate that an address of the server is found from: the one that the response came to, or the host candidate
when the server is reached through TCP. -/
def baseOfResponse (componentID : UInt16) (recv_addr srflx_addr : MSStunAddress) (cl : IceCheckList) :
    Option CandidateId :=
  if cl.rtp_turn_context.any fun turn => !turn.udp then
    match srflx_addr with
    | .v6 _ _ => cl.findHostCandidate componentID AF_INET6
    | _ => (cl.findHostCandidate componentID AF_INET).or (cl.findHostCandidate componentID AF_INET6)
  else cl.findFromTransportAddressAndComponentID cl.local_candidates (P.toTransportAddress recv_addr) componentID

/-- The server reflexive and the relayed candidate. -/
def addServerCandidates (componentID : UInt16) (base : CandidateId) (srflx_addr : MSStunAddress)
    (relay_addr : Option MSStunAddress) : Agent :=
  let srflx_taddr := P.toTransportAddress srflx_addr
  if srflx_taddr.port = 0 then a
  else
    let a := a.modify i fun cl => (cl.addLocalCandidate .serverReflexive srflx_taddr componentID (some base)).1
    match relay_addr with
    | none => a
    | some relay_addr =>
      let relay_taddr := P.toTransportAddress relay_addr
      if relay_addr.family = 0 ∨ relay_taddr.port = 0 then a
      else a.modify i fun cl => (cl.addLocalCandidate .relayed relay_taddr componentID (some base)).1

def acceptAllocation (request : IceStunServerRequest) (srflx_addr : MSStunAddress) : Agent :=
  let componentID := evt_data.socket_type.componentID
  let a :=
    match baseOfResponse P componentID evt_data.recv_addr srflx_addr (a.cl i) with
    | some base =>
      let a' := a.addServerCandidates P i componentID base srflx_addr msg.xor_relayed_address
      if (P.toTransportAddress srflx_addr).port ≠ 0 ∧ a.session.turn_enabled then
        a'.scheduleTurnAllocationRefresh P i componentID (msg.lifetime.getD 0)
      else a'
    | none => a
  a.modify i fun cl =>
    let cl := { cl with stun_server_requests := markResponded msg.tr_id cl.stun_server_requests }
    if a.session.turn_enabled then
      cl.setTurnContext request.componentID fun turn =>
        { turn with state := .allocationCreated, lifetime := msg.lifetime.getD turn.lifetime }
    else cl

/-- `ice_handle_received_turn_allocate_success_response`, and whether it is the response to a request to the server. -/
def handleReceivedTurnAllocateSuccessResponse : Agent × Bool :=
  if sameStunAddress remote_addr a.session.ss then
    let request := getStunServerRequest msg.tr_id (a.cl i)
    let a :=
      match request, msg.xor_mapped_address.or msg.mapped_address with
      | some request, some srflx_addr => a.acceptAllocation P i evt_data msg request srflx_addr
      | _, _ => a
    let a :=
      if (a.cl i).stun_server_requests.any fun request => request.gathering && !request.responded then a
      else a.modify i stopGathering
    (a, request.isSome)
  else (a, false)

def handleReceivedCreatePermissionSuccessResponse : Agent :=
  match getStunServerRequest msg.tr_id (a.cl i) with
  | some request =>
    (a.modify i (removeStunServerRequest msg.tr_id)).scheduleTurnPermissionRefresh P i
      evt_data.socket_type.componentID request.peer_address
  | none => a

def handleReceivedTurnRefreshSuccessResponse : Agent :=
  let componentID := evt_data.socket_type.componentID
  let a := a.modify i (removeStunServerRequest msg.tr_id)
  if ((a.cl i).turnContext componentID).any fun turn => turn.lifetime = 0 then
    a.modify i fun cl => cl.setTurnContext componentID fun turn => { turn with state := .idle }
  else a.scheduleTurnAllocationRefresh P i componentID (msg.lifetime.getD 0)

def handleReceivedTurnChannelBindSuccessResponse : Agent :=
  let componentID := evt_data.socket_type.componentID
  match getStunServerRequest msg.tr_id (a.cl i) with
  | some request =>
    (a.modify i fun cl => removeStunServerRequest msg.tr_id
      (cl.setTurnContext componentID fun turn => { turn with state := .channelBound })).scheduleTurnChannelBindRefresh
      P i componentID request.channel_number request.peer_address
  | none => a

/-! ### Binding responses -/

def hasSymmetricAddresses (remote_addr recv_addr : MSStunAddress) : Bool :=
  sameStunAddress remote_addr (P.toStunAddress ((a.cl i).remoteOf p).taddr) ∧
    sameStunAddress recv_addr (P.toStunAddress ((a.cl i).localOf p).taddr)

/-- `ice_check_received_binding_response_attributes`. The integrity is not computed. -/
def checkResponseAttributes : Option MSStunAddress :=
  if !msg.has_message_integrity ∧ a.session.check_message_integrity ∨ !msg.has_fingerprint then none
  else msg.xor_mapped_address

/-- A null pointer is followed when the candidate cannot be added. -/
def discoverPeerReflexiveCandidate (taddr : IceTransportAddress) (cl : IceCheckList) :
    Option (IceCheckList × CandidateId) :=
  match cl.findFromTransportAddressAndComponentID cl.local_candidates taddr (cl.componentOf p) with
  | some c => some (cl, c)
  | none =>
    match cl.addLocalCandidate .peerReflexive taddr (cl.componentOf p) (some (cl.pair p).local_candidate) with
    | (cl, some c) => some (cl.computeCandidateFoundation c, c)
    | (_, none) => none

def findValidPair (valid generated_from : PairId) (cl : IceCheckList) : Option ValidId :=
  cl.valid_list.find? fun v =>
    cl.comparePairs (cl.validOf v) valid && cl.comparePairs (cl.generatedFrom v) generated_from

def pairOfValid (l r : CandidateId) (cl : IceCheckList) : IceCheckList × PairId :=
  match cl.findPair cl.check_list l r with
  | some p => (cl, p)
  | none => (cl.addPair (cl.pairNew role check_message_integrity l r), cl.nb_pairs)

def storeValid (valid generated_from : PairId) (now : MSTimeSpec) (cl : IceCheckList) : IceCheckList :=
  { cl with
    valid_pair := Function.update cl.valid_pair cl.nb_valid_pairs ⟨valid, generated_from, now, false⟩
    nb_valid_pairs := cl.nb_valid_pairs + 1 }

def addValid (valid generated_from : PairId) (now : MSTimeSpec) (cl : IceCheckList) : IceCheckList :=
  let cl' := storeValid valid generated_from now cl
  { cl' with valid_list := cl'.insertValidByPriority cl'.valid_list cl.nb_valid_pairs }

/-- A losing pair is valid now: it is selected. -/
def winLosingPair (v : ValidId) (p : PairId) : Agent :=
  let a := a.modify i fun cl => { cl with losing_pairs := cl.losing_pairs.erase p }.setSelectedValidPair v
  if a.session.nbLosingPairs = 0 then a.setState i .completed else a

def constructValidPair (candidate : CandidateId) (succeeded_pair : PairId) : Agent × PairId :=
  let remote := ((a.cl i).pair succeeded_pair).remote_candidate
  let (cl, p) :=
    pairOfValid a.session.role a.session.check_message_integrity candidate remote (a.cl i)
  let a' := (a.modify i fun _ => cl).tick
  match findValidPair p succeeded_pair cl with
  | some v => (a', cl.validOf v)
  | none =>
    let a' := a'.modify i (addValid p succeeded_pair (a.now P))
    match cl.findPair cl.losing_pairs candidate remote with
    | some losing_pair => (a'.winLosingPair i cl.nb_valid_pairs losing_pair, p)
    | none => (a', p)

def updateNominatedFlagOnBindingResponse (role : IceRole) (valid_pair succeeded_pair : PairId) (cl : IceCheckList) :
    IceCheckList :=
  match role with
  | .controlling =>
    if (cl.pair succeeded_pair).use_candidate then
      cl.setPair valid_pair fun pair => { pair with nomination_failing := false, is_nominated := true }
    else cl
  | .controlled =>
    if (cl.pair succeeded_pair).nomination_pending then
      (cl.setPair valid_pair fun pair => { pair with is_nominated := true }).setPair succeeded_pair fun pair =>
        { pair with nomination_pending := false }
    else cl

/-- From a valid response to the conclusion. -/
def acceptResponse (succeeded_pair : PairId) (mapped : MSStunAddress) : Option Agent := do
  let (cl, candidate) ← discoverPeerReflexiveCandidate succeeded_pair (P.toTransportAddress mapped) (a.cl i)
  let (a, valid_pair) := (a.modify i fun _ => cl).constructValidPair P i candidate succeeded_pair
  let a := a.modify i fun cl =>
    updateNominatedFlagOnBindingResponse a.session.role valid_pair succeeded_pair
      (cl.updatePairStatesOnBindingResponse succeeded_pair)
  pure (a.concludeProcessing i P false)

def handleCheckResponse : Option Agent :=
  match (a.cl i).findTransactionFromId msg.tr_id with
  | none => some a
  | some transaction =>
    if a.hasSymmetricAddresses P i transaction.pair remote_addr evt_data.recv_addr then
      match a.checkResponseAttributes msg with
      | some mapped => a.acceptResponse P i transaction.pair mapped
      | none => some a
    else some (a.modify i fun cl => cl.setPairState transaction.pair .failed)

def handleReceivedBindingResponse : Option Agent :=
  if (a.cl i).gathering_candidates then
    match a.handleReceivedTurnAllocateSuccessResponse P i evt_data msg remote_addr with
    | (a, true) => some a
    | (a, false) => a.handleCheckResponse P i evt_data msg remote_addr
  else a.handleCheckResponse P i evt_data msg remote_addr

/-! ### Error responses -/

/-- The first request through the socket of a component is sent again. -/
def resendRequest (componentID : UInt16) (tr_id : Buf 12) (now : MSTimeSpec) :
    List IceStunServerRequest → List IceStunServerRequest
  | [] => []
  | request :: list =>
    if request.componentID = componentID then
      { request with
        stun_method := MS_TURN_METHOD_ALLOCATE
        next_transmission_time := now.addMs ICE_DEFAULT_RTO_DURATION
        transactions := request.transactions ++ [tr_id] } :: list
    else request :: resendRequest componentID tr_id now list

def handleStunServerErrorResponse : Agent :=
  if (msg.error_code.any fun error_code => error_code.number = MS_STUN_ERROR_CODE_UNAUTHORIZED) ∧
      a.session.stun_auth ∧ a.session.turn_enabled then
    (a.modify i fun cl =>
      { cl with
        stun_server_requests :=
          resendRequest evt_data.socket_type.componentID (a.trId P) (a.now P) cl.stun_server_requests }).tick.draw
  else a

/-- After a role conflict, the other role is tried. -/
def failPair : Agent :=
  let a := a.modify i fun cl => cl.setPairState p .failed
  if msg.error_code.any fun error_code => error_code.number = MS_ICE_ERROR_CODE_ROLE_CONFLICT then
    (a.setSession fun s => s.setRole (match ((a.cl i).pair p).role with
      | .controlling => .controlled
      | .controlled => .controlling)).modify i fun cl => cl.triggerCheck p
  else a

def handleReceivedErrorResponse : Agent :=
  if (a.cl i).gathering_candidates then a.handleStunServerErrorResponse P i evt_data msg
  else
    match (a.cl i).findTransactionFromId msg.tr_id with
    | none => a
    | some transaction =>
      let p := transaction.pair
      if (msg.error_code.any fun error_code => error_code.number = MS_STUN_ERROR_CODE_UNAUTHORIZED) ∧
          ((a.cl i).pair p).retry_with_dummy_message_integrity then
        a.modify i fun cl => cl.setPair p fun pair =>
          { pair with retry_with_dummy_message_integrity := false, use_dummy_hmac := true }
      else (a.failPair i p msg).concludeProcessing i P false

def handleMessage : Option Agent :=
  if msg.type &&& 0x0110 = MS_STUN_TYPE_REQUEST then
    some (a.handleReceivedBindingRequest P i evt_data msg evt_data.source_addr)
  else if msg.type &&& 0x0110 = MS_STUN_TYPE_SUCCESS_RESPONSE then
    if msg.method = MS_STUN_METHOD_BINDING then
      a.handleReceivedBindingResponse P i evt_data msg evt_data.source_addr
    else if msg.method = MS_TURN_METHOD_ALLOCATE then
      some (a.handleReceivedTurnAllocateSuccessResponse P i evt_data msg evt_data.source_addr).1
    else if msg.method = MS_TURN_METHOD_CREATE_PERMISSION then
      some (a.handleReceivedCreatePermissionSuccessResponse P i evt_data msg)
    else if msg.method = MS_TURN_METHOD_REFRESH then
      some (a.handleReceivedTurnRefreshSuccessResponse P i evt_data msg)
    else if msg.method = MS_TURN_METHOD_CHANNEL_BIND then
      some (a.handleReceivedTurnChannelBindSuccessResponse P i evt_data msg)
    else some a
  else if msg.type &&& 0x0110 = MS_STUN_TYPE_ERROR_RESPONSE then some (a.handleReceivedErrorResponse P i evt_data msg)
  else some a

def handleStunPacket (evt_data : OrtpEventData) : Option Agent :=
  match createFromBufferParsing evt_data.packet with
  | .ok msg _ => a.handleMessage P i evt_data msg
  | .error .nullPointer _ => none
  | .error _ _ => some a

end Agent

end Ice
