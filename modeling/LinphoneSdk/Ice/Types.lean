import LinphoneSdk.Stun.Encoder
import LinphoneSdk.Turn.PacketReader
import Mathlib.Logic.Function.Basic
import Mathlib.Data.Fintype.Basic

/-!
# ICE sessions and check lists

The data of `IceSession` and of `IceCheckList`. The candidates, the pairs and the valid pairs of a check list are kept
in memory under numbers that are given once, and the lists hold these numbers as those of the source hold pointers.
Memory that is freed keeps its content, but nothing is said of a list that refers to it.
-/

namespace Ice

open Bytes Stun

/-! ### Constants -/

def ICE_MAX_NB_CANDIDATES : ℕ := 32
def ICE_MAX_NB_CANDIDATE_PAIRS : UInt8 := 128
def ICE_RTP_COMPONENT_ID : UInt16 := 1
def ICE_RTCP_COMPONENT_ID : UInt16 := 2
def ICE_DEFAULT_TA_DURATION : ℤ := 40
def ICE_DEFAULT_RTO_DURATION : ℤ := 200
def ICE_DEFAULT_KEEPALIVE_TIMEOUT : UInt8 := 15
def ICE_GATHERING_CANDIDATES_TIMEOUT : ℤ := 3500
def ICE_NOMINATION_DELAY : ℤ := 1000
def ICE_MAX_RETRANSMISSIONS : UInt8 := 7
def ICE_MAX_RETRANSMISSIONS_FOR_NOMINATIONS : UInt8 := 5
def ICE_MAX_STUN_REQUEST_RETRANSMISSIONS : ℕ := 7
def ICE_MAX_UFRAG_LEN : ℕ := 256
def ICE_MAX_PWD_LEN : ℕ := 256

def AF_INET : ℤ := 2
def AF_INET6 : ℤ := 10

/-! ### Enumerations -/

inductive IceRole where
  | controlling
  | controlled
  deriving DecidableEq

inductive IceCandidateType where
  | host
  | serverReflexive
  | peerReflexive
  | relayed
  deriving DecidableEq

inductive IceCandidatePairState where
  | waiting
  | inProgress
  | succeeded
  | failed
  | frozen
  deriving DecidableEq

inductive IceCheckListState where
  | running
  | completed
  | failed
  deriving DecidableEq

inductive IceSessionState where
  | stopped
  | running
  | completed
  | failed
  deriving DecidableEq

inductive OrtpSocketType where
  | rtp
  | rtcp
  deriving DecidableEq

def OrtpSocketType.componentID : OrtpSocketType → UInt16
  | rtp => ICE_RTP_COMPONENT_ID
  | rtcp => ICE_RTCP_COMPONENT_ID

/-! ### Times -/

structure MSTimeSpec where
  tv_sec : ℤ
  tv_nsec : ℤ
  deriving DecidableEq

namespace MSTimeSpec

def zero : MSTimeSpec := ⟨0, 0⟩

/-- As in `ice_add_ms`, the nanoseconds may go past a second. -/
def addMs (orig : MSTimeSpec) (ms : ℤ) : MSTimeSpec where
  tv_sec := orig.tv_sec + ms / 1000
  tv_nsec := orig.tv_nsec + ms % 1000 * 1000000

/-- `ice_compare_time`, with the conversions to 32 bits. -/
def compare (ts1 ts2 : MSTimeSpec) : ℤ :=
  (((ts1.tv_sec - ts2.tv_sec) * 1000).bmod (2 ^ 32) + ((ts1.tv_nsec - ts2.tv_nsec).tdiv 1000000).bmod (2 ^ 32)).bmod
    (2 ^ 32)

end MSTimeSpec

/-! ### Candidates and pairs -/

/-- Candidates, pairs and valid pairs are referred to by where they are stored, as by a pointer. -/
abbrev CandidateId : Type := ℕ
abbrev PairId : Type := ℕ
abbrev ValidId : Type := ℕ

structure IceTransportAddress where
  ip : CString
  port : ℤ
  family : ℤ
  deriving DecidableEq

/-- A host candidate is its own base; without a base the pointer is null. -/
structure IceCandidate where
  foundation : CString
  taddr : IceTransportAddress
  type : IceCandidateType
  priority : UInt32
  componentID : UInt16
  base : Option CandidateId
  is_default : Bool
  deriving DecidableEq

structure IceCandidatePair where
  role : IceRole
  local_candidate : CandidateId
  remote_candidate : CandidateId
  state : IceCandidatePairState
  priority : UInt64
  transmission_time : MSTimeSpec
  rto : ℤ
  retransmissions : UInt8
  is_default : Bool
  use_candidate : Bool
  is_nominated : Bool
  nomination_pending : Bool
  has_canceled_transaction : Bool
  nomination_failing : Bool
  retry_with_dummy_message_integrity : Bool
  use_dummy_hmac : Bool
  deriving DecidableEq

structure IcePairFoundation where
  local_foundation : CString
  remote_foundation : CString
  deriving DecidableEq

structure IceValidCandidatePair where
  valid : PairId
  generated_from : PairId
  last_keepalive : MSTimeSpec
  selected : Bool
  deriving DecidableEq

/-- A check that was sent, and not answered yet unless it is canceled. -/
structure IceTransaction where
  transactionID : Buf 12
  pair : PairId
  canceled : Bool
  deriving DecidableEq

/-- A request to a STUN or TURN server, with all the ids it was sent under. -/
structure IceStunServerRequest where
  componentID : UInt16
  stun_method : UInt16
  transactions : List (Buf 12)
  next_transmission_time : MSTimeSpec
  peer_address : MSStunAddress
  channel_number : UInt16
  gathering : Bool
  responded : Bool
  to_remove : Bool
  deriving DecidableEq

/-- What is used here of the context of a TURN client. -/
structure MSTurnContext where
  state : Turn.MSTurnContextState
  lifetime : UInt32
  udp : Bool
  deriving DecidableEq

/-! ### Check lists -/

/-- What is stored stays, also when nothing refers to it any more. -/
structure IceCheckList where
  candidate : CandidateId → IceCandidate
  nb_candidates : ℕ
  pair : PairId → IceCandidatePair
  nb_pairs : ℕ
  valid_pair : ValidId → IceValidCandidatePair
  nb_valid_pairs : ℕ
  rtp_turn_context : Option MSTurnContext
  rtcp_turn_context : Option MSTurnContext
  rtcp_mux : Bool
  remote_ufrag : Option CString
  remote_pwd : Option CString
  stun_server_requests : List IceStunServerRequest
  local_candidates : List CandidateId
  remote_candidates : List CandidateId
  pairs : List PairId
  losing_pairs : List PairId
  triggered_checks_queue : List PairId
  check_list : List PairId
  valid_list : List ValidId
  foundations : List IcePairFoundation
  local_componentIDs : List UInt16
  remote_componentIDs : List UInt16
  transaction_list : List IceTransaction
  state : IceCheckListState
  ta_time : MSTimeSpec
  keepalive_time : MSTimeSpec
  foundation_generator : UInt32
  gathering_start_time : MSTimeSpec
  nomination_delay_start_time : MSTimeSpec
  mismatch : Bool
  gathering_candidates : Bool
  gathering_finished : Bool
  nomination_delay_running : Bool
  connectivity_checks_running : Bool
  nomination_in_progress : Bool

/-- What memory that was never written holds. -/
def IceCandidate.blank : IceCandidate where
  foundation := .ofBytes []
  taddr := ⟨.ofBytes [], 0, 0⟩
  type := .host
  priority := 0
  componentID := 0
  base := none
  is_default := false

def IceCandidatePair.blank : IceCandidatePair where
  role := .controlling
  local_candidate := 0
  remote_candidate := 0
  state := .frozen
  priority := 0
  transmission_time := .zero
  rto := 0
  retransmissions := 0
  is_default := false
  use_candidate := false
  is_nominated := false
  nomination_pending := false
  has_canceled_transaction := false
  nomination_failing := false
  retry_with_dummy_message_integrity := false
  use_dummy_hmac := false

namespace IceCheckList

def new (now : MSTimeSpec) (rtcp_mux : Bool) : IceCheckList where
  candidate := fun _ => .blank
  nb_candidates := 0
  pair := fun _ => .blank
  nb_pairs := 0
  valid_pair := fun _ => ⟨0, 0, .zero, false⟩
  nb_valid_pairs := 0
  rtp_turn_context := none
  rtcp_turn_context := none
  rtcp_mux := rtcp_mux
  remote_ufrag := none
  remote_pwd := none
  stun_server_requests := []
  local_candidates := []
  remote_candidates := []
  pairs := []
  losing_pairs := []
  triggered_checks_queue := []
  check_list := []
  valid_list := []
  foundations := []
  local_componentIDs := []
  remote_componentIDs := []
  transaction_list := []
  state := .running
  ta_time := now
  keepalive_time := .zero
  foundation_generator := 1
  gathering_start_time := .zero
  nomination_delay_start_time := .zero
  mismatch := false
  gathering_candidates := false
  gathering_finished := false
  nomination_delay_running := false
  connectivity_checks_running := false
  nomination_in_progress := false

variable (cl : IceCheckList)

def localOf (p : PairId) : IceCandidate := cl.candidate (cl.pair p).local_candidate

def remoteOf (p : PairId) : IceCandidate := cl.candidate (cl.pair p).remote_candidate

def componentOf (p : PairId) : UInt16 := (cl.localOf p).componentID

def validOf (v : ValidId) : PairId := (cl.valid_pair v).valid

def generatedFrom (v : ValidId) : PairId := (cl.valid_pair v).generated_from

def setCandidate (c : CandidateId) (f : IceCandidate → IceCandidate) : IceCheckList :=
  { cl with candidate := Function.update cl.candidate c (f (cl.candidate c)) }

def setPair (p : PairId) (f : IceCandidatePair → IceCandidatePair) : IceCheckList :=
  { cl with pair := Function.update cl.pair p (f (cl.pair p)) }

def setValid (v : ValidId) (f : IceValidCandidatePair → IceValidCandidatePair) : IceCheckList :=
  { cl with valid_pair := Function.update cl.valid_pair v (f (cl.valid_pair v)) }

/-- `ice_get_turn_context_from_check_list_componentID`. -/
def turnContext (componentID : UInt16) : Option MSTurnContext :=
  if componentID = ICE_RTP_COMPONENT_ID then cl.rtp_turn_context
  else if componentID = ICE_RTCP_COMPONENT_ID then cl.rtcp_turn_context
  else none

def setTurnContext (componentID : UInt16) (f : MSTurnContext → MSTurnContext) : IceCheckList :=
  if componentID = ICE_RTP_COMPONENT_ID then { cl with rtp_turn_context := cl.rtp_turn_context.map f }
  else if componentID = ICE_RTCP_COMPONENT_ID then { cl with rtcp_turn_context := cl.rtcp_turn_context.map f }
  else cl

end IceCheckList

/-! ### Sessions -/

/-- Where the check list of a stream is in the table of its session. -/
abbrev StreamIndex : Type := Fin 8

/-- The table has a place 0. -/
scoped instance instNeZeroStreams : NeZero 8 := ⟨Nat.succ_ne_zero 7⟩

structure IceSession where
  streams : StreamIndex → Option IceCheckList
  local_ufrag : CString
  local_pwd : CString
  remote_ufrag : Option CString
  remote_pwd : Option CString
  role : IceRole
  state : IceSessionState
  tie_breaker : UInt64
  ta : ℤ
  ss : MSStunAddress
  /-- The types before the first invalid one. -/
  default_types : List IceCandidateType
  check_message_integrity : Bool
  max_connectivity_checks : UInt8
  keepalive_timeout : UInt8
  forced_relay : Bool
  turn_enabled : Bool
  short_turn_refresh : Bool
  default_candidates_prefer_ipv6 : Bool
  /-- The callback that is asked for the credentials of the server gives a user name. -/
  stun_auth : Bool

/-- A message that goes through the socket of a component. -/
structure Packet where
  componentID : UInt16
  source : MSStunAddress
  dest : MSStunAddress
  msg : MSStunMessage
  deriving DecidableEq

/-- A session, what it sent, and how many times it read the clock and drew a number. -/
structure Agent where
  session : IceSession
  sent : List Packet
  readings : ℕ
  draws : ℕ

/-- What the code takes from the system and from the other libraries: the successive times and random numbers, the
hash functions, and the conversions between the text of an address and its binary form. -/
structure Platform where
  digests : Digests
  clock : ℕ → MSTimeSpec
  randomTrId : ℕ → Buf 12
  randomTieBreaker : ℕ → UInt64
  randomUfrag : ℕ → CString
  randomPwd : ℕ → CString
  /-- The first random text that no candidate has as its foundation. -/
  arbitraryFoundation : ℕ → List CString → CString
  /-- `ms_ip_address_to_stun_address` -/
  toStunAddress : IceTransportAddress → MSStunAddress
  /-- `ice_fill_transport_address_from_stun_address` -/
  toTransportAddress : MSStunAddress → IceTransportAddress

/-- A packet that comes in through a socket. -/
structure OrtpEventData where
  packet : Reading.Block
  socket_type : OrtpSocketType
  source_addr : MSStunAddress
  recv_addr : MSStunAddress

def IceSession.new (P : Platform) (draw : ℕ) : IceSession where
  streams := fun _ => none
  local_ufrag := P.randomUfrag draw
  local_pwd := P.randomPwd draw
  remote_ufrag := none
  remote_pwd := none
  role := .controlling
  state := .stopped
  tie_breaker := P.randomTieBreaker draw
  ta := ICE_DEFAULT_TA_DURATION
  ss := .zero
  -- the third type is overwritten by the invalid one
  default_types := [.relayed, .serverReflexive]
  check_message_integrity := true
  max_connectivity_checks := ICE_MAX_NB_CANDIDATE_PAIRS
  keepalive_timeout := ICE_DEFAULT_KEEPALIVE_TIMEOUT
  forced_relay := false
  turn_enabled := false
  short_turn_refresh := false
  default_candidates_prefer_ipv6 := true
  stun_auth := false

namespace Agent

def new (P : Platform) : Agent := ⟨.new P 0, [], 0, 1⟩

variable (a : Agent)

def cl (i : StreamIndex) : IceCheckList := (a.session.streams i).getD (.new .zero false)

def setSession (f : IceSession → IceSession) : Agent := { a with session := f a.session }

def modify (i : StreamIndex) (f : IceCheckList → IceCheckList) : Agent :=
  a.setSession fun s => { s with streams := Function.update s.streams i (some (f (a.cl i))) }

def send (packet : Packet) : Agent := { a with sent := a.sent ++ [packet] }

def tick : Agent := { a with readings := a.readings + 1 }

/-- A random number was drawn. -/
def draw : Agent := { a with draws := a.draws + 1 }

def now (P : Platform) : MSTimeSpec := P.clock a.readings

/-- The next random transaction id. -/
def trId (P : Platform) : Buf 12 := P.randomTrId a.draws

@[simp] lemma setSession_session (f : IceSession → IceSession) : (a.setSession f).session = f a.session := rfl

variable {a} {i j : StreamIndex} {f : IceCheckList → IceCheckList}

@[simp] lemma modify_cl : (a.modify i f).cl i = f (a.cl i) := by
  simp [modify, cl]

lemma cl_of_streams {cl : IceCheckList} (h : a.session.streams i = some cl) : a.cl i = cl := by
  simp [Agent.cl, h]

@[simp] lemma modify_streams : (a.modify i f).session.streams i = some (f (a.cl i)) := by
  simp [modify]

lemma modify_streams_of_ne (h : j ≠ i) : (a.modify i f).session.streams j = a.session.streams j := by
  simp [modify, h]

end Agent

end Ice
