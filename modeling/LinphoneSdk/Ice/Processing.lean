import LinphoneSdk.Ice.Pairs

/-!
# Nominations and conclusion

How the controlling agent nominates valid pairs, how a check list is concluded, and what the states of the check lists
make of the state of their session.
-/

namespace Ice

open Bytes Stun

/-! ### Nominations -/

/-- What the loop over the components of `ice_check_list_perform_nominations` finds. -/
structure Nominations where
  best_valid_list : List ValidId := []
  concludable : Bool := true
  need_more_time : Bool := false
  nominations_to_do : ℕ := 0

namespace IceCheckList

variable (cl : IceCheckList)

def validPairsForComponentId (componentID : UInt16) : List ValidId :=
  (cl.valid_list.filter fun v => cl.componentOf (cl.validOf v) = componentID).foldl cl.insertValidByPriority []

/-- A relayed candidate may be beaten by one that takes longer to be checked. -/
def needsMoreTime (v : ValidId) : Bool :=
  (cl.remoteOf (cl.generatedFrom v)).type = .relayed ∨ (cl.localOf (cl.generatedFrom v)).type = .relayed

def collectNominations : List UInt16 → Nominations → Nominations
  | [], n => n
  | componentID :: rest, n =>
    match cl.validPairsForComponentId componentID with
    | [] => { n with concludable := false }
    | v :: list =>
      match (v :: list).find? fun v => !(cl.pair (cl.generatedFrom v)).nomination_failing with
      | some v =>
        collectNominations rest
          { n with
            need_more_time := n.need_more_time || cl.needsMoreTime v
            best_valid_list := n.best_valid_list ++ [v]
            nominations_to_do :=
              if (cl.pair (cl.generatedFrom v)).use_candidate then n.nominations_to_do else n.nominations_to_do + 1 }
      | none => collectNominations rest n

/-- The pair of a valid pair is checked again, with the USE-CANDIDATE attribute. -/
def nominatePair (v : ValidId) : IceCheckList :=
  if (cl.pair (cl.generatedFrom v)).use_candidate then cl
  else
    (cl.setPair (cl.generatedFrom v) fun pair => { pair with use_candidate := true }).queueTriggeredCheck
      (cl.generatedFrom v)

def nominate (best_valid_list : List ValidId) : IceCheckList :=
  { best_valid_list.foldl nominatePair cl with nomination_in_progress := true }

def performNominations (nomination_delay_expired : Bool) (now : MSTimeSpec) : IceCheckList :=
  if cl.nomination_in_progress then cl
  else
    let n := cl.collectNominations cl.local_componentIDs {}
    if n.concludable ∧ 0 < n.nominations_to_do then
      if nomination_delay_expired ∨ !n.need_more_time then
        ({ cl with
            nomination_delay_running := false
            nomination_delay_start_time :=
              if n.need_more_time ∧ !cl.nomination_delay_running then now else cl.nomination_delay_start_time }).nominate
          n.best_valid_list
      else if cl.nomination_delay_running then cl
      else { cl with nomination_delay_running := true, nomination_delay_start_time := now }
    else cl

/-! ### Conclusion -/

/-- `ice_remove_waiting_and_frozen_pairs_from_list`. When the first pair is removed, the loop ends there. -/
def withoutWaitingAndFrozen (list : List PairId) (componentID : UInt16) : List PairId :=
  match list with
  | [] => []
  | p :: rest => if leaves p then rest else p :: rest.filter fun q => !leaves q
where
  leaves (p : PairId) : Bool :=
    ((cl.pair p).state = .waiting ∨ (cl.pair p).state = .frozen) ∧ cl.componentOf p = componentID

/-- The retransmissions of the pairs of lower priority than a nominated one stop. -/
def exhaustRetransmissions (v : ValidId) : IceCheckList :=
  cl.check_list.foldl (fun cl p =>
    if (cl.pair p).state = .inProgress ∧ cl.componentOf p = cl.componentOf (cl.validOf v) ∧
        (cl.pair p).priority < (cl.pair (cl.validOf v)).priority then
      cl.setPair p fun pair => { pair with retransmissions := ICE_MAX_RETRANSMISSIONS }
    else cl) cl

def concludePairsOf (v : ValidId) : IceCheckList :=
  if (cl.pair (cl.validOf v)).is_nominated then
    let componentID := cl.componentOf (cl.validOf v)
    exhaustRetransmissions
      { cl with
        check_list := cl.withoutWaitingAndFrozen cl.check_list componentID
        triggered_checks_queue := cl.withoutWaitingAndFrozen cl.triggered_checks_queue componentID } v
  else cl

def concludePairs : IceCheckList := cl.valid_list.foldl concludePairsOf cl

def stopRetransmissionsOf (p : PairId) : IceCheckList :=
  if (cl.pair p).state = .inProgress then
    { cl.setPairState p .failed with triggered_checks_queue := cl.triggered_checks_queue.erase p }
  else cl

def stopRetransmissions : IceCheckList := cl.check_list.foldl stopRetransmissionsOf cl

def complete (now : MSTimeSpec) : IceCheckList :=
  stopRetransmissions
    { selectCandidates
        { cl with state := .completed, nomination_in_progress := false, nomination_delay_running := false } with
      connectivity_checks_running := false
      keepalive_time := now }

def isRelay (c : CandidateId) : Bool :=
  (cl.candidate c).type = .relayed || (cl.candidate c).base.any fun base => (cl.candidate base).type = .relayed

end IceCheckList

/-! ### States -/

namespace IceSession

variable (s : IceSession)

/-- `ice_find_check_list_from_state` finds one. -/
def HasState (state : IceCheckListState) : Prop := ∃ i, ∃ cl ∈ s.streams i, cl.state = state

instance (state : IceCheckListState) : Decidable (s.HasState state) :=
  inferInstanceAs (Decidable (∃ i, ∃ cl ∈ s.streams i, cl.state = state))

/-- `ice_session_find_unsuccessful_check_list` finds none. -/
def AllCompleted : Prop := ∀ i, ∀ cl ∈ s.streams i, cl.state = .completed

instance : Decidable s.AllCompleted := inferInstanceAs (Decidable (∀ i, ∀ cl ∈ s.streams i, cl.state = .completed))

def nbLosingPairs : ℕ :=
  ((List.finRange 8).map fun i => ((s.streams i).map fun cl => cl.losing_pairs.length).getD 0).sum

def mapCheckLists (f : IceCheckList → IceCheckList) : IceSession := { s with streams := fun i => (s.streams i).map f }

def setRole (role : IceRole) : IceSession :=
  if s.role = role then s else { s.mapCheckLists (fun cl => cl.computePairPriorities role) with role }

end IceSession

namespace Agent

variable (a : Agent) (i : StreamIndex)

def setState (state : IceCheckListState) : Agent :=
  if (a.cl i).state = state then a
  else
    (a.modify i fun cl => { cl with state }).setSession fun s =>
      if s.HasState .running then s
      else if s.HasState .failed then { s with state := .failed }
      else { s with state := .completed }

def notifySessionProcessingFinished : Agent :=
  a.setSession fun s =>
    if s.HasState .running then s
    else if s.AllCompleted then { s with state := .completed }
    else { s with state := .failed }

def checkCompleted : Agent :=
  if (a.cl i).state ≠ .completed ∧ (a.cl i).allSelected then a.setState i .completed else a

/-! ### Relays -/

variable (P : Platform)

/-- A request to the server of a session, sent at once. -/
def sendServerRequest (request : IceStunServerRequest) : Agent :=
  (a.modify i fun cl =>
    { cl with
      stun_server_requests :=
        cl.stun_server_requests ++ [{ request with
              transactions := [a.trId P]
              next_transmission_time := (a.now P).addMs ICE_DEFAULT_RTO_DURATION }] }).tick.draw

def createTurnChannel (remote_taddr : IceTransportAddress) (componentID : UInt16) : Agent :=
  (a.modify i fun cl => cl.setTurnContext componentID fun turn => { turn with state := .bindingChannel }).sendServerRequest
    i P
    { componentID
      stun_method := 0x009
      transactions := []
      next_transmission_time := .zero
      peer_address := P.toStunAddress remote_taddr
      channel_number := 0x4000 ||| componentID
      gathering := false
      responded := false
      to_remove := false }

/-- The request is not kept. -/
def deallocateTurnCandidate (componentID : UInt16) : Agent :=
  match (a.cl i).turnContext componentID with
  | some turn =>
    match turn.state with
    | .idle | .creatingAllocation => a
    | _ => (a.modify i fun cl => cl.setTurnContext componentID fun turn => { turn with lifetime := 0 }).draw
  | none => a

/-- The media of a component goes through the relay from now on, or the relay is released. -/
def switchRelay (componentID : UInt16) (relay : Bool) (remote : Option CandidateId) : Agent :=
  match relay, remote with
  | true, some r => a.createTurnChannel i P ((a.cl i).candidate r).taddr componentID
  | _, _ => a.deallocateTurnCandidate i componentID

/-- What `ice_conclude_processing` does of the relays when there are pairs for RTP and for RTCP. -/
def switchRelays : Agent :=
  let cl := a.cl i
  let localOf (v : ValidId) : CandidateId := (cl.pair (cl.validOf v)).local_candidate
  let remoteOf (v : ValidId) : CandidateId := (cl.pair (cl.validOf v)).remote_candidate
  match cl.findSelected ICE_RTP_COMPONENT_ID with
  | none => a
  | some rtp =>
    let rtcp := cl.findSelected ICE_RTCP_COMPONENT_ID
    if !cl.rtcp_mux ∧ rtcp = none ∨ !a.session.turn_enabled then a
    else
      let a := a.switchRelay i P ICE_RTP_COMPONENT_ID (cl.isRelay (localOf rtp)) (some (remoteOf rtp))
      match if ICE_RTCP_COMPONENT_ID ∈ cl.local_componentIDs then rtcp else none with
      | some rtcp =>
        a.switchRelay i P ICE_RTCP_COMPONENT_ID (cl.isRelay (localOf rtcp))
          (if cl.rtcp_mux then none else some (remoteOf rtcp))
      | none => a

def concludeProcessing (nomination_delay_expired : Bool) : Agent :=
  if (a.cl i).state = .running then
    let a :=
      if a.session.role = .controlling then
        (a.modify i fun cl => cl.performNominations nomination_delay_expired (a.now P)).tick
      else a
    let a := a.modify i IceCheckList.concludePairs
    if (a.cl i).allNominated ∧ (a.cl i).losing_pairs = [] then
      (((a.modify i fun cl => cl.complete (a.now P)).tick).switchRelays i P).notifySessionProcessingFinished
    else a
  else a

end Agent

end Ice
