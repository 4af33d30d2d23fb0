import LinphoneSdk.Ice.Candidates
import Mathlib.Data.List.Sort

/-!
# Candidate pairs

The pairs of a check list and the lists that refer to them: how pairs are formed, pruned and freed, how checks are
triggered, and how valid pairs are found and selected.
-/

namespace Ice

open Bytes Stun

/-- `2^32 * MIN(G, D) + 2 * MAX(G, D) + (G > D ? 1 : 0)`. -/
def pairPriority (role : IceRole) (local_priority remote_priority : UInt32) : UInt64 :=
  let G : UInt64 := UInt32.toUInt64 (match role with | .controlling => local_priority | .controlled => remote_priority)
  let D : UInt64 := UInt32.toUInt64 (match role with | .controlling => remote_priority | .controlled => local_priority)
  let least : UInt64 := if G < D then G else D
  let greatest : UInt64 := if G < D then D else G
  let above : UInt64 := if D < G then 1 else 0
  least <<< 32 ||| greatest <<< 1 ||| above

namespace IceCheckList

variable (cl : IceCheckList)

/-! ### Memory -/

def computePairPriority (role : IceRole) (p : PairId) : IceCheckList :=
  cl.setPair p fun pair =>
    { pair with
      priority := pairPriority role (cl.candidate pair.local_candidate).priority
        (cl.candidate pair.remote_candidate).priority }

def computePairPriorities (role : IceRole) : IceCheckList :=
  cl.pairs.foldl (fun cl p => cl.computePairPriority role p) cl

def pairNew (role : IceRole) (check_message_integrity : Bool) (l r : CandidateId) : IceCandidatePair :=
  { IceCandidatePair.blank with
    role
    local_candidate := l
    remote_candidate := r
    state := .frozen
    is_default := (cl.candidate l).is_default && (cl.candidate r).is_default
    rto := ICE_DEFAULT_RTO_DURATION
    priority := pairPriority role (cl.candidate l).priority (cl.candidate r).priority
    retry_with_dummy_message_integrity := !check_message_integrity }

/-- A new pair is stored at the end of the pairs. -/
def addPair (pair : IceCandidatePair) : IceCheckList :=
  { cl with
    pair := Function.update cl.pair cl.nb_pairs pair
    nb_pairs := cl.nb_pairs + 1
    pairs := cl.pairs ++ [cl.nb_pairs] }

/-- The comparison of `ice_find_pair_in_valid_list`. -/
def sameAddresses (p q : PairId) : Bool :=
  (cl.localOf p).taddr = (cl.localOf q).taddr ∧ (cl.localOf p).componentID = (cl.localOf q).componentID ∧
    (cl.remoteOf p).taddr = (cl.remoteOf q).taddr ∧ (cl.remoteOf p).componentID = (cl.remoteOf q).componentID

def findInValidList (p : PairId) : Option ValidId := cl.valid_list.find? fun v => cl.sameAddresses (cl.validOf v) p

/-- The pair, and the valid pairs that have its addresses, leave their lists. -/
def freeCandidatePair (p : PairId) : IceCheckList :=
  { cl with
    check_list := cl.check_list.filter fun q => q ≠ p
    valid_list := cl.valid_list.filter fun v => !cl.sameAddresses (cl.validOf v) p }

def findPair (list : List PairId) (l r : CandidateId) : Option PairId :=
  list.find? fun p => (cl.pair p).local_candidate = l ∧ (cl.pair p).remote_candidate = r

def setPairState (p : PairId) (state : IceCandidatePairState) : IceCheckList :=
  cl.setPair p fun pair => { pair with state }

/-- `ice_compare_pairs`. -/
def comparePairs (p q : PairId) : Bool :=
  sameCandidate (cl.localOf p) (cl.localOf q) && sameCandidate (cl.remoteOf p) (cl.remoteOf q)

/-- The place of a pair is before the first one whose priority is not above. -/
def insertByPriority (list : List PairId) (p : PairId) : List PairId :=
  list.orderedInsert (fun p q => (cl.pair q).priority ≤ (cl.pair p).priority) p

def insertValidByPriority (list : List ValidId) (v : ValidId) : List ValidId :=
  list.orderedInsert (fun v w => (cl.pair (cl.validOf w)).priority ≤ (cl.pair (cl.validOf v)).priority) v

/-- A pair is queued once. -/
def queueTriggeredCheck (p : PairId) : IceCheckList :=
  if p ∈ cl.triggered_checks_queue then cl
  else { cl with triggered_checks_queue := cl.triggered_checks_queue ++ [p] }

def triggerCheck (p : PairId) : IceCheckList := (cl.setPairState p .waiting).queueTriggeredCheck p

/-! ### Transactions -/

def createTransaction (p : PairId) (tr_id : Buf 12) : IceCheckList :=
  { cl with transaction_list := ⟨tr_id, p, false⟩ :: cl.transaction_list }

def findTransaction (p : PairId) : Option IceTransaction :=
  cl.transaction_list.find? fun transaction => transaction.pair = p ∧ !transaction.canceled

def findTransactionFromId (tr_id : Buf 12) : Option IceTransaction :=
  cl.transaction_list.find? fun transaction => transaction.transactionID = tr_id

/-- The first transaction of the pair that is not canceled yet. -/
def cancelTransaction (p : PairId) : List IceTransaction → List IceTransaction
  | [] => []
  | transaction :: list =>
    if transaction.pair = p ∧ !transaction.canceled then { transaction with canceled := true } :: list
    else transaction :: cancelTransaction p list

/-! ### Valid pairs -/

def findNominated (componentID : UInt16) : Option ValidId :=
  cl.valid_list.find? fun v => (cl.pair (cl.validOf v)).is_nominated ∧ cl.componentOf (cl.validOf v) = componentID

def findSelected (componentID : UInt16) : Option ValidId :=
  cl.valid_list.find? fun v => (cl.valid_pair v).selected ∧ cl.componentOf (cl.validOf v) = componentID

def allNominated : Bool := cl.local_componentIDs.all fun componentID => (cl.findNominated componentID).isSome

def allSelected : Bool := cl.local_componentIDs.all fun componentID => (cl.findSelected componentID).isSome

def unselectAll : IceCheckList :=
  { cl with
    valid_pair := fun v => if v ∈ cl.valid_list then { cl.valid_pair v with selected := false } else cl.valid_pair v }

def selectNominated (componentID : UInt16) : IceCheckList :=
  match cl.findNominated componentID with
  | some v => cl.setValid v fun valid_pair => { valid_pair with selected := true }
  | none => cl

/-- The nominated pairs of RTP and RTCP are selected. -/
def selectCandidates : IceCheckList :=
  if cl.state = .completed then (cl.unselectAll.selectNominated 1).selectNominated 2 else cl

/-- The other valid pairs of the component are no longer selected. -/
def setSelectedValidPair (v : ValidId) : IceCheckList :=
  { cl with
    valid_pair := fun w =>
      if w = v then { cl.valid_pair v with selected := true }
      else if w ∈ cl.valid_list ∧ cl.componentOf (cl.validOf w) = cl.componentOf (cl.validOf v) then
        { cl.valid_pair w with selected := false }
      else cl.valid_pair w }

def lookupPossibleValidPair (p : PairId) : Option PairId :=
  (cl.valid_list.find? fun v => cl.validOf v = p ∨ cl.generatedFrom v = p).map cl.validOf

/-! ### Forming and pruning pairs -/

/-- A local and a remote candidate of one component and one family. -/
def pairsToForm : List (CandidateId × CandidateId) :=
  cl.local_candidates.flatMap fun l =>
    (cl.remote_candidates.filter fun r =>
      (cl.candidate l).componentID = (cl.candidate r).componentID ∧
        (cl.candidate l).taddr.family = (cl.candidate r).taddr.family).map fun r => (l, r)

def formCandidatePairs (role : IceRole) (check_message_integrity : Bool) : IceCheckList :=
  cl.pairsToForm.foldl (fun cl lr => cl.addPair (cl.pairNew role check_message_integrity lr.1 lr.2)) cl

/-- `ice_replace_srflx_by_base_in_pair`. A null pointer is followed later when there is no base. -/
def replaceSrflxByBase (p : PairId) : Option IceCheckList :=
  if (cl.localOf p).type = .serverReflexive then
    (cl.localOf p).base.map fun base => cl.setPair p fun pair => { pair with local_candidate := base }
  else some cl

/-- Is a pair pruned because of the first one between equal candidates? -/
def isPruned (p : PairId) : Bool :=
  match cl.pairs.find? fun q => cl.comparePairs q p with
  | some q => (cl.pair p).priority < (cl.pair q).priority
  | none => false

def removePair (p : PairId) : IceCheckList := ({ cl with pairs := cl.pairs.erase p }).freeCandidatePair p

def pruneDuplicatePair (p : PairId) : IceCheckList := if cl.isPruned p then cl.removePair p else cl

/-- The loop over the pairs. It stops after the first pair when that one is pruned. -/
def pruneLoop : List PairId → IceCheckList
  | [] => cl
  | p :: list => if cl.isPruned p then cl.removePair p else list.foldl pruneDuplicatePair cl

def createCheckList : IceCheckList := { cl with check_list := cl.pairs.foldl cl.insertByPriority [] }

/-- The pairs after the first ones are freed, the last one first. -/
def limitChecks (max_connectivity_checks : ℕ) : IceCheckList :=
  (cl.check_list.drop max_connectivity_checks).reverse.foldl removePair cl

def pruneCandidatePairs (max_connectivity_checks : UInt8) : Option IceCheckList := do
  let cl ← cl.pairs.foldlM replaceSrflxByBase cl
  pure ((cl.pruneLoop cl.pairs).createCheckList.limitChecks max_connectivity_checks.toNat)

/-! ### Pair foundations -/

def foundationOf (p : PairId) : IcePairFoundation where
  local_foundation := foundationText (cl.localOf p).foundation
  remote_foundation := foundationText (cl.remoteOf p).foundation

def generatePairFoundationsList : IceCheckList :=
  { cl with
    foundations := cl.check_list.foldl (fun list p =>
      if cl.foundationOf p ∈ list then list else list ++ [cl.foundationOf p]) cl.foundations }

/-- The pair of the lowest component id, among those of a foundation, as
`ice_find_lowest_componentid_pair_with_specified_foundation` looks for it. -/
def lowestComponentIdPair (foundation : IcePairFoundation) : Option PairId :=
  cl.check_list.foldl (fun best p =>
    if (cl.localOf p).foundation = foundation.local_foundation ∧
        (cl.remoteOf p).foundation = foundation.remote_foundation then
      match best with
      | none => some p
      | some q =>
        if cl.componentOf q = 0 ∨
            cl.componentOf p < cl.componentOf q ∧ (cl.pair q).priority < (cl.pair p).priority then some p
        else some q
    else best) none

/-- One pair of each foundation is checked at once, the others stay frozen. -/
def computePairsStates : IceCheckList :=
  cl.foundations.foldl (fun cl foundation =>
    match cl.lowestComponentIdPair foundation with
    | some p => cl.setPairState p .waiting
    | none => cl) cl

def sameFoundations (p q : PairId) : Bool :=
  (cl.localOf p).foundation = (cl.localOf q).foundation ∧ (cl.remoteOf p).foundation = (cl.remoteOf q).foundation

/-- The frozen pairs of the foundation of the pair that succeeded wait for a check. -/
def updatePairStatesOnBindingResponse (succeeded_pair : PairId) : IceCheckList :=
  cl.check_list.foldl (fun cl p =>
    if p ≠ succeeded_pair ∧ (cl.pair p).state = .frozen ∧ cl.sameFoundations p succeeded_pair then
      cl.setPairState p .waiting
    else cl) (cl.setPairState succeeded_pair .succeeded)

/-! ### RTCP -/

/-- `ice_remove_transaction_with_pair`, and the other lists of a pair that is going to be freed. -/
def cleanPair (p : PairId) : IceCheckList :=
  ({ cl with
      transaction_list := cl.transaction_list.filter fun transaction => transaction.pair ≠ p
      triggered_checks_queue := cl.triggered_checks_queue.erase p
      losing_pairs := cl.losing_pairs.erase p }).removePair p

def cleanRtcpCandidatePairs : IceCheckList :=
  cl.pairs.foldl (fun cl p => if cl.componentOf p = ICE_RTCP_COMPONENT_ID then cl.cleanPair p else cl) cl

def removeRtcpCandidates : IceCheckList :=
  let cl := ({ cl with
    local_componentIDs := cl.local_componentIDs.erase ICE_RTCP_COMPONENT_ID }).cleanRtcpCandidatePairs
  { cl with
    local_candidates := cl.local_candidates.filter fun c => (cl.candidate c).componentID ≠ ICE_RTCP_COMPONENT_ID
    remote_componentIDs := cl.remote_componentIDs.erase ICE_RTCP_COMPONENT_ID
    remote_candidates := cl.remote_candidates.filter fun c => (cl.candidate c).componentID ≠ ICE_RTCP_COMPONENT_ID }

/-- The local candidates and their component ids are kept. -/
def restart (now : MSTimeSpec) : IceCheckList :=
  { cl with
    remote_ufrag := none
    remote_pwd := none
    stun_server_requests := []
    transaction_list := []
    foundations := []
    pairs := []
    valid_list := []
    remote_candidates := []
    remote_componentIDs := []
    check_list := []
    triggered_checks_queue := []
    losing_pairs := []
    state := .running
    mismatch := false
    gathering_candidates := false
    gathering_finished := false
    nomination_delay_running := false
    ta_time := now
    nomination_in_progress := false
    keepalive_time := .zero
    gathering_start_time := .zero
    nomination_delay_start_time := .zero }

end IceCheckList

end Ice
