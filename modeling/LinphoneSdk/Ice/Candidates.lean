import LinphoneSdk.Ice.Types

/-!
# Candidates

The local and the remote candidates of a check list: how they are added, their component ids, their foundations, the
redundant and the default ones.
-/

namespace Ice

open Bytes Stun

/-- The table `type_preference_values`. -/
def IceCandidateType.preference : IceCandidateType → UInt32
  | host => 126
  | serverReflexive => 100
  | peerReflexive => 110
  | relayed => 0

def computeCandidatePriority (type : IceCandidateType) (taddr : IceTransportAddress) (componentID : UInt16) : UInt32 :=
  let af_preference : UInt32 := if taddr.family = AF_INET6 then (1 : UInt32) <<< 7 else 0
  type.preference <<< 24 ||| (65535 : UInt32) <<< 8 ||| af_preference ||| (128 - componentID.toUInt32)

/-- A host candidate is its own base, which is set when it is stored. -/
def candidateNew (type : IceCandidateType) (taddr : IceTransportAddress) (componentID : UInt16) : IceCandidate where
  foundation := .ofBytes []
  taddr := taddr
  type := type
  priority := computeCandidatePriority type taddr componentID
  componentID := componentID
  base := none
  is_default := false

/-- `ice_compare_candidates`: bases and foundations are not compared. -/
def sameCandidate (c1 c2 : IceCandidate) : Bool :=
  c1.type = c2.type ∧ c1.taddr = c2.taddr ∧ c1.componentID = c2.componentID ∧ c1.priority = c2.priority

/-- The source keeps the address of the id inside a candidate. -/
def addComponentID (list : List UInt16) (componentID : UInt16) : List UInt16 :=
  if componentID ∈ list then list else list ++ [componentID]

/-- The first 31 characters of a foundation. -/
def foundationText (foundation : CString) : CString := .ofBytes (foundation.val.take 31)

/-- `%u` of `snprintf`. -/
def decimal (n : ℕ) : CString := .ofBytes ((Nat.toDigits 10 n).map fun c => .ofNat c.toNat)

namespace IceCheckList

variable (cl : IceCheckList)

def addLocalCandidate (type : IceCandidateType) (taddr : IceTransportAddress) (componentID : UInt16)
    (base : Option CandidateId) : IceCheckList × Option CandidateId :=
  if ICE_MAX_NB_CANDIDATES ≤ cl.local_candidates.length then (cl, none)
  else
    let candidate := candidateNew type taddr componentID
    if cl.local_candidates.any fun c => sameCandidate (cl.candidate c) candidate then (cl, none)
    else
      let id := cl.nb_candidates
      let candidate := { candidate with base := if type = .host then some id else base }
      ({ cl with
          candidate := Function.update cl.candidate id candidate
          nb_candidates := id + 1
          local_componentIDs := addComponentID cl.local_componentIDs componentID
          local_candidates := cl.local_candidates ++ [id] }, some id)

/-- It is the number of local candidates that is limited. -/
def addRemoteCandidate (type : IceCandidateType) (taddr : IceTransportAddress) (componentID : UInt16)
    (priority : UInt32) (foundation : CString) (is_default : Bool) : IceCheckList × Option CandidateId :=
  if ICE_MAX_NB_CANDIDATES ≤ cl.local_candidates.length then (cl, none)
  else
    let candidate := candidateNew type taddr componentID
    let candidate := if priority ≠ 0 then { candidate with priority } else candidate
    if cl.remote_candidates.any fun c => sameCandidate (cl.candidate c) candidate then (cl, none)
    else
      let id := cl.nb_candidates
      let candidate :=
        { candidate with
          foundation := foundationText foundation
          is_default
          base := if type = .host then some id else none }
      ({ cl with
          candidate := Function.update cl.candidate id candidate
          nb_candidates := id + 1
          remote_componentIDs := addComponentID cl.remote_componentIDs componentID
          remote_candidates := cl.remote_candidates ++ [id] }, some id)

/-! ### Searches -/

variable (list : List CandidateId)

def findFromTransportAddress (taddr : IceTransportAddress) : Option CandidateId :=
  list.find? fun c => (cl.candidate c).taddr = taddr

def findFromTransportAddressAndComponentID (taddr : IceTransportAddress)
    (componentID : UInt16) : Option CandidateId :=
  list.find? fun c => (cl.candidate c).componentID = componentID ∧ (cl.candidate c).taddr = taddr

def findFromTypeAndComponentID (type : IceCandidateType) (componentID : UInt16) : Option CandidateId :=
  list.find? fun c => (cl.candidate c).type = type ∧ (cl.candidate c).componentID = componentID

def findFromTypeFamilyAndComponentID (type : IceCandidateType) (family : ℤ)
    (componentID : UInt16) : Option CandidateId :=
  list.find? fun c =>
    (cl.candidate c).type = type ∧ (cl.candidate c).componentID = componentID ∧ (cl.candidate c).taddr.family = family

def findHostCandidate (componentID : UInt16) (family : ℤ) : Option CandidateId :=
  cl.findFromTypeFamilyAndComponentID cl.local_candidates .host family componentID

def findDefaultCandidate (componentID : UInt16) : Option CandidateId :=
  list.find? fun c => (cl.candidate c).is_default ∧ (cl.candidate c).componentID = componentID

/-! ### Foundations -/

/-- Two candidates of one type whose bases have one address, whatever the server. -/
def haveSameFoundation (c1 c2 : CandidateId) : Bool :=
  match (cl.candidate c1).base, (cl.candidate c2).base with
  | some b1, some b2 =>
    c1 ≠ c2 ∧ (cl.candidate c1).type = (cl.candidate c2).type ∧ (cl.candidate b1).taddr.ip = (cl.candidate b2).taddr.ip
  | _, _ => false

def assignFoundation (c : CandidateId) : IceCheckList :=
  let foundation := decimal cl.foundation_generator.toNat
  { cl.setCandidate c fun candidate => { candidate with foundation } with
    foundation_generator := cl.foundation_generator + 1 }

def computeCandidateFoundation (c : CandidateId) : IceCheckList :=
  match cl.local_candidates.find? fun other => cl.haveSameFoundation other c with
  | some other =>
    let foundation := (cl.candidate other).foundation
    if 0 < foundation.strlen then
      cl.setCandidate c fun candidate => { candidate with foundation := foundationText foundation }
    else cl.assignFoundation c
  | none => cl.assignFoundation c

def computeCandidatesFoundations : IceCheckList :=
  if cl.state = .running then cl.local_candidates.foldl computeCandidateFoundation cl else cl

/-! ### Redundant candidates -/

def findRedundantCandidate (c : CandidateId) : Option CandidateId :=
  cl.local_candidates.find? fun other =>
    other ≠ c ∧ (cl.candidate other).taddr = (cl.candidate c).taddr ∧ (cl.candidate other).base = (cl.candidate c).base

/-- Of two redundant candidates, the one with the lower priority goes. -/
def redundantCandidate (c : CandidateId) : Option CandidateId :=
  (cl.findRedundantCandidate c).map fun other =>
    if (cl.candidate other).priority < (cl.candidate c).priority then other else c

/-- One candidate goes at each turn, and the search begins anew. -/
def eliminateLoop : ℕ → IceCheckList → IceCheckList
  | 0, cl => cl
  | turns + 1, cl =>
    match cl.local_candidates.findSome? cl.redundantCandidate with
    | some c => eliminateLoop turns { cl with local_candidates := cl.local_candidates.erase c }
    | none => cl

def eliminateRedundantCandidates : IceCheckList :=
  if cl.state = .running then eliminateLoop cl.local_candidates.length cl else cl

/-! ### Default candidates -/

/-- The candidate of the preferred family, if there is one. -/
def defaultOfType (prefer_ipv6 : Bool) (componentID : UInt16) (type : IceCandidateType) : Option CandidateId :=
  let inet_candidate := cl.findFromTypeFamilyAndComponentID list type AF_INET componentID
  let inet6_candidate := cl.findFromTypeFamilyAndComponentID list type AF_INET6 componentID
  if prefer_ipv6 then inet6_candidate.or inet_candidate else inet_candidate.or inet6_candidate

variable (default_types : List IceCandidateType) (prefer_ipv6 : Bool)

/-- Every component id is tried, with the types in the order of the table. -/
def chooseDefaultCandidatesIn : IceCheckList :=
  (List.range 256).foldl (fun cl k =>
    match default_types.findSome? (cl.defaultOfType list prefer_ipv6 (.ofNat (k + 1))) with
    | some c => cl.setCandidate c fun candidate => { candidate with is_default := true }
    | none => cl) cl

def chooseDefaultCandidates : IceCheckList :=
  if cl.state = .running then cl.chooseDefaultCandidatesIn cl.local_candidates default_types prefer_ipv6 else cl

def chooseDefaultRemoteCandidates : IceCheckList :=
  cl.chooseDefaultCandidatesIn cl.remote_candidates default_types prefer_ipv6

/-! ### Bases -/

def setBaseForSrflxCandidate (base : CandidateId) (cl : IceCheckList) (c : CandidateId) : IceCheckList :=
  if (cl.candidate c).type = .serverReflexive ∧ (cl.candidate c).base = none ∧
      (cl.candidate c).componentID = (cl.candidate base).componentID ∧
      (cl.candidate c).taddr.family = (cl.candidate base).taddr.family then
    cl.setCandidate c fun candidate => { candidate with base := some base }
  else cl

/-- The server reflexive candidates of a component and a family get the host candidate of these as their base. -/
def setBaseForSrflxCandidatesOf (family : ℤ) (componentID : UInt16) : IceCheckList :=
  match cl.findHostCandidate componentID family with
  | some base => cl.local_candidates.foldl (setBaseForSrflxCandidate base) cl
  | none => cl

def setBaseForSrflxCandidates : IceCheckList :=
  cl.local_componentIDs.foldl (fun cl componentID =>
    (cl.setBaseForSrflxCandidatesOf AF_INET componentID).setBaseForSrflxCandidatesOf AF_INET6 componentID) cl

end IceCheckList

end Ice
