import LinphoneSdk.Lib.OrderedMap
import LinphoneSdk.Sal.StreamConfiguration
import Mathlib.Order.Basic

/-!
# Media descriptions

`SalStreamDescription`, `SalStreamBundle` and `SalMediaDescription`: the streams of an offer or of an answer, each with
its configurations, and the groups of streams that share one transport. A group is the list of the mids of its streams,
and the first one owns the transport.
-/

namespace Sal

/-! ### The configurations of a stream -/

/-- The index of a configuration. Index 0 is that of the actual configuration. -/
structure CfgIndex where
  value : UInt32
  deriving DecidableEq

/-- `SalConfigurationCmp`: 0 comes last. -/
instance : LinearOrder CfgIndex :=
  LinearOrder.lift' (fun idx : CfgIndex => (idx.value - 1).toNat) fun a b h => by
    have hsub : a.value - 1 = b.value - 1 := UInt32.toNat_inj.1 h
    have hvalue : a.value = b.value := by
      rw [← UInt32.sub_add_cancel a.value 1, hsub, UInt32.sub_add_cancel]
    cases a
    cases b
    exact congrArg CfgIndex.mk hvalue

def actualConfigurationIndex : CfgIndex := ⟨0⟩

structure SalIceCandidate where
  addr : String
  raddr : String
  foundation : String
  type : String
  componentID : UInt32
  priority : UInt32
  port : ℤ
  rport : ℤ

structure SalIceRemoteCandidate where
  addr : String
  port : ℤ

structure SalStreamDescription where
  name : String := ""
  type : SalStreamType := .audio
  typeother : String := ""
  rtp_addr : String := ""
  rtcp_addr : String := ""
  rtp_port : ℤ := 0
  rtcp_port : ℤ := 0
  bandwidth : ℤ := 0
  multicast_role : SalMulticastRole := .inactive
  custom_sdp_attributes : List (String × String) := []
  /-- The chosen configuration. -/
  cfgIndex : CfgIndex := actualConfigurationIndex
  ice_candidates : List SalIceCandidate := []
  ice_remote_candidates : List SalIceRemoteCandidate := []
  ice_ufrag : String := ""
  ice_pwd : String := ""
  ice_mismatch : Bool := false
  label : String := ""
  content : String := ""
  cfgs : OrderedMap CfgIndex SalStreamConfiguration := .empty
  supportedEncryption : List LinphoneMediaEncryption := []

namespace SalStreamDescription

variable (s : SalStreamDescription) {idx idx' : CfgIndex} {cfg : SalStreamConfiguration}

def hasConfigurationAtIndex (idx : CfgIndex) : Bool := (s.cfgs.find idx).isSome

/-- The empty configuration, if there is none at the index. -/
def getConfigurationAtIndex (idx : CfgIndex) : SalStreamConfiguration := (s.cfgs.find idx).getD {}

def getActualConfiguration : SalStreamConfiguration := s.getConfigurationAtIndex actualConfigurationIndex

def getChosenConfiguration : SalStreamConfiguration := s.getConfigurationAtIndex s.cfgIndex

def addConfigurationAtIndex (idx : CfgIndex) (cfg : SalStreamConfiguration) : SalStreamDescription :=
  { s with cfgs := s.cfgs.assign idx cfg }

def addActualConfiguration (cfg : SalStreamConfiguration) : SalStreamDescription :=
  s.addConfigurationAtIndex actualConfigurationIndex cfg

def isBundleOnly : Bool := s.getChosenConfiguration.bundle_only

def getMid : String := s.getChosenConfiguration.mid

/-- Port 0 does not mean that a stream with the bundle-only attribute is disabled. -/
def enabled : Bool := decide (0 < s.rtp_port) || (s.isBundleOnly && s.getChosenConfiguration.dir != .inactive)

def disable : SalStreamDescription :=
  { s.addConfigurationAtIndex s.cfgIndex s.getChosenConfiguration.disable with rtp_port := 0 }

@[simp] lemma getConfigurationAtIndex_addConfigurationAtIndex_self :
    (s.addConfigurationAtIndex idx cfg).getConfigurationAtIndex idx = cfg := by
  simp [addConfigurationAtIndex, getConfigurationAtIndex]

lemma getConfigurationAtIndex_addConfigurationAtIndex_of_ne (h : idx' ≠ idx) :
    (s.addConfigurationAtIndex idx cfg).getConfigurationAtIndex idx' = s.getConfigurationAtIndex idx' := by
  simp [addConfigurationAtIndex, getConfigurationAtIndex, OrderedMap.find_assign_of_ne _ _ h]

lemma hasConfigurationAtIndex_addConfigurationAtIndex :
    (s.addConfigurationAtIndex idx cfg).hasConfigurationAtIndex idx' =
      (idx' = idx ∨ s.hasConfigurationAtIndex idx' = true : Bool) := by
  by_cases h : idx' = idx
  · subst h
    simp [addConfigurationAtIndex, hasConfigurationAtIndex]
  · simp [addConfigurationAtIndex, hasConfigurationAtIndex, OrderedMap.find_assign_of_ne _ _ h, h]

@[simp] lemma getChosenConfiguration_disable : s.disable.getChosenConfiguration = s.getChosenConfiguration.disable :=
  s.getConfigurationAtIndex_addConfigurationAtIndex_self

@[simp] lemma getMid_disable : s.disable.getMid = "" := by
  rw [getMid, getChosenConfiguration_disable, SalStreamConfiguration.disable_mid]

/-- The configurations of the stream have the mid of the actual one, and the chosen one does. -/
structure OneMid : Prop where
  chosen : s.hasConfigurationAtIndex s.cfgIndex
  mid : ∀ idx, s.hasConfigurationAtIndex idx → (s.getConfigurationAtIndex idx).mid = s.getActualConfiguration.mid

variable {s}

lemma oneMid_addActualConfiguration (hcfgs : s.cfgs = .empty) (hindex : s.cfgIndex = actualConfigurationIndex)
    (cfg : SalStreamConfiguration) : (s.addActualConfiguration cfg).OneMid := by
  constructor
  · rw [addActualConfiguration, hasConfigurationAtIndex_addConfigurationAtIndex]
    exact decide_eq_true (.inl hindex)
  · intro idx hidx
    rw [addActualConfiguration, hasConfigurationAtIndex_addConfigurationAtIndex, decide_eq_true_eq,
      hasConfigurationAtIndex, hcfgs] at hidx
    rw [hidx.resolve_right nofun]
    rfl

end SalStreamDescription

/-! ### Bundles -/

/-- The mids of the streams of a group, that of the transport owner first. -/
structure SalStreamBundle where
  mids : List String := []
  deriving DecidableEq

namespace SalStreamBundle

/-- A stream that is bundle-only leaves the first place to the transport owner, which takes it. -/
def addStream (bundle : SalStreamBundle) (cfg : SalStreamConfiguration) (mid : String) : SalStreamBundle :=
  match bundle.mids with
  | [] => if cfg.bundle_only then ⟨["", mid]⟩ else ⟨[mid]⟩
  | first :: mids => if !cfg.bundle_only && first == "" then ⟨mid :: mids⟩ else ⟨first :: mids ++ [mid]⟩

def getMidOfTransportOwner (bundle : SalStreamBundle) : String := bundle.mids.headD ""

def hasMid (bundle : SalStreamBundle) (mid : String) : Bool := bundle.mids.any (· == mid)

end SalStreamBundle

/-! ### Media descriptions -/

inductive SalMediaRecord where
  | none
  | off
  | on
  | paused
  deriving DecidableEq

structure SalMediaDescription where
  name : String := ""
  addr : String := ""
  username : String := ""
  bandwidth : ℤ := 0
  origin_addr : String := ""
  session_ver : UInt32 := 0
  session_id : UInt32 := 0
  dir : SalStreamDir := .sendRecv
  streams : List SalStreamDescription := []
  custom_sdp_attributes : List (String × String) := []
  rtcp_xr : OrtpRtcpXrConfiguration := {}
  ice_ufrag : String := ""
  ice_pwd : String := ""
  bundles : List SalStreamBundle := []
  ice_lite : Bool := false
  set_nortpproxy : Bool := false
  /-- Bundles may be accepted in an answer. -/
  accept_bundles : Bool := false
  record : SalMediaRecord := .none
  times : List (ℤ × ℤ) := []
  capabilityNegotiationSupported : Bool := false

namespace SalMediaDescription

variable (md : SalMediaDescription)

/-- The mids of the chosen configurations. -/
def mids : List String := md.streams.map (·.getMid)

def lookupMid (mid : String) : ℤ :=
  match md.streams.findIdx? (·.getMid == mid) with
  | some index => index
  | none => -1

/-- The first bundle with the mid, the empty one if there is none. -/
def getBundleFromMid (mid : String) : SalStreamBundle := (md.bundles.find? (·.hasMid mid)).getD {}

/-- The index of the stream that owns the transport of the bundle of a stream, -1 if the stream is not part of a
bundle, -2 if its bundle or the mid of the transport owner is not found. -/
def getIndexOfTransportOwner (sd : SalStreamDescription) : ℤ :=
  if sd.getMid = "" then -1
  else
    let bundle := md.getBundleFromMid sd.getMid
    if bundle = {} then -2
    else if bundle.getMidOfTransportOwner = "" then -2
    else md.lookupMid bundle.getMidOfTransportOwner

end SalMediaDescription

end Sal
