import Mathlib.Tactic.Common
import Mathlib.Data.Int.Notation
import Mathlib.Data.Nat.Notation

/-!
# Stream configurations

`SalStreamConfiguration`: what an SDP media line says of a stream, with its payload types. A C string that may be NULL
is an `Option`. The fields that the offer-answer engine neither reads nor writes are left out.
-/

namespace Sal

/-! ### Enumerations -/

inductive SalStreamDir where
  | sendRecv
  | sendOnly
  | recvOnly
  | inactive
  deriving DecidableEq

inductive SalStreamType where
  | audio
  | video
  | text
  | other
  deriving DecidableEq

inductive SalMediaProto where
  | rtpAvp
  | rtpSavp
  | rtpAvpf
  | rtpSavpf
  | udpTlsRtpSavp
  | udpTlsRtpSavpf
  | other
  deriving DecidableEq

inductive SalDtlsRole where
  | invalid
  | isServer
  | isClient
  | unset
  deriving DecidableEq

inductive SalMulticastRole where
  | inactive
  | sender
  | receiver
  | senderReceiver
  deriving DecidableEq

inductive LinphoneMediaEncryption where
  | none
  | srtp
  | zrtp
  | dtls
  deriving DecidableEq

inductive MSCryptoSuite where
  | invalid
  | aes128Sha1_80NoCipher
  | aes128Sha1_80SrtpNoCipher
  | aes128Sha1_80SrtcpNoCipher
  | aes128Sha1_32NoAuth
  | aes128Sha1_80NoAuth
  | aes128Sha1_32
  | aes128Sha1_80
  | aes256Sha1_32
  | aes256Sha1_80
  | aesCm256Sha1_80
  | aeadAes128Gcm
  | aeadAes256Gcm
  deriving DecidableEq

/-! ### Payload types -/

def PAYLOAD_TYPE_ALLOCATED : UInt32 := 1
def PAYLOAD_TYPE_RTCP_FEEDBACK_ENABLED : UInt32 := (1 : UInt32) <<< 2
def PAYLOAD_TYPE_FLAG_CAN_RECV : UInt32 := (1 : UInt32) <<< 5
def PAYLOAD_TYPE_FLAG_CAN_SEND : UInt32 := (1 : UInt32) <<< 6
def PAYLOAD_TYPE_FROZEN_NUMBER : UInt32 := (1 : UInt32) <<< 8
def PAYLOAD_TYPE_PRIORITY_BONUS : UInt32 := (1 : UInt32) <<< 9

structure PayloadTypeAvpfParams where
  features : UInt8 := 0
  rpsi_compatibility : Bool := false
  trr_interval : UInt16 := 0
  deriving DecidableEq

/-- The number of the payload type is kept in `user_data`. -/
structure PayloadType where
  type : ℤ := 0
  clock_rate : ℤ := 0
  mime_type : Option String := none
  channels : ℤ := 0
  recv_fmtp : Option String := none
  send_fmtp : Option String := none
  avpf : PayloadTypeAvpfParams := {}
  flags : UInt32 := 0
  number : ℤ := 0
  deriving DecidableEq

/-- The strings are equal but for the case of ASCII letters. -/
def strcasecmp (s t : String) : Bool := s.toList.map Char.toLower == t.toList.map Char.toLower

namespace PayloadType

variable (pt : PayloadType)

def hasFlag (flag : UInt32) : Bool := pt.flags &&& flag != 0

def setFlag (flag : UInt32) : PayloadType := { pt with flags := pt.flags ||| flag }

def unsetFlag (flag : UInt32) : PayloadType := { pt with flags := pt.flags &&& ~~~flag }

def clone : PayloadType := pt.setFlag PAYLOAD_TYPE_ALLOCATED

/-- Payload types that are not allocated stay as they are. -/
def appendSendFmtp (fmtp : String) : PayloadType :=
  if pt.hasFlag PAYLOAD_TYPE_ALLOCATED then
    { pt with send_fmtp := some (match pt.send_fmtp with | none => fmtp | some s => s ++ ";" ++ fmtp) }
  else pt

def hasMime (mime : String) : Bool := pt.mime_type.any (strcasecmp · mime)

def isRecvOnly : Bool :=
  pt.hasFlag PAYLOAD_TYPE_FLAG_CAN_RECV && !pt.hasFlag PAYLOAD_TYPE_FLAG_CAN_SEND

def isSamePayloadType (p₁ p₂ : PayloadType) : Bool :=
  p₁.type == p₂.type && p₁.mime_type == p₂.mime_type && p₁.clock_rate == p₂.clock_rate &&
    p₁.channels == p₂.channels && p₁.number == p₂.number

/-- The first list may go on with payload types that are only received. -/
def isSamePayloadList : List PayloadType → List PayloadType → Bool
  | p₁ :: l₁, p₂ :: l₂ => isSamePayloadType p₁ p₂ && isSamePayloadList l₁ l₂
  | l₁, [] => l₁.all isRecvOnly
  | [], _ :: _ => false

end PayloadType

/-! ### Configurations -/

structure SalSrtpCryptoAlgo where
  tag : UInt32 := 0
  algo : MSCryptoSuite := .invalid
  master_key : String := ""
  deriving DecidableEq

structure OrtpRtcpFbConfiguration where
  generic_nack_enabled : Bool := false
  tmmbr_enabled : Bool := false
  goog_remb_enabled : Bool := false
  deriving DecidableEq

structure OrtpRtcpXrConfiguration where
  enabled : Bool := false
  stat_summary_enabled : Bool := false
  voip_metrics_enabled : Bool := false
  rcvr_rtt_mode : ℕ := 0
  rcvr_rtt_max_size : ℤ := 0
  stat_summary_flags : ℕ := 0
  deriving DecidableEq

/-- The `zrtphash` is the string in the array. -/
structure SalStreamConfiguration where
  index : UInt32 := 0
  proto : SalMediaProto := .rtpAvp
  proto_other : String := ""
  rtp_ssrc : UInt32 := 0
  rtcp_cname : String := ""
  payloads : List PayloadType := []
  ptime : ℤ := 0
  maxptime : ℤ := 0
  dir : SalStreamDir := .inactive
  crypto : List SalSrtpCryptoAlgo := []
  bundle_only : Bool := false
  implicit_rtcp_fb : Bool := false
  rtcp_fb : OrtpRtcpFbConfiguration := {}
  rtcp_xr : OrtpRtcpXrConfiguration := {}
  mid : String := ""
  mid_rtp_ext_header_id : ℤ := 0
  mixer_to_client_extension_id : ℤ := 0
  client_to_mixer_extension_id : ℤ := 0
  frame_marking_extension_id : ℤ := 0
  conference_ssrc : UInt32 := 0
  set_nortpproxy : Bool := false
  rtcp_mux : Bool := false
  haveZrtpHash : UInt8 := 0
  zrtphash : String := ""
  dtls_fingerprint : String := ""
  dtls_role : SalDtlsRole := .invalid
  ttl : ℤ := 0
  delete_media_attributes : Bool := false
  delete_session_attributes : Bool := false
  tcapIndex : UInt32 := 0
  acapIndexes : List (List UInt32) := []
  deriving DecidableEq

namespace SalStreamConfiguration

/-- `SalStreamConfiguration::equal` finds no change. -/
def equal (cfg other : SalStreamConfiguration) : Bool :=
  cfg.proto == other.proto && cfg.crypto == other.crypto &&
    PayloadType.isSamePayloadList cfg.payloads other.payloads &&
    decide (0 < cfg.ptime) == decide (0 < other.ptime) &&
    (decide (cfg.ptime ≤ 0) || decide (other.ptime ≤ 0) || cfg.ptime == other.ptime) &&
    cfg.dir == other.dir && cfg.dtls_role == other.dtls_role && cfg.dtls_fingerprint == other.dtls_fingerprint &&
    cfg.haveZrtpHash == other.haveZrtpHash &&
    (cfg.haveZrtpHash == 0 || other.haveZrtpHash == 0 || cfg.zrtphash == other.zrtphash) &&
    cfg.mixer_to_client_extension_id == other.mixer_to_client_extension_id &&
    cfg.client_to_mixer_extension_id == other.client_to_mixer_extension_id &&
    cfg.frame_marking_extension_id == other.frame_marking_extension_id

def disable (cfg : SalStreamConfiguration) : SalStreamConfiguration :=
  { cfg with mid := "", bundle_only := false, dir := .inactive }

def hasAvpf (cfg : SalStreamConfiguration) : Bool :=
  match cfg.proto with
  | .rtpAvpf | .rtpSavpf | .udpTlsRtpSavpf => true
  | .rtpAvp | .rtpSavp | .udpTlsRtpSavp | .other => false

def hasSrtp (cfg : SalStreamConfiguration) : Bool :=
  match cfg.proto with
  | .rtpSavp | .rtpSavpf => true
  | .rtpAvp | .rtpAvpf | .udpTlsRtpSavpf | .udpTlsRtpSavp | .other => false

variable (cfg : SalStreamConfiguration)

@[simp] lemma disable_mid : cfg.disable.mid = "" := rfl

/-- The empty object that stands for a configuration that is not there is equal to itself. -/
lemma equal_empty : equal {} {} = true := by decide

end SalStreamConfiguration

end Sal
