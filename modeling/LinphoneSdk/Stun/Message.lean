import LinphoneSdk.Lib.Bytes
import Mathlib.Data.List.TakeWhile

/-!
# STUN messages

The messages of STUN and of its extensions TURN and ICE, as `MSStunMessage` holds them, and the types of their
attributes. A field with a `has_` flag is optional.
-/

namespace Stun

open Bytes

def MS_STUN_MAGIC_COOKIE : UInt32 := 0x2112A442

def STUN_MESSAGE_HEADER_LENGTH : ℕ := 20
def STUN_MAX_USERNAME_LENGTH : ℕ := 513
def STUN_MAX_REASON_LENGTH : ℕ := 127
def STUN_MAX_SOFTWARE_LENGTH : ℕ := 763
def STUN_MAX_REALM_LENGTH : ℕ := 127
def STUN_MAX_NONCE_LENGTH : ℕ := 127

/-! ### Strings -/

/-- A string of C, without its null byte. -/
abbrev CString : Type := { s : Bytes // 0 ∉ s }

namespace CString

/-- What a C function reads in a buffer that ends with a null byte. -/
def ofBytes (bytes : Bytes) : CString :=
  ⟨bytes.takeWhile (· ≠ 0), fun h => by simpa using List.mem_takeWhile_imp h⟩

lemma ofBytes_val (s : CString) : ofBytes s.val = s := by
  apply Subtype.ext
  rw [ofBytes, List.takeWhile_eq_self_iff]
  intro b hb
  have hne : b ≠ 0 := by
    rintro rfl
    exact s.property hb
  simpa using hne

def strlen (s : CString) : ℕ := s.val.length

end CString

/-- The length is 16 bits wide. -/
abbrev Data : Type := { l : Bytes // l.length < 2 ^ 16 }

namespace Data

def ofBytes (l : Bytes) : Data := ⟨l.take (2 ^ 16 - 1), by rw [List.length_take]; omega⟩

lemma ofBytes_val (data : Data) : ofBytes data.val = data :=
  Subtype.ext (List.take_of_length_le (Nat.le_of_lt_succ data.property))

end Data

/-! ### Addresses -/

def MS_STUN_ADDR_FAMILY_IPV4 : UInt8 := 0x01
def MS_STUN_ADDR_FAMILY_IPV6 : UInt8 := 0x02

/-- An unknown family is kept, with an IPv4 address. -/
inductive MSStunAddress where
  | v4 (port : UInt16) (addr : UInt32)
  | v6 (port : UInt16) (addr : Buf 16)
  | other (family : { f : UInt8 // f ≠ MS_STUN_ADDR_FAMILY_IPV4 ∧ f ≠ MS_STUN_ADDR_FAMILY_IPV6 }) (port : UInt16)
      (addr : UInt32)
  deriving DecidableEq

namespace MSStunAddress

def family : MSStunAddress → UInt8
  | v4 _ _ => MS_STUN_ADDR_FAMILY_IPV4
  | v6 _ _ => MS_STUN_ADDR_FAMILY_IPV6
  | other family _ _ => family.val

def ofV4 (family : UInt8) (port : UInt16) (addr : UInt32) (h : family ≠ MS_STUN_ADDR_FAMILY_IPV6) : MSStunAddress :=
  if h4 : family = MS_STUN_ADDR_FAMILY_IPV4 then v4 port addr else other ⟨family, h4, h⟩ port addr

def zero : MSStunAddress := other ⟨0, by decide, by decide⟩ 0 0

end MSStunAddress

def xorBuf {n : ℕ} (b mask : Buf n) : Buf n := List.Vector.map₂ (· ^^^ ·) b mask

lemma xorBuf_xorBuf {n : ℕ} (b mask : Buf n) : xorBuf (xorBuf b mask) mask = b := by
  ext i : 1
  rw [xorBuf, xorBuf, List.Vector.get_map₂, List.Vector.get_map₂, UInt8.xor_assoc, UInt8.xor_self, UInt8.xor_zero]

/-- The magic cookie and the transaction id. -/
def xorMask (tr_id : Buf 12) : Buf 16 := ⟨be32 MS_STUN_MAGIC_COOKIE ++ tr_id.toList, by simp⟩

def MSStunAddress.xor (tr_id : Buf 12) : MSStunAddress → MSStunAddress
  | v4 port addr => v4 (port ^^^ (MS_STUN_MAGIC_COOKIE >>> 16).toUInt16) (addr ^^^ MS_STUN_MAGIC_COOKIE)
  | v6 port addr => v6 (port ^^^ (MS_STUN_MAGIC_COOKIE >>> 16).toUInt16) (xorBuf addr (xorMask tr_id))
  | other family port addr => other family port addr

@[simp] lemma MSStunAddress.xor_xor (tr_id : Buf 12) (addr : MSStunAddress) : (addr.xor tr_id).xor tr_id = addr := by
  cases addr with
  | v4 port addr => simp only [MSStunAddress.xor, UInt16.xor_assoc, UInt16.xor_self, UInt16.xor_zero, UInt32.xor_assoc,
      UInt32.xor_self, UInt32.xor_zero]
  | v6 port addr => simp only [MSStunAddress.xor, UInt16.xor_assoc, UInt16.xor_self, UInt16.xor_zero, xorBuf_xorBuf]
  | other family port addr => rfl

/-! ### Types of attributes -/

inductive AttributeType where
  | mappedAddress
  | responseAddress
  | changeRequest
  | sourceAddress
  | changedAddress
  | username
  | password
  | messageIntegrity
  | errorCode
  | channelNumber
  | lifetime
  | xorPeerAddress
  | data
  | realm
  | nonce
  | xorRelayedAddress
  | requestedAddressFamily
  | requestedTransport
  | xorMappedAddress
  | priority
  | useCandidate
  | software
  | fingerprint
  | iceControlled
  | iceControlling
  deriving DecidableEq

namespace AttributeType

def code : AttributeType → UInt16
  | mappedAddress => 0x0001
  | responseAddress => 0x0002
  | changeRequest => 0x0003
  | sourceAddress => 0x0004
  | changedAddress => 0x0005
  | username => 0x0006
  | password => 0x0007
  | messageIntegrity => 0x0008
  | errorCode => 0x0009
  | channelNumber => 0x000C
  | lifetime => 0x000D
  | xorPeerAddress => 0x0012
  | data => 0x0013
  | realm => 0x0014
  | nonce => 0x0015
  | xorRelayedAddress => 0x0016
  | requestedAddressFamily => 0x0017
  | requestedTransport => 0x0019
  | xorMappedAddress => 0x0020
  | priority => 0x0024
  | useCandidate => 0x0025
  | software => 0x8022
  | fingerprint => 0x8028
  | iceControlled => 0x8029
  | iceControlling => 0x802A

def all : List AttributeType :=
  [mappedAddress, responseAddress, changeRequest, sourceAddress, changedAddress, username, password, messageIntegrity,
    errorCode, channelNumber, lifetime, xorPeerAddress, data, realm, nonce, xorRelayedAddress, requestedAddressFamily,
    requestedTransport, xorMappedAddress, priority, useCandidate, software, fingerprint, iceControlled, iceControlling]

/-- The attribute of a code of the wire, if known. -/
def ofCode (type : UInt16) : Option AttributeType := all.find? fun a => a.code = type

@[simp] lemma ofCode_code (a : AttributeType) : ofCode a.code = some a := by
  cases a <;> rfl

end AttributeType

structure MSStunErrorCode where
  reason : Option CString
  number : UInt16
  deriving DecidableEq

structure MSStunMessage where
  type : UInt16
  method : UInt16
  length : UInt16
  tr_id : Buf 12
  data : Data
  username : Option CString
  password : Option CString
  ha1 : Option CString
  realm : Option CString
  message_integrity : Option (Buf 20)
  software : Option CString
  nonce : Option CString
  error_code : Option MSStunErrorCode
  mapped_address : Option MSStunAddress
  xor_mapped_address : Option MSStunAddress
  xor_peer_address : Option MSStunAddress
  xor_relayed_address : Option MSStunAddress
  change_request : UInt32
  fingerprint : UInt32
  priority : Option UInt32
  ice_controlling : Option UInt64
  ice_controlled : Option UInt64
  lifetime : Option UInt32
  channel_number : Option UInt16
  requested_transport : Option UInt8
  requested_address_family : Option UInt8
  has_message_integrity : Bool
  has_dummy_message_integrity : Bool
  has_fingerprint : Bool
  has_use_candidate : Bool
  deriving DecidableEq

def MSStunMessage.new0 : MSStunMessage where
  type := 0
  method := 0
  length := 0
  tr_id := zeros 12
  data := ⟨[], by decide⟩
  username := none
  password := none
  ha1 := none
  realm := none
  message_integrity := none
  software := none
  nonce := none
  error_code := none
  mapped_address := none
  xor_mapped_address := none
  xor_peer_address := none
  xor_relayed_address := none
  change_request := 0
  fingerprint := 0
  priority := none
  ice_controlling := none
  ice_controlled := none
  lifetime := none
  channel_number := none
  requested_transport := none
  requested_address_family := none
  has_message_integrity := false
  has_dummy_message_integrity := false
  has_fingerprint := false
  has_use_candidate := false

end Stun
