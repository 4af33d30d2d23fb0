import LinphoneSdk.Lib.Reading
import LinphoneSdk.Stun.Message

/-!
# Decoding STUN messages

`ms_stun_message_create_from_buffer_parsing`. The decoder reads before it looks whether anything remains, and only
remembers that it went too far.
-/

namespace Stun

open Bytes Exec Reading

inductive DecodeError where
  /-- The message is freed and none is returned. -/
  | refused
  /-- A null pointer is read. -/
  | nullPointer
  /-- The fuel of the loop ran out. -/
  | unfinished
  deriving DecidableEq

/-- What remains is what the block holds after the position. -/
structure StunMessageDecoder where
  cursor : Cursor
  error : Bool

namespace StunMessageDecoder

def size (d : StunMessageDecoder) : ℕ := d.cursor.block.bytes.length

def remaining (d : StunMessageDecoder) : ℤ := d.size - d.cursor.position

def start (buf : Block) : StunMessageDecoder := ⟨.start buf 0, false⟩

/-- Move after bytes that were read. -/
def advance (d : StunMessageDecoder) (length : ℕ) : StunMessageDecoder where
  cursor := d.cursor.advance length
  error := d.error || d.size < d.cursor.position + length

end StunMessageDecoder

/-- A function of the decoder, which may stop the parsing. -/
abbrev Decode (α : Type) : Type := EStateM DecodeError StunMessageDecoder α

/-- Missing bytes set the error, and are read all the same. -/
def decode (len : ℕ) : Decode Bytes := fun d =>
  .ok (d.cursor.block.read d.cursor.position len) (d.advance len)

def decodeBuf (n : ℕ) : Decode (Buf n) := fun d =>
  .ok (d.cursor.block.readBuf d.cursor.position n) (d.advance n)

def decode8 : Decode UInt8 := (·.getD 0 0) <$> decode 1

def decode16 : Decode UInt16 := (be16At · 0) <$> decode 2

def decode32 : Decode UInt32 := (be32At · 0) <$> decode 4

/-- The 64-bit word made of two words. -/
def word64 (a b : UInt32) : UInt64 := a.toUInt64 <<< 32 ||| b.toUInt64

def decode64 : Decode UInt64 := (fun l => word64 (be32At l 0) (be32At l 4)) <$> decode 8

/-- The decoding goes on until the error is looked at. -/
def setError : Decode Unit := modify fun d => { d with error := true }

def checkError : Decode Unit := do
  let d ← get
  if d.error then throw .refused

/-! ### Attributes -/

variable (length : UInt16)

/-- The length and the family are not compared. -/
def decodeAddr : Decode MSStunAddress :=
  if length ≠ 8 ∧ length ≠ 20 then do
    setError
    pure .zero
  else do
    let _ ← decode8
    let family ← decode8
    if h : family = MS_STUN_ADDR_FAMILY_IPV6 then
      let port ← decode16
      let addr ← decodeBuf 16
      pure (.v6 port addr)
    else
      let port ← decode16
      let addr ← decode32
      pure (.ofV4 family port addr h)

def decodeXorAddr (tr_id : Buf 12) : Decode MSStunAddress := (·.xor tr_id) <$> decodeAddr length

/-- A 32-bit attribute. -/
def decodeWord : Decode UInt32 :=
  if length ≠ 4 then do
    setError
    pure 0
  else decode32

def decodeChangeRequest : Decode UInt32 := decodeWord length

def decodeFingerprint : Decode UInt32 := decodeWord length

def decodePriority : Decode UInt32 := decodeWord length

def decodeLifetime : Decode UInt32 := decodeWord length

def decodeIceControl : Decode UInt64 :=
  if length ≠ 8 then do
    setError
    pure 0
  else decode64

/-- A longer string is an error. -/
def decodeString (max_length : ℕ) : Decode (Option CString) :=
  if max_length < length.toNat then do
    setError
    pure none
  else do
    let str ← decode length.toNat
    pure (some (.ofBytes str))

def decodeErrorCode : Decode MSStunErrorCode :=
  if length.toNat < 4 ∨ STUN_MAX_REASON_LENGTH + 4 < length.toNat then do
    setError
    pure ⟨none, 0⟩
  else do
    let reason_length := length.toNat - 4
    let _ ← decode16
    let clazz ← decode8
    let code ← decode8
    let number := .ofNat (clazz.toNat * 100 + code.toNat)
    if 0 < reason_length then
      let reason ← decode reason_length
      pure ⟨some (.ofBytes reason), number⟩
    else pure ⟨none, number⟩

def decodeMessageIntegrity : Decode (Option (Buf 20)) :=
  if length ≠ 20 then do
    setError
    pure none
  else do
    let hmac ← decodeBuf 20
    pure (some hmac)

def decodeData : Decode Data := .ofBytes <$> decode length.toNat

def dummyHmac : Buf 20 :=
  ⟨[104, 109, 97, 99, 45, 110, 111, 116, 45, 105, 109, 112, 108, 101, 109, 101, 110, 116, 101, 100], rfl⟩

namespace MSStunMessage

def setMessageIntegrity (msg : MSStunMessage) (hmac : Buf 20) : MSStunMessage :=
  { msg with
    message_integrity := some hmac
    has_message_integrity := true
    has_dummy_message_integrity := msg.has_dummy_message_integrity || hmac = dummyHmac }

end MSStunMessage

/-- An unknown attribute is skipped if it is optional. -/
def decodeAttribute (msg : MSStunMessage) (type length : UInt16) : Decode MSStunMessage :=
  match AttributeType.ofCode type with
  | some .mappedAddress => (fun addr => { msg with mapped_address := some addr }) <$> decodeAddr length
  | some .changeRequest => (fun word => { msg with change_request := word }) <$> decodeChangeRequest length
  | some .responseAddress | some .sourceAddress | some .changedAddress => (fun _ => msg) <$> decodeAddr length
  | some .username =>
    (fun username => { msg with username }) <$> decodeString length STUN_MAX_USERNAME_LENGTH
  | some .password => (fun _ => msg) <$> decodeString length STUN_MAX_USERNAME_LENGTH
  | some .messageIntegrity => do
    match ← decodeMessageIntegrity length with
    | some hmac => pure (msg.setMessageIntegrity hmac)
    -- the null pointer is compared with the dummy value before the error is looked at
    | none => throw .nullPointer
  | some .errorCode => (fun error_code => { msg with error_code := some error_code }) <$> decodeErrorCode length
  | some .xorMappedAddress =>
    (fun addr => { msg with xor_mapped_address := some addr }) <$> decodeXorAddr length msg.tr_id
  | some .software => (fun software => { msg with software }) <$> decodeString length STUN_MAX_SOFTWARE_LENGTH
  | some .fingerprint =>
    (fun fingerprint => { msg with fingerprint, has_fingerprint := true }) <$> decodeFingerprint length
  | some .priority => (fun priority => { msg with priority := some priority }) <$> decodePriority length
  | some .useCandidate => pure { msg with has_use_candidate := true }
  | some .iceControlled => (fun value => { msg with ice_controlled := some value }) <$> decodeIceControl length
  | some .iceControlling => (fun value => { msg with ice_controlling := some value }) <$> decodeIceControl length
  | some .xorPeerAddress =>
    (fun addr => { msg with xor_peer_address := some addr }) <$> decodeXorAddr length msg.tr_id
  | some .xorRelayedAddress =>
    (fun addr => { msg with xor_relayed_address := some addr }) <$> decodeXorAddr length msg.tr_id
  | some .lifetime => (fun lifetime => { msg with lifetime := some lifetime }) <$> decodeLifetime length
  | some .data => (fun data => { msg with data }) <$> decodeData length
  | some .realm => (fun realm => { msg with realm }) <$> decodeString length STUN_MAX_REALM_LENGTH
  | some .nonce => (fun nonce => { msg with nonce }) <$> decodeString length STUN_MAX_NONCE_LENGTH
  | some .channelNumber | some .requestedAddressFamily | some .requestedTransport | none =>
    if type ≤ 0x7FFF then throw .refused else (fun _ => msg) <$> decode length.toNat

/-- 4 when no padding is needed. -/
def paddingLength (length : ℕ) : ℕ := 4 - length % 4

def decodePadding : Decode Unit := do
  if paddingLength length.toNat < 4 then
    (List.range (paddingLength length.toNat)).forM fun _ => do let _ ← decode8
    checkError

def decodeAttributeHeader : Decode (UInt16 × UInt16) := do
  let type ← decode16
  let length ← decode16
  pure (type, length)

/-- The body of the loop, after the header of the attribute. -/
def parseValue (msg : MSStunMessage) (type length : UInt16) : Decode MSStunMessage := do
  let d ← get
  if d.remaining < length.toNat then setError
  checkError
  let msg ← decodeAttribute msg type length
  checkError
  decodePadding length
  pure msg

def parseAttribute (msg : MSStunMessage) : Decode MSStunMessage := do
  let header ← decodeAttributeHeader
  parseValue msg header.1 header.2

/-- The loop over the attributes. -/
def parseAttributes : ℕ → MSStunMessage → Decode MSStunMessage
  | 0, _ => throw .unfinished
  | fuel + 1, msg => do
    let d ← get
    if 0 < d.remaining then
      let msg ← parseAttribute msg
      parseAttributes fuel msg
    else pure msg

/-! ### Messages -/

def decodeMessageHeader (msg : MSStunMessage) : Decode MSStunMessage := do
  let type ← decode16
  let length ← decode16
  let magic_cookie ← decode32
  let msg := { msg with type := type &&& 0x0110, method := type &&& 0x3EEF, length }
  if magic_cookie ≠ MS_STUN_MAGIC_COOKIE then do
    setError
    pure msg
  else do
    let tr_id ← decodeBuf 12
    pure { msg with tr_id }

/-- Every attribute takes a byte at least. -/
def parseMessage : Decode MSStunMessage := do
  let d ← get
  if d.size < STUN_MESSAGE_HEADER_LENGTH then throw .refused
  else
    let msg ← decodeMessageHeader .new0
    checkError
    if msg.length.toNat + STUN_MESSAGE_HEADER_LENGTH ≠ d.size then throw .refused
    else parseAttributes (d.size + 1) msg

def createFromBufferParsing (buf : Block) : EStateM.Result DecodeError StunMessageDecoder MSStunMessage :=
  parseMessage (.start buf)

end Stun
