import LinphoneSdk.Sal.OfferAnswer
import Mathlib.Data.List.Basic

/-!
# The matching of payload types

`OfferAnswerEngine::matchPayloads` with the providers that the factory knows, for an answer that is made and for one
that is read. An answer that is read may use other numbers than the offer: the payload types that are sent get the
numbers of the answer, and can also be received under those of the offer.

A provider may compare the payload type that it matches with a remote one by address; it gets the place of it among
the remote ones. What a provider notes down in the local payload types is for later calls: another payload type that
matches does not depend on it.
-/

namespace Sal

open List Option PayloadType

/-- The value that `fmtp_get_value` finds: that of the last occurrence of the parameter. A parameter starts the format
or follows a semicolon or a space. -/
def fmtpGetValue (param_name : List Char) : Bool → List Char → Option (List Char)
  | _, [] => none
  | starts, c :: fmtp =>
    match fmtpGetValue param_name (c == ';' || c == ' ') fmtp with
    | some value => some value
    | none =>
      if starts && (param_name ++ ['=']).isPrefixOf (c :: fmtp) then
        some (((c :: fmtp).drop (param_name.length + 1)).takeWhile (· ≠ ';'))
      else none

/-- Only the first character of the value is read. -/
def getPacketizationMode (fmtp : Option String) : ℕ :=
  match fmtp.bind fun s => fmtpGetValue "packetization-mode".toList true s.toList with
  | some (c :: _) => if c.isDigit then c.toNat - '0'.toNat else 0
  | _ => 0

/-! ### Providers -/

/-- The local payload types, the one to match, its place among the remote ones, and these. -/
abbrev MSPayloadMatcherFunc := List PayloadType → PayloadType → ℕ → List PayloadType → Option PayloadType

/-- `opus` with one channel is offered by mistake, and is answered with one channel. -/
def opusMatch : MSPayloadMatcherFunc := fun local_payloads refpt _ _ =>
  let opus := local_payloads.filter (·.hasMime "opus")
  if refpt.channels = 1 then opus.getLast?.map fun legacy_opus => { legacy_opus.clone with channels := 1 }
  else if refpt.channels = 2 then opus.head?.map (·.clone)
  else none

/-- Some phones offer `G729A` for `G729`. -/
def g729AMatch : MSPayloadMatcherFunc := fun local_payloads refpt _ _ =>
  (local_payloads.filter fun pt => pt.hasMime "G729" && refpt.channels == pt.channels).getLast?.map (·.clone)

/-- The redundant text repeats the number of the remote `t140`. -/
def redMatch : MSPayloadMatcherFunc := fun local_payloads _ _ remote_payloads =>
  (local_payloads.find? (·.hasMime "red")).map fun pt =>
    match remote_payloads.find? (·.hasMime "t140") with
    | some pt2 =>
      { pt.clone with
        recv_fmtp := some (toString pt2.number ++ "/" ++ toString pt2.number ++ "/" ++ toString pt2.number) }
    | none => pt.clone

/-- The payload type that `h264_match` mends. One that is not allocated cannot be written. -/
def fixPacketizationMode (pt : PayloadType) : PayloadType :=
  if pt.hasFlag PAYLOAD_TYPE_ALLOCATED then
    { pt with
      recv_fmtp := pt.recv_fmtp.map (· ++ "; packetization-mode=1")
      send_fmtp := pt.send_fmtp.map (· ++ " ; packetization-mode=1") }
  else pt

/-- When a remote payload type has packetization mode 1, only the first such one is matched. -/
def h264Match : MSPayloadMatcherFunc := fun local_payloads _ place remote_payloads =>
  let local_h264_list := local_payloads.filter (·.hasMime "h264")
  match remote_payloads.findIdx? fun pt => pt.hasMime "h264" && getPacketizationMode pt.send_fmtp == 1 with
  | none => local_h264_list.head?.map (·.clone)
  | some mode1 =>
    if mode1 ≠ place then none
    else
      match local_h264_list.find? fun pt => getPacketizationMode pt.recv_fmtp == 1 with
      | some pt => some pt.clone
      | none => local_h264_list.head?.map fun pt => (fixPacketizationMode pt).clone

/-- `payload_type_set_recv_fmtp`. -/
def PayloadType.setRecvFmtp (fmtp : String) (pt : PayloadType) : PayloadType :=
  if pt.hasFlag PAYLOAD_TYPE_ALLOCATED then { pt with recv_fmtp := some fmtp } else pt

/-- `red_match` writes the number of the remote `t140` in the local payload type too. -/
def redNoted (local_payloads remote_payloads : List PayloadType) : List PayloadType :=
  match remote_payloads.find? (·.hasMime "t140") with
  | some pt2 =>
    local_payloads.modify (local_payloads.findIdx (·.hasMime "red")) (setRecvFmtp
      (toString pt2.number ++ "/" ++ toString pt2.number ++ "/" ++ toString pt2.number))
  | none => local_payloads

/-- The payload type that `h264_match` mends is a local one. -/
def h264Noted (local_payloads : List PayloadType) (place : ℕ) (remote_payloads : List PayloadType) : List PayloadType :=
  if remote_payloads.findIdx? (fun pt => pt.hasMime "h264" && getPacketizationMode pt.send_fmtp == 1) = some place ∧
      ∀ pt ∈ local_payloads, pt.hasMime "h264" → getPacketizationMode pt.recv_fmtp ≠ 1 then
    local_payloads.modify (local_payloads.findIdx (·.hasMime "h264")) fixPacketizationMode
  else local_payloads

def offerAnswerProviders : List (String × MSPayloadMatcherFunc) :=
  [("opus", opusMatch), ("G729A", g729AMatch), ("red", redMatch), ("h264", h264Match)]

def createOfferAnswerContext (mime_type : String) : Option MSPayloadMatcherFunc :=
  (offerAnswerProviders.find? fun prov => strcasecmp mime_type prov.1).map (·.2)

/-- The provider for a codec, with what it notes down. -/
def offerAnswerContext (mime_type : String) : Option MSOfferAnswerContext :=
  (createOfferAnswerContext mime_type).map fun match_payload =>
    { match_payload
      noted := fun local_payloads _ place remote_payloads =>
        if strcasecmp mime_type "red" then redNoted local_payloads remote_payloads
        else if strcasecmp mime_type "h264" then h264Noted local_payloads place remote_payloads
        else local_payloads }

/-- The engine of a core, whose factory has these providers. -/
def OfferAnswerEngine.withProviders (engine : OfferAnswerEngine) : OfferAnswerEngine :=
  { engine with mMsFactory := offerAnswerContext }

/-! ### Codecs and flags -/

def codecName (mime_type : String) : List Char :=
  let name := mime_type.toList.map Char.toLower
  if name = "g729a".toList then "g729".toList else name

namespace PayloadType

def sameCodec (pt₁ pt₂ : PayloadType) : Bool := pt₁.mime_type.map codecName == pt₂.mime_type.map codecName

def canSend (pt : PayloadType) : Bool := pt.hasFlag PAYLOAD_TYPE_FLAG_CAN_SEND

def canRecv (pt : PayloadType) : Bool := pt.hasFlag PAYLOAD_TYPE_FLAG_CAN_RECV

def sendsCodec (pt : PayloadType) : Bool := pt.canSend && !pt.hasMime "telephone-event"

/-- The send parameters end with those of the other payload type, if it has some. -/
def carriesSendFmtp (pt p2 : PayloadType) : Bool :=
  p2.send_fmtp.all fun fmtp => pt.send_fmtp.any fun own => own == fmtp || (';' :: fmtp.toList).isSuffixOf own.toList

lemma hasFlag_setFlag (pt : PayloadType) (flag flag' : UInt32) :
    (pt.setFlag flag).hasFlag flag' = (pt.hasFlag flag' || flag &&& flag' != 0) := by
  have hdistrib : (pt.flags ||| flag) &&& flag' = (pt.flags &&& flag') ||| (flag &&& flag') :=
    UInt32.toBitVec_inj.1 BitVec.and_or_distrib_right
  rw [Bool.eq_iff_iff]
  simp only [hasFlag, setFlag, hdistrib, bne_iff_ne, ne_eq, UInt32.or_eq_zero_iff, Bool.or_eq_true]
  tauto

/-- The bits of another flag stay. -/
lemma hasFlag_unsetFlag {flag flag' : UInt32} (pt : PayloadType) (h : ~~~flag &&& flag' = flag') :
    (pt.unsetFlag flag).hasFlag flag' = pt.hasFlag flag' := by
  simp only [hasFlag, unsetFlag, UInt32.and_assoc, h]

lemma hasFlag_unsetFlag_self (pt : PayloadType) (flag : UInt32) : (pt.unsetFlag flag).hasFlag flag = false := by
  simp [hasFlag, unsetFlag, UInt32.and_assoc]

lemma sameCodec_iff {pt₁ pt₂ : PayloadType} :
    pt₁.sameCodec pt₂ = true ↔ pt₁.mime_type.map codecName = pt₂.mime_type.map codecName := by
  simp [sameCodec]

end PayloadType

namespace PayloadMatching

/-! ### The matching -/

variable (createContext : String → Option MSPayloadMatcherFunc) (engine : OfferAnswerEngine)

def findPayloadTypeBestMatch (local_payloads : List PayloadType) (refpt : PayloadType) (place : ℕ)
    (remote_payloads : List PayloadType) : Option PayloadType :=
  match refpt.mime_type.bind createContext with
  | some match_payload => match_payload local_payloads refpt place remote_payloads
  | none => OfferAnswerEngine.genericMatch local_payloads refpt

/-- The payload type that is sent. Only an answer that is made can have the local number. -/
def sentPayload (reading_response : Bool) (matched p2 : PayloadType) : PayloadType :=
  { engine with mAnswerWithOwnNumbering := !reading_response && engine.mAnswerWithOwnNumbering }.answeredPayload
    matched p2

/-- A payload type that can be received under the number of the offer although another one was answered. -/
def receivedPayload (sent : PayloadType) (local_number : ℤ) : PayloadType :=
  (({ sent.clone with number := local_number }.setFlag PAYLOAD_TYPE_FLAG_CAN_RECV).unsetFlag
    PAYLOAD_TYPE_FLAG_CAN_SEND).setFlag PAYLOAD_TYPE_FROZEN_NUMBER

def matchedPayloads (reading_response : Bool) (matched p2 : PayloadType) : List PayloadType :=
  let sent := sentPayload engine reading_response matched p2
  if reading_response && p2.number != matched.number then [sent, receivedPayload sent matched.number] else [sent]

/-- The remote payload types with their places, one after the other. -/
def matchRemote (localPayloads remotePayloads : List PayloadType) (reading_response bundle_enabled : Bool) :
    List (PayloadType × ℕ) → Bool → List PayloadType
  | [], _ => []
  | (p2, place) :: remote, found_codec =>
    match findPayloadTypeBestMatch createContext localPayloads p2 place remotePayloads with
    | none => matchRemote localPayloads remotePayloads reading_response bundle_enabled remote found_codec
    | some matched =>
      let counted := engine.mUseOneMatchingCodec && !matched.hasMime "telephone-event"
      if counted && found_codec then
        matchRemote localPayloads remotePayloads reading_response bundle_enabled remote found_codec
      else if matched.hasMime "flexfec" && !bundle_enabled then
        matchRemote localPayloads remotePayloads reading_response bundle_enabled remote (found_codec || counted)
      else
        matchedPayloads engine reading_response matched p2 ++
          matchRemote localPayloads remotePayloads reading_response bundle_enabled remote (found_codec || counted)

/-- The payload type that is added in case the other party goes on with the numbers of the offer. -/
def compatibilityPayload (p1 : PayloadType) : PayloadType :=
  (p1.clone.setFlag PAYLOAD_TYPE_FLAG_CAN_RECV).setFlag PAYLOAD_TYPE_FROZEN_NUMBER

def foundNumber (localPayloads remotePayloads : List PayloadType) : Bool :=
  localPayloads.any fun p1 => remotePayloads.any fun p2 => p2.number == p1.number

/-- The result is `none` when the first element of an empty list is read. -/
def matchPayloads (localPayloads remotePayloads : List PayloadType) (reading_response bundle_enabled : Bool) :
    Option (List PayloadType) :=
  let res := matchRemote createContext engine localPayloads remotePayloads reading_response bundle_enabled
    remotePayloads.zipIdx false
  if reading_response then
    if foundNumber localPayloads remotePayloads then some res
    else localPayloads.head?.map fun p1 => res ++ [compatibilityPayload p1]
  else
    some (res.filter (·.hasFlag PAYLOAD_TYPE_PRIORITY_BONUS) ++ res.filter (!·.hasFlag PAYLOAD_TYPE_PRIORITY_BONUS))

/-! ### The codecs that are kept -/

def matchedPairs (localPayloads remotePayloads : List PayloadType) (remote : List (PayloadType × ℕ)) :
    List (PayloadType × PayloadType) :=
  remote.filterMap fun p2 =>
    (findPayloadTypeBestMatch createContext localPayloads p2.1 p2.2 remotePayloads).map (·, p2.1)

def keepPairs (bundle_enabled : Bool) : List (PayloadType × PayloadType) → Bool → List (PayloadType × PayloadType)
  | [], _ => []
  | p :: pairs, found_codec =>
    let counted := engine.mUseOneMatchingCodec && !p.1.hasMime "telephone-event"
    if counted && found_codec then keepPairs bundle_enabled pairs found_codec
    else if p.1.hasMime "flexfec" && !bundle_enabled then keepPairs bundle_enabled pairs (found_codec || counted)
    else p :: keepPairs bundle_enabled pairs (found_codec || counted)

def keptPairs (localPayloads remotePayloads : List PayloadType) (bundle_enabled : Bool) :
    List (PayloadType × PayloadType) :=
  keepPairs engine bundle_enabled (matchedPairs createContext localPayloads remotePayloads remotePayloads.zipIdx) false

def pairPayloads (reading_response : Bool) (p : PayloadType × PayloadType) : List PayloadType :=
  matchedPayloads engine reading_response p.1 p.2

lemma matchRemote_eq (localPayloads remotePayloads : List PayloadType) (reading_response bundle_enabled : Bool)
    (remote : List (PayloadType × ℕ)) (found_codec : Bool) :
    matchRemote createContext engine localPayloads remotePayloads reading_response bundle_enabled remote found_codec =
      (keepPairs engine bundle_enabled (matchedPairs createContext localPayloads remotePayloads remote)
        found_codec).flatMap (pairPayloads engine reading_response) := by
  induction remote generalizing found_codec with
  | nil => rfl
  | cons p2 remote ih =>
    obtain ⟨p2, place⟩ := p2
    cases hmatch : findPayloadTypeBestMatch createContext localPayloads p2 place remotePayloads with
    | none => simp [matchRemote, matchedPairs, hmatch, ih]
    | some matched =>
      simp only [matchRemote, matchedPairs, filterMap_cons, hmatch, map_some, keepPairs]
      split_ifs
      · exact ih _
      · exact ih _
      · rw [flatMap_cons, ih]
        rfl

lemma matchRemote_zipIdx (localPayloads remotePayloads : List PayloadType) (reading_response bundle_enabled : Bool) :
    matchRemote createContext engine localPayloads remotePayloads reading_response bundle_enabled
        remotePayloads.zipIdx false =
      (keptPairs createContext engine localPayloads remotePayloads bundle_enabled).flatMap
        (pairPayloads engine reading_response) :=
  matchRemote_eq createContext engine localPayloads remotePayloads reading_response bundle_enabled _ false

variable {pairs : List (PayloadType × PayloadType)}

lemma mem_keepPairs {bundle_enabled found_codec : Bool} {p : PayloadType × PayloadType}
    (h : p ∈ keepPairs engine bundle_enabled pairs found_codec) : p ∈ pairs := by
  induction pairs generalizing found_codec with
  | nil => simp [keepPairs] at h
  | cons q pairs ih =>
    simp only [keepPairs] at h
    split_ifs at h
    · exact mem_cons_of_mem _ (ih h)
    · exact mem_cons_of_mem _ (ih h)
    · obtain rfl | h := mem_cons.1 h
      · exact mem_cons_self
      · exact mem_cons_of_mem _ (ih h)

/-- Once a codec is kept, only telephone events are. -/
lemma hasMime_of_mem_keepPairs {bundle_enabled : Bool} (hpolicy : engine.mUseOneMatchingCodec = true)
    {p : PayloadType × PayloadType} (h : p ∈ keepPairs engine bundle_enabled pairs true) :
    p.1.hasMime "telephone-event" = true := by
  induction pairs with
  | nil => simp [keepPairs] at h
  | cons q pairs ih =>
    simp only [keepPairs, hpolicy, Bool.true_and, Bool.and_true, Bool.true_or] at h
    split_ifs at h with hcodec
    · exact ih h
    · exact ih h
    · obtain rfl | h := mem_cons.1 h
      · simpa using hcodec
      · exact ih h

/-- With the policy of one codec, at most one is kept. -/
lemma pairwise_keepPairs {bundle_enabled found_codec : Bool} (hpolicy : engine.mUseOneMatchingCodec = true) :
    (keepPairs engine bundle_enabled pairs found_codec).Pairwise fun p q =>
      p.1.hasMime "telephone-event" = true ∨ q.1.hasMime "telephone-event" = true := by
  induction pairs generalizing found_codec with
  | nil => exact Pairwise.nil
  | cons p pairs ih =>
    simp only [keepPairs]
    split_ifs
    · exact ih
    · exact ih
    · refine pairwise_cons.2 ⟨fun q hq => ?_, ih⟩
      by_cases hcodec : p.1.hasMime "telephone-event" = true
      · exact .inl hcodec
      · rw [hpolicy, Bool.eq_false_of_not_eq_true hcodec, Bool.not_false, Bool.and_self, Bool.or_true] at hq
        exact .inr (hasMime_of_mem_keepPairs engine hpolicy hq)

/-! ### What is put in the result -/

section

variable {engine} {reading_response : Bool} {matched p2 pt : PayloadType}

/-- The local payload type with the send parameters of the remote one after its own. -/
def sentFmtp (p : PayloadType × PayloadType) : PayloadType :=
  match p.2.send_fmtp with
  | none => p.1
  | some fmtp => p.1.appendSendFmtp fmtp

def sentNumber (engine : OfferAnswerEngine) (reading_response : Bool) (p : PayloadType × PayloadType) : ℤ :=
  if !reading_response && engine.mAnswerWithOwnNumbering then p.1.number else p.2.number

/-- What is sent, part by part. -/
lemma sentPayload_eq : sentPayload engine reading_response matched p2 =
      { commonAvpf ((sentFmtp (matched, p2)).setFlag (PAYLOAD_TYPE_FLAG_CAN_RECV ||| PAYLOAD_TYPE_FLAG_CAN_SEND)) p2
          with number := sentNumber engine reading_response (matched, p2) }.setFlag PAYLOAD_TYPE_FROZEN_NUMBER := by
  unfold sentPayload OfferAnswerEngine.answeredPayload commonAvpf sentFmtp sentNumber
  rfl

lemma number_sentPayload :
    (sentPayload engine reading_response matched p2).number = sentNumber engine reading_response (matched, p2) := rfl

lemma mime_type_commonAvpf (pt p2 : PayloadType) : (commonAvpf pt p2).mime_type = pt.mime_type := by
  unfold commonAvpf
  split <;> rfl

lemma send_fmtp_commonAvpf (pt p2 : PayloadType) : (commonAvpf pt p2).send_fmtp = pt.send_fmtp := by
  unfold commonAvpf
  split <;> rfl

/-- Only the feedback flag may change. -/
lemma hasFlag_commonAvpf {flag : UInt32} (pt p2 : PayloadType) (hset : PAYLOAD_TYPE_RTCP_FEEDBACK_ENABLED &&& flag = 0)
    (hstay : ~~~PAYLOAD_TYPE_RTCP_FEEDBACK_ENABLED &&& flag = flag) :
    (commonAvpf pt p2).hasFlag flag = pt.hasFlag flag := by
  unfold commonAvpf
  split
  · exact (hasFlag_setFlag pt _ flag).trans (by simp [hset])
  · exact hasFlag_unsetFlag pt hstay

lemma mime_type_sentFmtp (p : PayloadType × PayloadType) : (sentFmtp p).mime_type = p.1.mime_type := by
  unfold sentFmtp appendSendFmtp
  split
  · rfl
  · split_ifs <;> rfl

lemma mime_type_sentPayload : (sentPayload engine reading_response matched p2).mime_type = matched.mime_type := by
  rw [sentPayload_eq]
  exact (mime_type_commonAvpf _ p2).trans (mime_type_sentFmtp (matched, p2))

lemma send_fmtp_sentPayload :
    (sentPayload engine reading_response matched p2).send_fmtp = (sentFmtp (matched, p2)).send_fmtp := by
  rw [sentPayload_eq]
  exact send_fmtp_commonAvpf _ p2

lemma hasFlag_sentPayload {flag : UInt32}
    (hset : (PAYLOAD_TYPE_FLAG_CAN_RECV ||| PAYLOAD_TYPE_FLAG_CAN_SEND) &&& flag ≠ 0)
    (hother : PAYLOAD_TYPE_RTCP_FEEDBACK_ENABLED &&& flag = 0)
    (hstay : ~~~PAYLOAD_TYPE_RTCP_FEEDBACK_ENABLED &&& flag = flag) :
    (sentPayload engine reading_response matched p2).hasFlag flag = true := by
  have hanswered : ((sentFmtp (matched, p2)).setFlag
      (PAYLOAD_TYPE_FLAG_CAN_RECV ||| PAYLOAD_TYPE_FLAG_CAN_SEND)).hasFlag flag = true := by
    rw [hasFlag_setFlag, bne_iff_ne.2 hset, Bool.or_true]
  rw [sentPayload_eq, hasFlag_setFlag, Bool.or_eq_true]
  exact .inl ((hasFlag_commonAvpf _ p2 hother hstay).trans hanswered)

@[simp] lemma canSend_sentPayload : (sentPayload engine reading_response matched p2).canSend = true :=
  hasFlag_sentPayload (by decide) (by decide) (by decide)

@[simp] lemma canRecv_sentPayload : (sentPayload engine reading_response matched p2).canRecv = true :=
  hasFlag_sentPayload (by decide) (by decide) (by decide)

@[simp] lemma canSend_receivedPayload (number : ℤ) : (receivedPayload pt number).canSend = false := by
  simp only [receivedPayload, canSend, hasFlag_setFlag, hasFlag_unsetFlag_self]
  decide

@[simp] lemma canRecv_receivedPayload (number : ℤ) : (receivedPayload pt number).canRecv = true := by
  have hstay : ~~~PAYLOAD_TYPE_FLAG_CAN_SEND &&& PAYLOAD_TYPE_FLAG_CAN_RECV = PAYLOAD_TYPE_FLAG_CAN_RECV := by decide
  have hset : (PAYLOAD_TYPE_FLAG_CAN_RECV &&& PAYLOAD_TYPE_FLAG_CAN_RECV != 0) = true := by decide
  rw [receivedPayload, canRecv, hasFlag_setFlag, hasFlag_unsetFlag _ hstay,
    hasFlag_setFlag, hset, Bool.or_true, Bool.true_or]

@[simp] lemma canSend_compatibilityPayload : (compatibilityPayload pt).canSend = pt.canSend := by
  simp only [compatibilityPayload, canSend, clone, hasFlag_setFlag]
  have hclear (flag : UInt32) (h : flag &&& PAYLOAD_TYPE_FLAG_CAN_SEND = 0) :
      (flag &&& PAYLOAD_TYPE_FLAG_CAN_SEND != 0) = false := by simp [h]
  rw [hclear _ (by decide), hclear _ (by decide), hclear _ (by decide)]
  simp

@[simp] lemma canRecv_compatibilityPayload : (compatibilityPayload pt).canRecv = true := by
  have hset : (PAYLOAD_TYPE_FLAG_CAN_RECV &&& PAYLOAD_TYPE_FLAG_CAN_RECV != 0) = true := by decide
  rw [compatibilityPayload, canRecv, hasFlag_setFlag, hasFlag_setFlag, hset, Bool.or_true, Bool.true_or]

lemma mime_type_compatibilityPayload (p1 : PayloadType) : (compatibilityPayload p1).mime_type = p1.mime_type := rfl

lemma number_compatibilityPayload (p1 : PayloadType) : (compatibilityPayload p1).number = p1.number := rfl

lemma mem_matchedPayloads {m p2 : PayloadType} :
    pt ∈ matchedPayloads engine reading_response m p2 ↔ pt = sentPayload engine reading_response m p2 ∨
        (reading_response = true ∧ p2.number ≠ m.number) ∧
          pt = receivedPayload (sentPayload engine reading_response m p2) m.number := by
  simp only [matchedPayloads, Bool.and_eq_true, bne_iff_ne]
  split_ifs with h
  · simp [h]
  · simp [h]

lemma mime_type_receivedPayload (number : ℤ) : (receivedPayload pt number).mime_type = pt.mime_type := rfl

lemma number_receivedPayload (number : ℤ) : (receivedPayload pt number).number = number := rfl

variable {p : PayloadType × PayloadType}

/-- What is put in the result for a pair is of the codec of the pair. -/
lemma mime_type_of_mem (h : pt ∈ pairPayloads engine reading_response p) : pt.mime_type = p.1.mime_type := by
  obtain rfl | ⟨-, rfl⟩ := mem_matchedPayloads.1 h
  · exact mime_type_sentPayload
  · exact (mime_type_receivedPayload _).trans mime_type_sentPayload

lemma canRecv_of_mem (h : pt ∈ pairPayloads engine reading_response p) : pt.canRecv = true := by
  obtain rfl | ⟨-, rfl⟩ := mem_matchedPayloads.1 h
  · exact canRecv_sentPayload
  · exact canRecv_receivedPayload _

lemma sentPayload_mem (p : PayloadType × PayloadType) :
    sentPayload engine reading_response p.1 p.2 ∈ pairPayloads engine reading_response p :=
  mem_matchedPayloads.2 (.inl rfl)

lemma eq_sentPayload_of_canSend (h : pt ∈ pairPayloads engine reading_response p) (hsend : pt.canSend = true) :
    pt = sentPayload engine reading_response p.1 p.2 := by
  obtain rfl | ⟨-, rfl⟩ := mem_matchedPayloads.1 h
  · rfl
  · rw [canSend_receivedPayload] at hsend
    exact absurd hsend Bool.false_ne_true

/-- For a pair of a response, both numbers are received. -/
lemma forall_number (engine : OfferAnswerEngine) (p : PayloadType × PayloadType) (P : ℤ → Prop) :
    (∀ pt ∈ pairPayloads engine true p, P pt.number) ↔ P p.2.number ∧ P p.1.number := by
  have hsent : (sentPayload engine true p.1 p.2).number = p.2.number := number_sentPayload
  constructor
  · intro h
    have hremote := h _ (sentPayload_mem p)
    rw [hsent] at hremote
    refine ⟨hremote, ?_⟩
    by_cases hsame : p.2.number = p.1.number
    · exact hsame ▸ hremote
    · have hlocal := h _ (mem_matchedPayloads.2 (.inr ⟨⟨rfl, hsame⟩, rfl⟩))
      rwa [number_receivedPayload] at hlocal
  · rintro ⟨hremote, hlocal⟩ pt hpt
    obtain rfl | ⟨-, rfl⟩ := mem_matchedPayloads.1 hpt
    · rwa [hsent]
    · rwa [number_receivedPayload]

end

/-! ### What the providers find -/

lemma codecName_eq_of_strcasecmp {s t : String} (h : strcasecmp s t = true) : codecName s = codecName t := by
  have hname : s.toList.map Char.toLower = t.toList.map Char.toLower := eq_of_beq h
  unfold codecName
  rw [hname]

structure Found (localPayloads : List PayloadType) (refpt matched : PayloadType) : Prop where
  offered : ∃ p1 ∈ localPayloads, p1.number = matched.number ∧ p1.mime_type = matched.mime_type
  codec : matched.sameCodec refpt = true
  allocated : matched.hasFlag PAYLOAD_TYPE_ALLOCATED = true

section

variable {localPayloads remotePayloads : List PayloadType} {refpt matched p1 : PayloadType} {place : ℕ}

lemma sameCodec_of_hasMime {mime mime' : String} (h : p1.hasMime mime = true) (href : refpt.hasMime mime' = true)
    (hname : codecName mime = codecName mime') : p1.sameCodec refpt = true := by
  obtain ⟨s, hs, hmime⟩ := (any_eq_true _ _).1 h
  obtain ⟨t, ht, hmime'⟩ := (any_eq_true _ _).1 href
  rw [sameCodec_iff, hs, ht, map_some, map_some, codecName_eq_of_strcasecmp hmime,
    codecName_eq_of_strcasecmp hmime', hname]

lemma hasFlag_clone (pt : PayloadType) : pt.clone.hasFlag PAYLOAD_TYPE_ALLOCATED = true := by
  have hset : (PAYLOAD_TYPE_ALLOCATED &&& PAYLOAD_TYPE_ALLOCATED != 0) = true := by decide
  rw [clone, hasFlag_setFlag, hset, Bool.or_true]

/-- A copy keeps the number and the mime type. -/
lemma found_clone (hmem : p1 ∈ localPayloads) (hcodec : p1.sameCodec refpt = true) :
    Found localPayloads refpt p1.clone where
  offered := ⟨p1, hmem, rfl, rfl⟩
  codec := hcodec
  allocated := hasFlag_clone p1

lemma found_of_mem_filter {mime : String} (href : refpt.hasMime mime = true)
    (hmem : p1 ∈ localPayloads.filter (·.hasMime mime)) : Found localPayloads refpt p1.clone := by
  obtain ⟨hlocal, hmime⟩ := mem_filter.1 hmem
  exact found_clone hlocal (sameCodec_of_hasMime hmime href rfl)

lemma found_genericMatch (h : OfferAnswerEngine.genericMatch localPayloads refpt = some matched) :
    Found localPayloads refpt matched := by
  obtain ⟨p1, hfind, rfl⟩ := map_eq_some_iff.1 h
  have hsame := find?_some hfind
  simp only [Bool.and_eq_true] at hsame
  obtain ⟨mime, hmime, hcase⟩ := (any_eq_true _ _).1 hsame.1.1
  have href : refpt.hasMime mime = true := by simp [hasMime, hmime, strcasecmp]
  exact found_clone (mem_of_find?_eq_some hfind) (sameCodec_of_hasMime hcase href rfl)

lemma found_opusMatch (href : refpt.hasMime "opus" = true)
    (h : opusMatch localPayloads refpt place remotePayloads = some matched) : Found localPayloads refpt matched := by
  unfold opusMatch at h
  dsimp only at h
  split_ifs at h
  · obtain ⟨legacy_opus, hlast, rfl⟩ := map_eq_some_iff.1 h
    have hlegacy := found_of_mem_filter href (mem_of_getLast? hlast)
    exact ⟨hlegacy.offered, hlegacy.codec, hlegacy.allocated⟩
  · obtain ⟨pt, hhead, rfl⟩ := map_eq_some_iff.1 h
    exact found_of_mem_filter href (mem_of_head? hhead)

lemma found_g729AMatch (href : refpt.hasMime "G729A" = true)
    (h : g729AMatch localPayloads refpt place remotePayloads = some matched) : Found localPayloads refpt matched := by
  obtain ⟨pt, hlast, rfl⟩ := map_eq_some_iff.1 h
  obtain ⟨hmem, hmime⟩ := mem_filter.1 (mem_of_getLast? hlast)
  exact found_clone hmem (sameCodec_of_hasMime (Bool.and_eq_true_iff.1 hmime).1 href (by decide))

lemma found_redMatch (href : refpt.hasMime "red" = true)
    (h : redMatch localPayloads refpt place remotePayloads = some matched) : Found localPayloads refpt matched := by
  obtain ⟨pt, hfind, rfl⟩ := map_eq_some_iff.1 h
  have hred : pt.hasMime "red" = true := by simpa using find?_some hfind
  have hclone : Found localPayloads refpt pt.clone :=
    found_clone (mem_of_find?_eq_some hfind) (sameCodec_of_hasMime hred href rfl)
  split
  · exact ⟨hclone.offered, hclone.codec, hclone.allocated⟩
  · exact hclone

lemma found_h264Match (href : refpt.hasMime "h264" = true)
    (h : h264Match localPayloads refpt place remotePayloads = some matched) : Found localPayloads refpt matched := by
  unfold h264Match at h
  dsimp only at h
  split at h
  · obtain ⟨pt, hhead, rfl⟩ := map_eq_some_iff.1 h
    exact found_of_mem_filter href (mem_of_head? hhead)
  · split_ifs at h
    split at h
    · next pt hfind =>
      obtain rfl := some.inj h
      exact found_of_mem_filter href (mem_of_find?_eq_some hfind)
    · obtain ⟨pt, hhead, rfl⟩ := map_eq_some_iff.1 h
      have hclone := found_of_mem_filter href (mem_of_head? hhead)
      unfold fixPacketizationMode
      split_ifs
      · exact ⟨hclone.offered, hclone.codec, hclone.allocated⟩
      · exact hclone

lemma found_findPayloadTypeBestMatch
    (h : findPayloadTypeBestMatch createOfferAnswerContext localPayloads refpt place remotePayloads = some matched) :
    Found localPayloads refpt matched := by
  unfold findPayloadTypeBestMatch at h
  split at h
  · next match_payload hcontext =>
    obtain ⟨mime, hmime, hcontext⟩ := bind_eq_some_iff.1 hcontext
    obtain ⟨prov, hfind, rfl⟩ := map_eq_some_iff.1 hcontext
    have href : refpt.hasMime prov.1 = true := by
      simpa [hasMime, hmime] using find?_some hfind
    have hprov := mem_of_find?_eq_some hfind
    simp only [offerAnswerProviders, mem_cons, not_mem_nil, or_false] at hprov
    obtain rfl | rfl | rfl | rfl := hprov
    · exact @found_opusMatch _ remotePayloads _ _ place href h
    · exact @found_g729AMatch _ remotePayloads _ _ place href h
    · exact @found_redMatch _ remotePayloads _ _ place href h
    · exact @found_h264Match _ remotePayloads _ _ place href h
  · exact found_genericMatch h

end

/-! ### Exact matching -/

/-- The numbers of two payload types that are sent. -/
def SentApart (pt pt' : PayloadType) : Prop := pt.canSend = true → pt'.canSend = true → pt.number ≠ pt'.number

/-- The numbers of two payload types of different codecs that are received. -/
def ReceivedApart (pt pt' : PayloadType) : Prop :=
  pt.canRecv = true → pt'.canRecv = true → pt.sameCodec pt' = false → pt.number ≠ pt'.number

/-- The payload types of a result go with the two lists. The pairs are those whose codec is kept. -/
structure MatchedExactly (localPayloads remotePayloads : List PayloadType) (kept : List (PayloadType × PayloadType))
    (reading_response : Bool) (res : List PayloadType) : Prop where
  sent_of_remote : ∀ pt ∈ res, pt.canSend = true →
    ∃ p2 ∈ remotePayloads, pt.sameCodec p2 = true ∧ pt.number = p2.number ∧ pt.carriesSendFmtp p2 = true
  sent_numbers : res.Pairwise SentApart
  received_numbers : res.Pairwise ReceivedApart
  kept_received : reading_response = true → ∀ p ∈ kept,
    ∃ p1 ∈ localPayloads, p1.sameCodec p.2 = true ∧ p1.number = p.1.number ∧
      ∃ pt ∈ res, pt.canRecv = true ∧ pt.sameCodec p1 = true ∧ pt.number = p1.number
  one_codec : engine.mUseOneMatchingCodec = true →
    res.Pairwise fun pt pt' => ¬(pt.sendsCodec = true ∧ pt'.sendsCodec = true)

/-- The numbers under which the codecs of two pairs of a response are received, if these are different. -/
def PairsApart (p q : PayloadType × PayloadType) : Prop :=
  p.1.sameCodec q.1 = false → p.1.number ≠ q.1.number ∧ p.1.number ≠ q.2.number ∧ p.2.number ≠ q.1.number

/-- A payload type that is offered is not marked as sent, and no pair of another codec has its number. -/
def OfferApart (kept : List (PayloadType × PayloadType)) (p1 : PayloadType) : Prop :=
  p1.canSend = false ∧ ∀ p ∈ kept, p.1.sameCodec p1 = false → p.1.number ≠ p1.number

/-- The numbers of the codecs that are kept do not run into each other. -/
structure NumbersApart (localPayloads remotePayloads : List PayloadType) (kept : List (PayloadType × PayloadType))
    (reading_response : Bool) : Prop where
  offered : reading_response = true → localPayloads ≠ []
  sent : kept.Pairwise fun p q => sentNumber engine reading_response p ≠ sentNumber engine reading_response q
  own : reading_response = false → engine.mAnswerWithOwnNumbering = true → ∀ p ∈ kept,
    ∃ p2 ∈ remotePayloads, p.1.sameCodec p2 = true ∧ p.1.number = p2.number ∧ (sentFmtp p).carriesSendFmtp p2 = true
  received : reading_response = true → kept.Pairwise PairsApart
  compatibility : reading_response = true → foundNumber localPayloads remotePayloads = false →
    ∀ p1 ∈ localPayloads.head?, OfferApart kept p1

/-- What is known of the pairs that are kept. -/
structure Kept (localPayloads remotePayloads : List PayloadType) (kept : List (PayloadType × PayloadType)) : Prop where
  remote : ∀ p ∈ kept, p.2 ∈ remotePayloads
  found : ∀ p ∈ kept, Found localPayloads p.2 p.1
  one_codec : engine.mUseOneMatchingCodec = true → kept.Pairwise fun p q =>
    p.1.hasMime "telephone-event" = true ∨ q.1.hasMime "telephone-event" = true

lemma kept_keptPairs (localPayloads remotePayloads : List PayloadType) (bundle_enabled : Bool) :
    Kept engine localPayloads remotePayloads
      (keptPairs createOfferAnswerContext engine localPayloads remotePayloads bundle_enabled) := by
  have hmatched {p : PayloadType × PayloadType}
      (h : p ∈ keptPairs createOfferAnswerContext engine localPayloads remotePayloads bundle_enabled) :
      p.2 ∈ remotePayloads ∧ ∃ place,
        findPayloadTypeBestMatch createOfferAnswerContext localPayloads p.2 place remotePayloads = some p.1 := by
    obtain ⟨p2, hmem, hmatch⟩ := mem_filterMap.1 (mem_keepPairs engine h)
    obtain ⟨matched, hfound, rfl⟩ := map_eq_some_iff.1 hmatch
    exact ⟨(mem_zipIdx' hmem).2 ▸ getElem_mem _, p2.2, hfound⟩
  refine ⟨fun p hp => (hmatched hp).1, fun p hp => ?_, pairwise_keepPairs engine⟩
  obtain ⟨-, place, hfound⟩ := hmatched hp
  exact found_findPayloadTypeBestMatch hfound

section

variable {engine} {localPayloads remotePayloads : List PayloadType} {kept : List (PayloadType × PayloadType)}
  {reading_response : Bool} {pt pt' p1 : PayloadType} {p : PayloadType × PayloadType}

lemma sameCodec_congr {qt qt' : PayloadType} (h : pt.mime_type = qt.mime_type) (h' : pt'.mime_type = qt'.mime_type) :
    pt.sameCodec pt' = qt.sameCodec qt' := by
  rw [sameCodec, sameCodec, h, h']

/-- The remote send parameters are put at the end. -/
lemma carriesSendFmtp_sentFmtp (h : p.1.hasFlag PAYLOAD_TYPE_ALLOCATED = true) :
    (sentFmtp p).carriesSendFmtp p.2 = true := by
  unfold sentFmtp carriesSendFmtp
  cases hfmtp : p.2.send_fmtp with
  | none => rfl
  | some fmtp =>
    simp only [appendSendFmtp, if_pos h, all_some, any_some, Bool.or_eq_true, beq_iff_eq]
    cases p.1.send_fmtp with
    | none => exact .inl rfl
    | some own =>
      refine .inr (isSuffixOf_iff_suffix.2 ⟨own.toList, ?_⟩)
      simp [String.toList_append]

lemma carriesSendFmtp_congr {p2 : PayloadType} (h : pt.send_fmtp = pt'.send_fmtp) :
    pt.carriesSendFmtp p2 = pt'.carriesSendFmtp p2 := by
  rw [carriesSendFmtp, carriesSendFmtp, h]

lemma ne_of_foundNumber {p2 : PayloadType} (h : foundNumber localPayloads remotePayloads = false)
    (h₁ : p1 ∈ localPayloads) (h₂ : p2 ∈ remotePayloads) : p2.number ≠ p1.number := by
  simp only [foundNumber, List.any_eq_false, List.any_eq_true, beq_iff_eq, not_exists, not_and] at h
  exact h p1 h₁ p2 h₂

/-! #### The payload types of the pairs -/

/-- What is sent for the pairs comes from the remote list, unless the numbers are the local ones. -/
lemma sent_of_remote_iff (hkept : Kept engine localPayloads remotePayloads kept) :
    (∀ pt ∈ kept.flatMap (pairPayloads engine reading_response), pt.canSend = true →
      ∃ p2 ∈ remotePayloads, pt.sameCodec p2 = true ∧ pt.number = p2.number ∧ pt.carriesSendFmtp p2 = true) ↔
    (reading_response = false → engine.mAnswerWithOwnNumbering = true → ∀ p ∈ kept,
      ∃ p2 ∈ remotePayloads, p.1.sameCodec p2 = true ∧ p.1.number = p2.number ∧
        (sentFmtp p).carriesSendFmtp p2 = true) := by
  have hsent (p : PayloadType × PayloadType) (p2 : PayloadType) :
      ((sentPayload engine reading_response p.1 p.2).sameCodec p2 = true ∧
          (sentPayload engine reading_response p.1 p.2).number = p2.number ∧
            (sentPayload engine reading_response p.1 p.2).carriesSendFmtp p2 = true) ↔
        (p.1.sameCodec p2 = true ∧ sentNumber engine reading_response p = p2.number ∧
          (sentFmtp p).carriesSendFmtp p2 = true) := by
    rw [sameCodec_congr mime_type_sentPayload rfl, number_sentPayload, carriesSendFmtp_congr send_fmtp_sentPayload]
  simp only [mem_flatMap, forall_exists_index, and_imp]
  constructor
  · intro h hreading hown p hp
    obtain ⟨p2, hmem, hp2⟩ := h _ p hp (sentPayload_mem p) canSend_sentPayload
    rw [hsent] at hp2
    refine ⟨p2, hmem, hp2.1, ?_, hp2.2.2⟩
    simpa [sentNumber, hreading, hown] using hp2.2.1
  · intro h pt p hp hpt hsend
    rw [eq_sentPayload_of_canSend hpt hsend]
    simp only [hsent]
    by_cases hown : reading_response = false ∧ engine.mAnswerWithOwnNumbering = true
    · obtain ⟨p2, hmem, hcodec, hnumber, hfmtp⟩ := h hown.1 hown.2 p hp
      exact ⟨p2, hmem, hcodec, by simpa [sentNumber, hown.1, hown.2] using hnumber, hfmtp⟩
    · have hfound := hkept.found p hp
      refine ⟨p.2, hkept.remote p hp, hfound.codec, ?_, carriesSendFmtp_sentFmtp hfound.allocated⟩
      rw [sentNumber, if_neg (by simpa using hown)]

/-- Two pairs send different numbers. -/
lemma sent_numbers_iff : (kept.flatMap (pairPayloads engine reading_response)).Pairwise SentApart ↔
      kept.Pairwise fun p q => sentNumber engine reading_response p ≠ sentNumber engine reading_response q := by
  have hpair (p : PayloadType × PayloadType) : (pairPayloads engine reading_response p).Pairwise SentApart := by
    unfold pairPayloads matchedPayloads
    dsimp only
    split_ifs <;> simp [SentApart]
  have hpairs (p q : PayloadType × PayloadType) :
      (∀ pt ∈ pairPayloads engine reading_response p, ∀ pt' ∈ pairPayloads engine reading_response q,
        SentApart pt pt') ↔ sentNumber engine reading_response p ≠ sentNumber engine reading_response q := by
    constructor
    · intro h
      exact h _ (sentPayload_mem p) _ (sentPayload_mem q) canSend_sentPayload canSend_sentPayload
    · intro h pt hpt pt' hpt' hsend hsend'
      rw [eq_sentPayload_of_canSend hpt hsend, eq_sentPayload_of_canSend hpt' hsend']
      exact h
  simp only [pairwise_flatMap, hpairs, hpair, implies_true, true_and]

/-- Two pairs of different codecs receive different numbers. -/
lemma received_numbers_iff : (kept.flatMap (pairPayloads engine true)).Pairwise ReceivedApart ↔
      kept.Pairwise fun p q => PairsApart p q ∧ (p.1.sameCodec q.1 = false → p.2.number ≠ q.2.number) := by
  have hpair (p : PayloadType × PayloadType) : (pairPayloads engine true p).Pairwise ReceivedApart := by
    refine Pairwise.imp_of_mem (fun {pt pt'} hpt hpt' _ _ _ hcodec => ?_)
      (pairwise_of_forall fun _ _ => trivial)
    rw [sameCodec_congr (mime_type_of_mem hpt) (mime_type_of_mem hpt')] at hcodec
    simp [sameCodec] at hcodec
  have hpairs (p q : PayloadType × PayloadType) :
      (∀ pt ∈ pairPayloads engine true p, ∀ pt' ∈ pairPayloads engine true q, ReceivedApart pt pt') ↔
        PairsApart p q ∧ (p.1.sameCodec q.1 = false → p.2.number ≠ q.2.number) := by
    constructor
    · intro h
      have hnumbers (hcodec : p.1.sameCodec q.1 = false) :
          (p.2.number ≠ q.2.number ∧ p.2.number ≠ q.1.number) ∧ p.1.number ≠ q.2.number ∧ p.1.number ≠ q.1.number := by
        refine (forall_number engine p fun number => number ≠ q.2.number ∧ number ≠ q.1.number).1 fun pt hpt => ?_
        refine (forall_number engine q (pt.number ≠ ·)).1 fun pt' hpt' => ?_
        refine h pt hpt pt' hpt' (canRecv_of_mem hpt) (canRecv_of_mem hpt') ?_
        rwa [sameCodec_congr (mime_type_of_mem hpt) (mime_type_of_mem hpt')]
      exact ⟨fun hcodec => ⟨(hnumbers hcodec).2.2, (hnumbers hcodec).2.1, (hnumbers hcodec).1.2⟩,
        fun hcodec => (hnumbers hcodec).1.1⟩
    · rintro ⟨h, hremote⟩ pt hpt pt' hpt' _ _ hcodec
      rw [sameCodec_congr (mime_type_of_mem hpt) (mime_type_of_mem hpt')] at hcodec
      obtain ⟨hlocal, hlocal_remote, hremote_local⟩ := h hcodec
      have hnumber := (forall_number engine p fun number => number ≠ q.2.number ∧ number ≠ q.1.number).2
        ⟨⟨hremote hcodec, hremote_local⟩, hlocal_remote, hlocal⟩ pt hpt
      exact (forall_number engine q (pt.number ≠ ·)).2 hnumber pt' hpt'
  simp only [pairwise_flatMap, hpairs, hpair, implies_true, true_and]

/-- With the policy of one codec, one codec is sent. -/
lemma one_codec (hkept : Kept engine localPayloads remotePayloads kept) (hpolicy : engine.mUseOneMatchingCodec = true) :
    (kept.flatMap (pairPayloads engine reading_response)).Pairwise
      fun pt pt' => ¬(pt.sendsCodec = true ∧ pt'.sendsCodec = true) := by
  have hmime {p : PayloadType × PayloadType} {pt : PayloadType} (hpt : pt ∈ pairPayloads engine reading_response p)
      (h : p.1.hasMime "telephone-event" = true) : pt.sendsCodec = false := by
    have hevent : pt.hasMime "telephone-event" = true := by
      rwa [hasMime, mime_type_of_mem hpt]
    rw [sendsCodec, hevent, Bool.not_true, Bool.and_false]
  refine pairwise_flatMap.2 ⟨fun p _ => ?_, (hkept.one_codec hpolicy).imp fun hevent pt hpt pt' hpt' => ?_⟩
  · unfold pairPayloads matchedPayloads
    dsimp only
    split_ifs <;> simp [sendsCodec]
  · rintro ⟨hsend, hsend'⟩
    obtain hevent | hevent := hevent
    · exact Bool.false_ne_true ((hmime hpt hevent).symm.trans hsend)
    · exact Bool.false_ne_true ((hmime hpt' hevent).symm.trans hsend')

/-- The codec of a pair of a response is received under its local number. -/
lemma exists_received (engine : OfferAnswerEngine) (p : PayloadType × PayloadType) :
    ∃ pt ∈ pairPayloads engine true p, pt.number = p.1.number := by
  by_cases hsame : p.2.number = p.1.number
  · exact ⟨_, sentPayload_mem p, hsame⟩
  · exact ⟨_, mem_matchedPayloads.2 (.inr ⟨⟨rfl, hsame⟩, rfl⟩), rfl⟩

/-- What is added keeps off the numbers that the pairs of other codecs receive. -/
lemma received_compatibility_iff (hkept : Kept engine localPayloads remotePayloads kept) (hmem : p1 ∈ localPayloads)
    (h : foundNumber localPayloads remotePayloads = false) :
    (∀ pt ∈ kept.flatMap (pairPayloads engine true), ReceivedApart pt (compatibilityPayload p1)) ↔
      ∀ p ∈ kept, p.1.sameCodec p1 = false → p.1.number ≠ p1.number := by
  have hcodec {p : PayloadType × PayloadType} {pt : PayloadType} (hpt : pt ∈ pairPayloads engine true p) :
      pt.sameCodec (compatibilityPayload p1) = p.1.sameCodec p1 :=
    sameCodec_congr (mime_type_of_mem hpt) (mime_type_compatibilityPayload p1)
  simp only [ReceivedApart, number_compatibilityPayload]
  constructor
  · intro hne p hp hdifferent
    obtain ⟨pt, hpt, hnumber⟩ := exists_received engine p
    rw [← hnumber]
    exact hne pt (mem_flatMap.2 ⟨p, hp, hpt⟩) (canRecv_of_mem hpt) canRecv_compatibilityPayload
      ((hcodec hpt).trans hdifferent)
  · intro hne pt hpt _ _ hdifferent
    obtain ⟨p, hp, hpt⟩ := mem_flatMap.1 hpt
    have hremote := ne_of_foundNumber h hmem (hkept.remote p hp)
    have hlocal := hne p hp ((hcodec hpt).symm.trans hdifferent)
    exact (forall_number engine p (· ≠ p1.number)).2 ⟨hremote, hlocal⟩ pt hpt

/-! #### The results -/

/-- The order of the result does not matter. -/
lemma MatchedExactly.perm {res res' : List PayloadType} (hperm : res.Perm res')
    (h : MatchedExactly engine localPayloads remotePayloads kept reading_response res) :
    MatchedExactly engine localPayloads remotePayloads kept reading_response res' where
  sent_of_remote pt hpt := h.sent_of_remote pt (hperm.mem_iff.2 hpt)
  sent_numbers := h.sent_numbers.perm hperm fun hne hsend hsend' => (hne hsend' hsend).symm
  received_numbers := h.received_numbers.perm hperm fun {pt pt'} hne hrecv hrecv' hcodec => by
    refine (hne hrecv' hrecv ?_).symm
    rwa [sameCodec, Bool.beq_comm]
  kept_received hreading p hp := by
    obtain ⟨p1, hmem, hcodec, hnumber, pt, hpt, hreceived⟩ := h.kept_received hreading p hp
    exact ⟨p1, hmem, hcodec, hnumber, pt, hperm.mem_iff.1 hpt, hreceived⟩
  one_codec hpolicy := (h.one_codec hpolicy).perm hperm fun hboth hsend => hboth hsend.symm

/-- An answer that is made: every payload type is sent. -/
lemma matchedExactly_answer_iff (hkept : Kept engine localPayloads remotePayloads kept) :
    MatchedExactly engine localPayloads remotePayloads kept false (kept.flatMap (pairPayloads engine false)) ↔
      NumbersApart engine localPayloads remotePayloads kept false := by
  have hreading {P : Prop} : false = true → P := fun h => absurd h Bool.false_ne_true
  constructor
  · intro h
    exact ⟨hreading, sent_numbers_iff.1 h.sent_numbers, (sent_of_remote_iff hkept).1 h.sent_of_remote, hreading,
      hreading⟩
  · intro h
    have hsent {pt : PayloadType} (hpt : pt ∈ kept.flatMap (pairPayloads engine false)) : pt.canSend = true := by
      obtain ⟨p, -, hpt⟩ := mem_flatMap.1 hpt
      obtain rfl | ⟨⟨h, -⟩, -⟩ := mem_matchedPayloads.1 hpt
      · exact canSend_sentPayload
      · exact hreading h
    exact {
      sent_of_remote := (sent_of_remote_iff hkept).2 h.own
      sent_numbers := sent_numbers_iff.2 h.sent
      received_numbers := (sent_numbers_iff.2 h.sent).imp_of_mem fun hpt hpt' hne _ _ _ => hne (hsent hpt) (hsent hpt')
      kept_received := hreading
      one_codec := one_codec hkept }

/-- A response that is read, with the payload type that is added to the pairs, if any. -/
lemma matchedExactly_response_iff (hkept : Kept engine localPayloads remotePayloads kept) {extra : Option PayloadType}
    (hextra : ∀ p1 ∈ extra, p1 ∈ localPayloads ∧ foundNumber localPayloads remotePayloads = false) :
    MatchedExactly engine localPayloads remotePayloads kept true
        (kept.flatMap (pairPayloads engine true) ++ (extra.map compatibilityPayload).toList) ↔
      (kept.Pairwise fun p q => sentNumber engine true p ≠ sentNumber engine true q) ∧ kept.Pairwise PairsApart ∧
        ∀ p1 ∈ extra, OfferApart kept p1 := by
  have hmem (c : PayloadType) : c ∈ (extra.map compatibilityPayload).toList ↔
      ∃ p1 ∈ extra, compatibilityPayload p1 = c := by
    simp only [mem_toList, mem_def, map_eq_some_iff]
  have hpairwise (R : PayloadType → PayloadType → Prop) : (extra.map compatibilityPayload).toList.Pairwise R := by
    cases extra <;> simp
  constructor
  · intro h
    refine ⟨sent_numbers_iff.1 (pairwise_append.1 h.sent_numbers).1, ?_, fun p1 hp1 => ⟨?_, ?_⟩⟩
    · exact (received_numbers_iff.1 (pairwise_append.1 h.received_numbers).1).imp And.left
    · by_contra hsend
      obtain ⟨p2, hp2, -, hnumber, -⟩ := h.sent_of_remote (compatibilityPayload p1)
        (mem_append.2 (.inr ((hmem _).2 ⟨p1, hp1, rfl⟩)))
        (canSend_compatibilityPayload.trans (Bool.eq_true_of_not_eq_false hsend))
      rw [number_compatibilityPayload] at hnumber
      exact ne_of_foundNumber (hextra p1 hp1).2 (hextra p1 hp1).1 hp2 hnumber.symm
    · refine (received_compatibility_iff hkept (hextra p1 hp1).1 (hextra p1 hp1).2).1 fun pt hpt => ?_
      exact (pairwise_append.1 h.received_numbers).2.2 pt hpt _ ((hmem _).2 ⟨p1, hp1, rfl⟩)
  · rintro ⟨hsent, hreceived, hcompat⟩
    have hadded {c : PayloadType} (hc : c ∈ (extra.map compatibilityPayload).toList) : c.canSend = false := by
      obtain ⟨p1, hp1, rfl⟩ := (hmem c).1 hc
      exact canSend_compatibilityPayload.trans (hcompat p1 hp1).1
    exact {
      sent_of_remote := fun pt hpt hsend => by
        obtain hpt | hpt := mem_append.1 hpt
        · exact (sent_of_remote_iff hkept).2 (fun h => absurd h.symm Bool.false_ne_true) pt hpt hsend
        · exact absurd ((hadded hpt).symm.trans hsend) Bool.false_ne_true
      sent_numbers := by
        refine pairwise_append.2 ⟨sent_numbers_iff.2 hsent, hpairwise _, fun pt _ c hc _ hsend => ?_⟩
        exact absurd ((hadded hc).symm.trans hsend) Bool.false_ne_true
      received_numbers := by
        refine pairwise_append.2 ⟨received_numbers_iff.2 ?_, hpairwise _, fun pt hpt c hc => ?_⟩
        · exact (hsent.and hreceived).imp fun hne => ⟨hne.2, fun _ => hne.1⟩
        · obtain ⟨p1, hp1, rfl⟩ := (hmem c).1 hc
          exact (received_compatibility_iff hkept (hextra p1 hp1).1 (hextra p1 hp1).2).2 (hcompat p1 hp1).2 pt hpt
      kept_received := fun _ p hp => by
        obtain ⟨p1, hp1, hnumber, hmime⟩ := (hkept.found p hp).offered
        obtain ⟨pt, hpt, hreceived⟩ := exists_received engine p
        refine ⟨p1, hp1, (sameCodec_congr hmime rfl).trans (hkept.found p hp).codec, hnumber, pt,
          mem_append_left _ (mem_flatMap.2 ⟨p, hp, hpt⟩), canRecv_of_mem hpt, ?_,
          hreceived.trans hnumber.symm⟩
        rw [sameCodec_congr (mime_type_of_mem hpt) hmime]
        simp [sameCodec]
      one_codec := fun hpolicy => by
        refine pairwise_append.2 ⟨one_codec hkept hpolicy, hpairwise _, fun pt _ c hc hboth => ?_⟩
        rw [sendsCodec, sendsCodec, hadded hc] at hboth
        exact absurd hboth.2 Bool.false_ne_true }

/-- What is asked for when a response is read. -/
lemma numbersApart_response_iff : NumbersApart engine localPayloads remotePayloads kept true ↔ localPayloads ≠ [] ∧
        (kept.Pairwise fun p q => sentNumber engine true p ≠ sentNumber engine true q) ∧ kept.Pairwise PairsApart ∧
        (foundNumber localPayloads remotePayloads = false → ∀ p1 ∈ localPayloads.head?, OfferApart kept p1) := by
  constructor
  · intro h
    exact ⟨h.offered rfl, h.sent, h.received rfl, h.compatibility rfl⟩
  · rintro ⟨hoffered, hsent, hreceived, hcompat⟩
    exact ⟨fun _ => hoffered, hsent, fun hreading => absurd hreading.symm Bool.false_ne_true, fun _ => hreceived,
      fun _ => hcompat⟩

end

/-- The matching is exact when the numbers of the codecs that are kept stay apart, and, for a response, something was
offered. -/
theorem matchedExactly_iff (engine : OfferAnswerEngine) (localPayloads remotePayloads : List PayloadType)
    (reading_response bundle_enabled : Bool) :
    (∃ res, matchPayloads createOfferAnswerContext engine localPayloads remotePayloads reading_response bundle_enabled =
          some res ∧ MatchedExactly engine localPayloads remotePayloads
          (keptPairs createOfferAnswerContext engine localPayloads remotePayloads bundle_enabled) reading_response
          res) ↔ NumbersApart engine localPayloads remotePayloads
        (keptPairs createOfferAnswerContext engine localPayloads remotePayloads bundle_enabled) reading_response := by
  simp only [matchPayloads, matchRemote_zipIdx]
  have hkept := kept_keptPairs engine localPayloads remotePayloads bundle_enabled
  generalize keptPairs createOfferAnswerContext engine localPayloads remotePayloads bundle_enabled = kept at hkept
  cases reading_response with
  | false =>
    simp only [Bool.false_eq_true, if_false, some.injEq, exists_eq_left']
    have hperm := filter_append_perm (·.hasFlag PAYLOAD_TYPE_PRIORITY_BONUS)
      (kept.flatMap (pairPayloads engine false))
    exact ⟨fun h => (matchedExactly_answer_iff hkept).1 (h.perm hperm),
      fun h => ((matchedExactly_answer_iff hkept).2 h).perm hperm.symm⟩
  | true =>
    simp only [if_true]
    rw [numbersApart_response_iff]
    cases hfound : foundNumber localPayloads remotePayloads with
    | true =>
      have hiff := matchedExactly_response_iff hkept fun p1 hp1 => absurd hp1 (not_mem_none p1)
      rw [map_none, toList_none, append_nil] at hiff
      have hoffered : localPayloads ≠ [] := by
        rintro rfl
        simp [foundNumber] at hfound
      simp only [if_true, some.injEq, exists_eq_left']
      constructor
      · intro h
        exact ⟨hoffered, (hiff.1 h).1, (hiff.1 h).2.1, fun hmissing => absurd hmissing.symm Bool.false_ne_true⟩
      · rintro ⟨-, hsent, hreceived, -⟩
        exact hiff.2 ⟨hsent, hreceived, fun p1 hp1 => absurd hp1 (not_mem_none p1)⟩
    | false =>
      cases localPayloads with
      | nil => simp
      | cons p1 localPayloads =>
        have hiff := @matchedExactly_response_iff engine _ _ _ hkept (some p1) fun p1' hp1 =>
          ⟨mem_some.1 hp1 ▸ mem_cons_self, hfound⟩
        rw [map_some, toList_some] at hiff
        simp only [Bool.false_eq_true, if_false, head?_cons, map_some, some.injEq, exists_eq_left']
        rw [hiff]
        constructor
        · rintro ⟨hsent, hreceived, hcompat⟩
          exact ⟨cons_ne_nil _ _, hsent, hreceived, fun _ => hcompat⟩
        · rintro ⟨-, hsent, hreceived, hcompat⟩
          exact ⟨hsent, hreceived, hcompat trivial⟩

/-- A response to a stream that was offered without payload types. -/
theorem not_matched_without_offer :
    ¬∃ res, matchPayloads createOfferAnswerContext { mMsFactory := fun _ => none, isMulticast := fun _ => false } []
          [{ mime_type := some "PCMU", clock_rate := 8000, channels := 1, number := 0 }] true false = some res ∧
        MatchedExactly { mMsFactory := fun _ => none, isMulticast := fun _ => false } []
          [{ mime_type := some "PCMU", clock_rate := 8000, channels := 1, number := 0 }]
          (keptPairs createOfferAnswerContext { mMsFactory := fun _ => none, isMulticast := fun _ => false } []
            [{ mime_type := some "PCMU", clock_rate := 8000, channels := 1, number := 0 }] false) true res := by
  rintro ⟨res, hres, -⟩
  simp [matchPayloads, foundNumber] at hres

end PayloadMatching

end Sal
