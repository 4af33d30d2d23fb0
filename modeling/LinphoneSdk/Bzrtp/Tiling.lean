import LinphoneSdk.Bzrtp.Building
import LinphoneSdk.Bzrtp.ParserBounds
import LinphoneSdk.Bzrtp.Reassembly

/-!
# The fragments tile the message

The header of a fragment gives its place in the message in 32-bit words, while the fragmentation loop
advances in bytes. Every message that the builder makes is a whole number of words; this module says
for which MTU its fragments are too.
-/

namespace Bzrtp

open Bytes Chunks Reading List

/-! ### Messages made of words -/

/-- What follows the header of a PingACK message. -/
def pingACKContent (version : Buf 4) (endpointHash endpointHashReceived : Buf 8) (SSRC : UInt32) : Bytes :=
  version.toList ++ (endpointHash.toList ++ (endpointHashReceived.toList ++ be32 SSRC))

/-- The messages of the builder: a type and what follows the header. -/
inductive Built (P : CipherPrimitives) (outside : ℕ → UInt8) : MessageType → Bytes → Prop
  | message (ch : ParserContext) (selfH : HashChain) (t : MessageType) (data : MessageData)
      (content : Bytes) (h : messageContent P outside ch selfH t data = .ok content) :
      Built P outside t content
  | pingACK (version : Buf 4) (endpointHash endpointHashReceived : Buf 8) (SSRC : UInt32) :
      Built P outside .pingACK (pingACKContent version endpointHash endpointHashReceived SSRC)

lemma dvd_toNat_padToWord (length : UInt16) : 4 ∣ (padToWord length).toNat := by
  have h4 : (4 : UInt16).toNat = 4 := rfl
  have hmod : (length % 4).toNat = length.toNat % 4 := by
    rw [UInt16.toNat_mod, h4]
  have hmax := length.toNat_lt
  rw [padToWord]
  split_ifs with h
  · have hle : length % 4 ≤ 4 := by
      rw [UInt16.le_iff_toNat_le, hmod, h4]
      omega
    rw [UInt16.toNat_add, UInt16.toNat_sub_of_le _ _ hle, hmod, h4]
    omega
  · rw [not_not] at h
    rw [h] at hmod
    have h0 : (0 : UInt16).toNat = 0 := rfl
    omega

/-- Public values are made of words. -/
lemma dvd_toNat_publicValueLength (P : Primitives) (algo : UInt8) (t : MessageType) :
    4 ∣ (computeKeyAgreementPublicValueLength P algo t).toNat := by
  unfold computeKeyAgreementPublicValueLength
  split_ifs
  · decide
  · decide
  · decide
  · decide
  · decide
  · decide
  · decide
  · split
    · exact dvd_toNat_padToWord _
    · exact dvd_toNat_padToWord _
    · decide
    · decide

lemma length_typeBlocks (algoTypes : Bytes) : (typeBlocks algoTypes).length = 4 * algoTypes.length := by
  induction algoTypes with
  | nil => rfl
  | cons a algoTypes ih =>
    rw [typeBlocks] at ih
    rw [typeBlocks, map_cons, flatten_cons, length_append, ih, length_cryptoAlgoTypeIntToString, length_cons]
    omega

lemma dvd_length_helloBody (m : HelloMessage) : 4 ∣ (helloBody m).length := by
  simp only [helloBody, length_append, Vector.toList_length, length_typeBlocks, length_cons, length_nil]
  omega

lemma dvd_length_confirmPlainText (outside : ℕ → UInt8) (m : ConfirmMessage) :
    4 ∣ (confirmPlainText outside m).length := by
  rw [confirmPlainText]
  split_ifs <;>
  · simp only [length_append, Vector.toList_length, length_be32, length_cons, length_nil, Block.length_read]
    omega

section contents

variable (P : CipherPrimitives) (outside : ℕ → UInt8)

lemma dvd_length_commitBody (m : CommitMessage) : 4 ∣ (commitBody P outside m).length := by
  have hvariable : 4 ∣ (commitVariable P outside m).length := by
    have hpv := dvd_toNat_publicValueLength P.toPrimitives m.keyAgreementAlgo .commit
    rw [commitVariable]
    split_ifs <;>
    · simp only [length_append, Vector.toList_length, length_nil, Block.length_read]
      omega
  simp only [commitBody, length_append, Vector.toList_length, length_cryptoAlgoTypeIntToString]
  omega

lemma dvd_length_dhPartBody {pvLength : UInt16} (h : 4 ∣ pvLength.toNat) (m : DHPartMessage) :
    4 ∣ (dhPartBody outside pvLength m).length := by
  simp only [dhPartBody, length_append, Vector.toList_length, Block.length_read]
  omega

lemma dvd_length_withMAC {body : Bytes} (key : Buf 32) (t : MessageType) (h : 4 ∣ body.length) :
    4 ∣ (withMAC P key t body).length := by
  simp only [withMAC, length_append, Vector.toList_length]
  omega

lemma dvd_length_confirmContent {ch : ParserContext} {m : ConfirmMessage} {content : Bytes}
    (h : confirmContent P outside ch m = .ok content) : 4 ∣ content.length := by
  rw [confirmContent] at h
  split at h
  · cases h
  split at h
  · obtain rfl := Except.ok.inj h
    have hplain := dvd_length_confirmPlainText outside m
    simp only [length_append, Vector.toList_length, takeD_length]
    omega
  · cases h

variable {P outside}

/-- Every message is made of words. -/
lemma Built.dvd {t : MessageType} {content : Bytes} (h : Built P outside t content) : 4 ∣ content.length := by
  cases h with
  | pingACK version endpointHash endpointHashReceived SSRC =>
    simp [pingACKContent]
  | message ch selfH t data content h =>
    cases data with
    | empty =>
      cases t with
      | helloACK | conf2ACK | clearACK =>
        obtain rfl := Except.ok.inj h
        exact ⟨0, rfl⟩
      | _ => cases h
    | hello m =>
      cases t with
      | hello =>
        obtain rfl := Except.ok.inj h
        exact dvd_length_withMAC P _ _ (dvd_length_helloBody _)
      | _ => cases h
    | commit m =>
      cases t with
      | commit =>
        unfold messageContent at h
        dsimp only at h
        split_ifs at h
        obtain rfl := Except.ok.inj h
        exact dvd_length_withMAC P _ _ (dvd_length_commitBody P outside _)
      | _ => cases h
    | dhPart m =>
      cases t with
      | DHPart1 | DHPart2 =>
        unfold messageContent at h
        dsimp only at h
        split_ifs at h
        obtain rfl := Except.ok.inj h
        exact dvd_length_withMAC P _ _ (dvd_length_dhPartBody outside (dvd_toNat_publicValueLength _ _ _) _)
      | _ => cases h
    | confirm m =>
      cases t with
      | confirm1 | confirm2 => exact dvd_length_confirmContent P outside h
      | _ => cases h
    | goClear clear_mac =>
      cases t with
      | goClear =>
        obtain rfl := Except.ok.inj h
        rw [Vector.toList_length]
        decide
      | _ => cases h
    | ping version endpointHash => cases t <;> cases h

end contents

/-- The bytes of the message that the packet of a fragment carries. -/
def payload (packet : Bytes) : Bytes :=
  segment packet ZRTP_FRAGMENTEDPACKET_HEADER_LENGTH (packet.length - ZRTP_FRAGMENTEDPACKET_OVERHEAD)

/-- The packets tile a message: one payload starts where the one before ends, and the headers say so
in words. -/
structure Tiles (mtu : ℕ) (message : Bytes) (packets : List Bytes) : Prop where
  /-- The declared offset is the place of the payload. -/
  offset : ∀ (i : ℕ) (h : i < packets.length), (FragmentHeader.parse packets[i]).offset.toNat * 4 =
    Chunks.offset (packets.map payload) i
  /-- The declared length is the one of the payload. -/
  length : ∀ p ∈ packets, (FragmentHeader.parse p).fragmentLength.toNat * 4 = (payload p).length
  partition : (packets.map payload).flatten = message
  total : ∀ p ∈ packets, (packets.map fun q => (FragmentHeader.parse q).fragmentLength.toNat).sum =
    (FragmentHeader.parse p).messageTotalLength.toNat
  mtu : ∀ p ∈ packets, p.length ≤ mtu

/-- What is sent for a message: the packet, or the packets of the fragments, each with a sequence
number. -/
def BuiltPacket.Tiles (mtu : ℕ) (message : Bytes) (sequenceNumber : ℕ → UInt16) : BuiltPacket → Prop
  | .whole packetString => packetString.length ≤ mtu
  | .fragmented fragments =>
    Bzrtp.Tiles mtu message (fragments.mapIdx fun i f => f.send (sequenceNumber i))

/-! ### The packets of chunks -/

section packets

variable (malloc : (n : ℕ) → Buf n) (sourceIdentifier : UInt32) (messageId : UInt16) {messageLength : UInt16}
  (sequenceNumber : ℕ → UInt16) {cs : List Bytes}

def packetsOf (messageLength : UInt16) (cs : List Bytes) : List Bytes :=
  cs.mapIdx fun i chunk => (fragmentPacket malloc sourceIdentifier
    (headerAt messageId messageLength (offset cs i) chunk.length) chunk).send (sequenceNumber i)

lemma payload_send (sequenceNumber : UInt16) (h : FragmentHeader) (fragment : Bytes) :
    payload ((fragmentPacket malloc sourceIdentifier h fragment).send sequenceNumber) = fragment :=
  segment_send malloc sequenceNumber sourceIdentifier h fragment

lemma parse_send (sequenceNumber : UInt16) (h : FragmentHeader) (fragment : Bytes) :
    FragmentHeader.parse ((fragmentPacket malloc sourceIdentifier h fragment).send sequenceNumber) = h := by
  rw [send_fragmentPacket, parse_fragmentBody]

lemma length_send (sequenceNumber : UInt16) (h : FragmentHeader) (fragment : Bytes) :
    ((fragmentPacket malloc sourceIdentifier h fragment).send sequenceNumber).length = fragment.length + 24 := by
  rw [send_fragmentPacket, length_append, length_fragmentBody, length_be32]

/-- The payloads are the chunks. -/
lemma map_payload_packetsOf (messageLength : UInt16) (cs : List Bytes) :
    (packetsOf malloc sourceIdentifier messageId sequenceNumber messageLength cs).map payload = cs := by
  apply ext_getElem
  · rw [length_map, packetsOf, length_mapIdx]
  · intro i _ _
    simp only [packetsOf, getElem_map, getElem_mapIdx, payload_send]

/-- A packet is the one of a chunk. -/
lemma mem_packetsOf {p : Bytes}
    (h : p ∈ packetsOf malloc sourceIdentifier messageId sequenceNumber messageLength cs) :
    ∃ i, ∃ hi : i < cs.length, FragmentHeader.parse p =
        headerAt messageId messageLength (offset cs i) cs[i].length ∧ payload p = cs[i] ∧
      p.length = cs[i].length + 24 := by
  obtain ⟨i, hi, rfl⟩ := mem_mapIdx.1 h
  exact ⟨i, hi, parse_send .., payload_send .., length_send ..⟩

/-- The sizes of chunks made of words add up in words. -/
lemma sum_words (h : ∀ c ∈ cs, 4 ∣ c.length) : (cs.map fun c => c.length / 4).sum * 4 = cs.flatten.length := by
  induction cs with
  | nil => rfl
  | cons c cs ih =>
    have hc := h c mem_cons_self
    have hcs := ih fun d hd => h d (mem_cons_of_mem c hd)
    rw [map_cons, sum_cons, flatten_cons, length_append]
    omega

/-- A place in a message of 16-bit length, in words. -/
lemma toNat_headerAt (h : cs.flatten.length = messageLength.toNat) {i : ℕ} (hi : i < cs.length) :
    let header := headerAt messageId messageLength (offset cs i) cs[i].length
    header.offset.toNat = offset cs i / 4 ∧ header.fragmentLength.toNat = cs[i].length / 4 ∧
      header.messageTotalLength.toNat = messageLength.toNat / 4 := by
  have hmax := messageLength.toNat_lt
  have hle := offset_add_length_le_flatten hi
  rw [getD_eq_getElem _ _ hi] at hle
  refine ⟨toNat_words (by omega), toNat_words (by omega), ?_⟩
  have hwords := toNat_words hmax
  rwa [show messageLength.toNat.toUInt16 = messageLength from UInt16.ofNat_toNat] at hwords

/-- Chunks made of words that fit the MTU tile their message. -/
lemma tiles_packetsOf {mtu : ℕ} (hlength : cs.flatten.length = messageLength.toNat)
    (hdvd : ∀ c ∈ cs, 4 ∣ c.length) (hmtu : ∀ c ∈ cs, c.length + 24 ≤ mtu) :
    Tiles mtu cs.flatten (packetsOf malloc sourceIdentifier messageId sequenceNumber messageLength cs) := by
  have hpayload := map_payload_packetsOf malloc sourceIdentifier messageId sequenceNumber messageLength cs
  have hoffset : ∀ i, 4 ∣ offset cs i := by
    intro i
    induction i with
    | zero => exact ⟨0, rfl⟩
    | succ i ih =>
      rw [offset_succ]
      by_cases hi : i < cs.length
      · exact Nat.dvd_add ih (hdvd _ (Wellsized.mem_getD hi))
      · rwa [getD_eq_default _ _ (Nat.le_of_not_lt hi)]
  have hwords : (packetsOf malloc sourceIdentifier messageId sequenceNumber messageLength cs).map
      (fun q => (FragmentHeader.parse q).fragmentLength.toNat) = cs.map fun c => c.length / 4 := by
    apply ext_getElem
    · rw [length_map, packetsOf, length_mapIdx, length_map]
    · intro i _ hi
      rw [length_map] at hi
      simp only [packetsOf, getElem_map, getElem_mapIdx, parse_send]
      exact (toNat_headerAt messageId hlength hi).2.1
  constructor
  · intro i hi
    have hi' : i < cs.length := by rwa [packetsOf, length_mapIdx] at hi
    have hplace := (toNat_headerAt messageId hlength hi').1
    have hdvd := hoffset i
    rw [hpayload]
    simp only [packetsOf, getElem_mapIdx, parse_send]
    omega
  · intro p hp
    obtain ⟨i, hi, hparse, hp, -⟩ := mem_packetsOf _ _ _ _ hp
    have hplace := (toNat_headerAt messageId hlength hi).2.1
    have hdvd := hdvd _ (getElem_mem hi)
    rw [hparse, hp]
    omega
  · rw [hpayload]
  · intro p hp
    obtain ⟨i, hi, hparse, -, -⟩ := mem_packetsOf _ _ _ _ hp
    have htotal := (toNat_headerAt messageId hlength hi).2.2
    have hsum := sum_words hdvd
    rw [hwords, hparse]
    omega
  · intro p hp
    obtain ⟨i, hi, -, -, hsize⟩ := mem_packetsOf _ _ _ _ hp
    rw [hsize]
    exact hmtu _ (getElem_mem hi)

/-- The declared lengths are exact for chunks made of words only. -/
lemma dvd_of_tiles {mtu : ℕ} {message : Bytes}
    (h : Tiles mtu message (packetsOf malloc sourceIdentifier messageId sequenceNumber messageLength cs)) :
    ∀ c ∈ cs, 4 ∣ c.length := by
  intro c hc
  obtain ⟨i, hi, rfl⟩ := getElem_of_mem hc
  have hexact := h.length _ (mem_mapIdx.2 ⟨i, hi, rfl⟩)
  rw [parse_send, payload_send] at hexact
  exact ⟨_, hexact.symm.trans (Nat.mul_comm _ _)⟩

end packets

/-! ### The packets of a message -/

section message

variable {malloc : (n : ℕ) → Buf n} {sourceIdentifier : UInt32} {messageId : UInt16}
  {sequenceNumber : ℕ → UInt16} {ctx : Context} {t : MessageType} {content : Bytes}

lemma length_chunksOf (ctx : Context) (t : MessageType) (hcontent : 12 + content.length < 2 ^ 16) :
    (chunksOf ctx t content).flatten = buildMessage t content ∧
      (chunksOf ctx t content).flatten.length = (messageLengthOf content).toNat := by
  have hflatten := flatten_chunksOf ctx t hcontent
  exact ⟨hflatten, by rw [hflatten, length_buildMessage hcontent]⟩

/-- A message is cut exactly when its packet is longer than the MTU, as long as the length of the packet
fits 16 bits. -/
lemma needsFragments_iff (ctx : Context) (hcontent : 12 + content.length < 2 ^ 16) :
    ctx.mtu < (messageLengthOf content + ZRTP_PACKET_OVERHEAD.toUInt16).toNat ↔
      ctx.mtu < 28 + content.length ∧ 28 + content.length < 2 ^ 16 := by
  have hcast := toNat_messageLengthOf hcontent
  have hover : ZRTP_PACKET_OVERHEAD.toUInt16.toNat = 16 := rfl
  have hge := ctx.mtu_ge
  rw [BZRTP_MINIMUM_MTU] at hge
  rw [UInt16.toNat_add, hover, hcast]
  omega

/-- A message that is not cut is sent as its packet. -/
lemma tiles_whole_iff {mtu : ℕ} (hcontent : 12 + content.length < 2 ^ 16)
    (h : ¬ ctx.mtu < (messageLengthOf content + ZRTP_PACKET_OVERHEAD.toUInt16).toNat) :
    (packetBuild malloc ctx sourceIdentifier t content messageId).1.Tiles mtu (buildMessage t content)
      sequenceNumber ↔ 28 + content.length ≤ mtu := by
  have hcast := toNat_messageLengthOf hcontent
  have hlen := length_buildMessage (t := t) hcontent
  have hblock := (malloc (ZRTP_PACKET_OVERHEAD + (buildMessage t content).length)).toList_length
  have h16 : ZRTP_PACKET_OVERHEAD = 16 := rfl
  have h12 : ZRTP_PACKET_HEADER_LENGTH = 12 := rfl
  rw [h16] at hblock
  -- each field is written within the block
  have hpatch : ∀ (l s : Bytes) (i : ℕ), l.length = 16 + (buildMessage t content).length →
      i + s.length ≤ 16 + (buildMessage t content).length →
      (patch l i s).length = 16 + (buildMessage t content).length := by
    intro l s i hl hs
    rw [length_patch (by omega), hl]
  rw [packetBuild, if_neg h, h16]
  simp only [BuiltPacket.Tiles]
  rw [hpatch _ _ _ (hpatch _ _ _ (hpatch _ _ _ (hpatch _ _ _ hblock (by rw [h12]; omega))
    (by rw [length_cons, length_singleton]; omega)) (by rw [length_be32]; omega))
    (by rw [length_be32]; omega), hlen, hcast]
  omega

/-- A message that is cut is tiled exactly with an MTU made of words. -/
lemma tiles_fragmented_iff (hcontent : 12 + content.length < 2 ^ 16) (hdvd : 4 ∣ content.length)
    (h : ctx.mtu < (messageLengthOf content + ZRTP_PACKET_OVERHEAD.toUInt16).toNat) :
    (packetBuild malloc ctx sourceIdentifier t content messageId).1.Tiles ctx.mtu (buildMessage t content)
      sequenceNumber ↔ 4 ∣ ctx.mtu := by
  have hcast := toNat_messageLengthOf hcontent
  have hlen := length_buildMessage (t := t) hcontent
  have hge := ctx.mtu_ge
  rw [BZRTP_MINIMUM_MTU] at hge
  obtain ⟨hflatten, hlength⟩ := length_chunksOf ctx t hcontent
  have hbuild : (packetBuild malloc ctx sourceIdentifier t content messageId).1 = _ := packetBuild_of_mtu_lt h
  obtain ⟨-, hfragments⟩ := fragments_of_packetBuild hcontent hbuild
  have hpackets : ((fragmentLoop malloc ctx sourceIdentifier messageId (messageLengthOf content)
      (buildMessage t content) (messageLengthOf content).toNat 0).mapIdx fun i f => f.send (sequenceNumber i)) =
      packetsOf malloc sourceIdentifier messageId sequenceNumber (messageLengthOf content)
        (chunksOf ctx t content) := by
    rw [hfragments, mapIdx_mapIdx]
    rfl
  rw [hbuild, BuiltPacket.Tiles, hpackets]
  constructor
  · intro htiles
    have hfit := (needsFragments_iff _ hcontent).1 h
    have hfirst : ((chunksOf ctx t content).getD 0 []).length =
        min (messageLengthOf content).toNat (ctx.mtu - 24) := length_cut_zero ctx hlen (by omega) (by omega)
    have hne : 0 < (chunksOf ctx t content).length := by
      rw [length_pos_iff]
      intro hnil
      rw [hnil] at hlength
      rw [flatten_nil, length_nil] at hlength
      omega
    have hzero := dvd_of_tiles malloc sourceIdentifier messageId sequenceNumber htiles _
      (Wellsized.mem_getD hne)
    rw [hfirst] at hzero
    omega
  · intro hmtu
    rw [← hflatten]
    refine tiles_packetsOf malloc sourceIdentifier messageId sequenceNumber hlength (fun c hc => ?_)
      (fun c hc => ?_)
    · exact dvd_length_of_mem_cut (by omega) hmtu ⟨0, rfl⟩ hlen _ hc
    · have hle := (length_of_mem_cut hlen _ _ hc).2
      omega

/-- What is sent for a message tiles it, within the MTU: exactly when its packet fits the MTU, or the
MTU is made of words and the length of the packet fits 16 bits. -/
theorem tiles_iff {P : CipherPrimitives} {outside : ℕ → UInt8} (malloc : (n : ℕ) → Buf n) (mtu : ℕ)
    (sourceIdentifier : UInt32) (messageId : UInt16) (sequenceNumber : ℕ → UInt16)
    (hbuilt : Built P outside t content) (hcontent : 12 + content.length < 2 ^ 16) :
    (packetBuild malloc (setMTU mtu) sourceIdentifier t content messageId).1.Tiles (setMTU mtu).mtu
        (buildMessage t content) sequenceNumber ↔
      28 + content.length ≤ (setMTU mtu).mtu ∨ 4 ∣ (setMTU mtu).mtu ∧ 28 + content.length < 2 ^ 16 := by
  have hneeds := needsFragments_iff (setMTU mtu) hcontent
  by_cases h : (setMTU mtu).mtu < (messageLengthOf content + ZRTP_PACKET_OVERHEAD.toUInt16).toNat
  · rw [tiles_fragmented_iff hcontent hbuilt.dvd h]
    have hfit := hneeds.1 h
    omega
  · rw [tiles_whole_iff hcontent h]
    have hfit := mt hneeds.2 h
    omega

end message

/-! ### A Commit message with the public key of a KEM -/

/-- The primitives of the sample, with public keys of 800 bytes. -/
def CipherPrimitives.sampleKEM : CipherPrimitives :=
  { CipherPrimitives.sample with getPkSize := fun _ => 800 }

def CommitMessage.sampleKEM : CommitMessage where
  H2 := zeros 32
  ZID := zeros 12
  hashAlgo := 0
  cipherAlgo := 0
  authTagAlgo := 0
  keyAgreementAlgo := ZRTP_KEYAGREEMENT_MLK1
  sasAlgo := 0
  nonce := zeros 16
  keyID := zeros 8
  hvi := zeros 32
  pv := some (replicate 800 0)
  MAC := zeros 8

lemma exists_built_sampleKEM : ∃ content, Built .sampleKEM (fun _ => 0) .commit content ∧ content.length = 904 := by
  refine ⟨withMAC .sampleKEM (HashChain.H1 CipherPrimitives.sampleKEM.toPrimitives ⟨zeros 32⟩) .commit
    (commitBody .sampleKEM (fun _ => 0) .sampleKEM),
    .message (.blank .initiator) ⟨zeros 32⟩ .commit (.commit .sampleKEM) _ ?_, ?_⟩
  · unfold messageContent
    exact if_neg (by decide)
  · simp only [withMAC, commitBody, commitVariable, length_append, Vector.toList_length,
      length_cryptoAlgoTypeIntToString]
    decide +kernel

/-- The Commit message of 916 bytes, sent with the smallest MTU. -/
theorem tiles_iff_sampleKEM : ∃ content, content.length = 904 ∧
    (packetBuild zeros (setMTU 600) 7 .commit content 1).1.Tiles 600 (buildMessage .commit content)
      (fun i => i.toUInt16) := by
  obtain ⟨content, hbuilt, hlength⟩ := exists_built_sampleKEM
  refine ⟨content, hlength, ?_⟩
  exact (tiles_iff zeros 600 7 1 (fun i => i.toUInt16) hbuilt (by rw [hlength]; decide)).2
    (.inr ⟨by decide, by rw [hlength]; decide⟩)

/-- With an MTU of 601 bytes the first fragment carries 577 bytes of the Commit message. -/
theorem tiles_iff_fails : ∃ content, Built .sampleKEM (fun _ => 0) .commit content ∧
    ¬ (packetBuild zeros (setMTU 601) 7 .commit content 1).1.Tiles (setMTU 601).mtu
      (buildMessage .commit content) (fun i => i.toUInt16) := by
  obtain ⟨content, hbuilt, hlength⟩ := exists_built_sampleKEM
  have hcontent : 12 + content.length < 2 ^ 16 := by
    rw [hlength]
    decide
  refine ⟨content, hbuilt, fun htiles => ?_⟩
  have hmtu := (tiles_fragmented_iff hcontent hbuilt.dvd
    ((needsFragments_iff _ hcontent).2 ⟨by rw [hlength]; decide, by rw [hlength]; decide⟩)).1 htiles
  revert hmtu
  decide

end Bzrtp
