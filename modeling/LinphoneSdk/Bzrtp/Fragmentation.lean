import LinphoneSdk.Bzrtp.Packet

/-!
# The fragments of a message

The fragmentation loop cuts a message into chunks: the payload of each fragment, whose header gives
the place. This module says what a fragment looks like once sent and what the receiver reads in it.
-/

namespace Bzrtp

open Bytes Chunks List UInt16

variable (malloc : (n : ℕ) → Buf n) {ctx : Context} {messageLength offset : UInt16}
  {message : Bytes}

/-! ### The packet of a fragment -/

lemma exists_append_of_length {l : Bytes} {m n : ℕ} (h : l.length = m + n) :
    ∃ a b, l = a ++ b ∧ a.length = m ∧ b.length = n := by
  refine ⟨l.take m, l.drop m, (take_append_drop m l).symm, ?_, ?_⟩
  · rw [length_take]
    omega
  · rw [length_drop]
    omega

variable (sequenceNumber : UInt16) (sourceIdentifier : UInt32)

/-- What precedes the CRC in the packet of a fragment. -/
def fragmentBody (h : FragmentHeader) (fragment : Bytes) : Bytes :=
  [0x11, 0x00] ++ (be16 sequenceNumber ++ (be32 ZRTP_MAGIC_COOKIE ++ (be32 sourceIdentifier ++
    (h.toBytes ++ fragment))))

@[simp] lemma length_toBytes (h : FragmentHeader) : h.toBytes.length = 8 := rfl

lemma length_fragmentBody (h : FragmentHeader) (fragment : Bytes) :
    (fragmentBody sequenceNumber sourceIdentifier h fragment).length = fragment.length + 20 := by
  simp only [fragmentBody, length_append, length_be16, length_be32, length_toBytes, length_cons, length_nil]
  omega

/-- The string of a fragment packet; the sequence number and the CRC are not set. -/
lemma packetString_fragmentPacket (sourceIdentifier : UInt32) (h : FragmentHeader)
    (fragment : Bytes) : ∃ u v : Bytes, u.length = 2 ∧ v.length = 4 ∧
      (fragmentPacket malloc sourceIdentifier h fragment).packetString =
        [0x11, 0x00] ++ (u ++ (be32 ZRTP_MAGIC_COOKIE ++ (be32 sourceIdentifier ++
          (h.toBytes ++ (fragment ++ v))))) := by
  have hlen := (malloc (ZRTP_FRAGMENTEDPACKET_OVERHEAD + fragment.length)).toList_length
  rw [fragmentPacket]
  dsimp only
  generalize (malloc (ZRTP_FRAGMENTEDPACKET_OVERHEAD + fragment.length)).toList = block at hlen ⊢
  simp only [ZRTP_FRAGMENTEDPACKET_OVERHEAD, ZRTP_FRAGMENTEDPACKET_HEADER_LENGTH,
    ZRTP_PACKET_CRC_LENGTH, ZRTP_PACKET_HEADER_LENGTH] at hlen ⊢
  obtain ⟨a, block, rfl, ha, hlen⟩ := exists_append_of_length (m := 2)
    (n := 2 + (4 + (4 + (8 + (fragment.length + 4))))) (by rw [hlen]; omega)
  obtain ⟨u, block, rfl, hu, hlen⟩ := exists_append_of_length hlen
  obtain ⟨c, block, rfl, hc, hlen⟩ := exists_append_of_length hlen
  obtain ⟨d, block, rfl, hd, hlen⟩ := exists_append_of_length hlen
  obtain ⟨e, block, rfl, he, hlen⟩ := exists_append_of_length hlen
  obtain ⟨p, v, rfl, hp, hv⟩ := exists_append_of_length hlen
  refine ⟨u, v, hu, hv, ?_⟩
  -- each field is written over the segment of the block that it occupies
  have h1 : patch (a ++ (u ++ (c ++ (d ++ (e ++ (p ++ v)))))) 20 fragment =
      a ++ (u ++ (c ++ (d ++ (e ++ (fragment ++ v))))) := by
    have h := patch_append (a ++ (u ++ (c ++ (d ++ e)))) p v hp.symm
    simpa [ha, hu, hc, hd, he] using h
  have h2 : patch (a ++ (u ++ (c ++ (d ++ (e ++ (fragment ++ v)))))) 0 [0x11, 0x00] =
      [0x11, 0x00] ++ (u ++ (c ++ (d ++ (e ++ (fragment ++ v))))) := by
    have h := patch_append [] a (u ++ (c ++ (d ++ (e ++ (fragment ++ v))))) (s := [0x11, 0x00]) ha.symm
    simpa using h
  have h3 : patch ([0x11, 0x00] ++ (u ++ (c ++ (d ++ (e ++ (fragment ++ v)))))) 4
      (be32 ZRTP_MAGIC_COOKIE) =
      [0x11, 0x00] ++ (u ++ (be32 ZRTP_MAGIC_COOKIE ++ (d ++ (e ++ (fragment ++ v))))) := by
    have h := patch_append ([0x11, 0x00] ++ u) c (d ++ (e ++ (fragment ++ v)))
      (s := be32 ZRTP_MAGIC_COOKIE) hc.symm
    simpa [hu] using h
  have h4 : patch ([0x11, 0x00] ++ (u ++ (be32 ZRTP_MAGIC_COOKIE ++ (d ++ (e ++ (fragment ++ v))))))
      8 (be32 sourceIdentifier) = [0x11, 0x00] ++ (u ++ (be32 ZRTP_MAGIC_COOKIE ++
        (be32 sourceIdentifier ++ (e ++ (fragment ++ v))))) := by
    have h := patch_append ([0x11, 0x00] ++ (u ++ be32 ZRTP_MAGIC_COOKIE)) d (e ++ (fragment ++ v))
      (s := be32 sourceIdentifier) hd.symm
    simpa [hu] using h
  have h5 := patch_append ([0x11, 0x00] ++ (u ++ (be32 ZRTP_MAGIC_COOKIE ++ be32 sourceIdentifier))) e
    (fragment ++ v) (s := h.toBytes) he.symm
  rw [h1, h2, h3, h4]
  simpa [hu] using h5

/-- The packet of a fragment, once sent. -/
lemma send_fragmentPacket (h : FragmentHeader) (fragment : Bytes) :
    (fragmentPacket malloc sourceIdentifier h fragment).send sequenceNumber =
      fragmentBody sequenceNumber sourceIdentifier h fragment ++
        be32 (CRC32 (fragmentBody sequenceNumber sourceIdentifier h fragment)) := by
  obtain ⟨u, v, hu, hv, hstring⟩ := packetString_fragmentPacket malloc sourceIdentifier h fragment
  have hlen := length_fragmentBody sequenceNumber sourceIdentifier h fragment
  have hmsg : (fragmentPacket malloc sourceIdentifier h fragment).messageLength = fragment.length := rfl
  have hseq : patch (fragmentPacket malloc sourceIdentifier h fragment).packetString 2
      (be16 sequenceNumber) = fragmentBody sequenceNumber sourceIdentifier h fragment ++ v := by
    rw [hstring]
    have h := patch_append [0x11, 0x00] u (be32 ZRTP_MAGIC_COOKIE ++ (be32 sourceIdentifier ++
      (h.toBytes ++ (fragment ++ v)))) (s := be16 sequenceNumber) hu.symm
    simpa [fragmentBody] using h
  rw [FragmentPacket.send, packetSetSequenceNumber, hmsg, hseq, ZRTP_FRAGMENTEDPACKET_HEADER_LENGTH]
  rw [← hlen, take_left]
  have h := patch_append (fragmentBody sequenceNumber sourceIdentifier h fragment) v []
    (s := be32 (CRC32 (fragmentBody sequenceNumber sourceIdentifier h fragment))) hv.symm
  simpa using h

/-! ### What the receiver reads -/

section received

variable (sequenceNumber : UInt16) (sourceIdentifier : UInt32) (h : FragmentHeader)
  (fragment rest : Bytes)

lemma isFragmented_fragmentBody :
    isFragmented (fragmentBody sequenceNumber sourceIdentifier h fragment ++ rest) = true := rfl

lemma parse_fragmentBody :
    FragmentHeader.parse (fragmentBody sequenceNumber sourceIdentifier h fragment ++ rest) = h := by
  have h0 : (fragmentBody sequenceNumber sourceIdentifier h fragment ++ rest).drop 12 =
      be16 h.messageId ++ (be16 h.messageTotalLength ++ (be16 h.offset ++ (be16 h.fragmentLength ++
        (fragment ++ rest)))) := rfl
  rw [FragmentHeader.parse, be16At_of_drop h.messageId h0]
  rw [be16At_of_drop h.messageTotalLength (i := 14) rfl, be16At_of_drop h.offset (i := 16) rfl,
    be16At_of_drop h.fragmentLength (i := 18) rfl]

lemma be32At_fragmentBody :
    be32At (fragmentBody sequenceNumber sourceIdentifier h fragment ++ rest) 4 = ZRTP_MAGIC_COOKIE :=
  be32At_of_drop _ rfl

/-- The checks on the packet of a fragment depend on its size only. -/
lemma packetHeaderCheck_send (ch : ChannelContext)
    (hsize : 4 ≤ fragment.length ∧ fragment.length + ZRTP_FRAGMENTEDPACKET_OVERHEAD ≤ ZRTP_MAX_PACKET_LENGTH) :
    packetHeaderCheck ((fragmentPacket malloc sourceIdentifier h fragment).send sequenceNumber) ch = none := by
  have hlen := length_fragmentBody sequenceNumber sourceIdentifier h fragment
  rw [send_fragmentPacket]
  set body := fragmentBody sequenceNumber sourceIdentifier h fragment with hbody
  have htotal : (body ++ be32 (CRC32 body)).length = fragment.length + 24 := by
    rw [length_append, hlen, length_be32]
  have hcrc : (body ++ be32 (CRC32 body)).length - ZRTP_PACKET_CRC_LENGTH = body.length := by
    rw [htotal, hlen, ZRTP_PACKET_CRC_LENGTH]
    omega
  simp only [ZRTP_FRAGMENTEDPACKET_OVERHEAD, ZRTP_FRAGMENTEDPACKET_HEADER_LENGTH,
    ZRTP_PACKET_CRC_LENGTH, ZRTP_MAX_PACKET_LENGTH] at hsize
  rw [packetHeaderCheck, if_neg, if_neg, if_neg, if_neg]
  · have hdrop : (body ++ be32 (CRC32 body)).drop body.length = be32 (CRC32 body) ++ [] := by simp
    rw [hcrc, take_left, be32At_of_drop _ hdrop]
    exact fun hne => hne rfl
  · rw [hbody, isFragmented_fragmentBody]
    simp
  · rw [hbody, be32At_fragmentBody]
    simp [fragmentBody]
  · rw [htotal, ZRTP_MIN_PACKET_LENGTH, ZRTP_MAX_PACKET_LENGTH]
    omega

lemma segment_send : segment ((fragmentPacket malloc sourceIdentifier h fragment).send sequenceNumber)
    ZRTP_FRAGMENTEDPACKET_HEADER_LENGTH
    (((fragmentPacket malloc sourceIdentifier h fragment).send sequenceNumber).length -
      ZRTP_FRAGMENTEDPACKET_OVERHEAD) = fragment := by
  have hlen := length_fragmentBody sequenceNumber sourceIdentifier h fragment
  rw [send_fragmentPacket, length_append, hlen, length_be32]
  have hsub : fragment.length + 20 + 4 - ZRTP_FRAGMENTEDPACKET_OVERHEAD = fragment.length := by
    rw [ZRTP_FRAGMENTEDPACKET_OVERHEAD, ZRTP_FRAGMENTEDPACKET_HEADER_LENGTH, ZRTP_PACKET_CRC_LENGTH]
    omega
  have hdrop : (fragmentBody sequenceNumber sourceIdentifier h fragment ++
      be32 (CRC32 (fragmentBody sequenceNumber sourceIdentifier h fragment))).drop
        ZRTP_FRAGMENTEDPACKET_HEADER_LENGTH = fragment ++
      be32 (CRC32 (fragmentBody sequenceNumber sourceIdentifier h fragment)) := rfl
  rw [Chunks.segment, hsub, hdrop, take_left]

end received

/-! ### The chunks of a message -/

/-- The payloads of the fragments made by the fragmentation loop. -/
def cut (ctx : Context) (messageLength : UInt16) (message : Bytes) : ℕ → UInt16 → List Bytes
  | 0, _ => []
  | fuel + 1, offset =>
    if offset < messageLength then
      let size := fragmentSize ctx messageLength offset
      segment message offset.toNat size.toNat :: cut ctx messageLength message fuel (offset + size)
    else []

lemma toNat_fragmentSize (ctx : Context) (h : offset < messageLength) : (fragmentSize ctx messageLength offset).toNat =
      min (messageLength.toNat - offset.toNat) (ctx.mtu - 24) := by
  have hlt : offset.toNat < messageLength.toNat := lt_iff_toNat_lt.mp h
  have hsub : (messageLength - offset).toNat = messageLength.toNat - offset.toNat :=
    UInt16.toNat_sub_of_le _ _ (UInt16.le_of_lt h)
  have hmax := messageLength.toNat_lt
  have h24 : ZRTP_FRAGMENTEDPACKET_OVERHEAD = 24 := rfl
  rw [fragmentSize, hsub, h24]
  split_ifs with hfit
  · rw [hsub]
    omega
  · have hmod : (ctx.mtu - 24).toUInt16.toNat = (ctx.mtu - 24) % 2 ^ 16 := rfl
    rw [hmod, Nat.mod_eq_of_lt (by omega)]
    omega

/-- A fragment is not empty and ends in the message. -/
lemma fragmentSize_bounds (ctx : Context) (h : offset < messageLength) :
    0 < (fragmentSize ctx messageLength offset).toNat ∧ (offset + fragmentSize ctx messageLength offset).toNat =
        offset.toNat + (fragmentSize ctx messageLength offset).toNat ∧
      offset.toNat + (fragmentSize ctx messageLength offset).toNat ≤ messageLength.toNat := by
  have hlt : offset.toNat < messageLength.toNat := lt_iff_toNat_lt.mp h
  have hsize := toNat_fragmentSize ctx h
  have hmtu := ctx.mtu_ge
  have hmax := messageLength.toNat_lt
  rw [BZRTP_MINIMUM_MTU] at hmtu
  refine ⟨by omega, ?_, by omega⟩
  rw [UInt16.toNat_add, Nat.mod_eq_of_lt (by omega)]

variable (sourceIdentifier : UInt32) (messageId : UInt16)

def headerAt (messageId messageLength : UInt16) (offset size : ℕ) : FragmentHeader :=
  ⟨messageId, messageLength >>> 2, offset.toUInt16 >>> 2, size.toUInt16 >>> 2⟩

lemma length_cut_head (ctx : Context) (h : offset < messageLength) (hmessage : message.length = messageLength.toNat) :
    (segment message offset.toNat (fragmentSize ctx messageLength offset).toNat).length =
      (fragmentSize ctx messageLength offset).toNat := by
  obtain ⟨-, -, hle⟩ := fragmentSize_bounds ctx h
  rw [Chunks.segment, length_take, length_drop]
  omega

section

variable (hmessage : message.length = messageLength.toNat) (fuel : ℕ)
include hmessage fuel

/-- The fragments are those of the chunks, each with its place in the header. -/
lemma fragmentLoop_eq (offset : UInt16) :
    fragmentLoop malloc ctx sourceIdentifier messageId messageLength message fuel offset =
      (cut ctx messageLength message fuel offset).mapIdx fun i chunk =>
        fragmentPacket malloc sourceIdentifier (headerAt messageId messageLength (offset.toNat +
          Chunks.offset (cut ctx messageLength message fuel offset) i) chunk.length) chunk := by
  induction fuel generalizing offset with
  | zero => rfl
  | succ fuel ih =>
    rw [fragmentLoop, cut]
    split_ifs with h
    swap
    · rfl
    obtain ⟨-, hadd, -⟩ := fragmentSize_bounds ctx h
    have hlen := length_cut_head ctx h hmessage
    dsimp only
    rw [mapIdx_cons, ih, hadd]
    congr 1
    · have hcast : ∀ x : UInt16, x.toNat.toUInt16 = x := fun x => UInt16.ofNat_toNat
      rw [offset_zero, hlen, headerAt, Nat.add_zero, hcast, hcast]
    · refine mapIdx_eq_mapIdx_iff.mpr fun i hi => ?_
      rw [offset_cons_succ, hlen, Nat.add_assoc]

/-- Together the chunks are the message. -/
lemma flatten_cut (offset : UInt16) (hoffset : offset.toNat ≤ messageLength.toNat)
    (hfuel : messageLength.toNat ≤ offset.toNat + fuel) :
    (cut ctx messageLength message fuel offset).flatten = message.drop offset.toNat := by
  induction fuel generalizing offset with
  | zero =>
    rw [cut, flatten_nil, drop_eq_nil_of_le (by omega)]
  | succ fuel ih =>
    rw [cut]
    split_ifs with h
    · obtain ⟨hpos, hadd, hle⟩ := fragmentSize_bounds ctx h
      dsimp only
      rw [flatten_cons, ih _ (by omega) (by omega), hadd, Chunks.segment, ← drop_drop, take_append_drop]
    · have := le_iff_toNat_le.mp (UInt16.not_lt.mp h)
      rw [flatten_nil, drop_eq_nil_of_le (by omega)]

/-- Every chunk is a whole fragment: not empty, and at most as long as the MTU allows. -/
lemma length_of_mem_cut (offset : UInt16) {chunk : Bytes} (h : chunk ∈ cut ctx messageLength message fuel offset) :
    0 < chunk.length ∧ chunk.length ≤ ctx.mtu - 24 := by
  induction fuel generalizing offset with
  | zero => cases h
  | succ fuel ih =>
    rw [cut] at h
    split_ifs at h with hlt
    · obtain rfl | h := mem_cons.mp h
      · rw [length_cut_head ctx hlt hmessage, toNat_fragmentSize ctx hlt]
        obtain ⟨hpos, -, -⟩ := fragmentSize_bounds ctx hlt
        rw [toNat_fragmentSize ctx hlt] at hpos
        omega
      · exact ih _ h
    · cases h

end

/-- The first chunk is as long as the MTU allows. -/
lemma length_cut_zero (ctx : Context) (hmessage : message.length = messageLength.toNat) {fuel : ℕ}
    (hfuel : 0 < fuel) (hlength : 0 < messageLength.toNat) :
    ((cut ctx messageLength message fuel 0).getD 0 []).length = min messageLength.toNat (ctx.mtu - 24) := by
  obtain ⟨fuel, rfl⟩ := Nat.exists_eq_succ_of_ne_zero hfuel.ne'
  have hlt : 0 < messageLength := lt_iff_toNat_lt.mpr hlength
  have hsize := toNat_fragmentSize ctx hlt
  rw [cut, if_pos hlt, getD_cons_zero, length_cut_head ctx hlt hmessage, hsize, UInt16.toNat_zero, Nat.sub_zero]

/-- With an MTU and a message made of 32-bit words, so are the chunks. -/
lemma dvd_length_of_mem_cut (hlength : 4 ∣ messageLength.toNat) (hmtu : 4 ∣ ctx.mtu)
    (hoffset : 4 ∣ offset.toNat) (hmessage : message.length = messageLength.toNat) (fuel : ℕ)
    {chunk : Bytes} (h : chunk ∈ cut ctx messageLength message fuel offset) : 4 ∣ chunk.length := by
  induction fuel generalizing offset with
  | zero => cases h
  | succ fuel ih =>
    rw [cut] at h
    split_ifs at h with hlt
    · obtain ⟨-, hadd, -⟩ := fragmentSize_bounds ctx hlt
      have hsize := toNat_fragmentSize ctx hlt
      have hge := ctx.mtu_ge
      rw [BZRTP_MINIMUM_MTU] at hge
      have hdvd : 4 ∣ (fragmentSize ctx messageLength offset).toNat := by omega
      obtain rfl | h := mem_cons.mp h
      · rw [length_cut_head ctx hlt hmessage]
        exact hdvd
      · exact ih (by omega) h
    · cases h

end Bzrtp
