import LinphoneSdk.Bzrtp.FragmentBounds
import LinphoneSdk.Bzrtp.Fragmentation
import Mathlib.Algebra.Order.BigOperators.Group.Finset
import Mathlib.Algebra.BigOperators.Ring.List
import Mathlib.Algebra.Ring.Nat
import Mathlib.Data.List.GetD

/-!
# Reassembly in any order

The receiver keeps the list of the fragments it has, sorted by offset, and a buffer. Whatever the
order of the fragments and the duplicates, the list is the one of the distinct fragments received
and the buffer holds their chunks; the lengths add up to the total length when nothing is missing.
-/

namespace Bzrtp

open Bytes Chunks List

/-! ### Chunks of 32-bit words -/

/-- Chunks made of 32-bit words, with packets of an acceptable size. -/
structure Wellsized (cs : List Bytes) (messageLength : UInt16) : Prop where
  pos : ∀ c ∈ cs, 0 < c.length
  dvd : ∀ c ∈ cs, 4 ∣ c.length
  size : ∀ c ∈ cs, c.length + ZRTP_FRAGMENTEDPACKET_OVERHEAD ≤ ZRTP_MAX_PACKET_LENGTH
  total : cs.flatten.length = messageLength.toNat
  overhead : messageLength.toNat + ZRTP_PACKET_OVERHEAD < 2 ^ 16

def infoAt (cs : List Bytes) (i : ℕ) : FragmentInfo :=
  ⟨(offset cs i).toUInt16 >>> 2, (cs.getD i []).length.toUInt16 >>> 2⟩

lemma toNat_words {n : ℕ} (h : n < 2 ^ 16) : (n.toUInt16 >>> 2).toNat = n / 4 := by
  have hcast : n.toUInt16.toNat = n := Nat.mod_eq_of_lt h
  have h2 : (2 : UInt16).toNat % 16 = 2 := by decide
  rw [UInt16.toNat_shiftRight, hcast, h2, Nat.shiftRight_eq_div_pow]

namespace Wellsized

variable {cs : List Bytes} {messageLength : UInt16} {i j : ℕ}

lemma mem_getD (hi : i < cs.length) : cs.getD i [] ∈ cs := by
  rw [getD_eq_getElem _ _ hi]
  exact getElem_mem hi

section

variable (h : Wellsized cs messageLength)
include h

lemma dvd_offset (i : ℕ) : 4 ∣ offset cs i := by
  induction i with
  | zero => simp
  | succ i ih =>
    rw [offset_succ]
    refine Nat.dvd_add ih ?_
    by_cases hi : i < cs.length
    · exact h.dvd _ (mem_getD hi)
    · rw [getD_eq_default _ _ (by omega)]
      simp

lemma toNat_shift : (messageLength >>> 2).toNat * 4 = messageLength.toNat := by
  have hwords := toNat_words messageLength.toNat_lt
  have hcast : messageLength.toNat.toUInt16 = messageLength := UInt16.ofNat_toNat
  have hdvd : 4 ∣ messageLength.toNat := by
    rw [← h.total, ← offset_length]
    exact h.dvd_offset _
  rw [hcast] at hwords
  omega

lemma offset_add_length_le (hi : i < cs.length) : offset cs i + (cs.getD i []).length ≤ messageLength.toNat := by
  rw [← h.total]
  exact offset_add_length_le_flatten hi

lemma toNat_infoAt (hi : i < cs.length) :
    4 * (infoAt cs i).offset.toNat = offset cs i ∧ 4 * (infoAt cs i).length.toNat = (cs.getD i []).length := by
  have hle := h.offset_add_length_le hi
  have hmax := messageLength.toNat_lt
  obtain ⟨k, hk⟩ := h.dvd_offset i
  obtain ⟨m, hm⟩ := h.dvd _ (mem_getD hi)
  simp only [infoAt]
  rw [toNat_words (by omega), toNat_words (by omega)]
  omega

/-- The fragments are recorded at increasing offsets. -/
lemma infoAt_lt (hi : i < cs.length) (hj : j < cs.length)
    (hlt : i < j) : (infoAt cs i).offset < (infoAt cs j).offset := by
  have hle := Chunks.offset_add_length_le cs hlt
  have hpos := h.pos _ (mem_getD hi)
  have h1 := (h.toNat_infoAt hi).1
  have h2 := (h.toNat_infoAt hj).1
  rw [UInt16.lt_iff_toNat_lt]
  omega

end

end Wellsized

/-! ### The fragments received -/

section received

variable {cs : List Bytes} {messageLength : UInt16} {i : ℕ} {l : List ℕ}

/-- A fragment already received is not recorded again. -/
lemma insertFragment_of_mem (hcs : Wellsized cs messageLength) (hsorted : l.Pairwise (· < ·))
    (hl : ∀ j ∈ l, j < cs.length) (hi : i ∈ l) : insertFragment (infoAt cs i) (l.map (infoAt cs)) = none := by
  rw [insertFragment_eq_none]
  · exact ⟨infoAt cs i, mem_map_of_mem hi, rfl⟩
  · refine pairwise_map.mpr (hsorted.imp_of_mem fun hj hk hlt => ?_)
    exact hcs.infoAt_lt (hl _ hj) (hl _ hk) hlt

/-- A new fragment is recorded at its place. -/
lemma insertFragment_of_not_mem (hcs : Wellsized cs messageLength) (hsorted : l.Pairwise (· < ·))
    (hl : ∀ j ∈ l, j < cs.length) (hilt : i < cs.length) (hi : i ∉ l) :
    ∃ l' : List ℕ, insertFragment (infoAt cs i) (l.map (infoAt cs)) = some (l'.map (infoAt cs)) ∧
      l'.Pairwise (· < ·) ∧ ∀ j, j ∈ l' ↔ j = i ∨ j ∈ l := by
  induction l with
  | nil => exact ⟨[i], rfl, pairwise_singleton _ _, by simp⟩
  | cons k l ih =>
    obtain ⟨hk, hsorted'⟩ := pairwise_cons.mp hsorted
    rw [mem_cons, not_or] at hi
    obtain ⟨hne, hi⟩ := hi
    have hklt : k < cs.length := hl k mem_cons_self
    rw [map_cons, insertFragment]
    obtain hlt | hlt := Nat.lt_or_gt_of_ne hne
    · refine ⟨i :: k :: l, ?_, ?_, by simp⟩
      · rw [if_pos (hcs.infoAt_lt hilt hklt hlt)]
        rfl
      · refine pairwise_cons.mpr ⟨fun j hj => ?_, hsorted⟩
        obtain rfl | hj := mem_cons.mp hj
        · exact hlt
        · exact lt_trans hlt (hk j hj)
    · obtain ⟨l', hins, hsorted', hmem⟩ :=
        ih hsorted' (fun j hj => hl j (mem_cons_of_mem _ hj)) hi
      have hoffset := hcs.infoAt_lt hklt hilt hlt
      refine ⟨k :: l', ?_, ?_, ?_⟩
      · rw [if_neg (UInt16.lt_asymm hoffset), if_neg (UInt16.ne_of_lt hoffset).symm, hins]
        rfl
      · refine pairwise_cons.mpr ⟨fun j hj => ?_, hsorted'⟩
        obtain rfl | hj := (hmem j).mp hj
        · exact hlt
        · exact hk j hj
      · intro j
        rw [mem_cons, mem_cons, hmem, or_left_comm]

/-- The sum of the lengths, on 16 bits. -/
lemma toNat_receivedLength (l : List FragmentInfo) :
    (receivedLength l).toNat = (l.map fun f => f.length.toNat).sum % 2 ^ 16 := by
  have hfold : ∀ (l : List FragmentInfo) (n : UInt16), (l.foldl (fun n f => n + f.length) n).toNat =
        (n.toNat + (l.map fun f => f.length.toNat).sum) % 2 ^ 16 := by
    intro l
    induction l with
    | nil =>
      intro n
      rw [foldl_nil, map_nil, sum_nil, Nat.add_zero, Nat.mod_eq_of_lt n.toNat_lt]
    | cons f l ih =>
      intro n
      rw [foldl_cons, ih, map_cons, sum_cons, UInt16.toNat_add]
      omega
  rw [receivedLength, hfold]
  simp

/-- The lengths of all the fragments add up to the length of the message. -/
lemma sum_length (cs : List Bytes) : ∑ i ∈ Finset.range cs.length, (cs.getD i []).length = cs.flatten.length := by
  rw [← offset_length]
  generalize cs.length = n
  induction n with
  | zero => simp
  | succ n ih => rw [Finset.sum_range_succ, ih, offset_succ]

/-- The lengths received add up to the total length when nothing is missing, and only then. -/
lemma receivedLength_eq_iff (hcs : Wellsized cs messageLength) (hsorted : l.Pairwise (· < ·))
    (hl : ∀ j ∈ l, j < cs.length) :
    receivedLength (l.map (infoAt cs)) = messageLength >>> 2 ↔ ∀ j < cs.length, j ∈ l := by
  have hnodup : l.Nodup := hsorted.imp fun h => h.ne
  have hsum : 4 * ((l.map (infoAt cs)).map fun f => f.length.toNat).sum = ∑ i ∈ l.toFinset, (cs.getD i []).length := by
    rw [map_map, sum_toFinset _ hnodup]
    refine (sum_map_mul_left _ _ _).symm.trans ?_
    refine congrArg sum (map_congr_left fun i hi => ?_)
    exact (hcs.toNat_infoAt (hl i hi)).2
  have hsub : l.toFinset ⊆ Finset.range cs.length := by
    intro j hj
    exact Finset.mem_range.mpr (hl j (mem_toFinset.mp hj))
  have htotal : ∑ i ∈ Finset.range cs.length, (cs.getD i []).length = messageLength.toNat := by
    rw [sum_length, hcs.total]
  have hle : ∑ i ∈ l.toFinset, (cs.getD i []).length ≤ messageLength.toNat := by
    rw [← htotal]
    exact Finset.sum_le_sum_of_subset hsub
  have hmax := messageLength.toNat_lt
  have hwords := hcs.toNat_shift
  rw [← UInt16.toNat_inj, toNat_receivedLength, Nat.mod_eq_of_lt (by omega)]
  constructor
  · intro heq j hj
    by_contra hmissing
    -- a missing fragment has a positive length
    have hlt : ∑ i ∈ l.toFinset, (cs.getD i []).length < ∑ i ∈ Finset.range cs.length, (cs.getD i []).length := by
      refine Finset.sum_lt_sum_of_subset hsub (Finset.mem_range.mpr hj) ?_ ?_ fun _ _ _ => Nat.zero_le _
      · rw [mem_toFinset]
        exact hmissing
      · exact hcs.pos _ (Wellsized.mem_getD hj)
    omega
  · intro hall
    have heq : l.toFinset = Finset.range cs.length := by
      refine Finset.Subset.antisymm hsub fun j hj => ?_
      exact mem_toFinset.mpr (hall j (Finset.mem_range.mp hj))
    rw [heq, htotal] at hsum
    omega

end received

/-! ### One packet -/

section step

variable (malloc sendMalloc : (n : ℕ) → Buf n) {cs : List Bytes}
  {messageId messageLength : UInt16} (sourceIdentifier : UInt32) {l : List ℕ}
  {r : FragmentReassembly}

def packetAt (sendMalloc : (n : ℕ) → Buf n) (sourceIdentifier : UInt32)
    (messageId messageLength : UInt16) (cs : List Bytes) (i : ℕ) (sequenceNumber : UInt16) : Bytes :=
  (fragmentPacket sendMalloc sourceIdentifier
    (headerAt messageId messageLength (offset cs i) (cs.getD i []).length) (cs.getD i [])).send
      sequenceNumber

/-- The fragments in `l` were received, and nothing else. -/
structure Collecting (cs : List Bytes) (messageId messageLength : UInt16) (l : List ℕ)
    (r : FragmentReassembly) : Prop where
  messageId : r.messageId = messageId
  length : r.packetString.length = ZRTP_PACKET_OVERHEAD + messageLength.toNat
  sorted : l.Pairwise (· < ·)
  lt : ∀ i ∈ l, i < cs.length
  fragments : r.fragments = l.map (infoAt cs)
  holds : ∀ i ∈ l, Holds cs ZRTP_PACKET_HEADER_LENGTH r.packetString i

/-- Either nothing was received of a newer message, or some of its fragments were. -/
def Waiting (cs : List Bytes) (messageId messageLength : UInt16) (l : List ℕ) (r : FragmentReassembly) : Prop :=
  (r.messageId < messageId ∧ l = []) ∨ Collecting cs messageId messageLength l r

lemma Waiting.start (hcs : Wellsized cs messageLength) (h : Waiting cs messageId messageLength l r) (offset size : ℕ) :
    Collecting cs messageId messageLength l (r.start malloc (headerAt messageId messageLength offset size)).1 := by
  obtain ⟨hlt, rfl⟩ | h := h
  · rw [FragmentReassembly.start, headerAt, if_pos hlt]
    refine ⟨rfl, ?_, Pairwise.nil, by simp, rfl, by simp⟩
    dsimp only
    rw [Vector.toList_length, hcs.toNat_shift]
  · rw [FragmentReassembly.start, headerAt, if_neg]
    · exact h
    · rw [h.messageId]
      exact UInt16.lt_irrefl _

/-- Insertion of a fragment, received before or not. -/
lemma Collecting.insert (hcs : Wellsized cs messageLength)
    (h : Collecting cs messageId messageLength l r) {i : ℕ} (hi : i < cs.length) (sequenceNumber : UInt16) :
    ∃ l', Collecting cs messageId messageLength l'
        (r.insert (headerAt messageId messageLength (offset cs i) (cs.getD i []).length)
          (packetAt sendMalloc sourceIdentifier messageId messageLength cs i sequenceNumber)).1 ∧
      ∀ j, j ∈ l' ↔ j = i ∨ j ∈ l := by
  have hinfo : (⟨(headerAt messageId messageLength (offset cs i) (cs.getD i []).length).offset,
      (headerAt messageId messageLength (offset cs i) (cs.getD i []).length).fragmentLength⟩ :
      FragmentInfo) = infoAt cs i := rfl
  rw [FragmentReassembly.insert, hinfo, h.fragments]
  by_cases hmem : i ∈ l
  · rw [insertFragment_of_mem hcs h.sorted h.lt hmem]
    refine ⟨l, h, fun j => ?_⟩
    constructor
    · exact .inr
    · rintro (rfl | hj)
      · exact hmem
      · exact hj
  · obtain ⟨l', hins, hsorted, hl'⟩ := insertFragment_of_not_mem hcs h.sorted h.lt hi hmem
    have hdst : 4 * (headerAt messageId messageLength (offset cs i)
        (cs.getD i []).length).offset.toNat = offset cs i := (hcs.toNat_infoAt hi).1
    have hle := hcs.offset_add_length_le hi
    have hlen := h.length
    have hbase : ZRTP_PACKET_HEADER_LENGTH + offset cs i ≤ r.packetString.length := by
      rw [hlen, ZRTP_PACKET_OVERHEAD]
      omega
    rw [hins]
    dsimp only
    rw [packetAt, segment_send, hdst]
    refine ⟨l', ⟨h.messageId, ?_, hsorted, ?_, rfl, ?_⟩, hl'⟩
    · rw [length_patch, hlen]
      rw [hlen, ZRTP_PACKET_OVERHEAD]
      omega
    · intro j hj
      obtain rfl | hj := (hl' j).mp hj
      · exact hi
      · exact h.lt j hj
    · intro j hj
      obtain rfl | hj := (hl' j).mp hj
      · exact holds_patch_self hbase
      · refine (h.holds j hj).patch ?_ hbase
        rintro rfl
        exact hmem hj

variable {ch : ChannelContext}

/-- One packet of the message: it completes it when nothing else is missing, and is kept otherwise. -/
lemma packetCheck_packetAt (hcs : Wellsized cs messageLength)
    (h : Waiting cs messageId messageLength l ch.incomingFragmentedPacket) {i : ℕ}
    (hi : i < cs.length) (sequenceNumber : UInt16) :
    ∃ l' r, (∀ j, j ∈ l' ↔ j = i ∨ j ∈ l) ∧ Collecting cs messageId messageLength l' r ∧
      ((∃ j < cs.length, j ∉ l') → packetCheck malloc
        (packetAt sendMalloc sourceIdentifier messageId messageLength cs i sequenceNumber) ch =
          ⟨.error .PACKETFRAGMENT, { ch with incomingFragmentedPacket := r }, (packetCheck malloc
            (packetAt sendMalloc sourceIdentifier messageId messageLength cs i sequenceNumber)
            ch).accesses⟩) ∧
      ((∀ j < cs.length, j ∈ l') → (packetCheck malloc
        (packetAt sendMalloc sourceIdentifier messageId messageLength cs i sequenceNumber)
          ch).result = messageCheck sequenceNumber r.packetString
            (ZRTP_PACKET_OVERHEAD + messageLength.toNat)) := by
  have hlen := hcs.size _ (Wellsized.mem_getD hi)
  have hpos := hcs.pos _ (Wellsized.mem_getD hi)
  have hdvd := hcs.dvd _ (Wellsized.mem_getD hi)
  obtain ⟨l', hcollect, hl'⟩ := (h.start malloc hcs (offset cs i) (cs.getD i []).length).insert
    sendMalloc sourceIdentifier hcs hi sequenceNumber
  refine ⟨l', _, hl', hcollect, ?_⟩
  have hcheck : packetHeaderCheck (packetAt sendMalloc sourceIdentifier messageId messageLength cs i
      sequenceNumber) ch = none :=
    packetHeaderCheck_send sendMalloc _ _ _ _ ch ⟨by omega, hlen⟩
  have hsend := send_fragmentPacket sendMalloc sequenceNumber sourceIdentifier
    (headerAt messageId messageLength (offset cs i) (cs.getD i []).length) (cs.getD i [])
  have hparse : FragmentHeader.parse (packetAt sendMalloc sourceIdentifier messageId messageLength cs i
      sequenceNumber) = headerAt messageId messageLength (offset cs i) (cs.getD i []).length := by
    rw [packetAt, hsend, parse_fragmentBody]
  have hfrag : isFragmented (packetAt sendMalloc sourceIdentifier messageId messageLength cs i
      sequenceNumber) = true := by
    rw [packetAt, hsend, isFragmented_fragmentBody]
  have hseq : be16At (packetAt sendMalloc sourceIdentifier messageId messageLength cs i
      sequenceNumber) 2 = sequenceNumber := by
    rw [packetAt, hsend]
    exact be16At_of_drop _ rfl
  have hid : ¬ ch.incomingFragmentedPacket.messageId > messageId := by
    obtain ⟨hlt, -⟩ | h := h
    · exact UInt16.lt_asymm hlt
    · rw [h.messageId]
      exact UInt16.lt_irrefl _
  have hcomplete := receivedLength_eq_iff hcs hcollect.sorted hcollect.lt
  rw [← hcollect.fragments] at hcomplete
  have htotal : (headerAt messageId messageLength (offset cs i)
      (cs.getD i []).length).messageTotalLength = messageLength >>> 2 := rfl
  have hmsgId : (headerAt messageId messageLength (offset cs i)
      (cs.getD i []).length).messageId = messageId := rfl
  simp only [packetCheck, hcheck, hfrag, if_true, fragmentCheck, hparse, hmsgId, if_neg hid, htotal, hcomplete, hseq]
  constructor
  · rintro ⟨j, hj, hmissing⟩
    rw [if_neg fun hall => hmissing (hall j hj)]
  · intro hall
    rw [if_pos hall]
    have hover := hcs.overhead
    rw [hcs.toNat_shift, Nat.mod_eq_of_lt (by omega)]

/-- Packets of the message, while something is missing. -/
lemma checkAll_packetAt (hcs : Wellsized cs messageLength) (ds : List (ℕ × UInt16))
    (h : Waiting cs messageId messageLength l ch.incomingFragmentedPacket) (hds : ∀ d ∈ ds, d.1 < cs.length)
    (hmissing : ∃ j < cs.length, j ∉ l ∧ j ∉ ds.map Prod.fst) : ∃ l', (∀ j, j ∈ l' ↔ j ∈ l ∨ j ∈ ds.map Prod.fst) ∧
      (∀ c ∈ (checkAll malloc (ds.map fun d => packetAt sendMalloc sourceIdentifier messageId
        messageLength cs d.1 d.2) ch).2, c.result = .error .PACKETFRAGMENT) ∧
      Waiting cs messageId messageLength l' (checkAll malloc (ds.map fun d => packetAt sendMalloc
        sourceIdentifier messageId messageLength cs d.1 d.2) ch).1.incomingFragmentedPacket := by
  induction ds generalizing ch l with
  | nil => exact ⟨l, by simp, by simp [checkAll], h⟩
  | cons d ds ih =>
    obtain ⟨j, hj, hjl, hjd⟩ := hmissing
    rw [map_cons, mem_cons, not_or] at hjd
    obtain ⟨l1, r, hl1, hcollect, hkept, -⟩ := packetCheck_packetAt malloc sendMalloc sourceIdentifier
      hcs h (hds d mem_cons_self) d.2
    have hj1 : j ∉ l1 := by
      rw [hl1, not_or]
      exact ⟨hjd.1, hjl⟩
    have hstep := hkept ⟨j, hj, hj1⟩
    have hwait1 : Waiting cs messageId messageLength l1
        { ch with incomingFragmentedPacket := r }.incomingFragmentedPacket := .inr hcollect
    obtain ⟨l', hl', hresults, hwait⟩ := ih hwait1 (fun d hd => hds d (mem_cons_of_mem _ hd)) ⟨j, hj, hj1, hjd.2⟩
    simp only [map_cons, checkAll]
    rw [hstep]
    refine ⟨l', fun k => ?_, ?_, hwait⟩
    · rw [hl', hl1, mem_cons, or_assoc, or_left_comm]
    · intro c hc
      obtain rfl | hc := mem_cons.mp hc
      · rfl
      · exact hresults c hc

end step

/-! ### The message put together -/

/-- The checks on a buffer that holds a message. -/
lemma messageCheck_of_segment (t : MessageType) (content : Bytes) (sequenceNumber : UInt16) {s : Bytes} (n : ℕ)
    (h : segment s ZRTP_PACKET_HEADER_LENGTH (buildMessage t content).length = buildMessage t content) :
    ∃ sourceIdentifier, messageCheck sequenceNumber s n =
      .packet ⟨sequenceNumber, (4 : UInt16) * (messageLengthOf content >>> 2), t, sourceIdentifier⟩ (s.take n) := by
  have hdrop : ∃ rest : Bytes, s.drop 12 = (0x50 : UInt8) :: 0x5a :: (be16 (messageLengthOf content >>> 2) ++
      (messageTypeString t ++ rest)) := by
    refine ⟨content ++ s.drop (12 + (buildMessage t content).length), ?_⟩
    have hsplit := take_append_drop (buildMessage t content).length (s.drop 12)
    rw [drop_drop] at hsplit
    rw [Chunks.segment, ZRTP_PACKET_HEADER_LENGTH] at h
    rw [← hsplit, h, buildMessage, messageHeader]
    simp only [cons_append, append_assoc]
  obtain ⟨rest, hdrop⟩ := hdrop
  have h0 : s.getD ZRTP_PACKET_HEADER_LENGTH 0 = 0x50 := getD_of_drop hdrop 0 0
  have h1 : s.getD (ZRTP_PACKET_HEADER_LENGTH + 1) 0 = 0x5a := getD_of_drop hdrop 1 0
  have h2 : s.drop (ZRTP_PACKET_HEADER_LENGTH + 2) = be16 (messageLengthOf content >>> 2) ++
      (messageTypeString t ++ rest) := by
    rw [← drop_drop (j := ZRTP_PACKET_HEADER_LENGTH), ZRTP_PACKET_HEADER_LENGTH, hdrop]
    rfl
  have h3 : segment s (ZRTP_PACKET_HEADER_LENGTH + 4) 8 = messageTypeString t := by
    have h4 : s.drop (ZRTP_PACKET_HEADER_LENGTH + 4) = messageTypeString t ++ rest := by
      rw [show ZRTP_PACKET_HEADER_LENGTH + 4 = ZRTP_PACKET_HEADER_LENGTH + 2 + 2 from rfl, ← drop_drop, h2]
      rfl
    rw [Chunks.segment, h4]
    exact take_left' (length_messageTypeString t)
  refine ⟨be32At s 8, ?_⟩
  rw [messageCheck, if_neg, h3, messageTypeStringtoInt_messageTypeString, be16At_of_drop _ h2]
  rintro (h | h)
  · exact h h0
  · exact h h1

def chunksOf (ctx : Context) (t : MessageType) (content : Bytes) : List Bytes :=
  cut ctx (messageLengthOf content) (buildMessage t content) (messageLengthOf content).toNat 0

section message

variable {malloc sendMalloc : (n : ℕ) → Buf n} {ctx : Context} {sourceIdentifier : UInt32}
  {t : MessageType} {content : Bytes} {messageId : UInt16} {fragments : List FragmentPacket}

lemma toNat_messageLengthOf (hcontent : 12 + content.length < 2 ^ 16) :
    (messageLengthOf content).toNat = 12 + content.length :=
  Nat.mod_eq_of_lt hcontent

lemma length_buildMessage (hcontent : 12 + content.length < 2 ^ 16) :
    (buildMessage t content).length = (messageLengthOf content).toNat := by
  rw [toNat_messageLengthOf hcontent, buildMessage, messageHeader]
  simp only [length_append, length_cons, length_be16, length_messageTypeString]

lemma fragments_of_packetBuild (hcontent : 12 + content.length < 2 ^ 16)
    (hbuild : (packetBuild sendMalloc ctx sourceIdentifier t content messageId).1 = .fragmented fragments) :
    (messageLengthOf content).toNat + ZRTP_PACKET_OVERHEAD < 2 ^ 16 ∧
      fragments = (chunksOf ctx t content).mapIdx fun i chunk =>
        fragmentPacket sendMalloc sourceIdentifier (headerAt messageId (messageLengthOf content)
          (offset (chunksOf ctx t content) i) chunk.length) chunk := by
  rw [packetBuild] at hbuild
  dsimp only at hbuild
  split_ifs at hbuild with hmtu
  constructor
  · -- a length that wraps around is below the minimal MTU
    have hge := ctx.mtu_ge
    have hover : ZRTP_PACKET_OVERHEAD.toUInt16.toNat = 16 := rfl
    rw [UInt16.toNat_add, hover] at hmtu
    rw [BZRTP_MINIMUM_MTU] at hge
    have h16 : ZRTP_PACKET_OVERHEAD = 16 := rfl
    have hmax := (messageLengthOf content).toNat_lt
    omega
  · rw [BuiltPacket.fragmented.injEq] at hbuild
    rw [← hbuild, fragmentLoop_eq sendMalloc sourceIdentifier messageId (length_buildMessage hcontent)]
    simp only [chunksOf, UInt16.toNat_zero, Nat.zero_add]

lemma flatten_chunksOf (ctx : Context) (t : MessageType) (hcontent : 12 + content.length < 2 ^ 16) :
    (chunksOf ctx t content).flatten = buildMessage t content := by
  rw [chunksOf, flatten_cut (length_buildMessage hcontent) _ _ (Nat.zero_le _) (by simp)]
  rfl

lemma wellsized_chunksOf (hcontent : 12 + content.length < 2 ^ 16)
    (hbuild : (packetBuild sendMalloc ctx sourceIdentifier t content messageId).1 = .fragmented fragments)
    (haligned : ∀ f ∈ fragments, 4 ∣ f.messageLength)
    (hsize : ∀ f ∈ fragments, f.messageLength + ZRTP_FRAGMENTEDPACKET_OVERHEAD ≤ ZRTP_MAX_PACKET_LENGTH) :
    Wellsized (chunksOf ctx t content) (messageLengthOf content) ∧
      (chunksOf ctx t content).flatten = buildMessage t content := by
  obtain ⟨hover, hfrs⟩ := fragments_of_packetBuild hcontent hbuild
  have hlen := length_buildMessage (t := t) hcontent
  have hflatten := flatten_chunksOf ctx t hcontent
  have hmem : ∀ c ∈ chunksOf ctx t content, ∃ f ∈ fragments, f.messageLength = c.length := by
    intro c hc
    obtain ⟨i, hi, rfl⟩ := mem_iff_getElem.mp hc
    refine ⟨fragmentPacket sendMalloc sourceIdentifier (headerAt messageId (messageLengthOf content)
      (offset (chunksOf ctx t content) i) (chunksOf ctx t content)[i].length)
      (chunksOf ctx t content)[i], ?_, rfl⟩
    rw [hfrs]
    exact mem_mapIdx.mpr ⟨i, hi, rfl⟩
  refine ⟨⟨fun c hc => (length_of_mem_cut hlen _ _ hc).1, fun c hc => ?_, fun c hc => ?_, ?_, hover⟩, hflatten⟩
  · obtain ⟨f, hf, heq⟩ := hmem c hc
    rw [← heq]
    exact haligned f hf
  · obtain ⟨f, hf, heq⟩ := hmem c hc
    rw [← heq]
    exact hsize f hf
  · rw [hflatten, hlen]

/-- The packet of a delivered fragment, with the sequence number of its sending. -/
def deliver (fragments : List FragmentPacket) (d : Fin fragments.length × UInt16) : Bytes :=
  (fragments.get d.1).send d.2

section

variable (hcontent : 12 + content.length < 2 ^ 16)
  (hbuild : (packetBuild sendMalloc ctx sourceIdentifier t content messageId).1 = .fragmented fragments)
include hcontent hbuild

lemma deliver_eq (d : Fin fragments.length × UInt16) :
    d.1.val < (chunksOf ctx t content).length ∧ deliver fragments d =
      packetAt sendMalloc sourceIdentifier messageId (messageLengthOf content) (chunksOf ctx t content) d.1 d.2 := by
  obtain ⟨-, rfl⟩ := fragments_of_packetBuild hcontent hbuild
  have hlt : d.1.val < (chunksOf ctx t content).length := lt_of_lt_of_eq d.1.isLt length_mapIdx
  refine ⟨hlt, ?_⟩
  rw [deliver, packetAt, get_eq_getElem, getElem_mapIdx, getD_eq_getElem _ _ hlt]

/-- Fragments of a message delivered in any order, with any duplication: as long as one is missing
the receiver answers that it waits for fragments, and the last one gives the message. -/
theorem reassembly_any_order (haligned : ∀ f ∈ fragments, 4 ∣ f.messageLength)
    (hsize : ∀ f ∈ fragments, f.messageLength + ZRTP_FRAGMENTEDPACKET_OVERHEAD ≤ ZRTP_MAX_PACKET_LENGTH)
    (ch : ChannelContext) (hch : ch.incomingFragmentedPacket.messageId < messageId)
    (ds : List (Fin fragments.length × UInt16)) (hmissing : ∃ j, j ∉ ds.map Prod.fst)
    (last : Fin fragments.length × UInt16) :
    (∀ c ∈ (checkAll malloc (ds.map (deliver fragments)) ch).2, c.result = .error .PACKETFRAGMENT) ∧
      ((∃ j, j ∉ (ds ++ [last]).map Prod.fst) → (packetCheck malloc (deliver fragments last)
          (checkAll malloc (ds.map (deliver fragments)) ch).1).result = .error .PACKETFRAGMENT) ∧
      ((∀ j, j ∈ (ds ++ [last]).map Prod.fst) → ∃ p string, (packetCheck malloc (deliver fragments last)
          (checkAll malloc (ds.map (deliver fragments)) ch).1).result = .packet p string ∧
        p.sequenceNumber = last.2 ∧ p.messageType = t ∧ p.messageLength = messageLengthOf content ∧
        segment string ZRTP_PACKET_HEADER_LENGTH (buildMessage t content).length = buildMessage t content) := by
  obtain ⟨hcs, hflatten⟩ := wellsized_chunksOf hcontent hbuild haligned hsize
  have hdeliver := deliver_eq hcontent hbuild
  have hlength : fragments.length = (chunksOf ctx t content).length := by
    rw [(fragments_of_packetBuild hcontent hbuild).2, length_mapIdx]
  set cs := chunksOf ctx t content with hcsdef
  have hmap : ds.map (deliver fragments) = (ds.map fun d => (d.1.val, d.2)).map fun d =>
      packetAt sendMalloc sourceIdentifier messageId (messageLengthOf content) cs d.1 d.2 := by
    rw [map_map]
    exact map_congr_left fun d _ => (hdeliver d).2
  have hmem : ∀ (l : List (Fin fragments.length × UInt16)) (j : Fin fragments.length),
      j.val ∈ (l.map fun d => (d.1.val, d.2)).map Prod.fst ↔ j ∈ l.map Prod.fst := by
    intro l j
    simp only [map_map, mem_map, Function.comp_apply]
    constructor
    · rintro ⟨d, hd, heq⟩
      exact ⟨d, hd, Fin.val_injective heq⟩
    · rintro ⟨d, hd, rfl⟩
      exact ⟨d, hd, rfl⟩
  obtain ⟨j0, hj0⟩ := hmissing
  obtain ⟨l, hl, hresults, hwait⟩ := checkAll_packetAt malloc sendMalloc sourceIdentifier hcs
    (ds.map fun d => (d.1.val, d.2)) (.inl ⟨hch, rfl⟩ : Waiting cs messageId _ [] _)
    (by
      intro d hd
      obtain ⟨d, -, rfl⟩ := mem_map.mp hd
      exact (hdeliver d).1)
    ⟨j0.val, hlength ▸ j0.isLt, by simp, fun h => hj0 ((hmem ds j0).mp h)⟩
  rw [hmap, (hdeliver last).2]
  refine ⟨hresults, ?_⟩
  obtain ⟨l', r, hl', hcollect, hkept, hdone⟩ := packetCheck_packetAt malloc sendMalloc
    sourceIdentifier hcs hwait (hdeliver last).1 last.2
  have hall : ∀ j : Fin fragments.length, j.val ∈ l' ↔ j ∈ (ds ++ [last]).map Prod.fst := by
    intro j
    rw [hl', hl, hmem, map_append, mem_append, or_comm, map_singleton, mem_singleton, Fin.val_inj]
    simp
  constructor
  · rintro ⟨j, hj⟩
    rw [hkept ⟨j.val, hlength ▸ j.isLt, fun h => hj ((hall j).mp h)⟩]
  · intro hcover
    have hcover' : ∀ j < cs.length, j ∈ l' := by
      intro j hj
      exact (hall ⟨j, hlength ▸ hj⟩).mpr (hcover _)
    have hmessage : segment r.packetString ZRTP_PACKET_HEADER_LENGTH (buildMessage t content).length =
        buildMessage t content := by
      rw [← hflatten]
      exact segment_of_holds fun i hi => hcollect.holds i (hcover' i hi)
    obtain ⟨ssrc, hcheck⟩ := messageCheck_of_segment t content last.2
      (ZRTP_PACKET_OVERHEAD + (messageLengthOf content).toNat) hmessage
    refine ⟨_, _, (hdone hcover').trans hcheck, rfl, rfl, ?_, ?_⟩
    · have hmax := (messageLengthOf content).toNat_lt
      have hshift := hcs.toNat_shift
      have h4 : (4 : UInt16).toNat = 4 := rfl
      rw [← UInt16.toNat_inj, UInt16.toNat_mul, h4, Nat.mod_eq_of_lt (by omega)]
      omega
    · rw [← hcollect.length, take_length]
      exact hmessage

/-- Fragments made of words: those of a message of words sent with an MTU of words. -/
lemma aligned_of_mtu (hmtu : 4 ∣ ctx.mtu) (hlength : 4 ∣ content.length) : ∀ f ∈ fragments, 4 ∣ f.messageLength := by
  obtain ⟨-, rfl⟩ := fragments_of_packetBuild hcontent hbuild
  intro f hf
  obtain ⟨i, hi, rfl⟩ := mem_mapIdx.mp hf
  have hcast := toNat_messageLengthOf hcontent
  have hzero : 4 ∣ (0 : UInt16).toNat := ⟨0, rfl⟩
  exact dvd_length_of_mem_cut (by omega) hmtu hzero (length_buildMessage hcontent) _
    (getElem_mem hi)

/-- Fragments of an acceptable size: those sent with an MTU within the size of a packet. -/
lemma size_of_mtu (hmtu : ctx.mtu ≤ ZRTP_MAX_PACKET_LENGTH) :
    ∀ f ∈ fragments, f.messageLength + ZRTP_FRAGMENTEDPACKET_OVERHEAD ≤ ZRTP_MAX_PACKET_LENGTH := by
  obtain ⟨-, rfl⟩ := fragments_of_packetBuild hcontent hbuild
  intro f hf
  obtain ⟨i, hi, rfl⟩ := mem_mapIdx.mp hf
  have hge := ctx.mtu_ge
  obtain ⟨-, hle⟩ := length_of_mem_cut (length_buildMessage hcontent) _ _
    (getElem_mem hi : (chunksOf ctx t content)[i] ∈ chunksOf ctx t content)
  simp only [fragmentPacket]
  rw [BZRTP_MINIMUM_MTU] at hge
  have h24 : ZRTP_FRAGMENTEDPACKET_OVERHEAD = 24 := rfl
  omega

end

lemma packetBuild_of_mtu_lt (hmtu : ctx.mtu < (messageLengthOf content + ZRTP_PACKET_OVERHEAD.toUInt16).toNat) :
    (packetBuild sendMalloc ctx sourceIdentifier t content messageId).1 =
      .fragmented (fragmentLoop sendMalloc ctx sourceIdentifier messageId (messageLengthOf content)
        (buildMessage t content) (messageLengthOf content).toNat 0) := by
  simp only [packetBuild, if_pos hmtu]

/-- A message of 1000 bytes, sent with the smallest MTU as two fragments, the second one delivered
twice before the first one. -/
theorem reassembly_two_fragments : ∃ fragments : List FragmentPacket,
    (packetBuild zeros (setMTU 600) 7 .DHPart1 (replicate 988 1) 1).1 = .fragmented fragments ∧
    ∃ (i j : Fin fragments.length) (p : Packet) (string : Bytes), i ≠ j ∧
      (∀ c ∈ (checkAll zeros ([(j, 3), (j, 4)].map (deliver fragments)) .init).2, c.result = .error .PACKETFRAGMENT) ∧
      (packetCheck zeros (deliver fragments (i, 5))
        (checkAll zeros ([(j, 3), (j, 4)].map (deliver fragments)) .init).1).result = .packet p string ∧
      segment string ZRTP_PACKET_HEADER_LENGTH
        (buildMessage .DHPart1 (replicate 988 1)).length = buildMessage .DHPart1 (replicate 988 1) := by
  obtain ⟨fragments, hbuild, hlen⟩ : ∃ fragments : List FragmentPacket,
      (packetBuild zeros (setMTU 600) 7 .DHPart1 (replicate 988 1) 1).1 =
        .fragmented fragments ∧ fragments.length = 2 :=
    ⟨_, packetBuild_of_mtu_lt (by decide +kernel), by decide +kernel⟩
  have hcontent : 12 + (replicate 988 (1 : UInt8)).length < 2 ^ 16 := by
    rw [length_replicate]
    decide
  have haligned := aligned_of_mtu hcontent hbuild (by decide) (by rw [length_replicate]; decide)
  have hsize := size_of_mtu hcontent hbuild (by decide)
  have hmem : ∀ k : Fin fragments.length, k = ⟨0, by omega⟩ ∨ k = ⟨1, by omega⟩ := by
    intro k
    have hk := k.isLt
    simp only [Fin.ext_iff]
    omega
  obtain ⟨hfirst, -, hdone⟩ := reassembly_any_order hcontent hbuild haligned hsize .init
    (by decide) [(⟨1, by omega⟩, 3), (⟨1, by omega⟩, 4)] ⟨⟨0, by omega⟩, by simp⟩
    (⟨0, by omega⟩, 5)
  obtain ⟨p, string, hresult, -, -, -, hmessage⟩ := hdone (by
    intro k
    obtain rfl | rfl := hmem k <;> simp)
  exact ⟨fragments, hbuild, ⟨0, by omega⟩, ⟨1, by omega⟩, p, string, by simp, hfirst, hresult, hmessage⟩

lemma packetCheck_of_too_long {input : Bytes} (ch : ChannelContext) (h : ZRTP_MAX_PACKET_LENGTH < input.length) :
    (packetCheck malloc input ch).result = .error .INVALIDPACKET := by
  rw [packetCheck, packetHeaderCheck, if_pos (.inr h)]

lemma length_packetAt (cs : List Bytes) (i : ℕ) (messageLength sequenceNumber : UInt16) :
    (packetAt sendMalloc sourceIdentifier messageId messageLength cs i sequenceNumber).length =
      (cs.getD i []).length + ZRTP_FRAGMENTEDPACKET_OVERHEAD := by
  rw [packetAt, send_fragmentPacket, length_append, length_fragmentBody, length_be32,
    ZRTP_FRAGMENTEDPACKET_OVERHEAD, ZRTP_FRAGMENTEDPACKET_HEADER_LENGTH, ZRTP_PACKET_CRC_LENGTH]

/-- With an MTU of 4000 bytes, the packets of a message of 5000 bytes are refused. -/
theorem not_reassembly_large_mtu : ¬ ∀ (malloc sendMalloc : (n : ℕ) → Buf n) (mtu : ℕ) (sourceIdentifier : UInt32)
      (t : MessageType) (content : Bytes) (messageId : UInt16)
      (fragments : List FragmentPacket), 12 + content.length < 2 ^ 16 →
      (packetBuild sendMalloc (setMTU mtu) sourceIdentifier t content messageId).1 = .fragmented fragments →
      (∀ f ∈ fragments, 4 ∣ f.messageLength) →
      ∀ ch : ChannelContext, ch.incomingFragmentedPacket.messageId < messageId →
      ∀ ds : List (Fin fragments.length × UInt16), (∃ j, j ∉ ds.map Prod.fst) →
      ∀ c ∈ (checkAll malloc (ds.map (deliver fragments)) ch).2, c.result = .error .PACKETFRAGMENT := by
  intro h
  obtain ⟨fragments, hbuild, hlen⟩ : ∃ fragments : List FragmentPacket,
      (packetBuild zeros (setMTU 4000) 7 .DHPart1 (replicate 4988 1) 1).1 =
        .fragmented fragments ∧ fragments.length = 2 :=
    ⟨_, packetBuild_of_mtu_lt (by decide +kernel), by decide +kernel⟩
  have hcontent : 12 + (replicate 4988 (1 : UInt8)).length < 2 ^ 16 := by
    rw [length_replicate]
    decide
  have haligned := aligned_of_mtu hcontent hbuild (by decide) (by rw [length_replicate]; decide)
  have hresult := h zeros zeros 4000 7 .DHPart1 (replicate 4988 1) 1 fragments hcontent hbuild
    haligned .init (by decide) [(⟨0, by omega⟩, 3)] ⟨⟨1, by omega⟩, by simp⟩ _ mem_cons_self
  rw [packetCheck_of_too_long] at hresult
  · cases hresult
  · have hcast : (messageLengthOf (replicate 4988 1)).toNat = 5000 := by
      rw [messageLengthOf, length_replicate]
      rfl
    rw [(deliver_eq hcontent hbuild _).2, length_packetAt, chunksOf,
      length_cut_zero _ (length_buildMessage hcontent) (by rw [hcast]; decide)
        (by rw [hcast]; decide), hcast]
    decide

end message

end Bzrtp
