import LinphoneSdk.Bzrtp.Packet

/-!
# Copies to the reassembly buffer

The size of the buffer is fixed by the first fragment of a message, while the place and the size of
a copy come from the fragment at hand. This module says for which packets the copies of a whole run
stay in the buffer.
-/

namespace Bzrtp

open Bytes Chunks List Option FragmentHeader

variable (malloc : (n : ℕ) → Buf n)

/-! ### What a run must do -/

/-- The accesses of a run, after the allocation of a buffer for a message: each copy is to the buffer
allocated for its message, within its size, and from the packet received. -/
def CopiesFit : Option (UInt16 × ℕ) → List Access → Prop
  | _, [] => True
  | _, .alloc messageId size :: l => CopiesFit (some (messageId, size)) l
  | buffer, .copy messageId dst length src packetLength :: l =>
    (∃ size, buffer = some (messageId, size) ∧ dst + length ≤ size) ∧ src + length ≤ packetLength ∧ CopiesFit buffer l

def runAccesses (malloc : (n : ℕ) → Buf n) (inputs : List Bytes) (ch : ChannelContext) : List Access :=
  ((checkAll malloc inputs ch).2.map Checked.accesses).flatten

def bufferAfter (buffer : Option (UInt16 × ℕ)) : List Access → Option (UInt16 × ℕ)
  | [] => buffer
  | .alloc messageId size :: l => bufferAfter (some (messageId, size)) l
  | .copy _ _ _ _ _ :: l => bufferAfter buffer l

lemma copiesFit_append (buffer : Option (UInt16 × ℕ)) (l l' : List Access) :
    CopiesFit buffer (l ++ l') ↔ CopiesFit buffer l ∧ CopiesFit (bufferAfter buffer l) l' := by
  induction l generalizing buffer with
  | nil => simp [CopiesFit, bufferAfter]
  | cons a l ih =>
    cases a with
    | alloc messageId size => exact ih _
    | copy messageId dst length src packetLength =>
      simp only [cons_append, CopiesFit, bufferAfter, ih, and_assoc]

/-! ### When a packet is copied in the buffer -/

variable (ch : ChannelContext) (input : Bytes)

/-- The packet is a fragment of the current message or of a newer one. -/
def Joins : Prop :=
  packetHeaderCheck input ch = none ∧ isFragmented input = true ∧
    ch.incomingFragmentedPacket.messageId ≤ (parse input).messageId

/-- The packet is a fragment that the reassembly keeps: there is none yet at its offset. -/
def Kept : Prop :=
  Joins ch input ∧ (ch.incomingFragmentedPacket.messageId = (parse input).messageId →
      ∀ f ∈ ch.incomingFragmentedPacket.fragments, f.offset ≠ (parse input).offset)

def totalLength : UInt16 :=
  if ch.incomingFragmentedPacket.messageId < (parse input).messageId
  then (parse input).messageTotalLength
  else ch.incomingFragmentedPacket.messageLength

/-- A packet that is not kept, or a fragment of a message with a non-zero identifier whose end is
within the total length. -/
def Contained : Prop :=
  Kept ch input → (parse input).messageId ≠ 0 ∧ 4 * (parse input).offset.toNat + input.length ≤
      4 * (totalLength ch input).toNat + 28

/-! ### The list of fragments -/

def SortedFragments (l : List FragmentInfo) : Prop := l.Pairwise fun f g => f.offset < g.offset

/-- A fragment is refused when there is one at its offset. -/
lemma insertFragment_eq_none {l : List FragmentInfo} {new : FragmentInfo} (hl : SortedFragments l) :
    insertFragment new l = none ↔ ∃ f ∈ l, f.offset = new.offset := by
  induction l with
  | nil => simp [insertFragment]
  | cons f l ih =>
    obtain ⟨hf, hl⟩ := pairwise_cons.mp hl
    rw [insertFragment]
    split_ifs with hlt heq
    · -- the next fragments are further than `f`
      simp only [mem_cons, exists_eq_or_imp, false_iff, not_or, not_exists, not_and]
      refine ⟨(UInt16.ne_of_lt hlt).symm, fun g hg => ?_⟩
      exact (UInt16.ne_of_lt (UInt16.lt_trans hlt (hf g hg))).symm
    · simp [heq]
    · rw [map_eq_none_iff, ih hl]
      simp only [mem_cons, exists_eq_or_imp, iff_or_self]
      intro h
      exact absurd h.symm heq

lemma mem_of_insertFragment {l l' : List FragmentInfo} {new f : FragmentInfo}
    (h : insertFragment new l = some l') (hf : f ∈ l') : f = new ∨ f ∈ l := by
  induction l generalizing l' with
  | nil =>
    simp only [insertFragment, some.injEq] at h
    subst h
    simpa using hf
  | cons g l ih =>
    rw [insertFragment] at h
    split_ifs at h with hlt heq
    · rw [some.injEq] at h
      subst h
      simpa using hf
    · obtain ⟨l2, h2, rfl⟩ := map_eq_some_iff.mp h
      obtain rfl | hf := mem_cons.mp hf
      · simp
      · obtain rfl | hf := ih h2 hf
        · simp
        · simp [hf]

/-- Insertion keeps the order. -/
lemma sorted_insertFragment {l l' : List FragmentInfo} {new : FragmentInfo} (hl : SortedFragments l)
    (h : insertFragment new l = some l') : SortedFragments l' := by
  induction l generalizing l' with
  | nil =>
    simp only [insertFragment, some.injEq] at h
    subst h
    simp [SortedFragments]
  | cons f l ih =>
    have hcons := hl
    obtain ⟨hf, hl⟩ := pairwise_cons.mp hl
    rw [insertFragment] at h
    split_ifs at h with hlt heq
    · rw [some.injEq] at h
      subst h
      refine pairwise_cons.mpr ⟨fun g hg => ?_, hcons⟩
      obtain rfl | hg := mem_cons.mp hg
      · exact hlt
      · exact UInt16.lt_trans hlt (hf g hg)
    · obtain ⟨l2, h2, rfl⟩ := map_eq_some_iff.mp h
      refine pairwise_cons.mpr ⟨fun g hg => ?_, ih hl h2⟩
      obtain rfl | hg := mem_of_insertFragment h2 hg
      · exact UInt16.lt_of_le_of_ne (UInt16.not_lt.mp hlt) (Ne.symm heq)
      · exact hf g hg

/-! ### Steps -/

/-- The state of a channel and the buffer it writes to. -/
structure BufferInv (ch : ChannelContext) (buffer : Option (UInt16 × ℕ)) : Prop where
  sorted : SortedFragments ch.incomingFragmentedPacket.fragments
  /-- The buffer is the one of the current message, unless there is none. -/
  current : ch.incomingFragmentedPacket.messageId ≠ 0 → buffer = some (ch.incomingFragmentedPacket.messageId,
      ZRTP_PACKET_OVERHEAD + ch.incomingFragmentedPacket.messageLength.toNat * 4)
  /-- No buffer is allocated for the identifier zero. -/
  messageId : ∀ id size, buffer = some (id, size) → id ≠ 0

variable {ch : ChannelContext} {input : Bytes} {buffer : Option (UInt16 × ℕ)}

lemma length_of_packetHeaderCheck (h : packetHeaderCheck input ch = none) :
    28 ≤ input.length ∧ input.length ≤ 3072 := by
  rw [packetHeaderCheck] at h
  split_ifs at h with hlen
  simp only [ZRTP_MIN_PACKET_LENGTH, ZRTP_MAX_PACKET_LENGTH] at hlen
  omega

/-- Other packets do not touch the reassembly. -/
lemma packetCheck_of_not_joins (h : ¬ Joins ch input) :
    (packetCheck malloc input ch).context = ch ∧ (packetCheck malloc input ch).accesses = [] := by
  rw [packetCheck]
  cases hcheck : packetHeaderCheck input ch with
  | some exitCode => exact ⟨rfl, rfl⟩
  | none =>
    dsimp only
    split_ifs with hfrag
    · rw [fragmentCheck, if_pos (UInt16.not_le.mp fun hid => h ⟨hcheck, hfrag, hid⟩)]
      exact ⟨rfl, rfl⟩
    · exact ⟨rfl, rfl⟩

/-- The message being put together once a packet of it is received. -/
def started (malloc : (n : ℕ) → Buf n) (ch : ChannelContext) (input : Bytes) : FragmentReassembly × List Access :=
  ch.incomingFragmentedPacket.start malloc (parse input)

/-- The reassembly after a fragment: the one with the fragment inserted, unless it is complete. -/
lemma packetCheck_of_joins (h : Joins ch input) :
    (packetCheck malloc input ch).accesses = (started malloc ch input).2 ++
        ((started malloc ch input).1.insert (parse input) input).2 ∧
      ∃ r, r = ((started malloc ch input).1.insert (parse input) input).1 ∧
        ((packetCheck malloc input ch).context.incomingFragmentedPacket = r ∨
          (packetCheck malloc input ch).context.incomingFragmentedPacket =
            { r with fragments := [], messageId := 0 }) := by
  obtain ⟨hcheck, hfrag, hid⟩ := h
  have hle : ¬ ch.incomingFragmentedPacket.messageId > (parse input).messageId :=
    UInt16.not_lt.mpr hid
  simp only [packetCheck, hcheck, hfrag, if_true, fragmentCheck, if_neg hle, started]
  split_ifs
  · exact ⟨rfl, _, rfl, Or.inr rfl⟩
  · exact ⟨rfl, _, rfl, Or.inl rfl⟩

lemma started_messageLength : (started malloc ch input).1.messageLength = totalLength ch input := by
  rw [started, FragmentReassembly.start, totalLength]
  split_ifs <;> rfl

lemma started_messageId (h : Joins ch input) : (started malloc ch input).1.messageId = (parse input).messageId := by
  rw [started, FragmentReassembly.start]
  split_ifs with hlt
  · rfl
  · exact UInt16.le_antisymm h.2.2 (UInt16.not_lt.mp hlt)

lemma started_sorted (input : Bytes) (h : SortedFragments ch.incomingFragmentedPacket.fragments) :
    SortedFragments (started malloc ch input).1.fragments := by
  rw [started, FragmentReassembly.start]
  split_ifs
  · exact Pairwise.nil
  · exact h

/-- The buffer of the message once a packet of it is received. -/
lemma bufferAfter_started (hinv : BufferInv ch buffer) (hjoins : Joins ch input) :
    CopiesFit buffer (started malloc ch input).2 ∧ ((parse input).messageId ≠ 0 →
        bufferAfter buffer (started malloc ch input).2 = some ((parse input).messageId,
            ZRTP_PACKET_OVERHEAD + (totalLength ch input).toNat * 4)) ∧
      ∀ id size, bufferAfter buffer (started malloc ch input).2 = some (id, size) → id ≠ 0 := by
  rw [started, FragmentReassembly.start, totalLength]
  split_ifs with h
  · refine ⟨trivial, fun _ => rfl, fun id size heq h0 => ?_⟩
    simp only [bufferAfter, some.injEq, Prod.mk.injEq] at heq
    rw [heq.1, h0] at h
    exact UInt16.not_lt.mpr UInt16.zero_le h
  · have heq := UInt16.le_antisymm hjoins.2.2 (UInt16.not_lt.mp h)
    refine ⟨trivial, fun hne => ?_, hinv.messageId⟩
    rw [← heq] at hne ⊢
    exact hinv.current hne

lemma kept_iff_insert (hsorted : SortedFragments ch.incomingFragmentedPacket.fragments)
    (hjoins : Joins ch input) : Kept ch input ↔ insertFragment
      ⟨(parse input).offset, (parse input).fragmentLength⟩ (started malloc ch input).1.fragments ≠ none := by
  rw [Ne, insertFragment_eq_none (started_sorted malloc input hsorted), started, FragmentReassembly.start]
  split_ifs with h
  · simp [Kept, hjoins, UInt16.ne_of_lt h]
  · have heq := UInt16.le_antisymm hjoins.2.2 (UInt16.not_lt.mp h)
    simp [Kept, hjoins, heq]

lemma copiesFit_packetCheck (hinv : BufferInv ch buffer) :
    CopiesFit buffer (packetCheck malloc input ch).accesses ↔ Contained ch input := by
  by_cases hjoins : Joins ch input
  swap
  · rw [(packetCheck_of_not_joins malloc hjoins).2]
    simp only [CopiesFit, Contained, true_iff]
    intro hkept
    exact absurd hkept.1 hjoins
  obtain ⟨hfit, hbuffer, hne0⟩ := bufferAfter_started malloc hinv hjoins
  have hkept := kept_iff_insert malloc hinv.sorted hjoins
  obtain ⟨hlen, -⟩ := length_of_packetHeaderCheck hjoins.1
  rw [(packetCheck_of_joins malloc hjoins).1, copiesFit_append]
  simp only [hfit, true_and, FragmentReassembly.insert]
  cases hins : insertFragment
      ⟨(parse input).offset, (parse input).fragmentLength⟩
      (started malloc ch input).1.fragments with
  | none =>
    simp only [CopiesFit, Contained, hkept, hins]
    simp
  | some fragments =>
    have hkept : Kept ch input := hkept.mpr (by rw [hins]; simp)
    simp only [CopiesFit, Contained, hkept, forall_const, and_true]
    constructor
    · rintro ⟨⟨size, hsize, hle⟩, -⟩
      have hne := hne0 _ _ hsize
      refine ⟨hne, ?_⟩
      rw [hbuffer hne, some.injEq, Prod.mk.injEq] at hsize
      simp only [ZRTP_PACKET_OVERHEAD, ZRTP_PACKET_HEADER_LENGTH, ZRTP_PACKET_CRC_LENGTH,
        ZRTP_FRAGMENTEDPACKET_OVERHEAD, ZRTP_FRAGMENTEDPACKET_HEADER_LENGTH] at hsize hle
      omega
    · rintro ⟨hne, hle⟩
      refine ⟨⟨_, hbuffer hne, ?_⟩, ?_⟩ <;>
      · simp only [ZRTP_PACKET_OVERHEAD, ZRTP_PACKET_HEADER_LENGTH, ZRTP_PACKET_CRC_LENGTH,
          ZRTP_FRAGMENTEDPACKET_OVERHEAD, ZRTP_FRAGMENTEDPACKET_HEADER_LENGTH]
        omega

/-- Insertion keeps the message and its order, and allocates nothing. -/
lemma insert_fields (h : FragmentHeader) (input : Bytes) (buffer : Option (UInt16 × ℕ))
    {r : FragmentReassembly} (hsorted : SortedFragments r.fragments) :
    (r.insert h input).1.messageId = r.messageId ∧ (r.insert h input).1.messageLength = r.messageLength ∧
      SortedFragments (r.insert h input).1.fragments ∧ bufferAfter buffer (r.insert h input).2 = buffer := by
  rw [FragmentReassembly.insert]
  split
  · exact ⟨rfl, rfl, hsorted, rfl⟩
  · rename_i fragments hins
    exact ⟨rfl, rfl, sorted_insertFragment hsorted hins, rfl⟩

lemma bufferAfter_append (l l' : List Access) :
    bufferAfter buffer (l ++ l') = bufferAfter (bufferAfter buffer l) l' := by
  induction l generalizing buffer with
  | nil => rfl
  | cons a l ih =>
    cases a with
    | alloc messageId size => exact ih
    | copy messageId dst length src packetLength => exact ih

/-- Every packet keeps the invariant, fitting or not. -/
lemma BufferInv.packetCheck (hinv : BufferInv ch buffer) : BufferInv (Bzrtp.packetCheck malloc input ch).context
      (bufferAfter buffer (Bzrtp.packetCheck malloc input ch).accesses) := by
  by_cases hjoins : Joins ch input
  swap
  · rw [(packetCheck_of_not_joins malloc hjoins).1, (packetCheck_of_not_joins malloc hjoins).2]
    exact hinv
  obtain ⟨-, hbuffer, hne0⟩ := bufferAfter_started malloc hinv hjoins
  obtain ⟨haccesses, r, hr, hcontext⟩ := packetCheck_of_joins malloc hjoins
  obtain ⟨hid, hlength, hsorted, hafter⟩ :=
    insert_fields (parse input) input (bufferAfter buffer (started malloc ch input).2)
      (started_sorted malloc input hinv.sorted)
  rw [← hr] at hid hlength hsorted
  rw [haccesses, bufferAfter_append, hafter]
  obtain hcontext | hcontext := hcontext
  · constructor
    · rw [hcontext]
      exact hsorted
    · rw [hcontext, hid, hlength, started_messageId malloc hjoins, started_messageLength]
      exact hbuffer
    · exact hne0
  · constructor
    · rw [hcontext]
      exact Pairwise.nil
    · rw [hcontext]
      intro h
      exact absurd rfl h
    · exact hne0

/-! ### Runs -/

lemma copiesFit_runAccesses (hinv : BufferInv ch buffer) (inputs : List Bytes) :
    CopiesFit buffer (runAccesses malloc inputs ch) ↔ ∀ before input after, inputs = before ++ input :: after →
        Contained (checkAll malloc before ch).1 input := by
  induction inputs generalizing ch buffer with
  | nil => simp [runAccesses, checkAll, CopiesFit]
  | cons input inputs ih =>
    have hrun : runAccesses malloc (input :: inputs) ch = (packetCheck malloc input ch).accesses ++
        runAccesses malloc inputs (packetCheck malloc input ch).context := rfl
    rw [hrun, copiesFit_append, copiesFit_packetCheck malloc hinv, ih (hinv.packetCheck malloc)]
    constructor
    · rintro ⟨hfirst, hrest⟩ before input' after heq
      cases before with
      | nil =>
        obtain ⟨rfl, -⟩ := cons.inj heq
        exact hfirst
      | cons x before =>
        obtain ⟨rfl, htail⟩ := cons.inj heq
        exact hrest before input' after htail
    · intro h
      refine ⟨h [] input inputs rfl, fun before input' after heq => ?_⟩
      exact h (input :: before) input' after (by rw [heq]; rfl)

/-- The copies of a run fit their buffers exactly when each packet, in the state it is received in,
is contained in the message it belongs to. -/
theorem copiesFit_iff (inputs : List Bytes) :
    CopiesFit none (runAccesses malloc inputs .init) ↔ ∀ before input after, inputs = before ++ input :: after →
        Contained (checkAll malloc before .init).1 input := by
  have hinit : BufferInv .init none :=
    ⟨Pairwise.nil, fun h => absurd rfl h, fun _ _ h => by cases h⟩
  exact copiesFit_runAccesses malloc hinit inputs

/-- A fragment of one word, placed far after the end of a message of one word. -/
def farFragment : Bytes :=
  let body := [0x11, 0x00, 0, 1] ++ be32 ZRTP_MAGIC_COOKIE ++ be32 0 ++ toBytes ⟨1, 1, 0xFFFF, 1⟩ ++ [0, 0, 0, 0]
  body ++ be32 (CRC32 body)

theorem not_copiesFit_farFragment :
    ¬ ∀ (malloc : (n : ℕ) → Buf n) (inputs : List Bytes), CopiesFit none (runAccesses malloc inputs .init) := by
  intro h
  have hfit := h zeros [farFragment]
  have hlog : runAccesses zeros [farFragment] .init = [.alloc 1 20, .copy 1 262152 4 20 28] := by decide +kernel
  rw [hlog] at hfit
  obtain ⟨⟨size, hsize, hle⟩, -⟩ := hfit
  simp only [some.injEq, Prod.mk.injEq] at hsize
  omega

end Bzrtp
