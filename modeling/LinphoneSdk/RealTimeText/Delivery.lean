import LinphoneSdk.RealTimeText.Text
import LinphoneSdk.Lib.Flags

/-!
# The delivery of real-time text

Characters are typed, the source sends packets when they are due, and some packets are lost. The sink gives the typed
characters, in order and once each.
-/

namespace RealTimeText

open Bytes Ms2 RealTimeTextSourceData List Function

/-! ### The system -/

structure System where
  source : RealTimeTextSourceData
  sink : RealTimeTextSinkData
  /-- The sequence number of the next packet. -/
  seqno : UInt16
  /-- The packets that were lost since the last one that was delivered. -/
  lost : ℕ := 0
  typed : List UInt32 := []
  received : List UInt32 := []

inductive Event where
  | putChar (c : UInt32)
  /-- The source is processed; if it sends a packet, the packet is delivered or lost. -/
  | process (timestamp : UInt32) (delivered : Bool)

/-- `none` if memory outside of an array or of a packet is accessed. -/
def step (s : System) : Event → Option System
  | .putChar c => some { s with source := ms_rtt_4103_source_putchar32 s.source c, typed := s.typed ++ [c] }
  | .process timestamp delivered => do
    let (m, source) ← send_data s.source timestamp
    match m with
    | none => return { s with source }
    | some m =>
      if delivered then
        let (characters, sink) ← ms_rtt_4103_sink_process s.sink { m with cseq := s.seqno }
        return { s with source, sink, seqno := s.seqno + 1, lost := 0, received := s.received ++ characters }
      else return { s with source, seqno := s.seqno + 1, lost := s.lost + 1 }

def run (s : System) : List Event → Option System
  | [] => some s
  | event :: events => step s event >>= (run · events)

/-- The payload types and the sequence number of a session. -/
structure Session where
  pt_t140 : ℤ
  pt_t140_mem : 0 ≤ pt_t140 ∧ pt_t140 < 128 := by decide
  pt_red : ℤ
  keepalive_interval : UInt32
  seqno : UInt16

def Session.start (session : Session) : System where
  source := { pt_t140 := session.pt_t140, pt_red := session.pt_red, keepalive_interval := session.keepalive_interval }
  sink := { pt_t140 := session.pt_t140, pt_red := session.pt_red }
  seqno := session.seqno

/-! ### The condition -/

/-- The size of the three buffers. -/
def RealTimeTextSourceData.size (stream : RealTimeTextSourceData) : ℕ :=
  (stream.buf 0).length + (stream.buf 1).length + (stream.buf 2).length

/-- With RED, the length of a buffer must have 10 bits. -/
def bufLimit (pt_red : ℤ) : ℕ := if 0 < pt_red then 1023 else TS_OUTBUF_SIZE

/-- The character fits into its buffer, and with RED into the packets with the two buffers before it. -/
def Fits (stream : RealTimeTextSourceData) (c : UInt32) : Prop :=
  stream.primary.length + (utf8 c).length ≤ bufLimit stream.pt_red ∧
    (0 < stream.pt_red → stream.size + (utf8 c).length ≤ TS_INBUF_SIZE)

/-- A packet is lost with RED only, at most two in a row are, and one that has text only after the first packet was
delivered. -/
def Sound (s : System) : Event → Prop
  | .putChar c => Sendable c ∧ Fits s.source c
  | .process _ delivered =>
    delivered = true ∨
      0 < s.source.pt_red ∧ s.lost < TS_REDGEN ∧ (s.sink.notFirst = true ∨ textChars s.source.primary = [])

def SoundRun (s : System) : List Event → Prop
  | [] => True
  | event :: events => Sound s event ∧ ∀ s' ∈ step s event, SoundRun s' events

instance (stream : RealTimeTextSourceData) (c : UInt32) : Decidable (Fits stream c) := inferInstanceAs (Decidable (_ ∧ _))

instance (s : System) : (event : Event) → Decidable (Sound s event)
  | .putChar _ => inferInstanceAs (Decidable (_ ∧ _))
  | .process _ _ => inferInstanceAs (Decidable (_ ∨ _))

instance instDecidableSoundRun (s : System) : (events : List Event) → Decidable (SoundRun s events)
  | [] => .isTrue trivial
  | event :: events =>
    have (s' : System) : Decidable (SoundRun s' events) := instDecidableSoundRun s' events
    inferInstanceAs (Decidable (Sound s event ∧ ∀ s' ∈ step s event, SoundRun s' events))

/-! ### The invariant -/

/-- The buffers of the packets that were lost since the last delivered one. -/
def System.lostBufs (s : System) : List (Fin 3) := s.source.redBufs.drop (TS_REDGEN - s.lost)

/-- What the sink has not yet read of the source. -/
def System.waiting (s : System) : Bytes := s.lostBufs.flatMap s.source.buf ++ s.source.primary

structure Invariant (s : System) : Prop where
  pt_t140 : s.sink.pt_t140 = s.source.pt_t140
  pt_t140_mem : 0 ≤ s.source.pt_t140 ∧ s.source.pt_t140 < 128
  pt_red : s.sink.pt_red = s.source.pt_red
  inbuf : s.sink.inbuf = []
  coded : ∀ i, Coded (s.source.buf i)
  length_le : ∀ i, (s.source.buf i).length ≤ bufLimit s.source.pt_red
  size_le : 0 < s.source.pt_red → s.source.size ≤ TS_INBUF_SIZE
  lost_le : s.lost ≤ TS_REDGEN
  lost_eq : ¬ 0 < s.source.pt_red → s.lost = 0
  /-- The sink knows the last packet that was delivered. -/
  seqno : s.sink.notFirst = true → ∃ last : UInt16, s.sink.prevseqno = last.toNat ∧ s.seqno = last + 1 + .ofNat s.lost
  typed : s.sink.notFirst = true → s.received ++ textChars s.waiting = s.typed
  /-- Only packets without text were lost. -/
  typed_first : s.sink.notFirst = false → s.received = [] ∧ textChars s.source.primary = s.typed

/-! ### The buffers -/

lemma size_eq (stream : RealTimeTextSourceData) :
    stream.size = (stream.buf stream.get_last_buf).length + (stream.buf (nextIndex stream.get_last_buf)).length +
      stream.primary.length := by
  obtain ⟨buf, pribuf, timestamp, pt_t140, pt_red, keepalive_interval⟩ := stream
  match pribuf with
  | 0 => simp only [RealTimeTextSourceData.size, get_last_buf, primary, nextIndex]; simp; omega
  | 1 => simp only [RealTimeTextSourceData.size, get_last_buf, primary, nextIndex]; simp; omega
  | 2 => simp only [RealTimeTextSourceData.size, get_last_buf, primary, nextIndex]; simp

/-- Bytes are put behind the primary buffer. -/
def RealTimeTextSourceData.append (stream : RealTimeTextSourceData) (q : Bytes) : RealTimeTextSourceData :=
  { stream with buf := update stream.buf stream.pribuf (stream.primary ++ q) }

variable {stream : RealTimeTextSourceData}

lemma putchar32_eq {c : UInt32} (h : stream.primary.length + (utf8 c).length ≤ TS_OUTBUF_SIZE) :
    ms_rtt_4103_source_putchar32 stream c = stream.append (utf8 c) := by
  rw [ms_rtt_4103_source_putchar32, if_pos h]
  rfl

@[simp] lemma append_primary (stream : RealTimeTextSourceData) (q : Bytes) :
    (stream.append q).primary = stream.primary ++ q := by
  simp [RealTimeTextSourceData.append, primary]

lemma nextIndex_ne (i : Fin 3) : nextIndex i ≠ i := by revert i; decide

lemma nextIndex_nextIndex_ne (i : Fin 3) : nextIndex (nextIndex i) ≠ i := by revert i; decide

lemma append_buf_of_mem {i : Fin 3} (h : i ∈ stream.redBufs) (q : Bytes) :
    (stream.append q).buf i = stream.buf i := by
  apply update_of_ne
  rintro rfl
  simp only [redBufs, get_last_buf, mem_cons, not_mem_nil, or_false] at h
  obtain h | h := h
  · exact nextIndex_ne _ h.symm
  · exact nextIndex_nextIndex_ne _ h.symm

lemma size_append (stream : RealTimeTextSourceData) (q : Bytes) :
    (stream.append q).size = stream.size + q.length := by
  have hlast : (stream.append q).buf stream.get_last_buf = stream.buf stream.get_last_buf :=
    append_buf_of_mem (by simp [redBufs]) q
  have hnext : (stream.append q).buf (nextIndex stream.get_last_buf) = stream.buf (nextIndex stream.get_last_buf) :=
    append_buf_of_mem (by simp [redBufs]) q
  have hsize := size_eq (stream.append q)
  rw [append_primary, show (stream.append q).get_last_buf = stream.get_last_buf from rfl, hlast, hnext,
    length_append] at hsize
  rw [hsize, size_eq stream, ← Nat.add_assoc]

lemma waiting_append (s : System) (q : Bytes) :
    System.waiting { s with source := s.source.append q } = s.waiting ++ q := by
  have hbufs : s.lostBufs.flatMap (s.source.append q).buf = s.lostBufs.flatMap s.source.buf :=
    flatMap_congr fun i hi => append_buf_of_mem (mem_of_mem_drop hi) q
  rw [System.waiting, append_primary, System.waiting, ← append_assoc]
  congr 2

lemma coded_flatMap (h : ∀ i, Coded (stream.buf i)) (l : List (Fin 3)) : Coded (l.flatMap stream.buf) := by
  induction l with
  | nil => exact .nil
  | cons i l ih => exact (h i).append ih

variable {s : System}

lemma Invariant.coded_primary (h : Invariant s) : Coded s.source.primary := h.coded _

lemma Invariant.coded_waiting (h : Invariant s) : Coded s.waiting :=
  (coded_flatMap h.coded _).append (h.coded _)

lemma Invariant.append (h : Invariant s) {q : Bytes} (hq : Coded q)
    (hlen : s.source.primary.length + q.length ≤ bufLimit s.source.pt_red)
    (hsize : 0 < s.source.pt_red → s.source.size + q.length ≤ TS_INBUF_SIZE) :
    Invariant { s with source := s.source.append q, typed := s.typed ++ textChars q } where
  pt_t140 := h.pt_t140
  pt_t140_mem := h.pt_t140_mem
  pt_red := h.pt_red
  inbuf := h.inbuf
  coded i := by
    by_cases hi : i = s.source.pribuf
    · simpa [hi, RealTimeTextSourceData.append] using h.coded_primary.append hq
    · simpa [hi, RealTimeTextSourceData.append] using h.coded i
  length_le i := by
    by_cases hi : i = s.source.pribuf
    · simpa [hi, RealTimeTextSourceData.append] using hlen
    · simpa [hi, RealTimeTextSourceData.append] using h.length_le i
  size_le hred := by
    rw [size_append]
    exact hsize hred
  lost_le := h.lost_le
  lost_eq := h.lost_eq
  seqno := h.seqno
  typed hfirst := by
    have hwaiting := waiting_append s q
    simp only [System.waiting, System.lostBufs] at hwaiting ⊢
    rw [hwaiting]
    have htext := h.coded_waiting.textChars_append q
    simp only [System.waiting, System.lostBufs] at htext
    rw [htext, ← append_assoc]
    exact congrArg (· ++ textChars q) (h.typed hfirst)
  typed_first hfirst := by
    obtain ⟨hreceived, htyped⟩ := h.typed_first hfirst
    refine ⟨hreceived, ?_⟩
    rw [append_primary, h.coded_primary.textChars_append, htyped]

/-! ### The packets -/

/-- Data that fits is sent. -/
lemma length_payload_le (hlen : ∀ i, (stream.buf i).length ≤ bufLimit stream.pt_red)
    (hsize : 0 < stream.pt_red → stream.size ≤ TS_INBUF_SIZE) : stream.payload.length ≤ payloadCapacity := by
  have hpri : stream.primary.length ≤ _ := hlen _
  rw [RealTimeTextSourceData.payload]
  split_ifs with hred
  · have hbound := hsize hred
    rw [size_eq] at hbound
    simp only [RealTimeTextSourceData.subheaders, redBufs, flatMap_cons, flatMap_nil, append_nil,
      length_append, length_cons, length_be32]
    simp only [TS_INBUF_SIZE, payloadCapacity, TS_OUTBUF_SIZE, TS_REDGEN] at hbound ⊢
    omega
  · simp only [bufLimit, if_neg hred, payloadCapacity, TS_OUTBUF_SIZE, TS_REDGEN] at hpri ⊢
    omega

lemma toNat_get_red_subheader {pt : UInt8} (hpt : pt.toNat < 128) (offset : UInt32) {length : ℕ} (hlen : length < 1024) :
    (get_red_subheader pt offset length).toNat =
      ((128 + pt.toNat) * 2 ^ 14 + offset.toNat % 2 ^ 14) * 2 ^ 10 + length := by
  have hand7 : 127 &&& pt.toNat = pt.toNat := by
    rw [Nat.and_comm]
    exact Nat.and_two_pow_sub_one_of_lt_two_pow (n := 7) hpt
  have hand14 : 16383 &&& offset.toNat = offset.toNat % 2 ^ 14 := by
    rw [Nat.and_comm]
    exact Nat.and_two_pow_sub_one_eq_mod _ 14
  have hand10 : 1023 &&& length % 2 ^ 32 = length := by
    rw [Nat.and_comm, Nat.mod_eq_of_lt (by omega)]
    exact Nat.and_two_pow_sub_one_of_lt_two_pow (n := 10) hlen
  -- the fields occupy disjoint bit ranges
  have hpart : (1 <<< 31 : ℕ) ||| pt.toNat <<< 24 = (128 + pt.toNat) <<< 24 := by
    rw [← Nat.shiftLeft_add_eq_or_of_lt (by rw [Nat.shiftLeft_eq]; omega)]
    simp only [Nat.shiftLeft_eq]; omega
  have hpart' : (128 + pt.toNat) <<< 24 ||| (offset.toNat % 2 ^ 14) <<< 10 =
      ((128 + pt.toNat) * 2 ^ 14 + offset.toNat % 2 ^ 14) <<< 10 := by
    rw [← Nat.shiftLeft_add_eq_or_of_lt (by rw [Nat.shiftLeft_eq]; omega)]
    simp only [Nat.shiftLeft_eq]; omega
  have h31 : (31 : UInt32).toNat % 32 = 31 := by decide
  have h24 : (24 : UInt32).toNat % 32 = 24 := by decide
  have h10 : (10 : UInt32).toNat % 32 = 10 := by decide
  simp only [get_red_subheader, UInt32.toNat_or, UInt32.toNat_shiftLeft, UInt32.toNat_and, UInt8.toNat_toUInt32,
    UInt32.toNat_ofNat', h31, h24, h10]
  simp only [UInt32.reduceToNat, hand7, hand14, hand10]
  rw [Nat.mod_eq_of_lt (by decide), Nat.mod_eq_of_lt (by rw [Nat.shiftLeft_eq]; omega),
    Nat.mod_eq_of_lt (by rw [Nat.shiftLeft_eq]; omega), hpart, hpart', ← Nat.shiftLeft_add_eq_or_of_lt (by omega),
    Nat.shiftLeft_eq]

lemma and_top_bit (b : UInt8) : b &&& 0x80 ≠ 0 ↔ 128 ≤ b.toNat := by
  rw [ne_eq, ← UInt8.toNat_inj, UInt8.toNat_and]
  exact Flags.and_top_ne_zero (k := 7) b.toNat_lt

lemma toNat_and_low_bits (b : UInt8) : (b &&& 0x7F).toNat = b.toNat % 128 := by
  rw [UInt8.toNat_and]
  exact Nat.and_two_pow_sub_one_eq_mod _ 7

/-- A subheader announces a generation of the text. -/
lemma redGenerations_be32 {pt : ℕ} (hpt : pt < 128) {x : UInt32} (hx : x.toNat / 2 ^ 24 = 128 + pt) (l : Bytes) :
    redGenerations pt (be32 x ++ l) = (redGenerations pt l).map fun (redgen, rest) => (redgen + 1, rest) := by
  have hbyte : (x >>> 24).toUInt8.toNat = 128 + pt := by
    have h24 : (24 : UInt32).toNat % 32 = 24 := by decide
    rw [UInt32.toNat_toUInt8, UInt32.toNat_shiftRight, h24, Nat.shiftRight_eq_div_pow, hx]
    exact Nat.mod_eq_of_lt (by omega)
  rw [be32, cons_append, redGenerations, if_pos (by rw [and_top_bit, hbyte]; omega), if_neg]
  · rfl
  · rw [not_not, toNat_and_low_bits, hbyte]
    omega

/-- The payload type of the text ends the header. -/
lemma redGenerations_pt {pt : ℕ} (hpt : pt < 128) (l : Bytes) :
    redGenerations pt (.ofNat pt :: l) = some (0, .ofNat pt :: l) := by
  have hbyte : (UInt8.ofNat pt).toNat = pt := UInt8.toNat_ofNat_of_lt' (hpt.trans (by decide))
  rw [redGenerations, if_neg]
  rw [and_top_bit, hbyte]
  omega

/-- The length of a block is read back. -/
lemma and_length_of_be32 {x : UInt32} {length : ℕ} (hx : x.toNat % 2 ^ 10 = length) (l : Bytes) {m : Bytes}
    {i : ℕ} (h : m.drop i = be32 x ++ l) : (be16At m (i + 2) &&& 0x3FF).toNat = length := by
  have hget (j : ℕ) : m.getD (i + j) 0 = (be32 x ++ l).getD j 0 := getD_of_drop h j 0
  have hword : (be16At m (i + 2)).toNat = x.toNat % 2 ^ 16 := by
    have h8 : (8 : UInt32).toNat % 32 = 8 := by decide
    rw [be16At, Nat.add_assoc, hget 2, hget 3, word16_toNat]
    simp only [be32, cons_append, getD_cons_succ, getD_cons_zero, UInt32.toNat_toUInt8,
      UInt32.toNat_shiftRight, h8, Nat.shiftRight_eq_div_pow]
    omega
  have hand : x.toNat % 2 ^ 16 &&& 1023 = x.toNat % 2 ^ 16 % 2 ^ 10 := Nat.and_two_pow_sub_one_eq_mod _ 10
  rw [UInt16.toNat_and, hword]
  simp only [UInt16.reduceToNat, hand]
  omega

/-! ### The reads of the sink -/

/-- The sequence numbers wrap. -/
lemma red_needed_eq (last : UInt16) {lost : ℕ} (h : lost ≤ 2) :
    red_needed (last + 1 + .ofNat lost).toNat last.toNat = lost := by
  have hlast := last.toNat_lt
  have hseqno : (last + 1 + .ofNat lost).toNat = (last.toNat + 1 + lost) % 65536 := by
    simp only [UInt16.toNat_add, UInt16.toNat_ofNat', UInt16.reduceToNat]
    omega
  rw [hseqno, red_needed]
  by_cases hwrap : last.toNat + 1 + lost < 65536
  · rw [Nat.mod_eq_of_lt hwrap]
    rw [if_pos (by omega)]
    omega
  · rw [Nat.mod_eq_sub_mod (by omega), Nat.mod_eq_of_lt (by omega)]
    rw [if_neg (by omega), if_pos (by omega)]
    omega

/-- Data that is UTF-8 and fits is read. -/
lemma readPacket_eq {stream : RealTimeTextSinkData} {packet : Mblk} {readstart : ℕ} {data : Bytes}
    (hinbuf : stream.inbuf = []) (hstart : readstart ≤ packet.bytes.length) (hdata : packet.bytes.drop readstart = data)
    (hcoded : Coded data) (hlen : data.length ≤ TS_INBUF_SIZE) :
    readPacket stream packet readstart = { stream with inbuf := data, prevseqno := packet.cseq.toNat } := by
  have htake : data.take TS_INBUF_SIZE = data := take_of_length_le hlen
  rw [readPacket, read_t140_data, if_neg (not_lt.mpr hstart), hinbuf, hdata]
  simp [htake, hcoded.is_utf8_buf_ok]

def System.missing (s : System) : ℕ := if s.sink.notFirst then s.lost else 0

/-- What the sink reads of the next packet. -/
def System.needed (s : System) : Bytes :=
  (s.source.redBufs.drop (TS_REDGEN - s.missing)).flatMap s.source.buf ++ s.source.primary

lemma Invariant.red_needed (h : Invariant s) :
    (if s.sink.notFirst then RealTimeText.red_needed s.seqno.toNat s.sink.prevseqno else 0) = s.missing := by
  rw [System.missing]
  split_ifs with hfirst
  · obtain ⟨last, hprev, hseqno⟩ := h.seqno hfirst
    rw [hprev, hseqno, red_needed_eq last h.lost_le]
  · rfl

lemma Invariant.missing_le (h : Invariant s) : s.missing ≤ 2 := by
  rw [System.missing]
  split_ifs
  · exact h.lost_le
  · exact Nat.zero_le 2

def RealTimeTextSourceData.subheader (stream : RealTimeTextSourceData) (cur : Fin 3) : UInt32 :=
  get_red_subheader stream.t140 (stream.timestamp stream.pribuf - stream.timestamp cur) (stream.buf cur).length

lemma payload_eq (hred : 0 < stream.pt_red) : stream.payload =
    be32 (stream.subheader stream.get_last_buf) ++ (be32 (stream.subheader (nextIndex stream.get_last_buf)) ++
      stream.t140 :: (stream.buf stream.get_last_buf ++ (stream.buf (nextIndex stream.get_last_buf) ++
        stream.primary))) := by
  simp [RealTimeTextSourceData.payload, hred, subheaders, redBufs, RealTimeTextSourceData.subheader]

section

variable (h : Invariant s)
include h

lemma Invariant.t140 : s.source.t140 = .ofNat s.source.pt_t140.toNat := by
  have hpt := h.pt_t140_mem
  rw [RealTimeTextSourceData.t140, Int.emod_eq_of_lt hpt.1 hpt.2]

lemma Invariant.toNat_subheader (hred : 0 < s.source.pt_red) (i : Fin 3) :
    (s.source.subheader i).toNat / 2 ^ 24 = 128 + s.source.pt_t140.toNat ∧
      (s.source.subheader i).toNat % 2 ^ 10 = (s.source.buf i).length := by
  have hpt := h.pt_t140_mem
  have hlen := h.length_le i
  rw [bufLimit, if_pos hred] at hlen
  have hbyte : s.source.t140.toNat = s.source.pt_t140.toNat := by
    rw [h.t140]
    exact UInt8.toNat_ofNat_of_lt' (show _ < 256 by omega)
  rw [RealTimeTextSourceData.subheader, toNat_get_red_subheader (by omega) _ (by omega), hbyte]
  omega

/-- The header of a packet is read. -/
lemma Invariant.redGenerations_payload (hred : 0 < s.source.pt_red) :
    ∃ rest, redGenerations s.sink.pt_t140 s.source.payload = some (2, s.source.t140 :: rest) := by
  have hpt := h.pt_t140_mem
  have hlt : s.source.pt_t140.toNat < 128 := by omega
  have hcast : s.sink.pt_t140 = (s.source.pt_t140.toNat : ℤ) := by rw [h.pt_t140, Int.toNat_of_nonneg hpt.1]
  refine ⟨s.source.buf s.source.get_last_buf ++ (s.source.buf (nextIndex s.source.get_last_buf) ++ s.source.primary), ?_⟩
  rw [payload_eq hred, hcast, redGenerations_be32 hlt (h.toNat_subheader hred _).1,
    redGenerations_be32 hlt (h.toNat_subheader hred _).1, h.t140, redGenerations_pt hlt]
  rfl

lemma Invariant.blockLength_payload (hred : 0 < s.source.pt_red) :
    blockLength s.source.payload 0 = (s.source.buf s.source.get_last_buf).length ∧
      blockLength s.source.payload 1 = (s.source.buf (nextIndex s.source.get_last_buf)).length := by
  have hpayload := payload_eq hred
  have hdrop : s.source.payload.drop 4 = be32 (s.source.subheader (nextIndex s.source.get_last_buf)) ++
      s.source.t140 :: (s.source.buf s.source.get_last_buf ++ (s.source.buf (nextIndex s.source.get_last_buf) ++
        s.source.primary)) := by
    rw [hpayload]
    exact drop_left' rfl
  exact ⟨and_length_of_be32 (h.toNat_subheader hred _).2 _ (by rw [drop_zero, hpayload]),
    and_length_of_be32 (h.toNat_subheader hred _).2 _ hdrop⟩

/-- What is needed, by the number of the packets that are missing. -/
lemma Invariant.needed_eq : (s.missing = 0 ∧ s.needed = s.source.primary) ∨
    (s.missing = 1 ∧ s.needed = s.source.buf (nextIndex s.source.get_last_buf) ++ s.source.primary) ∨
    (s.missing = 2 ∧ s.needed = s.source.buf s.source.get_last_buf ++
      (s.source.buf (nextIndex s.source.get_last_buf) ++ s.source.primary)) := by
  have hmissing := h.missing_le
  rw [System.needed]
  match hm : s.missing with
  | 0 => simp [redBufs, TS_REDGEN]
  | 1 => simp [redBufs, TS_REDGEN]
  | 2 => simp [redBufs, TS_REDGEN]
  | n + 3 => omega

/-- The blocks that are not needed are passed over. -/
lemma Invariant.drop_payload (hred : 0 < s.source.pt_red) :
    ∃ readstart, readstart = 2 * 4 + 1 + ((range (2 - s.missing)).map (blockLength s.source.payload)).sum ∧
      readstart ≤ s.source.payload.length ∧ s.source.payload.drop readstart = s.needed := by
  obtain ⟨hblock, hblock'⟩ := h.blockLength_payload hred
  have hlen : s.source.payload.length = 9 + ((s.source.buf s.source.get_last_buf).length +
      ((s.source.buf (nextIndex s.source.get_last_buf)).length + s.source.primary.length)) := by
    rw [payload_eq hred]
    simp only [length_append, length_cons, length_be32]
    omega
  have hdrop (n : ℕ) : s.source.payload.drop (9 + n) = (s.source.buf s.source.get_last_buf ++
      (s.source.buf (nextIndex s.source.get_last_buf) ++ s.source.primary)).drop n := by
    rw [← drop_drop, payload_eq hred]
    rfl
  refine ⟨_, rfl, ?_⟩
  obtain ⟨hm, hneeded⟩ | ⟨hm, hneeded⟩ | ⟨hm, hneeded⟩ := h.needed_eq
  · simp only [hm, hneeded, range_succ, hblock, hblock', range_zero, nil_append, map_append,
      map_cons, map_nil, sum_append, sum_cons, sum_nil]
    rw [hdrop, ← append_assoc, drop_left' (by simp)]
    exact ⟨by omega, rfl⟩
  · simp only [hm, hneeded, range_succ, hblock, range_zero, nil_append, map_cons, map_nil, sum_cons, sum_nil]
    rw [hdrop, drop_left' (by simp)]
    exact ⟨by omega, rfl⟩
  · simp only [hm, hneeded, Nat.sub_self, range_zero, map_nil, sum_nil]
    rw [hdrop, drop_zero]
    exact ⟨by omega, rfl⟩

lemma Invariant.length_needed_le (hred : 0 < s.source.pt_red) : s.needed.length ≤ TS_INBUF_SIZE := by
  have hsize := h.size_le hred
  rw [size_eq] at hsize
  obtain ⟨-, hneeded⟩ | ⟨-, hneeded⟩ | ⟨-, hneeded⟩ := h.needed_eq
  · rw [hneeded]
    omega
  · rw [hneeded, length_append]
    omega
  · rw [hneeded, length_append, length_append]
    omega

lemma Invariant.coded_needed : Coded s.needed :=
  (coded_flatMap h.coded _).append h.coded_primary

lemma Invariant.process_red_packet (hred : 0 < s.source.pt_red) {packet : Mblk}
    (hbytes : packet.bytes = s.source.payload) (hcseq : packet.cseq = s.seqno) :
    process_red_packet s.sink packet = some { s.sink with inbuf := s.needed, prevseqno := s.seqno.toNat } := by
  obtain ⟨rest, hgenerations⟩ := h.redGenerations_payload hred
  obtain ⟨readstart, hreadstart, hle, hdrop⟩ := h.drop_payload hred
  have hmissing := h.missing_le
  have hpt : ¬ (s.source.t140.toNat : ℤ) ≠ s.sink.pt_t140 := by
    have hmem := h.pt_t140_mem
    rw [h.t140, UInt8.toNat_ofNat_of_lt' (show _ < 256 by omega), h.pt_t140]
    omega
  have hmin : min (s.missing : ℤ).toNat 2 = s.missing := by simpa using hmissing
  rw [← hbytes] at hgenerations hreadstart hle hdrop
  rw [RealTimeText.process_red_packet, hgenerations]
  simp only
  rw [if_neg hpt, hcseq, h.red_needed, if_neg (by omega), if_neg (by omega), hmin, ← hreadstart,
    readPacket_eq h.inbuf hle hdrop h.coded_needed (h.length_needed_le hred), hcseq]

lemma Invariant.process_t140_packet (hred : ¬ 0 < s.source.pt_red) {packet : Mblk}
    (hbytes : packet.bytes = s.source.payload) (hcseq : packet.cseq = s.seqno) :
    process_t140_packet s.sink packet = { s.sink with inbuf := s.needed, prevseqno := s.seqno.toNat } := by
  have hmissing : s.missing = 0 := by simp [System.missing, h.lost_eq hred]
  have hpayload : packet.bytes = s.needed := by
    rw [hbytes, RealTimeTextSourceData.payload, if_neg hred, System.needed, hmissing]
    rfl
  have hneeded : s.needed = s.source.primary := by
    rw [System.needed, hmissing]
    rfl
  have hlen : s.needed.length ≤ TS_INBUF_SIZE := by
    have hpri := h.length_le s.source.pribuf
    rw [hneeded]
    simp only [bufLimit, if_neg hred, TS_INBUF_SIZE, TS_OUTBUF_SIZE, TS_REDGEN, primary] at hpri ⊢
    omega
  rw [RealTimeText.process_t140_packet, hcseq, h.red_needed, hmissing]
  rw [if_neg (by decide), if_neg (by decide), readPacket_eq h.inbuf (Nat.zero_le _) hpayload h.coded_needed hlen, hcseq]

end

/-! ### A packet is sent -/

@[simp] lemma use_next_buf_primary (stream : RealTimeTextSourceData) : stream.use_next_buf.primary = [] := by
  simp [use_next_buf, primary]

lemma nextIndex_nextIndex_nextIndex (i : Fin 3) : nextIndex (nextIndex (nextIndex i)) = i := by revert i; decide

/-- The primary buffer becomes the newest redundant one. -/
lemma use_next_buf_redBufs (stream : RealTimeTextSourceData) :
    stream.use_next_buf.redBufs = [nextIndex stream.get_last_buf, stream.pribuf] := by
  simp [use_next_buf, redBufs, get_last_buf, nextIndex_nextIndex_nextIndex]

lemma use_next_buf_buf {i : Fin 3} (h : i ≠ stream.get_last_buf) :
    stream.use_next_buf.buf i = stream.buf i := update_of_ne h _ _

/-- A buffer is kept or emptied. -/
lemma use_next_buf_cases (stream : RealTimeTextSourceData) (i : Fin 3) :
    stream.use_next_buf.buf i = stream.buf i ∨ stream.use_next_buf.buf i = [] := by
  by_cases hi : i = stream.get_last_buf
  · right
    simp [hi, use_next_buf]
  · left
    exact use_next_buf_buf hi

lemma size_use_next_buf_le (stream : RealTimeTextSourceData) : stream.use_next_buf.size ≤ stream.size := by
  have hle (i : Fin 3) : (stream.use_next_buf.buf i).length ≤ (stream.buf i).length := by
    obtain h | h := use_next_buf_cases stream i <;> simp [h]
  exact Nat.add_le_add (Nat.add_le_add (hle 0) (hle 1)) (hle 2)

/-- A packet is sent, whatever becomes of it. -/
lemma Invariant.send {s s' : System} (h : Invariant s) (hsource : s'.source = s.source.use_next_buf)
    (hpt_t140 : s'.sink.pt_t140 = s.sink.pt_t140) (hpt_red : s'.sink.pt_red = s.sink.pt_red)
    (hinbuf : s'.sink.inbuf = []) (hlost_le : s'.lost ≤ TS_REDGEN) (hlost_eq : ¬ 0 < s.source.pt_red → s'.lost = 0)
    (hseqno : s'.sink.notFirst = true →
      ∃ last : UInt16, s'.sink.prevseqno = last.toNat ∧ s'.seqno = last + 1 + .ofNat s'.lost)
    (htyped : s'.sink.notFirst = true → s'.received ++ textChars s'.waiting = s'.typed)
    (htyped_first : s'.sink.notFirst = false → s'.received = [] ∧ textChars s'.source.primary = s'.typed) :
    Invariant s' where
  pt_t140 := by rw [hpt_t140, hsource]; exact h.pt_t140
  pt_t140_mem := by rw [hsource]; exact h.pt_t140_mem
  pt_red := by rw [hpt_red, hsource]; exact h.pt_red
  inbuf := hinbuf
  coded i := by
    rw [hsource]
    obtain hi | hi := use_next_buf_cases s.source i
    · exact hi ▸ h.coded i
    · exact hi ▸ .nil
  length_le i := by
    rw [hsource]
    obtain hi | hi := use_next_buf_cases s.source i
    · exact hi ▸ h.length_le i
    · simp [hi]
  size_le hred := by
    rw [hsource] at hred ⊢
    exact (size_use_next_buf_le _).trans (h.size_le hred)
  lost_le := hlost_le
  lost_eq hred := hlost_eq (by rw [hsource] at hred; exact hred)
  seqno := hseqno
  typed := htyped
  typed_first := htyped_first

/-- A lost packet leaves its text in a redundant buffer. -/
lemma waiting_lost (h : s.lost < TS_REDGEN) :
    System.waiting { s with source := s.source.use_next_buf, seqno := s.seqno + 1, lost := s.lost + 1 } = s.waiting := by
  have hpri : s.source.use_next_buf.buf s.source.pribuf = s.source.primary :=
    use_next_buf_buf (nextIndex_ne _).symm
  have hnext : s.source.use_next_buf.buf (nextIndex s.source.get_last_buf) =
      s.source.buf (nextIndex s.source.get_last_buf) := use_next_buf_buf (nextIndex_ne _)
  rw [System.waiting, System.waiting, System.lostBufs, System.lostBufs, use_next_buf_redBufs, use_next_buf_primary]
  match hlost : s.lost with
  | 0 => simp [TS_REDGEN, hpri, redBufs]
  | 1 => simp [TS_REDGEN, hpri, hnext, redBufs]
  | n + 2 => exact absurd h (by simp [hlost, TS_REDGEN])

/-- The packet is lost: what the sink needs is still in the source. -/
lemma Invariant.lose (h : Invariant s) (hred : 0 < s.source.pt_red) (hlost : s.lost < TS_REDGEN)
    (hfirst : s.sink.notFirst = true ∨ textChars s.source.primary = []) :
    Invariant { s with source := s.source.use_next_buf, seqno := s.seqno + 1, lost := s.lost + 1 } := by
  refine h.send rfl rfl rfl h.inbuf hlost (fun hneg => absurd hred hneg) ?_ ?_ ?_
  · intro hnot
    obtain ⟨last, hprev, hseqno⟩ := h.seqno hnot
    refine ⟨last, hprev, ?_⟩
    simp [hseqno, UInt16.ofNat_add, UInt16.add_assoc]
  · intro hnot
    rw [waiting_lost hlost]
    exact h.typed hnot
  · intro hnot
    obtain ⟨hreceived, htyped⟩ := h.typed_first hnot
    refine ⟨hreceived, ?_⟩
    have hempty : textChars s.source.primary = [] := hfirst.resolve_left (by simp_all)
    simp [← htyped, hempty]

lemma Invariant.received_needed (h : Invariant s) : s.received ++ textChars s.needed = s.typed := by
  by_cases hnot : s.sink.notFirst = true
  · have hneeded : s.needed = s.waiting := by simp [System.needed, System.waiting, System.lostBufs, System.missing, hnot]
    rw [hneeded]
    exact h.typed hnot
  · obtain ⟨hreceived, htyped⟩ := h.typed_first (Bool.eq_false_of_not_eq_true hnot)
    have hneeded : s.needed = s.source.primary := by simp [System.needed, System.missing, hnot, TS_REDGEN, redBufs]
    rw [hneeded, hreceived, nil_append, htyped]

/-- The packet is delivered: the sink has read all that was typed. -/
lemma Invariant.deliver (h : Invariant s) :
    Invariant { s with
      source := s.source.use_next_buf
      sink := { s.sink with inbuf := [], prevseqno := s.seqno.toNat, notFirst := true }
      seqno := s.seqno + 1, lost := 0, received := s.received ++ textChars s.needed } := by
  refine h.send rfl rfl rfl rfl (Nat.zero_le _) (fun _ => rfl) ?_ ?_ ?_
  · intro _
    exact ⟨s.seqno, rfl, by simp⟩
  · intro _
    simp [System.waiting, System.lostBufs, use_next_buf_redBufs, TS_REDGEN, h.received_needed]
  · intro hnot
    simp at hnot

/-! ### The runs -/

/-- The timestamps of the buffers do not matter. -/
lemma Invariant.stamp (h : Invariant s) (timestamp : Fin 3 → UInt32) :
    Invariant { s with source := { s.source with timestamp } } :=
  ⟨h.pt_t140, h.pt_t140_mem, h.pt_red, h.inbuf, h.coded, h.length_le, h.size_le, h.lost_le, h.lost_eq, h.seqno, h.typed,
    h.typed_first⟩

/-- The source goes from `s` to `s'`, with the text that it had, and may send a packet. -/
structure Sends (s s' : System) (result : Option (Option Mblk × RealTimeTextSourceData)) : Prop where
  frame : ∃ source, s' = { s with source }
  text : textChars s'.source.primary = textChars s.source.primary
  pt_red : s'.source.pt_red = s.source.pt_red
  result : result = some (none, s'.source) ∨
    ∃ m : Mblk, m.bytes = s'.source.payload ∧ result = some (some m, s'.source.use_next_buf)

lemma Invariant.sendIfDue (h : Invariant s) (timestamp : UInt32) :
    ∃ s', Invariant s' ∧ Sends s s' (sendIfDue s.source timestamp) := by
  rw [RealTimeText.sendIfDue]
  split_ifs with hdue
  · refine ⟨_, h.stamp (update s.source.timestamp s.source.pribuf timestamp), ⟨_, rfl⟩, rfl, rfl, .inr ?_⟩
    have hpayload := length_payload_le
      (h.stamp (update s.source.timestamp s.source.pribuf timestamp)).length_le
      (h.stamp (update s.source.timestamp s.source.pribuf timestamp)).size_le
    simp only [realtime_text_stream_generate_red_packet, if_pos hpayload]
    exact ⟨_, rfl, rfl⟩
  · exact ⟨s, h, ⟨_, rfl⟩, rfl, rfl, .inl rfl⟩

/-- Nothing is to be sent: the buffers are empty. -/
lemma empty_of_not_is_data_to_send (h : ¬ is_data_to_send stream = true) :
    stream.primary = [] ∧ (0 < stream.pt_red → stream.size = 0) := by
  rw [is_data_to_send] at h
  split_ifs at h with hred
  · have hall (i : Fin 3) : stream.buf i = [] := by
      match i with
      | 0 => simp_all
      | 1 => simp_all
      | 2 => simp_all
    exact ⟨hall _, fun _ => by simp [RealTimeTextSourceData.size, hall]⟩
  · exact ⟨by simpa using h, fun hpos => absurd hpos hred⟩

lemma coded_bom : Coded (utf8 0xFEFF) := by
  have hbom := Coded.bom .nil
  rwa [append_nil] at hbom

lemma textChars_utf8_bom : textChars (utf8 0xFEFF) = [] := by
  have hbom := textChars_bom []
  rwa [append_nil, textChars_nil] at hbom

/-- The source puts a BOM into the primary buffer, which is empty. -/
lemma Invariant.putBom (h : Invariant s) (hempty : ¬ is_data_to_send s.source = true) :
    Invariant { s with source := ms_rtt_4103_source_putchar32 s.source 0xFEFF } ∧
      textChars (ms_rtt_4103_source_putchar32 s.source 0xFEFF).primary = textChars s.source.primary ∧
      (ms_rtt_4103_source_putchar32 s.source 0xFEFF).pt_red = s.source.pt_red := by
  obtain ⟨hprimary, hsize⟩ := empty_of_not_is_data_to_send hempty
  have hlen : (utf8 0xFEFF).length = 3 := by decide
  rw [putchar32_eq (by rw [hprimary, hlen]; decide)]
  have happend := h.append coded_bom (by rw [hprimary, hlen, bufLimit]; split_ifs <;> decide)
    (fun hred => by rw [hsize hred, hlen]; decide)
  rw [textChars_utf8_bom, append_nil] at happend
  refine ⟨happend, ?_, rfl⟩
  rw [append_primary, h.coded_primary.textChars_append, textChars_utf8_bom, append_nil]

lemma Invariant.send_data (h : Invariant s) (timestamp : UInt32) :
    ∃ s', Invariant s' ∧ Sends s s' (send_data s.source timestamp) := by
  rw [RealTimeText.send_data]
  split_ifs with hdata hdue
  · exact h.sendIfDue timestamp
  · obtain ⟨hbom, htext, hpt⟩ := h.putBom hdata
    obtain ⟨s', hs', ⟨source, rfl⟩, htext', hpt', hresult⟩ := hbom.sendIfDue timestamp
    exact ⟨_, hs', ⟨source, rfl⟩, htext'.trans htext, hpt'.trans hpt, hresult⟩
  · exact ⟨s, h, ⟨_, rfl⟩, rfl, rfl, .inl rfl⟩

/-- The sink processes the packet that the source has sent. -/
lemma Invariant.sink_process (h : Invariant s) {m : Mblk} (hbytes : m.bytes = s.source.payload) :
    ms_rtt_4103_sink_process s.sink { m with cseq := s.seqno } =
      some (textChars s.needed, { s.sink with inbuf := [], prevseqno := s.seqno.toNat, notFirst := true }) := by
  have hinbuf : { s.sink with inbuf := [] } = s.sink := by rw [← h.inbuf]
  have hpacket : ({ m with cseq := s.seqno } : Mblk).bytes = s.source.payload := hbytes
  rw [ms_rtt_4103_sink_process, read_text_packet, hinbuf, h.pt_red]
  by_cases hred : 0 < s.source.pt_red
  · rw [if_pos hred, h.process_red_packet hred hpacket rfl]
    rfl
  · rw [if_neg hred, h.process_t140_packet hred hpacket rfl]
    rfl

/-- A step that meets the condition keeps the invariant. -/
theorem Invariant.step (h : Invariant s) {event : Event} (hsound : Sound s event) :
    ∃ s', step s event = some s' ∧ Invariant s' := by
  cases event with
  | putChar c =>
    obtain ⟨hsendable, hfits, hsize⟩ := hsound
    have hcoded : Coded (utf8 c) := by
      have hchar := Coded.char hsendable .nil
      rwa [append_nil] at hchar
    have htext : textChars (utf8 c) = [c] := by
      have hchar := textChars_utf8 hsendable []
      rwa [append_nil, textChars_nil] at hchar
    have hlimit : bufLimit s.source.pt_red ≤ TS_OUTBUF_SIZE := by rw [bufLimit]; split_ifs <;> decide
    refine ⟨_, rfl, ?_⟩
    rw [putchar32_eq (hfits.trans hlimit), ← htext]
    exact h.append hcoded hfits hsize
  | process timestamp delivered =>
    obtain ⟨s', hs', ⟨source, rfl⟩, htext, hpt, hresult⟩ := h.send_data timestamp
    rw [RealTimeText.step]
    obtain hresult | ⟨m, hbytes, hresult⟩ := hresult
    · exact ⟨_, by rw [hresult]; rfl, hs'⟩
    cases delivered with
    | true =>
      refine ⟨_, ?_, hs'.deliver⟩
      have hprocess := hs'.sink_process hbytes
      simp only at hprocess
      simp [hresult, hprocess]
    | false =>
      obtain hfalse | ⟨hred, hlost, hfirst⟩ := hsound
      · exact absurd hfalse (by decide)
      · refine ⟨_, ?_, hs'.lose (hpt ▸ hred) hlost (htext ▸ hfirst)⟩
        simp [hresult]

theorem Invariant.run (h : Invariant s) {events : List Event} (hsound : SoundRun s events) :
    ∃ s', run s events = some s' ∧ Invariant s' := by
  induction events generalizing s with
  | nil => exact ⟨s, rfl, h⟩
  | cons event events ih =>
    obtain ⟨s', hstep, hs'⟩ := h.step hsound.1
    rw [RealTimeText.run, hstep]
    exact ih hs' (hsound.2 s' hstep)

lemma Session.invariant_start (session : Session) : Invariant session.start where
  pt_t140 := rfl
  pt_t140_mem := session.pt_t140_mem
  pt_red := rfl
  inbuf := rfl
  coded _ := .nil
  length_le _ := Nat.zero_le _
  size_le _ := Nat.zero_le _
  lost_le := Nat.zero_le _
  lost_eq _ := rfl
  seqno h := absurd h Bool.false_ne_true
  typed h := absurd h Bool.false_ne_true
  typed_first _ := ⟨rfl, textChars_nil⟩

/-- In every run whose steps meet the condition, the sink has given the typed characters up to some point, and all of
them once the last packet was delivered and no character waits for the next one. -/
theorem received_of_soundRun (session : Session) (events : List Event) (h : SoundRun session.start events) :
    ∃ s, run session.start events = some s ∧ s.received <+: s.typed ∧
      (s.lost = 0 → s.source.primary = [] → s.received = s.typed) := by
  obtain ⟨s, hrun, hs⟩ := session.invariant_start.run h
  refine ⟨s, hrun, ⟨_, hs.received_needed⟩, fun hlost hprimary => ?_⟩
  have hneeded : s.needed = [] := by
    have hmissing : s.missing = 0 := by simp [System.missing, hlost]
    simp [System.needed, hmissing, hprimary, TS_REDGEN, redBufs]
  have htyped := hs.received_needed
  rwa [hneeded, textChars_nil, append_nil] at htyped

/-- A session with RED, whose sequence numbers wrap after the first packet. -/
def wrapSession : Session := { pt_t140 := 98, pt_red := 99, keepalive_interval := 25000, seqno := 0xFFFF }

theorem received_of_soundRun_wrapSession :
    ∃ s, run wrapSession.start [.putChar 0x61, .process 300 true, .putChar 0x1F600, .process 600 false, .process 900 true] =
      some s ∧ s.received <+: s.typed ∧ (s.lost = 0 → s.source.primary = [] → s.received = s.typed) := by
  exact received_of_soundRun wrapSession _ (by decide +kernel)

/-- A character of the first packet, which is lost; characters that are passed over; a character whose first byte has
bits of it. -/
theorem not_received_lostFirst_bom_fourBytes :
    (run wrapSession.start [.putChar 0x61, .process 300 false, .process 600 true]).map
        (fun s => (s.typed, s.received, s.lost, s.source.primary)) = some ([0x61], [], 0, []) ∧
      (run wrapSession.start [.putChar 0, .putChar 0xFEFF, .process 300 true]).map
        (fun s => (s.typed, s.received, s.lost, s.source.primary)) = some ([0, 0xFEFF], [], 0, []) ∧
      (run wrapSession.start [.putChar 0x40000, .process 300 true]).map
        (fun s => (s.typed, s.received, s.lost, s.source.primary)) = some ([0x40000], [0x80000], 0, []) := by
  refine ⟨?_, ?_, ?_⟩ <;> decide +kernel

end RealTimeText
