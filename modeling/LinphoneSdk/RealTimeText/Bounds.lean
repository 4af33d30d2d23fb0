import LinphoneSdk.Lib.Reading
import LinphoneSdk.RealTimeText.Filters

/-!
# What the sink of real-time text reads of a packet

The functions of `rfc4103_sink.c` again, now with every byte they read: nothing stops them at the end of the payload,
after which any bytes may lie. A text that is refused is printed into an array, and may be too long for it. Where all
stays in bounds, the result is the one of `process_red_packet`. The sizes are those of packets, far below the range of
`int`.
-/

namespace RealTimeText.Bounds

open Bytes Exec Ms2 Reading List Option RealTimeText Nat Cursor

/-! ### The packet -/

inductive Exit where
  /-- An early return, with the sink it leaves. -/
  | return_ (stream : RealTimeTextSinkData)
  /-- A write behind the array of `text_stream_hexdump`. -/
  | overflow

/-- A routine that reads the payload. -/
abbrev Sink (α : Type) : Type := EStateM Exit Cursor α

/-- The loop over the headers: `pos` is `4 * redgen`. -/
def redHeaders (stream : RealTimeTextSinkData) (payloadsize redgen : ℕ) : Sink ℕ := do
  if _ : 4 * redgen < payloadsize then
    let b ← peekByte (4 * redgen)
    if b &&& 0x80 ≠ 0 then
      if ((b &&& 0x7F).toNat : ℤ) ≠ stream.pt_t140 then throw (.return_ stream)
      redHeaders stream payloadsize (redgen + 1)
    else pure redgen
  else pure redgen
  termination_by payloadsize - 4 * redgen

def redLength (pos : ℕ) : Sink ℕ := do
  let high ← peekByte (pos + 2)
  let low ← peekByte (pos + 3)
  pure (word16 high low &&& 0x3FF).toNat

def unneededLength : ℕ → ℕ → Sink ℕ
  | 0, _ => pure 0
  | n + 1, i => do
    let length ← redLength (4 * i)
    let rest ← unneededLength n (i + 1)
    pure (length + rest)

/-- The length of `" ['%c']0x%X"`. -/
def printedLength (c : UInt8) : ℕ := if c < 16 then 9 else 10

/-- Do the writes of the loop stay in the array of 1000 bytes? `snprintf` cuts what it prints to the array while `pos` is
in it, writes nothing at its end, and has no limit behind it. -/
def dumpFits (pos : ℕ) : Bytes → Bool
  | [] => pos < 1000
  | c :: data => pos ≤ 1000 && dumpFits (pos + printedLength c) data

def text_stream_hexdump (data : Bytes) : Sink Unit := do
  if dumpFits 0 data then pure () else throw .overflow

def read_t140_data (stream : RealTimeTextSinkData) (payloadsize readstart : ℕ) : Sink (Bool × RealTimeTextSinkData) := do
  if payloadsize < readstart then pure (false, stream)
  else
    let data ← peek readstart (min (payloadsize - readstart) (TS_INBUF_SIZE - stream.inbuf.length))
    if is_utf8_buf_ok data then pure (true, { stream with inbuf := stream.inbuf ++ data })
    else
      text_stream_hexdump data
      pure (false, { stream with inbuf := [] })

variable (stream : RealTimeTextSinkData) (cseq : UInt16)

/-- The sequence number is kept if the data could be read. -/
def readPacket (payloadsize readstart : ℕ) :
    Sink RealTimeTextSinkData := do
  let (success, stream) ← read_t140_data stream payloadsize readstart
  if success then pure { stream with prevseqno := cseq.toNat } else pure stream

def process_t140_packet : Sink RealTimeTextSinkData := do
  let c ← get
  let t := if stream.notFirst then red_needed cseq.toNat stream.prevseqno else 0
  if t < 0 then throw (.return_ stream)
  readPacket (if 0 < t then { stream with inbuf := lostChar } else stream) cseq c.block.bytes.length 0

def process_red_packet : Sink RealTimeTextSinkData := do
  let c ← get
  let payloadsize := c.block.bytes.length
  let redgen ← redHeaders stream payloadsize 0
  let pt ← peekByte (4 * redgen)
  if (pt.toNat : ℤ) ≠ stream.pt_t140 then throw (.return_ stream)
  let redneeded := if stream.notFirst then red_needed cseq.toNat stream.prevseqno else 0
  if redneeded < 0 then throw (.return_ stream)
  -- we need more red than we got
  let stream := if redgen < redneeded then { stream with inbuf := lostChar } else stream
  let unneeded ← unneededLength (redgen - min redneeded.toNat redgen) 0
  readPacket stream cseq payloadsize (redgen * 4 + 1 + unneeded)

def read_text_packet : Sink RealTimeTextSinkData := do
  let stream := { stream with inbuf := [] }
  let stream ← tryCatch
    (if 0 < stream.pt_red then process_red_packet stream cseq else process_t140_packet stream cseq)
    fun
      | .return_ stream => pure stream
      | .overflow => throw .overflow
  pure { stream with notFirst := true }

/-! ### The text -/

/-- A routine that reads the buffer of the sink. -/
abbrev Text (α : Type) : Type := EStateM Empty Cursor α

def isBom (p : ℕ) (b : UInt8) : Text Bool := do
  if b = 0xEF then
    let b1 ← peekByte (p + 1)
    if b1 = 0xBB then
      let b2 ← peekByte (p + 2)
      pure (b2 = 0xBF)
    else pure false
  else pure false

/-- The loop from `p` on; the position is the one of the next character. -/
def getcharFrom (inbufsize p : ℕ) : Text UInt8 := do
  if _ : p < inbufsize then
    let b ← peekByte p
    if b ≠ 0 then
      let bom ← if 3 ≤ inbufsize - p then isBom p b else pure false
      if bom then getcharFrom inbufsize (p + 3)
      else
        modify fun c => { c with position := p + 1 }
        pure b
    else getcharFrom inbufsize (p + 1)
  else pure 0
  termination_by inbufsize - p

def text_stream_getchar : Text UInt8 := do
  let c ← get
  getcharFrom c.block.bytes.length c.position

def text_stream_getchar32 : Text UInt32 := do
  let c ← text_stream_getchar
  if utf8_test c = 1 then pure c.toUInt32
  else if utf8_test c = 2 then
    let c1 ← text_stream_getchar
    pure (((c.toUInt32 &&& 0x1F) <<< 6) + (c1.toUInt32 &&& 0x3F))
  else if utf8_test c = 3 then
    let c1 ← text_stream_getchar
    let c2 ← text_stream_getchar
    pure (((c.toUInt32 &&& 0x0F) <<< 12) + ((c1.toUInt32 &&& 0x3F) <<< 6) + (c2.toUInt32 &&& 0x3F))
  else if utf8_test c = 4 then
    let c1 ← text_stream_getchar
    let c2 ← text_stream_getchar
    let c3 ← text_stream_getchar
    pure (((c.toUInt32 &&& 0x7) <<< 19) + ((c1.toUInt32 &&& 0x3F) <<< 12) + ((c2.toUInt32 &&& 0x3F) <<< 6) +
      (c3.toUInt32 &&& 0x3F))
  else pure 0

/-- Read the characters up to the zero that stops the loop, in at most this many turns; `none` if it goes on. -/
def readChars : ℕ → Text (Option (List UInt32))
  | 0 => pure none
  | turns + 1 => do
    let character ← text_stream_getchar32
    if character ≠ 0 then
      let rest ← readChars turns
      pure (rest.map (character :: ·))
    else pure (some [])

section packet

variable {stream : RealTimeTextSinkData} {c : Cursor}

/-- The headers are scanned inside the payload, as `redGenerations` does. -/
lemma wp_redHeaders (hc : c.InBounds) (k : ℕ) : wp (redHeaders stream c.block.bytes.length k)
      (fun redgen c' => c'.InBounds ∧ c'.block = c.block ∧ k ≤ redgen ∧
        redGenerations stream.pt_t140 (c.block.bytes.drop (4 * k)) = some (redgen - k, c.block.bytes.drop (4 * redgen)))
      (fun exit c' => exit = .return_ stream ∧ c'.InBounds ∧ c'.block = c.block ∧
        redGenerations stream.pt_t140 (c.block.bytes.drop (4 * k)) = none) c := by
  induction hn : c.block.bytes.length - 4 * k using Nat.strong_induction_on generalizing k c with
  | _ n ih =>
    rw [redHeaders]
    by_cases hk : 4 * k < c.block.bytes.length
    · have htouch : (c.touch (4 * k) 1).InBounds := (inBounds_touch _ _).2 ⟨hc, .inr hk⟩
      rw [dif_pos hk, wp_bind, wp_peekByte, Block.drop_eq_byte_cons hk, redGenerations]
      split_ifs with hbit htype
      · exact ⟨rfl, htouch, rfl, rfl⟩
      · have hdrop : (c.block.bytes.drop (4 * k + 1)).drop 3 = c.block.bytes.drop (4 * (k + 1)) := by
          rw [drop_drop]
          congr 1
        rw [hdrop]
        refine wp_mono (ih _ (by rw [block_touch]; omega) htouch (k + 1) rfl)
          (fun redgen c' h => ?_) (fun stream' c' h => ?_)
        · obtain ⟨hin, hblock, hle, hrest⟩ := h
          rw [block_touch] at hrest
          rw [hrest]
          refine ⟨hin, hblock, le_of_succ_le hle, ?_⟩
          have hsub : redgen - (k + 1) + 1 = redgen - k := by omega
          rw [← hsub]
          rfl
        · obtain ⟨hstream, hin, hblock, hrest⟩ := h
          rw [block_touch] at hrest
          rw [hrest]
          exact ⟨hstream, hin, hblock, rfl⟩
      · rw [← Block.drop_eq_byte_cons hk]
        exact ⟨htouch, rfl, le_rfl, by rw [Nat.sub_self]⟩
    · have hnil : c.block.bytes.drop (4 * k) = [] := drop_eq_nil_iff.2 (by omega)
      rw [dif_neg hk, wp_pure, hnil, redGenerations, Nat.sub_self]
      exact ⟨hc, rfl, le_rfl, rfl⟩

/-! ### What follows the headers -/

variable {E : Exit → Cursor → Prop}

lemma wp_redLength {pos : ℕ} (hc : c.InBounds) (hpos : pos + 4 ≤ c.block.bytes.length) :
    wp (redLength pos) (fun length c' => c'.InBounds ∧ c'.block = c.block ∧
      length = (be16At c.block.bytes (pos + 2) &&& 0x3FF).toNat) E c := by
  simp only [redLength, wp_bind, wp_peekByte, wp_pure]
  have hhigh : (c.touch (pos + 2) 1).InBounds := (inBounds_touch _ _).2 ⟨hc, .inr (by omega)⟩
  have hlow : ((c.touch (pos + 2) 1).touch (pos + 3) 1).InBounds :=
    (inBounds_touch _ _).2 ⟨hhigh, .inr hpos⟩
  refine ⟨hlow, rfl, ?_⟩
  have hbyte {i : ℕ} (hi : i < c.block.bytes.length) : c.block.byte i = c.block.bytes.getD i 0 := by
    rw [Block.byte_eq_getElem hi, getD_eq_getElem?_getD, getElem?_eq_getElem hi, getD_some]
  rw [block_touch, hbyte (by omega), hbyte (by omega), be16At]

lemma wp_unneededLength {n i : ℕ} (hc : c.InBounds) (hn : 4 * (i + n) ≤ c.block.bytes.length) :
    wp (unneededLength n i) (fun length c' => c'.InBounds ∧ c'.block = c.block ∧
      length = ((List.range n).map fun j => blockLength c.block.bytes (i + j)).sum) E c := by
  induction n generalizing i c with
  | zero => exact ⟨hc, rfl, rfl⟩
  | succ n ih =>
    rw [unneededLength, wp_bind]
    refine wp_mono (wp_redLength hc (by omega)) (fun length c₁ h => ?_) (fun _ _ h => h)
    obtain ⟨hc₁, hblock, rfl⟩ := h
    rw [wp_bind]
    refine wp_mono (ih hc₁ (i := i + 1) (by rw [hblock]; omega)) (fun rest c₂ h => ?_) (fun _ _ h => h)
    obtain ⟨hc₂, hblock₂, rfl⟩ := h
    refine ⟨hc₂, hblock₂.trans hblock, ?_⟩
    rw [List.range_succ_eq_map, List.map_cons, List.sum_cons, List.map_map, hblock, Nat.add_zero]
    simp only [Function.comp_def, succ_eq_add_one, Nat.add_comm 1, Nat.add_assoc]
    rfl

/-- The text of a payload that the sink has room for. -/
def textFrom (stream : RealTimeTextSinkData) (payload : Bytes) (readstart : ℕ) : Bytes :=
  (payload.drop readstart).take (TS_INBUF_SIZE - stream.inbuf.length)

/-- A text is accepted, or the array has room for what is printed of it. -/
def Printable (data : Bytes) : Prop := is_utf8_buf_ok data = true ∨ (data.map printedLength).sum < 1000

instance (data : Bytes) : Decidable (Printable data) := inferInstanceAs (Decidable (_ ∨ _))

lemma dumpFits_iff (pos : ℕ) (data : Bytes) :
    dumpFits pos data = true ↔ pos + (data.map printedLength).sum < 1000 := by
  induction data generalizing pos with
  | nil => simp [dumpFits]
  | cons c data ih =>
    rw [dumpFits, Bool.and_eq_true, decide_eq_true_eq, ih, map_cons, sum_cons]
    omega

/-- The data is read inside the payload, wherever it starts. -/
lemma wp_read_t140_data {readstart : ℕ} (hc : c.InBounds) : wp (read_t140_data stream c.block.bytes.length readstart)
      (fun result c' => c'.InBounds ∧ result = RealTimeText.read_t140_data stream c.block.bytes readstart ∧
        Printable (textFrom stream c.block.bytes readstart))
      (fun exit _ => exit = .overflow ∧ ¬ Printable (textFrom stream c.block.bytes readstart)) c := by
  rw [read_t140_data, RealTimeText.read_t140_data, textFrom, wp_ite]
  refine ⟨fun hlt => ?_, fun hle => ?_⟩
  · rw [if_pos hlt, drop_eq_nil_of_le hlt.le, take_nil]
    exact ⟨hc, rfl, .inl rfl⟩
  · have hroom : readstart + min (c.block.bytes.length - readstart) (TS_INBUF_SIZE - stream.inbuf.length) ≤
        c.block.bytes.length := by omega
    have hdata : c.block.read readstart (min (c.block.bytes.length - readstart) (TS_INBUF_SIZE - stream.inbuf.length)) =
        (c.block.bytes.drop readstart).take (TS_INBUF_SIZE - stream.inbuf.length) := by
      rw [Block.read_eq_segment hroom, Chunks.segment, ← length_drop, Nat.min_comm, ← take_take, take_length]
    rw [if_neg hle, wp_bind, wp_peek, hdata, wp_ite]
    have htouch := (inBounds_touch (c := c) readstart _).2 ⟨hc, .inr hroom⟩
    refine ⟨fun hok => ⟨htouch, by rw [if_pos hok], .inl hok⟩, fun hok => ?_⟩
    rw [if_neg hok, wp_bind, text_stream_hexdump, wp_ite, dumpFits_iff, Nat.zero_add]
    exact ⟨fun hfits => ⟨htouch, rfl, .inr hfits⟩, fun hfits => ⟨rfl, not_or_intro hok hfits⟩⟩

/-- The routine left the sink of the model, unless it prints a text that is too long; or it read behind the packet where
the model has no sink. -/
def Agrees (model : Option RealTimeTextSinkData) (text : Bytes) : Exit → Cursor → Prop
  | .return_ stream, c =>
    match model with
    | none => ¬ c.InBounds
    | some stream' => c.InBounds ∧ stream = stream' ∧ Printable text
  | .overflow, _ => model = none ∨ ¬ Printable text

variable {packet : Mblk}

lemma wp_readPacket {readstart : ℕ} (hc : c.InBounds) (hpacket : c.block.bytes = packet.bytes) :
    wp (readPacket stream packet.cseq c.block.bytes.length readstart)
      (fun stream' => Agrees (some (RealTimeText.readPacket stream packet readstart))
        (textFrom stream packet.bytes readstart) (.return_ stream'))
      (Agrees (some (RealTimeText.readPacket stream packet readstart)) (textFrom stream packet.bytes readstart)) c := by
  rw [readPacket, wp_bind]
  refine wp_mono (wp_read_t140_data hc) (fun result c' h => ?_) (fun exit c' h => ?_)
  · obtain ⟨hin, rfl, hprintable⟩ := h
    rw [hpacket] at hprintable ⊢
    rw [RealTimeText.readPacket]
    obtain ⟨success, stream'⟩ := RealTimeText.read_t140_data stream packet.bytes readstart
    cases success
    · exact ⟨hin, rfl, hprintable⟩
    · exact ⟨hin, rfl, hprintable⟩
  · obtain ⟨rfl, hlong⟩ := h
    exact .inr (hpacket ▸ hlong)

/-- The text of a T.140 packet, none if it is out of order. -/
def t140Text (stream : RealTimeTextSinkData) (packet : Mblk) : Bytes :=
  let t := if stream.notFirst then red_needed packet.cseq.toNat stream.prevseqno else 0
  if t < 0 then [] else textFrom (if 0 < t then { stream with inbuf := lostChar } else stream) packet.bytes 0

lemma wp_process_t140_packet (hc : c.InBounds) (hpacket : c.block.bytes = packet.bytes) :
    wp (process_t140_packet stream packet.cseq)
      (fun stream' => Agrees (some (RealTimeText.process_t140_packet stream packet)) (t140Text stream packet)
        (.return_ stream'))
      (Agrees (some (RealTimeText.process_t140_packet stream packet)) (t140Text stream packet)) c := by
  rw [process_t140_packet, RealTimeText.process_t140_packet, t140Text]
  simp only [wp_bind, wp_get, wp_ite, wp_throw]
  refine ⟨fun ht => ?_, fun ht => ?_⟩
  · rw [if_pos ht, if_pos ht]
    exact ⟨hc, rfl, .inl rfl⟩
  · rw [if_neg ht, if_neg ht]
    exact wp_readPacket hc hpacket

/-- The part of `process_red_packet` after the type of the primary data, at the header `redgen`. -/
def readRed (stream : RealTimeTextSinkData) (cseq : UInt16) (payloadsize redgen : ℕ) (pt : UInt8) :
    Sink RealTimeTextSinkData := do
  if (pt.toNat : ℤ) ≠ stream.pt_t140 then throw (.return_ stream)
  let redneeded := if stream.notFirst then red_needed cseq.toNat stream.prevseqno else 0
  if redneeded < 0 then throw (.return_ stream)
  let stream := if redgen < redneeded then { stream with inbuf := lostChar } else stream
  let unneeded ← unneededLength (redgen - min redneeded.toNat redgen) 0
  readPacket stream cseq payloadsize (redgen * 4 + 1 + unneeded)

lemma process_red_packet_eq (cseq : UInt16) : process_red_packet stream cseq = (do
    let c ← get
    let redgen ← redHeaders stream c.block.bytes.length 0
    let pt ← peekByte (4 * redgen)
    readRed stream cseq c.block.bytes.length redgen pt) := rfl

/-! ### A byte behind the packet -/

lemma not_inBounds_touch {offset length : ℕ} (hc : ¬ c.InBounds) : ¬ (c.touch offset length).InBounds :=
  fun h => hc ((inBounds_touch _ _).1 h).1

/-- A byte that was read behind the packet stays read. -/
lemma wp_unneededLength_out {n i : ℕ} (hc : ¬ c.InBounds) :
    wp (unneededLength n i) (fun _ c' => ¬ c'.InBounds) E c := by
  induction n generalizing i c with
  | zero => exact hc
  | succ n ih =>
    simp only [unneededLength, redLength, wp_bind, wp_peekByte, wp_pure]
    exact ih (not_inBounds_touch (not_inBounds_touch hc))

lemma wp_readPacket_out {cseq : UInt16} {payloadsize readstart : ℕ} {text : Bytes} (hc : ¬ c.InBounds) :
    wp (readPacket stream cseq payloadsize readstart) (fun _ c' => ¬ c'.InBounds) (Agrees none text) c := by
  have htouch (offset length : ℕ) : ¬ (c.touch offset length).InBounds := not_inBounds_touch hc
  simp only [readPacket, read_t140_data, text_stream_hexdump, wp_bind, wp_ite, wp_peek, wp_pure, wp_throw]
  refine ⟨fun _ => ⟨fun _ => hc, fun _ => hc⟩, fun _ => ⟨fun _ => ⟨fun _ => htouch _ _, fun _ => htouch _ _⟩, ?_⟩⟩
  exact fun _ => ⟨fun _ => ⟨fun _ => htouch _ _, fun _ => htouch _ _⟩, fun _ => .inl rfl⟩

lemma wp_readRed_out {cseq : UInt16} {payloadsize redgen : ℕ} {pt : UInt8} {text : Bytes} (hc : ¬ c.InBounds) :
    wp (readRed stream cseq payloadsize redgen pt) (fun _ c' => ¬ c'.InBounds) (Agrees none text) c := by
  simp only [readRed, wp_bind, wp_ite, wp_throw]
  refine ⟨fun _ => hc, fun _ => ⟨fun _ => hc, fun _ => ?_⟩⟩
  exact wp_mono (wp_unneededLength_out hc) (fun _ _ h => wp_readPacket_out h) (fun _ _ h => h)

/-! ### The whole packet -/

/-- The part of the model's `process_red_packet` after the type of the primary data. -/
def redResult (stream : RealTimeTextSinkData) (packet : Mblk) (redgen : ℕ) (pt : UInt8) : RealTimeTextSinkData :=
  if (pt.toNat : ℤ) ≠ stream.pt_t140 then stream
  else
    let redneeded := if stream.notFirst then red_needed packet.cseq.toNat stream.prevseqno else 0
    if redneeded < 0 then stream
    else
      let stream := if redgen < redneeded then { stream with inbuf := lostChar } else stream
      let redneeded := min redneeded.toNat redgen
      let unneeded := ((range (redgen - redneeded)).map (blockLength packet.bytes)).sum
      RealTimeText.readPacket stream packet (redgen * 4 + 1 + unneeded)

/-- The text of a RED packet behind these headers: the blocks from the first one that is needed on. -/
def redText (stream : RealTimeTextSinkData) (packet : Mblk) (redgen : ℕ) (pt : UInt8) : Bytes :=
  if (pt.toNat : ℤ) ≠ stream.pt_t140 then []
  else
    let redneeded := if stream.notFirst then red_needed packet.cseq.toNat stream.prevseqno else 0
    if redneeded < 0 then []
    else
      let stream := if redgen < redneeded then { stream with inbuf := lostChar } else stream
      let redneeded := min redneeded.toNat redgen
      let unneeded := ((range (redgen - redneeded)).map (blockLength packet.bytes)).sum
      textFrom stream packet.bytes (redgen * 4 + 1 + unneeded)

/-- The text behind the headers that the scan finds. -/
def scannedText (stream : RealTimeTextSinkData) (packet : Mblk) : Bytes :=
  match redGenerations stream.pt_t140 packet.bytes with
  | some (redgen, pt :: _) => redText stream packet redgen pt
  | _ => []

/-- The text that the sink takes from a packet, accepted or not. -/
def receivedText (stream : RealTimeTextSinkData) (packet : Mblk) : Bytes :=
  let stream := { stream with inbuf := [] }
  if 0 < stream.pt_red then scannedText stream packet else t140Text stream packet

lemma process_red_packet_eq_some {redgen : ℕ} {pt : UInt8} {rest : Bytes}
    (h : redGenerations stream.pt_t140 packet.bytes = some (redgen, pt :: rest)) :
    RealTimeText.process_red_packet stream packet = some (redResult stream packet redgen pt) := by
  rw [RealTimeText.process_red_packet, h, redResult]
  dsimp only
  split_ifs <;> rfl

lemma wp_readRed {redgen : ℕ} {pt : UInt8} (hc : c.InBounds) (hpacket : c.block.bytes = packet.bytes)
    (hredgen : 4 * redgen ≤ c.block.bytes.length) : wp (readRed stream packet.cseq c.block.bytes.length redgen pt)
      (fun stream' => Agrees (some (redResult stream packet redgen pt)) (redText stream packet redgen pt)
        (.return_ stream'))
      (Agrees (some (redResult stream packet redgen pt)) (redText stream packet redgen pt)) c := by
  simp only [readRed, redResult, redText, wp_bind, wp_ite, wp_throw]
  refine ⟨fun hpt => ?_, fun hpt => ?_⟩
  · rw [if_pos hpt, if_pos hpt]
    exact ⟨hc, rfl, .inl rfl⟩
  rw [if_neg hpt, if_neg hpt]
  refine ⟨fun hneeded => ?_, fun hneeded => ?_⟩
  · rw [if_pos hneeded, if_pos hneeded]
    exact ⟨hc, rfl, .inl rfl⟩
  rw [if_neg hneeded, if_neg hneeded]
  refine wp_mono (wp_unneededLength hc (by omega)) (fun unneeded c₁ h => ?_) (fun _ _ h => h)
  obtain ⟨hc₁, hblock, rfl⟩ := h
  rw [← hblock] at hpacket ⊢
  have hread (stream : RealTimeTextSinkData) (readstart : ℕ) := @wp_readPacket stream _ _ readstart hc₁ hpacket
  simp only [hpacket] at hread
  simp only [Nat.zero_add, hpacket]
  exact hread _ _

lemma wp_process_red_packet (hc : c.InBounds) (hpacket : c.block.bytes = packet.bytes) :
    wp (process_red_packet stream packet.cseq)
      (fun stream' => Agrees (RealTimeText.process_red_packet stream packet) (scannedText stream packet)
        (.return_ stream'))
      (Agrees (RealTimeText.process_red_packet stream packet) (scannedText stream packet)) c := by
  have hscan := @wp_redHeaders stream _ hc 0
  rw [Nat.mul_zero, drop_zero, hpacket] at hscan
  rw [process_red_packet_eq, wp_bind, wp_get, wp_bind, hpacket]
  refine wp_mono hscan (fun redgen c₁ h => ?_) (fun exit c₁ h => ?_)
  · obtain ⟨hc₁, hblock, -, hgenerations⟩ := h
    have hbytes : c₁.block.bytes = packet.bytes := by rw [hblock, hpacket]
    rw [Nat.sub_zero] at hgenerations
    rw [wp_bind, wp_peekByte]
    by_cases hend : 4 * redgen < packet.bytes.length
    · have hin : 4 * redgen < c₁.block.bytes.length := hend.trans_eq (congrArg length hbytes.symm)
      rw [← hbytes, Block.drop_eq_byte_cons hin, hbytes] at hgenerations
      have htouch := (inBounds_touch (c := c₁) (4 * redgen) 1).2 ⟨hc₁, .inr hin⟩
      rw [process_red_packet_eq_some hgenerations, scannedText, hgenerations, ← hbytes]
      exact wp_readRed htouch hbytes hin.le
    · -- the scan ended behind the packet
      have hnil : packet.bytes.drop (4 * redgen) = [] := drop_eq_nil_iff.2 (not_lt.1 hend)
      have hout : ¬ (c₁.touch (4 * redgen) 1).InBounds := by
        rw [inBounds_touch, hbytes]
        omega
      have hmodel : RealTimeText.process_red_packet stream packet = none := by
        rw [RealTimeText.process_red_packet, hgenerations, hnil]
      rw [hmodel]
      exact wp_readRed_out hout
  · obtain ⟨rfl, hc₁, -, hgenerations⟩ := h
    have hmodel : RealTimeText.process_red_packet stream packet = some stream := by
      rw [RealTimeText.process_red_packet, hgenerations]
    rw [hmodel, scannedText, hgenerations]
    exact ⟨hc₁, rfl, .inl rfl⟩

/-- Reading a packet agrees with the model, whatever lies behind the packet. -/
lemma wp_read_text_packet (hc : c.InBounds) (hpacket : c.block.bytes = packet.bytes) :
    wp (read_text_packet stream packet.cseq)
      (fun stream' => Agrees (RealTimeText.read_text_packet stream packet) (receivedText stream packet)
        (.return_ stream')) (fun exit c' => exit = .overflow ∧
        Agrees (RealTimeText.read_text_packet stream packet) (receivedText stream packet) exit c') c := by
  rw [read_text_packet, wp_bind, wp_tryCatch, receivedText]
  by_cases hred : 0 < stream.pt_red
  · have hmodel : RealTimeText.read_text_packet stream packet =
        (RealTimeText.process_red_packet { stream with inbuf := [] } packet).map ({ · with notFirst := true }) := by
      rw [RealTimeText.read_text_packet]
      dsimp only
      rw [if_pos hred]
      cases RealTimeText.process_red_packet { stream with inbuf := [] } packet <;> rfl
    have hend (stream' : RealTimeTextSinkData) (text : Bytes) (c' : Cursor)
        (h : Agrees (RealTimeText.process_red_packet { stream with inbuf := [] } packet) text (.return_ stream') c') :
        Agrees (RealTimeText.read_text_packet stream packet) text (.return_ { stream' with notFirst := true }) c' := by
      rw [hmodel]
      cases hcase : RealTimeText.process_red_packet { stream with inbuf := [] } packet with
      | none =>
        rw [hcase] at h
        exact h
      | some s =>
        rw [hcase] at h
        obtain ⟨hin, rfl, hprintable⟩ := h
        exact ⟨hin, rfl, hprintable⟩
    rw [if_pos hred, if_pos hred]
    refine wp_mono (wp_process_red_packet hc hpacket) (fun stream' c' => hend stream' _ c') (fun exit c' h => ?_)
    cases exit with
    | return_ stream' => exact hend stream' _ c' h
    | overflow => exact ⟨rfl, h.imp_left fun hnone => by rw [hmodel, hnone, map_none]⟩
  · have hmodel : RealTimeText.read_text_packet stream packet =
        some { RealTimeText.process_t140_packet { stream with inbuf := [] } packet with notFirst := true } := by
      rw [RealTimeText.read_text_packet]
      dsimp only
      rw [if_neg hred]
      rfl
    have hend (stream' : RealTimeTextSinkData) (text : Bytes) (c' : Cursor)
        (h : Agrees (some (RealTimeText.process_t140_packet { stream with inbuf := [] } packet)) text
          (.return_ stream') c') :
        Agrees (RealTimeText.read_text_packet stream packet) text (.return_ { stream' with notFirst := true }) c' := by
      obtain ⟨hin, rfl, hprintable⟩ := h
      rw [hmodel]
      exact ⟨hin, rfl, hprintable⟩
    rw [if_neg hred, if_neg hred]
    refine wp_mono (wp_process_t140_packet hc hpacket) (fun stream' c' => hend stream' _ c') (fun exit c' h => ?_)
    cases exit with
    | return_ stream' => exact hend stream' _ c' h
    | overflow => exact ⟨rfl, .inr (h.resolve_left (some_ne_none _))⟩

end packet

/-! ### The reader of the text -/

section text

variable {c : Cursor}

lemma skip_zero (l : Bytes) : skip (0 :: l) = skip l := by
  cases l with
  | nil => rfl
  | cons a l =>
    cases l with
    | nil => rfl
    | cons b l => rw [skip, if_pos rfl]

lemma wp_isBom {p : ℕ} {b : UInt8} (hc : c.InBounds) (hp : p + 3 ≤ c.block.bytes.length) :
    wp (isBom p b) (fun bom c' => c'.InBounds ∧ c'.block = c.block ∧ c'.position = c.position ∧
      (bom = true ↔ b = 0xEF ∧ c.block.byte (p + 1) = 0xBB ∧ c.block.byte (p + 2) = 0xBF)) (fun _ _ => False) c := by
  have hone : (c.touch (p + 1) 1).InBounds := (inBounds_touch _ _).2 ⟨hc, .inr (by omega)⟩
  have htwo : ((c.touch (p + 1) 1).touch (p + 2) 1).InBounds :=
    (inBounds_touch _ _).2 ⟨hone, .inr (by rw [block_touch]; omega)⟩
  rw [isBom, wp_ite]
  refine ⟨fun hb => ?_, fun hb => ⟨hc, rfl, rfl, by simp [hb]⟩⟩
  rw [wp_bind, wp_peekByte, wp_ite]
  refine ⟨fun hb1 => ?_, fun hb1 => ⟨hone, rfl, rfl, by simp [hb1]⟩⟩
  exact ⟨htwo, rfl, rfl, decide_eq_true_iff.trans ⟨fun hb2 => ⟨hb, hb1, hb2⟩, fun h => h.2.2⟩⟩

/-- A character that begins no BOM is the next one. -/
lemma skip_of_ne {b : UInt8} {l : Bytes} (hzero : b ≠ 0)
    (hbom : ∀ b1 b2 l', l = b1 :: b2 :: l' → ¬ (b = 0xEF ∧ b1 = 0xBB ∧ b2 = 0xBF)) : skip (b :: l) = b :: l := by
  rcases l with - | ⟨b1, - | ⟨b2, l⟩⟩
  · rw [skip, if_neg hzero]
    exact fun _ _ _ h => by cases h
  · rw [skip, if_neg hzero]
    exact fun _ _ _ h => by cases h
  · rw [skip, if_neg hzero, if_neg (hbom b1 b2 l rfl)]

lemma wp_getcharFrom (hc : c.InBounds) (p : ℕ) :
    wp (getcharFrom c.block.bytes.length p) (fun ch c' => c'.InBounds ∧ c'.block = c.block ∧
      (skip (c.block.bytes.drop p) = [] ∧ ch = 0 ∧ c'.position = c.position ∨
        skip (c.block.bytes.drop p) = ch :: c.block.bytes.drop c'.position)) (fun _ _ => False) c := by
  induction hn : c.block.bytes.length - p using Nat.strong_induction_on generalizing p c with
  | _ n ih =>
    rw [getcharFrom]
    by_cases hp : p < c.block.bytes.length
    · have htouch : (c.touch p 1).InBounds := (inBounds_touch _ _).2 ⟨hc, .inr hp⟩
      rw [dif_pos hp, wp_bind, wp_peekByte, wp_ite]
      refine ⟨fun hzero => ?_, fun hzero => ?_⟩
      · by_cases hroom : 3 ≤ c.block.bytes.length - p
        · have hdrop : c.block.bytes.drop p =
              c.block.byte p :: c.block.byte (p + 1) :: c.block.byte (p + 2) :: c.block.bytes.drop (p + 3) := by
            rw [Block.drop_eq_byte_cons hp, Block.drop_eq_byte_cons (by omega), Block.drop_eq_byte_cons (by omega)]
          simp only [if_pos hroom, wp_bind]
          refine wp_mono (wp_isBom htouch (by rw [block_touch]; omega)) (fun bom c₁ h => ?_) (fun _ _ h => h)
          obtain ⟨hc₁, hblock, hposition, hbom⟩ := h
          rw [block_touch] at hblock hbom
          rw [wp_ite]
          refine ⟨fun htrue => ?_, fun hfalse => ?_⟩
          · have hnext := ih _ (by rw [hblock]; omega) hc₁ (p + 3) rfl
            rw [hposition, hblock] at hnext
            rw [hdrop, skip, if_neg hzero, if_pos (hbom.1 htrue)]
            exact hnext
          · rw [Block.drop_eq_byte_cons hp]
            refine ⟨hc₁, hblock, .inr (skip_of_ne hzero fun b1 b2 l' hl h => hfalse (hbom.2 ?_))⟩
            rw [Block.drop_eq_byte_cons (by omega), Block.drop_eq_byte_cons (by omega)] at hl
            obtain ⟨hb1, htail⟩ := cons.inj hl
            obtain ⟨hb2, -⟩ := cons.inj htail
            exact ⟨h.1, hb1.trans h.2.1, hb2.trans h.2.2⟩
        · rw [Block.drop_eq_byte_cons hp]
          simp only [if_neg hroom, wp_bind, wp_pure, wp_ite, wp_modify]
          refine ⟨fun h => absurd h Bool.false_ne_true, fun _ => ⟨htouch, rfl, .inr (skip_of_ne hzero ?_)⟩⟩
          intro b1 b2 l' hl
          have hlength := congrArg length hl
          rw [length_drop, length_cons, length_cons] at hlength
          omega
      · rw [Block.drop_eq_byte_cons hp, not_not.1 hzero, skip_zero]
        exact ih _ (by rw [block_touch]; omega) htouch (p + 1) rfl
    · have hnil : c.block.bytes.drop p = [] := drop_eq_nil_iff.2 (not_lt.1 hp)
      rw [dif_neg hp, wp_pure, hnil]
      exact ⟨hc, rfl, .inl ⟨rfl, rfl, rfl⟩⟩

lemma wp_text_stream_getchar (hc : c.InBounds) :
    wp text_stream_getchar (fun ch c' => c'.InBounds ∧ c'.block = c.block ∧
      RealTimeText.text_stream_getchar (c.block.bytes.drop c.position) = (ch, c.block.bytes.drop c'.position))
      (fun _ _ => False) c := by
  rw [text_stream_getchar, wp_bind, wp_get]
  refine wp_mono (wp_getcharFrom hc c.position) (fun ch c' h => ?_) (fun _ _ h => h)
  obtain ⟨hin, hblock, ⟨hskip, rfl, hposition⟩ | hskip⟩ := h
  · refine ⟨hin, hblock, ?_⟩
    rw [RealTimeText.text_stream_getchar, hskip, hposition]
  · refine ⟨hin, hblock, ?_⟩
    rw [RealTimeText.text_stream_getchar, hskip]

/-- A byte read in the middle of a character. -/
lemma wp_getchar_bind {α : Type} {f : UInt8 → Text α} {P : α → Cursor → Prop} (hc : c.InBounds)
    (hf : ∀ ch c', c'.InBounds → c'.block = c.block →
      RealTimeText.text_stream_getchar (c.block.bytes.drop c.position) = (ch, c'.block.bytes.drop c'.position) →
      wp (f ch) P (fun _ _ => False) c') : wp (text_stream_getchar >>= f) P (fun _ _ => False) c := by
  rw [wp_bind]
  refine wp_mono (wp_text_stream_getchar hc) (fun ch c' h => ?_) (fun _ _ h => h)
  obtain ⟨hin, hblock, hread⟩ := h
  rw [← hblock] at hread
  exact hf ch c' hin hblock (by rw [← hblock]; exact hread)

/-- The character of the model is read inside the buffer. -/
lemma wp_text_stream_getchar32 (hc : c.InBounds) :
    wp text_stream_getchar32 (fun character c' => c'.InBounds ∧ c'.block = c.block ∧
      RealTimeText.text_stream_getchar32 (c.block.bytes.drop c.position) =
        (character, c.block.bytes.drop c'.position)) (fun _ _ => False) c := by
  rw [text_stream_getchar32, RealTimeText.text_stream_getchar32]
  refine wp_getchar_bind hc fun ch c₁ hc₁ hb₁ hread => ?_
  rw [hread]
  simp only [wp_ite]
  refine ⟨fun h1 => ?_, fun h1 => ⟨fun h2 => ?_, fun h2 => ⟨fun h3 => ?_, fun h3 => ⟨fun h4 => ?_, fun h4 => ?_⟩⟩⟩⟩
  · rw [if_pos h1, hb₁]
    exact ⟨hc₁, hb₁, rfl⟩
  · rw [if_neg h1, if_pos h2]
    refine wp_getchar_bind hc₁ fun ch2 c₂ hc₂ hb₂ hread2 => ?_
    rw [hread2, hb₂, hb₁]
    exact ⟨hc₂, hb₂.trans hb₁, rfl⟩
  · rw [if_neg h1, if_neg h2, if_pos h3]
    refine wp_getchar_bind hc₁ fun ch2 c₂ hc₂ hb₂ hread2 => ?_
    refine wp_getchar_bind hc₂ fun ch3 c₃ hc₃ hb₃ hread3 => ?_
    rw [hread2]
    dsimp only
    rw [hread3, hb₃, hb₂, hb₁]
    exact ⟨hc₃, hb₃.trans (hb₂.trans hb₁), rfl⟩
  · rw [if_neg h1, if_neg h2, if_neg h3, if_pos h4]
    refine wp_getchar_bind hc₁ fun ch2 c₂ hc₂ hb₂ hread2 => ?_
    refine wp_getchar_bind hc₂ fun ch3 c₃ hc₃ hb₃ hread3 => ?_
    refine wp_getchar_bind hc₃ fun ch4 c₄ hc₄ hb₄ hread4 => ?_
    rw [hread2]
    dsimp only
    rw [hread3]
    dsimp only
    rw [hread4, hb₄, hb₃, hb₂, hb₁]
    exact ⟨hc₄, hb₄.trans (hb₃.trans (hb₂.trans hb₁)), rfl⟩
  · rw [if_neg h1, if_neg h2, if_neg h3, if_neg h4, hb₁]
    exact ⟨hc₁, hb₁, rfl⟩

/-- Enough turns read the characters of the model, inside the buffer. -/
lemma wp_readChars {turns : ℕ} (hc : c.InBounds) (hturns : (c.block.bytes.drop c.position).length < turns) :
    wp (readChars turns) (fun characters c' => c'.InBounds ∧
      characters = some (textChars (c.block.bytes.drop c.position))) (fun _ _ => False) c := by
  induction turns generalizing c with
  | zero => cases hturns
  | succ turns ih =>
    rw [readChars, wp_bind]
    refine wp_mono (wp_text_stream_getchar32 hc) (fun character c₁ h => ?_) (fun _ _ h => h)
    obtain ⟨hc₁, hblock, hread⟩ := h
    rw [textChars, hread, wp_ite]
    refine ⟨fun hne => ?_, fun hzero => ?_⟩
    · have hlt : (c₁.block.bytes.drop c₁.position).length < turns := by
        have hshorter := length_getchar32_lt (p := c.block.bytes.drop c.position) (by rw [hread]; exact hne)
        rw [hread] at hshorter
        rw [hblock]
        exact hshorter.trans_le (le_of_lt_succ hturns)
      rw [dif_pos hne, wp_bind]
      refine wp_mono (ih hc₁ hlt) (fun rest c₂ h => ?_) (fun _ _ h => h)
      obtain ⟨hc₂, rfl⟩ := h
      rw [hblock]
      exact ⟨hc₂, rfl⟩
    · rw [dif_neg hzero]
      exact ⟨hc₁, rfl⟩

end text

/-! ### Packets whose scan ends -/

/-- One of the bytes where headers begin ends the scan: its F bit is not set, or it names another payload type. -/
def ScanEnds (pt_t140 : ℤ) (payload : Bytes) : Prop :=
  ∃ k b, payload[4 * k]? = some b ∧ (b &&& 0x80 = 0 ∨ ((b &&& 0x7F).toNat : ℤ) ≠ pt_t140)

lemma scanEnds_cons {pt_t140 : ℤ} {b : UInt8} {rest : Bytes} (hbit : b &&& 0x80 ≠ 0)
    (htype : ((b &&& 0x7F).toNat : ℤ) = pt_t140) :
    ScanEnds pt_t140 (b :: rest) ↔ ScanEnds pt_t140 (rest.drop 3) := by
  have hnext (k : ℕ) : (b :: rest)[4 * (k + 1)]? = (rest.drop 3)[4 * k]? := by
    rw [getElem?_drop, show 4 * (k + 1) = (3 + 4 * k) + 1 by omega, getElem?_cons_succ]
  constructor
  · rintro ⟨k, b', hb', hends⟩
    cases k with
    | zero =>
      cases hb'
      exact (hends.elim hbit (fun hne => hne htype)).elim
    | succ k => exact ⟨k, b', (hnext k).symm.trans hb', hends⟩
  · rintro ⟨k, b', hb', hends⟩
    exact ⟨k + 1, b', (hnext k).trans hb', hends⟩

/-- Without such a byte the scan ends behind the packet. -/
lemma exists_redGenerations_nil_iff (pt_t140 : ℤ) (payload : Bytes) :
    (∃ redgen, redGenerations pt_t140 payload = some (redgen, [])) ↔ ¬ ScanEnds pt_t140 payload := by
  induction hn : payload.length using Nat.strong_induction_on generalizing payload with
  | _ n ih =>
    cases payload with
    | nil =>
      rw [redGenerations]
      refine ⟨fun _ => ?_, fun _ => ⟨0, rfl⟩⟩
      rintro ⟨k, b, hb, -⟩
      cases hb
    | cons b rest =>
      rw [redGenerations]
      split_ifs with hbit htype
      · refine ⟨?_, fun h => (h ⟨0, b, rfl, .inr htype⟩).elim⟩
        rintro ⟨_, h⟩
        cases h
      · have hlt : (rest.drop 3).length < n := by
          rw [length_drop, ← hn, length_cons]
          omega
        rw [scanEnds_cons hbit (not_not.1 htype), ← ih _ hlt (rest.drop 3) rfl]
        constructor
        · rintro ⟨redgen, h⟩
          obtain ⟨⟨redgen', rest'⟩, hrest, heq⟩ := map_eq_some_iff.1 h
          cases heq
          exact ⟨redgen', hrest⟩
        · rintro ⟨redgen, h⟩
          exact ⟨redgen + 1, by rw [h]; rfl⟩
      · refine ⟨?_, fun h => (h ⟨0, b, rfl, .inl (not_not.1 hbit)⟩).elim⟩
        rintro ⟨_, h⟩
        cases h

/-- The model has no sink for the packets whose scan does not end. -/
lemma process_red_packet_eq_none_iff (stream : RealTimeTextSinkData) (packet : Mblk) :
    RealTimeText.process_red_packet stream packet = none ↔ ¬ ScanEnds stream.pt_t140 packet.bytes := by
  rw [← exists_redGenerations_nil_iff]
  cases hscan : redGenerations stream.pt_t140 packet.bytes with
  | none =>
    rw [RealTimeText.process_red_packet, hscan]
    refine ⟨fun h => (by cases h), ?_⟩
    rintro ⟨_, h⟩
    cases h
  | some scanned =>
    obtain ⟨redgen, rest⟩ := scanned
    cases rest with
    | nil =>
      rw [RealTimeText.process_red_packet, hscan]
      exact ⟨fun _ => ⟨redgen, rfl⟩, fun _ => rfl⟩
    | cons pt rest =>
      rw [process_red_packet_eq_some hscan]
      refine ⟨fun h => (by cases h), ?_⟩
      rintro ⟨_, h⟩
      cases h

lemma read_text_packet_eq (stream : RealTimeTextSinkData) (packet : Mblk) :
    RealTimeText.read_text_packet stream packet = if 0 < stream.pt_red then
        (RealTimeText.process_red_packet { stream with inbuf := [] } packet).map ({ · with notFirst := true })
      else some { RealTimeText.process_t140_packet { stream with inbuf := [] } packet with notFirst := true } := by
  rw [RealTimeText.read_text_packet]
  dsimp only
  split_ifs
  · cases RealTimeText.process_red_packet { stream with inbuf := [] } packet <;> rfl
  · rfl

lemma read_text_packet_eq_none_iff (stream : RealTimeTextSinkData) (packet : Mblk) :
    RealTimeText.read_text_packet stream packet = none ↔
      0 < stream.pt_red ∧ ¬ ScanEnds stream.pt_t140 packet.bytes := by
  rw [read_text_packet_eq]
  split_ifs with hred
  · rw [map_eq_none_iff, process_red_packet_eq_none_iff]
    exact (and_iff_right hred).symm
  · exact ⟨fun h => (by cases h), fun h => absurd h.1 hred⟩

/-! ### The size of the text -/

variable {stream : RealTimeTextSinkData}

lemma length_readPacket_le (packet : Mblk) (readstart : ℕ) (h : stream.inbuf.length ≤ TS_INBUF_SIZE) :
    (RealTimeText.readPacket stream packet readstart).inbuf.length ≤ TS_INBUF_SIZE := by
  have hdata : (RealTimeText.read_t140_data stream packet.bytes readstart).2.inbuf.length ≤ TS_INBUF_SIZE := by
    rw [RealTimeText.read_t140_data]
    dsimp only
    split_ifs
    · exact h
    · simp only [length_append, length_take]
      omega
    · exact Nat.zero_le _
  rw [RealTimeText.readPacket]
  cases hread : RealTimeText.read_t140_data stream packet.bytes readstart with
  | mk success stream' =>
    rw [hread] at hdata
    cases success
    · exact hdata
    · exact hdata

lemma length_lostChar_le : lostChar.length ≤ TS_INBUF_SIZE := by decide

lemma length_redResult_le (packet : Mblk) (redgen : ℕ) (pt : UInt8) (h : stream.inbuf.length ≤ TS_INBUF_SIZE) :
    (redResult stream packet redgen pt).inbuf.length ≤ TS_INBUF_SIZE := by
  rw [redResult]
  generalize (if stream.notFirst then red_needed packet.cseq.toNat stream.prevseqno else 0) = redneeded
  dsimp only
  split_ifs
  · exact h
  · exact h
  · exact length_readPacket_le packet _ length_lostChar_le
  · exact length_readPacket_le packet _ h

lemma length_process_red_packet_le {stream stream' : RealTimeTextSinkData} {packet : Mblk}
    (h : stream.inbuf.length ≤ TS_INBUF_SIZE) (hrun : RealTimeText.process_red_packet stream packet = some stream') :
    stream'.inbuf.length ≤ TS_INBUF_SIZE := by
  cases hscan : redGenerations stream.pt_t140 packet.bytes with
  | none =>
    rw [RealTimeText.process_red_packet, hscan] at hrun
    cases hrun
    exact h
  | some scanned =>
    obtain ⟨redgen, rest⟩ := scanned
    cases rest with
    | nil =>
      rw [RealTimeText.process_red_packet, hscan] at hrun
      cases hrun
    | cons pt rest =>
      rw [process_red_packet_eq_some hscan] at hrun
      cases hrun
      exact length_redResult_le packet redgen pt h

lemma length_process_t140_packet_le (packet : Mblk) (h : stream.inbuf.length ≤ TS_INBUF_SIZE) :
    (RealTimeText.process_t140_packet stream packet).inbuf.length ≤ TS_INBUF_SIZE := by
  rw [RealTimeText.process_t140_packet]
  generalize (if stream.notFirst then red_needed packet.cseq.toNat stream.prevseqno else 0) = t
  split_ifs
  · exact h
  · exact length_readPacket_le packet 0 length_lostChar_le
  · exact length_readPacket_le packet 0 h

/-- The text that a packet leaves fits the buffer of the sink. -/
lemma length_inbuf_le {stream stream' : RealTimeTextSinkData} {packet : Mblk}
    (h : RealTimeText.read_text_packet stream packet = some stream') : stream'.inbuf.length ≤ TS_INBUF_SIZE := by
  rw [read_text_packet_eq] at h
  split_ifs at h
  · obtain ⟨sink, hsink, rfl⟩ := map_eq_some_iff.1 h
    have hle : sink.inbuf.length ≤ TS_INBUF_SIZE := length_process_red_packet_le (Nat.zero_le _) hsink
    exact hle
  · cases h
    exact length_process_t140_packet_le packet (Nat.zero_le _)

/-! ### Hostile packets -/

/-- A packet is read to its end: inside the payload, into the buffer of the sink, and the characters are read inside
this buffer. -/
structure InBounds (sink : RealTimeTextSinkData) (c : Cursor) : Prop where
  payload : c.InBounds
  text : sink.inbuf.length ≤ TS_INBUF_SIZE
  reader : ∀ behind, ∃ characters c', readChars (sink.inbuf.length + 1) (.start ⟨sink.inbuf, behind⟩ 0) =
    .ok (some characters) c' ∧ c'.InBounds

variable (stream : RealTimeTextSinkData) (packet : Mblk) (behind : ℕ → UInt8)

/-- What happens with a packet that these bytes follow in memory. -/
def StaysInBounds : Prop :=
  ∃ sink c, read_text_packet stream packet.cseq (.start ⟨packet.bytes, behind⟩ 0) = .ok sink c ∧ InBounds sink c

lemma reader_inBounds (inbuf : Bytes) (behind : ℕ → UInt8) :
    ∃ characters c', readChars (inbuf.length + 1) (.start ⟨inbuf, behind⟩ 0) = .ok (some characters) c' ∧
      c'.InBounds := by
  have hread := @wp_readChars _ (inbuf.length + 1) (inBounds_start ⟨inbuf, behind⟩ 0)
    (by rw [position_start, drop_zero]; exact lt_succ_self _)
  obtain ⟨characters, c', hrun, hin, rfl⟩ := exists_ok_of_wp hread
  exact ⟨_, c', hrun, hin⟩

lemma staysInBounds_iff_ne_none : StaysInBounds stream packet behind ↔
      RealTimeText.read_text_packet stream packet ≠ none ∧ Printable (receivedText stream packet) := by
  have hread := @wp_read_text_packet stream _ packet (inBounds_start ⟨packet.bytes, behind⟩ 0) rfl
  rw [wp] at hread
  rw [StaysInBounds]
  cases hrun : read_text_packet stream packet.cseq (.start ⟨packet.bytes, behind⟩ 0) with
  | ok sink c =>
    rw [hrun] at hread
    constructor
    · rintro ⟨sink', c', hrun', hin⟩
      cases hrun'
      cases hmodel : RealTimeText.read_text_packet stream packet with
      | none =>
        rw [hmodel] at hread
        exact absurd hin.payload hread
      | some stream' =>
        rw [hmodel] at hread
        exact ⟨some_ne_none _, hread.2.2⟩
    · rintro ⟨hsome, -⟩
      obtain ⟨sink', hmodel⟩ := ne_none_iff_exists'.1 hsome
      rw [hmodel] at hread
      obtain ⟨hin, rfl, -⟩ := hread
      exact ⟨sink, c, rfl, hin, length_inbuf_le hmodel, reader_inBounds sink.inbuf⟩
  | error exit c =>
    rw [hrun] at hread
    obtain ⟨rfl, hnone | hlong⟩ := hread
    · exact iff_of_false (by rintro ⟨_, _, ⟨⟩, _⟩) fun h => h.1 hnone
    · exact iff_of_false (by rintro ⟨_, _, ⟨⟩, _⟩) fun h => hlong h.2

/-- For every packet, whatever lies behind it, the sink stays in bounds if and only if the packet is not read as RED or
one of its headers ends the scan, and its text is accepted or short enough to be printed. -/
theorem staysInBounds_iff : StaysInBounds stream packet behind ↔
      (stream.pt_red ≤ 0 ∨ ScanEnds stream.pt_t140 packet.bytes) ∧ Printable (receivedText stream packet) := by
  rw [staysInBounds_iff_ne_none, Ne, read_text_packet_eq_none_iff, not_and_or, not_lt, not_not]

/-- One header with its F bit, and nothing after it: the byte four positions on is read. With RED off, 200 bytes that
are no UTF-8 are printed behind the array. -/
theorem not_staysInBounds_header : ¬ StaysInBounds { pt_t140 := 99, pt_red := 98 } { bytes := [0xE3] } (fun _ => 0) ∧
    ¬ StaysInBounds { pt_t140 := 99, pt_red := 0 } { bytes := replicate 200 0xFF } (fun _ => 0) := by
  constructor
  · rw [staysInBounds_iff_ne_none, not_and_or, not_not, read_text_packet_eq_none_iff, ← exists_redGenerations_nil_iff]
    refine .inl ⟨by decide, 1, ?_⟩
    rw [redGenerations, if_pos (by decide), if_neg (by decide), drop_nil, redGenerations]
    rfl
  · rw [staysInBounds_iff_ne_none, not_and_or]
    exact .inr (by decide +kernel)

end RealTimeText.Bounds
