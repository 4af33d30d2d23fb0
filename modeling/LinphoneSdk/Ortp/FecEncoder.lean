import LinphoneSdk.Ortp.FecPackets

/-!
# FEC encoder

`FecEncoder` adds the source packets that are sent to the repair packets of the rows and of the columns of a
block, and `FecStreamCxx` sends a repair packet when its row or its column is full.
-/

namespace Ortp

open List UInt8 Nat

structure FecEncoder where
  mIs2D : Bool
  mL : UInt8
  mD : UInt8
  mRows : ℕ
  mColumns : ℕ
  mRowRepairNb : ℕ
  mColRepairNb : ℕ
  mLoading : ℕ
  mRowRepair : List FecRepairPacket
  mColRepair : List FecRepairPacket
deriving DecidableEq

namespace FecEncoder

def updateProtectionParam (L D : UInt8) (is2D : Bool) (encoder : FecEncoder) : FecEncoder :=
  if L = 0 then
    { encoder with
      mIs2D := false, mL := 0, mD := 0, mRows := 0, mColumns := 0, mRowRepairNb := 0, mColRepairNb := 0 }
  else
    let encoder := { encoder with mIs2D := if D = 0 then false else is2D, mL := L, mD := D }
    if encoder.mIs2D then
      { encoder with mRows := D.toNat, mColumns := L.toNat, mRowRepairNb := D.toNat, mColRepairNb := L.toNat }
    else if 1 < D then
      { encoder with mRows := D.toNat, mColumns := L.toNat, mRowRepairNb := 0, mColRepairNb := L.toNat }
    else { encoder with mRows := 1, mColumns := L.toNat, mRowRepairNb := 1, mColRepairNb := 0 }

/-- Empty repair packets whose bases are some numbers apart. -/
def initRepairPackets (protectedSsrc : UInt32) (L D : UInt8) (step : ℕ) : ℕ → UInt16 → List FecRepairPacket
  | 0, _ => []
  | n + 1, seqnum =>
    .new protectedSsrc seqnum L D :: initRepairPackets protectedSsrc L D step n (seqnum + .ofNat step)

def initRowRepairPackets (sourceSsrc : UInt32) (encoder : FecEncoder) : FecEncoder :=
  let D := if encoder.mIs2D then 1 else 0
  { encoder with
    mRowRepair := encoder.mRowRepair ++
      initRepairPackets sourceSsrc encoder.mL D encoder.mColumns encoder.mRowRepairNb 0 }

def initColRepairPackets (sourceSsrc : UInt32) (encoder : FecEncoder) : FecEncoder :=
  { encoder with
    mColRepair := encoder.mColRepair ++ initRepairPackets sourceSsrc encoder.mL encoder.mD 1 encoder.mColRepairNb 0 }

def new (sourceSsrc : UInt32) (L D : UInt8) (is2D : Bool) : FecEncoder :=
  let encoder := updateProtectionParam L D is2D ⟨false, 0, 0, 0, 0, 0, 0, 0, [], []⟩
  initColRepairPackets sourceSsrc (initRowRepairPackets sourceSsrc encoder)

def resetRepairPackets (step : ℕ) : UInt16 → List FecRepairPacket → List FecRepairPacket
  | _, [] => []
  | seqnum, packet :: packets => packet.reset seqnum :: resetRepairPackets step (seqnum + .ofNat step) packets

def resetRowRepairPackets (seqnumBase : UInt16) (encoder : FecEncoder) : FecEncoder :=
  { encoder with mRowRepair := resetRepairPackets encoder.mColumns seqnumBase encoder.mRowRepair }

def resetColRepairPackets (seqnumBase : UInt16) (encoder : FecEncoder) : FecEncoder :=
  { encoder with mColRepair := resetRepairPackets 1 seqnumBase encoder.mColRepair }

def reset (nextSequenceNumber : UInt16) (encoder : FecEncoder) : FecEncoder :=
  let encoder := { encoder with mLoading := 0 }
  let encoder := if 0 < encoder.mRowRepairNb then encoder.resetRowRepairPackets nextSequenceNumber else encoder
  if 0 < encoder.mColRepairNb then encoder.resetColRepairPackets nextSequenceNumber else encoder

variable (encoder : FecEncoder)

def getCurrentRow : ℕ :=
  if 1 < encoder.mD then (encoder.mLoading - 1) / encoder.mColumns else 0

def getCurrentColumn : ℕ := (encoder.mLoading - 1) % encoder.mColumns

def add (packet : FecSourcePacket) : FecEncoder :=
  let encoder := { encoder with mLoading := encoder.mLoading + 1 }
  let i := encoder.getCurrentRow
  let j := encoder.getCurrentColumn
  { encoder with
    mRowRepair :=
      if 0 < encoder.mRowRepairNb then encoder.mRowRepair.modify i (·.add packet) else encoder.mRowRepair
    mColRepair :=
      if 0 < encoder.mColRepairNb then encoder.mColRepair.modify j (·.add packet) else encoder.mColRepair }

def isFull : Bool :=
  encoder.mLoading = encoder.mRows * encoder.mColumns ∧ encoder.mLoading ≠ 0

def isEmpty : Bool := encoder.mLoading = 0

def isRowFull : Bool :=
  if encoder.mRowRepairNb = 0 then false else encoder.getCurrentColumn + 1 = encoder.mColumns

def isColFull : Bool :=
  if encoder.mColRepairNb = 0 then false else encoder.getCurrentRow + 1 = encoder.mRows

def getRowRepairMblk (i : ℕ) : Option FecRepairPacket := encoder.mRowRepair[i]?

def getColRepairMblk (i : ℕ) : Option FecRepairPacket := encoder.mColRepair[i]?

end FecEncoder

/-- The sending side of `FecStreamCxx`. -/
structure FecSender where
  mEncoder : FecEncoder
  /-- The next sequence number of the FEC session. -/
  seqNumber : UInt16
deriving DecidableEq

namespace FecSender

/-- A copy of a repair packet, if there is one, is sent with the next sequence number. -/
def sendRepair (sender : FecSender) (timestamp : UInt32) : Option FecRepairPacket → FecSender × List FecRepairPacket
  | none => (sender, [])
  | some repair =>
    ({ sender with seqNumber := sender.seqNumber + 1 },
      [{ repair with timestamp := timestamp, seqnum := sender.seqNumber }])

def onNewSourcePacketSent (sender : FecSender) (packet : Packet) : FecSender × List FecRepairPacket :=
  if rtpGetVersion packet ≠ 2 then (sender, [])
  else
    let encoder := if sender.mEncoder.isFull || sender.mEncoder.isEmpty then
      sender.mEncoder.reset (rtpGetSeqnumber packet) else sender.mEncoder
    let encoder := encoder.add (.ofPacket packet)
    let timestamp := rtpGetTimestamp packet
    let row := sendRepair { sender with mEncoder := encoder } timestamp
      (if encoder.isRowFull then encoder.getRowRepairMblk encoder.getCurrentRow else none)
    let col := row.1.sendRepair timestamp
      (if encoder.isColFull then encoder.getColRepairMblk encoder.getCurrentColumn else none)
    (col.1, row.2 ++ col.2)

end FecSender

structure SourceStream where
  ssrc : UInt32
  start : UInt16
  packet : ℕ → Packet
  header : ∀ k, RTP_FIXED_HEADER_SIZE ≤ (packet k).length
  version : ∀ k, rtpGetVersion (packet k) = 2
  seqnum_eq : ∀ k, rtpGetSeqnumber (packet k) = start + .ofNat k
  ssrc_eq : ∀ k, rtpGetSsrc (packet k) = ssrc

namespace SourceStream

/-- The sequence number of the packet at a position. -/
def seqnum (stream : SourceStream) (k : ℕ) : UInt16 := stream.start + .ofNat k

def source (stream : SourceStream) (k : ℕ) : FecSourcePacket := .ofPacket (stream.packet k)

lemma seqnum_add (stream : SourceStream) (k n : ℕ) : stream.seqnum (k + n) = stream.seqnum k + .ofNat n := by
  rw [seqnum, seqnum, UInt16.ofNat_add, UInt16.add_assoc]

def sender (stream : SourceStream) (encoder : FecEncoder) (seqNumber : UInt16) : ℕ → FecSender
  | 0 => ⟨encoder, seqNumber⟩
  | k + 1 => ((stream.sender encoder seqNumber k).onNewSourcePacketSent (stream.packet k)).1

def sentWith (stream : SourceStream) (encoder : FecEncoder) (seqNumber : UInt16) (k : ℕ) : List FecRepairPacket :=
  ((stream.sender encoder seqNumber k).onNewSourcePacketSent (stream.packet k)).2

end SourceStream

/-! ### Repair packets of a block -/

namespace FecEncoder

variable {encoder : FecEncoder} {stream : SourceStream} {ssrc : UInt32} {b l : ℕ}

/-- The parameters are accepted, the column packets are read as columns, and the packets have the parameters. -/
structure Accepted (encoder : FecEncoder) (ssrc : UInt32) : Prop where
  mL_pos : 0 < encoder.mL.toNat
  mColumns_eq : encoder.mColumns = encoder.mL.toNat
  mRows_eq : encoder.mRows = max 1 encoder.mD.toNat
  col_depth : encoder.mColRepairNb ≠ 0 → 1 < encoder.mD ∨ encoder.mL = 1 ∧ encoder.mD = 1
  row_length : encoder.mRowRepair.length = encoder.mRowRepairNb
  col_length : encoder.mColRepair.length = encoder.mColRepairNb
  row_mem : ∀ packet ∈ encoder.mRowRepair, packet.mL = encoder.mL ∧ packet.mD ≤ 1 ∧ packet.protectedSsrc = ssrc
  col_mem : ∀ packet ∈ encoder.mColRepair, packet.mL = encoder.mL ∧ packet.mD = encoder.mD ∧ packet.protectedSsrc = ssrc

/-- The encoder has added the first packets of a block that begins at a position. -/
structure InBlock (encoder : FecEncoder) (stream : SourceStream) (b l : ℕ) : Prop where
  loading : encoder.mLoading = l
  le : l ≤ encoder.mRows * encoder.mColumns
  row : ∀ i packet, encoder.mRowRepair[i]? = some packet →
    packet.mSeqnumBase = stream.seqnum (b + i * encoder.mColumns) ∧
      packet.IsParity (((range l).filter (· / encoder.mColumns = i)).map fun q => stream.source (b + q))
  col : ∀ j packet, encoder.mColRepair[j]? = some packet → packet.mSeqnumBase = stream.seqnum (b + j) ∧
      packet.IsParity (((range l).filter (· % encoder.mColumns = j)).map fun q => stream.source (b + q))

lemma Accepted.load (h : Accepted encoder ssrc) (l : ℕ) : Accepted { encoder with mLoading := l } ssrc :=
  ⟨h.mL_pos, h.mColumns_eq, h.mRows_eq, h.col_depth, h.row_length, h.col_length, h.row_mem, h.col_mem⟩

lemma Accepted.getCurrentRow_eq (h : Accepted encoder ssrc) (hl : encoder.mLoading = l + 1)
    (hle : l < encoder.mRows * encoder.mColumns) : encoder.getCurrentRow = l / encoder.mColumns := by
  rw [getCurrentRow, hl, Nat.add_sub_cancel]
  split_ifs with hD
  · rfl
  · have hrows : encoder.mRows = 1 := by
      rw [h.mRows_eq]
      exact max_eq_left (Nat.le_of_not_lt fun hlt => hD (lt_iff_toNat_lt.mpr hlt))
    rw [hrows, Nat.one_mul] at hle
    exact (div_eq_of_lt hle).symm

lemma getCurrentColumn_eq (hl : encoder.mLoading = l + 1) : encoder.getCurrentColumn = l % encoder.mColumns := by
  rw [getCurrentColumn, hl, Nat.add_sub_cancel]

/-! Additions -/

/-- A packet of a vector after an addition at one index. -/
lemma getElem?_modify_add {packets : List FecRepairPacket} {n i j : ℕ} {source : FecSourcePacket}
    {packet : FecRepairPacket} (hlength : packets.length = n)
    (h : (if 0 < n then packets.modify i (·.add source) else packets)[j]? = some packet) :
    ∃ packet₀, packets[j]? = some packet₀ ∧ packet = if i = j then packet₀.add source else packet₀ := by
  split_ifs at h with hn
  · rw [getElem?_modify, Option.map_eq_map, Option.map_eq_some_iff] at h
    obtain ⟨packet₀, hpacket₀, rfl⟩ := h
    exact ⟨packet₀, hpacket₀, by split_ifs <;> rfl⟩
  · rw [length_eq_zero_iff.mp (hlength.trans (Nat.eq_zero_of_not_pos hn))] at h
    exact absurd h (by simp)

lemma length_modify_add (packets : List FecRepairPacket) (n i : ℕ) (source : FecSourcePacket) :
    (if 0 < n then packets.modify i (·.add source) else packets).length = packets.length := by
  split_ifs
  · exact length_modify ..
  · rfl

lemma Accepted.add (h : Accepted encoder ssrc) (source : FecSourcePacket) : Accepted (encoder.add source) ssrc := by
  refine ⟨h.mL_pos, h.mColumns_eq, h.mRows_eq, h.col_depth, ?_, ?_, fun packet hpacket => ?_, fun packet hpacket => ?_⟩
  · exact (length_modify_add ..).trans h.row_length
  · exact (length_modify_add ..).trans h.col_length
  · obtain ⟨i, hi⟩ := mem_iff_getElem?.mp hpacket
    obtain ⟨packet₀, hpacket₀, rfl⟩ := getElem?_modify_add h.row_length hi
    have hmem := h.row_mem packet₀ (mem_of_getElem? hpacket₀)
    split_ifs <;> exact hmem
  · obtain ⟨i, hi⟩ := mem_iff_getElem?.mp hpacket
    obtain ⟨packet₀, hpacket₀, rfl⟩ := getElem?_modify_add h.col_length hi
    have hmem := h.col_mem packet₀ (mem_of_getElem? hpacket₀)
    split_ifs <;> exact hmem

lemma range_succ_filter (p : ℕ → Prop) [DecidablePred p] (l : ℕ) (f : ℕ → FecSourcePacket) :
    ((range (l + 1)).filter p).map f = ((range l).filter p).map f ++ if p l then [f l] else [] := by
  rw [range_succ, filter_append, map_append, filter_singleton]
  by_cases h : p l <;> simp [h]

/-- The packet at one index has one more source packet. -/
lemma isParity_add {packet₀ : FecRepairPacket} {p : ℕ → Prop} [DecidablePred p]
    (h : packet₀.IsParity (((range l).filter p).map fun q => stream.source (b + q))) {i j : ℕ}
    (hij : i = j ↔ p l) : (if i = j then packet₀.add (stream.source (b + l)) else packet₀).IsParity
      (((range (l + 1)).filter p).map fun q => stream.source (b + q)) := by
  rw [range_succ_filter]
  by_cases heq : i = j
  · rw [if_pos heq, if_pos (hij.mp heq)]
    exact h.add (stream.source (b + l))
  · rw [if_neg heq, if_neg (mt hij.mpr heq), append_nil]
    exact h

lemma InBlock.add (h : InBlock encoder stream b l) (ha : Accepted encoder ssrc)
    (hl : l < encoder.mRows * encoder.mColumns) :
    InBlock (encoder.add (stream.source (b + l))) stream b (l + 1) := by
  have hloading : encoder.mLoading + 1 = l + 1 := congrArg (· + 1) h.loading
  have hrow : FecEncoder.getCurrentRow { encoder with mLoading := encoder.mLoading + 1 } = l / encoder.mColumns :=
    (ha.load _).getCurrentRow_eq hloading hl
  have hcol : FecEncoder.getCurrentColumn { encoder with mLoading := encoder.mLoading + 1 } =
      l % encoder.mColumns := getCurrentColumn_eq hloading
  refine ⟨hloading, hl, fun i packet hpacket => ?_, fun j packet hpacket => ?_⟩
  · obtain ⟨packet₀, hpacket₀, rfl⟩ := getElem?_modify_add ha.row_length hpacket
    obtain ⟨hbase, hparity⟩ := h.row i packet₀ hpacket₀
    refine ⟨?_, isParity_add hparity (by rw [hrow])⟩
    split_ifs <;> exact hbase
  · obtain ⟨packet₀, hpacket₀, rfl⟩ := getElem?_modify_add ha.col_length hpacket
    obtain ⟨hbase, hparity⟩ := h.col j packet₀ hpacket₀
    refine ⟨?_, isParity_add hparity (by rw [hcol])⟩
    split_ifs <;> exact hbase

/-! Resets -/

lemma getElem?_resetRepairPackets (step : ℕ) (seqnum : UInt16) (packets : List FecRepairPacket) (i : ℕ) :
    (resetRepairPackets step seqnum packets)[i]? =
      packets[i]?.map fun packet => packet.reset (seqnum + .ofNat (i * step)) := by
  induction packets generalizing seqnum i with
  | nil => rfl
  | cons packet packets ih =>
    cases i with
    | zero => simp [resetRepairPackets]
    | succ i =>
      rw [resetRepairPackets, getElem?_cons_succ, getElem?_cons_succ, ih, succ_mul, Nat.add_comm,
        UInt16.ofNat_add, UInt16.add_assoc]

lemma length_resetRepairPackets (step : ℕ) (seqnum : UInt16) (packets : List FecRepairPacket) :
    (resetRepairPackets step seqnum packets).length = packets.length := by
  induction packets generalizing seqnum with
  | nil => rfl
  | cons packet packets ih => exact congrArg (· + 1) (ih _)

lemma Accepted.reset_eq (h : Accepted encoder ssrc) (seqnum : UInt16) : encoder.reset seqnum = { encoder with
      mLoading := 0
      mRowRepair := resetRepairPackets encoder.mColumns seqnum encoder.mRowRepair
      mColRepair := resetRepairPackets 1 seqnum encoder.mColRepair } := by
  have hempty {packets : List FecRepairPacket} {n : ℕ} (hlength : packets.length = n) (hn : ¬ 0 < n) (step : ℕ) :
      resetRepairPackets step seqnum packets = packets := by
    rw [length_eq_zero_iff.mp (hlength.trans (Nat.eq_zero_of_not_pos hn))]
    rfl
  rw [FecEncoder.reset]
  by_cases hrow : 0 < encoder.mRowRepairNb <;> by_cases hcol : 0 < encoder.mColRepairNb
  · simp only [hrow, hcol, if_true, resetRowRepairPackets, resetColRepairPackets]
  · simp only [hrow, hcol, if_true, if_false, resetRowRepairPackets, hempty h.col_length hcol]
  · simp only [hrow, hcol, if_true, if_false, resetColRepairPackets, hempty h.row_length hrow]
  · simp only [hrow, hcol, if_false, hempty h.row_length hrow, hempty h.col_length hcol]

lemma Accepted.reset (h : Accepted encoder ssrc) (seqnum : UInt16) : Accepted (encoder.reset seqnum) ssrc := by
  have hmem {step : ℕ} {packets : List FecRepairPacket} {packet : FecRepairPacket}
      (hpacket : packet ∈ resetRepairPackets step seqnum packets) :
      ∃ packet₀ ∈ packets, ∃ base, packet = packet₀.reset base := by
    obtain ⟨i, hi⟩ := mem_iff_getElem?.mp hpacket
    rw [getElem?_resetRepairPackets, Option.map_eq_some_iff] at hi
    obtain ⟨packet₀, hpacket₀, rfl⟩ := hi
    exact ⟨packet₀, mem_of_getElem? hpacket₀, _, rfl⟩
  rw [h.reset_eq]
  refine ⟨h.mL_pos, h.mColumns_eq, h.mRows_eq, h.col_depth, ?_, ?_, fun packet hpacket => ?_, fun packet hpacket => ?_⟩
  · exact (length_resetRepairPackets ..).trans h.row_length
  · exact (length_resetRepairPackets ..).trans h.col_length
  · obtain ⟨packet₀, hpacket₀, base, rfl⟩ := hmem hpacket
    exact h.row_mem packet₀ hpacket₀
  · obtain ⟨packet₀, hpacket₀, base, rfl⟩ := hmem hpacket
    exact h.col_mem packet₀ hpacket₀

/-- A block begins. -/
lemma Accepted.inBlock_reset (h : Accepted encoder ssrc) (stream : SourceStream) (b : ℕ) :
    InBlock (encoder.reset (stream.seqnum b)) stream b 0 := by
  rw [h.reset_eq]
  refine ⟨rfl, Nat.zero_le _, fun i packet hpacket => ?_, fun j packet hpacket => ?_⟩
  · rw [getElem?_resetRepairPackets, Option.map_eq_some_iff] at hpacket
    obtain ⟨packet₀, -, rfl⟩ := hpacket
    exact ⟨(stream.seqnum_add b _).symm, packet₀.isParity_reset _⟩
  · rw [getElem?_resetRepairPackets, Option.map_eq_some_iff] at hpacket
    obtain ⟨packet₀, -, rfl⟩ := hpacket
    refine ⟨?_, packet₀.isParity_reset _⟩
    rw [stream.seqnum_add, Nat.mul_one]
    rfl

end FecEncoder

/-! ### Repair packets that are sent -/

/-- A repair packet of a stream protects the packets of its list, which are at some positions. -/
structure FecRepairPacket.Protects (stream : SourceStream) (positions : List ℕ) (packet : FecRepairPacket) :
    Prop where
  nodup : positions.Nodup
  ssrc : packet.protectedSsrc = stream.ssrc
  list_eq : packet.createSequenceNumberList = positions.map stream.seqnum
  parity : packet.IsParity (positions.map stream.source)

def positionsFrom (step first n : ℕ) : List ℕ := (range n).map fun i => first + i * step

lemma nodup_positionsFrom {step : ℕ} (hstep : 0 < step) (first n : ℕ) : (positionsFrom step first n).Nodup :=
  nodup_range.map fun _ _ h => eq_of_mul_eq_mul_right hstep (Nat.add_left_cancel h)

lemma SourceStream.sequenceNumbersFrom_eq (stream : SourceStream) (step first n : ℕ) :
    FecRepairPacket.sequenceNumbersFrom (.ofNat step) (stream.seqnum first) n =
      (positionsFrom step first n).map stream.seqnum := by
  induction n generalizing first with
  | zero => rfl
  | succ n ih =>
    rw [FecRepairPacket.sequenceNumbersFrom, ← stream.seqnum_add, ih, positionsFrom, positionsFrom,
      range_succ_eq_map, map_cons, map_cons, map_map, map_map, map_map, Nat.zero_mul,
      Nat.add_zero]
    congr 1
    refine map_congr_left fun i _ => ?_
    simp only [Function.comp_apply, succ_mul]
    congr 1
    omega

namespace FecEncoder

variable {encoder : FecEncoder} {stream : SourceStream} {b l : ℕ}

/-- The packets of a full row. -/
lemma perm_row {i n : ℕ} (hi : l / n = i) (hfull : l % n + 1 = n) :
    ((range (l + 1)).filter (· / n = i)).Perm (positionsFrom 1 (i * n) n) := by
  have hl : l = i * n + l % n := by
    rw [← hi, Nat.mul_comm]
    exact (div_add_mod l n).symm
  refine (perm_ext_iff_of_nodup (nodup_range.filter _) (nodup_positionsFrom one_pos _ _)).mpr
    fun q => ?_
  simp only [positionsFrom, mem_filter, mem_range, decide_eq_true_eq, mem_map, Nat.mul_one]
  constructor
  · rintro ⟨-, rfl⟩
    refine ⟨q % n, mod_lt q (by omega), ?_⟩
    rw [Nat.mul_comm]
    exact div_add_mod q n
  · rintro ⟨c, hc, rfl⟩
    refine ⟨by omega, ?_⟩
    rw [Nat.mul_comm, mul_add_div (by omega), div_eq_of_lt hc, Nat.add_zero]

/-- The packets of a full column. -/
lemma perm_col {j n rows : ℕ} (hn : 0 < n) (hj : l % n = j) (hfull : l / n + 1 = rows) :
    ((range (l + 1)).filter (· % n = j)).Perm (positionsFrom n j rows) := by
  have hl : l = j + l / n * n := by
    rw [← hj, Nat.mul_comm, Nat.add_comm]
    exact (div_add_mod l n).symm
  refine (perm_ext_iff_of_nodup (nodup_range.filter _) (nodup_positionsFrom hn _ _)).mpr fun q => ?_
  simp only [positionsFrom, mem_filter, mem_range, decide_eq_true_eq, mem_map]
  constructor
  · rintro ⟨hq, rfl⟩
    have hdiv : q / n ≤ l / n := Nat.div_le_div_right (le_of_lt_succ hq)
    exact ⟨q / n, by omega, mod_add_div' q n⟩
  · rintro ⟨r, hr, rfl⟩
    have hle : r * n ≤ l / n * n := Nat.mul_le_mul_right n (by omega)
    refine ⟨by omega, ?_⟩
    rw [add_mul_mod_self_right, mod_eq_of_lt]
    exact hj ▸ mod_lt l hn

variable {packet : FecRepairPacket}

lemma isParity_positions {offsets : List ℕ} {step first n : ℕ}
    (h : packet.IsParity (offsets.map fun q => stream.source (b + q)))
    (hperm : offsets.Perm (positionsFrom step first n)) :
    packet.IsParity ((positionsFrom step (b + first) n).map stream.source) := by
  have hpositions : positionsFrom step (b + first) n = (positionsFrom step first n).map (b + ·) := by
    rw [positionsFrom, positionsFrom, map_map]
    exact map_congr_left fun _ _ => Nat.add_assoc ..
  rw [hpositions, map_map]
  exact h.perm (hperm.map _)

lemma InBlock.protects_row (h : InBlock encoder stream b (l + 1)) (ha : Accepted encoder stream.ssrc)
    (hpacket : encoder.mRowRepair[l / encoder.mColumns]? = some packet)
    (hfull : l % encoder.mColumns + 1 = encoder.mColumns) :
    packet.mSeqnumBase = stream.seqnum (b + l / encoder.mColumns * encoder.mColumns) ∧ packet.Protects stream
      (positionsFrom 1 (b + l / encoder.mColumns * encoder.mColumns) encoder.mColumns) := by
  obtain ⟨hbase, hparity⟩ := h.row _ packet hpacket
  obtain ⟨hL, hD, hssrc⟩ := ha.row_mem packet (mem_of_getElem? hpacket)
  have hsize : max 1 packet.mL.toNat = encoder.mColumns := by
    rw [hL, ha.mColumns_eq]
    exact max_eq_right ha.mL_pos
  refine ⟨hbase, nodup_positionsFrom one_pos _ _, hssrc, ?_, isParity_positions hparity (perm_row rfl hfull)⟩
  rw [FecRepairPacket.createSequenceNumberList, if_pos hD, if_pos hD, hbase, hsize]
  exact stream.sequenceNumbersFrom_eq 1 _ _

lemma InBlock.protects_col (h : InBlock encoder stream b (l + 1)) (ha : Accepted encoder stream.ssrc)
    (hpacket : encoder.mColRepair[l % encoder.mColumns]? = some packet)
    (hfull : l / encoder.mColumns + 1 = encoder.mRows) :
    packet.mSeqnumBase = stream.seqnum (b + l % encoder.mColumns) ∧ packet.Protects stream
      (positionsFrom encoder.mColumns (b + l % encoder.mColumns) encoder.mRows) := by
  obtain ⟨hbase, hparity⟩ := h.col _ packet hpacket
  obtain ⟨hL, hD, hssrc⟩ := ha.col_mem packet (mem_of_getElem? hpacket)
  have hpos : 0 < encoder.mColumns := ha.mColumns_eq ▸ ha.mL_pos
  refine ⟨hbase, nodup_positionsFrom hpos _ _, hssrc, ?_, isParity_positions hparity (perm_col hpos rfl hfull)⟩
  have hnb : encoder.mColRepairNb ≠ 0 := by
    rw [← ha.col_length]
    exact fun hnil => by simp [length_eq_zero_iff.mp hnil] at hpacket
  rw [FecRepairPacket.createSequenceNumberList, hbase, hL, hD, ← stream.sequenceNumbersFrom_eq, ha.mRows_eq,
    ha.mColumns_eq]
  rcases ha.col_depth hnb with hdepth | ⟨hL1, hD1⟩
  · have hnot : ¬ encoder.mD ≤ 1 := UInt8.not_le.mpr hdepth
    rw [if_neg hnot, if_neg hnot, UInt16.ofNat_uInt8ToNat]
  · -- one column of one packet
    rw [hL1, hD1]
    rfl

end FecEncoder

/-! ### Blocks after blocks -/

namespace FecEncoder

/-- The columns of a block of one row have one packet, but they are read as rows. -/
def ReadsColumns (L D : UInt8) (is2D : Bool) : Prop := ¬ (is2D = true ∧ D = 1 ∧ 1 < L)

lemma mem_initRepairPackets {ssrc : UInt32} {L D : UInt8} {step n : ℕ} {seqnum : UInt16} {packet : FecRepairPacket}
    (h : packet ∈ initRepairPackets ssrc L D step n seqnum) :
    packet.mL = L ∧ packet.mD = D ∧ packet.protectedSsrc = ssrc := by
  induction n generalizing seqnum with
  | zero => exact absurd h not_mem_nil
  | succ n ih =>
    rcases mem_cons.mp h with rfl | h
    · exact ⟨rfl, rfl, rfl⟩
    · exact ih h

lemma length_initRepairPackets (ssrc : UInt32) (L D : UInt8) (step n : ℕ) (seqnum : UInt16) :
    (initRepairPackets ssrc L D step n seqnum).length = n := by
  induction n generalizing seqnum with
  | zero => rfl
  | succ n ih => exact congrArg (· + 1) (ih _)

lemma mLoading_new (ssrc : UInt32) (L D : UInt8) (is2D : Bool) : (new ssrc L D is2D).mLoading = 0 := by
  change (updateProtectionParam L D is2D ⟨false, 0, 0, 0, 0, 0, 0, 0, [], []⟩).mLoading = 0
  rw [updateProtectionParam]
  dsimp only
  split_ifs <;> rfl

lemma accepted_new (ssrc : UInt32) {L D : UInt8} {is2D : Bool} (hL : 0 < L) (h : ReadsColumns L D is2D) :
    Accepted (new ssrc L D is2D) ssrc := by
  let encoder := updateProtectionParam L D is2D ⟨false, 0, 0, 0, 0, 0, 0, 0, [], []⟩
  have hencoder : encoder.mL = L ∧ encoder.mD = D ∧ encoder.mColumns = L.toNat ∧
      encoder.mRows = max 1 D.toNat ∧ (encoder.mColRepairNb ≠ 0 → 1 < D ∨ L = 1 ∧ D = 1) ∧
      encoder.mRowRepair = [] ∧ encoder.mColRepair = [] := by
    have hL0 : L ≠ 0 := (UInt8.ne_of_lt hL).symm
    simp only [encoder, updateProtectionParam, if_neg hL0]
    by_cases hD0 : D = 0
    · subst hD0
      simp
    · have hpos : 1 ≤ D.toNat := one_le_iff_ne_zero.mpr fun heq => hD0 (UInt8.toNat_inj.mp heq)
      simp only [if_neg hD0]
      split_ifs with h2D hdepth
      · refine ⟨rfl, rfl, rfl, (max_eq_right hpos).symm, fun _ => ?_, rfl, rfl⟩
        rcases Nat.lt_or_eq_of_le hpos with hdepth | hD1
        · exact .inl (lt_iff_toNat_lt.mpr hdepth)
        · have hD1 : D = 1 := UInt8.toNat_inj.mp hD1.symm
          have hle : L ≤ 1 := UInt8.not_lt.mp fun hlt => h ⟨h2D, hD1, hlt⟩
          exact .inr ⟨UInt8.le_antisymm hle hL, hD1⟩
      · exact ⟨rfl, rfl, rfl, (max_eq_right hpos).symm, fun _ => .inl hdepth, rfl, rfl⟩
      · refine ⟨rfl, rfl, rfl, ?_, fun hnb => absurd rfl hnb, rfl, rfl⟩
        exact (max_eq_left (le_iff_toNat_le.mp (UInt8.not_lt.mp hdepth))).symm
  obtain ⟨hmL, hmD, hcolumns, hrows, hdepth, hrow, hcol⟩ := hencoder
  refine ⟨?_, ?_, ?_, ?_, ?_, ?_, fun packet hpacket => ?_, fun packet hpacket => ?_⟩
  · exact (congrArg UInt8.toNat hmL).symm ▸ lt_iff_toNat_lt.mp hL
  · exact hcolumns.trans (congrArg UInt8.toNat hmL).symm
  · exact hrows.trans (congrArg (fun d => max 1 (UInt8.toNat d)) hmD).symm
  · intro hnb
    rcases hdepth hnb with hdepth | ⟨hL1, hD1⟩
    · exact .inl (hmD.symm ▸ hdepth)
    · exact .inr ⟨hmL.trans hL1, hmD.trans hD1⟩
  · refine (length_append ..).trans ?_
    rw [hrow, length_initRepairPackets, length_nil, Nat.zero_add]
    rfl
  · refine (length_append ..).trans ?_
    rw [length_initRepairPackets]
    refine (congrArg (· + _) (congrArg length hcol)).trans ?_
    exact Nat.zero_add _
  · rcases mem_append.mp hpacket with hpacket | hpacket
    · exact absurd (hrow ▸ hpacket) not_mem_nil
    · obtain ⟨hpL, hpD, hssrc⟩ := mem_initRepairPackets hpacket
      refine ⟨hpL, ?_, hssrc⟩
      rw [hpD]
      split_ifs <;> decide
  · rcases mem_append.mp hpacket with hpacket | hpacket
    · exact absurd (hcol ▸ hpacket) not_mem_nil
    · exact mem_initRepairPackets hpacket

end FecEncoder

namespace FecSender

variable {stream : SourceStream} {encoder : FecEncoder} {k last : ℕ} {packet : FecRepairPacket}

/-- A repair packet sent with a packet of a stream protects packets that are not later. -/
def IsRepair (stream : SourceStream) (last : ℕ) (packet : FecRepairPacket) : Prop :=
  ∃ first positions, packet.mSeqnumBase = stream.seqnum first ∧ first ≤ last ∧ last < first + 65536 ∧
    (∀ k ∈ positions, first ≤ k ∧ k ≤ last) ∧ packet.Protects stream positions

lemma IsRepair.send (h : IsRepair stream last packet) (timestamp : UInt32) (seqnum : UInt16) :
    IsRepair stream last { packet with timestamp := timestamp, seqnum := seqnum } := by
  obtain ⟨first, positions, hbase, hfirst, hlast, hpositions, hprotects⟩ := h
  exact ⟨first, positions, hbase, hfirst, hlast, hpositions, hprotects.nodup, hprotects.ssrc, hprotects.list_eq,
    hprotects.parity.bitstring, hprotects.parity.payload⟩

/-- Before a packet of the stream: no block is begun, or the encoder is in one. -/
def Ready (stream : SourceStream) (k : ℕ) (encoder : FecEncoder) : Prop :=
  encoder.Accepted stream.ssrc ∧ (encoder.mLoading = 0 ∨ ∃ b l, k = b + l ∧ encoder.InBlock stream b l)

/-- The encoder that adds a packet. -/
def nextBlock (seqnum : UInt16) (encoder : FecEncoder) : FecEncoder :=
  if encoder.isFull || encoder.isEmpty then encoder.reset seqnum else encoder

lemma Ready.nextBlock (h : Ready stream k encoder) :
    (nextBlock (stream.seqnum k) encoder).Accepted stream.ssrc ∧ ∃ b l, k = b + l ∧
      (nextBlock (stream.seqnum k) encoder).InBlock stream b l ∧
      l < (nextBlock (stream.seqnum k) encoder).mRows * (nextBlock (stream.seqnum k) encoder).mColumns := by
  obtain ⟨ha, hblock⟩ := h
  rw [FecSender.nextBlock]
  split_ifs with hreset
  · have ha' := ha.reset (stream.seqnum k)
    refine ⟨ha', k, 0, rfl, ha.inBlock_reset stream k, Nat.mul_pos ?_ ?_⟩
    · rw [ha'.mRows_eq]
      exact lt_of_lt_of_le one_pos (le_max_left ..)
    · rw [ha'.mColumns_eq]
      exact ha'.mL_pos
  · rw [Bool.or_eq_true, not_or] at hreset
    obtain ⟨hfull, hempty⟩ := hreset
    have hne : encoder.mLoading ≠ 0 := fun hzero => hempty (decide_eq_true hzero)
    obtain ⟨b, l, rfl, hin⟩ := hblock.resolve_left hne
    refine ⟨ha, b, l, rfl, hin, lt_of_le_of_ne hin.le fun heq => hfull (decide_eq_true ⟨?_, hne⟩)⟩
    rw [hin.loading, heq]

lemma mEncoder_sendRepair (sender : FecSender) (timestamp : UInt32) (repair : Option FecRepairPacket) :
    (sender.sendRepair timestamp repair).1.mEncoder = sender.mEncoder := by
  cases repair <;> rfl

lemma isRepair_of_mem_sendRepair {sender : FecSender} {timestamp : UInt32} {repair : Option FecRepairPacket}
    (hrepair : ∀ packet, repair = some packet → IsRepair stream last packet)
    (h : packet ∈ (sender.sendRepair timestamp repair).2) : IsRepair stream last packet := by
  cases repair with
  | none => exact absurd h not_mem_nil
  | some repair =>
    obtain rfl := mem_singleton.mp h
    exact (hrepair repair rfl).send timestamp sender.seqNumber

lemma isRepair_row {b l : ℕ} (h : encoder.InBlock stream b (l + 1)) (ha : encoder.Accepted stream.ssrc)
    (hrow : (if encoder.isRowFull then encoder.getRowRepairMblk encoder.getCurrentRow else none) = some packet) :
    IsRepair stream (b + l) packet := by
  split_ifs at hrow with hfull
  have hlt : l < encoder.mRows * encoder.mColumns := h.le
  rw [FecEncoder.getRowRepairMblk, ha.getCurrentRow_eq h.loading hlt] at hrow
  have hcolumn : l % encoder.mColumns + 1 = encoder.mColumns := by
    rw [FecEncoder.isRowFull] at hfull
    split_ifs at hfull
    rw [← FecEncoder.getCurrentColumn_eq h.loading]
    exact of_decide_eq_true hfull
  obtain ⟨hbase, hprotects⟩ := h.protects_row ha hrow hcolumn
  have hl := div_add_mod' l encoder.mColumns
  have hL : encoder.mColumns < 256 := ha.mColumns_eq ▸ encoder.mL.toNat_lt
  refine ⟨_, _, hbase, by omega, by omega, fun k hk => ?_, hprotects⟩
  obtain ⟨c, hc, rfl⟩ := mem_map.mp hk
  rw [mem_range] at hc
  omega

lemma isRepair_col {b l : ℕ} (h : encoder.InBlock stream b (l + 1)) (ha : encoder.Accepted stream.ssrc)
    (hcol : (if encoder.isColFull then encoder.getColRepairMblk encoder.getCurrentColumn else none) =
      some packet) : IsRepair stream (b + l) packet := by
  split_ifs at hcol with hfull
  have hlt : l < encoder.mRows * encoder.mColumns := h.le
  rw [FecEncoder.getColRepairMblk, FecEncoder.getCurrentColumn_eq h.loading] at hcol
  have hrow : l / encoder.mColumns + 1 = encoder.mRows := by
    rw [FecEncoder.isColFull] at hfull
    split_ifs at hfull
    rw [← ha.getCurrentRow_eq h.loading hlt]
    exact of_decide_eq_true hfull
  obtain ⟨hbase, hprotects⟩ := h.protects_col ha hcol hrow
  have hl := div_add_mod' l encoder.mColumns
  have hL : encoder.mColumns < 256 := ha.mColumns_eq ▸ encoder.mL.toNat_lt
  have hR : encoder.mRows < 256 := by
    rw [ha.mRows_eq]
    exact max_lt (by decide) encoder.mD.toNat_lt
  have hbound : l / encoder.mColumns * encoder.mColumns ≤ 255 * 255 := Nat.mul_le_mul (by omega) (by omega)
  refine ⟨_, _, hbase, by omega, by omega, fun k hk => ?_, hprotects⟩
  obtain ⟨r, hr, rfl⟩ := mem_map.mp hk
  rw [mem_range] at hr
  have hle : r * encoder.mColumns ≤ l / encoder.mColumns * encoder.mColumns :=
    Nat.mul_le_mul_right _ (by omega)
  omega

lemma Ready.onNewSourcePacketSent {sender : FecSender} (h : Ready stream k sender.mEncoder) :
    Ready stream (k + 1) (sender.onNewSourcePacketSent (stream.packet k)).1.mEncoder ∧
      ∀ packet ∈ (sender.onNewSourcePacketSent (stream.packet k)).2, IsRepair stream k packet := by
  obtain ⟨ha, b, l, rfl, hblock, hl⟩ := h.nextBlock
  have ha' := ha.add (stream.source (b + l))
  have hblock' := hblock.add ha hl
  have hseqnum : rtpGetSeqnumber (stream.packet (b + l)) = stream.seqnum (b + l) := stream.seqnum_eq _
  rw [FecSender.onNewSourcePacketSent, if_neg (not_not.mpr (stream.version _)), hseqnum]
  constructor
  · refine ⟨?_, .inr ⟨b, l + 1, Nat.add_assoc .., ?_⟩⟩
    · dsimp only
      rw [mEncoder_sendRepair, mEncoder_sendRepair]
      exact ha'
    · dsimp only
      rw [mEncoder_sendRepair, mEncoder_sendRepair]
      exact hblock'
  · intro packet hpacket
    rcases mem_append.mp hpacket with hpacket | hpacket
    · exact isRepair_of_mem_sendRepair (fun _ hrow => isRepair_row hblock' ha' hrow) hpacket
    · exact isRepair_of_mem_sendRepair (fun _ hcol => isRepair_col hblock' ha' hcol) hpacket

end FecSender

namespace SourceStream

lemma ready_sender (stream : SourceStream) {encoder : FecEncoder} (ha : encoder.Accepted stream.ssrc)
    (hloading : encoder.mLoading = 0) (seqNumber : UInt16) (k : ℕ) :
    FecSender.Ready stream k (stream.sender encoder seqNumber k).mEncoder := by
  induction k with
  | zero => exact ⟨ha, .inl hloading⟩
  | succ k ih => exact ih.onNewSourcePacketSent.1

lemma isRepair_of_mem_sentWith (stream : SourceStream) {L D : UInt8} {is2D : Bool} (hL : 0 < L)
    (h : FecEncoder.ReadsColumns L D is2D) {seqNumber : UInt16} {k : ℕ} {packet : FecRepairPacket}
    (hpacket : packet ∈ stream.sentWith (.new stream.ssrc L D is2D) seqNumber k) :
    FecSender.IsRepair stream k packet := by
  have ha := FecEncoder.accepted_new stream.ssrc hL h
  exact (stream.ready_sender ha (FecEncoder.mLoading_new _ L D is2D) seqNumber k).onNewSourcePacketSent.2 packet hpacket

end SourceStream

end Ortp
