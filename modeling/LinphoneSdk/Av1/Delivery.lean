import LinphoneSdk.Av1.Obu

/-!
# Delivery of AV1 temporal units

The fragments of a temporal unit come out of the unpacker as the unit that was cut, but for the temporal delimiters.
-/

namespace Av1

open Flags Ms2 Rounding List Option Nat

/-! ### Temporal units -/

structure Obu where
  type : UInt8
  bytes : Bytes

/-- The parser finds the OBUs one after the other. -/
def Parses : List Obu → Prop
  | [] => True
  | obu :: obus =>
    parseNextObu (obu.bytes ++ (obus.map Obu.bytes).flatten) = .ok (obu.type, obu.bytes.length) ∧ Parses obus

/-- A message that is a sequence of OBUs, with its timestamp. -/
structure TemporalUnit where
  m : Mblk
  ts : UInt32
  obus : List Obu
  bytes_eq : m.bytes = (obus.map Obu.bytes).flatten
  parses : Parses obus

def kept (obus : List Obu) : List Bytes :=
  (obus.filter fun obu => obu.type ≠ OBP_OBU_TEMPORAL_DELIMITER).map Obu.bytes

/-- What the receiver is to get. -/
def TemporalUnit.content (u : TemporalUnit) : Bytes := (kept u.obus).flatten

/-- The payloads of `n` packets of at most `p` bytes tile a bitstream: all are full but the last one, which is not
empty. -/
structure Tiles (bitstreamSize maxPayloadSize p : ℕ) (n : ℤ) : Prop where
  pos : 0 < n
  le : p ≤ maxPayloadSize
  lt_size : (n - 1) * (p - 1) < bitstreamSize
  size_le : bitstreamSize ≤ n * (p - 1)

/-- The number of packets and their size are `int`s, computed without loss. -/
def Countable (maxPayloadSize : ℕ) (equalSizeEnabled : Bool) (bitstreamSize : ℕ) : Prop :=
  bitstreamSize + 1 < maxPayloadSize ∨ bitstreamSize < 2 ^ 53 ∧ bitstreamSize ⌈/⌉ (maxPayloadSize - 1) < 2 ^ 31 ∧
      (equalSizeEnabled = true → bitstreamSize ⌈/⌉ (bitstreamSize ⌈/⌉ (maxPayloadSize - 1)) + 1 < 2 ^ 31)

/-- What comes out for each packet of a unit: its content at the marker, nothing elsewhere. -/
def expected (u : TemporalUnit) (ms : List Mblk) : List (Status × Option Bytes) :=
  ms.map fun m => if m.marker_info then (.frameAvailable, some u.content) else (.noFrame, none)

/-- The packets of a unit. -/
structure Packed (maxPayloadSize : ℕ) (u : TemporalUnit) (ms : List Mblk) : Prop where
  size : ∀ m ∈ ms, m.bytes.length ≤ maxPayloadSize
  payload : ∀ m ∈ ms, m.bytes.tail ≠ []
  marker : ∀ i m, ms[i]? = some m → m.marker_info = (i + 1 == ms.length)
  content : (ms.map fun m => m.bytes.tail).flatten = u.content

/-- The units are packed, and the unpacker gives them back. -/
def RoundTrips (packer : ObuPacker) (units : List TemporalUnit) : Prop :=
  ∃ mss packer', packMessages packer (units.map fun u => (u.m, u.ts)) = some (mss, packer') ∧
    Forall₂ (Packed packer.maxPayloadSize) units mss ∧
    ∀ unpacker : ObuUnpacker, unpacker.frame = none →
      (unpacker.initializedRefCSeq = true → unpacker.refCSeq + 1 = packer.seq) →
      (unpackAll unpacker mss.flatten).map (fun r => (r.1, r.2.map Mblk.bytes)) = (zipWith expected units mss).flatten

/-! ### Payload sizes -/

section payloadSizes

variable {maxPayloadSize bitstreamSize : ℕ} {equalSizeEnabled : Bool}

lemma toInt_natCast {n : ℕ} (h : n < 2 ^ 31) : toInt n = some (n : ℤ) := by
  rw [toInt, if_pos]
  omega

/-- The packets of a size that is rounded up are needed. -/
lemma pred_ceilDiv_mul_lt {a b : ℕ} (ha : 0 < a) (hb : 0 < b) : (a ⌈/⌉ b - 1) * b < a := by
  by_contra hle
  have hpred : a ⌈/⌉ b ≤ a ⌈/⌉ b - 1 := by
    rw [ceilDiv_le_iff_le_mul hb, mul_comm]
    exact not_lt.mp hle
  have hzero : a ≤ b * 0 := (ceilDiv_le_iff_le_mul hb).mp (by omega)
  omega

lemma le_ceilDiv_mul {a b : ℕ} (hb : 0 < b) : a ≤ (a ⌈/⌉ b) * b := by
  rw [mul_comm]
  exact (ceilDiv_le_iff_le_mul hb).mp le_rfl

lemma ceilDiv_pos {a b : ℕ} (ha : 0 < a) (hb : 0 < b) : 0 < a ⌈/⌉ b := by
  by_contra hzero
  have hle := le_ceilDiv_mul (a := a) hb
  rw [Nat.eq_zero_of_not_pos hzero, zero_mul] at hle
  omega

lemma ceilDiv_le_self {a b : ℕ} (hb : 0 < b) : a ⌈/⌉ b ≤ a := by
  rw [ceilDiv_le_iff_le_mul hb]
  exact Nat.le_mul_of_pos_left a hb

/-- Of `⌈a / b⌉` equal parts none is for nothing. -/
lemma pred_mul_ceilDiv_ceilDiv_lt {a b : ℕ} (ha : 0 < a) (hb : 0 < b) : (a ⌈/⌉ b - 1) * (a ⌈/⌉ (a ⌈/⌉ b)) < a := by
  have hn := ceilDiv_pos ha hb
  have hpart : a ⌈/⌉ (a ⌈/⌉ b) ≤ b := by
    rw [ceilDiv_le_iff_le_mul hn]
    exact le_ceilDiv_mul hb
  calc (a ⌈/⌉ b - 1) * (a ⌈/⌉ (a ⌈/⌉ b)) ≤ (a ⌈/⌉ b - 1) * b := Nat.mul_le_mul_left _ hpart
    _ < a := pred_ceilDiv_mul_lt ha hb

lemma Tiles.of_natCast {n p : ℕ} (hn : 0 < n) (hle : p + 1 ≤ maxPayloadSize) (hlt : (n - 1) * p < bitstreamSize)
    (hsize : bitstreamSize ≤ n * p) : Tiles bitstreamSize maxPayloadSize (p + 1) n := by
  obtain ⟨k, rfl⟩ := Nat.exists_eq_add_of_lt hn
  refine ⟨by omega, hle, ?_, ?_⟩
  · have hcast : ((0 + k + 1 : ℕ) : ℤ) - 1 = (k : ℕ) := by omega
    rw [hcast, cast_succ, add_sub_cancel_right]
    have hlt' : k * p < bitstreamSize := by simpa using hlt
    exact_mod_cast hlt'
  · have hcast : ((p + 1 : ℕ) : ℤ) - 1 = p := by omega
    rw [hcast]
    exact_mod_cast hsize

/-- The sizes computed for a bitstream that fits no packet. -/
lemma msVideoPayloadSizes_eq (hmax : 1 < maxPayloadSize) (hone : ¬ bitstreamSize + 1 < maxPayloadSize)
    (hsize : bitstreamSize < 2 ^ 53) (hn : bitstreamSize ⌈/⌉ (maxPayloadSize - 1) < 2 ^ 31) :
    msVideoPayloadSizes bitstreamSize maxPayloadSize false =
      some (maxPayloadSize, ((bitstreamSize ⌈/⌉ (maxPayloadSize - 1) : ℕ) : ℤ)) := by
  rw [msVideoPayloadSizes, if_neg hone, if_neg (by omega), divCeil_eq hsize (by omega) (by omega), toInt_natCast hn]
  rfl

lemma msVideoPayloadSizes_equal_eq (hmax : 1 < maxPayloadSize) (hone : ¬ bitstreamSize + 1 < maxPayloadSize)
    (hpos : 0 < bitstreamSize) (hsize : bitstreamSize < 2 ^ 53)
    (hn : bitstreamSize ⌈/⌉ (maxPayloadSize - 1) < 2 ^ 31)
    (hp : bitstreamSize ⌈/⌉ (bitstreamSize ⌈/⌉ (maxPayloadSize - 1)) + 1 < 2 ^ 31) :
    msVideoPayloadSizes bitstreamSize maxPayloadSize true =
      some (bitstreamSize ⌈/⌉ (bitstreamSize ⌈/⌉ (maxPayloadSize - 1)) + 1,
        ((bitstreamSize ⌈/⌉ (maxPayloadSize - 1) : ℕ) : ℤ)) := by
  have hb : 0 < maxPayloadSize - 1 := by omega
  rw [msVideoPayloadSizes, if_neg hone, if_neg (by omega), divCeil_eq hsize hb (by omega), toInt_natCast hn]
  have hnpos : 0 < bitstreamSize ⌈/⌉ (maxPayloadSize - 1) := ceilDiv_pos hpos hb
  have hnle : bitstreamSize ⌈/⌉ (maxPayloadSize - 1) ≤ bitstreamSize := ceilDiv_le_self hb
  generalize bitstreamSize ⌈/⌉ (maxPayloadSize - 1) = n at *
  have hquotient : toInt (divCeil bitstreamSize n) = some ((bitstreamSize ⌈/⌉ n : ℕ) : ℤ) := by
    rw [divCeil_eq hsize hnpos (by omega)]
    exact toInt_natCast (by omega)
  have hsucc : toInt ((bitstreamSize ⌈/⌉ n : ℕ) + 1) = some ((bitstreamSize ⌈/⌉ n + 1 : ℕ) : ℤ) := by
    rw [← cast_add_one]
    exact toInt_natCast hp
  rw [bind_eq_bind, bind_some, if_pos rfl, Int.toNat_natCast, hquotient, bind_some, hsucc]
  rfl

/-- The sizes computed for a bitstream tile it. -/
lemma exists_tiles (hmax : 1 < maxPayloadSize) (hpos : 0 < bitstreamSize)
    (hcount : Countable maxPayloadSize equalSizeEnabled bitstreamSize) :
    ∃ p n, msVideoPayloadSizes bitstreamSize maxPayloadSize equalSizeEnabled = some (p, n) ∧
      Tiles bitstreamSize maxPayloadSize p n := by
  by_cases hone : bitstreamSize + 1 < maxPayloadSize
  · refine ⟨bitstreamSize + 1, 1, ?_, Tiles.of_natCast one_pos hone.le (by simpa using hpos) (by simp)⟩
    rw [msVideoPayloadSizes, if_pos hone]
  rcases hcount with hlt | ⟨hsize, hn, hp⟩
  · exact absurd hlt hone
  have hb : 0 < maxPayloadSize - 1 := by omega
  have hnpos := ceilDiv_pos hpos hb
  have htile := le_ceilDiv_mul (a := bitstreamSize) hb
  cases equalSizeEnabled with
  | false =>
    refine ⟨_, _, msVideoPayloadSizes_eq hmax hone hsize hn, ?_⟩
    obtain ⟨p, rfl⟩ : ∃ p, maxPayloadSize = p + 1 := ⟨maxPayloadSize - 1, by omega⟩
    exact Tiles.of_natCast hnpos le_rfl (pred_ceilDiv_mul_lt hpos hb) htile
  | true =>
    refine ⟨_, _, msVideoPayloadSizes_equal_eq hmax hone hpos hsize hn (hp rfl), ?_⟩
    have hpart := (ceilDiv_le_iff_le_mul hnpos).mpr htile
    refine Tiles.of_natCast hnpos (by omega) (pred_mul_ceilDiv_ceilDiv_lt hpos hb) ?_
    rw [mul_comm]
    exact le_ceilDiv_mul hnpos

end payloadSizes

/-! ### Fragments -/

/-- Packets that carry a payload from the number `seq` on, the first with the bit `N` if `first` and the last with the
marker if `marker`. -/
inductive Fragments (maxPayloadSize : ℕ) (marker : Bool) : Bool → UInt16 → Bytes → List Mblk → Prop
  | last {first : Bool} {seq : UInt16} {m : Mblk} (hsize : m.bytes.length ≤ maxPayloadSize)
      (hpayload : m.bytes.tail ≠ []) (hcseq : m.cseq = seq) (hfirst : isFirst m = first)
      (hmarker : m.marker_info = marker) : Fragments maxPayloadSize marker first seq m.bytes.tail [m]
  | cons {first : Bool} {seq : UInt16} {m : Mblk} {payload : Bytes} {ms : List Mblk}
      (hsize : m.bytes.length ≤ maxPayloadSize) (hpayload : m.bytes.tail ≠ []) (hcseq : m.cseq = seq)
      (hfirst : isFirst m = first) (hmarker : m.marker_info = false)
      (hms : Fragments maxPayloadSize marker false (seq + 1) payload ms) :
      Fragments maxPayloadSize marker first seq (m.bytes.tail ++ payload) (m :: ms)

section fragments

variable {maxPayloadSize : ℕ} {marker first : Bool} {seq : UInt16} {payload : Bytes} {ms : List Mblk}

lemma isFirst_makePacket (buf : Bytes) (Z Y N marker : Bool) (ts : UInt32) (source : Mblk) (seq : UInt16) :
    isFirst (makePacket buf Z Y N marker ts source seq) = N := by
  have h7 : flag (bit Z 7) 3 = false := flag_bit_of_ne (by decide) Z
  have h6 : flag (bit Y 6) 3 = false := flag_bit_of_ne (by decide) Y
  have h4 : flag (bit true 4) 3 = false := by decide
  have h3 : flag (bit N 3) 3 = N := flag_bit_self (by decide) N
  simp [isFirst, makePacket, aggregationHeader, h7, h6, h4, h3]

lemma UInt16.ofNat_succ_add (seq : UInt16) (n : ℕ) : seq + .ofNat (n + 1) = seq + 1 + .ofNat n := by
  rw [UInt16.ofNat_add, UInt16.add_comm (.ofNat n), ← UInt16.add_assoc]
  rfl

/-- The fragments of one OBU are followed by those of the next one. -/
lemma Fragments.append {payload' : Bytes} {ms' : List Mblk} (h : Fragments maxPayloadSize false first seq payload ms)
    (h' : Fragments maxPayloadSize marker false (seq + .ofNat ms.length) payload' ms') :
    Fragments maxPayloadSize marker first seq (payload ++ payload') (ms ++ ms') := by
  induction h with
  | last hsize hpayload hcseq hfirst hmarker => exact .cons hsize hpayload hcseq hfirst hmarker h'
  | cons hsize hpayload hcseq hfirst hmarker _ ih =>
    rw [length_cons, UInt16.ofNat_succ_add] at h'
    rw [append_assoc]
    exact .cons hsize hpayload hcseq hfirst hmarker (ih h')

section

variable (h : Fragments maxPayloadSize marker first seq payload ms)
include h

lemma Fragments.size : ∀ m ∈ ms, m.bytes.length ≤ maxPayloadSize ∧ m.bytes.tail ≠ [] := by
  induction h with
  | last hsize hpayload => simpa using ⟨hsize, hpayload⟩
  | cons hsize hpayload _ _ _ _ ih => exact forall_mem_cons.mpr ⟨⟨hsize, hpayload⟩, ih⟩

lemma Fragments.payload_ne_nil : payload ≠ [] := by
  cases h with
  | last _ hpayload => exact hpayload
  | cons _ hpayload => simp [hpayload]

lemma Fragments.flatten : (ms.map fun m => m.bytes.tail).flatten = payload := by
  induction h with
  | last => simp
  | cons _ _ _ _ _ _ ih => rw [map_cons, flatten_cons, ih]

end

lemma Fragments.marker_info (h : Fragments maxPayloadSize true first seq payload ms) :
    ∀ i m, ms[i]? = some m → m.marker_info = (i + 1 == ms.length) := by
  induction h with
  | last _ _ _ _ hmarker =>
    rintro (_ | i) m hm
    · cases hm
      simpa using hmarker
    · simp at hm
  | cons _ _ _ _ hmarker hms ih =>
    rintro (_ | i) m hm
    · cases hm
      cases hms <;> simpa using hmarker
    · simpa using ih i m (by simpa using hm)

/-- An OBU is cut into fragments by sizes that tile it. -/
lemma fragments_makeFragments {p n : ℕ} {N : Bool} {ts : UInt32} {source : Mblk} {remaining : Bytes}
    (hp : p + 1 ≤ maxPayloadSize) (hlt : n * p < remaining.length) (hle : remaining.length ≤ (n + 1) * p) :
    Fragments maxPayloadSize marker (first && N) seq remaining
      (makeFragments (p + 1) N marker ts source (n + 1) first remaining seq) := by
  induction n generalizing first seq remaining with
  | zero =>
    rw [zero_add, one_mul] at hle
    rw [zero_mul] at hlt
    rw [makeFragments, makeFragments]
    have hmin : min (remaining.length + 1) (p + 1) - 1 = remaining.length := by omega
    rw [hmin, take_length]
    refine .last ?_ ?_ rfl (isFirst_makePacket ..) ?_
    · simp only [makePacket, length_cons]
      omega
    · rw [makePacket, tail_cons, ← length_pos_iff]
      omega
    · simp [makePacket]
  | succ n ih =>
    rw [makeFragments]
    have hpn : p ≤ (n + 1) * p := Nat.le_mul_of_pos_left p n.succ_pos
    have hmin : min (remaining.length + 1) (p + 1) - 1 = p := by omega
    have hlength : (remaining.take p).length = p := by
      rw [length_take]
      omega
    have hrest : Fragments maxPayloadSize marker (false && N) (seq + 1) (remaining.drop p)
        (makeFragments (p + 1) N marker ts source (n + 1) false (remaining.drop p) (seq + 1)) := ih ?_ ?_
    · rw [hmin]
      conv => arg 5; rw [← take_append_drop p remaining]
      refine .cons ?_ ?_ rfl (isFirst_makePacket ..) ?_ hrest
      · simp only [makePacket, length_cons, hlength]
        exact hp
      · rw [makePacket, tail_cons, ← length_pos_iff, hlength]
        by_contra hzero
        rw [Nat.eq_zero_of_not_pos hzero, mul_zero] at hle
        omega
      · simp [makePacket]
    · rw [length_drop]
      rw [succ_mul] at hlt
      omega
    · rw [length_drop]
      rw [succ_mul] at hle
      omega

lemma sendObu_of_cut {packer : ObuPacker} {obu : Bytes} {N : Bool} {ts : UInt32} {source : Mblk} {p : ℕ} {n : ℤ}
    (hsizes : msVideoPayloadSizes obu.length packer.maxPayloadSize packer.equalSizeEnabled = some (p, n))
    (hone : ¬ obu.length + 1 < packer.maxPayloadSize) :
    sendObu packer obu N marker ts source = some (makeFragments p N marker ts source n.toNat true obu packer.seq) := by
  simp only [sendObu, hsizes, Option.bind_eq_bind, Option.bind_some, if_neg hone, Option.pure_def]

lemma fragments_sendObu {packer : ObuPacker} {obu : Bytes} {N : Bool} {ts : UInt32} {source : Mblk}
    (hmax : 1 < packer.maxPayloadSize) (hne : obu ≠ [])
    (hcount : Countable packer.maxPayloadSize packer.equalSizeEnabled obu.length) :
    ∃ ms, sendObu packer obu N marker ts source = some ms ∧
      Fragments packer.maxPayloadSize marker N packer.seq obu ms := by
  obtain ⟨p, n, hsizes, htiles⟩ := exists_tiles hmax (List.length_pos_iff.mpr hne) hcount
  by_cases hone : obu.length + 1 < packer.maxPayloadSize
  · refine ⟨[makePacket obu false false N marker ts source packer.seq], ?_, ?_⟩
    · simp only [sendObu, hsizes, Option.bind_eq_bind, Option.bind_some, if_pos hone, Option.pure_def]
    · exact Fragments.last (m := makePacket obu false false N marker ts source packer.seq) hone.le hne rfl
        (isFirst_makePacket ..) rfl
  · refine ⟨_, sendObu_of_cut hsizes hone, ?_⟩
    obtain ⟨n, rfl⟩ : ∃ k : ℕ, n = k + 1 := ⟨(n - 1).toNat, by have := htiles.pos; omega⟩
    have hlt := htiles.lt_size
    have hle := htiles.size_le
    rw [add_sub_cancel_right] at hlt
    obtain ⟨q, rfl⟩ : ∃ q, p = q + 1 := by
      refine exists_eq_succ_of_ne_zero fun hzero => ?_
      subst hzero
      have := List.length_pos_iff.mpr hne
      push_cast at hle
      linarith
    rw [cast_succ, add_sub_cancel_right] at hlt hle
    rw [← Bool.true_and N]
    exact fragments_makeFragments htiles.le (by exact_mod_cast hlt) (by exact_mod_cast hle)

lemma fragments_sendObus {packer : ObuPacker} {N : Bool} {ts : UInt32} {source : Mblk} {obus : List Bytes}
    (hmax : 1 < packer.maxPayloadSize)
    (hobus : ∀ obu ∈ obus, obu ≠ [] ∧ Countable packer.maxPayloadSize packer.equalSizeEnabled obu.length) :
    ∃ ms, sendObus packer N ts source obus = some (ms, { packer with seq := packer.seq + .ofNat ms.length }) ∧
      (obus = [] ∧ ms = [] ∨ Fragments packer.maxPayloadSize true N packer.seq obus.flatten ms) := by
  induction obus generalizing packer N with
  | nil => exact ⟨[], by simp [sendObus], .inl ⟨rfl, rfl⟩⟩
  | cons obu obus ih =>
    obtain ⟨⟨hne, hcount⟩, hobus⟩ := List.forall_mem_cons.mp hobus
    obtain ⟨ms, hms, hfragments⟩ : ∃ ms, sendObu packer obu N obus.isEmpty ts source = some ms ∧
        Fragments packer.maxPayloadSize obus.isEmpty N packer.seq obu ms := fragments_sendObu hmax hne hcount
    obtain ⟨rest, hrest, hcases⟩ : ∃ rest,
        sendObus { packer with seq := packer.seq + .ofNat ms.length } false ts source obus =
          some (rest, { packer with seq := packer.seq + .ofNat ms.length + .ofNat rest.length }) ∧
        (obus = [] ∧ rest = [] ∨
          Fragments packer.maxPayloadSize true false (packer.seq + .ofNat ms.length) obus.flatten rest) :=
      @ih { packer with seq := packer.seq + .ofNat ms.length } false hmax hobus
    refine ⟨ms ++ rest, ?_, .inr ?_⟩
    · simp only [sendObus, hms, hrest, Option.bind_eq_bind, Option.bind_some, Option.pure_def, List.length_append,
        UInt16.ofNat_add, UInt16.add_assoc]
    · rcases hcases with ⟨rfl, rfl⟩ | hcases
      · simpa using hfragments
      · cases obus with
        | nil => exact absurd rfl hcases.payload_ne_nil
        | cons => exact hfragments.append hcases

end fragments

/-! ### Packing units -/

lemma obpGetNextObu_pos {buf : Bytes} {type : UInt8} {offset size : ℕ}
    (h : obpGetNextObu buf = .ok (type, offset, size)) : 0 < offset := by
  simp only [obpGetNextObu] at h
  grind

lemma parseNextObu_pos {buf : Bytes} {type : UInt8} {size : ℕ} (h : parseNextObu buf = .ok (type, size)) :
    0 < size := by
  rw [parseNextObu] at h
  cases hnext : obpGetNextObu buf with
  | error e =>
    rw [hnext] at h
    cases h
  | ok next =>
    obtain ⟨type', offset, n⟩ := next
    rw [hnext] at h
    cases h
    exact Nat.add_pos_right n (obpGetNextObu_pos hnext)

lemma kept_cons (obu : Obu) (obus : List Obu) :
    kept (obu :: obus) = if obu.type = OBP_OBU_TEMPORAL_DELIMITER then kept obus else obu.bytes :: kept obus := by
  simp only [kept, filter_cons, ne_eq, decide_not, Bool.not_eq_true', decide_eq_false_iff_not]
  split_ifs <;> simp

/-- The parser finds the OBUs that are to be sent. -/
lemma parseObus_eq {obus : List Obu} (h : Parses obus) {fuel : ℕ}
    (hfuel : ((obus.map Obu.bytes).flatten).length ≤ fuel) :
    parseObus fuel (obus.map Obu.bytes).flatten = .ok (kept obus) := by
  induction obus generalizing fuel with
  | nil => cases fuel <;> rfl
  | cons obu obus ih =>
    obtain ⟨hparse, h⟩ := h
    have hpos := parseNextObu_pos hparse
    rw [map_cons, flatten_cons] at hfuel ⊢
    obtain ⟨b, bytes, hbytes⟩ := exists_cons_of_length_pos hpos
    rw [length_append] at hfuel
    obtain ⟨fuel, rfl⟩ : ∃ k, fuel = k + 1 := ⟨fuel - 1, by omega⟩
    have hrest : parseObus fuel (obus.map Obu.bytes).flatten = .ok (kept obus) := ih h (by omega)
    have hstep : parseObus (fuel + 1) (obu.bytes ++ (obus.map Obu.bytes).flatten) =
        .ok (if obu.type = OBP_OBU_TEMPORAL_DELIMITER then kept obus else obu.bytes :: kept obus) := by
      have hfits : ¬ (bytes ++ (obus.map Obu.bytes).flatten).length + 1 < obu.bytes.length := by
        rw [hbytes, length_append, length_cons]
        omega
      rw [hbytes, cons_append, parseObus, ← cons_append, ← hbytes, hparse]
      simp only [bind, Except.bind, drop_left, take_left, hrest, hfits, if_false]
      split_ifs <;> rfl
    rw [hstep, kept_cons]

lemma kept_ne_nil {obus : List Obu} (h : Parses obus) : ∀ bytes ∈ kept obus, bytes ≠ [] := by
  induction obus with
  | nil => simp [kept]
  | cons obu obus ih =>
    obtain ⟨hparse, h⟩ := h
    rw [kept_cons]
    split_ifs
    · exact ih h
    · exact forall_mem_cons.mpr ⟨length_pos_iff.mp (parseNextObu_pos hparse), ih h⟩

section units

variable {packer : ObuPacker} {u : TemporalUnit} {ms : List Mblk}

/-- The packets of a unit: none when all its OBUs are dropped. -/
lemma fragments_packMessage (hmax : 1 < packer.maxPayloadSize)
    (hcount : ∀ obu ∈ kept u.obus, Countable packer.maxPayloadSize packer.equalSizeEnabled obu.length) :
    ∃ ms, packMessage packer u.m u.ts = some (ms, { packer with seq := packer.seq + .ofNat ms.length }) ∧
      (u.content = [] ∧ ms = [] ∨ Fragments packer.maxPayloadSize true true packer.seq u.content ms) := by
  obtain ⟨ms, hms, hcases⟩ : ∃ ms,
      sendObus packer true u.ts u.m (kept u.obus) = some (ms, { packer with seq := packer.seq + .ofNat ms.length }) ∧
      (kept u.obus = [] ∧ ms = [] ∨ Fragments packer.maxPayloadSize true true packer.seq u.content ms) :=
    fragments_sendObus hmax fun obu hobu => ⟨kept_ne_nil u.parses obu hobu, hcount obu hobu⟩
  refine ⟨ms, ?_, hcases.imp_left ?_⟩
  · rw [packMessage, u.bytes_eq, parseObus_eq u.parses le_rfl]
    exact hms
  · rintro ⟨hkept, rfl⟩
    rw [TemporalUnit.content, hkept]
    exact ⟨rfl, rfl⟩

lemma packed_of_fragments {maxPayloadSize : ℕ} {seq : UInt16}
    (h : u.content = [] ∧ ms = [] ∨ Fragments maxPayloadSize true true seq u.content ms) :
    Packed maxPayloadSize u ms := by
  rcases h with ⟨hcontent, rfl⟩ | h
  · exact ⟨by simp, by simp, by simp, by simp [hcontent]⟩
  · exact ⟨fun m hm => (h.size m hm).1, fun m hm => (h.size m hm).2, h.marker_info, h.flatten⟩

/-- The packets of units, one after the other. -/
inductive Sent (maxPayloadSize : ℕ) : UInt16 → List TemporalUnit → List (List Mblk) → Prop
  | nil {seq : UInt16} : Sent maxPayloadSize seq [] []
  | cons {seq : UInt16} {u : TemporalUnit} {units : List TemporalUnit} {ms : List Mblk} {mss : List (List Mblk)}
      (hu : u.content = [] ∧ ms = [] ∨ Fragments maxPayloadSize true true seq u.content ms)
      (hunits : Sent maxPayloadSize (seq + .ofNat ms.length) units mss) :
      Sent maxPayloadSize seq (u :: units) (ms :: mss)

lemma Sent.packed {maxPayloadSize : ℕ} {seq : UInt16} {units : List TemporalUnit} {mss : List (List Mblk)}
    (h : Sent maxPayloadSize seq units mss) : Forall₂ (Packed maxPayloadSize) units mss := by
  induction h with
  | nil => exact .nil
  | cons hu _ ih => exact .cons (packed_of_fragments hu) ih

lemma sent_packMessages {units : List TemporalUnit} (hmax : 1 < packer.maxPayloadSize)
    (hcount : ∀ u ∈ units, ∀ obu ∈ kept u.obus, Countable packer.maxPayloadSize packer.equalSizeEnabled obu.length) :
    ∃ mss packer', packMessages packer (units.map fun u => (u.m, u.ts)) = some (mss, packer') ∧
      Sent packer.maxPayloadSize packer.seq units mss := by
  induction units generalizing packer with
  | nil => exact ⟨[], packer, rfl, .nil⟩
  | cons u units ih =>
    obtain ⟨hu, hunits⟩ := List.forall_mem_cons.mp hcount
    obtain ⟨ms, hms, hfragments⟩ := fragments_packMessage hmax hu
    obtain ⟨mss, packer', hmss, hsent⟩ := @ih { packer with seq := packer.seq + .ofNat ms.length } hmax hunits
    refine ⟨ms :: mss, packer', ?_, .cons hfragments hsent⟩
    simp only [List.map_cons, packMessages, hms, hmss, Option.bind_eq_bind, Option.bind_some, Option.pure_def]

end units

/-! ### Unpacking units -/

section unpack

variable {unpacker : ObuUnpacker} {maxPayloadSize : ℕ} {seq : UInt16} {payload : Bytes} {ms : List Mblk}

/-- The next packet is the one that the unpacker waits for. -/
def ObuUnpacker.Synced (unpacker : ObuUnpacker) (seq : UInt16) : Prop :=
  unpacker.initializedRefCSeq = true → unpacker.refCSeq + 1 = seq

/-- What comes out for a packet in sequence. -/
lemma unpack_eq {m : Mblk} (hsync : unpacker.Synced m.cseq) :
    unpack unpacker m = (if (feed unpacker.frame m).1.isSome then .frameAvailable else .noFrame,
      (feed unpacker.frame m).1,
      { frame := (feed unpacker.frame m).2, initializedRefCSeq := true, refCSeq := m.cseq }) := by
  have hinconsistent : (unpacker.initializedRefCSeq && unpacker.refCSeq + 1 != m.cseq) = false := by
    cases hinit : unpacker.initializedRefCSeq with
    | false => rfl
    | true => simpa using hsync hinit
  rw [unpack, hinconsistent]
  simp

/-- A packet goes on with the frame that is aggregated, or starts another. -/
lemma exists_feed_eq {frame : Option Mblk} {m : Mblk} {acc : Bytes} (hfirst : isFirst m = true → acc = [])
    (hframe : isFirst m = false → frame.map Mblk.bytes = some acc) :
    ∃ f : Mblk, f.bytes = acc ++ m.bytes.tail ∧ feed frame m = completeAggregation m.marker_info f := by
  cases hm : isFirst m with
  | true =>
    refine ⟨{ m with bytes := m.bytes.tail }, by simp [hfirst hm], ?_⟩
    cases frame <;> simp [feed, hm]
  | false =>
    obtain ⟨f, rfl, rfl⟩ := map_eq_some_iff.mp (hframe hm)
    exact ⟨{ f with bytes := f.bytes ++ m.bytes.tail }, rfl, by simp [feed, hm]⟩

/-- What comes out, but for the fields of the frames. -/
def outputs (unpacker : ObuUnpacker) (ims : List Mblk) : List (Status × Option Bytes) :=
  (unpackAll unpacker ims).map fun r => (r.1, r.2.map Mblk.bytes)

/-- The fragments of a payload are put behind what is aggregated, and come out at the marker. -/
lemma outputs_append (rest : List Mblk) {first : Bool} {acc : Bytes}
    (h : Fragments maxPayloadSize true first seq payload ms)
    (hsync : unpacker.Synced seq) (hfirst : first = true → acc = [])
    (hframe : first = false → unpacker.frame.map Mblk.bytes = some acc) :
    ∃ unpacker' : ObuUnpacker, unpacker'.frame = none ∧ unpacker'.Synced (seq + .ofNat ms.length) ∧
      outputs unpacker (ms ++ rest) =
        (ms.map fun m => if m.marker_info then (.frameAvailable, some (acc ++ payload)) else (.noFrame, none)) ++
          outputs unpacker' rest := by
  induction h generalizing unpacker acc with
  | @last _ _ m _ _ hcseq hm hmarker =>
    subst hcseq hm
    obtain ⟨f, hbytes, hfeed⟩ := exists_feed_eq hfirst hframe
    rw [hmarker] at hfeed
    refine ⟨{ frame := none, initializedRefCSeq := true, refCSeq := m.cseq }, rfl, fun _ => rfl, ?_⟩
    simp [outputs, unpackAll, unpack_eq hsync, hfeed, completeAggregation, hmarker, hbytes]
  | @cons _ _ m _ _ _ _ hcseq hm hmarker _ ih =>
    subst hcseq hm
    obtain ⟨f, hbytes, hfeed⟩ := exists_feed_eq hfirst hframe
    rw [hmarker] at hfeed
    obtain ⟨unpacker', hnone, hsync', hout⟩ := @ih
      { frame := some f, initializedRefCSeq := true, refCSeq := m.cseq } (acc ++ m.bytes.tail) (fun _ => rfl) nofun
      (fun _ => by rw [map_some, hbytes])
    refine ⟨unpacker', hnone, ?_, ?_⟩
    · rwa [length_cons, UInt16.ofNat_succ_add]
    · have hstep (ims : List Mblk) : outputs unpacker (m :: ims) = (.noFrame, none) :: outputs
          { frame := some f, initializedRefCSeq := true, refCSeq := m.cseq } ims := by
        simp [outputs, unpackAll, unpack_eq hsync, hfeed, completeAggregation]
      rw [cons_append, hstep, hout, map_cons, hmarker, append_assoc]
      rfl

end unpack

/-! ### Round trips -/

lemma outputs_flatten {maxPayloadSize : ℕ} {units : List TemporalUnit} {mss : List (List Mblk)}
    {unpacker : ObuUnpacker} {seq : UInt16} (hnone : unpacker.frame = none) (hsync : unpacker.Synced seq)
    (h : Sent maxPayloadSize seq units mss) :
    outputs unpacker mss.flatten = (zipWith expected units mss).flatten := by
  induction h generalizing unpacker with
  | nil => rfl
  | @cons seq u units ms mss hcases _ ih =>
    rw [zipWith_cons_cons, flatten_cons, flatten_cons]
    rcases hcases with ⟨_, rfl⟩ | hfragments
    · exact ih hnone (by simpa using hsync)
    · obtain ⟨unpacker', hnone', hsync', hout⟩ :=
        outputs_append mss.flatten hfragments hsync (fun _ => rfl) nofun
      rw [hout, ih hnone' hsync']
      rfl

lemma parseNextObu_frame (bytes : Bytes) : parseNextObu (0x30 :: bytes) = .ok (6, bytes.length + 1) := by
  have hsize : flag 0x30 1 = false := by decide
  have hextension : flag 0x30 2 = false := by decide
  have hvalid : isValidObu 6 = true := by decide
  have htype : ((0x30 : UInt8) &&& 0x78) >>> 3 = 6 := by decide
  simp [parseNextObu, obpGetNextObu, hsize, hextension, hvalid, htype, Except.map]

def frameUnit (n : ℕ) : TemporalUnit where
  m := { bytes := 0x30 :: replicate n 0 }
  ts := 0
  obus := [{ type := 6, bytes := 0x30 :: replicate n 0 }]
  bytes_eq := by simp
  parses := by
    refine ⟨?_, trivial⟩
    simpa using parseNextObu_frame (replicate n 0)

lemma kept_frameUnit (n : ℕ) : kept (frameUnit n).obus = [0x30 :: replicate n 0] := by
  simp [frameUnit, kept, OBP_OBU_TEMPORAL_DELIMITER]

/-- Units of OBUs whose numbers of packets are `int`s come out of the unpacker as they went into the packer. -/
theorem roundTrips {packer : ObuPacker} {units : List TemporalUnit} (hmax : 1 < packer.maxPayloadSize)
    (hcount : ∀ u ∈ units, ∀ obu ∈ kept u.obus, Countable packer.maxPayloadSize packer.equalSizeEnabled obu.length) :
    RoundTrips packer units ∧ ∀ u ∈ units, ∀ obu ∈ kept u.obus, ∃ p n,
        msVideoPayloadSizes obu.length packer.maxPayloadSize packer.equalSizeEnabled = some (p, n) ∧
          Tiles obu.length packer.maxPayloadSize p n := by
  constructor
  · obtain ⟨mss, packer', hpack, hsent⟩ := sent_packMessages hmax hcount
    refine ⟨mss, packer', hpack, hsent.packed, fun unpacker hnone hsync => ?_⟩
    exact outputs_flatten hnone hsync hsent
  · intro u hu obu hobu
    exact exists_tiles hmax (length_pos_iff.mpr (kept_ne_nil u.parses obu hobu)) (hcount u hu obu hobu)

/-- A temporal delimiter and two OBUs, the first with its size. -/
def twoObus : TemporalUnit where
  m := { bytes := [0x12, 0, 0x32, 1, 7, 0x30, 8, 9, 10] }
  ts := 90000
  obus := [⟨2, [0x12, 0]⟩, ⟨6, [0x32, 1, 7]⟩, ⟨6, [0x30, 8, 9, 10]⟩]
  bytes_eq := rfl
  parses := ⟨rfl, rfl, rfl, trivial⟩

theorem roundTrips_sample : RoundTrips { maxPayloadSize := 3 } [frameUnit 4, twoObus] ∧
      ∀ u ∈ [frameUnit 4, twoObus], ∀ obu ∈ kept u.obus, ∃ p n,
        msVideoPayloadSizes obu.length 3 false = some (p, n) ∧ Tiles obu.length 3 p n := by
  refine roundTrips (by norm_num) fun u hu obu hobu => ?_
  have hlength : obu.length = 3 ∨ obu.length = 4 ∨ obu.length = 5 := by
    obtain rfl | rfl : u = frameUnit 4 ∨ u = twoObus := by simpa using hu
    · rw [kept_frameUnit, mem_singleton] at hobu
      exact .inr (.inr (hobu ▸ rfl))
    · have hkept : kept twoObus.obus = [[0x32, 1, 7], [0x30, 8, 9, 10]] := by decide
      obtain rfl | rfl : obu = [0x32, 1, 7] ∨ obu = [0x30, 8, 9, 10] := by simpa [hkept] using hobu
      · exact .inl rfl
      · exact .inr (.inl rfl)
  refine .inr ⟨by omega, ?_, nofun⟩
  change obu.length ⌈/⌉ 2 < 2 ^ 31
  rw [ceilDiv_eq_add_pred_div]
  omega

/-! ### Sizes that are not counted -/

lemma sendObu_of_roundTrips {packer : ObuPacker} {n : ℕ} (h : RoundTrips packer [frameUnit n]) :
    ∃ ms, sendObu packer (0x30 :: List.replicate n 0) true true 0 (frameUnit n).m = some ms ∧
      (ms.map fun m => m.bytes.tail).flatten.length = n + 1 := by
  obtain ⟨mss, packer', hpack, hpacked, _⟩ := h
  have hparse := parseObus_eq (frameUnit n).parses le_rfl
  rw [← (frameUnit n).bytes_eq, kept_frameUnit] at hparse
  simp only [List.map_cons, List.map_nil, packMessages, packMessage, hparse, sendObus, List.isEmpty_nil,
    Option.bind_eq_bind, Option.bind_eq_some_iff, Option.bind_some, Option.pure_def, List.append_nil] at hpack
  obtain ⟨_, ⟨ms, hms, hsome⟩, heq⟩ := hpack
  cases hsome
  cases heq
  rw [List.forall₂_cons] at hpacked
  refine ⟨ms, hms, ?_⟩
  rw [hpacked.1.content, TemporalUnit.content, kept_frameUnit]
  simp

/-- The number of the packets of a frame of `2 ^ 31` bytes is no `int`. -/
lemma msVideoPayloadSizes_of_many {equalSizeEnabled : Bool} : msVideoPayloadSizes (2 ^ 31) 2 equalSizeEnabled = none := by
  have hdiv : divCeil (2 ^ 31) (2 - 1) = (2 ^ 31 : ℕ) := by
    rw [divCeil_eq (by norm_num) (by norm_num) (by norm_num)]
    simp
  rw [msVideoPayloadSizes, if_neg (by norm_num), if_neg (by norm_num), hdiv, toInt, if_neg (by norm_num)]
  rfl

/-- The size of the packet of a frame of `2 ^ 31` bytes is no `int`. -/
lemma msVideoPayloadSizes_of_long : msVideoPayloadSizes (2 ^ 31) (2 ^ 31 + 1) true = none := by
  have hdiv : divCeil (2 ^ 31) (2 ^ 31 + 1 - 1) = (1 : ℕ) := by
    rw [divCeil_eq (by norm_num) (by norm_num) (by norm_num), ceilDiv_eq_add_pred_div]
    norm_num
  have hquotient : divCeil (2 ^ 31) ((1 : ℕ) : ℤ).toNat = (2 ^ 31 : ℕ) := by
    rw [Int.toNat_natCast, divCeil_eq (by norm_num) (by norm_num) (by norm_num)]
    simp
  have hone : toInt (1 : ℕ) = some ((1 : ℕ) : ℤ) := toInt_natCast (by norm_num)
  have htoInt : toInt (2 ^ 31 : ℕ) = none := by
    rw [toInt, if_neg (by norm_num)]
  rw [msVideoPayloadSizes, if_neg (by norm_num), if_neg (by norm_num), hdiv, hone, bind_eq_bind, bind_some,
    if_pos rfl, hquotient, htoInt]
  rfl

lemma ulp_of_beyond {n : ℕ} (hle : 2 ^ 53 ≤ n) (hlt : n < 2 ^ 54) : ulp (n : ℚ) = 2 := by
  have hlog : Int.log 2 (n : ℚ) = 53 := by
    rw [Int.log_natCast, log_eq_of_pow_le_of_lt_pow (m := 53) hle hlt]
    rfl
  rw [ulp, hlog]
  norm_num

/-- `2 ^ 53 + 1` is rounded to `2 ^ 53`. -/
lemma double_of_odd : double ((2 ^ 53 + 1 : ℕ) : ℚ) = 2 ^ 53 := by
  have hfloor : ⌊((2 ^ 53 + 1 : ℕ) : ℚ) / 2⌋ = 2 ^ 52 := by
    rw [Int.floor_eq_iff]
    norm_num
  have hround : roundEven (((2 ^ 53 + 1 : ℕ) : ℚ) / 2) = 2 ^ 52 := by
    rw [roundEven, hfloor, if_neg (by norm_num), if_neg (by norm_num), if_pos (by norm_num)]
  rw [double, ulp_of_beyond (by norm_num) (by norm_num), hround]
  norm_num

lemma double_of_even : double ((2 ^ 53 : ℕ) : ℚ) = 2 ^ 53 := by
  have hquotient : ((2 ^ 53 : ℕ) : ℚ) / 2 = (2 ^ 52 : ℤ) := by norm_num
  rw [double, ulp_of_beyond (by norm_num) (by norm_num), hquotient, roundEven_intCast]
  norm_num

/-- The last byte of a frame of `2 ^ 53 + 1` bytes is not counted. -/
lemma msVideoPayloadSizes_of_odd : msVideoPayloadSizes (2 ^ 53 + 1) (2 ^ 53 + 1) false = some (2 ^ 53 + 1, 1) := by
  have hdiv : divCeil (2 ^ 53 + 1) (2 ^ 53 + 1 - 1) = (1 : ℕ) := by
    have hone : double 1 = 1 := by exact_mod_cast double_natCast (n := 1) (by norm_num)
    rw [Nat.add_sub_cancel, divCeil, double_of_odd, double_of_even, div_self (by norm_num), hone]
    norm_num
  rw [msVideoPayloadSizes, if_neg (by norm_num), if_neg (by norm_num), hdiv, toInt_natCast (by norm_num)]
  rfl

/-- One packet of `p` bytes carries no more. -/
lemma length_makeFragments_one (p : ℕ) (N marker first : Bool) (ts : UInt32) (source : Mblk) (obu : Bytes)
    (seq : UInt16) :
    (((makeFragments (p + 1) N marker ts source 1 first obu seq).map fun m => m.bytes.tail).flatten).length =
      min obu.length p := by
  simp only [makeFragments, makePacket, map_cons, map_nil, tail_cons, flatten_cons,
    flatten_nil, append_nil, length_take]
  omega

lemma not_roundTrips_of_none {packer : ObuPacker} {n : ℕ}
    (h : msVideoPayloadSizes (n + 1) packer.maxPayloadSize packer.equalSizeEnabled = none) :
    ¬ RoundTrips packer [frameUnit n] := by
  intro hround
  obtain ⟨ms, hms, _⟩ := sendObu_of_roundTrips hround
  rw [sendObu, length_cons, length_replicate, h] at hms
  cases hms

/-- Too many packets, too long packets and a byte that is lost. -/
theorem not_roundTrips_large : ¬ RoundTrips { maxPayloadSize := 2 } [frameUnit (2 ^ 31 - 1)] ∧
      ¬ RoundTrips { maxPayloadSize := 2 ^ 31 + 1, equalSizeEnabled := true } [frameUnit (2 ^ 31 - 1)] ∧
      ¬ RoundTrips { maxPayloadSize := 2 ^ 53 + 1 } [frameUnit (2 ^ 53)] := by
  refine ⟨not_roundTrips_of_none msVideoPayloadSizes_of_many, not_roundTrips_of_none msVideoPayloadSizes_of_long, ?_⟩
  intro hround
  obtain ⟨ms, hms, hlength⟩ := sendObu_of_roundTrips hround
  have hobu : (0x30 :: replicate (2 ^ 53) (0 : UInt8)).length = 2 ^ 53 + 1 := by
    rw [length_cons, length_replicate]
  rw [sendObu_of_cut (p := 2 ^ 53 + 1) (n := 1) (by rw [hobu]; exact msVideoPayloadSizes_of_odd)
    (by rw [hobu]; norm_num)] at hms
  cases hms
  have hlost := length_makeFragments_one (2 ^ 53) true true true 0 (frameUnit (2 ^ 53)).m
    (0x30 :: replicate (2 ^ 53) 0) 0
  rw [hobu, min_eq_right (le_succ _)] at hlost
  have hbytes := hlost.symm.trans hlength
  omega

end Av1
