import Mathlib.Algebra.Order.BigOperators.Group.List
import Mathlib.Algebra.Order.Group.Nat
import LinphoneSdk.Ms2.Mblk
import LinphoneSdk.Vp8.PayloadDescriptor

/-!
# Packing VP8 frames

`vp8rtpfmt_packer_process` cuts each part of a frame into slices and puts a payload descriptor in front of
each. The part is carried when the readers give back its fields and its bytes.
-/

namespace Vp8

open Flags Ms2 List Option

/-- A part of a frame, with the descriptor to put in front of its slices. -/
structure Vp8RtpFmtPacket where
  m : Mblk
  pd : Vp8RtpFmtPayloadDescriptor

structure Vp8RtpFmtPackerCtx where
  max_payload_size : UInt64
  refCSeq : UInt16 := 0

/-- A size, or a difference of pointers, as an `int`. -/
def toInt (n : ℤ) : ℤ := n.bmod (2 ^ 32)

/-- What remains for the slice in a packet, as the packer computes it. -/
def room (max_payload_size : UInt64) (pd : Vp8RtpFmtPayloadDescriptor) : ℤ :=
  toInt max_payload_size.toNat - pd.pdsize

/-- The packet for the slice from `rptr` on: the descriptor, followed by `dlen` bytes of the part. -/
def slice (packet : Vp8RtpFmtPacket) (cseq : UInt16) (rptr dlen : ℤ) : Mblk where
  timestamp_info := packet.m.timestamp_info
  marker_info := false
  cseq := cseq
  independent_flag := packet.m.independent_flag
  discardable_flag := packet.m.discardable_flag
  bytes := packet.pd.octets (rptr == 0) ++ (packet.m.bytes.drop rptr.toNat).take dlen.toNat

/-- The loop of `packer_process_frame_part`; `none` when it goes on for more than `fuel` rounds. -/
def packerLoop (ctx : Vp8RtpFmtPackerCtx) (packet : Vp8RtpFmtPacket) : ℕ → ℤ → UInt16 → Option (List Mblk × UInt16)
  | 0, _, _ => none
  | fuel + 1, rptr, refCSeq =>
    if rptr < packet.m.bytes.length then
      let dlen := min (room ctx.max_payload_size packet.pd) (toInt (packet.m.bytes.length - rptr))
      (packerLoop ctx packet fuel (rptr + dlen) (refCSeq + 1)).map fun (out, refCSeq') =>
        (slice packet refCSeq rptr dlen :: out, refCSeq')
    else some ([], refCSeq)

/-- Set the marker bit on the last packet if required. -/
def markLast (marker_info : Bool) : List Mblk → List Mblk
  | [] => []
  | [m] => [{ m with marker_info }]
  | m :: m' :: ms => m :: markLast marker_info (m' :: ms)

def packerProcessFramePart (fuel : ℕ) (ctx : Vp8RtpFmtPackerCtx) (packet : Vp8RtpFmtPacket) :
    Option (List Mblk × Vp8RtpFmtPackerCtx) :=
  (packerLoop ctx packet fuel 0 ctx.refCSeq).map fun (out, refCSeq) =>
    (markLast packet.m.marker_info out, { ctx with refCSeq })

/-- The packets that are put in the queue, part after part. -/
def vp8rtpfmtPackerProcess (fuel : ℕ) (ctx : Vp8RtpFmtPackerCtx) :
    List Vp8RtpFmtPacket → Option (List (List Mblk) × Vp8RtpFmtPackerCtx)
  | [] => some ([], ctx)
  | packet :: packets => do
    let (out, ctx) ← packerProcessFramePart fuel ctx packet
    let (outs, ctx) ← vp8rtpfmtPackerProcess fuel ctx packets
    return (out :: outs, ctx)

/-! ### Carrying a frame -/

def payload (m : Bytes) : Bytes := ((parsePayloadDescriptor m).map Prod.snd).getD []

/-- The packets `ms` give the part back: the fields that were written, with readers that agree, and the bytes
in order, all within the maximum size. -/
structure Carried (max_payload_size : UInt64) (packet : Vp8RtpFmtPacket) (ms : List Mblk) : Prop where
  fields : ∀ i m, ms[i]? = some m → ∃ h, parsePayloadDescriptor m.bytes = some (packet.pd.written (i == 0), h)
  skipped : ∀ m ∈ ms, vp8rtpfmtSkipPayloadDescriptor m.bytes = (parsePayloadDescriptor m.bytes).map Prod.snd
  bytes : (ms.map fun m => payload m.bytes).flatten = packet.m.bytes
  size : ∀ m ∈ ms, m.bytes.length ≤ max_payload_size.toNat

/-- The packer ends, and its packets carry every part of the frame. -/
def RoundTrips (ctx : Vp8RtpFmtPackerCtx) (packets : List Vp8RtpFmtPacket) : Prop :=
  ∃ fuel outs ctx', vp8rtpfmtPackerProcess fuel ctx packets = some (outs, ctx') ∧
    Forall₂ (Carried ctx.max_payload_size) packets outs

/-- The fields that the descriptor can carry. The tid is written where it is not read. -/
structure Codable (pd : Vp8RtpFmtPayloadDescriptor) : Prop where
  framed : pd.Framed
  pid : pd.pid < 8
  tid : pd.tid_present = true → pd.tid = 0
  keyidx : pd.keyidx_present = true → pd.keyidx < 32

/-- There is room for a slice, and the size of the part is an `int`. -/
structure Fits (max_payload_size : UInt64) (packet : Vp8RtpFmtPacket) : Prop where
  room : 0 < room max_payload_size packet.pd
  size : packet.m.bytes.length < 2 ^ 31

/-! ### The loop -/

section loop

variable {ctx : Vp8RtpFmtPackerCtx} {packet : Vp8RtpFmtPacket} {fuel : ℕ} {rptr : ℤ} {refCSeq : UInt16}

lemma toInt_of_lt {n : ℤ} (h0 : 0 ≤ n) (h : n < 2 ^ 31) : toInt n = n := by
  rw [toInt, Int.bmod_def]
  push_cast
  split_ifs <;> omega

/-- Without room the cursor never goes forward. -/
lemma packerLoop_of_no_room (hroom : room ctx.max_payload_size packet.pd ≤ 0) (hlt : rptr < packet.m.bytes.length) :
    packerLoop ctx packet fuel rptr refCSeq = none := by
  induction fuel generalizing rptr refCSeq with
  | zero => rfl
  | succ fuel ih =>
    have hdlen := (min_le_left (room ctx.max_payload_size packet.pd) (toInt (packet.m.bytes.length - rptr))).trans hroom
    simp only [packerLoop, if_pos hlt]
    rw [ih (by omega)]
    rfl

/-- A remainder beyond the `int`s stays beyond them. -/
lemma packerLoop_of_large (hlarge : 2 ^ 31 ≤ packet.m.bytes.length - rptr) :
    packerLoop ctx packet fuel rptr refCSeq = none := by
  induction fuel generalizing rptr refCSeq with
  | zero => rfl
  | succ fuel ih =>
    have hdlen := min_le_right (room ctx.max_payload_size packet.pd) (toInt (packet.m.bytes.length - rptr))
    have hstep : toInt (packet.m.bytes.length - rptr) ≤ packet.m.bytes.length - rptr - 2 ^ 31 := by
      rw [toInt, Int.bmod_def]
      push_cast
      split_ifs <;> omega
    simp only [packerLoop, if_pos (show rptr < packet.m.bytes.length by omega)]
    rw [ih (by omega)]
    rfl

def slices (pd : Vp8RtpFmtPayloadDescriptor) : Bool → List Bytes → List Bytes
  | _, [] => []
  | first, k :: ks => (pd.octets first ++ k) :: slices pd false ks

section

variable (hfits : Fits ctx.max_payload_size packet) {n : ℕ}
include hfits n

/-- A slice has at least a byte, and no more than remain and have room. -/
lemma exists_dlen (hn : n < packet.m.bytes.length) :
    ∃ d : ℕ, min (room ctx.max_payload_size packet.pd) (toInt (packet.m.bytes.length - n)) = d ∧ 0 < d ∧
      d ≤ packet.m.bytes.length - n ∧ (d : ℤ) ≤ room ctx.max_payload_size packet.pd := by
  have hroom := hfits.room
  have hsize := hfits.size
  rw [toInt_of_lt (by omega) (by omega)]
  obtain ⟨d, hd⟩ : ∃ d : ℕ, min (room ctx.max_payload_size packet.pd) (packet.m.bytes.length - n : ℤ) = d :=
    Int.eq_ofNat_of_zero_le (by omega)
  exact ⟨d, hd, by omega, by omega, by omega⟩

/-- The loop cuts what remains of the part into slices that are not empty and have room. -/
lemma slices_of_packerLoop (hn : n ≤ packet.m.bytes.length)
    {out : List Mblk} {refCSeq' : UInt16} (hloop : packerLoop ctx packet fuel n refCSeq = some (out, refCSeq')) :
    ∃ ks : List Bytes, ks.flatten = packet.m.bytes.drop n ∧
      (∀ k ∈ ks, k ≠ [] ∧ (k.length : ℤ) ≤ room ctx.max_payload_size packet.pd) ∧
      out.map (·.bytes) = slices packet.pd (n == 0) ks := by
  induction fuel generalizing n refCSeq out with
  | zero => cases hloop
  | succ fuel ih =>
    rw [packerLoop] at hloop
    split_ifs at hloop with hlt
    · obtain ⟨d, hd, hpos, hle, hdroom⟩ := exists_dlen hfits (Int.ofNat_lt.mp hlt)
      simp only [hd, map_eq_some_iff, Prod.mk.injEq, Prod.exists] at hloop
      obtain ⟨out', c, hloop, rfl, rfl⟩ := hloop
      rw [← Int.natCast_add] at hloop
      obtain ⟨ks, hflatten, hks, hout⟩ := ih (by omega) hloop
      have hlength : ((packet.m.bytes.drop n).take d).length = d := by
        rw [length_take, length_drop, min_eq_left hle]
      refine ⟨(packet.m.bytes.drop n).take d :: ks, ?_, ?_, ?_⟩
      · rw [flatten_cons, hflatten, ← drop_drop, take_append_drop]
      · rw [forall_mem_cons]
        refine ⟨⟨?_, ?_⟩, hks⟩
        · rw [← length_pos_iff, hlength]
          exact hpos
        · rwa [hlength]
      · have hfalse : (n + d == 0) = false := by
          rw [beq_eq_false_iff_ne]
          omega
        rw [hfalse] at hout
        have hfirst : ((n : ℤ) == 0) = (n == 0) := by
          rw [Bool.eq_iff_iff, beq_iff_eq, beq_iff_eq, Int.natCast_eq_zero]
        rw [map_cons, hout, slices, slice, hfirst, Int.toNat_natCast, Int.toNat_natCast]
    · cases hloop
      refine ⟨[], ?_, nofun, rfl⟩
      rw [drop_eq_nil_of_le (by omega)]
      rfl

/-- With room in the packets the loop ends. -/
lemma exists_packerLoop (hn : n ≤ packet.m.bytes.length)
    (hfuel : packet.m.bytes.length - n < fuel) : ∃ r, packerLoop ctx packet fuel n refCSeq = some r := by
  induction fuel generalizing n refCSeq with
  | zero => exact absurd hfuel (Nat.not_lt_zero _)
  | succ fuel ih =>
    rw [packerLoop]
    split_ifs with hlt
    · obtain ⟨d, hd, hpos, hle, -⟩ := exists_dlen hfits (Int.ofNat_lt.mp hlt)
      obtain ⟨r, hr⟩ : ∃ r, packerLoop ctx packet fuel (n + d : ℕ) (refCSeq + 1) = some r :=
        ih (by omega) (by omega)
      rw [Int.natCast_add] at hr
      simp only [hd, hr, map_some, some.injEq, exists_eq']
    · exact ⟨_, rfl⟩

end

/-- The loop ends exactly when nothing is to be cut, or there is room and the size is an `int`. -/
lemma fits_of_packerLoop {r : List Mblk × UInt16} (hne : packet.m.bytes ≠ [])
    (hloop : packerLoop ctx packet fuel 0 refCSeq = some r) : Fits ctx.max_payload_size packet := by
  have hlength := length_pos_iff.mpr hne
  constructor
  · by_contra hroom
    rw [packerLoop_of_no_room (not_lt.mp hroom) (by omega)] at hloop
    cases hloop
  · by_contra hsize
    rw [packerLoop_of_large (by omega)] at hloop
    cases hloop

end loop

/-! ### The packets of a part -/

section part

variable {ctx ctx' : Vp8RtpFmtPackerCtx} {packet : Vp8RtpFmtPacket} {pd : Vp8RtpFmtPayloadDescriptor} {fuel : ℕ}
  {out : List Mblk} {ks : List Bytes} {m : Bytes}

lemma map_bytes_markLast (marker_info : Bool) (ms : List Mblk) :
    (markLast marker_info ms).map (·.bytes) = ms.map (·.bytes) := by
  induction ms with
  | nil => rfl
  | cons m ms ih =>
    cases ms with
    | nil => rfl
    | cons m' ms =>
      rw [markLast, map_cons, ih]
      rfl

lemma exists_of_getElem?_slices {first : Bool} {i : ℕ} (h : (slices pd first ks)[i]? = some m) :
    ∃ k ∈ ks, m = pd.octets (first && i == 0) ++ k := by
  induction ks generalizing first i with
  | nil => cases h
  | cons k ks ih =>
    cases i with
    | zero =>
      cases h
      exact ⟨k, mem_cons_self, by simp⟩
    | succ i =>
      obtain ⟨k', hk', heq⟩ := ih (h : (slices pd false ks)[i]? = some m)
      exact ⟨k', mem_cons_of_mem k hk', by simpa using heq⟩

lemma exists_of_mem_slices {first : Bool} (h : m ∈ slices pd first ks) :
    ∃ first, ∃ k ∈ ks, m = pd.octets first ++ k := by
  obtain ⟨i, hi⟩ := getElem?_of_mem h
  exact ⟨_, exists_of_getElem?_slices hi⟩

lemma payload_octets (hframed : pd.Framed) (first : Bool) {k : Bytes} (hk : k ≠ []) :
    payload (pd.octets first ++ k) = k := by
  rw [payload, parse_octets hframed first hk]
  rfl

lemma map_payload_slices (hframed : pd.Framed) (hks : ∀ k ∈ ks, k ≠ []) (first : Bool) :
    (slices pd first ks).map payload = ks := by
  induction ks generalizing first with
  | nil => rfl
  | cons k ks ih =>
    rw [forall_mem_cons] at hks
    rw [slices, map_cons, payload_octets hframed first hks.1, ih hks.2]

/-- What is read back is what was written, when the masks and the shift of the reader leave it as it is. -/
lemma received_eq_written (hpd : Codable pd) (first : Bool) : pd.received first = pd.written first := by
  have hpid : pd.pid &&& 0x07 = pd.pid := and_mask_of_lt (n := 3) (UInt8.lt_iff_toNat_lt.mp hpd.pid) rfl
  have htid : (if pd.tid_present then (pd.tid &&& 0xC0) >>> 6 else 0) = if pd.tid_present then pd.tid else 0 := by
    split_ifs with hpresent
    · rw [hpd.tid hpresent]
      rfl
    · rfl
  have hkeyidx : (if pd.keyidx_present then pd.keyidx &&& 0x1F else 0) =
      if pd.keyidx_present then pd.keyidx else 0 := by
    split_ifs with hpresent
    · exact and_mask_of_lt (n := 5) (UInt8.lt_iff_toNat_lt.mp (hpd.keyidx hpresent)) rfl
    · rfl
  rw [Vp8RtpFmtPayloadDescriptor.received, hpid, htid, hkeyidx]
  rfl

/-- The two bits the tid is read from and the place where it is written have only zero in common. -/
lemma tid_eq_zero {x : UInt8} (h : (x &&& 0xC0) >>> 6 = x) : x = 0 := by
  have hall : ∀ n : Fin 256, (UInt8.ofNat n &&& 0xC0) >>> 6 = UInt8.ofNat n → UInt8.ofNat n = 0 := by
    decide +kernel
  have hx := hall ⟨x.toNat, x.toNat_lt⟩
  rw [UInt8.ofNat_toNat] at hx
  exact hx h

lemma framed_of_written {first : Bool} (h : (pd.written first).Framed) : pd.Framed where
  extended := h.extended
  tl0picidx := h.tl0picidx
  pictureid hpresent := by
    have hpictureid := h.pictureid hpresent
    rwa [Vp8RtpFmtPayloadDescriptor.written, if_pos hpresent] at hpictureid

/-- A descriptor that is read back as it was written is one of the codable ones. -/
lemma codable_of_parse {first : Bool} {k h : Bytes} (hk : k ≠ [])
    (heq : parsePayloadDescriptor (pd.octets first ++ k) = some (pd.written first, h)) : Codable pd := by
  obtain ⟨hframed, hpid, hkeyidx⟩ := of_parse heq
  have hframed := framed_of_written hframed
  rw [parse_octets hframed first hk, some.injEq, Prod.mk.injEq] at heq
  refine ⟨hframed, hpid, fun hpresent => ?_, fun hpresent => ?_⟩
  · have htid := congrArg Vp8RtpFmtPayloadDescriptor.tid heq.1
    rw [Vp8RtpFmtPayloadDescriptor.received, Vp8RtpFmtPayloadDescriptor.written, if_pos hpresent,
      if_pos hpresent] at htid
    exact tid_eq_zero htid
  · rwa [Vp8RtpFmtPayloadDescriptor.written, if_pos hpresent] at hkeyidx

lemma exists_slices (hfits : Fits ctx.max_payload_size packet)
    (hpart : packerProcessFramePart fuel ctx packet = some (out, ctx')) :
    ∃ ks : List Bytes, ks.flatten = packet.m.bytes ∧
      (∀ k ∈ ks, k ≠ [] ∧ (k.length : ℤ) ≤ room ctx.max_payload_size packet.pd) ∧
      out.map (·.bytes) = slices packet.pd true ks := by
  rw [packerProcessFramePart, map_eq_some_iff] at hpart
  obtain ⟨⟨out', c⟩, hloop, heq⟩ := hpart
  cases heq
  obtain ⟨ks, hflatten, hks, hout⟩ := slices_of_packerLoop hfits (Nat.zero_le _) hloop
  exact ⟨ks, hflatten, hks, (map_bytes_markLast _ _).trans hout⟩

lemma max_payload_size_eq (hpart : packerProcessFramePart fuel ctx packet = some (out, ctx')) :
    ctx'.max_payload_size = ctx.max_payload_size := by
  rw [packerProcessFramePart, map_eq_some_iff] at hpart
  obtain ⟨⟨out', c⟩, -, heq⟩ := hpart
  cases heq
  rfl

/-- The packets of a part with a codable descriptor, for which there is room, carry the part. -/
lemma carried_of_codable (hpd : Codable packet.pd) (hfits : Fits ctx.max_payload_size packet)
    (hpart : packerProcessFramePart fuel ctx packet = some (out, ctx')) :
    Carried ctx.max_payload_size packet out := by
  obtain ⟨ks, hflatten, hks, hout⟩ := exists_slices hfits hpart
  have hmem {m : Mblk} (hm : m ∈ out) : m.bytes ∈ slices packet.pd true ks := by
    rw [← hout]
    exact List.mem_map_of_mem hm
  constructor
  · intro i m hm
    have hslice : (slices packet.pd true ks)[i]? = some m.bytes := by
      rw [← hout, List.getElem?_map, hm, Option.map_some]
    obtain ⟨k, hk, heq⟩ := exists_of_getElem?_slices hslice
    refine ⟨k, ?_⟩
    rw [heq, parse_octets hpd.framed _ (hks k hk).1, received_eq_written hpd, Bool.true_and]
  · exact fun m _ => skip_eq_parse m.bytes
  · rw [← hflatten, ← map_payload_slices hpd.framed (fun k hk => (hks k hk).1) true, ← hout, List.map_map]
    rfl
  · intro m hm
    obtain ⟨first, k, hk, heq⟩ := exists_of_mem_slices (hmem hm)
    have hroom := (hks k hk).2
    have hmax : toInt ctx.max_payload_size.toNat ≤ ctx.max_payload_size.toNat := by
      rw [toInt, Int.bmod_def]
      push_cast
      split_ifs <;> omega
    rw [heq, List.length_append, Vp8RtpFmtPayloadDescriptor.length_octets]
    rw [room] at hroom
    omega

/-- A part that is carried has a codable descriptor and room for its slices, unless it is empty. -/
lemma codable_of_carried (hne : packet.m.bytes ≠ []) (hpart : packerProcessFramePart fuel ctx packet = some (out, ctx'))
    (hcarried : Carried ctx.max_payload_size packet out) : Codable packet.pd ∧ Fits ctx.max_payload_size packet := by
  have hfits : Fits ctx.max_payload_size packet := by
    rw [packerProcessFramePart, map_eq_some_iff] at hpart
    obtain ⟨r, hloop, -⟩ := hpart
    exact fits_of_packerLoop hne hloop
  refine ⟨?_, hfits⟩
  obtain ⟨ks, hflatten, hks, hout⟩ := exists_slices hfits hpart
  cases ks with
  | nil => exact absurd hflatten.symm hne
  | cons k ks =>
    cases out with
    | nil => cases hout
    | cons m out =>
      rw [map_cons, slices, cons.injEq] at hout
      obtain ⟨h, hparse⟩ := hcarried.fields 0 m rfl
      rw [hout.1] at hparse
      exact codable_of_parse (hks k mem_cons_self).1 hparse

/-- An empty part makes no packet. -/
lemma carried_of_nil (h : packet.m.bytes = []) (hpart : packerProcessFramePart fuel ctx packet = some (out, ctx')) :
    Carried ctx.max_payload_size packet out := by
  have hout : out = [] := by
    rw [packerProcessFramePart, map_eq_some_iff] at hpart
    obtain ⟨r, hloop, heq⟩ := hpart
    cases fuel with
    | zero => cases hloop
    | succ fuel =>
      rw [packerLoop, h, if_neg (by decide)] at hloop
      cases hloop
      cases heq
      rfl
  subst hout
  exact ⟨nofun, nofun, h.symm, nofun⟩

lemma exists_packerProcessFramePart (h : packet.m.bytes ≠ [] → Fits ctx.max_payload_size packet)
    (hfuel : packet.m.bytes.length < fuel) :
    ∃ out ctx', packerProcessFramePart fuel ctx packet = some (out, ctx') := by
  obtain ⟨r, hr⟩ : ∃ r, packerLoop ctx packet fuel (0 : ℕ) ctx.refCSeq = some r := by
    by_cases hne : packet.m.bytes = []
    · cases fuel with
      | zero => exact absurd hfuel (Nat.not_lt_zero _)
      | succ fuel =>
        rw [packerLoop, hne, if_neg (by decide)]
        exact ⟨_, rfl⟩
    · exact exists_packerLoop (h hne) (Nat.zero_le _) hfuel
  exact ⟨_, _, map_eq_some_iff.mpr ⟨r, hr, rfl⟩⟩

end part

/-! ### Frames -/

section frames

variable {ctx : Vp8RtpFmtPackerCtx} {packets : List Vp8RtpFmtPacket} {fuel : ℕ}

/-- A part is expressible when it is empty, or has a codable descriptor and room for its slices. -/
def Expressible (max_payload_size : UInt64) (packet : Vp8RtpFmtPacket) : Prop :=
  packet.m.bytes ≠ [] → Codable packet.pd ∧ Fits max_payload_size packet

lemma exists_process (h : ∀ packet ∈ packets, Expressible ctx.max_payload_size packet)
    (hfuel : ∀ packet ∈ packets, packet.m.bytes.length < fuel) :
    ∃ outs ctx', vp8rtpfmtPackerProcess fuel ctx packets = some (outs, ctx') ∧
      List.Forall₂ (Carried ctx.max_payload_size) packets outs := by
  induction packets generalizing ctx with
  | nil => exact ⟨[], ctx, rfl, .nil⟩
  | cons packet packets ih =>
    rw [List.forall_mem_cons] at h hfuel
    obtain ⟨out, ctx', hpart⟩ := exists_packerProcessFramePart (fun hne => (h.1 hne).2) hfuel.1
    have hmax := max_payload_size_eq hpart
    obtain ⟨outs, ctx'', hparts, hcarried⟩ := ih (hmax ▸ h.2) hfuel.2
    rw [hmax] at hcarried
    refine ⟨out :: outs, ctx'', ?_, .cons ?_ hcarried⟩
    · simp only [vp8rtpfmtPackerProcess, hpart, hparts, Option.bind_eq_bind, Option.bind_some, Option.pure_def]
    · by_cases hne : packet.m.bytes = []
      · exact carried_of_nil hne hpart
      · exact carried_of_codable (h.1 hne).1 (h.1 hne).2 hpart

lemma expressible_of_process {outs : List (List Mblk)} {ctx' : Vp8RtpFmtPackerCtx}
    (hprocess : vp8rtpfmtPackerProcess fuel ctx packets = some (outs, ctx'))
    (hcarried : Forall₂ (Carried ctx.max_payload_size) packets outs) :
    ∀ packet ∈ packets, Expressible ctx.max_payload_size packet := by
  induction packets generalizing ctx outs with
  | nil => exact fun packet hmem => absurd hmem not_mem_nil
  | cons packet packets ih =>
    simp only [vp8rtpfmtPackerProcess, bind_eq_bind, bind_eq_some_iff] at hprocess
    obtain ⟨⟨out, ctx1⟩, hpart, ⟨outs', ctx2⟩, hparts, heq⟩ := hprocess
    cases heq
    cases hcarried with
    | cons hcarried hrest =>
      have hmax := max_payload_size_eq hpart
      rw [forall_mem_cons]
      constructor
      · intro hne
        exact codable_of_carried hne hpart hcarried
      · rw [← hmax] at hrest ⊢
        exact ih hparts hrest

/-- A frame is carried exactly when the descriptors of its parts that are not empty can be expressed: the optional
fields are announced and in range, the tid is zero, and the packets have room for a slice. -/
theorem roundTrips_iff_expressible (ctx : Vp8RtpFmtPackerCtx) (packets : List Vp8RtpFmtPacket) :
    RoundTrips ctx packets ↔ ∀ packet ∈ packets, Expressible ctx.max_payload_size packet := by
  constructor
  · rintro ⟨fuel, outs, ctx', hprocess, hcarried⟩
    exact expressible_of_process hprocess hcarried
  · intro h
    have hfuel : ∀ packet ∈ packets, packet.m.bytes.length < (packets.map (·.m.bytes.length)).sum + 1 :=
      fun packet hmem => Nat.lt_succ_of_le (le_sum_of_mem (mem_map.mpr ⟨packet, hmem, rfl⟩))
    obtain ⟨outs, ctx', hprocess, hcarried⟩ := exists_process h hfuel
    exact ⟨_, outs, ctx', hprocess, hcarried⟩

def secondLayer : Vp8RtpFmtPacket where
  m := { bytes := [0] }
  pd := { extended_control_bits_present := true, tid_present := true, tid := 1 }

/-- The tid of a part of the second temporal layer is read back as zero. -/
theorem not_roundTrips_secondLayer : ¬ RoundTrips { max_payload_size := 1200 } [secondLayer] := by
  rintro ⟨fuel, outs, ctx', hprocess, hcarried⟩
  have hexpressible := expressible_of_process hprocess hcarried secondLayer mem_cons_self
  have htid := (hexpressible (by decide)).1.tid rfl
  exact absurd htid (by decide)

end frames

end Vp8
