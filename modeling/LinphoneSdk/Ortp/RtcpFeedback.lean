import LinphoneSdk.Lib.BitFields
import LinphoneSdk.Lib.Bytes
import LinphoneSdk.Lib.Chunks
import Mathlib.Data.UInt

/-!
# RTCP feedback messages

The TMMBR, REMB and RPSI messages made in `rtcp_fb.c` and read in `rtcpparse.c`. A bitrate travels as a
mantissa and an exponent; a bit string with the number of bits that pad it. The memory is that of a
little-endian host. Shifts that overflow an `int` and accesses outside a block are undefined in the
source: the functions answer `none` there.
-/

namespace Ortp

open Bytes Chunks BitFields List Option UInt16

/-- What the messages take from the session, and the messages kept to be sent again. -/
structure FbSession where
  sndSsrc : UInt32
  rcvSsrc : UInt32
  rcvPt : UInt8
  tmmbrSent : Option Bytes
  googRembSent : Option Bytes

/-! ### Headers -/

def RTCP_RTPFB : UInt8 := 205

def RTCP_PSFB : UInt8 := 206

def RTCP_RTPFB_TMMBR : UInt8 := 3

def RTCP_PSFB_RPSI : UInt8 := 3

def RTCP_PSFB_AFB : UInt8 := 15

/-- Version 2, no padding, length in words without the first one. -/
def rtcpCommonHeaderInit (type rc : UInt8) (bytesLen : ℕ) : Bytes :=
  ((2 : UInt8) <<< 6 ||| (rc &&& 0x1F)) :: type :: be16 (ofNat (bytesLen / 4 - 1))

def rtcpFbHeader (packetSenderSsrc mediaSourceSsrc : UInt32) : Bytes :=
  be32 packetSenderSsrc ++ be32 mediaSourceSsrc

def rtcpGetSize (m : Bytes) : ℕ :=
  if m.length < 4 then 0 else min ((1 + (be16At m 2).toNat) * 4) m.length

/-! ### Bitrates -/

def tmmbrExp : Field :=
  ⟨0x03FFFFFF, 0x0000003F, 26, 6, by decide, by decide, by decide⟩

def tmmbrMantissa : Field :=
  ⟨0xFC0001FF, 0x0001FFFF, 9, 17, by decide, by decide, by decide⟩

def tmmbrMeasuredOverhead : Field :=
  ⟨0xFFFFFE00, 0x000001FF, 0, 9, by decide, by decide, by decide⟩

def googRembNumSsrc : Field :=
  ⟨0x00FFFFFF, 0x000000FF, 24, 8, by decide, by decide, by decide⟩

def googRembExp : Field :=
  ⟨0xFF03FFFF, 0x0000003F, 18, 6, by decide, by decide, by decide⟩

def googRembMantissa : Field :=
  ⟨0xFFFC0000, 0x0003FFFF, 0, 18, by decide, by decide, by decide⟩

variable (session : FbSession) (value : UInt32)

def tmmbrMessage : Bytes :=
  rtcpCommonHeaderInit RTCP_RTPFB RTCP_RTPFB_TMMBR 20 ++
    (rtcpFbHeader session.sndSsrc 0 ++ (be32 session.rcvSsrc ++ be32 value))

def googRembMessage : Bytes :=
  rtcpCommonHeaderInit RTCP_PSFB RTCP_PSFB_AFB 24 ++
    (rtcpFbHeader session.sndSsrc 0 ++ (be32 0x52454D42 ++ (be32 value ++ be32 session.rcvSsrc)))

/-- The message and the session that keeps it; `value` is what the block held. The
exponent is an `int`, which its shift overflows from 32 on. -/
def makeRtcpFbTmmbr (mxtbr : UInt64) (measuredOverhead : UInt16) : Option (Bytes × FbSession) :=
  let (mxtbr, mxtbrExp) := normalise 17 64 mxtbr.toNat
  let mxtbrMantissa := UInt32.ofNat mxtbr &&& 0x0001FFFF
  if 32 ≤ mxtbrExp then none
  else
    let value := tmmbrExp.set value (.ofNat mxtbrExp)
    let value := tmmbrMantissa.set value mxtbrMantissa
    let value := tmmbrMeasuredOverhead.set value measuredOverhead.toUInt32
    let m := tmmbrMessage session value
    some (m, { session with tmmbrSent := some m })

def makeRtcpFbGoogRemb (mxtbr : UInt64) : Bytes × FbSession :=
  let (mxtbr, mxtbrExp) := normalise 18 64 mxtbr.toNat
  let mxtbrMantissa := UInt32.ofNat mxtbr &&& 0x0003FFFF
  let value := googRembNumSsrc.set value 1
  let value := googRembExp.set value (.ofNat mxtbrExp)
  let value := googRembMantissa.set value mxtbrMantissa
  let m := googRembMessage session value
  (m, { session with googRembSent := some m })

/-- The product of a mantissa and a power of two, in 32 bits: the power is an `int`. -/
def maxBitrate (mantissa exponent : UInt32) : Option UInt64 :=
  if 31 ≤ exponent then none else some (mantissa * 1 <<< exponent).toUInt64

/-- The place of the 8 bytes of a message after its headers, if they are in its size. -/
def getFci (m : Bytes) : Option ℕ :=
  if 20 > rtcpGetSize m then none else some 12

def rtcpRTPFBTmmbrGetMaxBitrate (m : Bytes) : Option UInt64 := do
  let fci ← getFci m
  let value := be32At m (fci + 4)
  maxBitrate (tmmbrMantissa.get value) (tmmbrExp.get value)

def rtcpPSFBGoogRembGetMaxBitrate (m : Bytes) : Option UInt64 := do
  let fci ← getFci m
  let value := be32At m (fci + 4)
  maxBitrate (googRembMantissa.get value) (googRembExp.get value)

/-! ### Bit strings -/

structure BitString where
  len : UInt16
  bytes : Bytes
  length_bytes : bytes.length = (len.toNat + 7) / 8

/-- A bit, the first one of a byte being its most significant. -/
def bitAt (bytes : Bytes) (i : ℕ) : Bool := (bytes.getD (i / 8) 0).toNat.testBit (7 - i % 8)

def orWord (block : Bytes) (k : ℕ) (x : UInt8) : Option Bytes :=
  if 2 * k + 2 ≤ block.length then some (block.set (2 * k) (block.getD (2 * k) 0 ||| x)) else none

/-- The loop over the bits of the last byte. -/
def orBits (k : ℕ) (byte : UInt8) : ℕ → Bytes → Option Bytes
  | 0, block => some block
  | bits + 1, block => do
    let block ← orBits k byte bits block
    orWord block k (byte &&& (1 <<< (7 - UInt8.ofNat bits)))

/-- An RPSI message: what is written of it ends with the first two bytes of the bit string. -/
def rpsiMessage (session : FbSession) (pb : UInt8) (bitString : Bytes) : Bytes :=
  rtcpCommonHeaderInit RTCP_PSFB RTCP_PSFB_RPSI 16 ++
    (rtcpFbHeader session.sndSsrc session.rcvSsrc ++ (pb :: (session.rcvPt &&& 0x7F) :: bitString))

def makeRtcpFbRpsi (session : FbSession) (s : BitString) : Option Bytes := do
  let bitStringLenInBytes := s.len.toNat / 8 + if s.len.toNat % 8 = 0 then 0 else 1
  let additionalBytes := bitStringLenInBytes - 2
  let block := replicate (2 + additionalBytes) 0
  let pb : UInt16 := if s.len ≤ 16 then 16 - s.len else (s.len - 16) % 32
  let block := patch block 0 (s.bytes.take (s.len.toNat / 8))
  let block ← orBits (bitStringLenInBytes - 1) (s.bytes.getD (bitStringLenInBytes - 1) 0) (s.len.toNat % 8) block
  return rpsiMessage session pb.toUInt8 (block.take 2)

def rtcpFbRpsiFciGetBitString (m : Bytes) : Bytes := m.drop 14

def rtcpPSFBRpsiGetFciBitStringLen (m : Bytes) : UInt16 :=
  let bitStringLenInBytes := ofNat (rtcpGetSize m) - 14
  bitStringLenInBytes * 8 - (m.getD 12 0).toUInt16

/-! ### The bitrate read -/

section bitrate

variable {mxtbr : UInt64}

/-- A bitrate is read back when it is the requested one, less what is lost with the bits dropped. -/
def ReadsBack (width : ℕ) (mxtbr : UInt64) (read : Option UInt64) : Prop :=
  ∃ r, read = some r ∧ r ≤ mxtbr ∧ mxtbr.toNat - r.toNat < 2 ^ (mxtbr.toNat.size - width)

lemma toNat_shiftLeft_one {e : UInt32} (h : e.toNat < 31) : ((1 : UInt32) <<< e).toNat = 2 ^ e.toNat := by
  have hlt : 2 ^ e.toNat < 2 ^ 32 := Nat.pow_lt_pow_right (by omega) (by omega)
  have hone : (1 : UInt32).toNat = 1 := rfl
  have hmod : e.toNat % 32 = e.toNat := Nat.mod_eq_of_lt (by omega)
  rw [UInt32.toNat_shiftLeft, hmod, hone, Nat.one_shiftLeft, Nat.mod_eq_of_lt hlt]

lemma size_le_64 (mxtbr : UInt64) : mxtbr.toNat.size ≤ 64 := Nat.size_le.2 mxtbr.toNat_lt

/-- A bitrate that fits 32 bits is read back, another one is not. -/
lemma readsBack_maxBitrate_iff {width : ℕ} (hwidth : 17 ≤ width) (hle : width ≤ 18) {mantissa exponent : UInt32}
    (hmantissa : mantissa.toNat = mxtbr.toNat / 2 ^ (mxtbr.toNat.size - width))
    (hexponent : exponent.toNat = mxtbr.toNat.size - width) :
    ReadsBack width mxtbr (maxBitrate mantissa exponent) ↔ mxtbr.toNat < 2 ^ 32 := by
  have h31 : (31 : UInt32).toNat = 31 := rfl
  obtain ⟨hlower, hupper⟩ := excess_bounds width mxtbr.toNat
  rw [← hmantissa, ← hexponent] at hlower hupper
  rw [maxBitrate]
  by_cases hlong : 31 ≤ exponent
  · rw [if_pos hlong]
    have hlong' := UInt32.le_iff_toNat_le.1 hlong
    refine iff_of_false (fun ⟨r, hr, _⟩ => by cases hr) fun hlt => ?_
    have hsize := Nat.size_le.2 hlt
    omega
  · rw [if_neg hlong]
    have hshort : exponent.toNat < 31 := UInt32.lt_iff_toNat_lt.1 (UInt32.not_le.1 hlong)
    have hproduct : (mantissa * 1 <<< exponent).toUInt64.toNat = mantissa.toNat * 2 ^ exponent.toNat % 2 ^ 32 := by
      rw [UInt32.toNat_toUInt64, UInt32.toNat_mul, toNat_shiftLeft_one hshort]
    have hunit : 2 ^ exponent.toNat < 2 ^ 32 := Nat.pow_lt_pow_right (by omega) (by omega)
    constructor
    · rintro ⟨r, hr, -, hlost⟩
      obtain rfl := some.inj hr
      by_contra hlarge
      -- the product wraps around, so that at least 2^32 is lost
      have hwrap : 2 ^ 32 ≤ mantissa.toNat * 2 ^ exponent.toNat := by
        have hsplit : 2 ^ 32 = 2 ^ (32 - exponent.toNat) * 2 ^ exponent.toNat := by
          rw [← Nat.pow_add]
          congr 1
          omega
        rw [hsplit]
        refine Nat.mul_le_mul_right _ ?_
        rw [hmantissa, ← hexponent, Nat.le_div_iff_mul_le (Nat.two_pow_pos _), ← hsplit]
        omega
      rw [hproduct, ← hexponent] at hlost
      omega
    · intro hlt
      refine ⟨_, rfl, ?_, ?_⟩
      · rw [UInt64.le_iff_toNat_le, hproduct]
        omega
      · rw [hproduct, ← hexponent]
        omega

variable (session : FbSession) (value : UInt32) (mxtbr : UInt64)

/-- The message of a bitrate is as long as its header says. -/
lemma getFci_of_length {m rest : Bytes} (length : UInt16) (hdrop : m.drop 2 = be16 length ++ rest)
    (hlength : m.length = 4 + 4 * length.toNat) (hlarge : 20 ≤ m.length) : getFci m = some 12 := by
  have hsize : rtcpGetSize m = m.length := by
    rw [rtcpGetSize, if_neg (by omega), be16At_of_drop _ hdrop]
    omega
  rw [getFci, hsize, if_neg (by omega)]

lemma toNat_ofNat_excess (width : ℕ) (hwidth : width ≤ 18) : (UInt32.ofNat (mxtbr.toNat.size - width)).toNat =
    mxtbr.toNat.size - width := by
  have hsize := size_le_64 mxtbr
  rw [UInt32.toNat_ofNat']
  omega

lemma toNat_ofNat_mantissa (width : ℕ) (hwidth : width ≤ 18) :
    (UInt32.ofNat (mxtbr.toNat / 2 ^ (mxtbr.toNat.size - width))).toNat =
      mxtbr.toNat / 2 ^ (mxtbr.toNat.size - width) := by
  have hlt := div_excess_lt width mxtbr.toNat
  have hle : 2 ^ width ≤ 2 ^ 18 := Nat.pow_le_pow_right (by omega) hwidth
  rw [UInt32.toNat_ofNat', Nat.mod_eq_of_lt (by omega)]

lemma tmmbr_read (mantissa exponent : UInt32) (measuredOverhead : UInt16) (hmantissa : mantissa.toNat < 2 ^ 17)
    (hexponent : exponent.toNat < 2 ^ 6) :
    rtcpRTPFBTmmbrGetMaxBitrate (tmmbrMessage session (tmmbrMeasuredOverhead.set
      (tmmbrMantissa.set (tmmbrExp.set value exponent) mantissa) measuredOverhead.toUInt32)) =
        maxBitrate mantissa exponent := by
  generalize hw : tmmbrMeasuredOverhead.set (tmmbrMantissa.set (tmmbrExp.set value exponent) mantissa)
    measuredOverhead.toUInt32 = w
  have hfci : getFci (tmmbrMessage session w) = some 12 := getFci_of_length 4 rfl rfl (Nat.le_refl 20)
  have hread : be32At (tmmbrMessage session w) 16 = w := be32At_of_drop w rfl
  have hm : tmmbrMantissa.get w = mantissa := by
    rw [← hw, Field.get_set_of_disjoint _ _ _ _ (by decide) (by decide) (by decide),
      Field.get_set _ _ _ (by decide) hmantissa]
  have he : tmmbrExp.get w = exponent := by
    rw [← hw, Field.get_set_of_disjoint _ _ _ _ (by decide) (by decide) (by decide),
      Field.get_set_of_disjoint _ _ _ _ (by decide) (by decide) (by decide),
      Field.get_set _ _ _ (by decide) hexponent]
  rw [rtcpRTPFBTmmbrGetMaxBitrate, hfci, bind_eq_bind, bind_some, hread]
  dsimp only
  rw [hm, he]

lemma googRemb_read (mantissa exponent : UInt32) (hmantissa : mantissa.toNat < 2 ^ 18)
    (hexponent : exponent.toNat < 2 ^ 6) :
    rtcpPSFBGoogRembGetMaxBitrate (googRembMessage session (googRembMantissa.set
      (googRembExp.set (googRembNumSsrc.set value 1) exponent) mantissa)) = maxBitrate mantissa exponent := by
  generalize hw : googRembMantissa.set (googRembExp.set (googRembNumSsrc.set value 1) exponent) mantissa = w
  have hfci : getFci (googRembMessage session w) = some 12 :=
    getFci_of_length 5 rfl rfl (Nat.le_add_right 20 4)
  have hread : be32At (googRembMessage session w) 16 = w := be32At_of_drop w rfl
  have hm : googRembMantissa.get w = mantissa := by
    rw [← hw, Field.get_set _ _ _ (by decide) hmantissa]
  have he : googRembExp.get w = exponent := by
    rw [← hw, Field.get_set_of_disjoint _ _ _ _ (by decide) (by decide) (by decide),
      Field.get_set _ _ _ (by decide) hexponent]
  rw [rtcpPSFBGoogRembGetMaxBitrate, hfci, bind_eq_bind, bind_some, hread]
  dsimp only
  rw [hm, he]

lemma readsBack_tmmbr_iff (measuredOverhead : UInt16) :
    (∃ m s, makeRtcpFbTmmbr session value mxtbr measuredOverhead = some (m, s) ∧
      ReadsBack 17 mxtbr (rtcpRTPFBTmmbrGetMaxBitrate m)) ↔ mxtbr.toNat < 2 ^ 32 := by
  have hsize := size_le_64 mxtbr
  have hexponent := toNat_ofNat_excess mxtbr 17 (by omega)
  have hmantissa := toNat_ofNat_mantissa mxtbr 17 (by omega)
  have hlt := div_excess_lt 17 mxtbr.toNat
  rw [← hmantissa] at hlt
  rw [makeRtcpFbTmmbr, normalise_eq 17 64 mxtbr.toNat (by omega)]
  dsimp only
  by_cases hlong : 32 ≤ mxtbr.toNat.size - 17
  · rw [if_pos hlong]
    refine iff_of_false (fun ⟨m, s, hm, _⟩ => by cases hm) fun h => ?_
    have := Nat.size_le.2 h
    omega
  have hmask : UInt32.ofNat (mxtbr.toNat / 2 ^ (mxtbr.toNat.size - 17)) &&& 0x0001FFFF =
      UInt32.ofNat (mxtbr.toNat / 2 ^ (mxtbr.toNat.size - 17)) := tmmbrMantissa.and_mask_of_lt _ hlt
  rw [if_neg hlong, hmask, ← readsBack_maxBitrate_iff (Nat.le_refl 17) (by omega) hmantissa hexponent,
    ← tmmbr_read session value _ _ measuredOverhead hlt (by omega)]
  constructor
  · rintro ⟨m, s, hm, hback⟩
    obtain ⟨rfl, rfl⟩ := Prod.mk.inj (some.inj hm)
    exact hback
  · intro hback
    exact ⟨_, _, rfl, hback⟩

lemma readsBack_googRemb_iff :
    ReadsBack 18 mxtbr (rtcpPSFBGoogRembGetMaxBitrate (makeRtcpFbGoogRemb session value mxtbr).1) ↔
      mxtbr.toNat < 2 ^ 32 := by
  have hsize := size_le_64 mxtbr
  have hexponent := toNat_ofNat_excess mxtbr 18 (by omega)
  have hmantissa := toNat_ofNat_mantissa mxtbr 18 (by omega)
  have hlt := div_excess_lt 18 mxtbr.toNat
  rw [← hmantissa] at hlt
  have hmask : UInt32.ofNat (mxtbr.toNat / 2 ^ (mxtbr.toNat.size - 18)) &&& 0x0003FFFF =
      UInt32.ofNat (mxtbr.toNat / 2 ^ (mxtbr.toNat.size - 18)) := googRembMantissa.and_mask_of_lt _ hlt
  rw [makeRtcpFbGoogRemb, normalise_eq 18 64 mxtbr.toNat (by omega)]
  dsimp only
  rw [hmask, ← readsBack_maxBitrate_iff (by omega) (Nat.le_refl 18) hmantissa hexponent,
    googRemb_read session value _ _ hlt (by omega)]

end bitrate

/-! ### The bit string read -/

section bitString

/-- Bits outside the block are undefined. -/
lemma orBits_eq_none {k : ℕ} (byte : UInt8) {bits : ℕ} {block : Bytes} (hk : block.length < 2 * k + 2)
    (hbits : bits ≠ 0) : orBits k byte bits block = none := by
  induction bits with
  | zero => exact absurd rfl hbits
  | succ bits ih =>
    cases bits with
    | zero =>
      rw [orBits, orBits, bind_eq_bind, bind_some, orWord, if_neg (by omega)]
    | succ bits =>
      rw [orBits, ih (by omega)]
      rfl

lemma toNat_bitMask : ∀ bits < 8, ((1 : UInt8) <<< (7 - UInt8.ofNat bits)).toNat = 2 ^ (7 - bits) := by
  decide

/-- The leading bits of a byte are set in the first byte of the block. -/
lemma orBits_zero (byte : UInt8) {bits : ℕ} (hbits : bits ≤ 8) :
    ∃ x : UInt8, orBits 0 byte bits [0, 0] = some [x, 0] ∧
      ∀ j < 8, x.toNat.testBit j = (decide (8 - bits ≤ j) && byte.toNat.testBit j) := by
  induction bits with
  | zero =>
    refine ⟨0, rfl, fun j hj => ?_⟩
    rw [decide_eq_false (by omega), Bool.false_and]
    exact Nat.zero_testBit j
  | succ bits ih =>
    obtain ⟨x, hx, hbit⟩ := ih (by omega)
    refine ⟨x ||| (byte &&& (1 <<< (7 - UInt8.ofNat bits))), ?_, fun j hj => ?_⟩
    · rw [orBits, hx]
      rfl
    · rw [UInt8.toNat_or, UInt8.toNat_and, Nat.testBit_or, Nat.testBit_and, hbit j hj,
        toNat_bitMask bits (by omega), Nat.testBit_two_pow]
      obtain hlt | rfl | hgt := Nat.lt_trichotomy (7 - bits) j
      · rw [decide_eq_true (by omega), decide_eq_false (by omega), decide_eq_true (by omega), Bool.and_false,
          Bool.or_false]
      · rw [decide_eq_false (by omega), decide_eq_true rfl, decide_eq_true (by omega), Bool.and_true,
          Bool.false_and, Bool.false_or, Bool.true_and]
      · rw [decide_eq_false (by omega), decide_eq_false (by omega), decide_eq_false (by omega), Bool.and_false,
          Bool.false_and, Bool.or_false]

lemma rpsi_len (session : FbSession) (pb : UInt8) {block : Bytes} (h : block.length = 2) :
    rtcpPSFBRpsiGetFciBitStringLen (rpsiMessage session pb block) = 16 - pb.toUInt16 := by
  have hlength : (rpsiMessage session pb block).length = 16 := by
    have hcount : (rpsiMessage session pb block).length = block.length + 14 := rfl
    omega
  have hheader : be16At (rpsiMessage session pb block) 2 = 3 := be16At_of_drop 3 rfl
  have hsize : rtcpGetSize (rpsiMessage session pb block) = 16 := by
    rw [rtcpGetSize, hlength, hheader]
    rfl
  have hpb : (rpsiMessage session pb block).getD 12 0 = pb := rfl
  rw [rtcpPSFBRpsiGetFciBitStringLen, hsize, hpb]
  rfl

def GivesBack (s : BitString) (m : Bytes) : Prop :=
  rtcpPSFBRpsiGetFciBitStringLen m = s.len ∧ ∀ i < s.len.toNat, bitAt (rtcpFbRpsiFciGetBitString m) i = bitAt s.bytes i

/-- The length read is not the one of a string of more than 16 bits. -/
lemma rpsi_len_ne {len : UInt16} (h : 16 < len) : 16 - ((len - 16) % 32).toUInt8.toUInt16 ≠ len := by
  have hlt := lt_iff_toNat_lt.1 h
  have h16 : (16 : UInt16).toNat = 16 := rfl
  have h32 : (32 : UInt16).toNat = 32 := rfl
  have hmax := len.toNat_lt
  rw [ne_eq, ← UInt16.toNat_inj, UInt16.toNat_sub, UInt8.toNat_toUInt16, toNat_toUInt8, UInt16.toNat_mod,
    UInt16.toNat_sub, h16, h32]
  omega

variable (session : FbSession) (s : BitString)

/-- What is written of the bytes of a string. -/
def rpsiBlock : Option Bytes :=
  orBits ((s.len.toNat + 7) / 8 - 1) (s.bytes.getD ((s.len.toNat + 7) / 8 - 1) 0) (s.len.toNat % 8)
    (patch (replicate (2 + ((s.len.toNat + 7) / 8 - 2)) 0) 0 (s.bytes.take (s.len.toNat / 8)))

/-- The padding written for a string. -/
def rpsiPadding : UInt16 := if s.len ≤ 16 then 16 - s.len else (s.len - 16) % 32

lemma makeRtcpFbRpsi_eq : makeRtcpFbRpsi session s =
    (rpsiBlock s).map fun block => rpsiMessage session (rpsiPadding s).toUInt8 (block.take 2) := by
  have hceil : s.len.toNat / 8 + (if s.len.toNat % 8 = 0 then 0 else 1) = (s.len.toNat + 7) / 8 := by
    split_ifs with h
    · omega
    · omega
  rw [makeRtcpFbRpsi, hceil, rpsiBlock, rpsiPadding]
  rw [bind_eq_bind, map_eq_bind]
  rfl

lemma length_written : (patch (replicate (2 + ((s.len.toNat + 7) / 8 - 2)) (0 : UInt8)) 0
    (s.bytes.take (s.len.toNat / 8))).length = 2 + ((s.len.toNat + 7) / 8 - 2) := by
  have hbytes := s.length_bytes
  rw [length_patch, length_replicate]
  rw [length_take, length_replicate]
  omega

/-- The last byte of a string that ends inside it is written outside the block, unless it is the first. -/
lemma rpsiBlock_eq_none (hlong : 8 < s.len.toNat) (hinside : s.len.toNat % 8 ≠ 0) : rpsiBlock s = none := by
  have hlength := length_written s
  rw [rpsiBlock, orBits_eq_none _ (by omega) hinside]

/-- A string of whole bytes is copied. -/
lemma rpsiBlock_of_whole (hwhole : s.len.toNat % 8 = 0) :
    rpsiBlock s = some (patch (replicate (2 + ((s.len.toNat + 7) / 8 - 2)) 0) 0
      (s.bytes.take (s.len.toNat / 8))) := by
  rw [rpsiBlock, hwhole, orBits]

/-- The length of a string of at most 16 bits is read back. -/
lemma rpsi_len_eq (h : s.len ≤ 16) : 16 - (rpsiPadding s).toUInt8.toUInt16 = s.len := by
  have hle := le_iff_toNat_le.1 h
  have h16 : (16 : UInt16).toNat = 16 := rfl
  rw [rpsiPadding, if_pos h, ← UInt16.toNat_inj, UInt16.toNat_sub, UInt8.toNat_toUInt16, toNat_toUInt8,
    UInt16.toNat_sub_of_le _ _ h, h16]
  omega

/-- A string of less than 8 bits is given back. -/
lemma givesBack_of_lt (h : s.len.toNat < 8) : ∃ m, makeRtcpFbRpsi session s = some m ∧ GivesBack s m := by
  have h16 : s.len ≤ 16 := le_iff_toNat_le.2 (Nat.le_trans (Nat.le_of_lt h) (by decide))
  obtain ⟨x, hx, hbit⟩ := orBits_zero (s.bytes.getD 0 0) (Nat.le_of_lt (Nat.mod_lt s.len.toNat (by decide : 0 < 8)))
  have hblock : rpsiBlock s = some [x, 0] := by
    have hindex : (s.len.toNat + 7) / 8 - 1 = 0 := by omega
    have hroom : 2 + ((s.len.toNat + 7) / 8 - 2) = 2 := by omega
    have hnone : s.len.toNat / 8 = 0 := by omega
    rw [rpsiBlock, hindex, hroom, hnone]
    exact hx
  refine ⟨_, by rw [makeRtcpFbRpsi_eq, hblock]; rfl, ?_, fun i hi => ?_⟩
  · rw [rpsi_len session _ rfl, rpsi_len_eq s h16]
  · have hfirst : i / 8 = 0 := by omega
    have hbits : s.len.toNat % 8 = s.len.toNat := Nat.mod_eq_of_lt h
    rw [bitAt, bitAt, hfirst]
    change x.toNat.testBit (7 - i % 8) = _
    rw [hbit _ (by omega), hbits, decide_eq_true (by omega), Bool.true_and]

/-- A string of at most two whole bytes is given back. -/
lemma givesBack_of_whole (h : s.len ≤ 16) (hwhole : s.len.toNat % 8 = 0) :
    ∃ m, makeRtcpFbRpsi session s = some m ∧ GivesBack s m := by
  have hle := le_iff_toNat_le.1 h
  have h16 : (16 : UInt16).toNat = 16 := rfl
  have hlength := length_written s
  have hbytes := s.length_bytes
  refine ⟨_, by rw [makeRtcpFbRpsi_eq, rpsiBlock_of_whole s hwhole]; rfl, ?_, fun i hi => ?_⟩
  · rw [rpsi_len session _ (by rw [length_take, hlength]; omega), rpsi_len_eq s h]
  · have hkept : s.bytes.take (s.len.toNat / 8) = s.bytes := take_of_length_le (by omega)
    change bitAt (take 2 (patch _ 0 _)) i = _
    rw [bitAt, bitAt, take_of_length_le (by omega), hkept, patch, take_zero, nil_append, getD_append _ _ _ _ (by omega)]

/-- The bit strings that the message gives back are those of at most 8 bits and those of 16 bits. -/
lemma givesBack_rpsi_iff : (∃ m, makeRtcpFbRpsi session s = some m ∧ GivesBack s m) ↔ s.len ≤ 8 ∨ s.len = 16 := by
  have h8 : (8 : UInt16).toNat = 8 := rfl
  have h16 : (16 : UInt16).toNat = 16 := rfl
  rw [le_iff_toNat_le, ← UInt16.toNat_inj, h8, h16]
  by_cases hshort : s.len.toNat < 8
  · exact iff_of_true (givesBack_of_lt session s hshort) (by omega)
  by_cases hwhole : s.len.toNat % 8 = 0
  · by_cases hle : s.len ≤ 16
    · have hle' := le_iff_toNat_le.1 hle
      exact iff_of_true (givesBack_of_whole session s hle hwhole) (by omega)
    · have hlt := UInt16.not_le.1 hle
      have hlt' := lt_iff_toNat_lt.1 hlt
      have hlength := length_written s
      refine iff_of_false (fun ⟨m, hm, hlen, _⟩ => ?_) (by omega)
      rw [makeRtcpFbRpsi_eq, rpsiBlock_of_whole s hwhole, map_some] at hm
      obtain rfl := some.inj hm
      rw [rpsi_len session _ (by rw [length_take, hlength]; omega), rpsiPadding, if_neg hle] at hlen
      exact rpsi_len_ne hlt hlen
  · refine iff_of_false (fun ⟨m, hm, _⟩ => ?_) (by omega)
    rw [makeRtcpFbRpsi_eq, rpsiBlock_eq_none s (by omega) hwhole] at hm
    cases hm

end bitString

/-- The bitrates read back are those of at most 32 bits, the bit strings given back those of at most 8 bits or
of 16 bits. -/
theorem rtcp_feedback_codecs : (∀ (mxtbr : UInt64) (measuredOverhead : UInt16),
      (∃ m session', makeRtcpFbTmmbr session value mxtbr measuredOverhead = some (m, session') ∧
        ReadsBack 17 mxtbr (rtcpRTPFBTmmbrGetMaxBitrate m)) ↔ mxtbr.toNat < 2 ^ 32) ∧
    (∀ mxtbr : UInt64, ReadsBack 18 mxtbr (rtcpPSFBGoogRembGetMaxBitrate (makeRtcpFbGoogRemb session value mxtbr).1) ↔
        mxtbr.toNat < 2 ^ 32) ∧
    ∀ s : BitString, (∃ m, makeRtcpFbRpsi session s = some m ∧ GivesBack s m) ↔ s.len ≤ 8 ∨ s.len = 16 :=
  ⟨readsBack_tmmbr_iff session value, readsBack_googRemb_iff session value, givesBack_rpsi_iff session⟩

/-- A session that sends feedback. -/
def fbSession : FbSession := ⟨0x11223344, 0x55667788, 96, none, none⟩

/-- A bitrate of 33 bits is read as zero, and a string of three bytes as one of 8 bits. -/
theorem rtcp_feedback_codecs_fails : (∃ m session', makeRtcpFbTmmbr fbSession 0 (2 ^ 32) 0 = some (m, session') ∧
      rtcpRTPFBTmmbrGetMaxBitrate m = some 0) ∧
    rtcpPSFBGoogRembGetMaxBitrate (makeRtcpFbGoogRemb fbSession 0 (2 ^ 32)).1 = some 0 ∧
    (∀ width, 17 ≤ width → ¬ ReadsBack width (2 ^ 32) (some 0)) ∧
    ∃ m, makeRtcpFbRpsi fbSession ⟨24, [1, 2, 3], rfl⟩ = some m ∧ rtcpPSFBRpsiGetFciBitStringLen m = 8 := by
  refine ⟨⟨_, _, rfl, by decide⟩, by decide, fun width hwidth ⟨r, hr, _, hlost⟩ => ?_, ⟨_, rfl, by decide⟩⟩
  have hmax : (2 ^ 32 : UInt64).toNat = 2 ^ 32 := rfl
  have hlt : 2 ^ (33 - width) < 2 ^ 32 := Nat.pow_lt_pow_right (by omega) (by omega)
  obtain rfl := some.inj hr
  rw [hmax, Nat.size_pow] at hlost
  exact absurd (Nat.lt_trans hlost hlt) (Nat.lt_irrefl _)

end Ortp
