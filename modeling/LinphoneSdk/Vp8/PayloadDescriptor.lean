import LinphoneSdk.Lib.Bytes
import LinphoneSdk.Lib.Flags

/-!
# The payload descriptor of VP8

A VP8 packet starts with a descriptor: a mandatory octet, an octet of extension bits, and the
optional fields these bits announce. There is one writer and there are two readers, one that gives
the fields and one that only skips them.
-/

namespace Vp8

open Bytes Flags List Option

structure Vp8RtpFmtPayloadDescriptor where
  pictureid : UInt16 := 0
  pid : UInt8 := 0
  tl0picidx : UInt8 := 0
  tid : UInt8 := 0
  keyidx : UInt8 := 0
  extended_control_bits_present : Bool := false
  non_reference_frame : Bool := false
  start_of_partition : Bool := false
  pictureid_present : Bool := false
  tl0picidx_present : Bool := false
  tid_present : Bool := false
  keyidx_present : Bool := false
  layer_sync : Bool := false
  deriving DecidableEq, Repr

/-- The cursor moves on; a packet that ends there is an invalid one. -/
def proceed : Bytes → Option Bytes
  | [] => none
  | b :: h => some (b :: h)

/-! ### Parsing -/

def mandatoryFields (b : UInt8) : Vp8RtpFmtPayloadDescriptor where
  extended_control_bits_present := flag b 7
  non_reference_frame := flag b 5
  start_of_partition := flag b 4
  pid := b &&& 0x07

def parseMandatory : Bytes → Option (Vp8RtpFmtPayloadDescriptor × Bytes)
  | [] => none
  | b :: h => do
    let h ← proceed h
    return (mandatoryFields b, h)

variable (pd : Vp8RtpFmtPayloadDescriptor)

/-- Parse the first extension octet if needed. -/
def parseExtension (h : Bytes) : Option (Vp8RtpFmtPayloadDescriptor × Bytes) :=
  if pd.extended_control_bits_present then
    match h with
    | [] => none
    | b :: h =>
      if flag b 6 && !flag b 5 then none
      else do
        let h ← proceed h
        return ({ pd with
                    pictureid_present := flag b 7
                    tl0picidx_present := flag b 6
                    tid_present := flag b 5
                    keyidx_present := flag b 4 }, h)
  else some (pd, h)

/-- Parse the pictureID if needed: two octets when the first bit is set. -/
def parsePictureID (h : Bytes) : Option (Vp8RtpFmtPayloadDescriptor × Bytes) :=
  if pd.pictureid_present then
    match h with
    | [] => none
    | b :: h =>
      if flag b 7 then
        match h with
        | [] => none
        | c :: h => do
          let h ← proceed h
          return ({ pd with pictureid := word16 b c }, h)
      else do
        let h ← proceed h
        return ({ pd with pictureid := b.toUInt16 }, h)
  else some (pd, h)

def parseTl0picidx (h : Bytes) : Option (Vp8RtpFmtPayloadDescriptor × Bytes) :=
  if pd.tl0picidx_present then
    match h with
    | [] => none
    | b :: h => do
      let h ← proceed h
      return ({ pd with tl0picidx := b }, h)
  else some (pd, h)

def parseTidKeyidx (h : Bytes) : Option (Vp8RtpFmtPayloadDescriptor × Bytes) :=
  if pd.tid_present || pd.keyidx_present then
    match h with
    | [] => none
    | b :: h => do
      let h ← proceed h
      return ({ pd with
                  tid := if pd.tid_present then (b &&& 0xC0) >>> 6 else pd.tid
                  layer_sync := if pd.tid_present then flag b 5 else pd.layer_sync
                  keyidx := if pd.keyidx_present then b &&& 0x1F else pd.keyidx }, h)
  else some (pd, h)

/-- The fields and the bytes after the descriptor; `none` is `Vp8RtpFmtInvalidPayloadDescriptor`. -/
def parsePayloadDescriptor (h : Bytes) : Option (Vp8RtpFmtPayloadDescriptor × Bytes) := do
  let (pd, h) ← parseMandatory h
  let (pd, h) ← parseExtension pd h
  let (pd, h) ← parsePictureID pd h
  let (pd, h) ← parseTl0picidx pd h
  parseTidKeyidx pd h

/-! ### Skipping -/

/-- The optional fields that the extension octet announces. -/
structure Optionals where
  pictureid_present : Bool := false
  tl0picidx_present : Bool := false
  tid_present : Bool := false
  keyidx_present : Bool := false

def skipExtension (extended_control_bits_present : Bool) (h : Bytes) : Option (Optionals × Bytes) :=
  if extended_control_bits_present then
    match h with
    | [] => none
    | b :: h =>
      if flag b 6 && !flag b 5 then none
      else do
        let h ← proceed h
        return ({ pictureid_present := flag b 7
                  tl0picidx_present := flag b 6
                  tid_present := flag b 5
                  keyidx_present := flag b 4 }, h)
  else some ({}, h)

def skipPictureID (pictureid_present : Bool) (h : Bytes) : Option Bytes :=
  if pictureid_present then
    match h with
    | [] => none
    | b :: h =>
      if flag b 7 then
        match h with
        | [] => none
        | _ :: h => proceed h
      else proceed h
  else some h

def skipOctet (present : Bool) (h : Bytes) : Option Bytes :=
  if present then
    match h with
    | [] => none
    | _ :: h => proceed h
  else some h

def vp8rtpfmtSkipPayloadDescriptor : Bytes → Option Bytes
  | [] => none
  | b :: h => do
    let h ← proceed h
    let (optionals, h) ← skipExtension (flag b 7) h
    let h ← skipPictureID optionals.pictureid_present h
    let h ← skipOctet optionals.tl0picidx_present h
    skipOctet (optionals.tid_present || optionals.keyidx_present) h

/-! ### Writing -/

namespace Vp8RtpFmtPayloadDescriptor

variable (pd : Vp8RtpFmtPayloadDescriptor)

/-- The size `packer_process_frame_part` allocates for the descriptor. -/
def pdsize : ℕ :=
  1 + (if pd.extended_control_bits_present then 1 else 0) +
    (if pd.pictureid_present then if pd.pictureid &&& 0x8000 != 0 then 2 else 1 else 0) +
    (if pd.tl0picidx_present then 1 else 0) + (if pd.tid_present || pd.keyidx_present then 1 else 0)

def mandatoryOctet (first : Bool) : UInt8 :=
  bit pd.extended_control_bits_present 7 ||| bit pd.non_reference_frame 5 |||
    bit (pd.start_of_partition && first) 4 ||| pd.pid &&& 0x07

def extensionOctets : Bytes :=
  if pd.extended_control_bits_present then
    [bit pd.pictureid_present 7 ||| bit pd.tl0picidx_present 6 ||| bit pd.tid_present 5 ||| bit pd.keyidx_present 4]
  else []

/-- Fill the pictureID field. -/
def pictureIDOctets : Bytes :=
  if pd.pictureid_present then
    (if pd.pictureid &&& 0x8000 != 0 then [(pd.pictureid >>> 8).toUInt8] else []) ++ [pd.pictureid.toUInt8]
  else []

def tl0picidxOctets : Bytes :=
  if pd.tl0picidx_present then [pd.tl0picidx] else []

/-- The tid is masked where it stands, and not moved to the two bits it is read from. -/
def tidKeyidxOctets : Bytes :=
  if pd.tid_present || pd.keyidx_present then
    [(if pd.tid_present then pd.tid &&& 0xC0 ||| bit pd.layer_sync 5 else 0) |||
      if pd.keyidx_present then pd.keyidx &&& 0x1F else 0]
  else []

/-- The octets `packer_process_frame_part` writes in front of each slice. -/
def octets (first : Bool) : Bytes :=
  pd.mandatoryOctet first ::
    (pd.extensionOctets ++ (pd.pictureIDOctets ++ (pd.tl0picidxOctets ++ pd.tidKeyidxOctets)))

end Vp8RtpFmtPayloadDescriptor

/-! ### The two readers -/

lemma proceed_of_ne_nil {h : Bytes} (hne : h ≠ []) : proceed h = some h := by
  cases h with
  | nil => exact absurd rfl hne
  | cons b h => rfl

def Vp8RtpFmtPayloadDescriptor.optionals : Optionals where
  pictureid_present := pd.pictureid_present
  tl0picidx_present := pd.tl0picidx_present
  tid_present := pd.tid_present
  keyidx_present := pd.keyidx_present

section readers

lemma skipExtension_eq (pd : Vp8RtpFmtPayloadDescriptor) (h : Bytes) (hpd : pd.optionals = {}) :
    skipExtension pd.extended_control_bits_present h =
      (parseExtension pd h).map fun (pd, h) => (pd.optionals, h) := by
  unfold skipExtension parseExtension
  split
  · rcases h with _ | ⟨b, _ | ⟨c, h⟩⟩
    · rfl
    all_goals
      dsimp only
      split_ifs <;> rfl
  · rw [← hpd, map_some]

variable {pd : Vp8RtpFmtPayloadDescriptor} (h : Bytes)

lemma skipPictureID_eq : skipPictureID pd.pictureid_present h = (parsePictureID pd h).map Prod.snd := by
  unfold skipPictureID parsePictureID
  split
  · rcases h with _ | ⟨b, _ | ⟨c, _ | ⟨d, h⟩⟩⟩
    · rfl
    all_goals
      dsimp only
      split_ifs <;> rfl
  · rfl

lemma skipOctet_tl0picidx : skipOctet pd.tl0picidx_present h = (parseTl0picidx pd h).map Prod.snd := by
  unfold skipOctet parseTl0picidx
  split
  · rcases h with _ | ⟨b, _ | ⟨c, h⟩⟩ <;> rfl
  · rfl

lemma skipOctet_tidKeyidx : skipOctet (pd.tid_present || pd.keyidx_present) h = (parseTidKeyidx pd h).map Prod.snd := by
  unfold skipOctet parseTidKeyidx
  split
  · rcases h with _ | ⟨b, _ | ⟨c, h⟩⟩ <;> rfl
  · rfl

variable {h} {h' : Bytes} {pd' : Vp8RtpFmtPayloadDescriptor}

lemma optionals_of_parsePictureID (heq : parsePictureID pd h = some (pd', h')) : pd'.optionals = pd.optionals := by
  unfold parsePictureID at heq
  split at heq
  · rcases h with _ | ⟨b, _ | ⟨c, _ | ⟨d, h⟩⟩⟩
    · cases heq
    all_goals
      dsimp only at heq
      split_ifs at heq <;> cases heq <;> rfl
  · cases heq
    rfl

lemma optionals_of_parseTl0picidx (heq : parseTl0picidx pd h = some (pd', h')) : pd'.optionals = pd.optionals := by
  unfold parseTl0picidx at heq
  split at heq
  · rcases h with _ | ⟨b, _ | ⟨c, h⟩⟩ <;> cases heq
    rfl
  · cases heq
    rfl

end readers

/-- Whatever the packet is, both readers consume the same bytes, and refuse the same packets. -/
theorem skip_eq_parse (h : Bytes) : vp8rtpfmtSkipPayloadDescriptor h = (parsePayloadDescriptor h).map Prod.snd := by
  rcases h with _ | ⟨b, _ | ⟨c, h⟩⟩
  · rfl
  · rfl
  simp only [vp8rtpfmtSkipPayloadDescriptor, parsePayloadDescriptor, parseMandatory, proceed, Option.bind_eq_bind,
    Option.bind_some, Option.pure_def]
  have hextension : skipExtension (flag b 7) (c :: h) =
      (parseExtension (mandatoryFields b) (c :: h)).map fun (pd, h) => (pd.optionals, h) :=
    skipExtension_eq (mandatoryFields b) (c :: h) rfl
  rw [hextension]
  cases parseExtension (mandatoryFields b) (c :: h) with
  | none => rfl
  | some r =>
    obtain ⟨pd, h⟩ := r
    simp only [Option.map_some, Option.bind_some]
    have hpictureID : skipPictureID pd.optionals.pictureid_present h = _ := skipPictureID_eq h
    rw [hpictureID]
    cases heq : parsePictureID pd h with
    | none => rfl
    | some r =>
      obtain ⟨pd', h'⟩ := r
      simp only [Option.map_some, Option.bind_some]
      have htl0picidx : skipOctet pd'.optionals.tl0picidx_present h' = _ := skipOctet_tl0picidx h'
      rw [← optionals_of_parsePictureID heq, htl0picidx]
      cases heq' : parseTl0picidx pd' h' with
      | none => rfl
      | some r =>
        simp only [Option.map_some, Option.bind_some]
        rw [← optionals_of_parseTl0picidx heq']
        exact skipOctet_tidKeyidx r.2

/-! ### Reading back what was written -/

namespace Vp8RtpFmtPayloadDescriptor

variable (pd : Vp8RtpFmtPayloadDescriptor) (first : Bool)

/-- The fields that are written: the optional ones when they are present, and the start of a partition
in the first packet of the part. -/
def written : Vp8RtpFmtPayloadDescriptor :=
  { pd with
      pictureid := if pd.pictureid_present then pd.pictureid else 0
      tl0picidx := if pd.tl0picidx_present then pd.tl0picidx else 0
      tid := if pd.tid_present then pd.tid else 0
      keyidx := if pd.keyidx_present then pd.keyidx else 0
      layer_sync := pd.tid_present && pd.layer_sync
      start_of_partition := pd.start_of_partition && first }

/-- The fields that are read back. -/
def received : Vp8RtpFmtPayloadDescriptor :=
  { pd.written first with
      pid := pd.pid &&& 0x07
      tid := if pd.tid_present then (pd.tid &&& 0xC0) >>> 6 else 0
      keyidx := if pd.keyidx_present then pd.keyidx &&& 0x1F else 0 }

/-- The optional fields are announced, and the pictureID has 7 bits, or 15 and the bit in front. -/
structure Framed (pd : Vp8RtpFmtPayloadDescriptor) : Prop where
  extended : pd.extended_control_bits_present = false → pd.optionals = {}
  tl0picidx : pd.tl0picidx_present = true → pd.tid_present = true
  pictureid : pd.pictureid_present = true → pd.pictureid < 128 ∨ 0x8000 ≤ pd.pictureid

lemma length_octets : (pd.octets first).length = pd.pdsize := by
  simp only [octets, pdsize, extensionOctets, pictureIDOctets, tl0picidxOctets, tidKeyidxOctets, length_cons,
    length_append]
  split_ifs <;> rfl

end Vp8RtpFmtPayloadDescriptor

section octets

open Vp8RtpFmtPayloadDescriptor

variable {pd pd' : Vp8RtpFmtPayloadDescriptor} {h : Bytes}

lemma mandatoryFields_mandatoryOctet (pd : Vp8RtpFmtPayloadDescriptor) (first : Bool) :
    mandatoryFields (pd.mandatoryOctet first) =
      { extended_control_bits_present := pd.extended_control_bits_present
        non_reference_frame := pd.non_reference_frame
        start_of_partition := pd.start_of_partition && first
        pid := pd.pid &&& 0x07 } := by
  have hpid : (pd.pid &&& 0x07) &&& 0x07 = pd.pid &&& 0x07 := by rw [UInt8.and_assoc, UInt8.and_self]
  rw [mandatoryFields, mandatoryOctet]
  simp (disch := decide) only [flag_or, flag_bit_self, flag_bit_of_ne, flag_and, or_and_mask, bit_and, hpid,
    Bool.or_false, Bool.false_or, UInt8.zero_or]

lemma parseMandatory_octet (first : Bool) (hne : h ≠ []) :
    parseMandatory (pd.mandatoryOctet first :: h) = some (mandatoryFields (pd.mandatoryOctet first), h) := by
  rw [parseMandatory, proceed_of_ne_nil hne]
  rfl

lemma parseExtension_octets (hframed : pd.Framed)
    (heq : pd'.extended_control_bits_present = pd.extended_control_bits_present)
    (hoptionals : pd'.optionals = {}) (hne : h ≠ []) :
    parseExtension pd' (pd.extensionOctets ++ h) =
      some ({ pd' with
                pictureid_present := pd.pictureid_present
                tl0picidx_present := pd.tl0picidx_present
                tid_present := pd.tid_present
                keyidx_present := pd.keyidx_present }, h) := by
  unfold parseExtension extensionOctets
  cases hX : pd.extended_control_bits_present with
  | false =>
    rw [hX] at heq
    have habsent := hframed.extended hX
    rw [← hoptionals] at habsent
    simp only [optionals, Optionals.mk.injEq] at habsent
    obtain ⟨hpictureid, htl0picidx, htid, hkeyidx⟩ := habsent
    rw [if_neg (ne_true_of_eq_false heq), hpictureid, htl0picidx, htid, hkeyidx]
    rfl
  | true =>
    rw [hX] at heq
    have hflags (x l t k : Bool) : flag (bit x 7 ||| bit l 6 ||| bit t 5 ||| bit k 4) 7 = x ∧
        flag (bit x 7 ||| bit l 6 ||| bit t 5 ||| bit k 4) 6 = l ∧
        flag (bit x 7 ||| bit l 6 ||| bit t 5 ||| bit k 4) 5 = t ∧
        flag (bit x 7 ||| bit l 6 ||| bit t 5 ||| bit k 4) 4 = k := by
      simp (disch := decide) only [flag_or, flag_bit_self, flag_bit_of_ne, Bool.or_false, Bool.false_or, and_self]
    obtain ⟨hpictureid, htl0picidx, htid, hkeyidx⟩ :=
      hflags pd.pictureid_present pd.tl0picidx_present pd.tid_present pd.keyidx_present
    have hvalid : ¬ (pd.tl0picidx_present && !pd.tid_present) = true := by
      simpa using hframed.tl0picidx
    simp only [if_pos heq, if_true, singleton_append, hpictureid, htl0picidx, htid, hkeyidx, if_neg hvalid,
      proceed_of_ne_nil hne]
    rfl

lemma longPictureID (pd : Vp8RtpFmtPayloadDescriptor) :
    (pd.pictureid &&& 0x8000 != 0) = true ↔ 0x8000 ≤ pd.pictureid := by
  rw [bne_iff_ne, ne_eq, ← UInt16.toNat_inj, UInt16.toNat_and]
  exact and_top_ne_zero (k := 15) pd.pictureid.toNat_lt

lemma toNat_highOctet (x : UInt16) : (x >>> 8).toUInt8.toNat = x.toNat / 256 := by
  have hlt := x.toNat_lt
  have hdiv : x.toNat / 2 ^ 8 < 2 ^ 8 := by omega
  rw [UInt16.toNat_toUInt8, UInt16.toNat_shiftRight, Nat.shiftRight_eq_div_pow]
  exact Nat.mod_eq_of_lt hdiv

lemma parsePictureID_octets (hframed : pd.Framed) (heq : pd'.pictureid_present = pd.pictureid_present)
    (hzero : pd'.pictureid = 0) (hne : h ≠ []) :
    parsePictureID pd' (pd.pictureIDOctets ++ h) =
      some ({ pd' with pictureid := if pd.pictureid_present then pd.pictureid else 0 }, h) := by
  unfold parsePictureID pictureIDOctets
  cases hpresent : pd.pictureid_present with
  | false =>
    rw [hpresent] at heq
    rw [if_neg (ne_true_of_eq_false heq), if_neg Bool.false_ne_true, if_neg Bool.false_ne_true, ← hzero]
    rfl
  | true =>
    rw [if_pos (heq.trans hpresent)]
    rcases hframed.pictureid hpresent with hlt | hle
    · -- the pictureID has one octet
      have hshort := mt (longPictureID pd).mp (UInt16.not_le.mpr (UInt16.lt_trans hlt (by decide)))
      have hflag : ¬ flag pd.pictureid.toUInt8 7 = true := by
        rw [flag_seven, UInt8.not_le, UInt8.lt_iff_toNat_lt, UInt16.toNat_toUInt8]
        rw [UInt16.lt_iff_toNat_lt] at hlt
        exact (Nat.mod_le _ _).trans_lt hlt
      have hvalue : pd.pictureid.toUInt8.toUInt16 = pd.pictureid := by
        rw [UInt16.lt_iff_toNat_lt] at hlt
        rw [← UInt16.toNat_inj, UInt8.toNat_toUInt16, UInt16.toNat_toUInt8]
        exact Nat.mod_eq_of_lt (hlt.trans (by decide))
      simp only [if_true, if_neg hshort, nil_append, singleton_append, if_neg hflag,
        proceed_of_ne_nil hne, hvalue]
      rfl
    · have hlong := (longPictureID pd).mpr hle
      have hflag : flag (pd.pictureid >>> 8).toUInt8 7 = true := by
        rw [UInt16.le_iff_toNat_le] at hle
        rw [flag_seven, UInt8.le_iff_toNat_le, toNat_highOctet]
        exact Nat.div_le_div_right (c := 256) hle
      simp only [if_true, if_pos hlong, cons_append, nil_append, if_pos hflag,
        proceed_of_ne_nil hne, word16_be16]
      rfl

lemma parseTl0picidx_octets (heq : pd'.tl0picidx_present = pd.tl0picidx_present) (hzero : pd'.tl0picidx = 0)
    (hne : h ≠ []) :
    parseTl0picidx pd' (pd.tl0picidxOctets ++ h) =
      some ({ pd' with tl0picidx := if pd.tl0picidx_present then pd.tl0picidx else 0 }, h) := by
  unfold parseTl0picidx tl0picidxOctets
  cases hpresent : pd.tl0picidx_present with
  | false =>
    rw [hpresent] at heq
    rw [if_neg (ne_true_of_eq_false heq), if_neg Bool.false_ne_true, if_neg Bool.false_ne_true, ← hzero]
    rfl
  | true =>
    simp only [if_pos (heq.trans hpresent), if_true, singleton_append, proceed_of_ne_nil hne]
    rfl

lemma parseTidKeyidx_octets (htid : pd'.tid_present = pd.tid_present) (hkeyidx : pd'.keyidx_present = pd.keyidx_present)
    (hzero : pd'.tid = 0 ∧ pd'.keyidx = 0 ∧ pd'.layer_sync = false) (hne : h ≠ []) :
    parseTidKeyidx pd' (pd.tidKeyidxOctets ++ h) =
      some ({ pd' with
                tid := if pd.tid_present then (pd.tid &&& 0xC0) >>> 6 else 0
                layer_sync := pd.tid_present && pd.layer_sync
                keyidx := if pd.keyidx_present then pd.keyidx &&& 0x1F else 0 }, h) := by
  cases pd'
  obtain ⟨rfl, rfl, rfl⟩ := hzero
  subst htid hkeyidx
  have hmask (x : UInt8) : (x &&& 0x1F) &&& 0xC0 = 0 := by rw [UInt8.and_assoc]; exact UInt8.and_zero
  have hmask' (x : UInt8) : (x &&& 0xC0) &&& 0x1F = 0 := by rw [UInt8.and_assoc]; exact UInt8.and_zero
  have htwice (x m : UInt8) : (x &&& m) &&& m = x &&& m := by rw [UInt8.and_assoc, UInt8.and_self]
  unfold parseTidKeyidx tidKeyidxOctets
  cases pd.tid_present with
  | false =>
    cases pd.keyidx_present with
    | false => rfl
    | true => simp [proceed_of_ne_nil hne, htwice]
  | true =>
    cases pd.keyidx_present with
    | false => simp (disch := decide) [proceed_of_ne_nil hne, htwice, or_and_mask, bit_and, flag_and, flag_bit_self]
    | true =>
      simp (disch := decide) [proceed_of_ne_nil hne, htwice, hmask, hmask', or_and_mask, bit_and, flag_and,
        flag_bit_self]

/-- The descriptor in front of a payload is read back, with the masks and shifts of the reader. -/
lemma parse_octets (hframed : pd.Framed) (first : Bool) (hne : h ≠ []) :
    parsePayloadDescriptor (pd.octets first ++ h) = some (pd.received first, h) := by
  have h4 : pd.tidKeyidxOctets ++ h ≠ [] := append_ne_nil_of_right_ne_nil _ hne
  have h3 : pd.tl0picidxOctets ++ (pd.tidKeyidxOctets ++ h) ≠ [] := append_ne_nil_of_right_ne_nil _ h4
  have h2 : pd.pictureIDOctets ++ (pd.tl0picidxOctets ++ (pd.tidKeyidxOctets ++ h)) ≠ [] :=
    append_ne_nil_of_right_ne_nil _ h3
  have h1 := append_ne_nil_of_right_ne_nil pd.extensionOctets h2
  rw [parsePayloadDescriptor, octets, cons_append, append_assoc, append_assoc, append_assoc,
    parseMandatory_octet first h1, mandatoryFields_mandatoryOctet]
  simp only [bind_eq_bind, bind_some]
  refine bind_eq_some_iff.mpr ⟨_, parseExtension_octets hframed rfl rfl h2, ?_⟩
  refine bind_eq_some_iff.mpr ⟨_, parsePictureID_octets hframed rfl rfl h3, ?_⟩
  refine bind_eq_some_iff.mpr ⟨_, parseTl0picidx_octets rfl rfl h4, ?_⟩
  exact parseTidKeyidx_octets rfl rfl ⟨rfl, rfl, rfl⟩ hne

end octets

/-! ### What the reader can give -/

section reader

variable {pd pd' : Vp8RtpFmtPayloadDescriptor} {b : UInt8} {h h' : Bytes}

lemma of_parseExtension (heq : parseExtension pd h = some (pd', h')) (hoptionals : pd.optionals = {}) :
    pd'.pid = pd.pid ∧ pd'.keyidx = pd.keyidx ∧ (pd'.extended_control_bits_present = false → pd'.optionals = {}) ∧
      (pd'.tl0picidx_present = true → pd'.tid_present = true) := by
  unfold parseExtension at heq
  split at heq
  · rcases h with _ | ⟨b, _ | ⟨c, h⟩⟩
    · cases heq
    all_goals
      dsimp only at heq
      split_ifs at heq with hvalid
      cases heq
    rename_i hX
    exact ⟨rfl, rfl, fun hX' => absurd hX (ne_true_of_eq_false hX'), by simpa using hvalid⟩
  · cases heq
    refine ⟨rfl, rfl, fun _ => hoptionals, fun hpresent => absurd hpresent ?_⟩
    exact ne_true_of_eq_false (congrArg Optionals.tl0picidx_present hoptionals)

lemma of_parsePictureID (heq : parsePictureID pd h = some (pd', h')) :
    pd' = { pd with pictureid := pd'.pictureid } ∧
      (pd'.pictureid_present = true → pd'.pictureid < 128 ∨ 0x8000 ≤ pd'.pictureid) := by
  unfold parsePictureID at heq
  split at heq
  · rcases h with _ | ⟨b, h⟩
    · cases heq
    dsimp only at heq
    split_ifs at heq with hflag
    · -- two octets, and the first of them from 0x80 on
      rcases h with _ | ⟨c, _ | ⟨d, h⟩⟩
      · cases heq
      · cases heq
      cases heq
      refine ⟨rfl, fun _ => Or.inr ?_⟩
      rw [flag_seven, UInt8.le_iff_toNat_le] at hflag
      rw [UInt16.le_iff_toNat_le, word16_toNat]
      exact (Nat.mul_le_mul_right 256 hflag).trans (Nat.le_add_right _ _)
    · rcases h with _ | ⟨c, h⟩
      · cases heq
      cases heq
      refine ⟨rfl, fun _ => Or.inl ?_⟩
      rw [flag_seven, UInt8.not_le, UInt8.lt_iff_toNat_lt] at hflag
      rw [UInt16.lt_iff_toNat_lt, UInt8.toNat_toUInt16]
      exact hflag
  · cases heq
    exact ⟨rfl, fun hpresent => absurd hpresent ‹_›⟩

lemma of_parseTl0picidx (heq : parseTl0picidx pd h = some (pd', h')) :
    pd' = { pd with tl0picidx := pd'.tl0picidx } := by
  unfold parseTl0picidx at heq
  split at heq
  · rcases h with _ | ⟨b, _ | ⟨c, h⟩⟩ <;> cases heq
    rfl
  · cases heq
    rfl

lemma of_parseTidKeyidx (heq : parseTidKeyidx pd h = some (pd', h')) (hkeyidx : pd.keyidx < 32) :
    pd' = { pd with tid := pd'.tid, layer_sync := pd'.layer_sync, keyidx := pd'.keyidx } ∧ pd'.keyidx < 32 := by
  unfold parseTidKeyidx at heq
  split at heq
  · rcases h with _ | ⟨b, _ | ⟨c, h⟩⟩ <;> cases heq
    refine ⟨rfl, ?_⟩
    dsimp only
    split_ifs
    · exact mask_lt b (by decide)
    · exact hkeyidx
  · cases heq
    exact ⟨rfl, hkeyidx⟩

/-- Whatever the packet is, the fields that are read are framed, and two of them are masked. -/
theorem of_parse (heq : parsePayloadDescriptor h = some (pd, h')) : pd.Framed ∧ pd.pid < 8 ∧ pd.keyidx < 32 := by
  simp only [parsePayloadDescriptor, bind_eq_bind, bind_eq_some_iff] at heq
  obtain ⟨⟨pd1, h1⟩, heq1, ⟨pd2, h2⟩, heq2, ⟨pd3, h3⟩, heq3, ⟨pd4, h4⟩, heq4, heq5⟩ := heq
  obtain ⟨hpid1, hkeyidx1, hoptionals⟩ : pd1.pid < 8 ∧ pd1.keyidx = 0 ∧ pd1.optionals = {} := by
    rcases h with _ | ⟨b, _ | ⟨c, h⟩⟩ <;> cases heq1
    exact ⟨mask_lt b (by decide), rfl, rfl⟩
  obtain ⟨hpid2, hkeyidx2, hextended, htl0picidx⟩ := of_parseExtension heq2 hoptionals
  obtain ⟨hpd3, hpictureid⟩ := of_parsePictureID heq3
  have hpd4 := of_parseTl0picidx heq4
  have hkeyidx4 : pd4.keyidx < 32 := by
    rw [hpd4, hpd3]
    simp only
    rw [hkeyidx2, hkeyidx1]
    decide
  obtain ⟨hpd5, hkeyidx5⟩ := of_parseTidKeyidx heq5 hkeyidx4
  refine ⟨⟨?_, ?_, ?_⟩, ?_, hkeyidx5⟩
  · rw [hpd5, hpd4, hpd3]
    exact hextended
  · rw [hpd5, hpd4, hpd3]
    exact htl0picidx
  · rw [hpd5, hpd4]
    exact hpictureid
  · rw [hpd5, hpd4, hpd3]
    simp only
    rwa [hpid2]

end reader

end Vp8
