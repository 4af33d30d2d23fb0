import Mathlib.Algebra.BigOperators.Ring.List
import Mathlib.Algebra.Ring.Nat
import LinphoneSdk.Lib.Chunks
import LinphoneSdk.Ortp.Msg

/-!
# Source descriptions

The SDES packets of RTCP. A packet has one chunk for each source, with the texts that describe it, padded
to a multiple of 4 bytes. The writer computes the padding from the end of the block that it writes in, the
reader from the position in the packet.
-/

namespace Ortp

open Bytes Chunks List Nat

/-! ### Writing -/

def RTCP_SDES : UInt8 := 202

def RTCP_SDES_END : UInt8 := 0
def RTCP_SDES_CNAME : UInt8 := 1
def RTCP_SDES_NAME : UInt8 := 2
def RTCP_SDES_EMAIL : UInt8 := 3
def RTCP_SDES_PHONE : UInt8 := 4
def RTCP_SDES_LOC : UInt8 := 5
def RTCP_SDES_TOOL : UInt8 := 6
def RTCP_SDES_NOTE : UInt8 := 7
def RTCP_SDES_MID : UInt8 := 10

def RTCP_SDES_MAX_STRING_SIZE : ℕ := 255
def RTCP_SDES_CHUNK_DEFAULT_SIZE : ℕ := 1024

/-- The bytes of a C string, without the final zero. -/
abbrev CString : Type := Bytes

/-- A chunk that is written: the blocks that are full, and the one that items are appended to. -/
structure Chunk where
  full : Msg
  last : Mblk

def Chunk.msg (m : Chunk) : Msg := m.full ++ [m.last]

def Chunk.appendb (m : Chunk) (data : Bytes) (pad : Bool) : Chunk :=
  match Ortp.appendb m.last data pad with
  | (mp, none) => { m with last := mp }
  | (mp, some last) => ⟨m.full ++ [mp], last⟩

def sdesChunkNew (ssrc : UInt32) : Chunk :=
  ⟨[], (allocb RTCP_SDES_CHUNK_DEFAULT_SIZE).write (be32 ssrc)⟩

def sdesChunkAppendItem (m : Chunk) (sdesType : UInt8) : Option CString → Chunk
  | none => m
  | some content =>
    let len := min content.length RTCP_SDES_MAX_STRING_SIZE
    (m.appendb [sdesType, len.toUInt8] false).appendb (content.take len) false

def sdesChunkPad (m : Chunk) : Chunk := m.appendb [0] true

def unknownCname : CString := [0x55, 0x6e, 0x6b, 0x6e, 0x6f, 0x77, 0x6e]

def sdesChunkSetMinimalItems (m : Chunk) (cname : Option CString) : Chunk :=
  sdesChunkAppendItem m RTCP_SDES_CNAME (some (cname.getD unknownCname))

structure RtcpSdesItems where
  cname : Option CString
  name : Option CString
  email : Option CString
  phone : Option CString
  loc : Option CString
  tool : Option CString
  note : Option CString

def sdesChunkSetFullItems (m : Chunk) (items : RtcpSdesItems) (mid : Option CString) : Chunk :=
  let m := sdesChunkSetMinimalItems m items.cname
  let m := sdesChunkAppendItem m RTCP_SDES_NAME items.name
  let m := sdesChunkAppendItem m RTCP_SDES_EMAIL items.email
  let m := sdesChunkAppendItem m RTCP_SDES_PHONE items.phone
  let m := sdesChunkAppendItem m RTCP_SDES_LOC items.loc
  let m := sdesChunkAppendItem m RTCP_SDES_TOOL items.tool
  let m := sdesChunkAppendItem m RTCP_SDES_NOTE items.note
  let m := sdesChunkAppendItem m RTCP_SDES_MID mid
  sdesChunkPad m

/-- What a session says of its sources. It is created with a CNAME, and `rtp_session_set_source_description` takes the
length of the new one. -/
structure SdesSession where
  ssrc : UInt32
  sdesItems : RtcpSdesItems
  cname_isSome : sdesItems.cname.isSome
  mid : Option CString
  contributingSources : List Msg

variable (session : SdesSession)

def rtpSessionMakeSdes (minimal : Bool) : Msg :=
  let chunk := sdesChunkNew session.ssrc
  if minimal then
    let m := sdesChunkSetMinimalItems chunk session.sdesItems.cname
    (sdesChunkPad (sdesChunkAppendItem m RTCP_SDES_MID session.mid)).msg
  else (sdesChunkSetFullItems chunk session.sdesItems session.mid).msg

def rtpSessionAddContributingSource (csrc : UInt32) (items : RtcpSdesItems) : SdesSession :=
  let chunk := sdesChunkSetFullItems (sdesChunkNew csrc) items session.mid
  { session with contributingSources := session.contributingSources ++ [chunk.msg] }

def rtcpCommonHeader (type : UInt8) (rc bytesLen : ℕ) : Bytes :=
  [(2 : UInt8) <<< 6 ||| (rc.toUInt8 &&& 0x1F), type] ++ be16 (bytesLen / 4 - 1).toUInt16

def RTCP_COMMON_HEADER_SIZE : ℕ := 4

/-- The header is filled in once its message is complete. -/
def rtpSessionCreateRtcpSdesPacket (full : Bool) : Msg :=
  let sdes := rtpSessionMakeSdes session (!full)
  let sources := if full then session.contributingSources else []
  let m := sdes ++ sources.flatten
  let header := rtcpCommonHeader RTCP_SDES (1 + sources.length) (RTCP_COMMON_HEADER_SIZE + msgdsize m)
  (allocb RTCP_COMMON_HEADER_SIZE).write header :: m

/-! ### Reading -/

/-- What the callback is called with. -/
structure SdesItem where
  ssrc : UInt32
  type : UInt8
  content : Bytes
deriving DecidableEq

def rtcpCommonHeaderGetRc (m : Bytes) : ℕ := (m.getD 0 0 &&& 0x1F).toNat

def rtcpCommonHeaderGetLength (m : Bytes) : ℕ := (be16At m 2).toNat

/-- The loop of `rtcp_sdes_parse`, from `rptr` to `fin`, on a packet that is aligned. -/
def sdesLoop (m : Bytes) (fin rc rptr : ℕ) (chunkStart : Bool) (ssrc : UInt32) (nchunk : ℕ) : List SdesItem :=
  if rptr < fin then
    if chunkStart then
      if rptr + 4 ≤ fin then sdesLoop m fin rc (rptr + 4) false (be32At m rptr) nchunk
      else []
    else if rptr + 2 ≤ fin then
      let type := m.getD rptr 0
      let len := (m.getD (rptr + 1) 0).toNat
      if type = RTCP_SDES_END then
        -- pad to the next boundary of 32 bits
        if nchunk + 1 < rc then sdesLoop m fin rc ((rptr + 4) / 4 * 4) true ssrc (nchunk + 1) else []
      else if rptr + 2 + len ≤ fin then
        ⟨ssrc, type, segment m (rptr + 2) len⟩ :: sdesLoop m fin rc (rptr + 2 + len) false ssrc nchunk
      else []
    else []
  else []
termination_by fin - rptr

/-- The end is counted from the end of the header, and not from its start. -/
def rtcpSdesParse (m : Bytes) : List SdesItem :=
  let rptr := RTCP_COMMON_HEADER_SIZE
  sdesLoop m (min (rptr + 4 * (rtcpCommonHeaderGetLength m + 1)) m.length) (rtcpCommonHeaderGetRc m) rptr
    true 0 0

/-! ### Chunks -/

structure SdesSource where
  ssrc : UInt32
  texts : List (UInt8 × CString)

def fullTexts (items : RtcpSdesItems) (mid : Option CString) : List (UInt8 × CString) :=
  (RTCP_SDES_CNAME, items.cname.getD unknownCname) ::
    [(RTCP_SDES_NAME, items.name), (RTCP_SDES_EMAIL, items.email), (RTCP_SDES_PHONE, items.phone),
      (RTCP_SDES_LOC, items.loc), (RTCP_SDES_TOOL, items.tool), (RTCP_SDES_NOTE, items.note),
      (RTCP_SDES_MID, mid)].filterMap fun item => item.2.map (item.1, ·)

def minimalTexts (items : RtcpSdesItems) (mid : Option CString) : List (UInt8 × CString) :=
  (RTCP_SDES_CNAME, items.cname.getD unknownCname) ::
    [(RTCP_SDES_MID, mid)].filterMap fun item => item.2.map (item.1, ·)

def SdesSource.items (source : SdesSource) : List SdesItem :=
  source.texts.map fun text => ⟨source.ssrc, text.1, text.2.take RTCP_SDES_MAX_STRING_SIZE⟩

def appendTexts (m : Chunk) (texts : List (UInt8 × CString)) : Chunk :=
  texts.foldl (fun m text => sdesChunkAppendItem m text.1 (some text.2)) m

def SdesSource.chunk (source : SdesSource) : Chunk :=
  sdesChunkPad (appendTexts (sdesChunkNew source.ssrc) source.texts)

lemma appendTexts_filterMap (m : Chunk) (items : List (UInt8 × Option CString)) :
    appendTexts m (items.filterMap fun item => item.2.map (item.1, ·)) =
      items.foldl (fun m item => sdesChunkAppendItem m item.1 item.2) m := by
  induction items generalizing m with
  | nil => rfl
  | cons item items ih =>
    obtain ⟨type, content⟩ := item
    cases content with
    | none => exact ih m
    | some content => exact ih (sdesChunkAppendItem m type (some content))

lemma sdesChunkSetFullItems_eq (ssrc : UInt32) (items : RtcpSdesItems) (mid : Option CString) :
    sdesChunkSetFullItems (sdesChunkNew ssrc) items mid = (⟨ssrc, fullTexts items mid⟩ : SdesSource).chunk := by
  rw [SdesSource.chunk, fullTexts, appendTexts, foldl_cons, ← appendTexts, appendTexts_filterMap]
  rfl

def SdesSession.source (full : Bool) : SdesSource :=
  ⟨session.ssrc, if full then fullTexts session.sdesItems session.mid
    else minimalTexts session.sdesItems session.mid⟩

lemma rtpSessionMakeSdes_eq (full : Bool) :
    rtpSessionMakeSdes session (!full) = (session.source full).chunk.msg := by
  cases full with
  | true => exact congrArg Chunk.msg (sdesChunkSetFullItems_eq _ _ _)
  | false =>
    rw [SdesSource.chunk, SdesSession.source]
    simp only [Bool.false_eq_true, if_false]
    rw [minimalTexts, appendTexts, foldl_cons, ← appendTexts, appendTexts_filterMap]
    rfl

/-- Where data goes: the bytes of the blocks that are full, and those of the last one. -/
def place (p : ℕ × ℕ) (size : ℕ) : ℕ × ℕ :=
  if RTCP_SDES_CHUNK_DEFAULT_SIZE < p.2 + size then (p.1 + p.2, size) else (p.1, p.2 + size)

/-- Where the texts of a chunk go, after its SSRC. -/
def placeTexts (p : ℕ × ℕ) (texts : List (UInt8 × CString)) : ℕ × ℕ :=
  texts.foldl (fun p text => place (place p 2) (min text.2.length RTCP_SDES_MAX_STRING_SIZE)) p

/-- The bytes of a chunk in the blocks that its texts fill. -/
def SdesSource.leftBehind (source : SdesSource) : ℕ := (placeTexts (0, 4) source.texts).1

/-- The last block of a chunk starts at a multiple of 4 bytes. -/
def SdesSource.Aligned (source : SdesSource) : Prop := 4 ∣ source.leftBehind

instance (source : SdesSource) : Decidable source.Aligned := inferInstanceAs (Decidable (_ ∣ _))

/-- What a chunk that is written holds. -/
structure Chunk.Holds (m : Chunk) (p : ℕ × ℕ) (content : Bytes) : Prop where
  left : msgdsize m.full = p.1
  used : m.last.bytes.length = p.2
  head : m.last.head = 0
  room : p.2 + m.last.room = RTCP_SDES_CHUNK_DEFAULT_SIZE
  bytes : m.msg.bytes = content

lemma holds_sdesChunkNew (ssrc : UInt32) : (sdesChunkNew ssrc).Holds (0, 4) (be32 ssrc) where
  left := rfl
  used := rfl
  head := rfl
  room := rfl
  bytes := rfl

lemma bytes_append (m m' : Msg) : Msg.bytes (m ++ m') = m.bytes ++ m'.bytes := flatMap_append

lemma bytes_singleton (mp : Mblk) : Msg.bytes [mp] = mp.bytes := flatMap_singleton _ _

variable {content : Bytes} {p : ℕ × ℕ} {m : Chunk}

lemma Chunk.Holds.length (h : m.Holds p content) : content.length = p.1 + p.2 := by
  rw [← h.bytes, Chunk.msg, bytes_append, bytes_singleton, length_append, length_bytes, h.left, h.used]

lemma Chunk.Holds.appendb (h : m.Holds p content) {data : Bytes}
    (hdata : data.length ≤ RTCP_SDES_CHUNK_DEFAULT_SIZE) :
    (m.appendb data false).Holds (place p data.length) (content ++ data) := by
  have hroom := h.room
  have hbytes := h.bytes
  have hused := h.used
  rw [Chunk.msg, bytes_append, bytes_singleton] at hbytes
  rw [Chunk.appendb, Ortp.appendb, place]
  simp only [Bool.false_eq_true, if_false, replicate_zero, append_nil, Nat.add_zero]
  by_cases hfull : m.last.room < data.length
  · rw [if_pos hfull, if_pos (by omega)]
    have hsize : m.last.size = RTCP_SDES_CHUNK_DEFAULT_SIZE := by rw [Mblk.size, h.head]; omega
    refine ⟨?_, rfl, rfl, ?_, ?_⟩
    · rw [← length_bytes, bytes_append, bytes_singleton, length_append, length_bytes, h.left, hused]
    · simp only [Mblk.write, allocb, hsize, max_eq_left hdata]
      omega
    · rw [Chunk.msg, bytes_append, bytes_append, bytes_singleton, bytes_singleton, hbytes]
      rfl
  · rw [if_neg hfull, if_neg (by omega)]
    refine ⟨h.left, ?_, h.head, ?_, ?_⟩
    · simp only [Mblk.write, length_append, hused]
    · simp only [Mblk.write]
      omega
    · rw [Chunk.msg, bytes_append, bytes_singleton, Mblk.write, ← append_assoc, hbytes]

/-- The bytes of an item. -/
def encodeText (text : UInt8 × CString) : Bytes :=
  let len := min text.2.length RTCP_SDES_MAX_STRING_SIZE
  text.1 :: len.toUInt8 :: text.2.take len

lemma Chunk.Holds.appendTexts (h : m.Holds p content) (texts : List (UInt8 × CString)) :
    (appendTexts m texts).Holds (placeTexts p texts) (content ++ texts.flatMap encodeText) := by
  induction texts generalizing m p content with
  | nil =>
    rw [flatMap_nil, append_nil]
    exact h
  | cons text texts ih =>
    obtain ⟨type, content'⟩ := text
    have hlen : (content'.take (min content'.length RTCP_SDES_MAX_STRING_SIZE)).length =
        min content'.length RTCP_SDES_MAX_STRING_SIZE := by
      rw [length_take]
      omega
    have htwo : [type, (min content'.length RTCP_SDES_MAX_STRING_SIZE).toUInt8].length ≤
        RTCP_SDES_CHUNK_DEFAULT_SIZE := Nat.le_add_left 2 1022
    have hmax : (content'.take (min content'.length RTCP_SDES_MAX_STRING_SIZE)).length ≤
        RTCP_SDES_CHUNK_DEFAULT_SIZE := by
      rw [hlen, RTCP_SDES_MAX_STRING_SIZE, RTCP_SDES_CHUNK_DEFAULT_SIZE]
      omega
    have hitem := (h.appendb htwo).appendb hmax
    rw [hlen] at hitem
    have htexts := ih hitem
    rw [append_assoc, append_assoc, ← append_assoc [type, _]] at htexts
    exact htexts

/-- The bytes of a chunk: its padding makes the part in the last block a multiple of 4 bytes. -/
lemma exists_bytes_chunk (source : SdesSource) : ∃ pad, 1 ≤ pad ∧ pad ≤ 4 ∧
    source.chunk.msg.bytes = be32 source.ssrc ++ (source.texts.flatMap encodeText ++ replicate pad 0) ∧
    source.chunk.msg.bytes.length % 4 = source.leftBehind % 4 := by
  have h := (holds_sdesChunkNew source.ssrc).appendTexts source.texts
  have hlength := h.length
  have hbytes := h.bytes
  rw [SdesSource.chunk, sdesChunkPad, SdesSource.leftBehind]
  generalize appendTexts (sdesChunkNew source.ssrc) source.texts = m at h hbytes
  generalize placeTexts (0, 4) source.texts = p at h hlength
  rw [Chunk.msg, bytes_append, bytes_singleton] at hbytes
  have hpadded : (m.appendb [0] true).msg.bytes = m.full.bytes ++ (m.last.bytes ++
      replicate (1 + (4 - (p.2 + 1) % 4) % 4) 0) := by
    rw [Chunk.appendb, Ortp.appendb, h.head, h.used, Nat.zero_add, length_singleton, replicate_add]
    simp only [if_true]
    split_ifs
    · rw [Chunk.msg, bytes_append, bytes_append, bytes_singleton, bytes_singleton, append_assoc]
      rfl
    · rw [Chunk.msg, bytes_append, bytes_singleton]
      rfl
  refine ⟨1 + (4 - (p.2 + 1) % 4) % 4, by omega, by omega, ?_, ?_⟩
  · rw [hpadded, ← append_assoc, hbytes, append_assoc]
  · rw [hpadded, ← append_assoc, hbytes, length_append, hlength, length_replicate]
    omega

/-! ### Chunks read back -/

section loop

variable {m : Bytes} {fin rc rptr nchunk : ℕ} {ssrc : UInt32}

lemma length_encodeText (text : UInt8 × CString) :
    (encodeText text).length = 2 + min text.2.length RTCP_SDES_MAX_STRING_SIZE := by
  simp only [encodeText, length_cons, length_take]
  omega

variable {rest : Bytes}

/-- An item is read back. -/
lemma sdesLoop_text {text : UInt8 × CString} (htype : text.1 ≠ RTCP_SDES_END)
    (hm : m.drop rptr = encodeText text ++ rest) (hfin : rptr + (encodeText text).length ≤ fin) :
    sdesLoop m fin rc rptr false ssrc nchunk = ⟨ssrc, text.1, text.2.take RTCP_SDES_MAX_STRING_SIZE⟩ ::
        sdesLoop m fin rc (rptr + (encodeText text).length) false ssrc nchunk := by
  have hlength := length_encodeText text
  have hmin : min text.2.length RTCP_SDES_MAX_STRING_SIZE < 256 := by
    rw [RTCP_SDES_MAX_STRING_SIZE]
    omega
  have htake : text.2.take (min text.2.length RTCP_SDES_MAX_STRING_SIZE) = text.2.take RTCP_SDES_MAX_STRING_SIZE := by
    rw [Nat.min_comm, ← take_take, take_length]
  have hlen : (min text.2.length RTCP_SDES_MAX_STRING_SIZE).toUInt8.toNat =
      min text.2.length RTCP_SDES_MAX_STRING_SIZE := mod_eq_of_lt hmin
  have hread0 : m.getD rptr 0 = text.1 := by
    have h := getD_of_drop hm 0 0
    rwa [Nat.add_zero] at h
  have hread1 : (m.getD (rptr + 1) 0).toNat = min text.2.length RTCP_SDES_MAX_STRING_SIZE := by
    rw [getD_of_drop hm 1 0, ← hlen]
    rfl
  have hcontent : segment m (rptr + 2) (min text.2.length RTCP_SDES_MAX_STRING_SIZE) =
      text.2.take RTCP_SDES_MAX_STRING_SIZE := by
    rw [Chunks.segment, ← drop_drop, hm, ← htake]
    refine take_left' ?_
    rw [length_take]
    omega
  rw [sdesLoop, if_pos (by omega), if_neg (by simp), if_pos (by omega), hread0, hread1]
  simp only
  rw [if_neg htype, if_pos (by omega), hcontent, hlength, Nat.add_assoc]

lemma sdesLoop_texts {texts : List (UInt8 × CString)} (htypes : ∀ text ∈ texts, text.1 ≠ RTCP_SDES_END)
    (hm : m.drop rptr = texts.flatMap encodeText ++ rest) (hfin : rptr + (texts.flatMap encodeText).length ≤ fin) :
    sdesLoop m fin rc rptr false ssrc nchunk =
      (texts.map fun text => ⟨ssrc, text.1, text.2.take RTCP_SDES_MAX_STRING_SIZE⟩) ++
        sdesLoop m fin rc (rptr + (texts.flatMap encodeText).length) false ssrc nchunk := by
  induction texts generalizing rptr with
  | nil => rfl
  | cons text texts ih =>
    rw [flatMap_cons, length_append] at hfin
    rw [flatMap_cons, append_assoc] at hm
    have hm' : m.drop (rptr + (encodeText text).length) = texts.flatMap encodeText ++ rest := by
      rw [← drop_drop, hm, drop_left]
    rw [sdesLoop_text (htypes text mem_cons_self) hm (by omega),
      ih (fun text htext => htypes text (mem_cons_of_mem _ htext)) hm' (by omega), map_cons,
      cons_append, flatMap_cons, length_append, Nat.add_assoc]

/-- A chunk is read back, when its size is a multiple of 4 bytes. -/
lemma sdesLoop_chunk {source : SdesSource} (htypes : ∀ text ∈ source.texts, text.1 ≠ RTCP_SDES_END)
    (hm : m.drop rptr = source.chunk.msg.bytes ++ rest) (hrptr : 4 ∣ rptr) (haligned : source.Aligned)
    (hfin : rptr + source.chunk.msg.bytes.length ≤ fin)
    (hnext : nchunk + 1 < rc → rptr + source.chunk.msg.bytes.length < fin) :
    sdesLoop m fin rc rptr true ssrc nchunk = source.items ++ if nchunk + 1 < rc then
        sdesLoop m fin rc (rptr + source.chunk.msg.bytes.length) true source.ssrc (nchunk + 1) else [] := by
  obtain ⟨pad, hpos, hle, hbytes, hmod⟩ := exists_bytes_chunk source
  have hlength := congrArg length hbytes
  rw [length_append, length_append, length_be32, length_replicate] at hlength
  have hdvd : source.chunk.msg.bytes.length % 4 = 0 := hmod.trans (mod_eq_zero_of_dvd haligned)
  rw [hbytes, append_assoc, append_assoc] at hm
  have hm4 : m.drop (rptr + 4) = source.texts.flatMap encodeText ++ (replicate pad 0 ++ rest) := by
    rw [← drop_drop, hm]
    rfl
  have hmend : m.drop (rptr + 4 + (source.texts.flatMap encodeText).length) = replicate pad 0 ++ rest := by
    rw [← drop_drop, hm4, drop_left]
  have hend : m.getD (rptr + 4 + (source.texts.flatMap encodeText).length) 0 = RTCP_SDES_END := by
    have h := getD_of_drop hmend 0 0
    rw [Nat.add_zero] at h
    rw [h, ← Nat.sub_add_cancel hpos, replicate_succ]
    rfl
  rw [sdesLoop, if_pos (by omega), if_pos rfl, if_pos (by omega), be32At_of_drop source.ssrc hm,
    sdesLoop_texts htypes hm4 (by omega)]
  refine congrArg (source.items ++ ·) ?_
  rw [sdesLoop]
  simp only [hend, if_true, Bool.false_eq_true, if_false]
  have hround : (rptr + 4 + (source.texts.flatMap encodeText).length + 4) / 4 * 4 =
      rptr + source.chunk.msg.bytes.length := by omega
  by_cases hmore : nchunk + 1 < rc
  · have hlt := hnext hmore
    rw [if_pos (by omega), if_pos (by omega), if_pos hmore, if_pos hmore, hround]
  · simp only [if_neg hmore]
    split_ifs <;> rfl

lemma sdesLoop_chunks {source : SdesSource} {sources : List SdesSource}
    (htypes : ∀ s ∈ source :: sources, ∀ text ∈ s.texts, text.1 ≠ RTCP_SDES_END)
    (hm : m.drop rptr = (source :: sources).flatMap (fun s => s.chunk.msg.bytes) ++ rest) (hrptr : 4 ∣ rptr)
    (haligned : ∀ s ∈ source :: sources, s.Aligned)
    (hfin : rptr + ((source :: sources).flatMap fun s => s.chunk.msg.bytes).length ≤ fin)
    (hrc : rc = nchunk + 1 + sources.length) :
    sdesLoop m fin rc rptr true ssrc nchunk = (source :: sources).flatMap SdesSource.items := by
  induction sources generalizing source rptr ssrc nchunk with
  | nil =>
    rw [flatMap_singleton] at hm hfin
    rw [sdesLoop_chunk (htypes source mem_cons_self) hm hrptr (haligned source mem_cons_self) hfin
      fun hlt => absurd hlt (by simp [hrc]), if_neg (by simp [hrc]), append_nil, flatMap_singleton]
  | cons next sources ih =>
    rw [flatMap_cons, append_assoc] at hm
    rw [flatMap_cons, length_append] at hfin
    have hm' : m.drop (rptr + source.chunk.msg.bytes.length) =
        (next :: sources).flatMap (fun s => s.chunk.msg.bytes) ++ rest := by
      rw [← drop_drop, hm, drop_left]
    obtain ⟨pad, hpos, -, hbytes, -⟩ := exists_bytes_chunk next
    have hnext : 0 < next.chunk.msg.bytes.length := by
      rw [hbytes, length_append, length_be32]
      omega
    obtain ⟨_, -, -, -, hmod⟩ := exists_bytes_chunk source
    have hdvd := dvd_of_mod_eq_zero
      (hmod.trans (mod_eq_zero_of_dvd (haligned source mem_cons_self)))
    have hlength : 0 < ((next :: sources).flatMap fun s => s.chunk.msg.bytes).length := by
      rw [flatMap_cons, length_append]
      omega
    rw [length_cons] at hrc
    rw [sdesLoop_chunk (htypes source mem_cons_self) hm hrptr (haligned source mem_cons_self)
      (by omega) fun _ => by omega, if_pos (by omega),
      ih (fun s hs => htypes s (mem_cons_of_mem _ hs)) hm' (Nat.dvd_add hrptr hdvd)
        (fun s hs => haligned s (mem_cons_of_mem _ hs)) (by omega) (by omega)]
    rfl

end loop

/-! ### Packets -/

structure ContributingSource where
  csrc : UInt32
  sdesItems : RtcpSdesItems
  mid : Option CString

def ContributingSource.source (s : ContributingSource) : SdesSource := ⟨s.csrc, fullTexts s.sdesItems s.mid⟩

def SdesSession.Contributes (sources : List ContributingSource) : Prop :=
  session.contributingSources = sources.map fun s => s.source.chunk.msg

def SdesSession.described (full : Bool) (sources : List ContributingSource) : List SdesSource :=
  session.source full :: if full then sources.map ContributingSource.source else []

variable {sources : List ContributingSource} {session : SdesSession}

lemma contributes_add (h : session.Contributes sources) (csrc : UInt32) (items : RtcpSdesItems) :
    (rtpSessionAddContributingSource session csrc items).Contributes (sources ++ [⟨csrc, items, session.mid⟩]) := by
  rw [SdesSession.Contributes] at h
  simp only [SdesSession.Contributes, rtpSessionAddContributingSource, h, sdesChunkSetFullItems_eq,
    map_append, map_singleton]
  rfl

/-- A packet is read back, alone or before other packets. -/
structure SdesCodec (packet : Bytes) (items : List SdesItem) : Prop where
  dvd : 4 ∣ packet.length
  size : packet.length = 4 * (rtcpCommonHeaderGetLength packet + 1)
  parse : ∀ rest, rtcpSdesParse (packet ++ rest) = items

lemma type_ne_end_of_mem {text : UInt8 × CString} {cname : CString} {items : List (UInt8 × Option CString)}
    (hitems : ∀ item ∈ items, item.1 ≠ RTCP_SDES_END)
    (h : text ∈ (RTCP_SDES_CNAME, cname) :: items.filterMap fun item => item.2.map (item.1, ·)) :
    text.1 ≠ RTCP_SDES_END := by
  rcases mem_cons.mp h with rfl | h
  · exact (by decide : RTCP_SDES_CNAME ≠ RTCP_SDES_END)
  · obtain ⟨item, hitem, hmap⟩ := mem_filterMap.mp h
    obtain ⟨content, -, rfl⟩ := Option.map_eq_some_iff.mp hmap
    exact hitems item hitem

variable {source : SdesSource}

lemma type_ne_end {full : Bool} (hs : source ∈ session.described full sources) {text : UInt8 × CString}
    (h : text ∈ source.texts) : text.1 ≠ RTCP_SDES_END := by
  have hfull (items : RtcpSdesItems) (mid : Option CString) (h : text ∈ fullTexts items mid) :
      text.1 ≠ RTCP_SDES_END := by
    refine type_ne_end_of_mem (fun item hitem => ?_) h
    simp only [mem_cons, not_mem_nil, or_false] at hitem
    rcases hitem with rfl | rfl | rfl | rfl | rfl | rfl | rfl <;> simp only <;> decide
  rw [SdesSession.described] at hs
  cases full with
  | true =>
    rcases mem_cons.mp hs with rfl | hs
    · exact hfull _ _ h
    · obtain ⟨s, -, rfl⟩ := mem_map.mp hs
      exact hfull _ _ h
  | false =>
    obtain rfl := mem_singleton.mp hs
    refine type_ne_end_of_mem (fun item hitem => ?_) h
    obtain rfl := mem_singleton.mp hitem
    exact (by decide : RTCP_SDES_MID ≠ RTCP_SDES_END)

lemma length_texts_le {full : Bool} (hs : source ∈ session.described full sources) : source.texts.length ≤ 8 := by
  have hfull (items : RtcpSdesItems) (mid : Option CString) : (fullTexts items mid).length ≤ 8 :=
    succ_le_succ (length_filterMap_le _ _)
  rw [SdesSession.described] at hs
  cases full with
  | true =>
    rcases mem_cons.mp hs with rfl | hs
    · exact hfull _ _
    · obtain ⟨s, -, rfl⟩ := mem_map.mp hs
      exact hfull _ _
  | false =>
    obtain rfl := mem_singleton.mp hs
    exact (succ_le_succ (length_filterMap_le _ _)).trans (Nat.le_add_left 2 6)

lemma length_encodeTexts_le (texts : List (UInt8 × CString)) :
    (texts.flatMap encodeText).length ≤ 257 * texts.length := by
  induction texts with
  | nil => exact le_rfl
  | cons text texts ih =>
    rw [flatMap_cons, length_append, length_encodeText, length_cons, RTCP_SDES_MAX_STRING_SIZE]
    omega

lemma length_chunk_le (h : source.texts.length ≤ 8) : source.chunk.msg.bytes.length ≤ 2064 := by
  obtain ⟨pad, -, hle, hbytes, -⟩ := exists_bytes_chunk source
  have htexts := length_encodeTexts_le source.texts
  rw [hbytes, length_append, length_append, length_be32, length_replicate]
  omega

lemma length_chunks_le {sources : List SdesSource} (h : ∀ s ∈ sources, s.texts.length ≤ 8) :
    (sources.flatMap fun s => s.chunk.msg.bytes).length ≤ 2064 * sources.length := by
  induction sources with
  | nil => exact le_rfl
  | cons source sources ih =>
    have hchunk := length_chunk_le (h source mem_cons_self)
    have hchunks := ih fun s hs => h s (mem_cons_of_mem _ hs)
    rw [flatMap_cons, length_append, length_cons]
    omega

/-- The size of a packet, up to what its chunks leave in the blocks that they fill. -/
lemma length_chunks_mod (sources : List SdesSource) :
    (sources.flatMap fun s => s.chunk.msg.bytes).length % 4 = (sources.map SdesSource.leftBehind).sum % 4 := by
  induction sources with
  | nil => rfl
  | cons source sources ih =>
    obtain ⟨-, -, -, -, hmod⟩ := exists_bytes_chunk source
    rw [flatMap_cons, length_append, map_cons, sum_cons]
    omega

lemma bytes_createRtcpSdesPacket (h : session.Contributes sources) (full : Bool) :
    (rtpSessionCreateRtcpSdesPacket session full).bytes =
      rtcpCommonHeader RTCP_SDES (session.described full sources).length
        (RTCP_COMMON_HEADER_SIZE + ((session.described full sources).flatMap fun s => s.chunk.msg.bytes).length) ++
      (session.described full sources).flatMap fun s => s.chunk.msg.bytes := by
  have hmsg : rtpSessionMakeSdes session (!full) ++ (if full then session.contributingSources else []).flatten =
      (session.described full sources).flatMap fun s => s.chunk.msg := by
    rw [rtpSessionMakeSdes_eq, SdesSession.described, flatMap_cons]
    rw [SdesSession.Contributes] at h
    cases full with
    | true => simp [h, flatMap_def, Function.comp_def]
    | false => simp
  have hbytes : Msg.bytes ((session.described full sources).flatMap fun s => s.chunk.msg) =
      (session.described full sources).flatMap fun s => s.chunk.msg.bytes := flatMap_assoc
  have hlength : 1 + (if full then session.contributingSources else []).length =
      (session.described full sources).length := by
    rw [SdesSession.described, length_cons, Nat.add_comm]
    rw [SdesSession.Contributes] at h
    cases full with
    | true => simp [h]
    | false => rfl
  rw [rtpSessionCreateRtcpSdesPacket]
  simp only [hmsg, hlength, ← length_bytes, hbytes]
  rw [← hbytes]
  rfl

lemma length_rtcpCommonHeader (type : UInt8) (rc bytesLen : ℕ) :
    (rtcpCommonHeader type rc bytesLen).length = RTCP_COMMON_HEADER_SIZE := rfl

lemma rtcpCommonHeaderGetRc_header {rc : ℕ} (h : rc ≤ 31) (type : UInt8) (bytesLen : ℕ) (rest : Bytes) :
    rtcpCommonHeaderGetRc (rtcpCommonHeader type rc bytesLen ++ rest) = rc := by
  have hall : ∀ n ∈ range 32, (((2 : UInt8) <<< 6 ||| (n.toUInt8 &&& 0x1F)) &&& 0x1F).toNat = n := by decide +kernel
  exact hall rc (mem_range.mpr (by omega))

lemma rtcpCommonHeaderGetLength_header {bytesLen : ℕ} (h : bytesLen / 4 - 1 < 65536) (type : UInt8) (rc : ℕ)
    (rest : Bytes) : rtcpCommonHeaderGetLength (rtcpCommonHeader type rc bytesLen ++ rest) = bytesLen / 4 - 1 := by
  have hread : be16At (rtcpCommonHeader type rc bytesLen ++ rest) 2 = (bytesLen / 4 - 1).toUInt16 :=
    be16At_of_drop _ rfl
  rw [rtcpCommonHeaderGetLength, hread]
  exact mod_eq_of_lt h

/-- A packet whose chunks leave multiples of 4 bytes in the blocks that they fill is read back. Its size is a
multiple of 4 bytes only if they leave one in all. -/
theorem sdesCodec_createRtcpSdesPacket {session : SdesSession} {sources : List ContributingSource}
    (hsources : session.Contributes sources) (hlength : sources.length ≤ 30) (full : Bool) :
    ((∀ source ∈ session.described full sources, source.Aligned) →
        SdesCodec (rtpSessionCreateRtcpSdesPacket session full).bytes
          ((session.described full sources).flatMap SdesSource.items)) ∧
      (SdesCodec (rtpSessionCreateRtcpSdesPacket session full).bytes
          ((session.described full sources).flatMap SdesSource.items) →
        4 ∣ ((session.described full sources).map SdesSource.leftBehind).sum) := by
  have hmod := length_chunks_mod (session.described full sources)
  have hle := length_chunks_le fun s (hs : s ∈ session.described full sources) => length_texts_le hs
  have hcount : (session.described full sources).length ≤ 31 := by
    rw [SdesSession.described, length_cons]
    cases full with
    | true =>
      refine succ_le_succ ?_
      simpa using hlength
    | false => simp
  rw [bytes_createRtcpSdesPacket hsources full]
  generalize hchunks : ((session.described full sources).flatMap fun s => s.chunk.msg.bytes) = chunks at hmod hle ⊢
  have hsize : (rtcpCommonHeader RTCP_SDES (session.described full sources).length
      (RTCP_COMMON_HEADER_SIZE + chunks.length) ++ chunks).length = RTCP_COMMON_HEADER_SIZE + chunks.length :=
    length_append
  have hbound : (RTCP_COMMON_HEADER_SIZE + chunks.length) / 4 - 1 < 65536 := by
    rw [RTCP_COMMON_HEADER_SIZE]
    omega
  constructor
  · intro haligned
    have hsum : ∀ n ∈ (session.described full sources).map SdesSource.leftBehind, 4 ∣ n := by
      intro n hn
      obtain ⟨source, hsource, rfl⟩ := mem_map.mp hn
      exact haligned source hsource
    have hdvd : 4 ∣ chunks.length :=
      dvd_of_mod_eq_zero (hmod.trans (mod_eq_zero_of_dvd (dvd_sum hsum)))
    refine ⟨?_, ?_, fun rest => ?_⟩
    · rw [hsize, RTCP_COMMON_HEADER_SIZE]
      omega
    · have hfield := rtcpCommonHeaderGetLength_header hbound RTCP_SDES
        (session.described full sources).length chunks
      rw [hsize, hfield, RTCP_COMMON_HEADER_SIZE]
      omega
    · rw [rtcpSdesParse, append_assoc, rtcpCommonHeaderGetRc_header hcount, rtcpCommonHeaderGetLength_header hbound]
      have hdrop : (rtcpCommonHeader RTCP_SDES (session.described full sources).length
          (RTCP_COMMON_HEADER_SIZE + chunks.length) ++ (chunks ++ rest)).drop RTCP_COMMON_HEADER_SIZE =
          (session.described full sources).flatMap (fun s => s.chunk.msg.bytes) ++ rest := by
        rw [hchunks]
        rfl
      refine sdesLoop_chunks (fun s hs text htext => type_ne_end hs htext) hdrop (Nat.dvd_refl 4) haligned ?_ ?_
      · refine le_trans (le_of_eq (congrArg (RTCP_COMMON_HEADER_SIZE + length ·) hchunks)) ?_
        rw [length_append, length_append, length_rtcpCommonHeader, RTCP_COMMON_HEADER_SIZE]
        omega
      · rw [SdesSession.described, length_cons]
        omega
  · intro h
    have hdvd := h.dvd
    rw [hsize, RTCP_COMMON_HEADER_SIZE] at hdvd
    exact dvd_of_mod_eq_zero (hmod ▸ by omega)

/-! ### A chunk in two blocks -/

def RtcpSdesItems.sample (cname : CString) (text : Option CString) : RtcpSdesItems :=
  ⟨some cname, text, text, text, text, none, none⟩

def SdesSession.sample : SdesSession :=
  rtpSessionAddContributingSource ⟨1, .sample [0x61] none, rfl, none, []⟩ 2 (.sample [0x62] (some [0x63]))

lemma contributes_sample : SdesSession.sample.Contributes [⟨2, .sample [0x62] (some [0x63]), none⟩] := by
  have hnone : SdesSession.Contributes ⟨1, .sample [0x61] none, rfl, none, []⟩ [] := rfl
  exact contributes_add hnone 2 _

/-- Before a BYE packet. -/
theorem sdesCodec_createRtcpSdesPacket_sample :
    rtcpSdesParse ((rtpSessionCreateRtcpSdesPacket .sample true).bytes ++ [0x81, 203, 0, 1, 0, 0, 0, 1]) =
      [⟨1, RTCP_SDES_CNAME, [0x61]⟩, ⟨2, RTCP_SDES_CNAME, [0x62]⟩, ⟨2, RTCP_SDES_NAME, [0x63]⟩,
        ⟨2, RTCP_SDES_EMAIL, [0x63]⟩, ⟨2, RTCP_SDES_PHONE, [0x63]⟩, ⟨2, RTCP_SDES_LOC, [0x63]⟩] := by
  have h := sdesCodec_createRtcpSdesPacket contributes_sample (by decide) true
  exact (h.1 (by decide)).parse _

def SdesSession.long : SdesSession :=
  ⟨1, .sample (replicate 255 0x61) (some (replicate 255 0x61)), rfl, none, []⟩

/-- The texts of the chunk fill its first block, up to a size that is no multiple of 4 bytes. -/
theorem not_sdesCodec_createRtcpSdesPacket :
    ¬ ∀ (session : SdesSession) (sources : List ContributingSource) (full : Bool),
      session.Contributes sources → sources.length ≤ 30 →
      SdesCodec (rtpSessionCreateRtcpSdesPacket session full).bytes
        ((session.described full sources).flatMap SdesSource.items) := by
  intro hall
  have h := hall .long [] true rfl (Nat.zero_le _)
  exact absurd h.dvd (by decide +kernel)

end Ortp
