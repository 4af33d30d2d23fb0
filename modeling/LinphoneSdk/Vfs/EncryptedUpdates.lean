import LinphoneSdk.Vfs.EncryptedRefinement

/-!
# Updates of encrypted files

A write replaces a segment of the file that consists of whole chunks, and the header is written anew.
-/

namespace Vfs

open Bytes ByteFile EncodedChunks VfsEncryption Except Nat

variable {κ : Type} {M : Aead κ} {ctx : VfsEncryption κ} {content : Bytes}

/-! ### The header -/

abbrev stored (M : Aead κ) (file : Bytes) : VfsEncryption κ :=
  readHeader M.toVfsEncryptionModule false file

/-- The bytes of a file are those of an encrypted file, which is opened with the right key. -/
structure StoredAs (M : Aead κ) (file content : Bytes) : Prop where
  length_ge : baseFileHeaderSize ≤ file.length
  magic : (stored M file).r_header.take BCENCRYPTEDFS.length = BCENCRYPTEDFS
  suite : be16At (stored M file).r_header 15 = M.encryptionSuite
  module : (stored M file).moduleFileHeader.length = M.moduleFileHeaderSize
  authentic : M.checkIntegrity (stored M file).moduleFileHeader (stored M file).r_header = true
  represents : Represents M (stored M file) content

def ExtensionStored (M : Aead κ) (ctx : VfsEncryption κ) : Prop :=
  (stored M ctx.pFileStd).mHeaderExtensionSize = ctx.mHeaderExtensionSize

instance : Decidable (ExtensionStored M ctx) := inferInstanceAs (Decidable (_ = _))

/-- An open file represents a plain one, and so does its stored form if the header extension was not lost. -/
structure Refines (M : Aead κ) (ctx : VfsEncryption κ) (content : Bytes) : Prop where
  represents : Represents M ctx content
  chunkSize : (stored M ctx.pFileStd).mChunkSize = ctx.mChunkSize
  storedAs : ExtensionStored M ctx → StoredAs M ctx.pFileStd content

lemma length_rawHeader (ctx : VfsEncryption κ) : (ctx.rawHeader M).length = baseFileHeaderSize := rfl

def header (M : Aead κ) (ctx : VfsEncryption κ) : Bytes :=
  ctx.rawHeader M ++ M.getModuleFileHeader ctx.m_module (ctx.rawHeader M)

lemma length_header (ctx : VfsEncryption κ) : (header M ctx).length = baseFileHeaderSize + M.moduleFileHeaderSize := by
  rw [header, List.length_append, length_rawHeader, M.length_getModuleFileHeader _ (length_rawHeader ctx)]

lemma writeHeader_eq (hreadOnly : ctx.readOnly = false) :
    ctx.writeHeader M = .ok { ctx with
      r_header := ctx.rawHeader M, pFileStd := ByteFile.write ctx.pFileStd 0 (header M ctx) } := by
  rw [writeHeader]
  simp only [hreadOnly, Bool.false_eq_true, ↓reduceIte]
  rfl

/-- What is read from a header that was written. -/
lemma stored_header (ctx : VfsEncryption κ) (rest : Bytes) (hchunk : ctx.mChunkSize / 16 < 2 ^ 16)
    (hmod : ctx.mChunkSize % 16 = 0) (hsize : ctx.mFileSize < 2 ^ 64) :
    stored M (header M ctx ++ rest) = { ctx with
        moduleFileHeader := M.getModuleFileHeader ctx.m_module (ctx.rawHeader M)
        mHeaderExtensionSize := 0
        r_header := ctx.rawHeader M
        mIntegrityFullCheck := false
        readOnly := false
        pFileStd := header M ctx ++ rest
        random := 0 } := by
  have hmodule := M.length_getModuleFileHeader ctx.m_module (length_rawHeader (M := M) ctx)
  have hraw : ByteFile.read (header M ctx ++ rest) 0 baseFileHeaderSize = ctx.rawHeader M := by
    rw [header, List.append_assoc, ByteFile.read, List.drop_zero, List.take_left' (length_rawHeader ctx)]
  have hversion : be16At (ctx.rawHeader M) 13 = ctx.mVersionNumber := be16At_of_drop _ rfl
  have hchunkSize : be16At (ctx.rawHeader M) 17 = .ofNat (ctx.mChunkSize / 16) := be16At_of_drop _ rfl
  have hextension : be16At (ctx.rawHeader M) 19 = 0 := be16At_of_drop 0 rfl
  have hhigh : be32At (ctx.rawHeader M) 21 = .ofNat (ctx.mFileSize / 2 ^ 32) := be32At_of_drop _ rfl
  have hlow : be32At (ctx.rawHeader M) 25 = .ofNat ctx.mFileSize := @be32At_of_drop _ [] _ _ rfl
  have hmodulePart : ByteFile.read (header M ctx ++ rest) (baseFileHeaderSize + 0) M.moduleFileHeaderSize =
      M.getModuleFileHeader ctx.m_module (ctx.rawHeader M) := by
    rw [header, List.append_assoc, ← length_rawHeader ctx, read_append, ByteFile.read, List.drop_zero,
      List.take_left' hmodule]
  have hchunkNat : (UInt16.ofNat (ctx.mChunkSize / 16)).toNat * 16 = ctx.mChunkSize := by
    rw [UInt16.toNat_ofNat', mod_eq_of_lt hchunk]
    omega
  have hsizeNat : (UInt32.ofNat (ctx.mFileSize / 2 ^ 32)).toNat * 2 ^ 32 + (UInt32.ofNat ctx.mFileSize).toNat =
      ctx.mFileSize := by
    rw [UInt32.toNat_ofNat', UInt32.toNat_ofNat']
    omega
  rw [stored, readHeader]
  simp only [hraw, hversion, hchunkSize, hextension, hhigh, hlow, UInt16.toNat_zero, hmodulePart, hchunkNat, hsizeNat,
    M.ofFileHeader_getModuleFileHeader]

lemma refines_header (hsize : ctx.mFileSize = content.length)
    (hmem : 16 ≤ ctx.mChunkSize ∧ ctx.mChunkSize ≤ 1048560 ∧ ctx.mChunkSize % 16 = 0)
    (hreadOnly : ctx.readOnly = false) (hextension : ctx.mHeaderExtensionSize < 2 ^ 16)
    (hle : content.length ≤ limit ctx.mChunkSize) {gap area : Bytes}
    (hgap : gap.length = ctx.mHeaderExtensionSize) (hchunks : Decrypts M ctx 0 area content) :
    Refines M { ctx with r_header := ctx.rawHeader M, pFileStd := header M ctx ++ (gap ++ area) } content := by
  have hlimit := limit_lt hmem.2.1
  have hstored := stored_header (M := M) ctx (gap ++ area) (by omega) hmem.2.2 (by omega)
  have hlen := length_header (M := M) ctx
  constructor
  · refine ⟨hsize, hmem, hreadOnly, hextension, hle, header M ctx ++ gap, area, ?_, ?_, hchunks⟩
    · rw [List.append_assoc]
    · rw [List.length_append, hlen, hgap]
      simp only [headersSize]
      omega
  · rw [hstored]
  · intro hextension'
    simp only [ExtensionStored, hstored] at hextension'
    have hnil : gap = [] := List.length_eq_zero_iff.mp (hgap.trans hextension'.symm)
    subst hnil
    constructor
    · rw [List.length_append, hlen]
      omega
    · rw [hstored]
      rfl
    · rw [hstored]
      exact be16At_of_drop _ rfl
    · rw [hstored]
      exact M.length_getModuleFileHeader _ (length_rawHeader ctx)
    · rw [hstored]
      exact M.checkIntegrity_getModuleFileHeader _ _
    · rw [hstored]
      refine ⟨hsize, hmem, rfl, Nat.two_pow_pos 16, hle, header M ctx, area, rfl, ?_, hchunks⟩
      rw [hlen]
      simp only [headersSize]
      omega

/-- The header is written anew. -/
lemma Represents.writeHeader (h : Represents M ctx content) :
    ∃ ctx', ctx.writeHeader M = .ok ctx' ∧ Refines M ctx' content := by
  obtain ⟨head, area, hfile, hhead, hchunks⟩ := h.chunks
  have hlen := length_header (M := M) ctx
  rw [headersSize] at hhead
  refine ⟨_, writeHeader_eq h.readOnly, ?_⟩
  rw [hfile, write_head (by omega), List.append_assoc]
  refine refines_header h.mFileSize h.chunkSize_mem h.readOnly h.extension_lt h.length_le ?_ hchunks
  rw [List.length_drop]
  omega

/-! ### Writing -/

variable {plain rawData segment : Bytes} {first offset : ℕ}

lemma prepend_eq (h : Decrypts M ctx first rawData segment) (hoffset : offset ≤ ctx.mChunkSize)
    (hle : offset ≤ segment.length) (plain : Bytes) :
    ctx.prepend M first offset rawData plain = .ok (segment.take offset ++ plain) := by
  rw [prepend]
  by_cases hpos : 0 < offset
  · rw [if_pos hpos, decryptChunk_eq h (List.length_pos_iff.mp (by omega))]
    simp only [bind, Except.bind, pure, Except.pure]
    rw [if_neg, List.take_take, Nat.min_eq_left hoffset]
    rw [List.length_take]
    omega
  · have hzero : offset = 0 := by omega
    subst hzero
    simp

/-- The overwritten chunks end where the last one ends. -/
lemma le_stop {first last n : ℕ} (hmem : ctx.mChunkSize ≤ 1048560) (hextension : ctx.mHeaderExtensionSize < 2 ^ 16)
    (hle : first ≤ last) (hlast : last < 2 ^ 32) (hcount : last - first + 1 < 2 ^ 32)
    (hn : n ≤ (ctx.mChunkSize + M.chunkHeaderSize) * (last - first + 1)) :
    n ≤ sub64 (ctx.getChunkOffset M ((last + 1) % 2 ^ 32)) (ctx.getChunkOffset M first) := by
  have hheader := M.chunkHeaderSize_lt
  have hmodule := M.moduleFileHeaderSize_lt
  have hraw : ctx.rawChunkSizeGet M = ctx.mChunkSize + M.chunkHeaderSize := rfl
  rw [← hraw] at hn
  have hrawlt : ctx.rawChunkSizeGet M < 2 ^ 21 := by omega
  have hheaders : ctx.headersSize M < 2 ^ 20 := by
    rw [headersSize, baseFileHeaderSize]
    omega
  simp only [getChunkOffset]
  generalize ctx.rawChunkSizeGet M = raw at hn hrawlt ⊢
  generalize ctx.headersSize M = headers at hheaders ⊢
  have hend : raw * (last - first + 1) + raw * first = raw * (last + 1) := by
    rw [← Nat.mul_add]
    congr 1
    omega
  have hendlt : raw * (last + 1) ≤ 2 ^ 21 * 2 ^ 32 := Nat.mul_le_mul (by omega) (by omega)
  obtain hlt | heq := Nat.lt_or_eq_of_le (succ_le_of_lt hlast)
  · rw [succ_eq_add_one] at hlt
    rw [mod_eq_of_lt hlt, sub64_eq (by omega) (by omega)]
    omega
  · -- the index of the chunk behind the last one wraps, and so does the difference
    by_cases hzero : raw * first = 0
    · have hraw : raw = 0 := (Nat.mul_eq_zero.mp hzero).resolve_right (by omega)
      simp only [hraw, Nat.zero_mul] at hn
      omega
    · rw [succ_eq_add_one] at heq
      rw [heq, mod_self, sub64, mod_eq_of_lt (by omega), Nat.mul_zero, mod_eq_of_lt (by omega)]
      omega

/-- The data that lies in the last chunk behind what is written is put behind it. -/
lemma append_eq {last : ℕ} (h : Decrypts M ctx first rawData segment) (hpos : 0 < ctx.mChunkSize)
    (hmem : ctx.mChunkSize ≤ 1048560) (hextension : ctx.mHeaderExtensionSize < 2 ^ 16) (hle : first ≤ last)
    (hlast : last < 2 ^ 32) (hcount : last - first + 1 < 2 ^ 32)
    (hsegment : segment.length = min (ctx.mChunkSize * (last - first + 1)) (ctx.mFileSize - ctx.mChunkSize * first))
    (hgt : ctx.mChunkSize * (last - first) < plain.length)
    (hplain : plain.length ≤ ctx.mChunkSize * (last - first + 1)) :
    ctx.append M first last (ctx.mChunkSize * first) rawData plain = .ok (plain ++ segment.drop plain.length) := by
  rw [append]
  by_cases hcond : plain.length % ctx.mChunkSize ≠ 0 ∧ plain.length + ctx.mChunkSize * first < ctx.mFileSize
  · have hlt : ctx.mChunkSize * (last - first) < segment.length := by omega
    have htail := h.drop (last - first)
    rw [Nat.add_sub_cancel' hle] at htail
    have hrawlen := h.length_take_code hpos (Nat.le_of_lt hlt)
    have hraw : rawData.length ≤ (ctx.mChunkSize + M.chunkHeaderSize) * (last - first + 1) := by
      have hlen := h.length_code hpos
      have hmono := count_mono hpos (hsegment ▸ Nat.min_le_left _ _)
      rw [count_mul hpos] at hmono
      have hmul := Nat.mul_le_mul_right M.chunkHeaderSize hmono
      rw [Nat.add_mul, Nat.mul_comm M.chunkHeaderSize]
      omega
    have hchunk : rawData.drop ((ctx.mChunkSize + M.chunkHeaderSize) * (last - first)) =
        (rawData.drop ((ctx.mChunkSize + M.chunkHeaderSize) * (last - first))).take (ctx.rawChunkSizeGet M) := by
      rw [List.take_of_length_le]
      rw [mul_succ] at hraw
      rw [List.length_drop, rawChunkSizeGet]
      omega
    have hstart : ctx.getChunkOffset M last - ctx.getChunkOffset M first =
        (ctx.mChunkSize + M.chunkHeaderSize) * (last - first) := by
      rw [getChunkOffset, getChunkOffset, rawChunkSizeGet, Nat.mul_sub]
      omega
    have hdiv : ctx.mChunkSize * (last - first) + plain.length % ctx.mChunkSize = plain.length := by
      have hquot : plain.length / ctx.mChunkSize = last - first := by
        refine Nat.div_eq_of_lt_le ?_ ?_
        · rw [Nat.mul_comm]
          exact Nat.le_of_lt hgt
        · have hne : plain.length ≠ ctx.mChunkSize * (last - first + 1) := by
            intro heq
            rw [heq, mul_mod_right] at hcond
            exact hcond.1 rfl
          rw [Nat.mul_comm]
          omega
      have hdiv := div_add_mod plain.length ctx.mChunkSize
      rwa [hquot] at hdiv
    rw [if_pos hcond]
    simp only [hstart, Nat.min_eq_right (le_stop hmem hextension hle hlast hcount hraw), List.take_length]
    rw [List.length_take] at hrawlen
    rw [if_neg (by omega), hchunk, decryptChunk_eq htail (List.length_pos_iff.mp (by rw [List.length_drop]; omega))]
    simp only [bind, Except.bind, pure, Except.pure]
    rw [mul_succ] at hsegment hplain
    rw [if_neg, List.take_of_length_le, List.drop_drop, hdiv]
    · rw [List.length_drop]
      omega
    · rw [List.length_take, List.length_drop]
      omega
  · rw [if_neg hcond, List.drop_eq_nil_of_le, List.append_nil]
    rw [not_and_or, not_not] at hcond
    obtain hmod | hge := hcond
    · have hquot := div_add_mod plain.length ctx.mChunkSize
      rw [hmod, Nat.add_zero] at hquot
      have hge : last - first + 1 ≤ plain.length / ctx.mChunkSize := by
        by_contra hlt
        have hmul := Nat.mul_le_mul_left ctx.mChunkSize (show plain.length / ctx.mChunkSize ≤ last - first by omega)
        omega
      have hmul := Nat.mul_le_mul_left ctx.mChunkSize hge
      omega
    · omega

lemma Represents.decrypts_segment (h : Represents M ctx content) {area : Bytes} (hchunks : Decrypts M ctx 0 area content)
    (first count : ℕ) : Decrypts M ctx first ((area.drop ((ctx.mChunkSize + M.chunkHeaderSize) * first)).take
      ((ctx.mChunkSize + M.chunkHeaderSize) * count))
      ((content.drop (ctx.mChunkSize * first)).take (ctx.mChunkSize * count)) := by
  have hsegment := (hchunks.drop first).take h.chunkSize_pos count
  rwa [Nat.zero_add] at hsegment

/-- Chunks that encode a changed segment are written over those of the file. -/
lemma Represents.splice (h : Represents M ctx content) {head area code : Bytes} {n count : ℕ}
    (hfile : ctx.pFileStd = head ++ area) (hhead : head.length = ctx.headersSize M)
    (hchunks : Decrypts M ctx 0 area content) (hn : ctx.mChunkSize * n + offset ≤ content.length)
    (hcount : offset + plain.length ≤ ctx.mChunkSize * count)
    (hcode : Decrypts M ctx n code
      (ByteFile.write ((content.drop (ctx.mChunkSize * n)).take (ctx.mChunkSize * count)) offset plain))
    (hlimit : (ByteFile.write content (ctx.mChunkSize * n + offset) plain).length ≤ limit ctx.mChunkSize) (random : ℕ) :
    Represents M { ctx with
      random
      pFileStd := ByteFile.write ctx.pFileStd (ctx.getChunkOffset M n) code
      mFileSize := max content.length (ctx.mChunkSize * n + offset + plain.length) }
      (ByteFile.write content (ctx.mChunkSize * n + offset) plain) := by
  have hpos := h.chunkSize_pos
  have harea : (ctx.mChunkSize + M.chunkHeaderSize) * n ≤ area.length := by
    have hlen := hchunks.length_take_code hpos (show ctx.mChunkSize * n ≤ content.length by omega)
    rw [List.length_take] at hlen
    exact hlen ▸ Nat.min_le_right _ _
  have hcode' : Decrypts M ctx 0 (ByteFile.write area ((ctx.mChunkSize + M.chunkHeaderSize) * n) code)
      (ByteFile.write content (ctx.mChunkSize * n + offset) plain) := by
    rw [write_segment hn hcount, write_of_le harea]
    refine hchunks.splice hpos (by omega) hcode ?_
    rw [length_write, List.length_take, List.length_drop]
    obtain hle | hlt := Nat.le_total (ctx.mChunkSize * count) (content.length - ctx.mChunkSize * n)
    · rw [Nat.min_eq_left hle, Nat.max_eq_left hcount]
      exact .inl ⟨count, rfl⟩
    · rw [Nat.min_eq_right hlt]
      omega
  refine ⟨(length_write _ _ _).symm, h.chunkSize_mem, h.readOnly, h.extension_lt, hlimit, head, _, ?_, hhead, hcode'⟩
  rw [hfile, getChunkOffset, ← hhead, Nat.add_comm _ head.length, write_append, rawChunkSizeGet]

/-- The chunks that a write touches are replaced. -/
lemma Represents.writeChunks (h : Represents M ctx content) (hoffset : offset ≤ content.length)
    (htouch : plain ≠ [] ∨ offset % ctx.mChunkSize ≠ 0)
    (hwrap : NoWrap ctx.mChunkSize offset (offset + plain.length)) :
    ∃ ctx', ctx.writeChunks M plain offset (max ctx.mFileSize (offset + plain.length)) = .ok ctx' ∧
      Refines M ctx' (ByteFile.write content offset plain) := by
  obtain ⟨head, area, hfile, hhead, hchunks⟩ := h.chunks
  have hpos := h.chunkSize_pos
  have hlimit := hwrap.stop_le hpos
  have hlt := limit_lt h.chunkSize_mem.2.1
  have hsize := h.length_le
  have hdiv := div_add_mod offset ctx.mChunkSize
  have hmod := mod_lt offset hpos
  have hstop : 0 < offset + plain.length := by
    obtain hne | hne := htouch
    · have hlen := List.length_pos_iff.mpr hne
      omega
    · have hle := mod_le offset ctx.mChunkSize
      omega
  obtain ⟨hlastlt, hlastle⟩ := last_bounds hpos hstop
  have hle : offset / ctx.mChunkSize ≤ (offset + plain.length - 1) / ctx.mChunkSize := by
    rw [Nat.le_div_iff_mul_le hpos, Nat.mul_comm]
    obtain hne | hne := htouch
    · have hlen := List.length_pos_iff.mpr hne
      omega
    · omega
  obtain ⟨hlast, hcount⟩ := hwrap
  have hsub : sub64 (offset + plain.length) 1 = offset + plain.length - 1 := sub64_eq (by omega) (by omega)
  rw [VfsEncryption.writeChunks]
  simp only [hsub, getChunkIndex_eq hlast, getChunkIndex_eq (Nat.lt_of_le_of_lt hle hlast),
    chunkCount_eq hle hlast hcount, read_chunks hfile hhead, h.mFileSize]
  generalize offset / ctx.mChunkSize = first at hdiv hle hcount ⊢
  generalize (offset + plain.length - 1) / ctx.mChunkSize = last at hlastlt hlastle hle hlast hcount ⊢
  generalize offset % ctx.mChunkSize = start at htouch hdiv hmod ⊢
  subst hdiv
  have hlength : ctx.mChunkSize * (last - first + 1) + ctx.mChunkSize * first = ctx.mChunkSize * (last + 1) := by
    rw [← Nat.mul_add, show last - first + 1 + first = last + 1 by omega]
  have hbefore : ctx.mChunkSize * (last - first) + ctx.mChunkSize * first = ctx.mChunkSize * last := by
    rw [← Nat.mul_add, Nat.sub_add_cancel hle]
  have hfirst : ctx.mChunkSize * 1 ≤ ctx.mChunkSize * (last - first + 1) := Nat.mul_le_mul_left _ (by omega)
  have hsegment := h.decrypts_segment hchunks first (last - first + 1)
  have hseglen : ((content.drop (ctx.mChunkSize * first)).take (ctx.mChunkSize * (last - first + 1))).length =
      min (ctx.mChunkSize * (last - first + 1)) (content.length - ctx.mChunkSize * first) := by
    rw [List.length_take, List.length_drop]
  have hstart : start ≤
      ((content.drop (ctx.mChunkSize * first)).take (ctx.mChunkSize * (last - first + 1))).length := by
    omega
  -- what is read from the file is the segment, also where it is empty
  have hraw : (if ctx.mChunkSize * first + start - start < content.length
      then (area.drop ((ctx.mChunkSize + M.chunkHeaderSize) * first)).take
        ((ctx.mChunkSize + M.chunkHeaderSize) * (last - first + 1))
      else []) = (area.drop ((ctx.mChunkSize + M.chunkHeaderSize) * first)).take
        ((ctx.mChunkSize + M.chunkHeaderSize) * (last - first + 1)) := by
    rw [Nat.add_sub_cancel]
    split
    · rfl
    · have hnil : content.drop (ctx.mChunkSize * first) = [] := List.drop_eq_nil_of_le (by omega)
      rw [hnil, List.take_nil] at hsegment
      exact hsegment.code_of_nil.symm
  have hplain : start + plain.length ≤ ctx.mChunkSize * (last - first + 1) := by omega
  rw [hraw, Nat.add_sub_cancel, Nat.add_sub_cancel_left]
  generalize (area.drop ((ctx.mChunkSize + M.chunkHeaderSize) * first)).take
    ((ctx.mChunkSize + M.chunkHeaderSize) * (last - first + 1)) = rawData at hsegment ⊢
  generalize hdef : (content.drop (ctx.mChunkSize * first)).take (ctx.mChunkSize * (last - first + 1)) = segment
    at hsegment hseglen hstart
  have happend : ctx.append M first last (ctx.mChunkSize * first) rawData (segment.take start ++ plain) =
      .ok (ByteFile.write segment start plain) := by
    have hlen : (segment.take start ++ plain).length = start + plain.length := by
      rw [List.length_append, List.length_take_of_le hstart]
    rw [append_eq hsegment hpos h.chunkSize_mem.2.1 h.extension_lt hle hlast hcount (by rw [h.mFileSize, hseglen])
      (by omega) (by omega), hlen, write_of_le hstart, List.append_assoc]
  have hgrow : segment.length ≤ (ByteFile.write segment start plain).length := by
    rw [length_write]
    exact Nat.le_max_left _ _
  obtain ⟨updated, next, rest, random, added, random', hre, henc, hcode⟩ :=
    reencryptChunks_eq hpos hsegment hgrow (fun _ => by rw [length_write]; omega)
  have hne : updated ++ added ≠ [] := by
    intro hnil
    rw [hnil] at hcode
    have hlen := congrArg List.length hcode.content_of_nil
    rw [length_write, List.length_nil] at hlen
    omega
  rw [← hdef] at hcode
  have hwritten := h.splice hfile hhead hchunks hoffset hplain hcode (by rw [length_write]; omega) random'
  simp only [bind, Except.bind, prepend_eq hsegment (Nat.le_of_lt hmod) hstart plain, happend, hre, henc]
  rw [VfsEncryption.fileWrite, if_neg hne]
  exact hwritten.writeHeader

/-- Nothing is put in front of data that begins at the beginning of a chunk. -/
lemma prepend_zero (rawData plain : Bytes) : ctx.prepend M first 0 rawData plain = .ok plain := by
  rw [prepend, if_neg (Nat.lt_irrefl 0)]

/-- Nothing is put behind no data. -/
lemma append_nil (last readOffset : ℕ) (rawData : Bytes) :
    ctx.append M first last readOffset rawData [] = .ok [] := by
  rw [append, if_neg]
  simp

/-- The last chunk index of a read or write of nothing at offset 0 is that of offset -1: then no chunk must be asked for. -/
def NothingAtZero (ctx : VfsEncryption κ) : Prop := (2 ^ 64 - 1) / ctx.mChunkSize % 2 ^ 32 = 2 ^ 32 - 1

instance : Decidable (NothingAtZero ctx) := inferInstanceAs (Decidable (_ = _))

section

variable (h : Represents M ctx content) (hoffset : offset ≤ content.length)
include h hoffset

/-- A write of nothing at the beginning of a chunk only writes the header. -/
lemma Represents.writeChunks_nil (hmod : offset % ctx.mChunkSize = 0) (hzero : offset = 0 → NothingAtZero ctx) :
    ctx.writeChunks M [] offset ctx.mFileSize = ctx.writeHeader M := by
  have hpos := h.chunkSize_pos
  have hsize := h.length_le
  have hlt := limit_lt h.chunkSize_mem.2.1
  have hread : offset < content.length → VfsEncryption.chunkCount (ctx.getChunkIndex offset)
      (ctx.getChunkIndex (sub64 (offset + ([] : Bytes).length) 1)) = 0 := by
    intro hinside
    by_cases h0 : offset = 0
    · subst h0
      have hnothing : NothingAtZero ctx := hzero rfl
      simp only [VfsEncryption.getChunkIndex, Nat.zero_div, zero_mod, List.length_nil,
        show sub64 (0 + 0) 1 = 2 ^ 64 - 1 from rfl]
      rw [hnothing]
      rfl
    · obtain ⟨n, rfl⟩ := dvd_of_mod_eq_zero hmod
      have hn : 0 < n := Nat.pos_of_ne_zero (by rintro rfl; exact h0 rfl)
      have hindex : n < 2 ^ 32 := by
        rw [limit, Nat.mul_comm] at hsize
        exact Nat.lt_of_mul_lt_mul_left (hinside.trans_le hsize)
      have hpred : (ctx.mChunkSize * n - 1) / ctx.mChunkSize = n - 1 := by
        refine Nat.div_eq_of_lt_le ?_ ?_
        · rw [Nat.sub_mul, Nat.mul_comm n]
          omega
        · rw [Nat.sub_add_cancel hn, Nat.mul_comm n]
          omega
      rw [List.length_nil, Nat.add_zero, sub64_eq (by omega) (by omega), VfsEncryption.getChunkIndex,
        VfsEncryption.getChunkIndex, Nat.mul_div_cancel_left _ hpos, hpred, mod_eq_of_lt hindex,
        mod_eq_of_lt (by omega)]
      exact chunkCount_pred hindex hn
  rw [VfsEncryption.writeChunks]
  simp only [hmod, Nat.sub_zero, h.mFileSize]
  have hraw : (if offset < content.length then ByteFile.read ctx.pFileStd
      (ctx.getChunkOffset M (ctx.getChunkIndex offset)) (VfsEncryption.chunkCount (ctx.getChunkIndex offset)
        (ctx.getChunkIndex (sub64 (offset + ([] : Bytes).length) 1)) * ctx.rawChunkSizeGet M) else []) = [] := by
    split
    · rw [hread ‹_›, Nat.zero_mul, ByteFile.read, List.take_zero]
    · rfl
  simp only [hraw, Nat.sub_self, prepend_zero, append_nil, bind, Except.bind]
  rw [VfsEncryption.reencryptChunks, dif_neg (by simp)]
  simp only
  rw [VfsEncryption.encryptChunks, dif_neg (by simp), List.append_nil, VfsEncryption.fileWrite, if_pos rfl, ← h.mFileSize]

lemma Represents.write_nil (hzero : offset = 0 → NothingAtZero ctx) :
    ∃ ctx', ctx.write M [] offset = .ok (0, ctx') ∧ Refines M ctx' content := by
  have hfinal : max ctx.mFileSize (([] : Bytes).length + offset) = ctx.mFileSize := by
    rw [h.mFileSize, List.length_nil]
    omega
  rw [VfsEncryption.write]
  simp only [hfinal]
  rw [if_neg (by rw [h.mFileSize]; omega)]
  by_cases hmod : offset % ctx.mChunkSize = 0
  · obtain ⟨ctx', hheader, hrefines⟩ := h.writeHeader
    rw [h.writeChunks_nil hoffset hmod hzero, hheader]
    exact ⟨ctx', rfl, hrefines⟩
  · have hwrap : NoWrap ctx.mChunkSize offset (offset + ([] : Bytes).length) := by
      have hpos := h.chunkSize_pos
      have hle : (offset - 1) / ctx.mChunkSize ≤ offset / ctx.mChunkSize := Nat.div_le_div_right (sub_le _ _)
      have hlast : (offset - 1) / ctx.mChunkSize < 2 ^ 32 := by
        rw [Nat.div_lt_iff_lt_mul hpos]
        have hne : offset ≠ 0 := by
          rintro rfl
          exact hmod (zero_mod _)
        exact (sub_lt (Nat.pos_of_ne_zero hne) Nat.one_pos).trans_le (hoffset.trans h.length_le)
      rw [List.length_nil, Nat.add_zero]
      exact ⟨hlast, by omega⟩
    obtain ⟨ctx', hwrite, hrefines⟩ := h.writeChunks hoffset (.inr hmod) hwrap
    rw [List.length_nil, Nat.add_zero, Nat.max_eq_left (by rw [h.mFileSize]; exact hoffset)] at hwrite
    rw [ByteFile.write_nil hoffset] at hrefines
    rw [hwrite]
    exact ⟨ctx', rfl, hrefines⟩

lemma Represents.write_inside (hne : plain ≠ []) (hwrap : NoWrap ctx.mChunkSize offset (offset + plain.length)) :
    ∃ ctx', ctx.write M plain offset = .ok (plain.length, ctx') ∧
      Refines M ctx' (ByteFile.write content offset plain) := by
  obtain ⟨ctx', hwrite, hrefines⟩ := h.writeChunks hoffset (.inl hne) hwrap
  rw [VfsEncryption.write]
  simp only [Nat.add_comm plain.length]
  rw [if_neg (by rw [h.mFileSize]; omega), hwrite]
  exact ⟨ctx', rfl, hrefines⟩

end

/-- A write behind the end of the file: the gap is filled with zeros. -/
lemma Represents.write_gap (h : Represents M ctx content) (hoffset : content.length < offset)
    (hwrap : NoWrap ctx.mChunkSize content.length (offset + plain.length)) :
    ∃ ctx', ctx.write M plain offset = .ok (plain.length, ctx') ∧
      Refines M ctx' (ByteFile.write content offset plain) := by
  have hlen : content.length + (List.replicate (offset - content.length) 0 ++ plain).length = offset + plain.length := by
    rw [List.length_append, List.length_replicate]
    omega
  have hne : List.replicate (offset - content.length) 0 ++ plain ≠ [] := by
    rw [Ne, List.append_eq_nil_iff, List.replicate_eq_nil_iff]
    omega
  obtain ⟨ctx', hwrite, hrefines⟩ := h.writeChunks (Nat.le_refl _) (.inl hne) (by rwa [hlen])
  rw [hlen] at hwrite
  rw [← write_of_length_le (Nat.le_of_lt hoffset)] at hrefines
  rw [VfsEncryption.write]
  simp only [Nat.add_comm plain.length, h.mFileSize] at hwrite ⊢
  rw [if_pos hoffset, hwrite]
  exact ⟨ctx', rfl, hrefines⟩

/-! ### Truncating -/

lemma rawFileSizeGet_eq (hpos : 0 < ctx.mChunkSize) (hmem : ctx.mChunkSize ≤ 1048560)
    (hextension : ctx.mHeaderExtensionSize < 2 ^ 16) (hsize : ctx.mFileSize ≤ limit ctx.mChunkSize) :
    ctx.rawFileSizeGet M =
      ctx.headersSize M + (ctx.mFileSize + count ctx.mFileSize ctx.mChunkSize * M.chunkHeaderSize) := by
  have hcount := count_mono hpos hsize
  rw [limit, Nat.mul_comm, count_mul hpos] at hcount
  have hchunks := Nat.mul_le_mul hcount (Nat.le_of_lt M.chunkHeaderSize_lt)
  have hmodule := M.moduleFileHeaderSize_lt
  have hlt := limit_lt hmem
  rw [rawFileSizeGet, chunkNb, headersSize, baseFileHeaderSize, ← EncodedChunks.count, mod_eq_of_lt (by omega)]
  omega

lemma Represents.cut (h : Represents M ctx content) {newSize : ℕ} (hlt : newSize < content.length)
    {head area : Bytes} (hhead : head.length = ctx.headersSize M)
    (hchunks : Decrypts M ctx 0 area (ByteFile.truncate content newSize)) (random : ℕ) :
    Represents M { ctx with random, mFileSize := newSize, pFileStd := head ++ area }
      (ByteFile.truncate content newSize) := by
  have hle : newSize ≤ limit ctx.mChunkSize := (Nat.le_of_lt hlt).trans h.length_le
  refine ⟨(length_truncate _ _).symm, h.chunkSize_mem, h.readOnly, h.extension_lt, ?_, head, area, rfl, hhead, hchunks⟩
  rwa [length_truncate]

/-- The chunks before the last one, which is encrypted anew. -/
lemma cut_chunks (hpos : 0 < ctx.mChunkSize) {area rawChunk : Bytes} (hchunks : Decrypts M ctx 0 area content)
    {last rest : ℕ} (hrest : 0 < rest) (hle : rest ≤ ctx.mChunkSize) (hlt : ctx.mChunkSize * last + rest ≤ content.length)
    (hlen : rawChunk.length = M.chunkHeaderSize + rest) (hdecrypt : M.decryptChunk ctx.m_module last rawChunk =
      some (ByteFile.truncate ((content.drop (ctx.mChunkSize * last)).take ctx.mChunkSize) rest)) :
    Decrypts M ctx 0 (area.take ((ctx.mChunkSize + M.chunkHeaderSize) * last) ++ rawChunk)
      (ByteFile.truncate content (ctx.mChunkSize * last + rest)) := by
  have hsegment : rest ≤ ((content.drop (ctx.mChunkSize * last)).take ctx.mChunkSize).length := by
    rw [List.length_take, List.length_drop]
    omega
  have hplain : (ByteFile.truncate ((content.drop (ctx.mChunkSize * last)).take ctx.mChunkSize) rest).length = rest :=
    length_truncate _ _
  have hcontent : ByteFile.truncate content (ctx.mChunkSize * last + rest) = content.take (ctx.mChunkSize * last) ++
      ByteFile.truncate ((content.drop (ctx.mChunkSize * last)).take ctx.mChunkSize) rest := by
    rw [truncate_of_le hlt, truncate_of_le hsegment, List.take_take, Nat.min_eq_left hle, List.take_add]
  rw [hcontent]
  refine (hchunks.take hpos last).append hpos (List.length_take_of_le (by omega)) ?_
  rw [Nat.zero_add]
  exact .single (List.length_pos_iff.mp (by omega)) (by omega) hdecrypt (by omega)

lemma Represents.truncate_lt (h : Represents M ctx content) {newSize : ℕ} (hlt : newSize < content.length) :
    ∃ ctx', ctx.truncate M newSize = .ok ctx' ∧ Refines M ctx' (ByteFile.truncate content newSize) := by
  obtain ⟨head, area, hfile, hhead, hchunks⟩ := h.chunks
  have hpos := h.chunkSize_pos
  have hmem := h.chunkSize_mem
  have hsize := h.length_le
  have hdiv := div_add_mod newSize ctx.mChunkSize
  have hmod := mod_lt newSize hpos
  have hindex : newSize / ctx.mChunkSize < 2 ^ 32 := by
    rw [Nat.div_lt_iff_lt_mul hpos]
    exact hlt.trans_le hsize
  have hraw (pFileStd : Bytes) (random : ℕ) :
      VfsEncryption.rawFileSizeGet M.toVfsEncryptionModule { ctx with mFileSize := newSize, pFileStd, random } =
        head.length + (newSize + count newSize ctx.mChunkSize * M.chunkHeaderSize) := by
    rw [hhead]
    exact @rawFileSizeGet_eq _ M { ctx with mFileSize := newSize, pFileStd, random } hpos hmem.2.1 h.extension_lt
      ((Nat.le_of_lt hlt).trans hsize)
  rw [VfsEncryption.truncate, h.mFileSize, if_neg (by omega), if_pos hlt, getChunkIndex_eq hindex]
  generalize newSize / ctx.mChunkSize = last at hdiv hindex ⊢
  generalize newSize % ctx.mChunkSize = rest at hdiv hmod ⊢
  subst hdiv
  have htake : (ctx.mChunkSize + M.chunkHeaderSize) * last ≤ area.length := by
    have hlen := hchunks.length_take_code hpos (show ctx.mChunkSize * last ≤ content.length by omega)
    rw [List.length_take] at hlen
    exact hlen ▸ Nat.min_le_right _ _
  rw [count_mul_add hpos] at hraw
  by_cases hzero : rest = 0
  · subst hzero
    have hfirst := hchunks.take hpos last
    have hcut : ctx.mChunkSize * last + 0 + (last + count 0 ctx.mChunkSize) * M.chunkHeaderSize =
        (ctx.mChunkSize + M.chunkHeaderSize) * last := by
      rw [EncodedChunks.count_zero, Nat.add_mul, Nat.add_mul, Nat.mul_comm last]
      omega
    rw [← truncate_of_le (show ctx.mChunkSize * last ≤ content.length by omega)] at hfirst
    obtain ⟨ctx', hheader, hrefines⟩ := (h.cut hlt hhead hfirst ctx.random).writeHeader
    refine ⟨ctx', ?_, hrefines⟩
    simp only [ne_eq, not_true_eq_false, ↓reduceIte, bind, Except.bind, pure, Except.pure]
    rw [hraw, hfile, hcut, truncate_append, truncate_of_le htake]
    exact hheader
  · have htail := hchunks.drop last
    rw [Nat.zero_add] at htail
    have hne : content.drop (ctx.mChunkSize * last) ≠ [] := List.length_pos_iff.mp (by rw [List.length_drop]; omega)
    have hread : ByteFile.read ctx.pFileStd (ctx.getChunkOffset M last) (ctx.rawChunkSizeGet M) =
        (area.drop ((ctx.mChunkSize + M.chunkHeaderSize) * last)).take (ctx.rawChunkSizeGet M) := by
      have hread := read_chunks hfile hhead last 1
      rwa [Nat.one_mul, Nat.mul_one] at hread
    obtain ⟨hdec, hlen, -⟩ := htail.uncons hne
    obtain ⟨rawChunk, hreencrypt, hrawChunk, hdecrypt⟩ := M.reencryptChunk_eq (r := ctx.random) hdec
      (ByteFile.truncate ((content.drop (ctx.mChunkSize * last)).take ctx.mChunkSize) rest)
    rw [length_truncate] at hrawChunk
    have hcut : ctx.mChunkSize * last + rest + (last + count rest ctx.mChunkSize) * M.chunkHeaderSize =
        (ctx.mChunkSize + M.chunkHeaderSize) * last + rawChunk.length := by
      rw [count_of_le (by omega) (by omega), hrawChunk, Nat.add_mul, Nat.add_mul, Nat.mul_comm last]
      omega
    have hchunks' := cut_chunks hpos hchunks (by omega) (Nat.le_of_lt hmod) (Nat.le_of_lt hlt) hrawChunk hdecrypt
    obtain ⟨ctx', hheader, hrefines⟩ := (h.cut hlt hhead hchunks' (ctx.random + 1)).writeHeader
    refine ⟨ctx', ?_, hrefines⟩
    have hstep : ctx.reencryptChunk M last
        ((area.drop ((ctx.mChunkSize + M.chunkHeaderSize) * last)).take (ctx.rawChunkSizeGet M))
        (ByteFile.truncate ((content.drop (ctx.mChunkSize * last)).take ctx.mChunkSize) rest) =
        .ok (rawChunk, { ctx with random := ctx.random + 1 }) := by
      rw [VfsEncryption.reencryptChunk, VfsEncryption.rawChunkSizeGet, if_neg (by omega), hreencrypt]
    have hwritten : ByteFile.truncate (ByteFile.write ctx.pFileStd (ctx.getChunkOffset M last) rawChunk)
        (head.length + ((ctx.mChunkSize + M.chunkHeaderSize) * last + rawChunk.length)) =
        head ++ (area.take ((ctx.mChunkSize + M.chunkHeaderSize) * last) ++ rawChunk) := by
      rw [hfile, VfsEncryption.getChunkOffset, ← hhead, Nat.add_comm _ head.length, write_append, truncate_append,
        VfsEncryption.rawChunkSizeGet, truncate_of_le (by rw [length_write]; exact Nat.le_max_right _ _),
        write_of_le htake, List.take_left']
      rw [List.length_append, List.length_take_of_le htake]
    have hnonempty : rawChunk ≠ [] := List.length_pos_iff.mp (by omega)
    simp only [ne_eq, hzero, not_false_eq_true, ↓reduceIte, bind, Except.bind, pure, Except.pure, hread,
      decryptChunk_eq htail hne, hstep]
    rw [VfsEncryption.fileWrite, if_neg hnonempty]
    simp only [hraw, hcut]
    rw [← hwritten] at hheader
    exact hheader

theorem Represents.truncate (h : Represents M ctx content) {newSize : ℕ}
    (hwrap : content.length < newSize → NoWrap ctx.mChunkSize content.length newSize) (hrefines : Refines M ctx content) :
    ∃ ctx', ctx.truncate M newSize = .ok ctx' ∧ Refines M ctx' (ByteFile.truncate content newSize) := by
  obtain hlt | rfl | hgt := Nat.lt_trichotomy newSize content.length
  · exact h.truncate_lt hlt
  · refine ⟨ctx, ?_, ?_⟩
    · simp [VfsEncryption.truncate, h.mFileSize, pure, Except.pure]
    · rwa [truncate_of_le (Nat.le_refl _), List.take_length]
  · obtain ⟨ctx', hwrite, hrefines⟩ := @write_gap _ _ _ _ [] _ h hgt (hwrap hgt)
    rw [← truncate_of_length_le (Nat.le_of_lt hgt)] at hrefines
    refine ⟨ctx', ?_, hrefines⟩
    simp [VfsEncryption.truncate, h.mFileSize, hgt, hwrite, pure, Except.pure, bind, Except.bind]

end Vfs
