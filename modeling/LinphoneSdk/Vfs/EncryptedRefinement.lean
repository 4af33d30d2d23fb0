import LinphoneSdk.Lib.EncodedChunks
import LinphoneSdk.Vfs.EncryptedOperations

/-!
# Encrypted files refine plain files

What a file of the encrypted VFS represents is a plain file: the bytes of each chunk decrypt to the bytes of the plain
file at the same place. The operations on the encrypted file are those on the plain one.
-/

namespace Vfs

open Bytes ByteFile EncodedChunks List VfsEncryption Except Nat

/-- An encryption module that is a correct AEAD: what was encrypted is decrypted, at the same index, and what the module
wrote into the header of a file is read back and authenticates the header. -/
structure Aead (κ : Type) extends VfsEncryptionModule κ where
  chunkHeaderSize_lt : chunkHeaderSize < 2 ^ 16
  moduleFileHeaderSize_lt : moduleFileHeaderSize < 2 ^ 16
  length_encryptChunk : ∀ k r i plain, (encryptChunk k r i plain).length = chunkHeaderSize + plain.length
  decrypt_encryptChunk : ∀ k r i plain, decryptChunk k i (encryptChunk k r i plain) = some plain
  reencryptChunk_eq : ∀ {k r i rawChunk old}, decryptChunk k i rawChunk = some old → ∀ plain,
    ∃ rawChunk', reencryptChunk k r i rawChunk plain = some rawChunk' ∧
      rawChunk'.length = chunkHeaderSize + plain.length ∧ decryptChunk k i rawChunk' = some plain
  length_getModuleFileHeader : ∀ k {rawHeader : Bytes}, rawHeader.length = baseFileHeaderSize →
    (getModuleFileHeader k rawHeader).length = moduleFileHeaderSize
  ofFileHeader_getModuleFileHeader : ∀ k rawHeader, ofFileHeader (getModuleFileHeader k rawHeader) = k
  checkIntegrity_getModuleFileHeader : ∀ k rawHeader, checkIntegrity (getModuleFileHeader k rawHeader) rawHeader = true

instance {κ : Type} : CoeOut (Aead κ) (VfsEncryptionModule κ) := ⟨Aead.toVfsEncryptionModule⟩

variable {κ : Type} {M : Aead κ} {ctx : VfsEncryption κ} {content : Bytes}

/-- The indexes of the chunks that begin before this size do not wrap on 32 bits. -/
def limit (chunkSize : ℕ) : ℕ := 2 ^ 32 * chunkSize

/-- No index and no number of chunks wraps for the bytes from `offset` up to `stop`, of which there is one at least. -/
def NoWrap (chunkSize offset stop : ℕ) : Prop :=
  (stop - 1) / chunkSize < 2 ^ 32 ∧ (stop - 1) / chunkSize - offset / chunkSize + 1 < 2 ^ 32

instance (chunkSize offset stop : ℕ) : Decidable (NoWrap chunkSize offset stop) :=
  inferInstanceAs (Decidable (_ ∧ _))

/-- The chunks from index `i` on are decrypted to some content. -/
abbrev Decrypts (M : Aead κ) (ctx : VfsEncryption κ) (i : ℕ) (area content : Bytes) : Prop :=
  Encodes (M.decryptChunk ctx.m_module) ctx.mChunkSize M.chunkHeaderSize i area content

structure Represents (M : Aead κ) (ctx : VfsEncryption κ) (content : Bytes) : Prop where
  mFileSize : ctx.mFileSize = content.length
  chunkSize_mem : 16 ≤ ctx.mChunkSize ∧ ctx.mChunkSize ≤ 1048560 ∧ ctx.mChunkSize % 16 = 0
  readOnly : ctx.readOnly = false
  extension_lt : ctx.mHeaderExtensionSize < 2 ^ 16
  length_le : content.length ≤ limit ctx.mChunkSize
  /-- The chunks follow the headers. -/
  chunks : ∃ head area, ctx.pFileStd = head ++ area ∧ head.length = ctx.headersSize M ∧ Decrypts M ctx 0 area content

namespace Represents

lemma chunkSize_pos (h : Represents M ctx content) : 0 < ctx.mChunkSize := by
  have hmem := h.chunkSize_mem.1
  omega

end Represents

/-! ### Indexes -/

lemma limit_lt {chunkSize : ℕ} (h : chunkSize ≤ 1048560) : limit chunkSize < 2 ^ 52 := by
  rw [limit]
  omega

lemma getChunkIndex_eq {offset : ℕ} (h : offset / ctx.mChunkSize < 2 ^ 32) :
    ctx.getChunkIndex offset = offset / ctx.mChunkSize := by
  rw [getChunkIndex, mod_eq_of_lt h]

lemma chunkCount_eq {first last : ℕ} (h : first ≤ last) (hlast : last < 2 ^ 32) (hcount : last - first + 1 < 2 ^ 32) :
    chunkCount first last = last - first + 1 := by
  rw [chunkCount]
  omega

lemma chunkCount_pred {first : ℕ} (h : first < 2 ^ 32) (hpos : 0 < first) : chunkCount first (first - 1) = 0 := by
  rw [chunkCount]
  omega

/-! ### Reading -/

lemma decryptChunk_eq {i : ℕ} {area : Bytes} (h : Decrypts M ctx i area content) (hne : content ≠ []) :
    ctx.decryptChunk M i (area.take (ctx.rawChunkSizeGet M)) = .ok (content.take ctx.mChunkSize) := by
  obtain ⟨hdec, hlen, -⟩ := h.uncons hne
  rw [decryptChunk, rawChunkSizeGet, if_neg (by omega), hdec]

/-- The index of the next chunk does not wrap. -/
lemma next_index {chunkSize i : ℕ} (hlimit : chunkSize * i + content.length ≤ limit chunkSize)
    (hne : content.drop chunkSize ≠ []) :
    (i + 1) % 2 ^ 32 = i + 1 ∧ chunkSize * (i + 1) + (content.drop chunkSize).length ≤ limit chunkSize := by
  have hlt : chunkSize < content.length := by
    by_contra hle
    exact hne (drop_eq_nil_of_le (by omega))
  have hindex : i + 1 < 2 ^ 32 := by
    by_contra hge
    have hmul : 2 ^ 32 * chunkSize ≤ (i + 1) * chunkSize := Nat.mul_le_mul_right _ (by omega)
    rw [limit] at hlimit
    rw [Nat.mul_comm chunkSize] at hlimit
    rw [succ_mul] at hmul
    omega
  rw [mod_eq_of_lt hindex, length_drop, mul_succ]
  omega

lemma decryptChunks_eq {i : ℕ} {area : Bytes} (hpos : 0 < ctx.mChunkSize) (h : Decrypts M ctx i area content)
    (hlimit : content ≠ [] → ctx.mChunkSize * i + content.length ≤ limit ctx.mChunkSize) :
    ctx.decryptChunks M i area = .ok content := by
  induction hn : content.length using Nat.strong_induction_on generalizing i area content with
  | _ n ih =>
    rw [decryptChunks]
    by_cases hne : content = []
    · subst hne
      rw [h.code_of_nil, dif_neg (by simp)]
    obtain ⟨hdec, hlen, htail⟩ := h.uncons hne
    have hcontent := length_pos_iff.mpr hne
    have htake : 0 < (content.take ctx.mChunkSize).length := by
      rw [length_take]
      omega
    have hle := length_take_le' (ctx.mChunkSize + M.chunkHeaderSize) area
    have hnext : ctx.decryptChunks M ((i + 1) % 2 ^ 32) (area.drop (ctx.rawChunkSizeGet M)) =
        .ok (content.drop ctx.mChunkSize) := by
      have hdrop : (content.drop ctx.mChunkSize).length < n := by
        rw [length_drop]
        omega
      by_cases hrest : content.drop ctx.mChunkSize = []
      · have htail' := htail
        rw [hrest] at htail'
        rw [rawChunkSizeGet, htail'.code_of_nil, hrest, decryptChunks, dif_neg (by simp)]
      · obtain ⟨hindex, hlimit'⟩ := next_index (hlimit hne) hrest
        rw [hindex]
        exact ih _ hdrop htail (fun _ => hlimit') rfl
    rw [dif_pos ⟨by omega, by simp only [rawChunkSizeGet]; omega⟩, decryptChunk_eq h hne, hnext]
    simp [bind, Except.bind, pure, Except.pure]

lemma read_chunks {head area : Bytes} (hfile : ctx.pFileStd = head ++ area)
    (hhead : head.length = ctx.headersSize M) (i n : ℕ) :
    ByteFile.read ctx.pFileStd (ctx.getChunkOffset M i) (n * ctx.rawChunkSizeGet M) =
      (area.drop ((ctx.mChunkSize + M.chunkHeaderSize) * i)).take ((ctx.mChunkSize + M.chunkHeaderSize) * n) := by
  rw [hfile, getChunkOffset, ← hhead, Nat.add_comm, read_append, ByteFile.read, rawChunkSizeGet, Nat.mul_comm n]

/-- The last chunk that covers a byte before `stop`. -/
lemma last_bounds {chunkSize stop : ℕ} (hpos : 0 < chunkSize) (hstop : 0 < stop) :
    chunkSize * ((stop - 1) / chunkSize) < stop ∧ stop ≤ chunkSize * ((stop - 1) / chunkSize + 1) := by
  have hdiv := div_add_mod (stop - 1) chunkSize
  have hmod := mod_lt (stop - 1) hpos
  rw [mul_succ]
  omega

/-- What does not wrap ends before the limit. -/
lemma NoWrap.stop_le {chunkSize offset stop : ℕ} (hpos : 0 < chunkSize) (h : NoWrap chunkSize offset stop) :
    stop ≤ limit chunkSize := by
  have hdiv := (Nat.div_lt_iff_lt_mul hpos).mp h.1
  rw [limit]
  omega

/-- A read gives the bytes of the plain file. -/
theorem Represents.read_eq (h : Represents M ctx content) {offset count : ℕ}
    (hwrap : count ≠ 0 → NoWrap ctx.mChunkSize offset (offset + count)) :
    ctx.read M offset count = .ok (ByteFile.read content offset count) := by
  obtain ⟨head, area, hfile, hhead, hchunks⟩ := h.chunks
  have hpos := h.chunkSize_pos
  have hdecrypt (i n : ℕ) : ctx.decryptChunks M i ((area.drop ((ctx.mChunkSize + M.chunkHeaderSize) * i)).take
      ((ctx.mChunkSize + M.chunkHeaderSize) * n)) =
      .ok ((content.drop (ctx.mChunkSize * i)).take (ctx.mChunkSize * n)) := by
    have hsegment := (hchunks.drop i).take hpos n
    rw [Nat.zero_add] at hsegment
    refine decryptChunks_eq hpos hsegment fun hne => ?_
    have hlen := h.length_le
    have hseg := length_pos_iff.mpr hne
    rw [length_take, length_drop] at hseg ⊢
    omega
  rw [VfsEncryption.read]
  simp only [read_chunks hfile hhead, hdecrypt]
  by_cases hcount : count = 0
  · subst hcount
    simp [ByteFile.read, bind, Except.bind, pure, Except.pure]
  have hwrap := hwrap hcount
  have hlimit := hwrap.stop_le hpos
  have hlt := limit_lt h.chunkSize_mem.2.1
  have hsub : sub64 (offset + count) 1 = offset + count - 1 := sub64_eq (by omega) (by omega)
  have hle : offset / ctx.mChunkSize ≤ (offset + count - 1) / ctx.mChunkSize := Nat.div_le_div_right (by omega)
  have hstop := (last_bounds hpos (show 0 < offset + count by omega)).2
  rw [hsub, getChunkIndex_eq (Nat.lt_of_le_of_lt hle hwrap.1), getChunkIndex_eq hwrap.1,
    chunkCount_eq hle hwrap.1 hwrap.2]
  simp only [bind, Except.bind, pure, Except.pure, ok.injEq, ByteFile.read]
  have hdiv := div_add_mod offset ctx.mChunkSize
  rw [drop_take, drop_drop, hdiv, take_take, min_eq_left]
  rw [← Nat.sub_add_comm hle, Nat.mul_sub]
  omega

/-- New chunks decrypt to the data. -/
lemma encryptChunks_eq {i : ℕ} {plain : Bytes} (hpos : 0 < ctx.mChunkSize)
    (hlimit : plain ≠ [] → ctx.mChunkSize * i + plain.length ≤ limit ctx.mChunkSize) :
    ∃ added random, ctx.encryptChunks M i plain = (added, { ctx with random }) ∧ Decrypts M ctx i added plain := by
  induction hn : plain.length using Nat.strong_induction_on generalizing ctx i plain with
  | _ n ih =>
    rw [encryptChunks]
    by_cases hne : plain = []
    · subst hne
      rw [dif_neg (by simp)]
      exact ⟨[], ctx.random, rfl, .nil i⟩
    have hlen := length_pos_iff.mpr hne
    have hdrop : (plain.drop ctx.mChunkSize).length < n := by
      rw [length_drop]
      omega
    have hnext : ∃ added random, { ctx with random := ctx.random + 1 }.encryptChunks M ((i + 1) % 2 ^ 32)
        (plain.drop ctx.mChunkSize) = (added, { ctx with random }) ∧
          Decrypts M ctx (i + 1) added (plain.drop ctx.mChunkSize) := by
      by_cases hrest : plain.drop ctx.mChunkSize = []
      · rw [hrest, encryptChunks, dif_neg (by simp)]
        exact ⟨[], ctx.random + 1, rfl, .nil _⟩
      · obtain ⟨hindex, hlimit'⟩ := next_index (hlimit hne) hrest
        rw [hindex]
        exact @ih _ hdrop { ctx with random := ctx.random + 1 } _ _ hpos (fun _ => hlimit') rfl
    obtain ⟨added, random, henc, hadded⟩ := hnext
    rw [dif_pos ⟨hne, hpos⟩, henc]
    exact ⟨_, random, rfl, .of_take hne hpos (M.decrypt_encryptChunk _ _ _ _) (M.length_encryptChunk _ _ _ _) hadded⟩

/-- The chunks that are overwritten, then the new ones, decrypt to the data. -/
lemma reencryptChunks_eq {i : ℕ} {rawData old plain : Bytes} (hpos : 0 < ctx.mChunkSize)
    (h : Decrypts M ctx i rawData old) (hle : old.length ≤ plain.length)
    (hlimit : plain ≠ [] → ctx.mChunkSize * i + plain.length ≤ limit ctx.mChunkSize) :
    ∃ updated next rest random added random', ctx.reencryptChunks M i rawData plain =
        .ok (updated, next, rest, { ctx with random }) ∧
      { ctx with random }.encryptChunks M next rest = (added, { ctx with random := random' }) ∧
      Decrypts M ctx i (updated ++ added) plain := by
  induction hn : old.length using Nat.strong_induction_on generalizing ctx i rawData old plain with
  | _ n ih =>
    rw [reencryptChunks]
    by_cases hne : old = []
    · subst hne
      rw [h.code_of_nil, dif_neg (by simp)]
      obtain ⟨added, random, henc, hadded⟩ := encryptChunks_eq (M := M) hpos hlimit
      exact ⟨[], i, plain, ctx.random, added, random, rfl, henc, hadded⟩
    obtain ⟨hdec, hlen, htail⟩ := h.uncons hne
    have hold := length_pos_iff.mpr hne
    have hplain : plain ≠ [] := length_pos_iff.mp (by omega)
    have hraw : rawData ≠ [] := by
      rintro rfl
      exact hne h.content_of_nil
    obtain ⟨rawChunk, hreencrypt, hrawChunk, hdecrypt⟩ :=
      M.reencryptChunk_eq (r := ctx.random) hdec (plain.take ctx.mChunkSize)
    have hstep : ctx.reencryptChunk M i (rawData.take (ctx.rawChunkSizeGet M)) (plain.take ctx.mChunkSize) =
        .ok (rawChunk, { ctx with random := ctx.random + 1 }) := by
      rw [reencryptChunk, rawChunkSizeGet, if_neg (by omega), hreencrypt]
    have hdrop : (old.drop ctx.mChunkSize).length < n := by
      rw [length_drop]
      omega
    have hdrople : (old.drop ctx.mChunkSize).length ≤ (plain.drop ctx.mChunkSize).length := by
      rw [length_drop, length_drop]
      omega
    have hnext : ∃ updated next rest random added random', { ctx with random := ctx.random + 1 }.reencryptChunks M
          ((i + 1) % 2 ^ 32) (rawData.drop (ctx.rawChunkSizeGet M)) (plain.drop ctx.mChunkSize) =
          .ok (updated, next, rest, { ctx with random }) ∧
        { ctx with random }.encryptChunks M next rest = (added, { ctx with random := random' }) ∧
        Decrypts M ctx (i + 1) (updated ++ added) (plain.drop ctx.mChunkSize) := by
      by_cases hrest : plain.drop ctx.mChunkSize = []
      · have hraw' : rawData.drop (ctx.rawChunkSizeGet M) = [] := by
          have hdropold : old.drop ctx.mChunkSize = [] := by
            rw [hrest, length_nil] at hdrople
            exact length_eq_zero_iff.mp (by omega)
          rw [hdropold] at htail
          exact htail.code_of_nil
        rw [hraw', hrest, reencryptChunks, dif_neg (by simp)]
        refine ⟨[], _, [], ctx.random + 1, [], ctx.random + 1, rfl, ?_, .nil _⟩
        rw [encryptChunks, dif_neg (by simp)]
      · obtain ⟨hindex, hlimit'⟩ := next_index (hlimit hplain) hrest
        rw [hindex]
        exact @ih _ hdrop { ctx with random := ctx.random + 1 } _ _ _ _ hpos htail hdrople (fun _ => hlimit') rfl
    obtain ⟨updated, next, rest, random, added, random', hre, henc, hdecrypts⟩ := hnext
    rw [dif_pos ⟨hraw, by simp only [rawChunkSizeGet]; omega⟩, hstep]
    simp only [bind, Except.bind, hre, pure, Except.pure]
    refine ⟨_, next, rest, random, added, random', rfl, henc, ?_⟩
    rw [append_assoc]
    exact .of_take hplain hpos hdecrypt hrawChunk hdecrypts

end Vfs
