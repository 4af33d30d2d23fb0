import LinphoneSdk.Vfs.EncryptedUpdates

/-!
# Opening encrypted files

A file that is created, a plain one that is encrypted and an encrypted one are opened as files that refine a plain one.
-/

namespace Vfs

open Bytes ByteFile EncodedChunks VfsEncryption Except Nat

variable {κ : Type} {M : Aead κ} {ctx : VfsEncryption κ} {content file : Bytes} {chunkSize : Option ℕ}

namespace VfsEncryption

/-- A size that is set on an existing file is the one that the file has. -/
lemma chunkSizeSet_eq {mChunkSize size : ℕ} (hpos : 0 < mChunkSize) (h : chunkSizeSet mChunkSize chunkSize = .ok size) :
    size = mChunkSize := by
  cases chunkSize with
  | none => exact (ok.inj h).symm
  | some chunkSize =>
    rw [chunkSizeSet] at h
    split at h
    · simp at h
    · rw [if_neg (by omega)] at h
      split at h
      · simp at h
      · exact (ok.inj h).symm

/-- The size of the chunks of a file that is created is accepted. -/
lemma chunkSizeSet_mem {size : ℕ} (h : chunkSizeSet 0 chunkSize = .ok size) :
    16 ≤ (if size = 0 then defaultChunkSize else size) ∧ (if size = 0 then defaultChunkSize else size) ≤ 1048560 ∧
      (if size = 0 then defaultChunkSize else size) % 16 = 0 := by
  cases chunkSize with
  | none =>
    have hsize : 0 = size := ok.inj h
    rw [if_pos hsize.symm]
    decide
  | some chunkSize =>
    rw [chunkSizeSet] at h
    split at h
    · simp at h
    · rename_i hmem
      have hsize : chunkSize = size := ok.inj h
      rw [if_neg (by omega)]
      omega

end VfsEncryption

/-! ### Existing files -/

/-- The size that the header tells is that of the file. -/
lemma Represents.rawFileSizeGet_eq (h : Represents M ctx content) : ctx.rawFileSizeGet M = ctx.pFileStd.length := by
  obtain ⟨head, area, hfile, hhead, hchunks⟩ := h.chunks
  have hle : ctx.mFileSize ≤ limit ctx.mChunkSize := h.mFileSize.trans_le h.length_le
  have hraw := Vfs.rawFileSizeGet_eq (M := M) h.chunkSize_pos h.chunkSize_mem.2.1 h.extension_lt hle
  have hlen := hchunks.length_code h.chunkSize_pos
  rw [hraw, hfile, List.length_append, hhead, hlen]
  generalize ctx.headersSize M = headers, M.chunkHeaderSize = overhead
  rw [← h.mFileSize]

lemma parseHeader_of_eq (hplain : ¬ (file.length < baseFileHeaderSize ∨
      (stored M file).r_header.take BCENCRYPTEDFS.length ≠ BCENCRYPTEDFS))
    (hsuite : be16At (stored M file).r_header 15 = M.encryptionSuite)
    (hmodule : (stored M file).moduleFileHeader.length = M.moduleFileHeaderSize)
    (hchunk : (stored M file).mChunkSize ≠ 0) (hsize : (stored M file).rawFileSizeGet M = file.length) :
    parseHeader M.toVfsEncryptionModule false file = .ok (some (stored M file)) := by
  rw [parseHeader, if_neg hplain, if_neg (not_not.mpr hsuite), if_neg (not_not.mpr hmodule),
    if_neg hchunk, if_neg (not_not.mpr hsize)]

lemma checkFile_eq (hauthentic : M.checkIntegrity ctx.moduleFileHeader ctx.r_header = true)
    (hfull : ctx.mIntegrityFullCheck = false) : ctx.checkFile M = .ok ([], ctx) := by
  rw [checkFile, hfull, if_neg (not_not.mpr hauthentic)]
  simp

lemma openFile_of_parseHeader (hne : file ≠ [])
    (hparse : parseHeader M.toVfsEncryptionModule false file = .ok (some ctx))
    (haccepted : chunkSizeSet ctx.mChunkSize chunkSize = .ok ctx.mChunkSize)
    (hcheck : ctx.checkFile M = .ok ([], ctx)) :
    openFile M.toVfsEncryptionModule false chunkSize file = .ok (some ([], ctx)) := by
  rw [openFile, if_neg hne, hparse]
  simp only [bind, Except.bind, haccepted, hcheck, pure, Except.pure]

lemma StoredAs.openFile (h : StoredAs M file content) {size : ℕ}
    (haccepted : chunkSizeSet (stored M file).mChunkSize chunkSize = .ok size) :
    openFile M.toVfsEncryptionModule false chunkSize file = .ok (some ([], stored M file)) := by
  have hpos := h.represents.chunkSize_pos
  have hlen := h.length_ge
  have hne : file ≠ [] := by
    rintro rfl
    exact absurd h.length_ge (by decide)
  have hsize := chunkSizeSet_eq hpos haccepted
  rw [hsize] at haccepted
  refine openFile_of_parseHeader hne ?_ haccepted (checkFile_eq h.authentic rfl)
  exact parseHeader_of_eq (not_or.mpr ⟨Nat.not_lt.mpr hlen, not_not.mpr h.magic⟩) h.suite h.module (Nat.ne_of_gt hpos)
    h.represents.rawFileSizeGet_eq

lemma StoredAs.refines (h : StoredAs M file content) : Refines M (stored M file) content := ⟨h.represents, rfl, fun _ => h⟩

/-- A file that is created. -/
lemma openFile_nil {size : ℕ} (haccepted : chunkSizeSet 0 chunkSize = .ok size) :
    ∃ ctx, openFile M.toVfsEncryptionModule false chunkSize [] = .ok (some ([], ctx)) ∧ Refines M ctx [] := by
  have hmem := chunkSizeSet_mem haccepted
  have hrefines := @refines_header _ M (fresh M.toVfsEncryptionModule size []) [] rfl hmem rfl
    (Nat.two_pow_pos 16) (Nat.zero_le _) [] [] rfl (.nil 0)
  refine ⟨_, ?_, hrefines⟩
  rw [openFile, if_pos rfl, haccepted]
  simp only [bind, Except.bind, pure, Except.pure]
  rw [writeHeader_eq rfl]
  simp [fresh, ByteFile.write]

/-! ### The encryption of plain files -/

lemma migrateChunks_nil (i : ℕ) : ctx.migrateChunks M i [] = ctx := by
  rw [migrateChunks, dif_pos (Or.inl rfl)]

lemma migrateChunks_cons {i : ℕ} {plain : Bytes} (hne : plain ≠ []) (hpos : 0 < ctx.mChunkSize) :
    ctx.migrateChunks M i plain = { ctx with
        pFileStd := ByteFile.write ctx.pFileStd (ctx.getChunkOffset M i)
          (M.encryptChunk ctx.m_module ctx.random i (plain.take ctx.mChunkSize))
        random := ctx.random + 1 }.migrateChunks M ((i + 1) % 2 ^ 32) (plain.drop ctx.mChunkSize) := by
  have hcond : ¬ (plain = [] ∨ ctx.mChunkSize = 0) := not_or.mpr ⟨hne, Nat.ne_of_gt hpos⟩
  rw [migrateChunks, dif_neg hcond]

/-- A chunk is written behind whole chunks. -/
lemma write_chunk (hpos : 0 < ctx.mChunkSize) {i : ℕ} {head area done : Bytes}
    (hfile : ctx.pFileStd = head ++ area) (hhead : head.length = ctx.headersSize M)
    (hchunks : Decrypts M ctx 0 area done) (hdone : done.length = ctx.mChunkSize * i) (rawChunk : Bytes) :
    ByteFile.write ctx.pFileStd (ctx.getChunkOffset M i) rawChunk = head ++ (area ++ rawChunk) := by
  have harea : area.length = (ctx.mChunkSize + M.chunkHeaderSize) * i := by
    rw [hchunks.length_code hpos, hdone, count_mul hpos, Nat.add_mul, Nat.mul_comm i]
  rw [hfile, getChunkOffset, ← hhead, Nat.add_comm, write_append, rawChunkSizeGet, ← harea,
    write_of_le (Nat.le_refl _), List.take_length, List.drop_eq_nil_of_le (Nat.le_add_right _ _), List.append_nil]

/-- The loop writes the chunks of the plain file. -/
lemma migrateChunks_eq {i : ℕ} {head area done plain : Bytes} (hpos : 0 < ctx.mChunkSize)
    (hfile : ctx.pFileStd = head ++ area) (hhead : head.length = ctx.headersSize M)
    (hchunks : Decrypts M ctx 0 area done) (hdone : done.length = ctx.mChunkSize * i)
    (hlimit : plain ≠ [] → ctx.mChunkSize * i + plain.length ≤ limit ctx.mChunkSize) :
    ∃ area' random, ctx.migrateChunks M i plain = { ctx with pFileStd := head ++ area', random } ∧
      Decrypts M ctx 0 area' (done ++ plain) := by
  induction hn : plain.length using Nat.strong_induction_on generalizing ctx i area done plain with
  | _ n ih =>
    by_cases hne : plain = []
    · subst hne
      rw [migrateChunks_nil, List.append_nil]
      exact ⟨area, ctx.random, by rw [← hfile], hchunks⟩
    have hlen := List.length_pos_iff.mpr hne
    have htake : plain.take ctx.mChunkSize ≠ [] := by
      rw [← List.length_pos_iff, List.length_take]
      omega
    have hchunk : Decrypts M ctx (0 + i) (M.encryptChunk ctx.m_module ctx.random i (plain.take ctx.mChunkSize))
        (plain.take ctx.mChunkSize) := by
      rw [Nat.zero_add]
      exact .single htake (List.length_take_le _ _) (M.decrypt_encryptChunk _ _ _ _) (M.length_encryptChunk _ _ _ _)
    have hnext := hchunks.append hpos hdone hchunk
    rw [migrateChunks_cons hne hpos, write_chunk hpos hfile hhead hchunks hdone]
    by_cases hrest : plain.drop ctx.mChunkSize = []
    · have hwhole : plain.take ctx.mChunkSize = plain := by
        have hsplit := List.take_append_drop ctx.mChunkSize plain
        rwa [hrest, List.append_nil] at hsplit
      rw [hrest, migrateChunks_nil]
      rw [hwhole] at hnext ⊢
      exact ⟨_, _, rfl, hnext⟩
    · obtain ⟨hindex, hlimit'⟩ := next_index (hlimit hne) hrest
      have hlt : ctx.mChunkSize < plain.length := by
        by_contra hle
        exact hrest (List.drop_eq_nil_of_le (by omega))
      have hdone' : (done ++ plain.take ctx.mChunkSize).length = ctx.mChunkSize * (i + 1) := by
        rw [List.length_append, hdone, List.length_take_of_le (Nat.le_of_lt hlt), mul_succ]
      rw [hindex]
      obtain ⟨area', random, hmigrate, hchunks'⟩ := @ih (plain.drop ctx.mChunkSize).length
        (by rw [List.length_drop]; omega) { ctx with pFileStd := _, random := ctx.random + 1 } _ _ _ _ hpos rfl hhead
        hnext hdone' (fun _ => hlimit') rfl
      rw [List.append_assoc, List.take_append_drop] at hchunks'
      exact ⟨area', random, hmigrate, hchunks'⟩

/-- The first chunk is written behind the place of the headers. -/
lemma migrateChunks_empty {plain : Bytes} (hne : plain ≠ []) (hpos : 0 < ctx.mChunkSize)
    (hfile : ctx.pFileStd = []) :
    ctx.migrateChunks M 0 plain =
      { ctx with pFileStd := List.replicate (ctx.headersSize M) 0 }.migrateChunks M 0 plain := by
  have hwrite (rawChunk : Bytes) : ByteFile.write ctx.pFileStd (ctx.getChunkOffset M 0) rawChunk =
      ByteFile.write (List.replicate (ctx.headersSize M) 0) (ctx.getChunkOffset M 0) rawChunk := by
    rw [hfile, getChunkOffset, Nat.mul_zero, Nat.zero_add]
    simp [ByteFile.write]
  rw [migrateChunks_cons hne hpos, hwrite]
  exact (@migrateChunks_cons _ M { ctx with pFileStd := List.replicate (ctx.headersSize M) 0 } 0 plain hne hpos).symm

lemma openFile_plain (hne : file ≠ [])
    (hplain : file.length < baseFileHeaderSize ∨ (stored M file).r_header.take BCENCRYPTEDFS.length ≠ BCENCRYPTEDFS)
    {size : ℕ} (haccepted : chunkSizeSet 0 chunkSize = .ok size)
    (hlimit : file.length ≤ limit (if size = 0 then defaultChunkSize else size)) :
    ∃ ctx, openFile M.toVfsEncryptionModule false chunkSize file = .ok (some ([], ctx)) ∧ Refines M ctx file := by
  have hmem := chunkSizeSet_mem haccepted
  have hfresh : openFile M.toVfsEncryptionModule false chunkSize file = (do
      let ctx ← ((fresh M.toVfsEncryptionModule size file).migrateChunks M 0 file).writeHeader M
      return some ([], ctx)) := by
    have hparse : parseHeader M.toVfsEncryptionModule false file = .ok none := by
      rw [parseHeader, if_pos hplain]
    rw [openFile, if_neg hne, hparse]
    simp only [bind, Except.bind, haccepted]
    rfl
  have hfile : (fresh M.toVfsEncryptionModule size file).pFileStd = [] := rfl
  have hsize : (fresh M.toVfsEncryptionModule size file).mFileSize = file.length := rfl
  have hchunkSize : (fresh M.toVfsEncryptionModule size file).mChunkSize =
      if size = 0 then defaultChunkSize else size := rfl
  have hreadOnly : (fresh M.toVfsEncryptionModule size file).readOnly = false := rfl
  have hextension : (fresh M.toVfsEncryptionModule size file).mHeaderExtensionSize < 2 ^ 16 :=
    Nat.two_pow_pos 16
  rw [← hchunkSize] at hmem hlimit
  rw [hfresh]
  generalize fresh M.toVfsEncryptionModule size file = ctx at *
  have hpos : 0 < ctx.mChunkSize := by omega
  obtain ⟨area, random, hmigrate, hchunks⟩ := @migrateChunks_eq _ M
    { ctx with pFileStd := List.replicate (ctx.headersSize M) 0 } 0 (List.replicate (ctx.headersSize M) 0) [] [] file hpos
    (List.append_nil _).symm List.length_replicate (.nil 0) rfl
    (fun _ => by rw [Nat.mul_zero, Nat.zero_add]; exact hlimit)
  have hrepresents : Represents M { ctx with pFileStd := List.replicate (ctx.headersSize M) 0 ++ area, random } file :=
    ⟨hsize, hmem, hreadOnly, hextension, hlimit, _, area, rfl, List.length_replicate, hchunks⟩
  obtain ⟨ctx', hheader, hrefines⟩ := hrepresents.writeHeader
  rw [migrateChunks_empty hne hpos hfile, hmigrate, hheader]
  exact ⟨ctx', rfl, hrefines⟩

end Vfs
