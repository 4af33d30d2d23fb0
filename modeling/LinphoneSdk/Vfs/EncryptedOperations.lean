import LinphoneSdk.Vfs.EncryptedFile

/-!
# Reading and writing encrypted files

A write decrypts the chunks that it changes in part, and encrypts again all the chunks that it touches. The vectors for
the chunks from the first index to the last one are allocated here whatever their number; runs bound it.
-/

namespace Vfs

open ByteFile

variable {κ : Type} (M : VfsEncryptionModule κ)

namespace VfsEncryption

def fileSizeGet (ctx : VfsEncryption κ) : ℕ := ctx.mFileSize

/-- The loop of `read`: what is not longer than a chunk header is left. -/
def decryptChunks (ctx : VfsEncryption κ) (chunkIndex : ℕ) (rawData : Bytes) : Except Failure Bytes :=
  if _ : M.chunkHeaderSize < rawData.length ∧ 0 < ctx.rawChunkSizeGet M then do
    let plainChunk ← ctx.decryptChunk M chunkIndex (rawData.take (ctx.rawChunkSizeGet M))
    let plainData ← decryptChunks ctx ((chunkIndex + 1) % 2 ^ 32) (rawData.drop (ctx.rawChunkSizeGet M))
    return plainChunk ++ plainData
  else .ok []
  termination_by rawData.length
  decreasing_by
    simp only [List.length_drop]
    omega

def read (ctx : VfsEncryption κ) (offset count : ℕ) : Except Failure Bytes := do
  let firstChunk := ctx.getChunkIndex offset
  let lastChunk := ctx.getChunkIndex (sub64 (offset + count) 1)
  let rawData := ByteFile.read ctx.pFileStd (ctx.getChunkOffset M firstChunk)
    (chunkCount firstChunk lastChunk * ctx.rawChunkSizeGet M)
  let plainData ← ctx.decryptChunks M firstChunk rawData
  return (plainData.drop (offset % ctx.mChunkSize)).take count

/-! ### Writing -/

/-- A physical write: nothing happens where there is nothing to write. -/
def fileWrite (ctx : VfsEncryption κ) (data : Bytes) (offset : ℕ) : VfsEncryption κ :=
  if data = [] then ctx else { ctx with pFileStd := write ctx.pFileStd offset data }

def reencryptChunk (ctx : VfsEncryption κ) (chunkIndex : ℕ) (rawChunk plain : Bytes) :
    Except Failure (Bytes × VfsEncryption κ) :=
  if rawChunk.length < M.chunkHeaderSize then .error .undefined
  else
    match M.reencryptChunk ctx.m_module ctx.random chunkIndex rawChunk plain with
    | none => .error .exception
    | some rawChunk => .ok (rawChunk, { ctx with random := ctx.random + 1 })

/-- The overwritten chunks are encrypted anew: what they become, the next index and what remains of the clear data. -/
def reencryptChunks (ctx : VfsEncryption κ) (chunkIndex : ℕ) (rawData plain : Bytes) :
    Except Failure (Bytes × ℕ × Bytes × VfsEncryption κ) :=
  if _ : rawData ≠ [] ∧ 0 < ctx.rawChunkSizeGet M then do
    let (rawChunk, ctx') ←
      ctx.reencryptChunk M chunkIndex (rawData.take (ctx.rawChunkSizeGet M)) (plain.take ctx.mChunkSize)
    let (updated, next, rest, ctx') ← reencryptChunks ctx' ((chunkIndex + 1) % 2 ^ 32)
      (rawData.drop (ctx.rawChunkSizeGet M)) (plain.drop ctx.mChunkSize)
    return (rawChunk ++ updated, next, rest, ctx')
  else .ok ([], chunkIndex, plain, ctx)
  termination_by rawData.length
  decreasing_by
    have hpos : 0 < rawData.length := List.length_pos_iff.mpr (by tauto)
    simp only [List.length_drop]
    omega

/-- New chunks are added. -/
def encryptChunks (ctx : VfsEncryption κ) (chunkIndex : ℕ) (plain : Bytes) : Bytes × VfsEncryption κ :=
  if _ : plain ≠ [] ∧ 0 < ctx.mChunkSize then
    let rawChunk := M.encryptChunk ctx.m_module ctx.random chunkIndex (plain.take ctx.mChunkSize)
    let (updated, ctx') := encryptChunks { ctx with random := ctx.random + 1 } ((chunkIndex + 1) % 2 ^ 32)
      (plain.drop ctx.mChunkSize)
    (rawChunk ++ updated, ctx')
  else ([], ctx)
  termination_by plain.length
  decreasing_by
    have hpos : 0 < plain.length := List.length_pos_iff.mpr (by tauto)
    simp only [List.length_drop]
    omega

/-- The data from the beginning of the first chunk is put in front of the clear data. -/
def prepend (ctx : VfsEncryption κ) (firstChunk count : ℕ) (rawData plain : Bytes) : Except Failure Bytes :=
  if 0 < count then do
    let plainChunk ← ctx.decryptChunk M firstChunk (rawData.take (ctx.rawChunkSizeGet M))
    if plainChunk.length < count then .error .undefined else return plainChunk.take count ++ plain
  else .ok plain

/-- The data up to the end of the last chunk is put behind the clear data, which begins at `readOffset`. -/
def append (ctx : VfsEncryption κ) (firstChunk lastChunk readOffset : ℕ) (rawData plain : Bytes) :
    Except Failure Bytes :=
  if plain.length % ctx.mChunkSize ≠ 0 ∧ plain.length + readOffset < ctx.mFileSize then do
    let start := ctx.getChunkOffset M lastChunk - ctx.getChunkOffset M firstChunk
    let stop :=
      min (sub64 (ctx.getChunkOffset M ((lastChunk + 1) % 2 ^ 32)) (ctx.getChunkOffset M firstChunk)) rawData.length
    if lastChunk < firstChunk ∨ stop < start then .error .undefined
    else
      let plainChunk ← ctx.decryptChunk M lastChunk ((rawData.take stop).drop start)
      if plainChunk.length < plain.length % ctx.mChunkSize then .error .undefined
      else return plain ++ plainChunk.drop (plain.length % ctx.mChunkSize)
  else .ok plain

/-- The write, once the gap behind the end of the file is part of the data. -/
def writeChunks (ctx : VfsEncryption κ) (plain : Bytes) (offset finalFileSize : ℕ) :
    Except Failure (VfsEncryption κ) := do
  let firstChunk := ctx.getChunkIndex offset
  let lastChunk := ctx.getChunkIndex (sub64 (offset + plain.length) 1)
  let rawDataSize := chunkCount firstChunk lastChunk * ctx.rawChunkSizeGet M
  -- we must start at the beginning of a chunk
  let readOffset := offset - offset % ctx.mChunkSize
  let rawData := if readOffset < ctx.mFileSize
    then ByteFile.read ctx.pFileStd (ctx.getChunkOffset M firstChunk) rawDataSize else []
  let plain ← ctx.prepend M firstChunk (offset - readOffset) rawData plain
  let plain ← ctx.append M firstChunk lastChunk readOffset rawData plain
  let (updated, next, rest, ctx') ← ctx.reencryptChunks M firstChunk rawData plain
  let (added, ctx') := ctx'.encryptChunks M next rest
  let ctx' := ctx'.fileWrite (updated ++ added) (ctx.getChunkOffset M firstChunk)
  { ctx' with mFileSize := finalFileSize }.writeHeader M

/-- The result is the number of bytes that were written. -/
def write (ctx : VfsEncryption κ) (plainData : Bytes) (offset : ℕ) : Except Failure (ℕ × VfsEncryption κ) := do
  let finalFileSize := max ctx.mFileSize (plainData.length + offset)
  -- a write behind the end of the file: zeros are put in front
  let ctx ← if ctx.mFileSize < offset
    then ctx.writeChunks M (List.replicate (offset - ctx.mFileSize) 0 ++ plainData) ctx.mFileSize finalFileSize
    else ctx.writeChunks M plainData offset finalFileSize
  return (plainData.length, ctx)

def truncate (ctx : VfsEncryption κ) (newSize : ℕ) : Except Failure (VfsEncryption κ) := do
  if ctx.mFileSize < newSize then
    -- write nothing at the new size, the gap is filled with zeros
    return (← ctx.write M [] newSize).2
  else if newSize < ctx.mFileSize then
    let chunkIndex := ctx.getChunkIndex newSize
    let ctx ← if newSize % ctx.mChunkSize ≠ 0 then do
        let rawData := ByteFile.read ctx.pFileStd (ctx.getChunkOffset M chunkIndex) (ctx.rawChunkSizeGet M)
        let plainLastChunk ← ctx.decryptChunk M chunkIndex rawData
        let (rawData, ctx) ←
          ctx.reencryptChunk M chunkIndex rawData (ByteFile.truncate plainLastChunk (newSize % ctx.mChunkSize))
        pure (ctx.fileWrite rawData (ctx.getChunkOffset M chunkIndex))
      else pure ctx
    let ctx := { ctx with mFileSize := newSize }
    { ctx with pFileStd := ByteFile.truncate ctx.pFileStd (ctx.rawFileSizeGet M) }.writeHeader M
  else return ctx

end VfsEncryption

end Vfs
