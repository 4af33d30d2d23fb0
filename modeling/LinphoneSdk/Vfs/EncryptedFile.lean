import LinphoneSdk.Lib.ByteFile
import LinphoneSdk.Lib.Bytes

/-!
# The encrypted files of the VFS

A file is cut into chunks, each of which is encrypted with a header of its own. The file starts with a header, which has
the size of the clear text, and with the header of the encryption module.
-/

namespace Vfs

open Bytes ByteFile

/-- Why a function does not return: an `EvfsException`, or behaviour that is not defined, such as an access behind the
end of a vector. -/
inductive Failure where
  | exception
  | undefined
  deriving DecidableEq, Repr

/-- An encryption module with its secret material. `κ` is what the module keeps of a file: its salt. -/
structure VfsEncryptionModule (κ : Type) where
  encryptionSuite : UInt16
  moduleFileHeaderSize : ℕ
  moduleFileHeaderSize_pos : 0 < moduleFileHeaderSize
  chunkHeaderSize : ℕ
  /-- A file is created. -/
  create : κ
  /-- The header of a file is parsed. -/
  ofFileHeader : Bytes → κ
  getModuleFileHeader : κ → Bytes → Bytes
  /-- The header of the module authenticates the header of the file. -/
  checkIntegrity : Bytes → Bytes → Bool
  /-- The first number stands for the random values that are drawn. -/
  encryptChunk : κ → ℕ → ℕ → Bytes → Bytes
  reencryptChunk : κ → ℕ → ℕ → Bytes → Bytes → Option Bytes
  decryptChunk : κ → ℕ → Bytes → Option Bytes

structure VfsEncryption (κ : Type) where
  mVersionNumber : UInt16
  mChunkSize : ℕ
  m_module : κ
  /-- The header that the module was given when the file header was parsed. -/
  moduleFileHeader : Bytes
  mHeaderExtensionSize : ℕ
  mFileSize : ℕ
  r_header : Bytes
  mIntegrityFullCheck : Bool
  /-- `mAccessMode == O_RDONLY`. -/
  readOnly : Bool
  /-- The bytes of the file. -/
  pFileStd : Bytes
  /-- The chunks that were encrypted so far. -/
  random : ℕ

def baseFileHeaderSize : ℕ := 29

def defaultChunkSize : ℕ := 4096

def BCENCRYPTEDFS : Bytes :=
  [0x62, 0x63, 0x45, 0x6e, 0x63, 0x72, 0x79, 0x70, 0x74, 0x65, 0x64, 0x46, 0x73]

def BcEncFS_v0100 : UInt16 := 0x0100

/-- `a - b`, on 64 bits. -/
def sub64 (a b : ℕ) : ℕ := (a + (2 ^ 64 - b % 2 ^ 64)) % 2 ^ 64

lemma sub64_eq {a b : ℕ} (ha : a < 2 ^ 64) (h : b ≤ a) : sub64 a b = a - b := by
  rw [sub64, Nat.mod_eq_of_lt (h.trans_lt ha)]
  omega

variable {κ : Type} (M : VfsEncryptionModule κ)

/-! ### Sizes and offsets -/

namespace VfsEncryption

def rawChunkSizeGet (ctx : VfsEncryption κ) : ℕ := ctx.mChunkSize + M.chunkHeaderSize

def headersSize (ctx : VfsEncryption κ) : ℕ := baseFileHeaderSize + ctx.mHeaderExtensionSize + M.moduleFileHeaderSize

/-- The number of chunks of a given size, the last of which may be incomplete. -/
def chunkNb (size chunkSize : ℕ) : ℕ := (if 0 < size % chunkSize then 1 else 0) + size / chunkSize

def rawFileSizeGet (ctx : VfsEncryption κ) : ℕ :=
  (ctx.mFileSize + chunkNb ctx.mFileSize ctx.mChunkSize * M.chunkHeaderSize + ctx.headersSize M) % 2 ^ 64

def getChunkIndex (ctx : VfsEncryption κ) (offset : ℕ) : ℕ := offset / ctx.mChunkSize % 2 ^ 32

def getChunkOffset (ctx : VfsEncryption κ) (index : ℕ) : ℕ := ctx.rawChunkSizeGet M * index + ctx.headersSize M

/-- `lastChunk - firstChunk + 1`, on 32 bits. -/
def chunkCount (firstChunk lastChunk : ℕ) : ℕ := (lastChunk + (2 ^ 32 - firstChunk) + 1) % 2 ^ 32

/-- A chunk that is shorter than its header is read behind its end. -/
def decryptChunk (ctx : VfsEncryption κ) (chunkIndex : ℕ) (rawChunk : Bytes) : Except Failure Bytes :=
  if rawChunk.length < M.chunkHeaderSize then .error .undefined
  else
    match M.decryptChunk ctx.m_module chunkIndex rawChunk with
    | none => .error .exception
    | some plain => .ok plain

/-! ### The header -/

/-- The header, without the part of the encryption module. The size of the header extension is written as 0. -/
def rawHeader (ctx : VfsEncryption κ) : Bytes :=
  BCENCRYPTEDFS ++ be16 ctx.mVersionNumber ++ be16 M.encryptionSuite ++ be16 (.ofNat (ctx.mChunkSize / 16)) ++ be16 0 ++
    be32 (.ofNat (ctx.mFileSize / 2 ^ 32)) ++ be32 (.ofNat ctx.mFileSize)

def writeHeader (ctx : VfsEncryption κ) : Except Failure (VfsEncryption κ) :=
  let ctx := { ctx with r_header := ctx.rawHeader M }
  let header := ctx.r_header ++ M.getModuleFileHeader ctx.m_module ctx.r_header
  if ctx.readOnly then .error .exception else .ok { ctx with pFileStd := write ctx.pFileStd 0 header }

def recoveredSize (ctx : VfsEncryption κ) (fileSize : ℕ) : ℕ :=
  let mFileSize := sub64 fileSize (ctx.headersSize M)
  sub64 mFileSize (chunkNb mFileSize (ctx.rawChunkSizeGet M) * M.chunkHeaderSize)

def readHeader (readOnly : Bool) (file : Bytes) : VfsEncryption κ :=
  let r_header := read file 0 baseFileHeaderSize
  let mHeaderExtensionSize := (be16At r_header 19).toNat
  let moduleFileHeader := read file (baseFileHeaderSize + mHeaderExtensionSize) M.moduleFileHeaderSize
  { mVersionNumber := be16At r_header 13
    mChunkSize := (be16At r_header 17).toNat * 16
    m_module := M.ofFileHeader moduleFileHeader
    moduleFileHeader
    mHeaderExtensionSize
    mFileSize := (be32At r_header 21).toNat * 2 ^ 32 + (be32At r_header 25).toNat
    r_header
    mIntegrityFullCheck := false
    readOnly
    pFileStd := file
    random := 0 }

def parseHeader (readOnly : Bool) (file : Bytes) : Except Failure (Option (VfsEncryption κ)) :=
  let ctx := readHeader M readOnly file
  if file.length < baseFileHeaderSize ∨ ctx.r_header.take BCENCRYPTEDFS.length ≠ BCENCRYPTEDFS then .ok none
  -- another suite is not supported, or the callback refuses it
  else if be16At ctx.r_header 15 ≠ M.encryptionSuite then .error .exception
  else if ctx.moduleFileHeader.length ≠ M.moduleFileHeaderSize then .error .exception
  -- a division by zero
  else if ctx.mChunkSize = 0 then .error .undefined
  else if ctx.rawFileSizeGet M ≠ file.length then
    .ok (some { ctx with mIntegrityFullCheck := true, mFileSize := ctx.recoveredSize M file.length })
  else .ok (some ctx)

variable {M} in
/-- The header says another size. -/
lemma parseHeader_of_ne {readOnly : Bool} {file : Bytes} (hplain : ¬ (file.length < baseFileHeaderSize ∨
      (readHeader M readOnly file).r_header.take BCENCRYPTEDFS.length ≠ BCENCRYPTEDFS))
    (hsuite : be16At (readHeader M readOnly file).r_header 15 = M.encryptionSuite)
    (hmodule : (readHeader M readOnly file).moduleFileHeader.length = M.moduleFileHeaderSize)
    (hchunk : (readHeader M readOnly file).mChunkSize ≠ 0)
    (hsize : (readHeader M readOnly file).rawFileSizeGet M ≠ file.length) :
    parseHeader M readOnly file = .ok (some { readHeader M readOnly file with
      mIntegrityFullCheck := true, mFileSize := (readHeader M readOnly file).recoveredSize M file.length }) := by
  rw [parseHeader, if_neg hplain, if_neg (not_not.mpr hsuite), if_neg (not_not.mpr hmodule), if_neg hchunk,
    if_pos hsize]

/-! ### The opening of a file -/

/-- What the callback sets: the size of the chunks, or nothing. It always sets the suite and the secret material. -/
def chunkSizeSet (mChunkSize : ℕ) : Option ℕ → Except Failure ℕ
  | none => .ok mChunkSize
  | some size =>
    if size < 16 ∨ 1048560 < size ∨ size % 16 ≠ 0 then .error .exception
    else if mChunkSize = 0 then .ok size
    else if mChunkSize ≠ size then .error .exception
    else .ok mChunkSize

/-- The integrity of the chunks is checked, from a chunk down to chunk 1. The result is what they decrypt to. -/
def checkChunks (ctx : VfsEncryption κ) : ℕ → Except Failure (List (ℕ × Bytes))
  | 0 => .ok []
  | chunkIndex + 1 => do
    let rawData := read ctx.pFileStd (ctx.getChunkOffset M (chunkIndex + 1)) (ctx.rawChunkSizeGet M)
    let plain ← ctx.decryptChunk M (chunkIndex + 1) rawData
    let checked ← checkChunks ctx chunkIndex
    return (chunkIndex + 1, plain) :: checked

/-- The end of the constructor, for a file that is encrypted: the chunks that were checked, and the file. -/
def checkFile (ctx : VfsEncryption κ) : Except Failure (List (ℕ × Bytes) × VfsEncryption κ) :=
  if 0 < ctx.mFileSize then
    if ¬ M.checkIntegrity ctx.moduleFileHeader ctx.r_header then .error .exception
    else if ctx.mIntegrityFullCheck then do
      let checked ← ctx.checkChunks M (ctx.getChunkIndex ctx.mFileSize)
      let ctx ← ctx.writeHeader M
      return (checked, ctx)
    else .ok ([], ctx)
  else .ok ([], ctx)

def fresh (chunkSize : ℕ) (file : Bytes) : VfsEncryption κ where
  mVersionNumber := BcEncFS_v0100
  mChunkSize := if chunkSize = 0 then defaultChunkSize else chunkSize
  m_module := M.create
  moduleFileHeader := []
  mHeaderExtensionSize := 0
  mFileSize := file.length
  r_header := []
  mIntegrityFullCheck := false
  readOnly := false
  pFileStd := []
  random := 0

/-- The loop of the migration: the chunks of the plain file are written into the temporary one. -/
def migrateChunks (ctx : VfsEncryption κ) (currentChunkIndex : ℕ) (plain : Bytes) : VfsEncryption κ :=
  if _ : plain = [] ∨ ctx.mChunkSize = 0 then ctx
  else
    let rawChunk := M.encryptChunk ctx.m_module ctx.random currentChunkIndex (plain.take ctx.mChunkSize)
    let pFileStd := write ctx.pFileStd (ctx.getChunkOffset M currentChunkIndex) rawChunk
    migrateChunks { ctx with pFileStd, random := ctx.random + 1 } ((currentChunkIndex + 1) % 2 ^ 32)
      (plain.drop ctx.mChunkSize)
  termination_by plain.length
  decreasing_by
    have hpos : 0 < plain.length := List.length_pos_iff.mpr (by tauto)
    simp only [List.length_drop]
    omega

/-- The constructor, with a callback that sets the suite of the module. The result is the chunks that were checked, and
the file; `none` if it is kept plain. -/
def openFile (readOnly : Bool) (chunkSize : Option ℕ) (file : Bytes) :
    Except Failure (Option (List (ℕ × Bytes) × VfsEncryption κ)) :=
  if file = [] then do
    let mChunkSize ← chunkSizeSet 0 chunkSize
    let ctx ← ({ fresh M mChunkSize [] with readOnly } : VfsEncryption κ).writeHeader M
    return some ([], ctx)
  else do
    match ← parseHeader M readOnly file with
    | none =>
      let mChunkSize ← chunkSizeSet 0 chunkSize
      if readOnly then return none
      else
        let ctx ← ((fresh M mChunkSize file).migrateChunks M 0 file).writeHeader M
        return some ([], ctx)
    | some ctx =>
      let mChunkSize ← chunkSizeSet ctx.mChunkSize chunkSize
      let opened ← ({ ctx with mChunkSize } : VfsEncryption κ).checkFile M
      return some opened

end VfsEncryption

end Vfs
