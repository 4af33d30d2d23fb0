import LinphoneSdk.Vfs.EncryptedFile
import Mathlib.Algebra.GroupWithZero.Nat

/-!
# The recovery of an encrypted file

The size in the header disagrees with the size of the file: the clear size is computed anew, and the chunks are checked
from the last one on. Chunk 0 is not, and the loop may start behind the end of the file.
-/

namespace Vfs

open ByteFile VfsEncryption List Option Except Nat

variable {κ : Type} {M : VfsEncryptionModule κ}

/-- A file with an authenticated header, whose size disagrees with its length. -/
structure Interrupted (M : VfsEncryptionModule κ) where
  readOnly : Bool
  chunkSize : Option ℕ
  file : Bytes
  /-- What the header says. -/
  ctx : VfsEncryption κ
  length_lt : file.length < 2 ^ 63
  ne_nil : file ≠ []
  parsed : parseHeader M readOnly file = .ok (some ctx)
  accepted : chunkSizeSet ctx.mChunkSize chunkSize = .ok ctx.mChunkSize
  authentic : M.checkIntegrity ctx.moduleFileHeader ctx.r_header = true
  disagrees : ctx.mIntegrityFullCheck = true

namespace Interrupted

variable (I : Interrupted M)

/-- The size of the chunks, with their headers. -/
def chunksSize : ℕ := I.file.length - I.ctx.headersSize M

def chunks : ℕ := chunkNb I.chunksSize (I.ctx.rawChunkSizeGet M)

def chunk (i : ℕ) : Bytes := read I.file (I.ctx.getChunkOffset M i) (I.ctx.rawChunkSizeGet M)

def size : ℕ := I.chunksSize - I.chunks * M.chunkHeaderSize

/-- The chunk at which the check begins. -/
def lastChunk : ℕ := I.ctx.getChunkIndex I.size

/-- The opening threw an exception, or all the chunks were authenticated and their lengths make the size. -/
def Recovers : Except Failure (Option (List (ℕ × Bytes) × VfsEncryption κ)) → Prop
  | .error .exception => True
  | .ok (some (checked, ctx)) =>
    (∀ i < I.chunks, ∃ plain, (i, plain) ∈ checked) ∧ ctx.mFileSize = (checked.map fun chunk => chunk.2.length).sum
  | _ => False

def Sound : Prop :=
  (I.ctx.headersSize M ≤ I.file.length ∧ I.chunks * M.chunkHeaderSize ≤ I.chunksSize) ∧
    I.Recovers (openFile M I.readOnly I.chunkSize I.file)

/-- There is no chunk; or no size underflows, and the check begins in the file and throws, because it meets a chunk that
is not authentic or because the header cannot be written. -/
def Stops : Prop :=
  I.chunksSize = 0 ∨ I.chunks * M.chunkHeaderSize < I.chunksSize ∧
      (I.lastChunk = 0 ∨ M.chunkHeaderSize ≤ (I.chunk I.lastChunk).length) ∧
      (I.readOnly = true ∨ ∃ i, 0 < i ∧ i ≤ I.lastChunk ∧ M.decryptChunk I.ctx.m_module i (I.chunk i) = none)

/-! ### What the header says -/

lemma parsed_fields : I.ctx.readOnly = I.readOnly ∧ I.ctx.pFileStd = I.file ∧
    I.ctx.headersSize M ≤ I.file.length ∧ I.ctx.mFileSize = I.ctx.recoveredSize M I.file.length := by
  have hparsed := I.parsed
  have hdisagrees := I.disagrees
  have hpos := M.moduleFileHeaderSize_pos
  rw [parseHeader] at hparsed
  split_ifs at hparsed with hplain hsuite hmodule hchunk hsize
  · simp at hparsed
  · simp only [ok.injEq, some.injEq] at hparsed
    rw [← hparsed]
    refine ⟨rfl, rfl, ?_, rfl⟩
    simp only [readHeader, length_read, not_not] at hmodule
    simp only [headersSize, readHeader]
    omega
  · simp only [ok.injEq, some.injEq] at hparsed
    rw [← hparsed] at hdisagrees
    exact absurd hdisagrees Bool.false_ne_true

lemma mFileSize_eq (h : I.chunks * M.chunkHeaderSize ≤ I.chunksSize) : I.ctx.mFileSize = I.size := by
  obtain ⟨-, -, hheaders, hsize⟩ := I.parsed_fields
  have hlt := I.length_lt
  have hsub : sub64 I.file.length (I.ctx.headersSize M) = I.chunksSize := sub64_eq (by omega) hheaders
  rw [hsize, recoveredSize, hsub]
  exact sub64_eq (by simp only [chunksSize]; omega) h

lemma openFile_eq : openFile M I.readOnly I.chunkSize I.file = (I.ctx.checkFile M).map some := by
  rw [openFile, if_neg I.ne_nil, I.parsed]
  simp only [bind, Except.bind, I.accepted]
  cases I.ctx.checkFile M <;> rfl

/-! ### The check of the chunks -/

/-- A chunk is as long as the next ones, or longer. -/
lemma length_chunk_anti {i j : ℕ} (h : i ≤ j) : (I.chunk j).length ≤ (I.chunk i).length := by
  have hoffset : I.ctx.rawChunkSizeGet M * i ≤ I.ctx.rawChunkSizeGet M * j := Nat.mul_le_mul_left _ h
  simp only [chunk, length_read, getChunkOffset]
  omega

/-- The loop checks all the chunks from `i` to 1, or throws. -/
lemma checkChunks_eq {i : ℕ} (h : i = 0 ∨ M.chunkHeaderSize ≤ (I.chunk i).length) :
    (∃ j, 0 < j ∧ j ≤ i ∧ M.decryptChunk I.ctx.m_module j (I.chunk j) = none) ∧
        I.ctx.checkChunks M i = .error .exception ∨
      (¬ ∃ j, 0 < j ∧ j ≤ i ∧ M.decryptChunk I.ctx.m_module j (I.chunk j) = none) ∧
        ∃ checked, I.ctx.checkChunks M i = .ok checked ∧ ∀ chunk ∈ checked, 0 < chunk.1 := by
  obtain ⟨-, hfile, -, -⟩ := I.parsed_fields
  induction i with
  | zero => exact .inr ⟨by rintro ⟨j, hpos, hle, -⟩; omega, [], rfl, by simp⟩
  | succ i ih =>
    have hlen : M.chunkHeaderSize ≤ (I.chunk (i + 1)).length := h.resolve_left (succ_ne_zero i)
    have hread : read I.ctx.pFileStd (I.ctx.getChunkOffset M (i + 1)) (I.ctx.rawChunkSizeGet M) = I.chunk (i + 1) := by
      rw [hfile, chunk]
    rw [checkChunks, hread, decryptChunk, if_neg (not_lt.mpr hlen)]
    cases hdecrypt : M.decryptChunk I.ctx.m_module (i + 1) (I.chunk (i + 1)) with
    | none => exact .inl ⟨⟨i + 1, succ_pos i, le_rfl, hdecrypt⟩, rfl⟩
    | some plain =>
      obtain ⟨⟨j, hpos, hle, hj⟩, hcheck⟩ | ⟨hall, checked, hcheck, hindexes⟩ :=
        ih (.inr (hlen.trans (I.length_chunk_anti (le_succ i))))
      · exact .inl ⟨⟨j, hpos, hle.trans (le_succ i), hj⟩, by rw [hcheck]; rfl⟩
      · refine .inr ⟨?_, _, by rw [hcheck]; rfl, ?_⟩
        · rintro ⟨j, hpos, hle, hj⟩
          obtain hlt | rfl := Nat.lt_or_eq_of_le hle
          · exact hall ⟨j, hpos, le_of_lt_succ hlt, hj⟩
          · simp [hdecrypt] at hj
        · intro chunk hmem
          obtain rfl | hmem := mem_cons.mp hmem
          · exact succ_pos i
          · exact hindexes chunk hmem

/-- The check that begins behind the end of the file decrypts a chunk without a header. -/
lemma checkChunks_short {i : ℕ} (hpos : i ≠ 0) (h : (I.chunk i).length < M.chunkHeaderSize) :
    I.ctx.checkChunks M i = .error .undefined := by
  obtain ⟨-, hfile, -, -⟩ := I.parsed_fields
  obtain ⟨i, rfl⟩ := exists_eq_succ_of_ne_zero hpos
  have hread : read I.ctx.pFileStd (I.ctx.getChunkOffset M (i + 1)) (I.ctx.rawChunkSizeGet M) = I.chunk (i + 1) := by
    rw [hfile, chunk]
  rw [succ_eq_add_one, checkChunks, hread, decryptChunk, if_pos h]
  rfl

/-- An empty clear text is not checked. -/
lemma checkFile_of_zero (h : I.ctx.mFileSize = 0) : I.ctx.checkFile M = .ok ([], I.ctx) := by
  rw [checkFile, if_neg (by omega)]

lemma checkFile_of_pos (h : 0 < I.ctx.mFileSize) : I.ctx.checkFile M = (do
    let checked ← I.ctx.checkChunks M (I.ctx.getChunkIndex I.ctx.mFileSize)
    let ctx ← I.ctx.writeHeader M
    return (checked, ctx)) := by
  rw [checkFile, if_pos h, if_neg (not_not.mpr I.authentic), if_pos I.disagrees]

lemma chunks_pos (h : I.chunksSize ≠ 0) : 0 < I.chunks := by
  rw [chunks, chunkNb]
  split_ifs with hmod
  · exact Nat.add_pos_left Nat.one_pos _
  · have hdvd := dvd_of_mod_eq_zero (Nat.eq_zero_of_not_pos hmod)
    have hdiv := Nat.div_mul_cancel hdvd
    refine Nat.add_pos_right 0 (Nat.pos_of_ne_zero fun hzero => h ?_)
    rw [← hdiv, hzero, Nat.zero_mul]

/-- Chunk 0 is never checked. -/
lemma not_recovers (h : 0 < I.chunks) {checked : List (ℕ × Bytes)} (hchecked : ∀ chunk ∈ checked, 0 < chunk.1)
    (ctx : VfsEncryption κ) : ¬ I.Recovers (.ok (some (checked, ctx))) := by
  rintro ⟨hall, -⟩
  obtain ⟨plain, hmem⟩ := hall 0 h
  exact absurd (hchecked _ hmem) (Nat.lt_irrefl 0)

variable {I} in
lemma Sound.of_checked (h : I.Sound) {checked : List (ℕ × Bytes)}
    (hresult : (openFile M I.readOnly I.chunkSize I.file).map (Option.map Prod.fst) = .ok (some checked)) :
    ∀ i < I.chunks, ∃ plain, (i, plain) ∈ checked := by
  obtain ⟨-, hrecovers⟩ := h
  match hopen : openFile M I.readOnly I.chunkSize I.file with
  | .ok (some (checked', ctx)) =>
    rw [hopen] at hrecovers hresult
    simp only [Except.map, map_some, ok.injEq, some.injEq] at hresult
    exact hresult ▸ hrecovers.1
  | .ok none => simp [hopen, Except.map] at hresult
  | .error _ => simp [hopen, Except.map] at hresult

variable {I} in
lemma Sound.not_undefined (h : I.Sound) :
    (openFile M I.readOnly I.chunkSize I.file).map (Option.map Prod.fst) ≠ .error .undefined := by
  obtain ⟨-, hrecovers⟩ := h
  match hopen : openFile M I.readOnly I.chunkSize I.file with
  | .error .exception => simp [Except.map]
  | .error .undefined => simp [hopen, Recovers] at hrecovers
  | .ok _ => simp [Except.map]

/-- The opening is sound if and only if there is no chunk or the check stops it. -/
theorem sound_iff_stops : I.Sound ↔ I.Stops := by
  obtain ⟨hreadOnly, -, hheaders, -⟩ := I.parsed_fields
  by_cases hempty : I.chunksSize = 0
  · have hchunks : I.chunks = 0 := by simp [chunks, chunkNb, hempty]
    have hsize : I.ctx.mFileSize = 0 := by
      rw [I.mFileSize_eq (by simp [hchunks]), size, hempty, Nat.zero_sub]
    refine iff_of_true ⟨⟨hheaders, by simp [hchunks]⟩, ?_⟩ (.inl hempty)
    rw [I.openFile_eq, I.checkFile_of_zero hsize]
    exact ⟨fun i hi => by omega, hsize⟩
  have hchunks := I.chunks_pos hempty
  by_cases hunder : I.chunks * M.chunkHeaderSize ≤ I.chunksSize
  case neg =>
    refine iff_of_false (fun hsound => hunder hsound.1.2) ?_
    rintro (hzero | ⟨hlt, -⟩)
    · exact hempty hzero
    · exact hunder hlt.le
  have hmFileSize := I.mFileSize_eq hunder
  by_cases hzero : I.size = 0
  · -- the computed size is 0, and nothing is checked
    have hstops : ¬ I.Stops := by
      rintro (hcontra | ⟨hlt, -⟩)
      · exact hempty hcontra
      · simp only [size] at hzero
        omega
    refine iff_of_false (fun hsound => ?_) hstops
    have hrecovers := hsound.2
    rw [I.openFile_eq, I.checkFile_of_zero (hmFileSize.trans hzero)] at hrecovers
    exact I.not_recovers hchunks (by simp) _ hrecovers
  have hstrict : I.chunks * M.chunkHeaderSize < I.chunksSize := by
    simp only [size] at hzero
    omega
  have hopen : openFile M I.readOnly I.chunkSize I.file = (do
      let checked ← I.ctx.checkChunks M I.lastChunk
      let ctx ← I.ctx.writeHeader M
      return some (checked, ctx)) := by
    rw [I.openFile_eq, I.checkFile_of_pos (by omega), hmFileSize, ← lastChunk]
    cases I.ctx.checkChunks M I.lastChunk with
    | error _ => rfl
    | ok _ => cases I.ctx.writeHeader M <;> rfl
  rw [Sound, Stops, or_iff_right hempty, and_iff_right ⟨hheaders, hunder⟩, and_iff_right hstrict, hopen]
  by_cases hbegin : I.lastChunk = 0 ∨ M.chunkHeaderSize ≤ (I.chunk I.lastChunk).length
  case neg =>
    obtain ⟨hne, hshort⟩ := not_or.mp hbegin
    rw [I.checkChunks_short hne (not_le.mp hshort)]
    exact iff_of_false id (fun hcond => hbegin hcond.1)
  rw [and_iff_right hbegin]
  obtain ⟨hfails, hcheck⟩ | ⟨hall, checked, hcheck, hindexes⟩ := I.checkChunks_eq hbegin
  · rw [hcheck]
    exact iff_of_true trivial (.inr hfails)
  · rw [hcheck, or_iff_left hall]
    simp only [bind, Except.bind, writeHeader, hreadOnly]
    cases I.readOnly with
    | true => simp [Recovers]
    | false => exact iff_of_false (I.not_recovers hchunks hindexes _) Bool.false_ne_true

end Interrupted

/-! ### A file whose first chunk is not authentic -/

lemma copyHeaderSize_pos : 0 < 48 := by decide

/-- A module whose tags are copies: the header of a chunk repeats its index, and the header of the module starts with the
header of the file. -/
def copyModule : VfsEncryptionModule Unit where
  encryptionSuite := 2
  moduleFileHeaderSize := 48
  moduleFileHeaderSize_pos := copyHeaderSize_pos
  chunkHeaderSize := 28
  create := ()
  ofFileHeader _ := ()
  getModuleFileHeader _ rawHeader := rawHeader ++ replicate 19 0
  checkIntegrity moduleFileHeader rawHeader := moduleFileHeader = rawHeader ++ replicate 19 0
  encryptChunk _ _ chunkIndex plain := replicate 28 (.ofNat chunkIndex) ++ plain
  reencryptChunk _ _ chunkIndex _ plain := some (replicate 28 (.ofNat chunkIndex) ++ plain)
  decryptChunk _ chunkIndex rawChunk :=
    if rawChunk.take 28 = replicate 28 (.ofNat chunkIndex) then some (rawChunk.drop 28) else none

/-- The headers of a file of chunks of 16 bytes, whose clear size was 10. -/
def interruptedHeaders : Bytes :=
  let rawHeader := BCENCRYPTEDFS ++ [1, 0, 0, 2, 0, 1, 0, 0] ++ [0, 0, 0, 0, 0, 0, 0, 10]
  rawHeader ++ copyModule.getModuleFileHeader () rawHeader

def tamperedFile : Bytes :=
  interruptedHeaders ++ (replicate 28 7 ++ replicate 16 7) ++ copyModule.encryptChunk () 0 1 [1, 2, 3, 4]

def wholeFile : Bytes := interruptedHeaders ++ copyModule.encryptChunk () 0 0 (replicate 16 7)

def tampered : Interrupted copyModule where
  readOnly := false
  chunkSize := none
  file := tamperedFile
  ctx := { readHeader copyModule false tamperedFile with
    mIntegrityFullCheck := true
    mFileSize := (readHeader copyModule false tamperedFile).recoveredSize copyModule tamperedFile.length }
  length_lt := by decide +kernel
  ne_nil := by decide +kernel
  parsed := parseHeader_of_ne (by decide +kernel) (by decide +kernel) (by decide +kernel) (by decide +kernel)
    (by decide +kernel)
  accepted := rfl
  authentic := by decide +kernel
  disagrees := rfl

def whole : Interrupted copyModule where
  readOnly := false
  chunkSize := none
  file := wholeFile
  ctx := { readHeader copyModule false wholeFile with
    mIntegrityFullCheck := true
    mFileSize := (readHeader copyModule false wholeFile).recoveredSize copyModule wholeFile.length }
  length_lt := by decide +kernel
  ne_nil := by decide +kernel
  parsed := parseHeader_of_ne (by decide +kernel) (by decide +kernel) (by decide +kernel) (by decide +kernel)
    (by decide +kernel)
  accepted := rfl
  authentic := by decide +kernel
  disagrees := rfl

lemma openFile_tampered :
    (openFile copyModule tampered.readOnly tampered.chunkSize tampered.file).map (Option.map Prod.fst) =
      .ok (some [(1, [1, 2, 3, 4])]) := by decide +kernel

lemma chunks_tampered : 0 < tampered.chunks := by decide +kernel

lemma openFile_whole :
    (openFile copyModule whole.readOnly whole.chunkSize whole.file).map (Option.map Prod.fst) = .error .undefined := by
  decide +kernel

/-- The first file is opened though its chunk 0 was not authenticated; in the second one, a chunk behind the end of the
file is decrypted. -/
theorem not_sound_tampered_whole : ¬ tampered.Sound ∧ ¬ whole.Sound := by
  constructor
  · intro hsound
    obtain ⟨plain, hmem⟩ := hsound.of_checked openFile_tampered 0 chunks_tampered
    simp at hmem
  · intro hsound
    exact hsound.not_undefined openFile_whole

end Vfs
