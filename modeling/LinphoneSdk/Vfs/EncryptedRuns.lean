import LinphoneSdk.Vfs.EncryptedOpening

/-!
# Runs of operations on encrypted files

An encrypted file is opened, and any operations follow, which include closing and reopening it. What they return is what
they return on a plain file, as long as no index of a chunk wraps on 32 bits, no read or write of nothing asks for chunks,
and no header extension is lost.
-/

namespace Vfs

open Bytes ByteFile List VfsEncryption

variable {κ : Type} {M : Aead κ} {ctx ctx' : VfsEncryption κ} {content file : Bytes} {chunkSize : Option ℕ}

/-! ### Operations -/

inductive Operation where
  | read (offset count : ℕ)
  | write (data : Bytes) (offset : ℕ)
  | truncate (newSize : ℕ)
  | fileSizeGet
  /-- The file is closed and opened again; the callback may set a chunk size. -/
  | reopen (chunkSize : Option ℕ)

/-- What an operation returns. -/
inductive Result where
  | bytes (data : Bytes)
  | size (size : ℕ)
  | done
  deriving DecidableEq

/-- An operation on a plain file. As in a physical file, a write of nothing changes nothing, wherever it is. -/
def plainStep (file : Bytes) : Operation → Result × Bytes
  | .read offset count => (.bytes (ByteFile.read file offset count), file)
  | .write data offset => (.size data.length, if data = [] then file else ByteFile.write file offset data)
  | .truncate newSize => (.done, ByteFile.truncate file newSize)
  | .fileSizeGet => (.size file.length, file)
  | .reopen _ => (.done, file)

def plainRun (file : Bytes) : List Operation → List Result × Bytes
  | [] => ([], file)
  | operation :: operations =>
    let (result, file) := plainStep file operation
    let (results, file) := plainRun file operations
    (result :: results, file)

namespace VfsEncryption

/-- The file is opened to be written. Such a file is never kept plain. -/
def openEncrypted (M : VfsEncryptionModule κ) (chunkSize : Option ℕ) (file : Bytes) :
    Except Failure (VfsEncryption κ) := do
  match ← openFile M false chunkSize file with
  | none => .error .undefined
  | some (_, ctx) => return ctx

def step (M : VfsEncryptionModule κ) (ctx : VfsEncryption κ) : Operation → Except Failure (Result × VfsEncryption κ)
  | .read offset count => do
    let data ← ctx.read M offset count
    return (.bytes data, ctx)
  | .write data offset => do
    let (count, ctx) ← ctx.write M data offset
    return (.size count, ctx)
  | .truncate newSize => do
    let ctx ← ctx.truncate M newSize
    return (.done, ctx)
  | .fileSizeGet => .ok (.size ctx.fileSizeGet, ctx)
  | .reopen chunkSize => do
    let ctx ← openEncrypted M chunkSize ctx.pFileStd
    return (.done, ctx)

def run (M : VfsEncryptionModule κ) (ctx : VfsEncryption κ) :
    List Operation → Except Failure (List Result × VfsEncryption κ)
  | [] => .ok ([], ctx)
  | operation :: operations => do
    let (result, ctx) ← step M ctx operation
    let (results, ctx) ← run M ctx operations
    return (result :: results, ctx)

def openRun (M : VfsEncryptionModule κ) (chunkSize : Option ℕ) (file : Bytes) (operations : List Operation) :
    Except Failure (List Result × VfsEncryption κ) := do
  let ctx ← openEncrypted M chunkSize file
  run M ctx operations

end VfsEncryption

/-! ### The condition -/

def Operation.Meets (M : Aead κ) (ctx : VfsEncryption κ) : Operation → Prop
  | .read offset count =>
    if count = 0 then offset = 0 → NothingAtZero ctx else NoWrap ctx.mChunkSize offset (offset + count)
  | .write data offset =>
    if data = [] then offset ≤ ctx.mFileSize ∧ (offset = 0 → NothingAtZero ctx)
    else NoWrap ctx.mChunkSize (min ctx.mFileSize offset) (offset + data.length)
  | .truncate newSize => ctx.mFileSize < newSize → NoWrap ctx.mChunkSize ctx.mFileSize newSize
  | .fileSizeGet => True
  | .reopen chunkSize =>
    -- a size that is not accepted, since the file has another one, is an exception by design
    chunkSizeSet ctx.mChunkSize chunkSize = .ok ctx.mChunkSize ∧ ExtensionStored M ctx

instance decidableMeets (M : Aead κ) (ctx : VfsEncryption κ) : (operation : Operation) → Decidable (operation.Meets M ctx)
  | .read _ _ => inferInstanceAs (Decidable (ite _ _ _))
  | .write _ _ => inferInstanceAs (Decidable (ite _ _ _))
  | .truncate _ => inferInstanceAs (Decidable (_ → _))
  | .fileSizeGet => inferInstanceAs (Decidable True)
  | .reopen _ => inferInstanceAs (Decidable (_ ∧ _))

/-- The file that a function gives, if it gives one, meets a condition. -/
def After (P : VfsEncryption κ → Prop) : Except Failure (VfsEncryption κ) → Prop
  | .error _ => True
  | .ok ctx => P ctx

instance decidableAfter (P : VfsEncryption κ → Prop) [∀ ctx, Decidable (P ctx)] :
    (result : Except Failure (VfsEncryption κ)) → Decidable (After P result)
  | .error _ => inferInstanceAs (Decidable True)
  | .ok ctx => inferInstanceAs (Decidable (P ctx))

/-- Each operation of a run meets the condition in the state before it. -/
def MeetsAll (M : Aead κ) (ctx : VfsEncryption κ) : List Operation → Prop
  | [] => True
  | operation :: operations =>
    operation.Meets M ctx ∧ After (fun ctx => MeetsAll M ctx operations) ((ctx.step M operation).map Prod.snd)

instance decidableMeetsAll (M : Aead κ) : (ctx : VfsEncryption κ) → (operations : List Operation) →
    Decidable (MeetsAll M ctx operations)
  | _, [] => inferInstanceAs (Decidable True)
  | ctx, operation :: operations =>
    have := fun ctx => decidableMeetsAll M ctx operations
    inferInstanceAs (Decidable (operation.Meets M ctx ∧ After _ _))

/-- Each operation meets the condition in a run that begins with the opening of a file. -/
def MeetsFrom (M : Aead κ) (chunkSize : Option ℕ) (file : Bytes) (operations : List Operation) : Prop :=
  After (fun ctx => MeetsAll M ctx operations)
    (openEncrypted M.toVfsEncryptionModule chunkSize file)

instance (operations : List Operation) : Decidable (MeetsFrom M chunkSize file operations) :=
  inferInstanceAs (Decidable (After _ _))

/-- What the bytes of a file are before it is opened for the first time: nothing, those of a plain file, or those of an
encrypted one. -/
inductive Initial (M : Aead κ) (chunkSize : Option ℕ) : Bytes → Bytes → Prop where
  | created {size : ℕ} (accepted : chunkSizeSet 0 chunkSize = .ok size) : Initial M chunkSize [] []
  | plain {file : Bytes} {size : ℕ} (ne_nil : file ≠ [])
      (plain : file.length < baseFileHeaderSize ∨ (stored M file).r_header.take BCENCRYPTEDFS.length ≠ BCENCRYPTEDFS)
      (accepted : chunkSizeSet 0 chunkSize = .ok size)
      (length_le : file.length ≤ limit (if size = 0 then defaultChunkSize else size)) : Initial M chunkSize file file
  | encrypted {file content : Bytes} {size : ℕ} (storedAs : StoredAs M file content)
      (accepted : chunkSizeSet (stored M file).mChunkSize chunkSize = .ok size) :
      Initial M chunkSize file content

/-! ### Refinement -/

lemma Initial.openEncrypted (h : Initial M chunkSize file content) :
    ∃ ctx, VfsEncryption.openEncrypted M.toVfsEncryptionModule chunkSize file = .ok ctx ∧ Refines M ctx content := by
  cases h with
  | created accepted =>
    obtain ⟨ctx, hopen, hrefines⟩ := openFile_nil (M := M) accepted
    exact ⟨ctx, by rw [VfsEncryption.openEncrypted, hopen]; rfl, hrefines⟩
  | plain ne_nil plain accepted length_le =>
    obtain ⟨ctx, hopen, hrefines⟩ := openFile_plain ne_nil plain accepted length_le
    exact ⟨ctx, by rw [VfsEncryption.openEncrypted, hopen]; rfl, hrefines⟩
  | encrypted storedAs accepted =>
    exact ⟨_, by rw [VfsEncryption.openEncrypted, storedAs.openFile accepted]; rfl, storedAs.refines⟩

/-- A step returns what it returns on the plain file, and the files correspond. -/
lemma Refines.step (h : Refines M ctx content) {operation : Operation} (hmeets : operation.Meets M ctx) :
    ∃ ctx', ctx.step M operation = .ok ((plainStep content operation).1, ctx') ∧
      Refines M ctx' (plainStep content operation).2 := by
  have hrep := h.represents
  have hsize := hrep.mFileSize
  cases operation with
  | read offset count =>
    refine ⟨ctx, ?_, h⟩
    have hwrap : count ≠ 0 → NoWrap ctx.mChunkSize offset (offset + count) := fun hcount => by
      rwa [Operation.Meets, if_neg hcount] at hmeets
    rw [VfsEncryption.step, hrep.read_eq hwrap]
    rfl
  | write data offset =>
    rw [Operation.Meets, hsize] at hmeets
    rw [VfsEncryption.step, plainStep]
    by_cases hempty : data = []
    · subst hempty
      rw [if_pos rfl] at hmeets
      obtain ⟨ctx', hwrite, hrefines⟩ := hrep.write_nil hmeets.1 hmeets.2
      rw [hwrite, if_pos rfl]
      exact ⟨ctx', rfl, hrefines⟩
    · rw [if_neg hempty] at hmeets
      rw [if_neg hempty]
      obtain hlt | hle := Nat.lt_or_ge content.length offset
      · rw [Nat.min_eq_left (Nat.le_of_lt hlt)] at hmeets
        obtain ⟨ctx', hwrite, hrefines⟩ := hrep.write_gap hlt hmeets
        exact ⟨ctx', by rw [hwrite]; rfl, hrefines⟩
      · rw [Nat.min_eq_right hle] at hmeets
        obtain ⟨ctx', hwrite, hrefines⟩ := hrep.write_inside hle hempty hmeets
        exact ⟨ctx', by rw [hwrite]; rfl, hrefines⟩
  | truncate newSize =>
    rw [Operation.Meets, hsize] at hmeets
    obtain ⟨ctx', htruncate, hrefines⟩ := hrep.truncate hmeets h
    refine ⟨ctx', ?_, hrefines⟩
    rw [VfsEncryption.step, htruncate]
    rfl
  | fileSizeGet =>
    refine ⟨ctx, ?_, h⟩
    rw [VfsEncryption.step, VfsEncryption.fileSizeGet, hsize]
    rfl
  | reopen chunkSize =>
    obtain ⟨haccepted, hextension⟩ := hmeets
    have hstored := h.storedAs hextension
    rw [← h.chunkSize] at haccepted
    refine ⟨stored M ctx.pFileStd, ?_, hstored.refines⟩
    rw [VfsEncryption.step, VfsEncryption.openEncrypted, hstored.openFile haccepted]
    rfl

/-- The operations of a run return what they return on the plain file. -/
lemma Refines.run (h : Refines M ctx content) {operations : List Operation} (hmeets : MeetsAll M ctx operations) :
    ∃ ctx', ctx.run M operations = .ok ((plainRun content operations).1, ctx') ∧
      Refines M ctx' (plainRun content operations).2 := by
  induction operations generalizing ctx content with
  | nil => exact ⟨ctx, rfl, h⟩
  | cons operation operations ih =>
    obtain ⟨hfirst, hrest⟩ := hmeets
    obtain ⟨ctx₁, hstep, hrefines⟩ := h.step hfirst
    rw [hstep, Except.map, After] at hrest
    obtain ⟨ctx₂, hrun, hrefines'⟩ := ih hrefines hrest
    refine ⟨ctx₂, ?_, hrefines'⟩
    rw [run, hstep]
    simp only [bind, Except.bind, hrun, pure, Except.pure]
    rfl

/-- In every run whose steps meet the condition, an encrypted file returns what a plain one returns, and represents it in
the state that is reached. -/
theorem openRun_refines (h : Initial M chunkSize file content) {operations : List Operation}
    (hmeets : MeetsFrom M chunkSize file operations) :
    ∃ ctx, openRun M.toVfsEncryptionModule chunkSize file operations =
        .ok ((plainRun content operations).1, ctx) ∧ Represents M ctx (plainRun content operations).2 := by
  obtain ⟨ctx, hopen, hrefines⟩ := h.openEncrypted
  rw [MeetsFrom, hopen, After] at hmeets
  obtain ⟨ctx', hrun, hrefines'⟩ := hrefines.run hmeets
  refine ⟨ctx', ?_, hrefines'.represents⟩
  rw [openRun, hopen]
  exact hrun

/-! ### Runs on concrete files -/

def lengthTag (chunkIndex length : ℕ) : Bytes := replicate 27 (.ofNat chunkIndex) ++ [.ofNat length]

lemma length_lengthTag (chunkIndex length : ℕ) : (lengthTag chunkIndex length).length = 28 := rfl

def lengthDecrypt (chunkIndex : ℕ) (rawChunk : Bytes) : Option Bytes :=
  if rawChunk.take 28 = lengthTag chunkIndex (rawChunk.length - 28) then some (rawChunk.drop 28) else none

lemma lengthDecrypt_append (chunkIndex : ℕ) (plain : Bytes) :
    lengthDecrypt chunkIndex (lengthTag chunkIndex plain.length ++ plain) = some plain := by
  have hlen : (lengthTag chunkIndex plain.length ++ plain).length - 28 = plain.length := by
    rw [length_append, length_lengthTag, Nat.add_sub_cancel_left]
  rw [lengthDecrypt, hlen, take_left' (length_lengthTag _ _), drop_left' (length_lengthTag _ _), if_pos rfl]

/-- A module whose tags are the index and the length of a chunk, and the header of the file. -/
def lengthModule : VfsEncryptionModule Unit where
  encryptionSuite := 2
  moduleFileHeaderSize := 48
  moduleFileHeaderSize_pos := by decide
  chunkHeaderSize := 28
  create := ()
  ofFileHeader _ := ()
  getModuleFileHeader _ rawHeader := rawHeader ++ replicate 19 0
  checkIntegrity moduleFileHeader rawHeader := moduleFileHeader = rawHeader ++ replicate 19 0
  encryptChunk _ _ chunkIndex plain := lengthTag chunkIndex plain.length ++ plain
  reencryptChunk _ _ chunkIndex rawChunk plain :=
    (lengthDecrypt chunkIndex rawChunk).map fun _ => lengthTag chunkIndex plain.length ++ plain
  decryptChunk _ := lengthDecrypt

def lengthAead : Aead Unit where
  toVfsEncryptionModule := lengthModule
  chunkHeaderSize_lt := Nat.le_of_ble_eq_true rfl
  moduleFileHeaderSize_lt := Nat.le_of_ble_eq_true rfl
  length_encryptChunk _ _ i plain := by
    show (lengthTag i plain.length ++ plain).length = 28 + plain.length
    rw [length_append, length_lengthTag]
  decrypt_encryptChunk _ _ i plain := lengthDecrypt_append i plain
  reencryptChunk_eq := by
    intro _ _ i rawChunk old hold plain
    have hdecrypt : lengthDecrypt i rawChunk = some old := hold
    refine ⟨lengthTag i plain.length ++ plain, ?_, ?_, lengthDecrypt_append i plain⟩
    · show (lengthDecrypt i rawChunk).map _ = _
      rw [hdecrypt]
      rfl
    · show (lengthTag i plain.length ++ plain).length = 28 + plain.length
      rw [length_append, length_lengthTag]
  length_getModuleFileHeader _ rawHeader h := by
    show (rawHeader ++ replicate 19 0).length = 48
    rw [length_append, h]
    rfl
  ofFileHeader_getModuleFileHeader _ _ := rfl
  checkIntegrity_getModuleFileHeader _ _ := decide_eq_true rfl

def extendedFile : Bytes :=
  let rawHeader := BCENCRYPTEDFS ++ [1, 0, 0, 2, 0, 1, 0, 2] ++ [0, 0, 0, 0, 0, 0, 0, 3]
  rawHeader ++ [9, 9] ++ lengthModule.getModuleFileHeader () rawHeader ++ lengthModule.encryptChunk () 0 0 [1, 2, 3]

lemma storedAs_extendedFile : StoredAs lengthAead extendedFile [1, 2, 3] where
  length_ge := by decide +kernel
  magic := by decide +kernel
  suite := by decide +kernel
  module := by decide +kernel
  authentic := by decide +kernel
  represents := {
    mFileSize := by decide +kernel
    chunkSize_mem := by decide +kernel
    readOnly := rfl
    extension_lt := by decide +kernel
    length_le := by decide +kernel
    chunks := by
      refine ⟨extendedFile.take 79, extendedFile.drop 79, (take_append_drop _ _).symm, by decide +kernel, ?_⟩
      exact .single (by decide) (by decide +kernel) (by decide +kernel) (by decide +kernel) }

/-- A file is written, with a gap, cut and reopened. -/
theorem openRun_refines_gap : ∃ ctx, openRun lengthAead.toVfsEncryptionModule (some 16) []
    [.write [1, 2, 3] 0, .write [7] 20, .reopen none, .truncate 17, .write [] 16, .read 2 20, .fileSizeGet] =
      .ok ([.size 3, .size 1, .done, .done, .size 0, .bytes (3 :: replicate 14 0), .size 17], ctx) ∧
    Represents lengthAead ctx (ByteFile.truncate [1, 2, 3] 17) :=
  openRun_refines (.created rfl) (by decide +kernel)

/-- The operations return on the encrypted file what they return on the plain one. -/
def SameResults (M : Aead κ) (chunkSize : Option ℕ) (file content : Bytes) (operations : List Operation) : Prop :=
  (openRun M.toVfsEncryptionModule chunkSize file operations).map Prod.fst = .ok (plainRun content operations).1

instance (operations : List Operation) : Decidable (SameResults M chunkSize file content operations) :=
  inferInstanceAs (Decidable (_ = _))

/-- The chunk behind the one of the last index is the first one; a write of nothing at the beginning encrypts all chunks
as empty ones; a write of nothing behind the end extends the file; after a write, the header extension is taken for data. -/
theorem not_sameResults : ¬ SameResults lengthAead (some 16) [] [] [.write [1] 0, .read (2 ^ 36) 1] ∧
    ¬ SameResults lengthAead (some 48) [] [] [.write [1] 0, .write [] 0, .read 0 1] ∧
    ¬ SameResults lengthAead none [] [] [.write [] 5, .fileSizeGet] ∧
    Initial lengthAead none extendedFile [1, 2, 3] ∧
    ¬ SameResults lengthAead none extendedFile [1, 2, 3] [.write [4] 0, .reopen none, .fileSizeGet] := by
  refine ⟨by decide +kernel, by decide +kernel, by decide +kernel, ?_, by decide +kernel⟩
  exact .encrypted storedAs_extendedFile rfl

end Vfs
