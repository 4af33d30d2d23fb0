import LinphoneSdk.Lib.ByteFile
import LinphoneSdk.LpConfig.Sections

/-!
# The writing of a configuration

`linphone_config_sync` prints the sections to a temporary file through a page that is kept in memory, and renames that
file. The writes and the renaming may fail.
-/

namespace ConfigFile

open List

def BCTBX_VFS_PRINTF_PAGE_SIZE : ℕ := 4096

/-- What a write of a file does: it writes all, or some bytes only, or it fails. -/
inductive WriteResult where
  | complete
  | short (count : ℕ)
  | failed
  deriving DecidableEq

/-- What becomes of the calls to the system during a sync: the opening of the temporary file, its writes one after the
other, and the renaming. -/
structure Faults where
  opened : Bool
  write : ℕ → WriteResult
  renamed : Bool

/-- A file that is written, with the page of `bctbx_file_fprintf` and the number of its writes so far. -/
structure VfsWriter where
  content : Bytes
  offset : ℕ
  fPage : Bytes
  fPageOffset : ℕ
  writes : ℕ

namespace VfsWriter

/-- `bctbx_file_open` with the mode `w` -/
def open_ : VfsWriter := ⟨[], 0, [], 0, 0⟩

variable (faults : Faults) (file : VfsWriter)

/-- `bctbx_file_write` with an empty page: the number of bytes that are written, unless it fails. -/
def write (buf : Bytes) (offset : ℕ) : Option ℕ × VfsWriter :=
  match faults.write file.writes with
  | .complete => (some buf.length,
    { file with content := ByteFile.write file.content offset buf, writes := file.writes + 1 })
  | .short count => (some (min count buf.length),
    { file with content := ByteFile.write file.content offset (buf.take count), writes := file.writes + 1 })
  | .failed => (none, { file with writes := file.writes + 1 })

/-- The page is kept when it cannot be written. -/
def flush : Bool × VfsWriter :=
  if file.fPage = [] then (true, file)
  else
    match write faults { file with fPage := [] } file.fPage file.fPageOffset with
    | (some _, file') => (true, file')
    | (none, file') => (false, { file' with fPage := file.fPage })

def fprintf (file : VfsWriter) (s : Bytes) : VfsWriter :=
  if s.length + file.fPage.length < BCTBX_VFS_PRINTF_PAGE_SIZE then { file with
    fPage := file.fPage ++ s
    fPageOffset := if file.fPage = [] then file.offset else file.fPageOffset
    offset := file.offset + s.length }
  else if 0 < file.fPage.length then
    match write faults { file with fPage := [] } (file.fPage ++ s) file.fPageOffset with
    | (some _, file') => { file' with offset := file'.offset + s.length }
    | (none, file') => { file' with fPage := file.fPage }
  else
    match write faults file s file.offset with
    | (some count, file') => { file' with offset := file'.offset + count }
    | (none, file') => file'

/-- The temporary file after some calls of `bctbx_file_fprintf`. -/
def print (calls : List Bytes) : VfsWriter := calls.foldl (fprintf faults) open_

end VfsWriter

structure Disk where
  file : Option Bytes
  tmpfile : Option Bytes
  deriving DecidableEq

inductive SyncPoint where
  | printed (calls : ℕ)
  | synced
  | closed
  | renamed
  deriving DecidableEq

/-- The temporary file once all is printed, after `bctbx_file_sync` and after `bctbx_file_close`. -/
def syncedFile (faults : Faults) (sections : List LpSection) : VfsWriter :=
  (VfsWriter.flush faults (VfsWriter.print faults (writeCalls sections))).2

def closedFile (faults : Faults) (sections : List LpSection) : VfsWriter :=
  (VfsWriter.flush faults (syncedFile faults sections)).2

def Disk.sync (disk : Disk) (faults : Faults) (sections : List LpSection) : SyncPoint → Disk
  | .printed calls =>
    { disk with tmpfile := some (VfsWriter.print faults ((writeCalls sections).take calls)).content }
  | .synced => { disk with tmpfile := some (syncedFile faults sections).content }
  | .closed => { disk with tmpfile := some (closedFile faults sections).content }
  | .renamed =>
    let tmpfile := (closedFile faults sections).content
    if faults.renamed then ⟨some tmpfile, none⟩ else { disk with tmpfile := some tmpfile }

def LpConfig.sync (lpconfig : LpConfig) (disk : Disk) (faults : Faults) : ℤ × LpConfig × Disk :=
  if lpconfig.readonly then (0, lpconfig, disk)
  else if ¬ faults.opened then (-1, { lpconfig with readonly := true }, disk)
  else if lpconfig.abortSync then (-1, lpconfig, { disk with tmpfile := some [] })
  else (0, { lpconfig with modified := false }, disk.sync faults lpconfig.sections .renamed)

/-! ### A sync without faults -/

/-- No write of the temporary file fails or is short. -/
def Faults.Writes (faults : Faults) : Prop := ∀ n, faults.write n = .complete

namespace VfsWriter

variable {faults : Faults} {file : VfsWriter} {s : Bytes}

structure Printed (file : VfsWriter) (s : Bytes) : Prop where
  content : file.content ++ file.fPage = s
  offset : file.offset = s.length
  page : file.fPage ≠ [] → file.fPageOffset = file.content.length

lemma Printed.fprintf (h : Printed file s) (hwrites : faults.Writes) (t : Bytes) :
    Printed (fprintf faults file t) (s ++ t) := by
  obtain ⟨hcontent, hoffset, hpage⟩ := h
  have happend (buf : Bytes) : ByteFile.write file.content file.content.length buf = file.content ++ buf := by
    simp [ByteFile.write_of_le (Nat.le_refl _)]
  unfold VfsWriter.fprintf
  split_ifs with hfits hempty
  · refine ⟨by rw [← hcontent, append_assoc], by simp [hoffset], fun _ => ?_⟩
    simp [hempty, hoffset, ← hcontent]
  · exact ⟨by rw [← hcontent, append_assoc], by simp [hoffset], fun _ => by simpa [hempty] using hpage hempty⟩
  · next hpos =>
    have hne : file.fPage ≠ [] := length_pos_iff.1 hpos
    simp only [write, hwrites _, hpage hne]
    refine ⟨?_, by simp [hoffset], fun h => absurd rfl h⟩
    rw [happend, append_nil, ← append_assoc, hcontent]
  · next hpos =>
    have hnil : file.fPage = [] := by simpa using hpos
    rw [hnil, append_nil] at hcontent
    simp only [write, hwrites _]
    refine ⟨?_, by simp [hoffset], fun h => absurd hnil h⟩
    rw [hoffset, ← hcontent, happend, hnil, append_nil]

lemma printed_print (hwrites : faults.Writes) (calls : List Bytes) : Printed (print faults calls) calls.flatten := by
  have hfoldl (calls : List Bytes) {file : VfsWriter} {s : Bytes} (h : Printed file s) :
      Printed (calls.foldl (VfsWriter.fprintf faults) file) (s ++ calls.flatten) := by
    induction calls generalizing file s with
    | nil => simpa using h
    | cons t calls ih => simpa using ih (h.fprintf hwrites t)
  have hopen : Printed open_ [] := ⟨rfl, rfl, fun h => absurd rfl h⟩
  exact hfoldl calls hopen

lemma Printed.flush (h : Printed file s) (hwrites : faults.Writes) :
    Printed (flush faults file).2 s ∧ (flush faults file).2.fPage = [] := by
  unfold VfsWriter.flush
  split_ifs with hempty
  · exact ⟨h, hempty⟩
  · simp only [write, hwrites _]
    refine ⟨⟨?_, h.offset, fun h => absurd rfl h⟩, trivial⟩
    rw [h.page hempty, ByteFile.write_of_le (Nat.le_refl _), ← h.content]
    simp

end VfsWriter

/-- When no write fails, the temporary file is whole. -/
lemma content_closedFile {faults : Faults} (hwrites : faults.Writes) (sections : List LpSection) :
    (closedFile faults sections).content = content sections := by
  have hprinted := (VfsWriter.printed_print hwrites (writeCalls sections)).flush hwrites
  have hclosed := hprinted.1.flush hwrites
  have hcontent := hclosed.1.content
  rw [hclosed.2, append_nil] at hcontent
  exact hcontent

/-- A sync without faults leaves the text of the sections in the file. -/
lemma LpConfig.sync_of_writes {lpconfig : LpConfig} {disk : Disk} {faults : Faults}
    (hreadonly : lpconfig.readonly = false) (habort : lpconfig.abortSync = false) (hopened : faults.opened = true)
    (hwrites : faults.Writes) (hrenamed : faults.renamed = true) :
    lpconfig.sync disk faults = (0, { lpconfig with modified := false }, ⟨some (content lpconfig.sections), none⟩) := by
  simp [LpConfig.sync, hreadonly, habort, hopened, Disk.sync, hrenamed, content_closedFile hwrites]

end ConfigFile
