import LinphoneSdk.Lib.Bytes
import Mathlib.Data.List.Basic
import Mathlib.Tactic.Common

/-!
# Files of bytes

A file is the list of its bytes. A write behind the end fills the gap with zeros, and so does a truncation to a greater
size.
-/

namespace ByteFile

open List

/-- The bytes from `offset` on, `count` of them at most. -/
def read (file : Bytes) (offset count : ℕ) : Bytes := (file.drop offset).take count

def write (file : Bytes) (offset : ℕ) (data : Bytes) : Bytes :=
  file.take offset ++ replicate (offset - file.length) 0 ++ data ++ file.drop (offset + data.length)

def truncate (file : Bytes) (size : ℕ) : Bytes :=
  file.take size ++ replicate (size - file.length) 0

variable {file head data : Bytes} {offset : ℕ}

@[simp] lemma length_read (file : Bytes) (offset count : ℕ) :
    (read file offset count).length = min count (file.length - offset) := by simp [read]

@[simp] lemma length_write (file : Bytes) (offset : ℕ) (data : Bytes) :
    (write file offset data).length = max file.length (offset + data.length) := by
  simp only [write, length_append, length_take, length_replicate, length_drop]
  omega

@[simp] lemma length_truncate (file : Bytes) (size : ℕ) : (truncate file size).length = size := by
  simp only [truncate, length_append, length_take, length_replicate]
  omega

lemma write_of_le (h : offset ≤ file.length) (data : Bytes) :
    write file offset data = file.take offset ++ data ++ file.drop (offset + data.length) := by
  simp [write, Nat.sub_eq_zero_of_le h]

lemma truncate_of_le {size : ℕ} (h : size ≤ file.length) : truncate file size = file.take size := by
  simp [truncate, Nat.sub_eq_zero_of_le h]

/-- A write behind the end writes the gap. -/
lemma write_of_length_le (h : file.length ≤ offset) (data : Bytes) :
    write file offset data = write file file.length (replicate (offset - file.length) 0 ++ data) := by
  rw [write_of_le (Nat.le_refl _), write, take_of_length_le h, take_length,
    drop_eq_nil_of_le (by omega), drop_eq_nil_of_le (by omega), append_nil, append_nil,
    append_assoc]

/-- An extension is a write of nothing behind the end. -/
lemma truncate_of_length_le {size : ℕ} (h : file.length ≤ size) : truncate file size = write file size [] := by
  simp [truncate, write, drop_eq_nil_of_le h]

lemma read_append (head file : Bytes) (offset count : ℕ) :
    read (head ++ file) (head.length + offset) count = read file offset count := by
  rw [read, ← drop_drop, drop_left, read]

lemma write_append (head file : Bytes) (offset : ℕ) (data : Bytes) :
    write (head ++ file) (head.length + offset) data = head ++ write file offset data := by
  have htake : (head ++ file).take (head.length + offset) = head ++ file.take offset := by
    rw [take_append, take_of_length_le (Nat.le_add_right _ _), Nat.add_sub_cancel_left]
  have hdrop : (head ++ file).drop (head.length + offset + data.length) = file.drop (offset + data.length) := by
    rw [Nat.add_assoc, ← drop_drop, drop_left]
  have hgap : head.length + offset - (head ++ file).length = offset - file.length := by
    rw [length_append]
    omega
  rw [write, htake, hdrop, hgap, write]
  simp only [append_assoc]

lemma truncate_append (head file : Bytes) (size : ℕ) :
    truncate (head ++ file) (head.length + size) = head ++ truncate file size := by
  have htake : (head ++ file).take (head.length + size) = head ++ file.take size := by
    rw [take_append, take_of_length_le (Nat.le_add_right _ _), Nat.add_sub_cancel_left]
  have hgap : head.length + size - (head ++ file).length = size - file.length := by
    rw [length_append]
    omega
  rw [truncate, htake, hgap, truncate, append_assoc]

/-- The head of a file is written anew. -/
lemma write_head (h : data.length ≤ head.length) :
    write (head ++ file) 0 data = data ++ head.drop data.length ++ file := by
  rw [write_of_le (Nat.zero_le _), take_zero, nil_append, Nat.zero_add, drop_append_of_le_length h, append_assoc]

/-- A write of nothing that is not behind the end. -/
lemma write_nil (h : offset ≤ file.length) : write file offset [] = file := by
  rw [write_of_le h, append_nil, length_nil, Nat.add_zero, take_append_drop]

lemma write_segment {start count : ℕ} (h : start + offset ≤ file.length) (hcount : offset + data.length ≤ count) :
    write file (start + offset) data = file.take start ++ write ((file.drop start).take count) offset data ++
      file.drop (start + (write ((file.drop start).take count) offset data).length) := by
  have hlen : (file.take start).length = start := length_take_of_le (by omega)
  have hrest : offset ≤ (file.drop start).length := by
    rw [length_drop]
    omega
  have hsegment : offset ≤ ((file.drop start).take count).length := by
    rw [length_take]
    omega
  have hwrite := write_append (file.take start) (file.drop start) offset data
  rw [take_append_drop, hlen] at hwrite
  rw [hwrite, append_assoc, ← drop_drop]
  generalize file.drop start = rest at hrest hsegment ⊢
  congr 1
  by_cases hle : count ≤ rest.length
  · rw [length_write, length_take_of_le hle, Nat.max_eq_left hcount, write_of_le hrest, write_of_le hsegment,
      take_take, Nat.min_eq_left (by omega), drop_take, append_assoc, append_assoc,
      append_assoc]
    congr 2
    have hsplit := take_append_drop (count - (offset + data.length)) (rest.drop (offset + data.length))
    rw [drop_drop, Nat.add_sub_cancel' hcount] at hsplit
    exact hsplit.symm
  · rw [take_of_length_le (by omega), drop_eq_nil_of_le, append_nil]
    rw [length_write]
    exact Nat.le_max_left _ _

end ByteFile
