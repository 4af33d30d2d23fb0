import LinphoneSdk.Lib.Bytes
import Mathlib.Algebra.GroupWithZero.Nat

/-!
# Message blocks

A message is a chain of blocks (`mblk_t`), each of which has a part of its data block. The base of a data
block is aligned: the header of the block, before it, is made of pointers.
-/

namespace Ortp

/-- A message block. -/
structure Mblk where
  /-- The bytes from `db_base` to `b_rptr`. -/
  head : ℕ
  /-- The bytes from `b_rptr` to `b_wptr`. -/
  bytes : Bytes
  /-- The number of bytes from `b_wptr` to `db_lim`. -/
  room : ℕ

/-- A message: the blocks chained by `b_cont`. -/
abbrev Msg : Type := List Mblk

def allocb (size : ℕ) : Mblk := ⟨0, [], size⟩

/-- From `db_base` to `db_lim`. -/
def Mblk.size (mp : Mblk) : ℕ := mp.head + mp.bytes.length + mp.room

/-- Bytes are written at `b_wptr`, which moves. -/
def Mblk.write (mp : Mblk) (data : Bytes) : Mblk :=
  { mp with bytes := mp.bytes ++ data, room := mp.room - data.length }

def msgdsize (mp : Msg) : ℕ := (mp.map fun m => m.bytes.length).sum

/-- The bytes of a message, once it is in one block. -/
def Msg.bytes (mp : Msg) : Bytes := mp.flatMap Mblk.bytes

lemma length_bytes (mp : Msg) : mp.bytes.length = msgdsize mp := by
  rw [Msg.bytes, msgdsize, List.length_flatMap]

/-- The block, and the one that is chained to it when it is full. -/
def appendb (mp : Mblk) (data : Bytes) (pad : Bool) : Mblk × Option Mblk :=
  let padcnt := if pad then (4 - (mp.head + mp.bytes.length + data.length) % 4) % 4 else 0
  if mp.room < data.length + padcnt then
    (mp, some ((allocb (max mp.size data.length)).write (data ++ List.replicate padcnt 0)))
  else (mp.write (data ++ List.replicate padcnt 0), none)

end Ortp
