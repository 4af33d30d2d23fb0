import Mathlib.Data.LawfulXor.Basic
import Mathlib.Data.List.Nodup
import Mathlib.Tactic.Common

/-!
# Parity

The parity of a family of values over some keys is their exclusive or. Each value is the parity of the others
with it.
-/

namespace Parity

open List

variable {ι κ α : Type*} [XorOp α] [Zero α] {f g : ι → α} {k : ι} {keys keys' : List ι}

def parity (f : ι → α) (keys : List ι) : α := keys.foldl (fun sum k => sum ^^^ f k) 0

lemma parity_concat : parity f (keys ++ [k]) = parity f keys ^^^ f k := by
  rw [parity, foldl_append]
  rfl

lemma parity_map (h : κ → ι) (keys : List κ) : parity f (keys.map h) = parity (f ∘ h) keys := by
  rw [parity, foldl_map]
  rfl

variable [LawfulXor α]

lemma foldl_xor (f : ι → α) (keys : List ι) (sum : α) :
    keys.foldl (fun sum k => sum ^^^ f k) sum = sum ^^^ parity f keys := by
  induction keys generalizing sum with
  | nil => exact (LawfulXor.xor_zero sum).symm
  | cons k keys ih =>
    rw [parity, foldl_cons, foldl_cons, ih, ih (0 ^^^ f k), zero_xor, LawfulXor.xor_assoc]

lemma parity_cons : parity f (k :: keys) = f k ^^^ parity f keys := by
  rw [parity, foldl_cons, foldl_xor, zero_xor]

lemma parity_congr (h : ∀ k ∈ keys, f k = g k) : parity f keys = parity g keys := by
  induction keys with
  | nil => rfl
  | cons k keys ih =>
    rw [parity_cons, parity_cons, h k mem_cons_self, ih fun k' hk' => h k' (mem_cons_of_mem _ hk')]

lemma parity_perm (h : keys.Perm keys') : parity f keys = parity f keys' := by
  induction h with
  | nil => rfl
  | cons k _ ih => rw [parity_cons, parity_cons, ih]
  | swap k k' keys =>
    rw [parity_cons, parity_cons, parity_cons, parity_cons, ← LawfulXor.xor_assoc, ← LawfulXor.xor_assoc,
      LawfulXor.xor_comm (f k')]
  | trans _ _ ih ih' => exact ih.trans ih'

/-- The value of a key is the parity of the other keys and of all keys. -/
lemma parity_erase_xor [DecidableEq ι] (hk : k ∈ keys) : parity f (keys.erase k) ^^^ parity f keys = f k := by
  rw [parity_perm (perm_cons_erase hk), parity_cons, LawfulXor.xor_comm (f k), xor_cancel_left]

end Parity
