import LinphoneSdk.Lib.Bytes

/-!
# Counted sequences of entries

A message announces a number of entries and then holds them one after the other. A reader of one
entry answers the entry and the position after it; reading a number of entries repeats it.
-/

namespace Counted

open Bytes List

variable {α β : Type} {read : ℕ → Option (β × ℕ)} {body : Bytes}

/-- Read `n` entries, the first one at position `i`; the position after the last one is kept. -/
def readMany (read : ℕ → Option (β × ℕ)) : ℕ → ℕ → Option (List β × ℕ)
  | 0, i => some ([], i)
  | n + 1, i => do
    let (x, j) ← read i
    let (xs, k) ← readMany read n j
    return (x :: xs, k)

lemma readMany_succ_eq_some {n i k : ℕ} {xs : List β} : readMany read (n + 1) i = some (xs, k) ↔
      ∃ x j ys, read i = some (x, j) ∧ readMany read n j = some (ys, k) ∧ xs = x :: ys := by
  rw [readMany]
  cases hread : read i with
  | none => simp
  | some p =>
    obtain ⟨x, j⟩ := p
    cases hmany : readMany read n j with
    | none => simp [hmany]
    | some q =>
      obtain ⟨ys, k'⟩ := q
      simp only [Option.bind_eq_bind, Option.bind_some, hmany, Option.pure_def, Option.some.injEq, Prod.mk.injEq]
      constructor
      · rintro ⟨rfl, rfl⟩
        exact ⟨x, j, ys, ⟨rfl, rfl⟩, hmany, rfl⟩
      · rintro ⟨x', j', ys', ⟨rfl, rfl⟩, hys, rfl⟩
        rw [hmany] at hys
        cases hys
        exact ⟨rfl, rfl⟩

/-- What holds of an entry read holds of all of them. -/
lemma forall_mem_of_readMany {P : β → Prop} (hread : ∀ i x j, read i = some (x, j) → P x) {n i k : ℕ}
    {xs : List β} (h : readMany read n i = some (xs, k)) : ∀ x ∈ xs, P x := by
  induction n generalizing i xs with
  | zero =>
    cases h
    intro x hx
    cases hx
  | succ n ih =>
    obtain ⟨x, j, ys, hx, hys, rfl⟩ := readMany_succ_eq_some.1 h
    intro y hy
    rcases mem_cons.1 hy with rfl | hy
    · exact hread i y j hx
    · exact ih hys y hy

/-- Entries written one after the other are read back. -/
lemma readMany_of_drop (write : α → Bytes) (val : α → β) {xs : List α}
    (hread : ∀ x ∈ xs, ∀ i rest, body.drop i = write x ++ rest → read i = some (val x, i + (write x).length))
    {i : ℕ} {rest : Bytes} (h : body.drop i = xs.flatMap write ++ rest) :
    readMany read xs.length i = some (xs.map val, i + (xs.flatMap write).length) := by
  induction xs generalizing i with
  | nil => rfl
  | cons x xs ih =>
    rw [flatMap_cons, append_assoc] at h
    have hnext : body.drop (i + (write x).length) = xs.flatMap write ++ rest := by
      rw [← drop_drop, h, drop_left]
    have hrest := ih (fun y hy => hread y (mem_cons_of_mem x hy)) hnext
    rw [Nat.add_assoc, ← length_append, ← flatMap_cons] at hrest
    exact readMany_succ_eq_some.2 ⟨_, _, _, hread x mem_cons_self i _ h, hrest, rfl⟩

/-- The entries written from a position on, after their number in two bytes, end the message. -/
structure Announced (read : ℕ → Option (β × ℕ)) (message : Bytes) (i : ℕ) (entries : List β) : Prop where
  count : (be16At message i).toNat = entries.length
  consumed : readMany read (be16At message i).toNat (i + 2) = some (entries, message.length)

/-- Entries written up to the end of the message, after their number, are announced. -/
lemma announced_of_drop {message bytes : Bytes} {i : ℕ} {entries : List β}
    (hcount : (be16At message i).toNat = entries.length) (hdrop : message.drop (i + 2) = bytes ++ [])
    (hread : readMany read entries.length (i + 2) = some (entries, i + 2 + bytes.length))
    (hle : i + 2 ≤ message.length) : Announced read message i entries := by
  refine ⟨hcount, ?_⟩
  have hend := congrArg length hdrop
  rw [append_nil, length_drop] at hend
  rw [hcount, hread, ← hend, Nat.add_sub_cancel' hle]

end Counted
