import Mathlib.Data.List.Basic
import Mathlib.Tactic.Common

/-!
# Sequences that are encoded chunk by chunk

A sequence is cut into chunks of one size, the last of which may be shorter. Each chunk is encoded by itself: its index
goes into the encoding, and the encoding is longer than the chunk by a fixed overhead.
-/

namespace EncodedChunks

open List Nat

def count (size chunkSize : ℕ) : ℕ := (if 0 < size % chunkSize then 1 else 0) + size / chunkSize

@[simp] lemma count_zero (chunkSize : ℕ) : count 0 chunkSize = 0 := by simp [count]

lemma count_add {chunkSize : ℕ} (hpos : 0 < chunkSize) (size : ℕ) :
    count (chunkSize + size) chunkSize = count size chunkSize + 1 := by
  rw [count, count, add_mod_left, add_div_left _ hpos]
  omega

lemma count_of_le {size chunkSize : ℕ} (hpos : 0 < size) (hle : size ≤ chunkSize) : count size chunkSize = 1 := by
  obtain hlt | rfl := Nat.lt_or_eq_of_le hle
  · rw [count, mod_eq_of_lt hlt, if_pos hpos, div_eq_of_lt hlt]
  · rw [count, mod_self, if_neg (Nat.lt_irrefl 0), Nat.div_self hpos]

lemma count_mul_add {chunkSize : ℕ} (hpos : 0 < chunkSize) (n size : ℕ) :
    count (chunkSize * n + size) chunkSize = n + count size chunkSize := by
  induction n with
  | zero => simp
  | succ n ih =>
    rw [mul_succ, Nat.add_comm (chunkSize * n), Nat.add_assoc, count_add hpos, ih]
    omega

lemma count_mul {chunkSize : ℕ} (hpos : 0 < chunkSize) (n : ℕ) : count (chunkSize * n) chunkSize = n := by
  have hcount := count_mul_add hpos n 0
  rwa [count_zero] at hcount

lemma count_mono {chunkSize size size' : ℕ} (hpos : 0 < chunkSize) (h : size ≤ size') :
    count size chunkSize ≤ count size' chunkSize := by
  induction hn : size using Nat.strongRecOn generalizing size size' with
  | _ n ih =>
    subst hn
    by_cases hzero : size = 0
    · simp [hzero]
    by_cases hle : size' ≤ chunkSize
    · have hone := count_of_le (by omega) (Nat.le_trans h hle)
      have hone' := count_of_le (by omega) hle
      omega
    obtain ⟨rest', rfl⟩ := Nat.exists_eq_add_of_le (Nat.le_of_lt (Nat.not_le.mp hle))
    rw [count_add hpos]
    by_cases hle' : size ≤ chunkSize
    · rw [count_of_le (by omega) hle']
      omega
    · obtain ⟨rest, rfl⟩ := Nat.exists_eq_add_of_le (Nat.le_of_lt (Nat.not_le.mp hle'))
      rw [count_add hpos]
      exact succ_le_succ (ih rest (by omega) (by omega) rfl)

variable {α β : Type} {decode : ℕ → List β → Option (List α)} {chunkSize overhead : ℕ}

/-- The code decodes to the sequence, from the chunk of index `i` on. -/
inductive Encodes (decode : ℕ → List β → Option (List α)) (chunkSize overhead : ℕ) : ℕ → List β → List α → Prop where
  | nil (i : ℕ) : Encodes decode chunkSize overhead i [] []
  | cons {i : ℕ} {c code : List β} {plain rest : List α} (ne_nil : plain ≠ []) (length_le : plain.length ≤ chunkSize)
      (full : rest ≠ [] → plain.length = chunkSize) (decoded : decode i c = some plain)
      (length_eq : c.length = overhead + plain.length) (tail : Encodes decode chunkSize overhead (i + 1) code rest) :
      Encodes decode chunkSize overhead i (c ++ code) (plain ++ rest)

namespace Encodes

variable {i j : ℕ} {code code' : List β} {content content' : List α}

lemma single {c : List β} {plain : List α} (hne : plain ≠ []) (hle : plain.length ≤ chunkSize)
    (hdec : decode i c = some plain) (hlen : c.length = overhead + plain.length) :
    Encodes decode chunkSize overhead i c plain := by
  have hcons := cons hne hle (by simp) hdec hlen (nil (i + 1))
  rwa [append_nil, append_nil] at hcons

lemma code_of_nil (h : Encodes decode chunkSize overhead i code []) : code = [] := by
  generalize hcontent : ([] : List α) = content at h
  cases h with
  | nil => rfl
  | cons hne => exact absurd (append_eq_nil_iff.mp hcontent.symm).1 hne

lemma content_of_nil (h : Encodes decode chunkSize overhead i [] content) : content = [] := by
  generalize hcode : ([] : List β) = code at h
  cases h with
  | nil => rfl
  | cons hne _ _ _ hlen =>
    have hlength := congrArg length hcode
    have hpos := length_pos_iff.mpr hne
    simp only [length_nil, length_append] at hlength
    omega

/-- The first chunk, and the next ones. -/
lemma uncons (h : Encodes decode chunkSize overhead i code content) (hne : content ≠ []) :
    decode i (code.take (chunkSize + overhead)) = some (content.take chunkSize) ∧
      (code.take (chunkSize + overhead)).length = overhead + (content.take chunkSize).length ∧
      Encodes decode chunkSize overhead (i + 1) (code.drop (chunkSize + overhead)) (content.drop chunkSize) := by
  cases h with
  | nil => exact absurd rfl hne
  | cons hplain hle hfull hdec hlen htail =>
    rename_i c code plain rest
    by_cases hrest : rest = []
    · subst hrest
      have hcode := htail.code_of_nil
      subst hcode
      rw [append_nil, append_nil, take_of_length_le hle, take_of_length_le (by omega),
        drop_eq_nil_of_le hle, drop_eq_nil_of_le (by omega)]
      exact ⟨hdec, hlen, nil _⟩
    · have hplainlen := hfull hrest
      rw [take_left' hplainlen, drop_left' hplainlen, take_left' (by omega), drop_left' (by omega)]
      exact ⟨hdec, hlen, htail⟩

/-- A first chunk, and the next ones. -/
lemma of_take {c : List β} (hne : content ≠ []) (hpos : 0 < chunkSize)
    (hdec : decode i c = some (content.take chunkSize)) (hlen : c.length = overhead + (content.take chunkSize).length)
    (h : Encodes decode chunkSize overhead (i + 1) code (content.drop chunkSize)) :
    Encodes decode chunkSize overhead i (c ++ code) content := by
  have htake : content.take chunkSize ≠ [] := by
    intro hnil
    obtain hzero | hnil := take_eq_nil_iff.mp hnil
    · omega
    · exact hne hnil
  have hcons := cons htake (length_take_le _ _) ?_ hdec hlen h
  · rwa [take_append_drop] at hcons
  · intro hdrop
    rw [length_take, Nat.min_eq_left]
    by_contra hlt
    exact hdrop (drop_eq_nil_of_le (by omega))

lemma drop (h : Encodes decode chunkSize overhead i code content) (n : ℕ) :
    Encodes decode chunkSize overhead (i + n) (code.drop ((chunkSize + overhead) * n))
      (content.drop (chunkSize * n)) := by
  induction n generalizing i code content with
  | zero => simpa using h
  | succ n ih =>
    by_cases hne : content = []
    · subst hne
      have hcode := h.code_of_nil
      subst hcode
      simpa using nil (i + (n + 1))
    · have htail := ih (h.uncons hne).2.2
      rw [drop_drop, drop_drop] at htail
      rwa [mul_succ, mul_succ, Nat.add_comm (_ * n), Nat.add_comm (chunkSize * n), ← Nat.add_assoc,
        Nat.add_right_comm i]

lemma take (h : Encodes decode chunkSize overhead i code content) (hpos : 0 < chunkSize) (n : ℕ) :
    Encodes decode chunkSize overhead i (code.take ((chunkSize + overhead) * n)) (content.take (chunkSize * n)) := by
  induction n generalizing i code content with
  | zero => simpa using nil i
  | succ n ih =>
    by_cases hne : content = []
    · subst hne
      have hcode := h.code_of_nil
      subst hcode
      simpa using nil i
    · obtain ⟨hdec, hlen, htail⟩ := h.uncons hne
      have htake : (content.take (chunkSize * (n + 1))).take chunkSize = content.take chunkSize := by
        rw [take_take, Nat.min_eq_left (Nat.le_mul_of_pos_right _ (succ_pos n))]
      have hdrop : (content.take (chunkSize * (n + 1))).drop chunkSize =
          (content.drop chunkSize).take (chunkSize * n) := by
        rw [drop_take, mul_succ, Nat.add_sub_cancel]
      have hcode : code.take ((chunkSize + overhead) * (n + 1)) = code.take (chunkSize + overhead) ++
          (code.drop (chunkSize + overhead)).take ((chunkSize + overhead) * n) := by
        rw [mul_succ, Nat.add_comm (_ * n), take_add]
      rw [hcode]
      refine of_take ?_ hpos (htake ▸ hdec) (htake ▸ hlen) (hdrop ▸ ih htail)
      intro hnil
      obtain hzero | hnil := take_eq_nil_iff.mp hnil
      · simp only [Nat.mul_eq_zero] at hzero
        omega
      · exact hne hnil

/-- Whole chunks, then further ones. -/
lemma append {n : ℕ} (h : Encodes decode chunkSize overhead i code content) (hpos : 0 < chunkSize)
    (hlen : content.length = chunkSize * n) (h' : Encodes decode chunkSize overhead (i + n) code' content') :
    Encodes decode chunkSize overhead i (code ++ code') (content ++ content') := by
  induction n generalizing i code content with
  | zero =>
    have hcontent : content = [] := length_eq_zero_iff.mp (by simpa using hlen)
    subst hcontent
    rw [h.code_of_nil]
    exact h'
  | succ n ih =>
    rw [mul_succ] at hlen
    have hne : content ≠ [] := length_pos_iff.mp (by omega)
    obtain ⟨hdec, hlength, htail⟩ := h.uncons hne
    have htake : (content ++ content').take chunkSize = content.take chunkSize :=
      take_append_of_le_length (by omega)
    have hdrop : (content ++ content').drop chunkSize = content.drop chunkSize ++ content' :=
      drop_append_of_le_length (by omega)
    have hnext := ih htail (by rw [length_drop]; omega) (by rwa [Nat.add_assoc, Nat.add_comm 1 n])
    rw [← take_append_drop (chunkSize + overhead) code, append_assoc]
    exact of_take (by simp [hne]) hpos (htake ▸ hdec) (htake ▸ hlength) (hdrop ▸ hnext)

lemma length_code (h : Encodes decode chunkSize overhead i code content) (hpos : 0 < chunkSize) :
    code.length = content.length + count content.length chunkSize * overhead := by
  induction h with
  | nil => simp [count]
  | @cons i c code plain rest hne hle hfull hdec hlen htail ih =>
    have hcount : count (plain.length + rest.length) chunkSize = count rest.length chunkSize + 1 := by
      by_cases hrest : rest = []
      · rw [hrest, length_nil, Nat.add_zero, count_zero, count_of_le (length_pos_iff.mpr hne) hle]
      · rw [hfull hrest, count_add hpos]
    rw [length_append, length_append, hlen, ih, hcount, Nat.add_mul]
    omega

lemma length_take_code (h : Encodes decode chunkSize overhead i code content) (hpos : 0 < chunkSize) {n : ℕ}
    (hle : chunkSize * n ≤ content.length) :
    (code.take ((chunkSize + overhead) * n)).length = (chunkSize + overhead) * n := by
  have hlen := (h.take hpos n).length_code hpos
  rwa [length_take_of_le hle, count_mul hpos, Nat.mul_comm n, ← Nat.add_mul] at hlen

/-- Chunks are replaced, from chunk `n` on: either whole ones, or all the chunks up to the end. -/
lemma splice (h : Encodes decode chunkSize overhead 0 code content) (hpos : 0 < chunkSize) {n : ℕ}
    (hn : chunkSize * n ≤ content.length) (h' : Encodes decode chunkSize overhead n code' content')
    (hend : (∃ k, content'.length = chunkSize * k) ∨ content.length ≤ chunkSize * n + content'.length) :
    Encodes decode chunkSize overhead 0
      (code.take ((chunkSize + overhead) * n) ++ code' ++ code.drop ((chunkSize + overhead) * n + code'.length))
      (content.take (chunkSize * n) ++ content' ++ content.drop (chunkSize * n + content'.length)) := by
  have hfirst := h.take hpos n
  have hlen := h'.length_code hpos
  rw [append_assoc, append_assoc]
  obtain ⟨k, hk⟩ | hend := hend
  · rw [hk, count_mul hpos] at hlen
    have hrest := h.drop (n + k)
    rw [Nat.zero_add, Nat.mul_add, Nat.mul_add] at hrest
    have hcode : code'.length = (chunkSize + overhead) * k := by
      rw [hlen, Nat.add_mul, Nat.mul_comm k]
    rw [hcode, hk]
    refine hfirst.append hpos (length_take_of_le hn) ?_
    rw [Nat.zero_add]
    exact h'.append hpos hk hrest
  · have hcode := h.length_code hpos
    have hcount := count_mono hpos hend
    rw [count_mul_add hpos] at hcount
    have hmul := Nat.mul_le_mul_right overhead hcount
    rw [Nat.add_mul] at hmul
    rw [drop_eq_nil_of_le hend, drop_eq_nil_of_le, append_nil, append_nil]
    · refine hfirst.append hpos (length_take_of_le hn) ?_
      rwa [Nat.zero_add]
    · rw [Nat.add_mul, Nat.mul_comm overhead]
      omega

end Encodes

end EncodedChunks
