import LinphoneSdk.Lib.Bytes
import Mathlib.Data.List.TakeWhile
import Mathlib.Tactic.Common
import Mathlib.Algebra.Group.Int.Defs
import Mathlib.Algebra.Group.Nat.Defs

/-!
# Searches and conversions in C strings

`strstr`, `strtol` in base 16 and the conversions of `sscanf`, on the bytes of a string. A string ends at its first
0 byte.
-/

namespace CString

open List Option

def bytes (cs : List Char) : Bytes := cs.map fun c => UInt8.ofNat c.toNat

def crlf : Bytes := [13, 10]

def isspace (c : UInt8) : Bool := c == 32 || (9 ≤ c && c ≤ 13)

def isdigit (c : UInt8) : Bool := 48 ≤ c && c ≤ 57

/-- The value of a hexadecimal digit. -/
def hexDigit? (c : UInt8) : Option ℕ :=
  if isdigit c then some (c.toNat - 48)
  else if 97 ≤ c && c ≤ 102 then some (c.toNat - 87)
  else if 65 ≤ c && c ≤ 70 then some (c.toNat - 55)
  else none

/-- The bytes before the first 0. -/
def cString (s : Bytes) : Bytes := s.takeWhile (· ≠ 0)

/-- Where `needle` is found first. -/
def strstr (needle : Bytes) : Bytes → Option ℕ
  | [] => if needle = [] then some 0 else none
  | c :: s => if needle <+: c :: s then some 0 else if c = 0 then none else (strstr needle s).map (· + 1)

/-- Where the byte `c` is found first. -/
def strchr (c : UInt8) : Bytes → Option ℕ
  | [] => none
  | b :: s => if b = c then some 0 else if b = 0 then none else (strchr c s).map (· + 1)

/-! ### Conversions of `sscanf`

What is left of the string after the conversion, `none` when it fails. -/

def scanLiteral (literal s : Bytes) : Option Bytes :=
  if literal <+: s then some (s.drop literal.length) else none

def skipSpaces (s : Bytes) : Bytes := s.dropWhile isspace

def skipSign : Bytes → Bytes
  | c :: s => if c = 43 ∨ c = 45 then s else c :: s
  | [] => []

def scanDigits (digit : UInt8 → Bool) (s : Bytes) : Option Bytes :=
  if (s.head?.map digit).getD false then some (s.dropWhile digit) else none

/-- `%d`. -/
def scanDecimal (s : Bytes) : Option Bytes := scanDigits isdigit (skipSign (skipSpaces s))

/-- `%i`: the base is read from the prefix. -/
def scanInteger (s : Bytes) : Option Bytes :=
  match skipSign (skipSpaces s) with
  | 48 :: x :: s =>
    if x = 120 ∨ x = 88 then scanDigits (fun c => (hexDigit? c).isSome) s
    else some ((x :: s).dropWhile fun c => 48 ≤ c && c ≤ 55)
  | s => scanDigits isdigit s

/-- `%s`, with a maximal width: the word and what is left. -/
def scanWord (width : Option ℕ) (s : Bytes) : Option (Bytes × Bytes) :=
  let s := skipSpaces s
  let word := s.takeWhile (!isspace ·)
  let word := match width with
    | some n => word.take n
    | none => word
  if word = [] then none else some (word, s.drop word.length)

/-! ### `strtol` in base 16 -/

def LONG_MAX : ℤ := 2 ^ 63 - 1

def LONG_MIN : ℤ := -2 ^ 63

/-- The digits in front of the string. -/
def hexDigits (s : Bytes) : List ℕ := (s.takeWhile fun c => (hexDigit? c).isSome).filterMap hexDigit?

def hexValue (digits : List ℕ) : ℕ := digits.foldl (fun n d => n * 16 + d) 0

/-- An optional `0x` before a digit. -/
def skipHexPrefix : Bytes → Bytes
  | 48 :: x :: c :: s => if (x = 120 ∨ x = 88) ∧ (hexDigit? c).isSome then c :: s else 48 :: x :: c :: s
  | s => s

def strtol16 (s : Bytes) : ℤ :=
  let s := skipSpaces s
  let value : ℤ := hexValue (hexDigits (skipHexPrefix (skipSign s)))
  if s.head? = some 45 then max (-value) LONG_MIN else min value LONG_MAX

/-! ### `strstr` -/

variable {needle s m : Bytes} {p : ℕ}

variable {c : UInt8}

lemma strstr_cons_of_prefix (h : needle <+: c :: s) : strstr needle (c :: s) = some 0 := by
  simp [strstr, h]

section

variable (h : strstr needle s = some p)
include h

/-- What is found lies in the string. -/
lemma add_length_le_of_strstr : p + needle.length ≤ s.length := by
  induction s generalizing p with
  | nil =>
    simp only [strstr] at h
    split at h
    · next hn => cases h; simp [hn]
    · cases h
  | cons c s ih =>
    simp only [strstr] at h
    split_ifs at h with hpre hc
    · cases h
      simpa using hpre.length_le
    · obtain ⟨q, hq, rfl⟩ := map_eq_some_iff.mp h
      have hle := ih hq
      simp only [length_cons]
      omega

/-- What is found in a string is found in the same place in any longer one. -/
lemma strstr_append : strstr needle (s ++ m) = some p := by
  induction s generalizing p with
  | nil =>
    simp only [strstr] at h
    split at h
    · next hn =>
      cases h
      subst hn
      cases m <;> simp [strstr]
    · cases h
  | cons c s ih =>
    simp only [strstr] at h
    split_ifs at h with hpre hc
    · cases h
      exact strstr_cons_of_prefix (hpre.trans (prefix_append _ m))
    · obtain ⟨q, hq, rfl⟩ := map_eq_some_iff.mp h
      have hshort : ¬ needle <+: c :: (s ++ m) := by
        intro hlong
        have hle := add_length_le_of_strstr hq
        exact hpre (prefix_of_prefix_length_le hlong (prefix_append (c :: s) m) (by simp; omega))
      simp [strstr, hshort, hc, ih hq]

/-- Where a string is found it begins. -/
lemma prefix_drop_of_strstr : needle <+: s.drop p := by
  induction s generalizing p with
  | nil =>
    simp only [strstr] at h
    split_ifs at h with hnil
    rw [hnil]
    exact nil_prefix
  | cons c s ih =>
    simp only [strstr] at h
    split_ifs at h with hpre hc
    · cases h
      exact hpre
    · obtain ⟨q, hq, rfl⟩ := map_eq_some_iff.mp h
      exact ih hq

/-- The search does not pass the end of the string. -/
lemma ne_zero_of_strstr : ∀ b ∈ s.take p, b ≠ 0 := by
  induction s generalizing p with
  | nil => simp
  | cons c s ih =>
    simp only [strstr] at h
    split_ifs at h with hpre hc
    · cases h
      simp
    · obtain ⟨q, hq, rfl⟩ := map_eq_some_iff.mp h
      rw [take_succ_cons, forall_mem_cons]
      exact ⟨hc, ih hq⟩

/-- What is found is found from any place before it. -/
lemma strstr_drop {k : ℕ} (hk : k ≤ p) : strstr needle (s.drop k) = some (p - k) := by
  induction k generalizing s p with
  | zero => exact h
  | succ k ih =>
    cases s with
    | nil =>
      have hle := add_length_le_of_strstr h
      simp only [length_nil] at hle
      omega
    | cons c s =>
      simp only [strstr] at h
      split_ifs at h with hpre hc
      · cases h
        cases hk
      · obtain ⟨q, hq, rfl⟩ := map_eq_some_iff.mp h
        rw [drop_succ_cons, Nat.succ_sub_succ]
        exact ih hq (Nat.le_of_succ_le_succ hk)

end

/-- What is in the string is found, there or before. -/
lemma exists_strstr_le (hzero : ∀ b ∈ s.take p, b ≠ 0) (h : needle <+: s.drop p) :
    ∃ k ≤ p, strstr needle s = some k := by
  induction s generalizing p with
  | nil =>
    rw [drop_nil, prefix_nil] at h
    exact ⟨0, Nat.zero_le p, if_pos h⟩
  | cons c s ih =>
    by_cases hpre : needle <+: c :: s
    · exact ⟨0, Nat.zero_le p, strstr_cons_of_prefix hpre⟩
    · cases p with
      | zero => exact absurd h hpre
      | succ p =>
        rw [take_succ_cons, forall_mem_cons] at hzero
        obtain ⟨k, hk, hfound⟩ := ih hzero.2 h
        exact ⟨k + 1, Nat.succ_le_succ hk, by rw [strstr, if_neg hpre, if_neg hzero.1, hfound]; rfl⟩

lemma strstr_append_eq {n : ℕ} (h : strstr needle s = some p) (hm : strstr needle (s ++ m) = some n) : p = n :=
  some.inj ((strstr_append h).symm.trans hm)

lemma strstr_crlf_line {line : Bytes} (h : ∀ c ∈ line, c ≠ 0 ∧ c ≠ 13) :
    strstr crlf (line ++ (crlf ++ m)) = some line.length := by
  induction line with
  | nil => exact strstr_cons_of_prefix (prefix_append crlf m)
  | cons c line ih =>
    obtain ⟨hzero, hcr⟩ := h c mem_cons_self
    have hpre : ¬ crlf <+: c :: (line ++ (crlf ++ m)) := by
      intro hpre
      exact hcr (cons_prefix_cons.mp hpre).1.symm
    rw [cons_append]
    simp [strstr, hpre, hzero, ih fun c hc => h c (mem_cons_of_mem _ hc)]

/-- A byte that is not searched ends what is found before it. -/
lemma prefix_of_prefix_append_cons (hc : c ∉ needle) (h : needle <+: s ++ c :: m) : needle <+: s := by
  rcases Nat.lt_or_ge s.length needle.length with hlt | hle
  · obtain ⟨t, ht⟩ := h
    have hget : (needle ++ t)[s.length]? = some c := by rw [ht]; simp
    rw [getElem?_append_left hlt] at hget
    exact absurd (mem_of_getElem? hget) hc
  · exact prefix_of_prefix_length_le h (prefix_append s _) hle

/-- The search goes on behind a part that it does not find anything in. -/
lemma strstr_append_cons (hc : c ∉ needle) (hzero : ∀ b ∈ s, b ≠ 0) (h : ¬ needle <:+: s) :
    strstr needle (s ++ c :: m) = (strstr needle (c :: m)).map (· + s.length) := by
  induction s with
  | nil => simp
  | cons b s ih =>
    have hpre : ¬ needle <+: b :: s ++ c :: m := fun hpre => h (prefix_of_prefix_append_cons hc hpre).isInfix
    have hs : ¬ needle <:+: s := fun hs => h (hs.trans (suffix_cons b s).isInfix)
    have hih := ih (fun x hx => hzero x (mem_cons_of_mem b hx)) hs
    rw [cons_append] at hpre ⊢
    simp [strstr, hpre, hzero b (by simp), hih, Function.comp_def, Nat.add_assoc]

lemma strstr_cons_of_not_mem (hne : needle ≠ []) (hc : c ∉ needle) :
    strstr needle (c :: s) = if c = 0 then none else (strstr needle s).map (· + 1) := by
  have hpre : ¬ needle <+: c :: s := by
    intro hpre
    exact hne (prefix_nil.1 (prefix_of_prefix_append_cons (s := []) hc hpre))
  simp [strstr, hpre]

/-- A string ends at its first 0. -/
lemma strstr_append_zero (hne : needle ≠ []) (hneedle : 0 ∉ needle) (hzero : ∀ b ∈ s, b ≠ 0)
    (h : ¬ needle <:+: s) : strstr needle (s ++ 0 :: m) = none := by
  rw [strstr_append_cons hneedle hzero h, strstr_cons_of_not_mem hne hneedle]
  rfl

lemma exists_strstr (hzero : ∀ b ∈ s, b ≠ 0) (h : needle <:+: s) : ∃ n, strstr needle s = some n := by
  induction s with
  | nil => exact ⟨0, by simp [strstr, infix_nil.1 h]⟩
  | cons b s ih =>
    by_cases hpre : needle <+: b :: s
    · exact ⟨0, strstr_cons_of_prefix hpre⟩
    · have hs : needle <:+: s := (infix_cons_iff.1 h).resolve_left hpre
      obtain ⟨n, hn⟩ := ih (fun x hx => hzero x (mem_cons_of_mem b hx)) hs
      exact ⟨n + 1, by simp [strstr, hpre, hzero b (by simp), hn]⟩

/-- Where the first byte of what is searched is missing, nothing is found. -/
lemma strstr_append_of_not_mem (h : ∀ b ∈ s, b ≠ c ∧ b ≠ 0) :
    strstr (c :: needle) (s ++ m) = (strstr (c :: needle) m).map (· + s.length) := by
  induction s with
  | nil => simp
  | cons b s ih =>
    obtain ⟨hb, hzero⟩ := h b (by simp)
    have hpre : ¬ c :: needle <+: b :: (s ++ m) := fun hpre => hb (cons_prefix_cons.1 hpre).1.symm
    have hih := ih fun x hx => h x (mem_cons_of_mem b hx)
    simp [strstr, hpre, hzero, hih, Function.comp_def, Nat.add_assoc]

/-! ### `strchr` -/

section

variable {c : UInt8} {r : Bytes}

lemma strchr_append_cons (h : ∀ b ∈ s, b ≠ c ∧ b ≠ 0) : strchr c (s ++ c :: r) = some s.length := by
  induction s with
  | nil => simp [strchr]
  | cons b s ih =>
    have hb := h b (by simp)
    simp [strchr, hb.1, hb.2, ih fun x hx => h x (mem_cons_of_mem b hx)]

lemma strchr_eq_none (h : ∀ b ∈ s, b ≠ c) : strchr c s = none := by
  induction s with
  | nil => rfl
  | cons b s ih =>
    have hb := h b (by simp)
    simp [strchr, hb, ih fun x hx => h x (mem_cons_of_mem b hx)]

lemma getElem?_of_strchr {p : ℕ} (h : strchr c s = some p) : s[p]? = some c := by
  induction s generalizing p with
  | nil => cases h
  | cons b s ih =>
    simp only [strchr] at h
    split_ifs at h with hb hzero
    · cases h
      simp [hb]
    · obtain ⟨q, hq, rfl⟩ := map_eq_some_iff.1 h
      simpa using ih hq

/-- What is found in a string is found in the same place in any longer one. -/
lemma strchr_append {p : ℕ} (h : strchr c s = some p) (m : Bytes) : strchr c (s ++ m) = some p := by
  induction s generalizing p with
  | nil => cases h
  | cons b s ih =>
    simp only [strchr, cons_append] at h ⊢
    split_ifs at h ⊢ with hb hzero
    · exact h
    · obtain ⟨q, hq, rfl⟩ := map_eq_some_iff.1 h
      rw [ih hq]
      rfl

/-- What is found splits the string. -/
lemma exists_of_strchr {p : ℕ} (h : strchr c s = some p) :
    ∃ r, s = s.take p ++ c :: r ∧ p < s.length ∧ ∀ b ∈ s.take p, b ≠ c ∧ b ≠ 0 := by
  induction s generalizing p with
  | nil => cases h
  | cons b s ih =>
    simp only [strchr] at h
    split_ifs at h with hb hzero
    · cases h
      exact ⟨s, by simp [hb], by simp, by simp⟩
    · obtain ⟨q, hq, rfl⟩ := map_eq_some_iff.1 h
      obtain ⟨r, heq, hlt, hr⟩ := ih hq
      refine ⟨r, ?_, by simpa using hlt, ?_⟩
      · rw [take_succ_cons, cons_append, ← heq]
      · intro x hx
        rw [take_succ_cons] at hx
        rcases mem_cons.1 hx with rfl | hx
        · exact ⟨hb, hzero⟩
        · exact hr x hx

end

section

variable {word rest : Bytes}

/-- A word that starts the string is read up to the blank behind it. -/
lemma scanWord_append (hne : word ≠ []) (hword : ∀ b ∈ word, isspace b = false)
    (hrest : ∀ b ∈ rest.head?, isspace b = true) : scanWord none (word ++ rest) = some (word, rest) := by
  obtain ⟨b, word, rfl⟩ := exists_cons_of_ne_nil hne
  have hskip : skipSpaces (b :: word ++ rest) = b :: word ++ rest := by
    simp [skipSpaces, hword b (by simp)]
  have htake : (b :: word ++ rest).takeWhile (!isspace ·) = b :: word := by
    rw [takeWhile_append_of_pos fun x hx => by simp [hword x hx]]
    cases rest with
    | nil => simp
    | cons c rest => simp [hrest c (by simp)]
  simp only [scanWord, hskip, htake]
  rw [if_neg (cons_ne_nil b word), drop_left]

/-- The word is a part of the string, before what is left. -/
lemma exists_of_scanWord {width : Option ℕ} (h : scanWord width s = some (word, rest)) :
    ∃ blanks, s = blanks ++ word ++ rest := by
  simp only [scanWord] at h
  split_ifs at h with hempty
  cases h
  refine ⟨s.takeWhile isspace, ?_⟩
  set w := skipSpaces s with hw
  have hs : s = s.takeWhile isspace ++ w := (takeWhile_append_dropWhile).symm
  have hprefix : (match width with
      | some n => (w.takeWhile (!isspace ·)).take n
      | none => w.takeWhile (!isspace ·)) <+: w := by
    cases width with
    | none => exact takeWhile_prefix _
    | some n => exact (List.take_prefix n _).trans (List.takeWhile_prefix _)
  obtain ⟨t, ht⟩ := hprefix
  generalize (match width with
      | some n => (w.takeWhile (!isspace ·)).take n
      | none => w.takeWhile (!isspace ·)) = v at ht ⊢
  rw [append_assoc, ← ht, drop_left, ht]
  exact hs

end

/-- A hexadecimal digit is no blank, no sign and no `x`. -/
lemma of_hexDigit (h : (hexDigit? c).isSome) : isspace c = false ∧ c ≠ 43 ∧ c ≠ 45 ∧ c ≠ 120 ∧ c ≠ 88 ∧ c ≠ 13 := by
  have hrange : 48 ≤ c.toNat ∧ c.toNat ≤ 57 ∨ 97 ≤ c.toNat ∧ c.toNat ≤ 102 ∨ 65 ≤ c.toNat ∧ c.toNat ≤ 70 := by
    simp only [hexDigit?, isdigit, Bool.and_eq_true, decide_eq_true_eq, UInt8.le_iff_toNat_le] at h
    split_ifs at h with h₁ h₂ h₃
    · exact .inl h₁
    · exact .inr (.inl h₂)
    · exact .inr (.inr h₃)
    · cases h
  have hne (n : UInt8) (hn : ¬ (48 ≤ n.toNat ∧ n.toNat ≤ 57 ∨ 97 ≤ n.toNat ∧ n.toNat ≤ 102 ∨
      65 ≤ n.toNat ∧ n.toNat ≤ 70)) : c ≠ n := by
    rintro rfl
    exact hn hrange
  refine ⟨?_, hne _ (by decide), hne _ (by decide), hne _ (by decide), hne _ (by decide), hne _ (by decide)⟩
  have hspace : ¬ (9 ≤ c.toNat ∧ c.toNat ≤ 13) := by omega
  have hblank : c ≠ 32 := hne _ (by decide)
  simpa [isspace, UInt8.le_iff_toNat_le, hblank] using fun h => by omega

/-- The digits end where something else follows. -/
lemma strtol16_append {digits : Bytes} (hne : digits ≠ []) (hdigits : ∀ c ∈ digits, (hexDigit? c).isSome)
    (hs : ∀ c ∈ s.head?, hexDigit? c = none ∧ c ≠ 120 ∧ c ≠ 88) :
    strtol16 (digits ++ s) = min ((hexValue (digits.filterMap hexDigit?) : ℕ) : ℤ) LONG_MAX := by
  obtain ⟨d, digits, rfl⟩ := exists_cons_of_ne_nil hne
  obtain ⟨hspace, hplus, hminus, -⟩ := of_hexDigit (hdigits d mem_cons_self)
  have hskip : skipSpaces (d :: digits ++ s) = d :: digits ++ s := by simp [skipSpaces, hspace]
  have hsign : skipSign (d :: digits ++ s) = d :: digits ++ s := by simp [skipSign, hplus, hminus]
  have hprefix : skipHexPrefix (d :: digits ++ s) = d :: digits ++ s := by
    simp only [skipHexPrefix, cons_append]
    split
    · next x c r heq =>
      rw [cons.injEq] at heq
      have hx : x ≠ 120 ∧ x ≠ 88 := by
        cases digits with
        | nil =>
          rw [nil_append] at heq
          exact (hs x (by simp [heq.2])).2
        | cons e digits =>
          obtain ⟨-, -, -, hx, hX, -⟩ := of_hexDigit (hdigits e (by simp))
          obtain ⟨rfl, -⟩ := cons.inj heq.2
          exact ⟨hx, hX⟩
      simp [hx.1, hx.2, heq]
    · rfl
  have hwhile : (d :: digits ++ s).takeWhile (fun c => (hexDigit? c).isSome) = d :: digits := by
    rw [takeWhile_append_of_pos hdigits]
    cases s with
    | nil => simp
    | cons c s => simp [(hs c (by simp)).1]
  simp only [strtol16, hskip, hsign, hprefix, hexDigits, hwhile]
  rw [if_neg (by simpa using hminus)]

end CString
