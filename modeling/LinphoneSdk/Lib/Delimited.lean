import LinphoneSdk.Lib.Bytes

/-!
# Messages made of entries that delimit themselves

A message holds a header, the number of its entries on two bytes and the entries. Where an entry
ends is read in the entry itself: what follows it does not change how it is read. Such a message
holds one list of entries, and it does not end before them.
-/

namespace Delimited

open Bytes List UInt16

variable {α : Type} {write : α → Bytes}

/-- No entry can be read in two ways, whatever follows it. -/
def SelfDelimited (write : α → Bytes) : Prop :=
  ∀ {x y : α} {rest rest' : Bytes}, write x ++ rest = write y ++ rest' → x = y ∧ rest = rest'

/-- A sequence of entries is delimited by their number. -/
lemma SelfDelimited.flatMap (hwrite : SelfDelimited write) {xs ys : List α} {rest rest' : Bytes}
    (hlength : xs.length = ys.length) (h : xs.flatMap write ++ rest = ys.flatMap write ++ rest') :
    xs = ys ∧ rest = rest' := by
  induction xs generalizing ys with
  | nil =>
    cases ys with
    | nil => exact ⟨rfl, h⟩
    | cons y ys => cases hlength
  | cons x xs ih =>
    cases ys with
    | nil => cases hlength
    | cons y ys =>
      rw [flatMap_cons, flatMap_cons, append_assoc, append_assoc] at h
      obtain ⟨rfl, hentries⟩ := hwrite h
      obtain ⟨rfl, hrest⟩ := ih (Nat.succ.inj hlength) hentries
      exact ⟨rfl, hrest⟩

/-! ### Entries of a fixed size -/

lemma be16_injective {x y : UInt16} (h : be16 x = be16 y) : x = y := by
  have hword : be16At (be16 x) 0 = be16At (be16 y) 0 := by rw [h]
  have hread (z : UInt16) : be16At (be16 z) 0 = z := be16At_of_drop z (append_nil (be16 z)).symm
  rw [hread, hread] at hword
  exact hword

lemma be32_injective {x y : UInt32} (h : be32 x = be32 y) : x = y := by
  have hword : be32At (be32 x) 0 = be32At (be32 y) 0 := by rw [h]
  have hread (z : UInt32) : be32At (be32 z) 0 = z := be32At_of_drop z (append_nil (be32 z)).symm
  rw [hread, hread] at hword
  exact hword

lemma selfDelimited_buf (n : ℕ) : SelfDelimited (fun b : Buf n => b.toList) := by
  intro b b' rest rest' h
  obtain ⟨hb, hrest⟩ := append_inj h (b.toList_length.trans b'.toList_length.symm)
  exact ⟨List.Vector.eq b b' hb, hrest⟩

lemma selfDelimited_be32 : SelfDelimited be32 := by
  intro x y rest rest' h
  obtain ⟨hword, hrest⟩ := append_inj h rfl
  exact ⟨be32_injective hword, hrest⟩

lemma exists_be32 {bytes : Bytes} (h : bytes.length = 4) : ∃ x, be32 x = bytes := by
  obtain ⟨a, b, c, d, rfl⟩ := length_eq_four.1 h
  exact ⟨word32 a b c d, be32_word32 a b c d⟩

/-! ### Entries cut by the end of the bytes -/

/-- The bytes are the beginning of `n` entries and end before the last one does. -/
def Cut (write : α → Bytes) (n : ℕ) (l : Bytes) : Prop :=
  ∃ (xs : List α) (more : Bytes), xs.length = n ∧ more ≠ [] ∧ l ++ more = xs.flatMap write

lemma Cut.one {x : α} {l more : Bytes} (hmore : more ≠ []) (h : l ++ more = write x) : Cut write 1 l :=
  ⟨[x], more, rfl, hmore, by rw [h, flatMap_cons, flatMap_nil, append_nil]⟩

variable {l : Bytes}

lemma Cut.cons {n : ℕ} (x : α) (h : Cut write n l) : Cut write (n + 1) (write x ++ l) := by
  obtain ⟨xs, more, hlength, hmore, h⟩ := h
  refine ⟨x :: xs, more, congrArg Nat.succ hlength, hmore, ?_⟩
  rw [append_assoc, h, flatMap_cons]

/-- An entry that is cut cuts those after it. -/
lemma Cut.of_one (h : Cut write 1 l) (n : ℕ) : Cut write (n + 1) l := by
  obtain ⟨xs, more, hlength, hmore, h⟩ := h
  obtain ⟨x, rfl⟩ := length_eq_one_iff.1 hlength
  refine ⟨x :: replicate n x, more ++ (replicate n x).flatMap write, by simp, ?_, ?_⟩
  · exact fun hnil => hmore (append_eq_nil_iff.1 hnil).1
  · rw [← append_assoc, h, flatMap_cons, flatMap_cons, flatMap_nil, append_nil]

/-- Where all strings of one size are entries, a string of the right size is a sequence of them. -/
lemma exists_flatMap {size : ℕ} (hsize : ∀ bytes : Bytes, bytes.length = size → ∃ x, write x = bytes) {n : ℕ}
    (h : l.length = size * n) : ∃ xs : List α, xs.length = n ∧ xs.flatMap write = l := by
  induction n generalizing l with
  | zero => exact ⟨[], rfl, (eq_nil_of_length_eq_zero h).symm⟩
  | succ n ih =>
    rw [Nat.mul_succ] at h
    obtain ⟨x, hx⟩ := hsize (l.take size) (by rw [length_take]; omega)
    obtain ⟨xs, hlength, hxs⟩ := ih (l := l.drop size) (by rw [length_drop]; omega)
    exact ⟨x :: xs, congrArg Nat.succ hlength, by rw [flatMap_cons, hx, hxs, take_append_drop]⟩

/-- Entries of one size are cut by the end of bytes that are too few. -/
lemma cut_of_length_lt {size : ℕ} (hsize : ∀ bytes : Bytes, bytes.length = size → ∃ x, write x = bytes) {n : ℕ}
    (h : l.length < size * n) : Cut write n l := by
  let more := replicate (size * n - l.length) (0 : UInt8)
  have hmore : more.length = size * n - l.length := length_replicate
  have hall : (l ++ more).length = size * n := by
    rw [length_append]
    omega
  obtain ⟨xs, hlength, hxs⟩ := exists_flatMap hsize hall
  refine ⟨xs, more, hlength, fun hnil => ?_, hxs.symm⟩
  rw [hnil, length_nil] at hmore
  omega

/-- Bytes that hold the entries are not cut. -/
lemma SelfDelimited.not_cut (hwrite : SelfDelimited write) {xs : List α} {rest : Bytes} :
    ¬ Cut write xs.length (xs.flatMap write ++ rest) := by
  rintro ⟨ys, more, hlength, hmore, h⟩
  rw [append_assoc, ← append_nil (ys.flatMap write)] at h
  obtain ⟨-, h⟩ := hwrite.flatMap hlength.symm h
  exact hmore (append_eq_nil_iff.1 h).2

/-- A longer sequence goes on with one more entry. -/
lemma SelfDelimited.exists_of_lt (hwrite : SelfDelimited write) {xs ys : List α} {rest rest' : Bytes}
    (hlength : xs.length < ys.length) (h : xs.flatMap write ++ rest = ys.flatMap write ++ rest') :
    ∃ y more, rest = write y ++ more := by
  rw [← take_append_drop xs.length ys, flatMap_append, append_assoc] at h
  have htake : xs.length = (ys.take xs.length).length := by
    rw [length_take]
    omega
  have hrest := (hwrite.flatMap htake h).2
  cases hdrop : ys.drop xs.length with
  | nil =>
    have hle := drop_eq_nil_iff.1 hdrop
    omega
  | cons y ys' =>
    rw [hdrop, flatMap_cons, append_assoc] at hrest
    exact ⟨y, _, hrest⟩

/-- After some of the `n` entries, the bytes go on with what is no entry. -/
def After (write : α → Bytes) (bad : Bytes → Prop) (n : ℕ) (l : Bytes) : Prop :=
  ∃ (xs : List α) (rest : Bytes), xs.length < n ∧ l = xs.flatMap write ++ rest ∧ bad rest

variable {bad : Bytes → Prop}

lemma After.cons {n : ℕ} (x : α) (h : After write bad n l) : After write bad (n + 1) (write x ++ l) := by
  obtain ⟨xs, rest, hlength, rfl, hbad⟩ := h
  exact ⟨x :: xs, rest, Nat.succ_lt_succ hlength, by rw [flatMap_cons, append_assoc], hbad⟩

lemma After.zero (n : ℕ) (h : bad l) : After write bad (n + 1) l :=
  ⟨[], l, Nat.zero_lt_succ n, rfl, h⟩

/-! ### Messages -/

/-- The number of entries, on two bytes. -/
def count (entries : List α) : Bytes := be16 (ofNat entries.length)

/-- After a header of this size, the body holds the number of the entries and the entries. -/
def Holds (headerSize : ℕ) (write : α → Bytes) (body : Bytes) (entries : List α) : Prop :=
  ∃ header trailing : Bytes, header.length = headerSize ∧ entries.length ≤ 0xFFFF ∧
    body = header ++ (count entries ++ (entries.flatMap write ++ trailing))

/-- The body is the beginning of a message, which it ends before. -/
def EndsBefore (headerSize : ℕ) (write : α → Bytes) (body : Bytes) : Prop :=
  ∃ (header : Bytes) (entries : List α) (more : Bytes),
    header.length = headerSize ∧ entries.length ≤ 0xFFFF ∧ more ≠ [] ∧
      body ++ more = header ++ (count entries ++ entries.flatMap write)

/-- After some of the entries the body announces, it goes on with what is no entry. -/
def BadAfter (headerSize : ℕ) (write : α → Bytes) (bad : Bytes → Prop) (body : Bytes) : Prop :=
  ∃ (header : Bytes) (n : ℕ) (rest : Bytes), header.length = headerSize ∧ n ≤ 0xFFFF ∧
    body = header ++ (be16 (ofNat n) ++ rest) ∧ After write bad n rest

lemma length_eq_of_ofNat_eq {m n : ℕ} (hm : m ≤ 0xFFFF) (hn : n ≤ 0xFFFF) (h : ofNat m = ofNat n) : m = n := by
  have hnat := congrArg UInt16.toNat h
  rw [toNat_ofNat', toNat_ofNat'] at hnat
  omega

/-- Two messages with the same bytes announce the same number of entries. -/
lemma entries_of_message {headerSize m n : ℕ} {header header' rest rest' : Bytes}
    (hheader : header.length = headerSize) (hheader' : header'.length = headerSize) (hm : m ≤ 0xFFFF) (hn : n ≤ 0xFFFF)
    (h : header ++ (be16 (ofNat m) ++ rest) = header' ++ (be16 (ofNat n) ++ rest')) : m = n ∧ rest = rest' := by
  have hbody := (append_inj h (hheader.trans hheader'.symm)).2
  obtain ⟨hcount, hrest⟩ := append_inj hbody rfl
  exact ⟨length_eq_of_ofNat_eq hm hn (be16_injective hcount), hrest⟩

variable {body : Bytes}

lemma Holds.unique (hwrite : SelfDelimited write) {headerSize : ℕ} {xs ys : List α}
    (hx : Holds headerSize write body xs) (hy : Holds headerSize write body ys) : xs = ys := by
  obtain ⟨header, trailing, hheader, hxs, rfl⟩ := hx
  obtain ⟨header', trailing', hheader', hys, h⟩ := hy
  obtain ⟨hlength, hrest⟩ := entries_of_message hheader hheader' hxs hys h
  exact (hwrite.flatMap hlength hrest).1

lemma Holds.not_endsBefore (hwrite : SelfDelimited write) {headerSize : ℕ} {xs : List α}
    (hx : Holds headerSize write body xs) : ¬ EndsBefore headerSize write body := by
  obtain ⟨header, trailing, hheader, hxs, rfl⟩ := hx
  rintro ⟨header', ys, more, hheader', hys, hmore, h⟩
  rw [append_assoc, append_assoc] at h
  obtain ⟨hlength, hrest⟩ := entries_of_message hheader hheader' hxs hys h
  exact hwrite.not_cut ⟨ys, more, hlength.symm, hmore, hrest⟩

/-- A body that goes on with what is no entry holds no list of entries. -/
lemma Holds.not_badAfter (hwrite : SelfDelimited write) (hbad : ∀ x rest, ¬ bad (write x ++ rest)) {headerSize : ℕ}
    {xs : List α} (hx : Holds headerSize write body xs) : ¬ BadAfter headerSize write bad body := by
  obtain ⟨header, trailing, hheader, hxs, rfl⟩ := hx
  rintro ⟨header', n, rest, hheader', hn, h, ys, rest', hlt, rfl, hrest'⟩
  obtain ⟨hlength, hrest⟩ := entries_of_message hheader hheader' hxs hn h
  obtain ⟨y, more, rfl⟩ := hwrite.exists_of_lt (hlt.trans_eq hlength.symm) hrest.symm
  exact hbad y more hrest'

/-- A body that goes on with what is no entry, and would with any bytes after it, does not end before its entries. -/
lemma BadAfter.not_endsBefore (hwrite : SelfDelimited write) (hbad : ∀ x rest, ¬ bad (write x ++ rest))
    (happend : ∀ l more, bad l → bad (l ++ more)) {headerSize : ℕ} (h : BadAfter headerSize write bad body) :
    ¬ EndsBefore headerSize write body := by
  obtain ⟨header, n, rest, hheader, hn, rfl, xs, rest', hlt, rfl, hrest⟩ := h
  rintro ⟨header', ys, more, hheader', hys, -, hbody⟩
  have hholds : Holds headerSize write (header' ++ (count ys ++ ys.flatMap write)) ys :=
    ⟨header', [], hheader', hys, by rw [append_nil]⟩
  rw [← hbody] at hholds
  refine hholds.not_badAfter hwrite hbad
    ⟨header, n, xs.flatMap write ++ (rest' ++ more), hheader, hn, ?_, xs, rest' ++ more, hlt, rfl,
      happend rest' more hrest⟩
  simp only [append_assoc]

/-- The bytes after the number of entries are cut when the body ends before the entries. -/
lemma endsBefore_of_cut {headerSize n : ℕ} {header l : Bytes} (hheader : header.length = headerSize)
    (hn : n ≤ 0xFFFF) (h : Cut write n l) : EndsBefore headerSize write (header ++ (be16 (ofNat n) ++ l)) := by
  obtain ⟨xs, more, rfl, hmore, h⟩ := h
  refine ⟨header, xs, more, hheader, hn, hmore, ?_⟩
  rw [append_assoc, append_assoc, h, count]

/-- A body without room for the number of entries ends before them. -/
lemma endsBefore_of_length_lt [Inhabited α] {headerSize : ℕ} (h : body.length < headerSize + 2) :
    EndsBefore headerSize write body := by
  -- pad with zeros up to the number, then add as many entries as it says
  let padded := body ++ replicate (headerSize + 2 - body.length) 0
  have hpadded : padded.length = headerSize + 2 := by simp [padded]; omega
  let header := padded.take headerSize
  have htwo : ∃ a b, padded.drop headerSize = [a, b] :=
    length_eq_two.1 (by rw [length_drop]; omega)
  obtain ⟨a, b, hab⟩ := htwo
  let n := (word16 a b).toNat
  have hn : n ≤ 0xFFFF := Nat.le_of_lt_succ (word16 a b).toNat_lt
  let entries : List α := replicate n default
  have hlength : entries.length = n := length_replicate
  refine ⟨header, entries, replicate (headerSize + 2 - body.length) 0 ++ entries.flatMap write, ?_, ?_, ?_, ?_⟩
  · rw [length_take]
    omega
  · omega
  · intro hnil
    have := congrArg length (append_eq_nil_iff.1 hnil).1
    rw [length_replicate, length_nil] at this
    omega
  · have hcount : count entries = [a, b] := by
      rw [count, hlength, UInt16.ofNat_toNat, be16_word16]
    rw [hcount, ← hab, ← append_assoc, ← append_assoc, take_append_drop]

end Delimited
