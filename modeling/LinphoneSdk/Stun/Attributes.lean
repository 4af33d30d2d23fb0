import LinphoneSdk.Stun.Decoder

/-!
# What the decoder makes of the bytes that remain

Each routine takes some of the bytes that remain, refuses them, or reads a null pointer.
-/

namespace Stun

open Bytes Exec Reading List Nat

/-! ### Decoders -/

namespace StunMessageDecoder

variable {d d' d'' : StunMessageDecoder}

/-- The decoder is before `l`, and it read nothing outside the block. -/
structure At (d : StunMessageDecoder) (l : Bytes) : Prop where
  drop : d.cursor.block.bytes.drop d.cursor.position = l
  le : d.cursor.position ≤ d.size
  inBounds : d.cursor.InBounds
  error : d.error = false

/-- What was read is not forgotten. -/
structure Later (d d' : StunMessageDecoder) : Prop where
  block : d'.cursor.block = d.cursor.block
  reach : d.cursor.reach ≤ d'.cursor.reach

lemma Later.refl (d : StunMessageDecoder) : Later d d := ⟨rfl, le_rfl⟩

lemma Later.trans (h : Later d d') (h' : Later d' d'') : Later d d'' :=
  ⟨h'.block.trans h.block, h.reach.trans h'.reach⟩

lemma Later.inBounds (h : Later d d') (hd' : d'.cursor.InBounds) : d.cursor.InBounds := by
  rw [Cursor.InBounds, h.block] at hd'
  exact h.reach.trans hd'

lemma later_advance (d : StunMessageDecoder) (n : ℕ) : Later d (d.advance n) := by
  refine ⟨rfl, ?_⟩
  rw [advance, Cursor.advance, Cursor.touch]
  split_ifs
  · exact le_rfl
  · exact le_max_left _ _

variable {l : Bytes}

lemma At.size_eq (h : At d l) : d.size = d.cursor.position + l.length := by
  have hle := h.le
  rw [← h.drop, length_drop]
  exact (Nat.add_sub_cancel' hle).symm

lemma At.remaining_eq (h : At d l) : d.remaining = l.length := by
  rw [remaining, h.size_eq]
  omega

lemma At.advance (h : At d l) {n : ℕ} (hn : n ≤ l.length) : At (d.advance n) (l.drop n) := by
  have hsize := h.size_eq
  refine ⟨?_, ?_, ?_, ?_⟩
  · rw [← h.drop, drop_drop]
    rfl
  · exact (Nat.add_le_add_left hn _).trans hsize.ge
  · exact (Cursor.inBounds_advance n).mpr ⟨h.inBounds, .inr ((Nat.add_le_add_left hn _).trans hsize.ge)⟩
  · rw [StunMessageDecoder.advance, h.error, Bool.false_or, decide_eq_false_iff_not, hsize, not_lt]
    exact Nat.add_le_add_left hn _

lemma At.not_inBounds (h : At d l) {n : ℕ} (hn : l.length < n) : ¬ (d.advance n).cursor.InBounds := by
  rw [StunMessageDecoder.advance, Cursor.inBounds_advance]
  rintro ⟨-, hzero | hle⟩
  · exact absurd hn (by simp [hzero])
  · have hsize := h.size_eq
    rw [size] at hsize
    omega

end StunMessageDecoder

open StunMessageDecoder

/-! ### Routines that keep what was read -/

/-- A routine that forgets nothing. -/
def Grows {α : Type} (m : Decode α) : Prop :=
  ∀ d, wp m (fun _ d' => Later d d') (fun _ d' => Later d d') d

section grows

variable {α β : Type} {m : Decode α} {f : α → Decode β}

lemma Grows.bind (hm : Grows m) (hf : ∀ a, Grows (f a)) : Grows (m >>= f) := by
  intro d
  rw [wp_bind]
  refine wp_mono (hm d) (fun a d' h => ?_) fun _ _ h => h
  exact wp_mono (hf a d') (fun _ _ h' => h.trans h') fun _ _ h' => h.trans h'

lemma Grows.map (hm : Grows m) (g : α → β) : Grows (g <$> m) := by
  intro d
  rw [wp_map]
  exact hm d

lemma grows_pure (a : α) : Grows (pure a) := fun d => Later.refl d

lemma grows_throw (e : DecodeError) : Grows (throw e : Decode α) := fun d => Later.refl d

lemma Grows.ite {c : Prop} [Decidable c] {n : Decode α} (hm : c → Grows m) (hn : ¬ c → Grows n) :
    Grows (if c then m else n) := by
  split_ifs with h
  · exact hm h
  · exact hn h

lemma grows_get : Grows (get : Decode StunMessageDecoder) := fun d => Later.refl d

lemma grows_setError : Grows setError := fun _ => ⟨rfl, le_rfl⟩

lemma grows_decode (n : ℕ) : Grows (decode n) := fun d => later_advance d n

lemma grows_decodeBuf (n : ℕ) : Grows (decodeBuf n) := fun d => later_advance d n

lemma grows_decode8 : Grows decode8 := (grows_decode 1).map _

lemma grows_decode16 : Grows decode16 := (grows_decode 2).map _

lemma grows_decode32 : Grows decode32 := (grows_decode 4).map _

lemma grows_decode64 : Grows decode64 := (grows_decode 8).map _

lemma grows_checkError : Grows checkError :=
  grows_get.bind fun _ => .ite (fun _ => grows_throw _) fun _ => grows_pure _

lemma Grows.forM {γ : Type} {g : γ → Decode PUnit} (hg : ∀ x, Grows (g x)) (l : List γ) : Grows (l.forM g) := by
  induction l with
  | nil => exact grows_pure _
  | cons x l ih => exact (hg x).bind fun _ => ih

variable (length : UInt16)

lemma grows_decodePadding : Grows (decodePadding length) :=
  .ite (fun _ => (Grows.forM (fun _ => grows_decode8.bind fun _ => grows_pure _) _).bind fun _ => grows_checkError)
    fun _ => grows_pure _

/-- A routine that checks the length first. -/
lemma Grows.checked {c : Prop} [Decidable c] {a : α} (hm : Grows m) :
    Grows (if c then (do setError; pure a) else m) :=
  .ite (fun _ => grows_setError.bind fun _ => grows_pure a) fun _ => hm

lemma grows_decodeAddr : Grows (decodeAddr length) := by
  refine .checked (grows_decode8.bind fun _ => grows_decode8.bind fun family => ?_)
  split_ifs with h
  · exact grows_decode16.bind fun _ => (grows_decodeBuf 16).bind fun _ => grows_pure _
  · exact grows_decode16.bind fun _ => grows_decode32.bind fun _ => grows_pure _

lemma grows_decodeWord : Grows (decodeWord length) := .checked grows_decode32

lemma grows_decodeIceControl : Grows (decodeIceControl length) := .checked grows_decode64

lemma grows_decodeString (max_length : ℕ) : Grows (decodeString length max_length) :=
  .checked ((grows_decode _).bind fun _ => grows_pure _)

lemma grows_decodeErrorCode : Grows (decodeErrorCode length) :=
  .checked (grows_decode16.bind fun _ => grows_decode8.bind fun _ => grows_decode8.bind fun _ =>
    .ite (fun _ => (grows_decode _).bind fun _ => grows_pure _) fun _ => grows_pure _)

lemma grows_decodeMessageIntegrity : Grows (decodeMessageIntegrity length) :=
  .checked ((grows_decodeBuf 20).bind fun _ => grows_pure _)

end grows

/-! ### Outcomes -/

/-- What a routine does with the bytes that remain. -/
inductive Outcome (α : Type) where
  | took (n : ℕ) (a : α)
  | refused
  | nullPointer

def Outcome.map {α β : Type} (f : α → β) : Outcome α → Outcome β
  | took n a => took n (f a)
  | refused => refused
  | nullPointer => nullPointer

/-- A routine with this outcome on `l`. Where it takes more than there is, it reads outside the block. -/
def Reads {α : Type} (m : Decode α) (l : Bytes) (o : Outcome α) : Prop :=
  ∀ d, At d l → match o with
    | .took n a =>
      if n ≤ l.length then ∃ d', m d = .ok a d' ∧ At d' (l.drop n) else ¬ (final m d).cursor.InBounds
    | .refused =>
      (∃ a d', m d = .ok a d' ∧ d'.error = true ∧ d'.cursor.InBounds) ∨
        ∃ d', m d = .error .refused d' ∧ d'.cursor.InBounds
    | .nullPointer => ∃ d', m d = .error .nullPointer d'

section reads

variable {α β : Type} {m : Decode α} {l : Bytes} {a : α} {n : ℕ}

variable {f : α → Decode β}

lemma bind_of_ok {d d' : StunMessageDecoder} (h : m d = .ok a d') : (m >>= f) d = f a d' := by
  change EStateM.bind m f d = _
  rw [EStateM.bind, h]

lemma bind_of_error {d d' : StunMessageDecoder} {e : DecodeError} (h : m d = .error e d') :
    (m >>= f) d = .error e d' := by
  change EStateM.bind m f d = _
  rw [EStateM.bind, h]

lemma final_map (f : α → β) (d : StunMessageDecoder) : final (f <$> m) d = final m d := by
  simp only [final, Functor.map, EStateM.map]
  cases m d <;> rfl

lemma Reads.map {o : Outcome α} (h : Reads m l o) (f : α → β) : Reads (f <$> m) l (o.map f) := by
  intro d hd
  have hread := h d hd
  cases o with
  | took n a =>
    simp only [Outcome.map] at hread ⊢
    split_ifs at hread ⊢ with hn
    · obtain ⟨d', heq, hd'⟩ := hread
      exact ⟨d', by simp [Functor.map, EStateM.map, heq], hd'⟩
    · rwa [final_map]
  | refused =>
    rcases hread with ⟨a, d', heq, herror⟩ | ⟨d', heq, hin⟩
    · exact .inl ⟨f a, d', by simp [Functor.map, EStateM.map, heq], herror⟩
    · exact .inr ⟨d', by simp [Functor.map, EStateM.map, heq], hin⟩
  | nullPointer =>
    obtain ⟨d', heq⟩ := hread
    exact ⟨d', by simp [Functor.map, EStateM.map, heq]⟩

lemma reads_pure (a : α) : Reads (pure a) l (.took 0 a) := by
  intro d hd
  exact ⟨d, rfl, hd⟩

lemma reads_setError (a : α) : Reads (do setError; pure a) l .refused := by
  intro d hd
  exact .inl ⟨a, _, rfl, rfl, hd.inBounds⟩

def Outcome.after (n : ℕ) : Outcome α → Outcome α
  | took k a => took (n + k) a
  | refused => refused
  | nullPointer => nullPointer

/-- A routine that takes some bytes, and what comes after it. -/
lemma Reads.bind_of_le {o : Outcome β} (hn : n ≤ l.length) (hm : Reads m l (.took n a))
    (hf : Reads (f a) (l.drop n) o) : Reads (m >>= f) l (o.after n) := by
  intro d hd
  have hread := hm d hd
  simp only [if_pos hn] at hread
  obtain ⟨d', heq, hd'⟩ := hread
  have hread' := hf d' hd'
  rw [final, bind_of_ok heq]
  cases o with
  | took k b =>
    simp only [Outcome.after, length_drop] at hread' ⊢
    split_ifs at hread' with hk
    · rw [if_pos (by omega), ← drop_drop]
      exact hread'
    · rwa [if_neg (by omega)]
  | refused => exact hread'
  | nullPointer => exact hread'

/-- What was read outside the block stays so. -/
lemma not_inBounds_bind {d : StunMessageDecoder} (hm : ¬ (final m d).cursor.InBounds) (hgrows : ∀ a, Grows (f a)) :
    ¬ (final (m >>= f) d).cursor.InBounds := by
  rw [final] at hm ⊢
  cases hrun : m d with
  | ok a' d' =>
    rw [hrun] at hm
    rw [bind_of_ok hrun]
    have hlater : Later d' (final (f a') d') := final_of_wp (hgrows a' d')
    exact fun hin => hm (hlater.inBounds hin)
  | error e d' =>
    rw [hrun] at hm
    rwa [bind_of_error hrun]

lemma Reads.not_inBounds (hn : l.length < n) (hm : Reads m l (.took n a)) (hgrows : ∀ a, Grows (f a))
    {d : StunMessageDecoder} (hd : At d l) : ¬ (final (m >>= f) d).cursor.InBounds := by
  have hread := hm d hd
  simp only [if_neg hn.not_ge] at hread
  exact not_inBounds_bind hread hgrows

/-- A routine that takes some bytes, and one that takes some of those after them. -/
lemma Reads.bind {b : β} {k : ℕ} (hm : Reads m l (.took n a)) (hf : Reads (f a) (l.drop n) (.took k b))
    (hgrows : ∀ a, Grows (f a)) : Reads (m >>= f) l (.took (n + k) b) := by
  rcases le_or_gt n l.length with hn | hn
  · exact hm.bind_of_le hn hf
  · intro d hd
    simp only
    rw [if_neg (by omega)]
    exact hm.not_inBounds hn hgrows hd

lemma Reads.bind_pure {f : α → β} (hm : Reads m l (.took n a)) :
    Reads (do let a ← m; pure (f a)) l (.took n (f a)) := hm.map f

lemma reads_decode (n : ℕ) : Reads (decode n) l (.took n (l.take n)) := by
  intro d hd
  simp only
  split_ifs with hn
  · refine ⟨d.advance n, ?_, hd.advance hn⟩
    rw [decode, Block.read_eq_segment (by have : d.cursor.block.bytes.length = _ := hd.size_eq; omega), Chunks.segment, hd.drop]
  · exact hd.not_inBounds (not_le.mp hn)

lemma reads_decodeBuf (n : ℕ) : Reads (decodeBuf n) l (.took n (bufAt l 0 n)) := by
  intro d hd
  simp only
  split_ifs with hn
  · refine ⟨d.advance n, ?_, hd.advance hn⟩
    have hread : d.cursor.block.readBuf d.cursor.position n = bufAt l 0 n := by
      apply List.Vector.eq
      rw [toList_bufAt, drop_zero, takeD_eq_take _ hn]
      exact (Block.read_eq_segment (by have : d.cursor.block.bytes.length = _ := hd.size_eq; omega)).trans
        (by rw [Chunks.segment, hd.drop])
    rw [decodeBuf, hread]
  · exact hd.not_inBounds (not_le.mp hn)

lemma reads_decode8 : Reads decode8 l (.took 1 (l.getD 0 0)) := by
  have hread := (reads_decode (l := l) 1).map (·.getD 0 0)
  cases l <;> exact hread

lemma getD_take_of_lt {j k : ℕ} (h : j < k) (l : Bytes) : (l.take k).getD j 0 = l.getD j 0 := by
  rw [getD_eq_getElem?_getD, getD_eq_getElem?_getD, getElem?_take_of_lt h]

variable {i k : ℕ}

lemma be16At_take (h : i + 2 ≤ k) (l : Bytes) : be16At (l.take k) i = be16At l i := by
  rw [be16At, be16At, getD_take_of_lt (by omega), getD_take_of_lt (by omega)]

lemma be32At_take (h : i + 4 ≤ k) (l : Bytes) : be32At (l.take k) i = be32At l i := by
  rw [be32At, be32At, getD_take_of_lt (by omega), getD_take_of_lt (by omega), getD_take_of_lt (by omega),
    getD_take_of_lt (by omega)]

lemma takeD_take {k : ℕ} (h : n ≤ k) (l : Bytes) : (l.take k).takeD n 0 = l.takeD n 0 := by
  induction n generalizing k l with
  | zero => rfl
  | succ n ih =>
    obtain ⟨k, rfl⟩ := exists_eq_succ_of_ne_zero (Nat.ne_zero_of_lt h)
    cases l with
    | nil => rfl
    | cons b l => exact congrArg (b :: ·) (ih (le_of_succ_le_succ h) l)

lemma bufAt_take (h : i + n ≤ k) (l : Bytes) : bufAt (l.take k) i n = bufAt l i n := by
  apply List.Vector.eq
  rw [toList_bufAt, toList_bufAt, drop_take, takeD_take (by omega)]

lemma getD_drop (l : Bytes) (i j : ℕ) : (l.drop i).getD j 0 = l.getD (i + j) 0 := (getD_of_drop rfl j 0).symm

lemma be16At_drop (l : Bytes) (i j : ℕ) : be16At (l.drop i) j = be16At l (i + j) := by
  rw [be16At, be16At, getD_drop, getD_drop, Nat.add_assoc]

lemma be32At_drop (l : Bytes) (i j : ℕ) : be32At (l.drop i) j = be32At l (i + j) := by
  simp only [be32At, getD_drop, Nat.add_assoc]

lemma bufAt_drop (l : Bytes) (i j n : ℕ) : bufAt (l.drop i) j n = bufAt l (i + j) n := by
  apply List.Vector.eq
  rw [toList_bufAt, toList_bufAt, drop_drop]

lemma reads_decode16 : Reads decode16 l (.took 2 (be16At l 0)) := by
  have hread := (reads_decode (l := l) 2).map (be16At · 0)
  rwa [Outcome.map, be16At_take le_rfl] at hread

lemma reads_decode32 : Reads decode32 l (.took 4 (be32At l 0)) := by
  have hread := (reads_decode (l := l) 4).map (be32At · 0)
  rwa [Outcome.map, be32At_take le_rfl] at hread

lemma reads_decode64 : Reads decode64 l (.took 8 (word64 (be32At l 0) (be32At l 4))) := by
  have hread := (reads_decode (l := l) 8).map fun l => word64 (be32At l 0) (be32At l 4)
  rwa [Outcome.map, be32At_take (by omega), be32At_take le_rfl] at hread

end reads

/-! ### The outcomes of the routines -/

section outcomes

variable {α : Type} {l : Bytes}

lemma Reads.checked {c : Prop} [Decidable c] {m : Decode α} {a : α} {o : Outcome α} (hm : ¬ c → Reads m l o) :
    Reads (if c then (do setError; pure a) else m) l (if c then .refused else o) := by
  split_ifs with h
  · exact reads_setError a
  · exact hm h

variable (length : UInt16)

/-- What `decodeAddr` makes of the bytes of its value. -/
def addrOf (l : Bytes) : Outcome MSStunAddress :=
  if length ≠ 8 ∧ length ≠ 20 then .refused
  else if h : l.getD 1 0 = MS_STUN_ADDR_FAMILY_IPV6 then .took 20 (.v6 (be16At l 2) (bufAt l 4 16))
  else .took 8 (.ofV4 (l.getD 1 0) (be16At l 2) (be32At l 4) h)

/-- The end of an IPv6 address. -/
lemma reads_v6 : Reads (do let port ← decode16; let addr ← decodeBuf 16; pure (MSStunAddress.v6 port addr)) l
    (.took 18 (.v6 (be16At l 0) (bufAt l 2 16))) := by
  refine reads_decode16.bind (k := 16) ?_ fun _ => (grows_decodeBuf 16).bind fun _ => grows_pure _
  have hread := (reads_decodeBuf (l := l.drop 2) 16).map (MSStunAddress.v6 (be16At l 0))
  rwa [Outcome.map, bufAt_drop] at hread

lemma reads_v4 {family : UInt8} (h : family ≠ MS_STUN_ADDR_FAMILY_IPV6) :
    Reads (do let port ← decode16; let addr ← decode32; pure (MSStunAddress.ofV4 family port addr h)) l
      (.took 6 (.ofV4 family (be16At l 0) (be32At l 2) h)) := by
  refine reads_decode16.bind (k := 4) ?_ fun _ => grows_decode32.bind fun _ => grows_pure _
  have hread := (reads_decode32 (l := l.drop 2)).map (MSStunAddress.ofV4 family (be16At l 0) · h)
  rwa [Outcome.map, be32At_drop] at hread

lemma grows_addr (family : UInt8) : Grows (if h : family = MS_STUN_ADDR_FAMILY_IPV6 then
      do let port ← decode16; let addr ← decodeBuf 16; pure (MSStunAddress.v6 port addr)
    else do let port ← decode16; let addr ← decode32; pure (MSStunAddress.ofV4 family port addr h)) := by
  split_ifs with h
  · exact grows_decode16.bind fun _ => (grows_decodeBuf 16).bind fun _ => grows_pure _
  · exact grows_decode16.bind fun _ => grows_decode32.bind fun _ => grows_pure _

variable (length : UInt16)

lemma reads_decodeAddr : Reads (decodeAddr length) l (addrOf length l) := by
  refine .checked fun _ => ?_
  have hdrop : (l.drop 1).drop 1 = l.drop 2 := drop_drop
  have hfamily : (l.drop 1).getD 0 0 = l.getD 1 0 := getD_drop l 1 0
  have hgrows : ∀ b : UInt8, Grows (do let family ← decode8; _) := fun _ => grows_decode8.bind grows_addr
  split_ifs with h
  · have hv6 := reads_v6 (l := l.drop 2)
    rw [be16At_drop, bufAt_drop] at hv6
    refine reads_decode8.bind (k := 19) (reads_decode8.bind (k := 18) ?_ grows_addr) hgrows
    rwa [hfamily, dif_pos h, hdrop]
  · have hv4 := reads_v4 h (l := l.drop 2)
    rw [be16At_drop, be32At_drop] at hv4
    refine reads_decode8.bind (k := 7) (reads_decode8.bind (k := 6) ?_ grows_addr) hgrows
    rw [hdrop]
    simpa only [hfamily, dif_neg h] using hv4

def wordOf (l : Bytes) : Outcome UInt32 :=
  if length ≠ 4 then .refused else .took 4 (be32At l 0)

lemma reads_decodeWord : Reads (decodeWord length) l (wordOf length l) :=
  .checked fun _ => reads_decode32

def iceControlOf (l : Bytes) : Outcome UInt64 :=
  if length ≠ 8 then .refused else .took 8 (word64 (be32At l 0) (be32At l 4))

lemma reads_decodeIceControl : Reads (decodeIceControl length) l (iceControlOf length l) :=
  .checked fun _ => reads_decode64

def stringOf (max_length : ℕ) (l : Bytes) : Outcome (Option CString) :=
  if max_length < length.toNat then .refused else .took length.toNat (some (.ofBytes (l.take length.toNat)))

lemma reads_decodeString (max_length : ℕ) :
    Reads (decodeString length max_length) l (stringOf length max_length l) :=
  .checked fun _ => (reads_decode length.toNat).bind_pure

/-- The reason of an error code, without the four bytes before it. -/
def reasonOf (l : Bytes) : Option CString :=
  if 0 < length.toNat - 4 then some (.ofBytes ((l.drop 4).take (length.toNat - 4))) else none

def errorCodeOf (l : Bytes) : Outcome MSStunErrorCode :=
  if length.toNat < 4 ∨ STUN_MAX_REASON_LENGTH + 4 < length.toNat then .refused
  else .took length.toNat
    ⟨reasonOf length l, .ofNat ((l.getD 2 0).toNat * 100 + (l.getD 3 0).toNat)⟩

lemma grows_reason (n : ℕ) (number : UInt16) : Grows
    (if 0 < n then do let reason ← decode n; pure (MSStunErrorCode.mk (some (.ofBytes reason)) number)
    else pure (MSStunErrorCode.mk none number)) :=
  .ite (fun _ => (grows_decode n).bind fun _ => grows_pure _) fun _ => grows_pure _

lemma reads_reason (number : UInt16) : Reads (if 0 < length.toNat - 4 then
      do let reason ← decode (length.toNat - 4); pure (MSStunErrorCode.mk (some (.ofBytes reason)) number)
    else pure (MSStunErrorCode.mk none number)) (l.drop 4) (.took (length.toNat - 4) ⟨reasonOf length l, number⟩) := by
  rw [reasonOf]
  split_ifs with h
  · exact (reads_decode (length.toNat - 4)).bind_pure
  · rw [Nat.eq_zero_of_not_pos h]
    exact reads_pure _

lemma reads_decodeErrorCode : Reads (decodeErrorCode length) l (errorCodeOf length l) := by
  refine .checked fun h => ?_
  rw [not_or, not_lt, not_lt] at h
  have hread := reads_reason (l := l) length (.ofNat ((l.getD 2 0).toNat * 100 + (l.getD 3 0).toNat))
  have hlength : length.toNat = 2 + (1 + (1 + (length.toNat - 4))) := by omega
  have hgrows (clazz : UInt8) : Grows (do let code ← decode8; _) := grows_decode8.bind fun code =>
    grows_reason (length.toNat - 4) (.ofNat (clazz.toNat * 100 + code.toNat))
  conv => arg 3; arg 1; rw [hlength]
  refine reads_decode16.bind (reads_decode8.bind (reads_decode8.bind ?_ ?_) hgrows) fun _ => grows_decode8.bind hgrows
  · simpa only [drop_drop, getD_drop] using hread
  · exact fun _ => grows_reason _ _

def messageIntegrityOf (l : Bytes) : Outcome (Buf 20) :=
  if length ≠ 20 then .nullPointer else .took 20 (bufAt l 0 20)

lemma reads_messageIntegrity (f : Buf 20 → α) :
    Reads (do match ← decodeMessageIntegrity length with
              | some hmac => pure (f hmac)
              | none => throw .nullPointer) l ((messageIntegrityOf length l).map f) := by
  rw [decodeMessageIntegrity, messageIntegrityOf]
  split_ifs with h
  · intro d hd
    exact ⟨_, rfl⟩
  · have hread := ((reads_decodeBuf (l := l) 20).map some).bind (k := 0)
      (f := fun o => match o with
        | some hmac => pure (f hmac)
        | none => throw .nullPointer) (reads_pure (f (bufAt l 0 20))) ?_
    · exact hread
    · intro o
      cases o with
      | none => exact grows_throw _
      | some hmac => exact grows_pure _

variable (msg : MSStunMessage) (type length : UInt16)

/-- What `decodeAttribute` does with the bytes after the header of the attribute. -/
def attributeOf (l : Bytes) : Outcome MSStunMessage :=
  match AttributeType.ofCode type with
  | some .mappedAddress => (addrOf length l).map fun addr => { msg with mapped_address := some addr }
  | some .changeRequest => (wordOf length l).map fun word => { msg with change_request := word }
  | some .responseAddress | some .sourceAddress | some .changedAddress => (addrOf length l).map fun _ => msg
  | some .username => (stringOf length STUN_MAX_USERNAME_LENGTH l).map fun username => { msg with username }
  | some .password => (stringOf length STUN_MAX_USERNAME_LENGTH l).map fun _ => msg
  | some .messageIntegrity => (messageIntegrityOf length l).map msg.setMessageIntegrity
  | some .errorCode => (errorCodeOf length l).map fun error_code => { msg with error_code := some error_code }
  | some .xorMappedAddress =>
    (addrOf length l).map fun addr => { msg with xor_mapped_address := some (addr.xor msg.tr_id) }
  | some .software => (stringOf length STUN_MAX_SOFTWARE_LENGTH l).map fun software => { msg with software }
  | some .fingerprint =>
    (wordOf length l).map fun fingerprint => { msg with fingerprint, has_fingerprint := true }
  | some .priority => (wordOf length l).map fun priority => { msg with priority := some priority }
  | some .useCandidate => .took 0 { msg with has_use_candidate := true }
  | some .iceControlled => (iceControlOf length l).map fun value => { msg with ice_controlled := some value }
  | some .iceControlling => (iceControlOf length l).map fun value => { msg with ice_controlling := some value }
  | some .xorPeerAddress =>
    (addrOf length l).map fun addr => { msg with xor_peer_address := some (addr.xor msg.tr_id) }
  | some .xorRelayedAddress =>
    (addrOf length l).map fun addr => { msg with xor_relayed_address := some (addr.xor msg.tr_id) }
  | some .lifetime => (wordOf length l).map fun lifetime => { msg with lifetime := some lifetime }
  | some .data => .took length.toNat { msg with data := .ofBytes (l.take length.toNat) }
  | some .realm => (stringOf length STUN_MAX_REALM_LENGTH l).map fun realm => { msg with realm }
  | some .nonce => (stringOf length STUN_MAX_NONCE_LENGTH l).map fun nonce => { msg with nonce }
  | some .channelNumber | some .requestedAddressFamily | some .requestedTransport | none =>
    if type ≤ 0x7FFF then .refused else .took length.toNat msg

lemma reads_decodeXorAddr (tr_id : Buf 12) (f : MSStunAddress → α) :
    Reads (f <$> decodeXorAddr length tr_id) l ((addrOf length l).map fun addr => f (addr.xor tr_id)) := by
  have hread := ((reads_decodeAddr (l := l) length).map (·.xor tr_id)).map f
  have hmap : ((addrOf length l).map (·.xor tr_id)).map f = (addrOf length l).map fun addr => f (addr.xor tr_id) := by
    cases addrOf length l <;> rfl
  rwa [hmap] at hread

lemma reads_decodeAttribute : Reads (decodeAttribute msg type length) l (attributeOf msg type length l) := by
  rw [decodeAttribute, attributeOf]
  have hunknown : Reads (if type ≤ 0x7FFF then throw .refused else (fun _ => msg) <$> decode length.toNat) l
      (if type ≤ 0x7FFF then .refused else .took length.toNat msg) := by
    split_ifs with h
    · exact fun d hd => .inr ⟨d, rfl, hd.inBounds⟩
    · exact (reads_decode _).map _
  rcases AttributeType.ofCode type with _ | a
  · exact hunknown
  cases a with
  | mappedAddress | responseAddress | sourceAddress | changedAddress => exact (reads_decodeAddr length).map _
  | changeRequest | fingerprint | priority | lifetime => exact (reads_decodeWord length).map _
  | username | password | software | realm | nonce => exact (reads_decodeString length _).map _
  | messageIntegrity => exact reads_messageIntegrity length _
  | errorCode => exact (reads_decodeErrorCode length).map _
  | xorMappedAddress | xorPeerAddress | xorRelayedAddress => exact reads_decodeXorAddr length _ _
  | useCandidate => exact reads_pure _
  | iceControlled | iceControlling => exact (reads_decodeIceControl length).map _
  | data => exact ((reads_decode _).map _).map _
  | channelNumber | requestedAddressFamily | requestedTransport => exact hunknown

lemma grows_decodeAttribute : Grows (decodeAttribute msg type length) := by
  rw [decodeAttribute]
  have hunknown : Grows (if type ≤ 0x7FFF then throw .refused else (fun _ => msg) <$> decode length.toNat) :=
    .ite (fun _ => grows_throw _) fun _ => (grows_decode _).map _
  rcases AttributeType.ofCode type with _ | a
  · exact hunknown
  cases a with
  | mappedAddress | responseAddress | sourceAddress | changedAddress => exact (grows_decodeAddr length).map _
  | changeRequest | fingerprint | priority | lifetime => exact (grows_decodeWord length).map _
  | username | password | software | realm | nonce => exact (grows_decodeString length _).map _
  | messageIntegrity =>
    refine (grows_decodeMessageIntegrity length).bind fun o => ?_
    cases o with
    | none => exact grows_throw _
    | some hmac => exact grows_pure _
  | errorCode => exact (grows_decodeErrorCode length).map _
  | xorMappedAddress | xorPeerAddress | xorRelayedAddress => exact ((grows_decodeAddr length).map _).map _
  | useCandidate => exact grows_pure _
  | iceControlled | iceControlling => exact (grows_decodeIceControl length).map _
  | data => exact ((grows_decode _).map _).map _
  | channelNumber | requestedAddressFamily | requestedTransport => exact hunknown

end outcomes

/-! ### The body of the loop -/

/-- The number of bytes of padding, from 0 to 3. -/
def padding (length : UInt16) : ℕ := (4 - length.toNat % 4) % 4

section step

variable {l : Bytes} {d : StunMessageDecoder} {msg : MSStunMessage}

lemma checkError_of_at (hd : At d l) : checkError d = .ok () d := by
  change (if d.error then throw DecodeError.refused else pure () : Decode Unit) d = _
  rw [hd.error]
  rfl

lemma reads_checkError : Reads checkError l (.took 0 ()) := fun d hd => ⟨d, checkError_of_at hd, hd⟩

lemma reads_forM_decode8 (indices : List ℕ) :
    Reads (indices.forM fun _ => do let _ ← decode8) l (.took indices.length ()) := by
  induction indices generalizing l with
  | nil => exact reads_pure ()
  | cons _ indices ih =>
    rw [length_cons, Nat.add_comm]
    refine (reads_decode8.map fun _ => ()).bind ih fun _ => ?_
    exact Grows.forM (fun _ => grows_decode8.bind fun _ => grows_pure _) indices

lemma reads_decodePadding (length : UInt16) : Reads (decodePadding length) l (.took (padding length) ()) := by
  rw [decodePadding, padding]
  by_cases h : paddingLength length.toNat < 4
  · rw [if_pos h, ← paddingLength, mod_eq_of_lt h]
    have hread := (reads_forM_decode8 (l := l) (range (paddingLength length.toNat))).bind
      reads_checkError fun _ => grows_checkError
    rwa [length_range, Nat.add_zero] at hread
  · have hpadding : 4 - length.toNat % 4 = 4 := by
      rw [paddingLength] at h
      omega
    rw [if_neg h, hpadding]
    exact reads_pure ()

lemma checkError_of_error (h : d.error = true) : checkError d = .error .refused d := by
  change (if d.error then throw DecodeError.refused else pure () : Decode Unit) d = _
  rw [h]
  rfl

/-- The decoder stops, with an error, and does not read out of its bounds. -/
def Stops {α : Type} (m : Decode α) (l : Bytes) : Prop :=
  ∀ d, At d l → ∃ d', m d = .error .refused d' ∧ d'.cursor.InBounds

lemma Reads.stops {α β : Type} {m : Decode α} {f : α → Decode β} (hm : Reads m l .refused) :
    Stops (do let a ← m; checkError; f a) l := by
  intro d hd
  rcases hm d hd with ⟨a, d', heq, herror, hin⟩ | ⟨d', heq, hin⟩
  · exact ⟨d', (bind_of_ok heq).trans (bind_of_error (checkError_of_error herror)), hin⟩
  · exact ⟨d', bind_of_error heq, hin⟩

/-- What `parseValue` does with the bytes after the header. -/
def valueOf (msg : MSStunMessage) (type length : UInt16) (l : Bytes) : Outcome MSStunMessage :=
  if l.length < length.toNat then .refused
  else match attributeOf msg type length l with
    | .took n msg => .took (n + padding length) msg
    | .refused => .refused
    | .nullPointer => .nullPointer

variable {type length : UInt16}

lemma parseValue_of_le (hd : At d l) (h : length.toNat ≤ l.length) :
    parseValue msg type length d =
      (do let msg ← decodeAttribute msg type length; checkError; decodePadding length; pure msg : Decode _) d := by
  have hremaining : ¬ d.remaining < length.toNat := by
    rw [hd.remaining_eq]
    omega
  have hget : (get : Decode StunMessageDecoder) d = .ok d d := rfl
  rw [parseValue, bind_of_ok hget, if_neg hremaining]
  exact bind_of_ok (checkError_of_at hd)

lemma parseValue_of_lt (h : l.length < length.toNat) : Stops (parseValue msg type length) l := by
  intro d hd
  have hremaining : d.remaining < length.toNat := by
    rw [hd.remaining_eq]
    omega
  have hget : (get : Decode StunMessageDecoder) d = .ok d d := rfl
  have hset : setError d = .ok () { d with error := true } := rfl
  refine ⟨{ d with error := true }, ?_, hd.inBounds⟩
  rw [parseValue, bind_of_ok hget, if_pos hremaining, bind_of_ok hset]
  exact bind_of_error (checkError_of_error rfl)

lemma grows_parseValue (msg : MSStunMessage) (type length : UInt16) : Grows (parseValue msg type length) := by
  have hrest : Grows (do
      checkError
      let msg ← decodeAttribute msg type length
      checkError
      decodePadding length
      pure msg) :=
    grows_checkError.bind fun _ => (grows_decodeAttribute msg type length).bind fun _ => grows_checkError.bind fun _ =>
      (grows_decodePadding length).bind fun _ => grows_pure _
  refine grows_get.bind fun d => ?_
  split_ifs with h
  · exact grows_setError.bind fun _ => hrest
  · exact hrest

/-- What the rest of the loop body does after an attribute that is taken. -/
lemma reads_rest {n : ℕ} {msg' : MSStunMessage} (h : attributeOf msg type length l = .took n msg') :
    Reads (do let msg ← decodeAttribute msg type length; checkError; decodePadding length; pure msg) l
      (.took (n + padding length) msg') := by
  have hread := reads_decodeAttribute (l := l) msg type length
  rw [h] at hread
  refine hread.bind (k := padding length) ?_ fun _ => grows_checkError.bind fun _ =>
    (grows_decodePadding length).bind fun _ => grows_pure _
  have hpadding : Reads (do decodePadding length; pure msg') (l.drop n) (.took (padding length) msg') :=
    (reads_decodePadding length).map fun _ => msg'
  have hcheck := reads_checkError.bind (l := l.drop n) (f := fun _ => do decodePadding length; pure msg') hpadding
    fun _ => (grows_decodePadding length).bind fun _ => grows_pure _
  rwa [Nat.zero_add] at hcheck

lemma reads_decodeAttributeHeader : Reads decodeAttributeHeader l (.took 4 (be16At l 0, be16At l 2)) := by
  have hlength := (reads_decode16 (l := l.drop 2)).map fun length => (be16At l 0, length)
  rw [Outcome.map, be16At_drop] at hlength
  exact reads_decode16.bind hlength fun _ => grows_decode16.bind fun _ => grows_pure _

/-- A refusal by these routines ends the decoder, it is not left to a check. -/
structure Runs {α : Type} (m : Decode α) (l : Bytes) (o : Outcome α) : Prop where
  reads : Reads m l o
  stops : o = .refused → Stops m l

lemma Stops.runs {α : Type} {m : Decode α} (h : Stops m l) : Runs m l .refused :=
  ⟨fun d hd => .inr (h d hd), fun _ => h⟩

lemma runs_parseValue (msg : MSStunMessage) (type length : UInt16) :
    Runs (parseValue msg type length) l (valueOf msg type length l) := by
  rw [valueOf]
  split_ifs with h
  · exact (parseValue_of_lt h).runs
  rw [not_lt] at h
  have hread := reads_decodeAttribute (l := l) msg type length
  cases hattribute : attributeOf msg type length l with
  | took n msg' =>
    refine ⟨fun d hd => ?_, by rintro ⟨⟩⟩
    have hrest := reads_rest hattribute d hd
    rwa [final, ← parseValue_of_le hd h, ← final] at hrest
  | refused =>
    rw [hattribute] at hread
    refine Stops.runs fun d hd => ?_
    rw [parseValue_of_le hd h]
    exact hread.stops d hd
  | nullPointer =>
    rw [hattribute] at hread
    refine ⟨fun d hd => ?_, by rintro ⟨⟩⟩
    obtain ⟨d', heq⟩ := hread d hd
    rw [parseValue_of_le hd h]
    exact ⟨d', bind_of_error heq⟩

/-- What `parseAttribute` does with at least four bytes. -/
def attributeStep (msg : MSStunMessage) (l : Bytes) : Outcome MSStunMessage :=
  (valueOf msg (be16At l 0) (be16At l 2) (l.drop 4)).after 4

lemma runs_parseAttribute (msg : MSStunMessage) (h : 4 ≤ l.length) :
    Runs (parseAttribute msg) l (attributeStep msg l) := by
  have hvalue := runs_parseValue (l := l.drop 4) msg (be16At l 0) (be16At l 2)
  refine ⟨reads_decodeAttributeHeader.bind_of_le h hvalue.reads, fun hstep d hd => ?_⟩
  have hrefused : valueOf msg (be16At l 0) (be16At l 2) (l.drop 4) = .refused := by
    rw [attributeStep] at hstep
    cases hvalueOf : valueOf msg (be16At l 0) (be16At l 2) (l.drop 4) with
    | refused => rfl
    | took n msg' => rw [hvalueOf] at hstep; cases hstep
    | nullPointer => rw [hvalueOf] at hstep; cases hstep
  have hheader := reads_decodeAttributeHeader d hd
  simp only [if_pos h] at hheader
  obtain ⟨d', heq, hd'⟩ := hheader
  rw [parseAttribute, bind_of_ok heq]
  exact hvalue.stops hrefused d' hd'

lemma grows_parseAttribute (msg : MSStunMessage) : Grows (parseAttribute msg) :=
  (grows_decode16.bind fun _ => grows_decode16.bind fun _ => grows_pure _).bind fun _ => grows_parseValue _ _ _

/-- Less than four bytes are not the header of an attribute. -/
lemma not_inBounds_parseAttribute (h : l.length < 4) (hd : At d l) :
    ¬ (final (parseAttribute msg) d).cursor.InBounds :=
  reads_decodeAttributeHeader.not_inBounds h (fun _ => grows_parseValue _ _ _) hd

lemma grows_parseAttributes (fuel : ℕ) (msg : MSStunMessage) : Grows (parseAttributes fuel msg) := by
  induction fuel generalizing msg with
  | zero => exact grows_throw _
  | succ fuel ih =>
    exact grows_get.bind fun d => .ite (fun _ => (grows_parseAttribute msg).bind ih) fun _ => grows_pure _

end step

/-! ### Complete attributes -/

structure Attribute where
  type : UInt16
  value : Bytes
  pad : Bytes
  length_value : value.length < 2 ^ 16
  length_pad : pad.length = padding (.ofNat value.length)

namespace Attribute

def length (a : Attribute) : UInt16 := .ofNat a.value.length

lemma toNat_length (a : Attribute) : a.length.toNat = a.value.length := by
  rw [length, UInt16.toNat_ofNat']
  exact mod_eq_of_lt a.length_value

def bytes (a : Attribute) : Bytes := be16 a.type ++ (be16 a.length ++ (a.value ++ a.pad))

lemma length_bytes (a : Attribute) : a.bytes.length = 4 + (a.value.length + padding a.length) := by
  rw [bytes, length_append, length_append, length_append, length_be16, length_be16, a.length_pad, length]
  omega

def read (msg : MSStunMessage) (a : Attribute) : Outcome MSStunMessage := attributeOf msg a.type a.length a.value

variable (a : Attribute) (rest : Bytes)

lemma be16At_type : be16At (a.bytes ++ rest) 0 = a.type := by
  apply be16At_of_drop a.type
  rw [bytes, append_assoc]
  rfl

lemma be16At_length : be16At (a.bytes ++ rest) 2 = a.length := by
  apply be16At_of_drop a.length
  rw [bytes, append_assoc, append_assoc]
  rfl

lemma drop_four : (a.bytes ++ rest).drop 4 = a.value ++ (a.pad ++ rest) := by
  rw [bytes, append_assoc, append_assoc, append_assoc]
  rfl

end Attribute

section locality

variable {α β : Type}

lemma Outcome.map_eq_took {f : α → β} {o : Outcome α} {n : ℕ} {b : β} (h : o.map f = .took n b) :
    ∃ a, o = .took n a ∧ f a = b := by
  cases o with
  | took k a =>
    simp only [Outcome.map, Outcome.took.injEq] at h
    exact ⟨a, by rw [h.1], h.2⟩
  | refused => cases h
  | nullPointer => cases h

/-- An outcome that only depends on the bytes that are taken. -/
def Local (o : Bytes → Outcome α) : Prop :=
  ∀ ⦃l n a k⦄, o l = .took n a → n ≤ k → o (l.take k) = .took n a

lemma Local.map {o : Bytes → Outcome α} (ho : Local o) (f : α → β) : Local fun l => (o l).map f := by
  intro l n b k h hk
  obtain ⟨a, ha, rfl⟩ := Outcome.map_eq_took h
  simp only [ho ha hk]
  rfl

/-- A routine that checks the length first. -/
lemma Local.checked {c : Prop} [Decidable c] {o : Bytes → Outcome α} (ho : Local o) :
    Local fun l => if c then .refused else o l := by
  intro l n a k h hk
  simp only at h ⊢
  split_ifs at h ⊢ with hc
  exact ho h hk

/-- A routine that takes a fixed number of bytes. -/
lemma local_took {n : ℕ} {f : Bytes → α} (h : ∀ k, n ≤ k → ∀ l, f (l.take k) = f l) :
    Local fun l => .took n (f l) := by
  intro l m a k heq hk
  simp only [Outcome.took.injEq] at heq ⊢
  exact ⟨heq.1, by rw [h k (heq.1.trans_le hk), heq.2]⟩

variable (length : UInt16)

lemma local_addrOf : Local (addrOf length) := by
  refine Local.checked fun l n addr k h hk => ?_
  have hget (h8 : 8 ≤ k) : (l.take k).getD 1 0 = l.getD 1 0 := getD_take_of_lt (by omega) l
  split_ifs at h with hfamily
  · simp only [Outcome.took.injEq] at h
    rw [dif_pos ((hget (by omega)).trans hfamily), be16At_take (by omega), bufAt_take (by omega), h.1, h.2]
  · have hn : 8 ≤ k := (Outcome.took.inj h).1.trans_le hk
    rw [dif_neg (by rwa [hget hn]), be16At_take (by omega), be32At_take (by omega), ← h]
    simp only [hget hn]

lemma local_wordOf : Local (wordOf length) :=
  .checked (local_took fun _ hk _ => be32At_take hk _)

lemma local_iceControlOf : Local (iceControlOf length) :=
  .checked (local_took fun _ hk _ => by rw [be32At_take (by omega), be32At_take hk])

lemma take_take_of_le {n k : ℕ} (h : n ≤ k) (l : Bytes) : (l.take k).take n = l.take n := by
  rw [take_take, Nat.min_eq_left h]

lemma local_stringOf (max_length : ℕ) : Local (stringOf length max_length) :=
  .checked (local_took fun _ hk _ => by rw [take_take_of_le hk])

lemma local_errorCodeOf : Local (errorCodeOf length) := by
  intro l n error_code k h hk
  rw [errorCodeOf] at h ⊢
  split_ifs at h ⊢ with hlength
  rw [not_or, not_lt, not_lt] at hlength
  simp only [Outcome.took.injEq] at h
  have hreason : reasonOf length (l.take k) = reasonOf length l := by
    rw [reasonOf, reasonOf, drop_take, take_take_of_le (by omega)]
  rw [getD_take_of_lt (by omega), getD_take_of_lt (by omega), hreason, h.1, h.2]

lemma local_messageIntegrityOf : Local (messageIntegrityOf length) := by
  intro l n hmac k h hk
  rw [messageIntegrityOf] at h ⊢
  split_ifs at h ⊢ with hlength
  have hn : 20 = n := (Outcome.took.inj h).1
  rwa [bufAt_take (by omega)]

lemma local_attributeOf (msg : MSStunMessage) (type length : UInt16) : Local (attributeOf msg type length) := by
  have hunknown : Local fun _ => if type ≤ 0x7FFF then .refused else .took length.toNat msg :=
    .checked (local_took fun _ _ _ => rfl)
  intro l n msg' k h hk
  rw [attributeOf] at h ⊢
  generalize AttributeType.ofCode type = known at h ⊢
  rcases known with _ | a
  · exact hunknown (l := l) h hk
  cases a with
  | mappedAddress | responseAddress | sourceAddress | changedAddress | xorMappedAddress | xorPeerAddress
  | xorRelayedAddress => exact (local_addrOf length).map _ h hk
  | changeRequest | fingerprint | priority | lifetime => exact (local_wordOf length).map _ h hk
  | username | password | software | realm | nonce => exact (local_stringOf length _).map _ h hk
  | messageIntegrity => exact (local_messageIntegrityOf length).map _ h hk
  | errorCode => exact (local_errorCodeOf length).map _ h hk
  | useCandidate => exact h
  | iceControlled | iceControlling => exact (local_iceControlOf length).map _ h hk
  | data =>
    have hdata : Local fun l => .took length.toNat { msg with data := .ofBytes (l.take length.toNat) } :=
      local_took fun _ hk l => by rw [take_take_of_le hk]
    exact hdata h hk
  | channelNumber | requestedAddressFamily | requestedTransport => exact hunknown (l := l) h hk

end locality

end Stun
