import LinphoneSdk.Lib.Bytes
import LinphoneSdk.Lib.Chunks
import LinphoneSdk.Lib.Exec

/-!
# Reading a block of memory

A cursor reads a block of memory from a position on and remembers how far it read. Nothing stops it
at the end of the block: the bytes after it are those of an arbitrary function. Its reads are in
bounds when it reached no byte after the end.
-/

namespace Reading

open Bytes Chunks Exec List

variable {ε : Type}

/-! ### Blocks -/

/-- A block of memory and what lies after it. -/
structure Block where
  bytes : Bytes
  outside : ℕ → UInt8

namespace Block

def read (b : Block) (offset length : ℕ) : Bytes :=
  (range length).map fun i => b.bytes.getD (offset + i) (b.outside (offset + i))

variable (b : Block)

@[simp] lemma length_read (offset length : ℕ) : (b.read offset length).length = length := by
  simp [read]

lemma read_eq_segment {b : Block} {offset length : ℕ} (h : offset + length ≤ b.bytes.length) :
    b.read offset length = segment b.bytes offset length := by
  apply ext_getElem
  · simp [Chunks.segment]
    omega
  · intro i hi _
    rw [length_read] at hi
    have hlt : offset + i < b.bytes.length := by omega
    simp [read, Chunks.segment, getD_eq_getElem?_getD, getElem?_eq_getElem hlt]

/-- What lies in the block after a read inside it. -/
lemma drop_eq_read_append {b : Block} {offset length : ℕ} (h : offset + length ≤ b.bytes.length) :
    b.bytes.drop offset = b.read offset length ++ b.bytes.drop (offset + length) := by
  rw [read_eq_segment h, Chunks.segment, ← drop_drop, take_append_drop]

def byte (b : Block) (i : ℕ) : UInt8 := b.bytes.getD i (b.outside i)

lemma byte_eq_getElem {b : Block} {i : ℕ} (h : i < b.bytes.length) : b.byte i = b.bytes[i] := by
  rw [byte, getD_eq_getElem?_getD, getElem?_eq_getElem h, Option.getD_some]

lemma drop_eq_byte_cons {b : Block} {i : ℕ} (h : i < b.bytes.length) :
    b.bytes.drop i = b.byte i :: b.bytes.drop (i + 1) := by
  rw [byte_eq_getElem h, drop_eq_getElem_cons h]

/-- A fixed number of bytes. -/
def readBuf (b : Block) (offset n : ℕ) : Buf n := ⟨b.read offset n, b.length_read offset n⟩

/-- Two bytes, as a number. -/
def readWord16 (b : Block) (offset : ℕ) : UInt16 :=
  word16 ((b.read offset 2).getD 0 0) ((b.read offset 2).getD 1 0)

/-- Four bytes, as a number. -/
def readWord32 (b : Block) (offset : ℕ) : UInt32 :=
  word32 ((b.read offset 4).getD 0 0) ((b.read offset 4).getD 1 0) ((b.read offset 4).getD 2 0)
    ((b.read offset 4).getD 3 0)

@[simp] lemma toList_readBuf (offset n : ℕ) : (b.readBuf offset n).toList = b.read offset n := rfl

lemma be16_readWord16 (offset : ℕ) : be16 (b.readWord16 offset) = b.read offset 2 := by
  rw [readWord16, be16_word16]
  rfl

lemma be32_readWord32 (offset : ℕ) : be32 (b.readWord32 offset) = b.read offset 4 := by
  rw [readWord32, be32_word32]
  rfl

/-- Several reads of four bytes. -/
def readWords (b : Block) (offset : ℕ) : ℕ → List Bytes
  | 0 => []
  | n + 1 => b.read offset 4 :: b.readWords (offset + 4) n

end Block

/-! ### Cursors -/

/-- The end of the last byte read is `reach`. -/
structure Cursor where
  block : Block
  position : ℕ
  reach : ℕ

namespace Cursor

/-- A cursor that read nothing yet. -/
def start (block : Block) (position : ℕ) : Cursor := ⟨block, position, 0⟩

def touch (c : Cursor) (offset length : ℕ) : Cursor :=
  { c with reach := if length = 0 then c.reach else max c.reach (offset + length) }

/-- Read at the position, and move after what was read. -/
def advance (c : Cursor) (length : ℕ) : Cursor :=
  { c.touch c.position length with position := c.position + length }

/-- Move without reading. -/
def skip (c : Cursor) (length : ℕ) : Cursor := { c with position := c.position + length }

/-- No byte was read outside the block. -/
def InBounds (c : Cursor) : Prop := c.reach ≤ c.block.bytes.length

instance (c : Cursor) : Decidable c.InBounds := inferInstanceAs (Decidable (_ ≤ _))

variable {c : Cursor}

variable (block : Block)

@[simp] lemma block_start (position : ℕ) : (start block position).block = block := rfl

@[simp] lemma position_start (position : ℕ) : (start block position).position = position := rfl

@[simp] lemma block_touch (offset length : ℕ) : (c.touch offset length).block = c.block := rfl

@[simp] lemma position_touch (offset length : ℕ) : (c.touch offset length).position = c.position := rfl

variable (length : ℕ)

@[simp] lemma block_advance : (c.advance length).block = c.block := rfl

@[simp] lemma position_advance : (c.advance length).position = c.position + length := rfl

@[simp] lemma block_skip : (c.skip length).block = c.block := rfl

@[simp] lemma position_skip : (c.skip length).position = c.position + length := rfl

@[simp] lemma inBounds_skip : (c.skip length).InBounds ↔ c.InBounds := Iff.rfl

@[simp] lemma inBounds_start (position : ℕ) : (start block position).InBounds :=
  Nat.zero_le _

lemma inBounds_touch (offset length : ℕ) : (c.touch offset length).InBounds ↔
      c.InBounds ∧ (length = 0 ∨ offset + length ≤ c.block.bytes.length) := by
  by_cases h : length = 0 <;> simp [InBounds, touch, h]

lemma inBounds_advance : (c.advance length).InBounds ↔
      c.InBounds ∧ (length = 0 ∨ c.position + length ≤ c.block.bytes.length) :=
  inBounds_touch c.position length

/-- Two reads in a row are one. -/
lemma advance_advance (m n : ℕ) : (c.advance m).advance n = c.advance (m + n) := by
  by_cases hm : m = 0 <;> by_cases hn : n = 0 <;>
    simp [advance, touch, hm, hn, Nat.add_assoc]

end Cursor

/-! ### Bytes read one after the other -/

/-- Between the two cursors, these bytes of the block were read. -/
structure Consumed (c c' : Cursor) (bytes : Bytes) : Prop where
  inBounds : c'.InBounds
  block : c'.block = c.block
  position : c'.position = c.position + bytes.length
  drop : c.block.bytes.drop c.position = bytes ++ c.block.bytes.drop c'.position

namespace Consumed

variable {c c' c'' : Cursor} {xs ys : Bytes}

lemma refl (hc : c.InBounds) : Consumed c c [] := ⟨hc, rfl, rfl, rfl⟩

lemma trans (h : Consumed c c' xs) (h' : Consumed c' c'' ys) : Consumed c c'' (xs ++ ys) where
  inBounds := h'.inBounds
  block := h'.block.trans h.block
  position := by rw [h'.position, h.position, length_append, Nat.add_assoc]
  drop := by rw [h.drop, append_assoc, ← h.block, h'.drop]

lemma advance (length : ℕ) (hc : c.InBounds) (h : c.position + length ≤ c.block.bytes.length) :
    Consumed c (c.advance length) (c.block.read c.position length) where
  inBounds := (Cursor.inBounds_advance length).2 ⟨hc, Or.inr h⟩
  block := rfl
  position := by rw [Cursor.position_advance, Block.length_read]
  drop := Block.drop_eq_read_append h

end Consumed

/-! ### Routines -/

def peek (offset length : ℕ) : EStateM ε Cursor Bytes := do
  let c ← get
  set (c.touch offset length)
  pure (c.block.read offset length)

/-- Read one byte at an offset, the position stays. -/
def peekByte (i : ℕ) : EStateM ε Cursor UInt8 := do
  let c ← get
  set (c.touch i 1)
  pure (c.block.byte i)

def next (length : ℕ) : EStateM ε Cursor Bytes := do
  let c ← get
  set (c.advance length)
  pure (c.block.read c.position length)

def nextBuf (n : ℕ) : EStateM ε Cursor (Buf n) := do
  let c ← get
  set (c.advance n)
  pure (c.block.readBuf c.position n)

/-- Move without reading. -/
def skip (length : ℕ) : EStateM ε Cursor Unit := modify (·.skip length)

def nextByte : EStateM ε Cursor UInt8 := (·.headD 0) <$> next 1

def nextWord16 : EStateM ε Cursor UInt16 := do
  let c ← get
  set (c.advance 2)
  pure (c.block.readWord16 c.position)

def nextWord32 : EStateM ε Cursor UInt32 := do
  let c ← get
  set (c.advance 4)
  pure (c.block.readWord32 c.position)

/-- Read words of four bytes. -/
def nextWords : ℕ → EStateM ε Cursor (List Bytes)
  | 0 => pure []
  | n + 1 => do
    let word ← next 4
    let words ← nextWords n
    pure (word :: words)

section wp

variable {E : ε → Cursor → Prop} {c : Cursor}

@[simp] lemma wp_peek (offset length : ℕ) {Q : Bytes → Cursor → Prop} :
    wp (peek offset length) Q E c ↔ Q (c.block.read offset length) (c.touch offset length) := Iff.rfl

@[simp] lemma wp_peekByte (i : ℕ) {Q : UInt8 → Cursor → Prop} :
    wp (peekByte i) Q E c ↔ Q (c.block.byte i) (c.touch i 1) := Iff.rfl

@[simp] lemma wp_next (length : ℕ) {Q : Bytes → Cursor → Prop} :
    wp (next length) Q E c ↔ Q (c.block.read c.position length) (c.advance length) := Iff.rfl

@[simp] lemma wp_nextBuf (n : ℕ) {Q : Buf n → Cursor → Prop} :
    wp (nextBuf n) Q E c ↔ Q (c.block.readBuf c.position n) (c.advance n) := Iff.rfl

@[simp] lemma wp_skip (length : ℕ) {Q : Unit → Cursor → Prop} :
    wp (skip length) Q E c ↔ Q () (c.skip length) := Iff.rfl

@[simp] lemma wp_nextByte {Q : UInt8 → Cursor → Prop} :
    wp nextByte Q E c ↔ Q ((c.block.read c.position 1).headD 0) (c.advance 1) := Iff.rfl

@[simp] lemma wp_nextWord16 {Q : UInt16 → Cursor → Prop} :
    wp nextWord16 Q E c ↔ Q (c.block.readWord16 c.position) (c.advance 2) := Iff.rfl

@[simp] lemma wp_nextWord32 {Q : UInt32 → Cursor → Prop} :
    wp nextWord32 Q E c ↔ Q (c.block.readWord32 c.position) (c.advance 4) := Iff.rfl

@[simp] lemma wp_nextWords (n : ℕ) {Q : List Bytes → Cursor → Prop} :
    wp (nextWords n) Q E c ↔ Q (c.block.readWords c.position n) (c.advance (4 * n)) := by
  induction n generalizing c Q with
  | zero => rfl
  | succ n ih =>
    simp only [nextWords, wp_bind, wp_next, ih, wp_pure, Block.readWords, Cursor.block_advance,
      Cursor.position_advance, Cursor.advance_advance]
    rw [show 4 + 4 * n = 4 * (n + 1) by omega]

end wp

end Reading
