import LinphoneSdk.BelleSip.StartLine

/-!
# The framing of SIP and HTTP messages

The messages are sent one after the other, with CR LF keep-alives between them, and the stream is cut into reads. As
long as the search for a start line discards nothing but CR and LF bytes, the messages and the bodies that come out are
those that were sent.
-/

namespace BelleSip

open CString List Option InputStream Channel

/-! ### The messages -/

structure Chunk where
  size : Bytes
  data : Bytes
  deriving DecidableEq

namespace Chunk

def bytes (c : Chunk) : Bytes := c.size ++ crlf ++ c.data ++ crlf

/-- The line gives the size `n`, in hexadecimal digits that an extension or a blank may follow. -/
structure SizeLine (size : Bytes) (n : ℕ) : Prop where
  digits : ∃ digits extension, size = digits ++ extension ∧ digits ≠ [] ∧ (∀ c ∈ digits, (hexDigit? c).isSome) ∧
    (∀ c ∈ extension.head?, c = 59 ∨ c = 32 ∨ c = 9) ∧ hexValue (digits.filterMap hexDigit?) = n
  line : ∀ c ∈ size, c ≠ 0 ∧ c ≠ 13 ∧ c ≠ 10

structure WellFormed (c : Chunk) : Prop where
  size : SizeLine c.size c.data.length
  data : c.data ≠ []

end Chunk

inductive Body where
  /-- Of Content-Length bytes. -/
  | plain (content : Bytes)
  /-- Chunks, the line of the last chunk and the trailer fields. -/
  | chunked (chunks : List Chunk) (last trailer : Bytes)
  deriving DecidableEq

namespace Body

def bytes : Body → Bytes
  | plain content => content
  | chunked chunks last trailer => chunks.flatMap Chunk.bytes ++ last ++ crlf ++ trailer ++ crlf

def content : Body → Bytes
  | plain content => content
  | chunked chunks _ _ => chunks.flatMap Chunk.data

end Body

/-- A message: its headers as they are sent and as they are parsed, and its body. -/
structure Message (M : Type) where
  startLine : Bytes
  /-- The header fields and the blank line. -/
  fields : Bytes
  parsed : M
  body : Body

variable {M : Type}

namespace Message

def headers (m : Message M) : Bytes := m.startLine ++ crlf ++ m.fields

def bytes (m : Message M) : Bytes := m.headers ++ m.body.bytes

/-- The body is as the headers say. -/
def BodyAnnounced (parser : MessageParser M) (m : Message M) : Prop :=
  match m.body with
  | .plain content =>
    ((parser.contentLength m.parsed).map Int32.toInt).getD 0 = content.length ∧
      ¬ (parser.isHttp m.parsed ∧ parser.hasContentType m.parsed ∧ isChunked parser m.parsed)
  | .chunked chunks last trailer =>
    (parser.isHttp m.parsed ∧ parser.hasContentType m.parsed ∧ isChunked parser m.parsed) ∧
      (∀ c ∈ chunks, c.WellFormed) ∧ Chunk.SizeLine last 0 ∧ (trailer = [] ∨ ∃ lines, trailer = lines ++ crlf)

structure WellFormed (parser : MessageParser M) (m : Message M) : Prop where
  startLine : StartLine m.startLine
  /-- The headers end at their first blank line. -/
  blankLine : strstr (crlf ++ crlf) m.headers = some (m.headers.length - 4)
  /-- The parser reads one block of headers. -/
  parse : parser.parseRaw m.headers = (some m.parsed, m.headers.length)
  body : m.BodyAnnounced parser

/-- No trailer fields, and no chunk of 2^31 bytes or more. -/
def WithinChunkLimits (m : Message M) : Prop :=
  match m.body with
  | .plain _ => True
  | .chunked chunks _ trailer => trailer = [] ∧ ∀ c ∈ chunks, c.data.length < 2 ^ 31

/-- What the channel is to give. -/
def delivered (m : Message M) : M × Bytes := (m.parsed, m.body.content)

end Message

def keepAlives (n : ℕ) : Bytes := (replicate n crlf).flatten

def stream (sent : List (ℕ × Message M)) (n : ℕ) : Bytes :=
  sent.flatMap (fun (k, m) => keepAlives k ++ m.bytes) ++ keepAlives n

namespace Channel

/-- Where the start line is searched for, what is discarded is CR and LF bytes. -/
def DiscardsEol (ch : Channel M) : Prop :=
  ch.inputStream.state = .waitingMessageStart → searches ch.inputStream →
    ∀ c ∈ discarded ch.inputStream, c = 13 ∨ c = 10

/-- Reads that fit the buffer, one after the other. `P` holds of the states that the loop of `parseStream` goes
through. -/
inductive Run (parser : MessageParser M) (P : Channel M → Prop) : Channel M → List Bytes → Channel M → Prop
  | nil {ch : Channel M} : Run parser P ch [] ch
  | read {ch ch' : Channel M} {data : Bytes} {reads : List Bytes} (hdata : data ≠ [])
      (hfits : data.length < ch.inputStream.freeLength)
      (hvisits : ∀ t, (parseLoop parser).Visits (ch.append data) t → P t)
      (hrun : Run parser P (ch.processReadData parser data) reads ch') : Run parser P ch (data :: reads) ch'

end Channel

/-! ### The bytes of the messages -/

variable {parser : MessageParser M}

lemma Message.bytes_head {m : Message M} (h : m.WellFormed parser) :
    ∃ c rest, m.bytes = c :: rest ∧ isEol c = false := by
  obtain ⟨c, rest, hline, hc⟩ := h.startLine.head
  refine ⟨c, rest ++ crlf ++ m.fields ++ m.body.bytes, ?_, isEol_of_not_isspace hc⟩
  simp [bytes, headers, hline]

lemma hasCrlf_append (a b : Bytes) : hasCrlf (a ++ crlf ++ b) = true := by
  induction a with
  | nil => rfl
  | cons c a ih =>
    cases a with
    | nil => simp [hasCrlf, crlf]
    | cons d a =>
      simp only [cons_append] at ih ⊢
      simp only [hasCrlf, ih, Bool.or_true]

lemma isEol_of_mem_keepAlives {n : ℕ} {c : UInt8} (h : c ∈ keepAlives n) : isEol c := by
  simp only [keepAlives, mem_flatten, mem_replicate] at h
  obtain ⟨_, ⟨-, rfl⟩, hc⟩ := h
  simp only [crlf, mem_cons, not_mem_nil, or_false] at hc
  obtain rfl | rfl := hc <;> rfl

/-- `l` is CR and LF bytes and messages, of which `ms` is the list. -/
inductive Coming (parser : MessageParser M) : Bytes → List (Message M) → Prop
  | done {sep : Bytes} (hsep : ∀ c ∈ sep, isEol c) : Coming parser sep []
  | message {sep bytes : Bytes} {m : Message M} {ms : List (Message M)} (hsep : ∀ c ∈ sep, isEol c)
      (hm : m.WellFormed parser) (hlimits : m.WithinChunkLimits) (h : Coming parser bytes ms) :
      Coming parser (sep ++ (m.bytes ++ bytes)) (m :: ms)

lemma coming_stream {sent : List (ℕ × Message M)} {n : ℕ}
    (hsent : ∀ x ∈ sent, x.2.WellFormed parser ∧ x.2.WithinChunkLimits) :
    Coming parser (stream sent n) (sent.map (·.2)) := by
  induction sent with
  | nil => exact .done fun _ => isEol_of_mem_keepAlives
  | cons x sent ih =>
    obtain ⟨k, m⟩ := x
    obtain ⟨hm, hlimits⟩ := hsent _ mem_cons_self
    have hrest := ih fun x hx => hsent x (mem_cons_of_mem _ hx)
    have hcoming := Coming.message (fun _ => isEol_of_mem_keepAlives (n := k)) hm hlimits hrest
    simpa [stream] using hcoming

/-- More CR and LF bytes may come first. -/
lemma Coming.sep_append {l sep : Bytes} {ms : List (Message M)} (hsep : ∀ c ∈ sep, isEol c)
    (h : Coming parser l ms) : Coming parser (sep ++ l) ms := by
  cases h with
  | done hl =>
    refine .done fun c hc => ?_
    obtain hc | hc := mem_append.mp hc
    · exact hsep c hc
    · exact hl c hc
  | message hl hm hlimits h =>
    rw [← append_assoc]
    refine .message (fun c hc => ?_) hm hlimits h
    obtain hc | hc := mem_append.mp hc
    · exact hsep c hc
    · exact hl c hc

/-! ### The search for a start line -/

lemma searchStart_some {buff : Bytes} {i n j : ℕ} (h : searchStart buff i n = some j) :
    j < i + n ∧ isEol (buff.getD j 0) = false := by
  induction n generalizing i with
  | zero => simp [searchStart] at h
  | succ n ih =>
    simp only [searchStart] at h
    split_ifs at h with hspace hline
    · obtain ⟨hlt, heol⟩ := ih h
      exact ⟨by omega, heol⟩
    · cases h
      refine ⟨by omega, ?_⟩
      simp only [not_or] at hspace
      simpa [isEol] using And.intro hspace.1 hspace.2.1
    · obtain ⟨hlt, heol⟩ := ih h
      exact ⟨by omega, heol⟩

lemma getMessageStartPos_some {buff : Bytes} {j : ℕ} (h : getMessageStartPos buff = some j) :
    j < buff.length ∧ isEol (buff.getD j 0) = false := by
  obtain ⟨hlt, heol⟩ := searchStart_some h
  exact ⟨by omega, heol⟩

lemma takeWhile_isEol_message {m : Message M} {sep bytes : Bytes} (hsep : ∀ c ∈ sep, isEol c)
    (hm : m.WellFormed parser) : (sep ++ (m.bytes ++ bytes)).takeWhile isEol = sep := by
  obtain ⟨c, rest, hbytes, hc⟩ := Message.bytes_head hm
  rw [takeWhile_append_of_pos hsep, hbytes]
  simp [hc]

/-- After the CR and LF bytes comes the first message, if a byte that is not one of them does. -/
lemma Coming.drop_eol {l : Bytes} {ms : List (Message M)} {j : ℕ} (h : Coming parser l ms) (hj : j < l.length)
    (heol : isEol (l.getD j 0) = false) (htake : ∀ c ∈ l.take j, isEol c) :
    ∃ m bytes ms', ms = m :: ms' ∧ m.WellFormed parser ∧ m.WithinChunkLimits ∧ l.drop j = m.bytes ++ bytes ∧
      Coming parser bytes ms' := by
  have hget : l.getD j 0 = l[j] := by simp [getD_eq_getElem?_getD, hj]
  have hwhile : l.takeWhile isEol = l.take j := by
    conv_lhs => rw [← take_append_drop j l]
    rw [takeWhile_append_of_pos htake, drop_eq_getElem_cons hj, takeWhile_cons_of_neg, append_nil]
    rw [← hget, heol]
    exact Bool.false_ne_true
  cases h with
  | done hsep =>
    rw [hget, hsep _ (getElem_mem hj)] at heol
    cases heol
  | @message sep bytes m ms hsep hm hlimits hcoming =>
    refine ⟨m, bytes, ms, rfl, hm, hlimits, ?_, hcoming⟩
    rw [takeWhile_isEol_message hsep hm] at hwhile
    have hlen : sep.length = j := by
      have hlen := congrArg length hwhile
      rw [length_take] at hlen
      omega
    rw [← hlen, drop_left]

/-- CR and LF bytes may be left out in front. -/
lemma Coming.of_sep_append {l sep : Bytes} {ms : List (Message M)} (hsep : ∀ c ∈ sep, isEol c)
    (h : Coming parser (sep ++ l) ms) : Coming parser l ms := by
  generalize hl : sep ++ l = bytes at h
  cases h with
  | done hall => exact .done fun c hc => hall c (hl ▸ mem_append_right _ hc)
  | @message sep' bytes m ms hsep' hm hlimits hcoming =>
    obtain ⟨a, hsep'', rfl⟩ | ⟨a, rfl, ha⟩ := append_eq_append_iff.mp hl
    · subst hsep''
      exact .message (fun c hc => hsep' c (mem_append_right _ hc)) hm hlimits hcoming
    · cases a with
      | nil =>
        rw [nil_append] at ha
        rw [← ha]
        exact @Coming.message _ _ [] _ _ _ (by simp) hm hlimits hcoming
      | cons c a =>
        obtain ⟨c', rest, hbytes, hc'⟩ := Message.bytes_head hm
        rw [hbytes] at ha
        obtain ⟨rfl, -⟩ := cons.inj ha
        rw [hsep c' (by simp)] at hc'
        cases hc'

/-! ### What the channel still receives -/

section

variable {parser : MessageParser M} {all : List (M × Bytes)} {rest bytes : Bytes} {m : Message M}
  {ms : List (Message M)} {ch ch' : Channel M}

/-- The rest of a chunked body: what the channel expects is between two chunks, or inside one. -/
inductive ChunksComing (rest bytes content : Bytes) (ch : Channel M) : Prop
  | boundary {sep last : Bytes} {chunks : List Chunk} (hsize : ch.inputStream.chunkSize = -1)
      (hsep : sep = [] ∨ sep = crlf) (hchunks : ∀ c ∈ chunks, c.WellFormed ∧ c.data.length < 2 ^ 31)
      (hlast : Chunk.SizeLine last 0)
      (hbytes : ch.inputStream.readable ++ rest =
        sep ++ (chunks.flatMap Chunk.bytes ++ (last ++ (crlf ++ (crlf ++ bytes)))))
      (hcontent : content = ch.body ++ chunks.flatMap Chunk.data)
  | inside {left last : Bytes} {chunks : List Chunk} (hleft : left ≠ [])
      (hread : 0 ≤ ch.inputStream.chunkReadSize)
      (hsize : ch.inputStream.chunkSize = ch.inputStream.chunkReadSize + left.length)
      (hchunks : ∀ c ∈ chunks, c.WellFormed ∧ c.data.length < 2 ^ 31) (hlast : Chunk.SizeLine last 0)
      (hbytes : ch.inputStream.readable ++ rest =
        left ++ (crlf ++ (chunks.flatMap Chunk.bytes ++ (last ++ (crlf ++ (crlf ++ bytes))))))
      (hcontent : content = ch.body ++ (left ++ chunks.flatMap Chunk.data))

structure PlainComing (rest bytes content left : Bytes) (ch : Channel M) : Prop where
  notChunked : ch.inputStream.chunckedMode = false
  length : ch.inputStream.contentLength = content.length
  lt : content.length < 2 ^ 64
  content : content = ch.body ++ left
  bytes : ch.inputStream.readable ++ rest = left ++ bytes

/-- The message under way and those after it are what is missing in `all`. -/
structure UnderWay (parser : MessageParser M) (all : List (M × Bytes)) (bytes : Bytes) (m : Message M)
    (ms : List (Message M)) (ch : Channel M) : Prop where
  coming : Coming parser bytes ms
  all : all = ch.incomingMessages ++ m.delivered :: ms.map Message.delivered

/-- What is missing in `all` is in the buffer and in the bytes `rest` that are not read yet. -/
inductive Receiving (parser : MessageParser M) (all : List (M × Bytes)) (rest : Bytes) (ch : Channel M) : Prop
  | waiting {ms : List (Message M)} (hstate : ch.inputStream.state = .waitingMessageStart)
      (htop : ch.inputStream.consumed = []) (hchunked : ch.inputStream.chunckedMode = false)
      (hcoming : Coming parser (ch.inputStream.readable ++ rest) ms)
      (hall : all = ch.incomingMessages ++ ms.map Message.delivered)
  | message {m : Message M} {bytes : Bytes} {ms : List (Message M)}
      (hstate : ch.inputStream.state = .messageAquisition) (hchunked : ch.inputStream.chunckedMode = false)
      (hm : m.WellFormed parser) (hlimits : m.WithinChunkLimits)
      (hbytes : ch.inputStream.readable ++ rest = m.bytes ++ bytes) (hway : UnderWay parser all bytes m ms ch)
  | plain {m : Message M} {bytes left : Bytes} {ms : List (Message M)}
      (hstate : ch.inputStream.state = .bodyAquisition) (hmsg : ch.inputStream.msg = some m.parsed)
      (hbody : PlainComing rest bytes m.body.content left ch) (hleft : left ≠ [])
      (hway : UnderWay parser all bytes m ms ch)
  | chunked {m : Message M} {bytes : Bytes} {ms : List (Message M)}
      (hstate : ch.inputStream.state = .bodyAquisition) (hmsg : ch.inputStream.msg = some m.parsed)
      (hchunked : ch.inputStream.chunckedMode = true) (hbody : ChunksComing rest bytes m.body.content ch)
      (hway : UnderWay parser all bytes m ms ch)

/-- The channel waits for more bytes, and there are some, or nothing is missing. -/
def Waits (parser : MessageParser M) (all : List (M × Bytes)) (rest : Bytes) (ch : Channel M) : Prop :=
  Receiving parser all rest ch ∧ (rest = [] → ch.incomingMessages = all)

lemma receiving_messageReady (hmsg : ch.inputStream.msg = some m.parsed)
    (hbytes : Coming parser (ch.inputStream.readable ++ rest) ms) (hbody : ch.body = m.body.content)
    (hall : all = ch.incomingMessages ++ m.delivered :: ms.map Message.delivered) :
    Receiving parser all rest ch.messageReady := by
  refine @Receiving.waiting _ _ _ _ _ ms ?_ ?_ ?_ ?_ ?_
  · simp [reset]
  · simp [reset, rewind]
  · simp [reset]
  · simpa [reset, rewind] using hbytes
  · simp [messageReady, hmsg, hall, Message.delivered, hbody]

/-! ### The body -/

lemma take_drop_of_append_eq {a b c d : Bytes} {k : ℕ} (h : a ++ b = c ++ d) (ha : k ≤ a.length)
    (hc : k ≤ c.length) : a.take k = c.take k ∧ a.drop k ++ b = c.drop k ++ d := by
  constructor
  · have htake := congrArg (take k) h
    rwa [take_append_of_le_length ha, take_append_of_le_length hc] at htake
  · have hdrop := congrArg (drop k) h
    rwa [drop_append_of_le_length ha, drop_append_of_le_length hc] at hdrop

lemma sizeT_sub {a b : ℕ} (ha : a < 2 ^ 64) (hle : b ≤ a) : sizeT (a - b) = a - b := by
  have hcast : ((a : ℤ) - b) = ((a - b : ℕ) : ℤ) := by omega
  rw [sizeT, hcast]
  omega

lemma acquireBodySimple_spec {left : Bytes} (hstate : ch.inputStream.state = .bodyAquisition)
    (hmsg : ch.inputStream.msg = some m.parsed) (hbody : PlainComing rest bytes m.body.content left ch)
    (hway : UnderWay parser all bytes m ms ch) :
    (∀ ch', acquireBodySimple ch = .inl ch' → Receiving parser all rest ch') ∧
      ∀ ch', acquireBodySimple ch = .inr ch' → Waits parser all rest ch' := by
  have hsizes : ch.inputStream.contentLength = ch.body.length + left.length := by
    rw [hbody.length, hbody.content, length_append]
  have hmin : sizeT (ch.inputStream.contentLength - ch.body.length) = left.length := by
    rw [sizeT_sub (by rw [hbody.length]; exact hbody.lt) (by omega)]
    omega
  -- what is fed is the part of the rest of the body that is there
  generalize hfed : (if ch.body.length = 0 ∧ ch.inputStream.readable.length = 0 then ch
    else ch.feedBody (min (sizeT (ch.inputStream.contentLength - ch.body.length)) ch.inputStream.readable.length)) = fed
  have hparts : fed.inputStream.contentLength = ch.inputStream.contentLength ∧
      fed.inputStream.msg = ch.inputStream.msg ∧ fed.inputStream.state = ch.inputStream.state ∧
      fed.inputStream.chunckedMode = ch.inputStream.chunckedMode ∧
      fed.incomingMessages = ch.incomingMessages ∧
      fed.body = ch.body ++ ch.inputStream.readable.take (min left.length ch.inputStream.readable.length) ∧
      fed.inputStream.readable = ch.inputStream.readable.drop (min left.length ch.inputStream.readable.length) := by
    rw [hmin] at hfed
    split_ifs at hfed with hnone
    · subst hfed
      have hreadable := length_eq_zero_iff.mp hnone.2
      simp [hreadable]
    · subst hfed
      simp [feedBody, withStream, advance, rewind]
  obtain ⟨hlength, hmsg', hstate', hchunked', hincoming, hfedBody, hfedReadable⟩ := hparts
  obtain ⟨htake, hdrop⟩ := take_drop_of_append_eq (k := min left.length ch.inputStream.readable.length) hbody.bytes
    (Nat.min_le_right _ _) (Nat.min_le_left _ _)
  rw [htake] at hfedBody
  rw [← hfedReadable] at hdrop
  have hresult : acquireBodySimple ch =
      if ch.inputStream.contentLength ≤ fed.body.length then .inl fed.messageReady else .inr fed := by
    simp only [acquireBodySimple, hfed]
  rw [hresult]
  have hfedLength : fed.body.length = ch.body.length + min left.length ch.inputStream.readable.length := by
    rw [hfedBody, length_append, length_take]
    omega
  split_ifs with hcomplete
  · refine ⟨fun ch' h => ?_, fun ch' h => by cases h⟩
    cases h
    have hk : min left.length ch.inputStream.readable.length = left.length := by omega
    rw [hk, take_length] at hfedBody
    rw [hk, drop_length, nil_append] at hdrop
    refine @receiving_messageReady _ _ _ _ m ms _ (hmsg'.trans hmsg) ?_ ?_ ?_
    · rw [hdrop]
      exact hway.coming
    · rw [hfedBody, ← hbody.content]
    · rw [hincoming]
      exact hway.all
  · refine ⟨fun ch' h => (by cases h), fun ch' h => ?_⟩
    cases h
    have hk : min left.length ch.inputStream.readable.length = ch.inputStream.readable.length := by omega
    have hlt : ch.inputStream.readable.length < left.length := by omega
    rw [hk] at hfedBody hdrop
    have hleft : left.drop ch.inputStream.readable.length ≠ [] := by
      intro hnil
      have hlen := congrArg length hnil
      rw [length_drop, length_nil] at hlen
      omega
    have hempty : fed.inputStream.readable = [] := by rw [hfedReadable, hk, drop_length]
    refine ⟨.plain (hstate'.trans hstate) (hmsg'.trans hmsg) ⟨hchunked'.trans hbody.notChunked,
      hlength.trans hbody.length, hbody.lt, ?_, hdrop⟩ hleft ⟨hway.coming, hincoming ▸ hway.all⟩, ?_⟩
    · rw [hfedBody, append_assoc, take_append_drop]
      exact hbody.content
    · intro hrest
      rw [hempty, hrest] at hdrop
      exact absurd (append_eq_nil_iff.mp hdrop.symm).1 hleft

/-! ### The chunks -/

lemma Chunk.SizeLine.strtol16 {size r : Bytes} {n : ℕ} (h : Chunk.SizeLine size n) (hn : n < 2 ^ 31) :
    strtol16 (size ++ (crlf ++ r)) = n := by
  obtain ⟨digits, extension, rfl, hne, hdigits, hext, hvalue⟩ := h.digits
  rw [append_assoc, strtol16_append hne hdigits, hvalue]
  · simp only [LONG_MAX]
    omega
  · intro c hc
    cases extension with
    | nil =>
      obtain rfl : 13 = c := by simpa [crlf] using hc
      decide
    | cons e extension =>
      obtain rfl : e = c := by simpa using hc
      obtain rfl | rfl | rfl := hext e (by simp) <;> decide

lemma Chunk.SizeLine.strstr {size r : Bytes} {n : ℕ} (h : Chunk.SizeLine size n) :
    strstr crlf (size ++ (crlf ++ r)) = some size.length :=
  strstr_crlf_line fun c hc => ⟨(h.line c hc).1, (h.line c hc).2.1⟩

lemma Chunk.SizeLine.head {size : Bytes} {n : ℕ} (h : Chunk.SizeLine size n) : ∃ c r, size = c :: r ∧ c ≠ 13 := by
  obtain ⟨digits, extension, rfl, hne, hdigits, -, -⟩ := h.digits
  obtain ⟨c, digits, rfl⟩ := exists_cons_of_ne_nil hne
  exact ⟨c, digits ++ extension, rfl, (of_hexDigit (hdigits c mem_cons_self)).2.2.2.2.2⟩

/-- The CR LF in front of a chunk is skipped, unless it is not whole yet. -/
lemma skipCrlf_spec {readable l sep : Bytes} {c : UInt8} (hc : c ≠ 13) (hsep : sep = [] ∨ sep = crlf)
    (h : readable ++ rest = sep ++ c :: l) :
    ∃ sep', (sep' = [] ∨ sep' = crlf) ∧ readable.drop (skipCrlf readable) ++ rest = sep' ++ c :: l ∧
      ∀ tmp, strstr crlf (readable.drop (skipCrlf readable)) = some tmp → sep' = [] := by
  have hskip : ∀ {r : Bytes}, r ++ rest = c :: l → skipCrlf r = 0 := by
    intro r hr
    cases r with
    | nil => rfl
    | cons d r =>
      obtain ⟨rfl, -⟩ := cons.inj hr
      unfold skipCrlf
      split
      · next heq => exact absurd (cons.inj heq).1 hc
      · rfl
  obtain rfl | rfl := hsep
  · refine ⟨[], .inl rfl, ?_, fun _ _ => rfl⟩
    rwa [hskip h]
  · match readable, h with
    | [], h => exact ⟨crlf, .inr rfl, h, fun tmp htmp => by simp [strstr, skipCrlf, crlf] at htmp⟩
    | [d], h =>
      obtain ⟨rfl, -⟩ := cons.inj h
      exact ⟨crlf, .inr rfl, h, fun tmp htmp => by simp [strstr, skipCrlf, crlf] at htmp⟩
    | d :: e :: r, h =>
      obtain ⟨rfl, htail⟩ := cons.inj h
      obtain ⟨rfl, hline⟩ := cons.inj htail
      refine ⟨[], .inl rfl, ?_, fun _ _ => rfl⟩
      have hr := hskip hline
      simpa [skipCrlf, hr] using hline

structure ReceivingChunks (parser : MessageParser M) (all : List (M × Bytes)) (rest bytes : Bytes)
    (m : Message M) (ms : List (Message M)) (ch : Channel M) : Prop where
  state : ch.inputStream.state = .bodyAquisition
  msg : ch.inputStream.msg = some m.parsed
  chunked : ch.inputStream.chunckedMode = true
  body : ChunksComing rest bytes m.body.content ch
  way : UnderWay parser all bytes m ms ch

lemma ReceivingChunks.receiving (h : ReceivingChunks parser all rest bytes m ms ch) : Receiving parser all rest ch :=
  .chunked h.state h.msg h.chunked h.body h.way

/-- Where the rest of the body is not all there, the channel waits. -/
lemma ReceivingChunks.waits (h : ReceivingChunks parser all rest bytes m ms ch) (hrest : rest ≠ []) :
    Waits parser all rest ch :=
  ⟨h.receiving, fun hnil => absurd hnil hrest⟩

variable {chunks : List Chunk}

lemma readChunk_spec {left last : Bytes} (hstate : ch.inputStream.state = .bodyAquisition)
    (hmsg : ch.inputStream.msg = some m.parsed) (hchunked : ch.inputStream.chunckedMode = true)
    (hway : UnderWay parser all bytes m ms ch) (hleft : left ≠ []) (hread : 0 ≤ ch.inputStream.chunkReadSize)
    (hsize : ch.inputStream.chunkSize = ch.inputStream.chunkReadSize + left.length)
    (hchunks : ∀ c ∈ chunks, c.WellFormed ∧ c.data.length < 2 ^ 31) (hlast : Chunk.SizeLine last 0)
    (hbytes : ch.inputStream.readable ++ rest =
      left ++ (crlf ++ (chunks.flatMap Chunk.bytes ++ (last ++ (crlf ++ (crlf ++ bytes))))))
    (hcontent : m.body.content = ch.body ++ (left ++ chunks.flatMap Chunk.data)) :
    (∀ ch', readChunk ch = .inl ch' → ReceivingChunks parser all rest bytes m ms ch') ∧
      ∀ ch', readChunk ch = .inr (.inr ch') → Waits parser all rest ch' := by
  have hpos := length_pos_iff.mpr hleft
  generalize hk : min ch.inputStream.readable.length left.length = k
  have hreadsize : min (ch.inputStream.readable.length : ℤ)
      (ch.inputStream.chunkSize - ch.inputStream.chunkReadSize) = k := by omega
  obtain ⟨htake, hdrop⟩ := take_drop_of_append_eq (k := k) hbytes (by omega) (by omega)
  -- what is fed is the part of the rest of the chunk that is there
  generalize hfed : (if 0 < (k : ℤ) then
      (ch.feedBody (k : ℤ).toNat).withStream fun s => { s with chunkReadSize := s.chunkReadSize + (k : ℤ) }
    else ch) = fed
  have hparts : fed.inputStream.state = ch.inputStream.state ∧ fed.inputStream.msg = ch.inputStream.msg ∧
      fed.inputStream.chunckedMode = ch.inputStream.chunckedMode ∧ fed.incomingMessages = ch.incomingMessages ∧
      fed.inputStream.chunkSize = ch.inputStream.chunkSize ∧
      fed.inputStream.chunkReadSize = ch.inputStream.chunkReadSize + k ∧
      fed.body = ch.body ++ left.take k ∧ fed.inputStream.readable = ch.inputStream.readable.drop k := by
    rw [← htake]
    split_ifs at hfed with hzero
    · subst hfed
      simp [feedBody, withStream, advance, rewind]
    · subst hfed
      obtain rfl : k = 0 := by omega
      simp
  obtain ⟨hstate', hmsg', hchunked', hincoming, hsize', hread', hbody', hreadable'⟩ := hparts
  rw [← hreadable'] at hdrop
  have hway' : UnderWay parser all bytes m ms fed := ⟨hway.coming, hincoming ▸ hway.all⟩
  have hresult : readChunk ch = if fed.inputStream.chunkSize = fed.inputStream.chunkReadSize then
        let ch := fed.withStream fun s =>
          { s with contentLength := sizeT (s.contentLength + s.chunkSize), chunkSize := -1 }
        if 0 < ch.inputStream.readable.length then .inl ch else .inr (.inr ch)
      else .inr (.inr fed) := by
    simp only [readChunk, hreadsize, hfed]
  rw [hresult]
  by_cases hcomplete : fed.inputStream.chunkSize = fed.inputStream.chunkReadSize
  · have hk' : k = left.length := by omega
    rw [hk', drop_length, nil_append] at hdrop
    rw [hk', take_length] at hbody'
    have hnext : ReceivingChunks parser all rest bytes m ms
        (fed.withStream fun s =>
          { s with contentLength := sizeT (s.contentLength + s.chunkSize), chunkSize := -1 }) := by
      refine ⟨hstate'.trans hstate, hmsg'.trans hmsg, hchunked'.trans hchunked, ?_, ⟨hway'.coming, hway'.all⟩⟩
      refine .boundary rfl (.inr rfl) hchunks hlast hdrop ?_
      rw [hcontent, ← append_assoc]
      exact congrArg (· ++ _) hbody'.symm
    simp only [hcomplete, ↓reduceIte]
    split_ifs with hmore
    · exact ⟨fun ch' h => Sum.inl.inj h ▸ hnext, fun ch' h => by cases h⟩
    · refine ⟨fun ch' h => (by cases h), fun ch' h => ?_⟩
      cases h
      refine hnext.waits ?_
      rintro rfl
      have hempty : fed.inputStream.readable = [] := length_eq_zero_iff.mp (by
        simpa [withStream] using hmore)
      rw [hempty] at hdrop
      cases hdrop
  · have hlt : k < left.length := by
      have hne : k ≠ left.length := by
        intro heq
        exact hcomplete (by rw [hsize', hread', hsize, heq])
      omega
    simp only [hcomplete, ↓reduceIte]
    refine ⟨fun ch' h => (by cases h), fun ch' h => ?_⟩
    cases h
    have hleft' : left.drop k ≠ [] := by
      intro hnil
      have hlen := congrArg length hnil
      rw [length_drop, length_nil] at hlen
      omega
    have hnext : ReceivingChunks parser all rest bytes m ms fed := by
      refine ⟨hstate'.trans hstate, hmsg'.trans hmsg, hchunked'.trans hchunked, ?_, hway'⟩
      refine .inside hleft' (by omega) ?_ hchunks hlast hdrop ?_
      · rw [hsize', hread', hsize, length_drop]
        omega
      · rw [hbody', hcontent]
        conv_lhs => rw [← take_append_drop k left]
        simp only [append_assoc]
    refine hnext.waits ?_
    rintro rfl
    have hempty : fed.inputStream.readable = [] := by
      rw [hreadable']
      exact drop_eq_nil_of_le (by omega)
    rw [hempty] at hdrop
    exact hleft' (append_eq_nil_iff.mp hdrop.symm).1

/-- Where the loop of the chunks goes from a channel, with what still comes. -/
structure ChunkFlow (parser : MessageParser M) (all : List (M × Bytes)) (rest bytes : Bytes)
    (m : Message M) (ms : List (Message M)) (result : Channel M ⊕ (Channel M ⊕ Channel M)) : Prop where
  next : ∀ ch', result = .inl ch' → ReceivingChunks parser all rest bytes m ms ch'
  continue_ : ∀ ch', result = .inr (.inl ch') → Receiving parser all rest ch'
  stop : ∀ ch', result = .inr (.inr ch') → Waits parser all rest ch'

/-- The last chunk: the message is ready, and what follows it is left. -/
lemma receiving_lastChunk {last r : Bytes} (hmsg : ch.inputStream.msg = some m.parsed)
    (hbody : ch.body = m.body.content) (hway : UnderWay parser all bytes m ms ch)
    (hreadable : ch.inputStream.readable = last ++ (crlf ++ r)) (hr : r ++ rest = crlf ++ bytes) :
    Receiving parser all rest
      (ch.withStream fun s => s.advance (min (last.length + 4) s.readable.length)).messageReady := by
  have hdrop : (ch.inputStream.readable.drop (min (last.length + 4) ch.inputStream.readable.length)) = r.drop 2 := by
    have hlen : ch.inputStream.readable.length = last.length + 2 + r.length := by
      rw [hreadable]
      simp only [length_append, crlf, length_cons, length_nil]
      omega
    have hmin : min (last.length + 4) ch.inputStream.readable.length = last.length + 2 + min 2 r.length := by omega
    rw [hmin, ← drop_drop, hreadable, ← append_assoc]
    have hdropLine : (last ++ crlf ++ r).drop (last.length + 2) = r := by
      rw [drop_left' (by simp [crlf])]
    rw [hdropLine]
    obtain hle | hle := Nat.le_total 2 r.length
    · rw [Nat.min_eq_left hle]
    · rw [Nat.min_eq_right hle, drop_length, drop_eq_nil_of_le hle]
  obtain ⟨-, hleft⟩ := take_drop_of_append_eq (k := min 2 r.length) hr (Nat.min_le_right _ _)
    (Nat.min_le_left _ _)
  have hdrop' : r.drop (min 2 r.length) = r.drop 2 := by
    obtain hle | hle := Nat.le_total 2 r.length
    · rw [Nat.min_eq_left hle]
    · rw [Nat.min_eq_right hle, drop_length, drop_eq_nil_of_le hle]
  rw [hdrop'] at hleft
  refine receiving_messageReady hmsg ?_ hbody hway.all
  simp only [withStream, advance, hdrop, hleft]
  exact hway.coming.sep_append fun c hc => by
    have hmem := mem_of_mem_drop hc
    simp only [crlf, mem_cons, not_mem_nil, or_false] at hmem
    obtain rfl | rfl := hmem <;> rfl

lemma cInt_of_lt {n : ℕ} (hn : n < 2 ^ 31) : cInt n = n := by
  rw [cInt, Int.bmod_eq_of_le (by omega) (by omega)]

/-- Where a CR LF is found, the line of a chunk is whole. -/
lemma line_of_strstr {line after readable : Bytes} {tmp n : ℕ} (hline : Chunk.SizeLine line n)
    (hbytes : readable ++ rest = line ++ (crlf ++ after)) (hfound : strstr crlf readable = some tmp) :
    tmp = line.length ∧ ∃ r, readable = line ++ (crlf ++ r) ∧ r ++ rest = after := by
  have htmp : tmp = line.length := strstr_append_eq hfound (hbytes ▸ hline.strstr)
  have hle := add_length_le_of_strstr hfound
  have hlen : (line ++ crlf).length = tmp + crlf.length := by rw [length_append, htmp]
  rw [← append_assoc] at hbytes
  obtain ⟨htake, hdrop⟩ := take_drop_of_append_eq (k := tmp + crlf.length) hbytes hle (by omega)
  rw [← hlen, take_length] at htake
  rw [← hlen, drop_length, nil_append] at hdrop
  refine ⟨htmp, readable.drop (line ++ crlf).length, ?_, hdrop⟩
  rw [← append_assoc]
  conv_lhs => rw [← take_append_drop (line ++ crlf).length readable, htake]

lemma chunks_head {last after : Bytes} (hchunks : ∀ c ∈ chunks, c.WellFormed) (hlast : Chunk.SizeLine last 0) :
    ∃ d l, chunks.flatMap Chunk.bytes ++ (last ++ after) = d :: l ∧ d ≠ 13 := by
  cases chunks with
  | nil =>
    obtain ⟨d, l, rfl, hd⟩ := hlast.head
    exact ⟨d, l ++ after, rfl, hd⟩
  | cons c chunks =>
    obtain ⟨d, l, hline, hd⟩ := (hchunks c mem_cons_self).size.head
    refine ⟨d, l ++ crlf ++ c.data ++ crlf ++ chunks.flatMap Chunk.bytes ++ (last ++ after), ?_, hd⟩
    simp [Chunk.bytes, hline]

lemma strstr_chunks {last after : Bytes} (hchunks : ∀ c ∈ chunks, c.WellFormed) (hlast : Chunk.SizeLine last 0) :
    ∃ n, strstr crlf (chunks.flatMap Chunk.bytes ++ (last ++ (crlf ++ after))) = some n := by
  cases chunks with
  | nil => exact ⟨_, hlast.strstr⟩
  | cons c chunks =>
    simp only [flatMap_cons, Chunk.bytes, append_assoc]
    exact ⟨_, (hchunks c mem_cons_self).size.strstr⟩

/-- Between two chunks, once the CR LF in front is skipped. -/
lemma chunkLine_spec {last : Bytes} {tmp : ℕ} (hstate : ch.inputStream.state = .bodyAquisition)
    (hmsg : ch.inputStream.msg = some m.parsed) (hchunked : ch.inputStream.chunckedMode = true)
    (hway : UnderWay parser all bytes m ms ch) (hchunks : ∀ c ∈ chunks, c.WellFormed ∧ c.data.length < 2 ^ 31)
    (hlast : Chunk.SizeLine last 0)
    (hbytes : ch.inputStream.readable ++ rest = chunks.flatMap Chunk.bytes ++ (last ++ (crlf ++ (crlf ++ bytes))))
    (hcontent : m.body.content = ch.body ++ chunks.flatMap Chunk.data)
    (hfound : strstr crlf ch.inputStream.readable = some tmp) :
    ChunkFlow parser all rest bytes m ms
      (let chunksize := strtol16 ch.inputStream.readable
      if 0 ≤ chunksize ∧ chunksize ≠ LONG_MAX then
        if chunksize = 0 then
          .inr (.inl (ch.withStream fun s => s.advance (min (tmp + 4) s.readable.length)).messageReady)
        else
          readChunk (ch.withStream fun s =>
            { s.advance (tmp + 2) with chunkSize := cInt chunksize, chunkReadSize := 0 })
      else .inr (.inl { ch.withStream (·.reset) with body := [] })) := by
  cases chunks with
  | nil =>
    obtain ⟨rfl, r, hreadable, hr⟩ := line_of_strstr hlast hbytes hfound
    have hzero : strtol16 ch.inputStream.readable = 0 := by rw [hreadable, hlast.strtol16 (by decide)]; rfl
    have hvalid : (0 : ℤ) ≤ 0 ∧ (0 : ℤ) ≠ LONG_MAX := by decide
    simp only [hzero, hvalid, ↓reduceIte]
    refine ⟨fun ch' h => (by cases h), fun ch' h => ?_, fun ch' h => by cases h⟩
    cases h
    exact receiving_lastChunk hmsg (by rw [hcontent]; simp) hway hreadable hr
  | cons c chunks =>
    obtain ⟨hc, hlt⟩ := hchunks c mem_cons_self
    simp only [flatMap_cons, Chunk.bytes, append_assoc] at hbytes hcontent
    obtain ⟨rfl, r, hreadable, hr⟩ := line_of_strstr hc.size hbytes hfound
    have hsize : strtol16 ch.inputStream.readable = c.data.length := by rw [hreadable, hc.size.strtol16 hlt]
    have hpos := length_pos_iff.mpr hc.data
    have hvalid : (0 : ℤ) ≤ c.data.length ∧ (c.data.length : ℤ) ≠ LONG_MAX := by
      simp only [LONG_MAX]
      omega
    have hnonzero : (c.data.length : ℤ) ≠ 0 := by omega
    have hdrop : ch.inputStream.readable.drop (c.size.length + 2) = r := by
      rw [hreadable, ← append_assoc, drop_left' (by simp [crlf])]
    dsimp only
    rw [hsize, if_pos hvalid, if_neg hnonzero, cInt_of_lt hlt]
    obtain ⟨hnext, hstop⟩ := @readChunk_spec _ parser all rest bytes m ms
      (ch.withStream fun s => { s.advance (c.size.length + 2) with
        chunkSize := (c.data.length : ℤ), chunkReadSize := 0 }) _ _ _ hstate hmsg hchunked ⟨hway.coming, hway.all⟩
      hc.data (Int.le_refl 0) (by simp [withStream]) (fun c hc => hchunks c (mem_cons_of_mem _ hc)) hlast
      (by simpa [withStream, advance, hdrop] using hr) hcontent
    exact ⟨hnext, fun ch' h => absurd h readChunk_ne_continue, hstop⟩

lemma chunkIteration_spec (h : ReceivingChunks parser all rest bytes m ms ch) :
    ChunkFlow parser all rest bytes m ms (chunkIteration ch) := by
  obtain ⟨hstate, hmsg, hchunked, hbody, hway⟩ := h
  cases hbody with
  | @inside left last chunks hleft hread hsize hchunks hlast hbytes hcontent =>
    have hne : ch.inputStream.chunkSize ≠ -1 := by omega
    obtain ⟨hnext, hstop⟩ :=
      readChunk_spec hstate hmsg hchunked hway hleft hread hsize hchunks hlast hbytes hcontent
    simp only [chunkIteration, hne, ↓reduceIte]
    exact ⟨hnext, fun ch' h => absurd h readChunk_ne_continue, hstop⟩
  | @boundary sep last chunks hsize hsep hchunks hlast hbytes hcontent =>
    obtain ⟨d, l, hlines, hd⟩ := @chunks_head _ _ (crlf ++ (crlf ++ bytes)) (fun c hc => (hchunks c hc).1) hlast
    rw [hlines] at hbytes
    obtain ⟨sep', hsep', hbytes', hfound⟩ := skipCrlf_spec hd hsep hbytes
    rw [← hlines] at hbytes'
    simp only [chunkIteration, hsize, ↓reduceIte]
    -- the channel once the CR LF is skipped
    generalize hskip : (ch.withStream fun s => s.advance (skipCrlf s.readable)) = skipped
    have hreadable : skipped.inputStream.readable =
        ch.inputStream.readable.drop (skipCrlf ch.inputStream.readable) := by rw [← hskip]; rfl
    rw [← hreadable] at hbytes' hfound
    have hparts : skipped.inputStream.state = ch.inputStream.state ∧ skipped.inputStream.msg = ch.inputStream.msg ∧
        skipped.inputStream.chunckedMode = ch.inputStream.chunckedMode ∧
        skipped.inputStream.chunkSize = ch.inputStream.chunkSize ∧ skipped.body = ch.body ∧
        skipped.incomingMessages = ch.incomingMessages := by
      rw [← hskip]
      exact ⟨rfl, rfl, rfl, rfl, rfl, rfl⟩
    obtain ⟨hstate', hmsg', hchunked', hsize', hbody', hincoming⟩ := hparts
    have hway' : UnderWay parser all bytes m ms skipped := ⟨hway.coming, hincoming ▸ hway.all⟩
    rw [← hbody'] at hcontent
    cases hstr : strstr crlf skipped.inputStream.readable with
    | some tmp =>
      obtain rfl := hfound tmp hstr
      exact chunkLine_spec (hstate'.trans hstate) (hmsg'.trans hmsg) (hchunked'.trans hchunked) hway' hchunks hlast
        hbytes' hcontent hstr
    | none =>
      refine ⟨fun ch' h => (by cases h), fun ch' h => (by cases h), fun ch' h => ?_⟩
      cases h
      have hnext : ReceivingChunks parser all rest bytes m ms skipped :=
        ⟨hstate'.trans hstate, hmsg'.trans hmsg, hchunked'.trans hchunked,
          .boundary (hsize'.trans hsize) hsep' hchunks hlast hbytes' hcontent, hway'⟩
      refine hnext.waits ?_
      -- the line would be whole
      rintro rfl
      rw [append_nil] at hbytes'
      rw [hbytes'] at hstr
      obtain rfl | rfl := hsep'
      · obtain ⟨n, hn⟩ := @strstr_chunks _ _ (crlf ++ bytes) (fun c hc => (hchunks c hc).1) hlast
        rw [nil_append, hn] at hstr
        cases hstr
      · rw [strstr_append (s := crlf) (p := 0) (by decide)] at hstr
        cases hstr

/-! ### The iterations of `parseStream` -/

/-- Where the loop of `parseStream` goes from a channel. -/
structure ParseFlow (parser : MessageParser M) (all : List (M × Bytes)) (rest : Bytes)
    (result : Channel M ⊕ Channel M) : Prop where
  next : ∀ ch', result = .inl ch' → Receiving parser all rest ch'
  stop : ∀ ch', result = .inr ch' → Waits parser all rest ch'

lemma acquireBody_chunks (h : ReceivingChunks parser all rest bytes m ms ch) :
    ParseFlow parser all rest (acquireBody ch) := by
  have hrun : ParseFlow parser all rest (chunkLoop.run ch) :=
    chunkLoop.run_rule h (fun _ ht hstep => (chunkIteration_spec ht).next _ hstep) fun _ ht hstep =>
      ⟨fun ch' hr => (chunkIteration_spec ht).continue_ ch' (hr ▸ hstep),
        fun ch' hr => (chunkIteration_spec ht).stop ch' (hr ▸ hstep)⟩
  rwa [acquireBody, h.chunked, if_pos rfl]

lemma acquireBody_plain {left : Bytes} (hstate : ch.inputStream.state = .bodyAquisition)
    (hmsg : ch.inputStream.msg = some m.parsed) (hbody : PlainComing rest bytes m.body.content left ch)
    (hway : UnderWay parser all bytes m ms ch) : ParseFlow parser all rest (acquireBody ch) := by
  obtain ⟨hnext, hstop⟩ := acquireBodySimple_spec hstate hmsg hbody hway
  rw [acquireBody, hbody.notChunked, if_neg Bool.false_ne_true]
  exact ⟨hnext, hstop⟩

lemma checkBody_plain {content : Bytes} {msg : M}
    (hlength : ((parser.contentLength msg).map Int32.toInt).getD 0 = content.length)
    (hplain : ¬ (parser.isHttp msg ∧ parser.hasContentType msg ∧ isChunked parser msg)) :
    content.length < 2 ^ 64 ∧ checkBody parser ch msg =
      (decide (0 < content.length) || (parser.isHttp msg && parser.hasContentType msg),
        { ch.withStream fun s => { s with contentLength := content.length } with body := [] }) := by
  obtain ⟨hlt, hsize⟩ : content.length < 2 ^ 31 ∧ announcedLength parser msg = content.length := by
    unfold announcedLength
    cases hn : parser.contentLength msg with
    | some n =>
      have hmax := n.toInt_lt
      simp only [hn, map_some, getD_some] at hlength
      simp only [hlength, sizeT]
      omega
    | none =>
      simp only [hn, map_none, getD_none] at hlength
      dsimp only
      omega
  have hhttp : (parser.isHttp msg && parser.hasContentType msg && isChunked parser msg) = false := by
    simpa [and_assoc] using hplain
  refine ⟨by omega, ?_⟩
  simp only [checkBody, hsize, hhttp, Bool.false_eq_true, ↓reduceIte]

lemma checkBody_chunked {msg : M} (hchunked : parser.isHttp msg ∧ parser.hasContentType msg ∧ isChunked parser msg) :
    ∃ ch', checkBody parser ch msg = (true, ch') ∧ ch'.inputStream.msg = ch.inputStream.msg ∧
      ch'.inputStream.readable = ch.inputStream.readable ∧ ch'.inputStream.chunckedMode = true ∧
      ch'.inputStream.chunkSize = -1 ∧ ch'.body = [] ∧ ch'.incomingMessages = ch.incomingMessages := by
  obtain ⟨hhttp, htype, hcoding⟩ := hchunked
  refine ⟨(checkBody parser ch msg).2, Prod.ext ?_ rfl, ?_⟩
  · simp [checkBody, hhttp, htype]
  · simp [checkBody, hhttp, htype, hcoding, withStream]

/-- The headers are read when their blank line is there. -/
lemma headers_of_strstr {pos : ℕ} (hm : m.WellFormed parser)
    (hbytes : ch.inputStream.readable ++ rest = m.bytes ++ bytes)
    (hfound : strstr (crlf ++ crlf) ch.inputStream.readable = some pos) :
    pos + 4 = m.headers.length ∧ ch.inputStream.readable.take (pos + 4) = m.headers ∧
      ch.inputStream.readable.drop m.headers.length ++ rest = m.body.bytes ++ bytes := by
  rw [Message.bytes, append_assoc] at hbytes
  have hheaders := add_length_le_of_strstr hm.blankLine
  have hpos : pos = m.headers.length - 4 := strstr_append_eq hfound (hbytes ▸ strstr_append hm.blankLine)
  have hle := add_length_le_of_strstr hfound
  have hfour : (crlf ++ crlf).length = 4 := rfl
  obtain ⟨htake, hdrop⟩ := take_drop_of_append_eq (k := m.headers.length) hbytes (by omega) le_rfl
  rw [take_length] at htake
  rw [drop_length, nil_append] at hdrop
  have hlen : pos + 4 = m.headers.length := by omega
  exact ⟨hlen, hlen ▸ htake, hdrop⟩

lemma acquireMessage_spec (hstate : ch.inputStream.state = .messageAquisition)
    (hchunked : ch.inputStream.chunckedMode = false) (hm : m.WellFormed parser) (hlimits : m.WithinChunkLimits)
    (hbytes : ch.inputStream.readable ++ rest = m.bytes ++ bytes) (hway : UnderWay parser all bytes m ms ch) :
    ParseFlow parser all rest ((acquireMessage parser ch).bind acquireBody) := by
  cases hfound : strstr (crlf ++ crlf) ch.inputStream.readable with
  | none =>
    have hout : acquireMessage parser ch = .out ch := by simp only [acquireMessage, hfound]
    rw [hout]
    refine ⟨fun ch' h => (by cases h), fun ch' h => ?_⟩
    cases h
    refine ⟨.message hstate hchunked hm hlimits hbytes hway, ?_⟩
    rintro rfl
    rw [append_nil, Message.bytes, append_assoc] at hbytes
    rw [hbytes, strstr_append hm.blankLine] at hfound
    cases hfound
  | some pos =>
    obtain ⟨hpos, htake, hdrop⟩ := headers_of_strstr hm hbytes hfound
    have hpositive : 0 < m.headers.length := by omega
    -- the channel once the headers are read
    generalize hparsed : (ch.withStream fun s => { s.advance m.headers.length with msg := some m.parsed }) = parsed
    have hparts : parsed.inputStream.msg = some m.parsed ∧ parsed.inputStream.chunckedMode = false ∧
        parsed.incomingMessages = ch.incomingMessages ∧
        parsed.inputStream.readable = ch.inputStream.readable.drop m.headers.length := by
      rw [← hparsed]
      exact ⟨rfl, hchunked, rfl, rfl⟩
    obtain ⟨hmsg, hmode, hincoming, hreadable⟩ := hparts
    rw [← hreadable] at hdrop
    have hacquire {expected : Bool} {checked : Channel M}
        (hchecked : checkBody parser parsed m.parsed = (expected, checked)) :
        acquireMessage parser ch =
          if expected then .on (checked.withStream fun s => { s with state := .bodyAquisition })
          else .again checked.messageReady := by
      cases expected <;>
        simp [acquireMessage, hfound, htake, hm.parse, hpositive, hparsed, hchecked]
    have hannounced := hm.body
    unfold Message.BodyAnnounced at hannounced
    unfold Message.WithinChunkLimits at hlimits
    cases hbody : m.body with
    | plain content =>
      simp only [hbody] at hannounced
      obtain ⟨hlt, hcheck⟩ := @checkBody_plain _ _ parsed _ _ hannounced.1 hannounced.2
      rw [hacquire hcheck]
      simp only [hbody, Body.bytes] at hdrop
      have hcontent : m.body.content = content := by rw [hbody]; rfl
      cases hexpect : (decide (0 < content.length) || (parser.isHttp m.parsed && parser.hasContentType m.parsed)) with
      | true =>
        refine @acquireBody_plain _ _ _ _ bytes m ms _ content rfl hmsg ?_
          ⟨hway.coming, hincoming ▸ hway.all⟩
        refine ⟨hmode, ?_, ?_, ?_, hdrop⟩
        · rw [hcontent]
          rfl
        · rwa [hcontent]
        · rw [hcontent]
          rfl
      | false =>
        refine ⟨fun ch' h => ?_, fun ch' h => by cases h⟩
        cases h
        simp only [Bool.or_eq_false_iff, decide_eq_false_iff_not] at hexpect
        obtain rfl : content = [] := length_eq_zero_iff.mp (by omega)
        rw [nil_append] at hdrop
        refine @receiving_messageReady _ _ _ _ m ms _ hmsg ?_ ?_ (hincoming ▸ hway.all)
        · exact hdrop ▸ hway.coming
        · rw [hcontent]
    | chunked chunks last trailer =>
      simp only [hbody] at hannounced hlimits
      obtain ⟨hcoding, hchunks, hlast, -⟩ := hannounced
      obtain ⟨rfl, hsmall⟩ := hlimits
      obtain ⟨ch₂, hcheck, hmsg₂, hreadable₂, hmode₂, hsize₂, hbody₂, hincoming₂⟩ :=
        @checkBody_chunked _ _ parsed _ hcoding
      rw [hacquire hcheck]
      simp only [hbody, Body.bytes, append_assoc, nil_append] at hdrop
      refine @acquireBody_chunks _ _ _ _ bytes m ms _ ⟨rfl, hmsg₂.trans hmsg, hmode₂, ?_, ⟨hway.coming, ?_⟩⟩
      · refine .boundary hsize₂ (.inl rfl) (fun c hc => ⟨hchunks c hc, hsmall c hc⟩) hlast ?_ ?_
        · rw [nil_append, ← hdrop, ← hreadable₂]
          rfl
        · rw [hbody]
          exact congrArg (· ++ chunks.flatMap Chunk.data) hbody₂.symm
      · rw [hway.all, ← hincoming, ← hincoming₂]
        rfl

lemma Coming.eq_nil (h : Coming parser [] ms) : ms = [] := by
  generalize hl : ([] : Bytes) = l at h
  cases h with
  | done => rfl
  | message _ hm =>
    obtain ⟨c, r, hbytes, -⟩ := Message.bytes_head hm
    rw [hbytes] at hl
    simp at hl

lemma ChunksComing.ne_nil {content : Bytes} (h : ChunksComing rest bytes content ch) :
    ch.inputStream.readable ++ rest ≠ [] := by
  intro hnil
  cases h with
  | boundary _ _ hchunks hlast hbytes =>
    obtain ⟨d, l, hlines, -⟩ := @chunks_head _ _ (crlf ++ (crlf ++ bytes)) (fun c hc => (hchunks c hc).1) hlast
    rw [hnil, hlines] at hbytes
    simp at hbytes
  | inside hleft _ _ _ _ hbytes =>
    rw [hnil] at hbytes
    exact hleft (append_eq_nil_iff.mp hbytes.symm).1

/-- Nothing is missing when all the bytes are read and none is left in the buffer. -/
lemma Receiving.incomingMessages_eq (h : Receiving parser all rest ch)
    (hnil : ch.inputStream.readable ++ rest = []) : ch.incomingMessages = all := by
  cases h with
  | waiting _ _ _ hcoming hall =>
    rw [hnil] at hcoming
    simp [hall, hcoming.eq_nil]
  | message _ _ hm _ hbytes _ =>
    obtain ⟨c, r, hhead, -⟩ := Message.bytes_head hm
    rw [hnil, hhead] at hbytes
    cases hbytes
  | plain _ _ hbody hleft _ =>
    have hbytes := hbody.bytes
    rw [hnil] at hbytes
    exact absurd (append_eq_nil_iff.mp hbytes.symm).1 hleft
  | chunked _ _ _ hbody _ => exact absurd hnil hbody.ne_nil

lemma Receiving.incomingMessages_prefix (h : Receiving parser all rest ch) : ch.incomingMessages <+: all := by
  cases h with
  | waiting _ _ _ _ hall => exact ⟨_, hall.symm⟩
  | message _ _ _ _ _ hway | plain _ _ _ _ hway | chunked _ _ _ _ hway => exact ⟨_, hway.all.symm⟩

/-- At the top of the buffer the bytes that the search goes on over are those that it has trashed. -/
lemma trash_eq (i : ℕ) (htop : ch.inputStream.consumed = [])
    (hpos : getMessageStartPos ch.inputStream.readable = none) :
    ch.trash i = ch.withStream fun s => (s.advance s.readable.length).reset := by
  simp [trash, htop, hpos]

/-- What the search leaves in the buffer, when it discards only CR and LF bytes, is a message or nothing. -/
lemma waitMessageStart_spec (hstate : ch.inputStream.state = .waitingMessageStart)
    (htop : ch.inputStream.consumed = []) (hchunked : ch.inputStream.chunckedMode = false)
    (hcoming : Coming parser (ch.inputStream.readable ++ rest) ms)
    (hall : all = ch.incomingMessages ++ ms.map Message.delivered) (hkeeps : ch.DiscardsEol) :
    ParseFlow parser all rest
      ((waitMessageStart ch).bind fun ch => (acquireMessage parser ch).bind acquireBody) := by
  have hreceiving : Receiving parser all rest ch := .waiting hstate htop hchunked hcoming hall
  by_cases hsearches : searches ch.inputStream
  · have heol : ∀ c ∈ discarded ch.inputStream, isEol c := by
      intro c hc
      simpa [isEol] using hkeeps hstate hsearches c hc
    simp only [waitMessageStart, hsearches, ↓reduceIte]
    cases hpos : getMessageStartPos ch.inputStream.readable with
    | none =>
      simp only [discarded, hpos, getD_none, take_length] at heol
      refine ⟨fun ch' h => (by cases h), fun ch' h => ?_⟩
      rw [trash_eq _ htop hpos] at h
      cases h
      have hreset : Receiving parser all rest
          (ch.withStream fun s => (s.advance s.readable.length).reset) := by
        refine .waiting rfl rfl rfl ?_ hall
        simpa [withStream, advance, reset, rewind] using
          hcoming.of_sep_append heol
      refine ⟨hreset, fun hrest => hreset.incomingMessages_eq ?_⟩
      simp [hrest, withStream, advance, reset, rewind]
    | some offset =>
      simp only [discarded, hpos, getD_some] at heol
      obtain ⟨hlt, hhead⟩ := getMessageStartPos_some hpos
      obtain ⟨m, bytes, ms, rfl, hm, hlimits, hdrop, hafter⟩ := hcoming.drop_eol (j := offset)
        (by rw [length_append]; omega)
        (by simpa [getD_eq_getElem?_getD, getElem?_append_left hlt] using hhead)
        (by rwa [take_append_of_le_length hlt.le])
      rw [drop_append_of_le_length hlt.le] at hdrop
      exact acquireMessage_spec rfl hchunked hm hlimits hdrop ⟨hafter, hall⟩
  · simp only [waitMessageStart, hsearches, Bool.false_eq_true, ↓reduceIte]
    refine ⟨fun ch' h => (by cases h), fun ch' h => ?_⟩
    cases h
    refine ⟨hreceiving, ?_⟩
    -- the CR LF of a start line would be there
    rintro rfl
    rw [append_nil] at hcoming
    generalize hl : ch.inputStream.readable = l at hcoming
    cases hcoming with
    | done => simp [hall]
    | @message sep bytes m ms _ hm =>
      have hcrlf : hasCrlf ch.inputStream.readable = true := by
        have happend := hasCrlf_append (sep ++ m.startLine) (m.fields ++ m.body.bytes ++ bytes)
        simpa [hl, Message.bytes, Message.headers] using happend
      exact absurd (by simp [searches, hcrlf]) hsearches

lemma parseIteration_spec (h : Receiving parser all rest ch) (hkeeps : ch.DiscardsEol) :
    ParseFlow parser all rest (parseIteration parser ch) := by
  by_cases hreadable : ch.inputStream.readable = []
  · rw [parseIteration, if_pos hreadable]
    refine ⟨fun ch' h => (by cases h), fun ch' hout => ?_⟩
    cases hout
    exact ⟨h, fun hrest => h.incomingMessages_eq (by rw [hreadable, hrest]; rfl)⟩
  · cases h with
    | waiting hstate htop hchunked hcoming hall =>
      simp only [parseIteration, hreadable, ↓reduceIte, hstate]
      exact waitMessageStart_spec hstate htop hchunked hcoming hall hkeeps
    | message hstate hchunked hm hlimits hbytes hway =>
      simp only [parseIteration, hreadable, ↓reduceIte, hstate]
      exact acquireMessage_spec hstate hchunked hm hlimits hbytes hway
    | plain hstate hmsg hbody _ hway =>
      simp only [parseIteration, hreadable, ↓reduceIte, hstate]
      exact acquireBody_plain hstate hmsg hbody hway
    | chunked hstate hmsg hchunked hbody hway =>
      simp only [parseIteration, hreadable, ↓reduceIte, hstate]
      exact acquireBody_chunks ⟨hstate, hmsg, hchunked, hbody, hway⟩

/-- What is missing is still to come after a read. -/
lemma waits_processReadData {data : Bytes} (h : Receiving parser all (data ++ rest) ch)
    (hkeeps : ∀ t, (parseLoop parser).Visits (ch.append data) t → t.DiscardsEol) :
    Waits parser all rest (ch.processReadData parser data) := by
  have happend : Receiving parser all rest (ch.append data) := by
    have hassoc : (ch.append data).inputStream.readable ++ rest = ch.inputStream.readable ++ (data ++ rest) :=
      append_assoc _ _ _
    cases h with
    | waiting hstate htop hchunked hcoming hall => exact .waiting hstate htop hchunked (hassoc ▸ hcoming) hall
    | message hstate hchunked hm hlimits hbytes hway =>
      exact .message hstate hchunked hm hlimits (hassoc.trans hbytes) ⟨hway.coming, hway.all⟩
    | plain hstate hmsg hbody hleft hway =>
      exact .plain hstate hmsg ⟨hbody.notChunked, hbody.length, hbody.lt, hbody.content, hassoc.trans hbody.bytes⟩
        hleft ⟨hway.coming, hway.all⟩
    | chunked hstate hmsg hchunked hbody hway =>
      refine .chunked hstate hmsg hchunked ?_ ⟨hway.coming, hway.all⟩
      cases hbody with
      | boundary hsize hsep hchunks hlast hbytes hcontent =>
        exact .boundary hsize hsep hchunks hlast (hassoc.trans hbytes) hcontent
      | inside hleft hread hsize hchunks hlast hbytes hcontent =>
        exact .inside hleft hread hsize hchunks hlast (hassoc.trans hbytes) hcontent
  exact (parseLoop parser).run_rule happend
    (fun hv ht hstep => (parseIteration_spec ht (hkeeps _ hv)).next _ hstep)
    (fun hv ht hstep => (parseIteration_spec ht (hkeeps _ hv)).stop _ hstep)

lemma waits_run {reads : List Bytes} (hrun : Run parser DiscardsEol ch reads ch')
    (h : Waits parser all (reads.flatten ++ rest) ch) : Waits parser all rest ch' := by
  induction hrun with
  | nil => exact h
  | read _ _ hvisits _ ih =>
    rw [flatten_cons, append_assoc] at h
    exact ih (waits_processReadData h.1 hvisits)

/-- However the stream is cut, the messages and the bodies that come out are the first ones that were sent, and all of
them when all the stream is read. -/
theorem incomingMessages_of_run {sent : List (ℕ × Message M)} {n : ℕ} {reads : List Bytes} {rest : Bytes}
    (hsent : ∀ x ∈ sent, x.2.WellFormed parser ∧ x.2.WithinChunkLimits)
    (hreads : reads.flatten ++ rest = stream sent n) (hrun : Run parser DiscardsEol {} reads ch) :
    ch.incomingMessages <+: sent.map (·.2.delivered) ∧
      (rest = [] → ch.incomingMessages = sent.map (·.2.delivered)) := by
  have hcoming := coming_stream (n := n) hsent
  rw [← hreads] at hcoming
  have hstart : Receiving parser (sent.map (·.2.delivered)) (reads.flatten ++ rest) ({} : Channel M) := by
    refine .waiting rfl rfl rfl hcoming ?_
    simp [Function.comp_def]
  have hwaits : Waits parser (sent.map (·.2.delivered)) (reads.flatten ++ rest) ({} : Channel M) :=
    ⟨hstart, fun hnil => hstart.incomingMessages_eq hnil⟩
  obtain ⟨hend, hall⟩ := waits_run hrun hwaits
  exact ⟨hend.incomingMessages_prefix, hall⟩

end

/-! ### A request -/

instance : DecidablePred (DiscardsEol (M := M)) :=
  fun _ => inferInstanceAs (Decidable (_ → _ → ∀ _ ∈ _, _))

/-- A parser that keeps the headers as they are, in a SIP message without a body. -/
def rawParser : MessageParser Bytes where
  parseRaw block := (some block, block.length)
  contentLength _ := none
  isHttp _ := false
  hasContentType _ := false
  transferEncoding _ := none

def optionsLine : Bytes :=
  bytes ['O', 'P', 'T', 'I', 'O', 'N', 'S', ' ', 's', 'i', 'p', ':', 'a', ' ', 'S', 'I', 'P', '/', '2', '.', '0']

def optionsFields : Bytes := bytes ['T', 'o', ':', 's', 'i', 'p', ':', 'a'] ++ crlf ++ crlf

def optionsMessage : Message Bytes where
  startLine := optionsLine
  fields := optionsFields
  parsed := optionsLine ++ crlf ++ optionsFields
  body := .plain []

lemma optionsMessage_wellFormed : optionsMessage.WellFormed rawParser where
  startLine := @StartLine.request (bytes ['O', 'P', 'T', 'I', 'O', 'N', 'S']) (bytes ['s', 'i', 'p', ':', 'a'])
    (by decide) (by decide) (by decide) (by decide +kernel)
  blankLine := by decide
  parse := rfl
  body := ⟨rfl, by decide⟩

lemma Channel.Run.read_result {P : Channel M → Prop} {ch ch' t : Channel M} {data : Bytes}
    {reads : List Bytes} (hdata : data ≠ []) (hfits : data.length < ch.inputStream.freeLength)
    (hP : P (ch.append data)) (hlast : parseIteration parser (ch.append data) = .inr t)
    (hrun : Run parser P t reads ch') : Run parser P ch (data :: reads) ch' := by
  refine .read hdata hfits (fun u hu => ?_) ?_
  · rwa [Loop.visits_of_result hlast hu]
  · rwa [processReadData, parseStream, Loop.run_of_result hlast]

lemma Channel.Run.read_next {P : Channel M → Prop} {ch ch' t u : Channel M} {data : Bytes}
    {reads : List Bytes} (hdata : data ≠ []) (hfits : data.length < ch.inputStream.freeLength)
    (hP : P (ch.append data)) (hnext : parseIteration parser (ch.append data) = .inl t) (hPt : P t)
    (hlast : parseIteration parser t = .inr u) (hrun : Run parser P u reads ch') :
    Run parser P ch (data :: reads) ch' := by
  refine .read hdata hfits (fun v hv => ?_) ?_
  · obtain rfl | hv := Loop.visits_of_next hnext hv
    · exact hP
    · rwa [Loop.visits_of_result hlast hv]
  · rwa [processReadData, parseStream, Loop.run_of_next hnext, Loop.run_of_result hlast]

def optionsReceived : Channel Bytes :=
  { incomingMessages := [optionsMessage.delivered] }

/-- A keep-alive, a part of the start line and the rest of the message. -/
theorem incomingMessages_of_run_options :
    (∀ x ∈ [(1, optionsMessage)], x.2.WellFormed rawParser ∧ x.2.WithinChunkLimits) ∧
      optionsReceived.incomingMessages <+: [optionsMessage.delivered] ∧
      (([] : Bytes) = [] → optionsReceived.incomingMessages = [optionsMessage.delivered]) := by
  have hsent : ∀ x ∈ [(1, optionsMessage)], x.2.WellFormed rawParser ∧ x.2.WithinChunkLimits := by
    intro x hx
    rw [mem_singleton.mp hx]
    exact ⟨optionsMessage_wellFormed, trivial⟩
  have hrun : Run rawParser DiscardsEol {}
      [crlf, optionsLine.take 9, optionsLine.drop 9 ++ crlf ++ optionsFields] optionsReceived :=
    .read_result (by decide) (by decide) (by decide +kernel) (t := {}) (by decide) <|
      .read_result (by decide) (by decide) (by decide) (t := ({} : Channel Bytes).append (optionsLine.take 9))
        (by decide) <|
      .read_next (by decide) (by decide) (by decide +kernel) (t := optionsReceived) (by decide) (by decide +kernel)
        (u := optionsReceived) (by decide) .nil
  exact ⟨hsent, incomingMessages_of_run (n := 0) hsent (by decide) hrun⟩

/-- A read ends in the start line that a keep-alive precedes: the message is lost. -/
theorem not_incomingMessages_of_run :
    ¬ ∀ (sent : List (ℕ × Message Bytes)) (n : ℕ) (reads : List Bytes) (ch : Channel Bytes),
      (∀ x ∈ sent, x.2.WellFormed rawParser) → reads.flatten = stream sent n →
      Run rawParser (fun _ => True) {} reads ch → ch.incomingMessages = sent.map (·.2.delivered) := by
  intro h
  have hrun : Run rawParser (fun _ => True) {}
      [crlf ++ crlf ++ optionsLine.take 7, optionsLine.drop 7 ++ crlf ++ optionsFields] {} :=
    .read_result (by decide) (by decide) trivial (t := {}) (by decide) <|
      .read_result (by decide) (by decide) trivial (t := {}) (by decide) .nil
  have hnone := h [(2, optionsMessage)] 0 _ _ (fun x hx => mem_singleton.mp hx ▸ optionsMessage_wellFormed)
    (by decide) hrun
  cases hnone

end BelleSip
