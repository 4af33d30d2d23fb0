import LinphoneSdk.Stun.Attributes

/-!
# What the decoder reads

The decoder reads inside a message whose attributes are complete. The sizes that it does not check are the length of
an address, which must be the one of its family, the length of a flag, and what is left before the header of an
attribute or its padding.
-/

namespace Stun

open Bytes Exec Reading StunMessageDecoder List AttributeType

/-! ### Sizes -/

def fixedSize (value : Bytes) : AttributeType → Option ℕ
  | .mappedAddress | .responseAddress | .sourceAddress | .changedAddress | .xorMappedAddress | .xorPeerAddress
  | .xorRelayedAddress => some (if value.getD 1 0 = MS_STUN_ADDR_FAMILY_IPV6 then 20 else 8)
  | .changeRequest | .fingerprint | .priority | .lifetime | .channelNumber | .requestedAddressFamily
  | .requestedTransport => some 4
  | .messageIntegrity => some 20
  | .useCandidate => some 0
  | .iceControlled | .iceControlling => some 8
  | .username | .password | .errorCode | .data | .realm | .nonce | .software => none

def Attribute.Sized (a : Attribute) : Prop :=
  ∀ type, ofCode a.type = some type → ∀ n, fixedSize a.value type = some n → a.value.length = n

lemma ofCode_eq_some {type : UInt16} {a : AttributeType} (h : ofCode type = some a) : type = a.code := by
  have hcode : a.code = type := by simpa using find?_some h
  exact hcode.symm

def Refuses (type length : UInt16) : Prop :=
  match ofCode type with
  | some .mappedAddress | some .responseAddress | some .sourceAddress | some .changedAddress
  | some .xorMappedAddress | some .xorPeerAddress | some .xorRelayedAddress => length ≠ 8 ∧ length ≠ 20
  | some .changeRequest | some .fingerprint | some .priority | some .lifetime => length ≠ 4
  | some .iceControlled | some .iceControlling => length ≠ 8
  | some .username | some .password => STUN_MAX_USERNAME_LENGTH < length.toNat
  | some .software => STUN_MAX_SOFTWARE_LENGTH < length.toNat
  | some .realm => STUN_MAX_REALM_LENGTH < length.toNat
  | some .nonce => STUN_MAX_NONCE_LENGTH < length.toNat
  | some .errorCode => length.toNat < 4 ∨ STUN_MAX_REASON_LENGTH + 4 < length.toNat
  | some .messageIntegrity | some .useCandidate | some .data => False
  | some .channelNumber | some .requestedAddressFamily | some .requestedTransport | none => type ≤ 0x7FFF

/-- A message integrity whose length is wrong is a null pointer. -/
def Dangles (type length : UInt16) : Prop := type = messageIntegrity.code ∧ length ≠ 20

/-- The number of bytes that the decoder takes of those after the header of an attribute. -/
def taken (type length : UInt16) (l : Bytes) : ℕ :=
  ((ofCode type).bind (fixedSize (l.take length.toNat))).getD length.toNat

section sizes

variable {type length : UInt16} {l : Bytes} {msg : MSStunMessage}

lemma getD_take_family (h : ¬ (length ≠ 8 ∧ length ≠ 20)) : (l.take length.toNat).getD 1 0 = l.getD 1 0 := by
  have hlt : 1 < length.toNat := by
    rw [not_and_or, not_not, not_not] at h
    rcases h with rfl | rfl <;> decide
  exact getD_take_of_lt hlt l

lemma exists_addrOf (h : ¬ (length ≠ 8 ∧ length ≠ 20)) : ∃ addr, addrOf length l =
    .took (if (l.take length.toNat).getD 1 0 = MS_STUN_ADDR_FAMILY_IPV6 then 20 else 8) addr := by
  rw [addrOf, if_neg h, getD_take_family h]
  split_ifs with hfamily
  · exact ⟨_, rfl⟩
  · exact ⟨_, rfl⟩

/-- What an attribute does depends on its type, its length and the family of an address. -/
inductive Does (type length : UInt16) (l : Bytes) : Outcome MSStunMessage → Prop
  | refused : Refuses type length → Does type length l .refused
  | nullPointer : ¬ Refuses type length → Dangles type length → Does type length l .nullPointer
  | took {n : ℕ} (msg : MSStunMessage) : ¬ Refuses type length → ¬ Dangles type length → n = taken type length l →
    Does type length l (.took n msg)

lemma does_checked {α : Type} {o : Outcome α} {f : α → MSStunMessage} {c : Prop} [Decidable c]
    (hrefuses : Refuses type length ↔ c) (hdangles : ¬ Dangles type length)
    (ho : ¬ c → ∃ n a, o = .took n a ∧ n = taken type length l) :
    Does type length l ((if c then .refused else o).map f) := by
  split_ifs with h
  · exact .refused (hrefuses.mpr h)
  · obtain ⟨n, a, rfl, hn⟩ := ho h
    exact .took _ (mt hrefuses.mp h) hdangles hn

lemma not_dangles {a : AttributeType} (h : ofCode type = some a) (ha : a ≠ .messageIntegrity) :
    ¬ Dangles type length := by
  rintro ⟨rfl, -⟩
  rw [ofCode_code, Option.some.injEq] at h
  exact ha h.symm

lemma does_attributeOf (msg : MSStunMessage) (type length : UInt16) (l : Bytes) :
    Does type length l (attributeOf msg type length l) := by
  have htaken {a : AttributeType} (h : ofCode type = some a) :
      taken type length l = (fixedSize (l.take length.toNat) a).getD length.toNat := by
    rw [taken, h]
    rfl
  rw [attributeOf]
  cases hcode : ofCode type with
  | none =>
    have hrefuses : Refuses type length ↔ type ≤ 0x7FFF := by rw [Refuses, hcode]
    have hdangles : ¬ Dangles type length := by
      rintro ⟨rfl, -⟩
      cases hcode
    have hn : taken type length l = length.toNat := by
      rw [taken, hcode]
      rfl
    simp only
    split_ifs with h
    · exact .refused (hrefuses.mpr h)
    · exact .took msg (mt hrefuses.mp h) hdangles hn.symm
  | some a =>
    have hn := htaken hcode
    cases a with
    | mappedAddress | responseAddress | sourceAddress | changedAddress | xorMappedAddress | xorPeerAddress
    | xorRelayedAddress =>
      have hrefuses : Refuses type length ↔ length ≠ 8 ∧ length ≠ 20 := by rw [Refuses, hcode]
      by_cases h : length ≠ 8 ∧ length ≠ 20
      · simp only [addrOf, if_pos h]
        exact .refused (hrefuses.mpr h)
      · obtain ⟨addr, haddr⟩ := exists_addrOf (l := l) h
        simp only [haddr]
        exact .took _ (mt hrefuses.mp h) (not_dangles hcode (by rintro ⟨⟩)) hn.symm
    | changeRequest | fingerprint | priority | lifetime =>
      refine does_checked (by rw [Refuses, hcode]) (not_dangles hcode (by rintro ⟨⟩)) fun _ => ⟨_, _, rfl, hn.symm⟩
    | iceControlled | iceControlling =>
      refine does_checked (by rw [Refuses, hcode]) (not_dangles hcode (by rintro ⟨⟩)) fun _ => ⟨_, _, rfl, hn.symm⟩
    | username | password | software | realm | nonce | errorCode =>
      refine does_checked (by rw [Refuses, hcode]) (not_dangles hcode (by rintro ⟨⟩)) fun _ => ⟨_, _, rfl, hn.symm⟩
    | messageIntegrity =>
      obtain rfl := ofCode_eq_some hcode
      have hrefuses : ¬ Refuses messageIntegrity.code length := by
        rw [Refuses, hcode]
        exact not_false
      simp only [messageIntegrityOf]
      split_ifs with h
      · exact .nullPointer hrefuses ⟨rfl, h⟩
      · exact .took _ hrefuses (fun hdangles => h hdangles.2) hn.symm
    | useCandidate | data =>
      refine .took _ ?_ (not_dangles hcode (by rintro ⟨⟩)) hn.symm
      rw [Refuses, hcode]
      exact not_false
    | channelNumber | requestedAddressFamily | requestedTransport =>
      obtain rfl := ofCode_eq_some hcode
      refine .refused ?_
      rw [Refuses, hcode]
      change code _ ≤ 0x7FFF
      decide

end sizes

/-! ### Careful decoding -/

def headerOf (bytes : Bytes) : MSStunMessage :=
  { MSStunMessage.new0 with
    type := be16At bytes 0 &&& 0x0110
    method := be16At bytes 0 &&& 0x3EEF
    length := be16At bytes 2
    tr_id := bufAt bytes 8 12 }

inductive Says : MSStunMessage → List Attribute → MSStunMessage → Prop
  | nil (msg : MSStunMessage) : Says msg [] msg
  | cons {msg msg' msg'' : MSStunMessage} {a : Attribute} {as : List Attribute} :
    a.Sized → a.read msg = .took a.value.length msg' → Says msg' as msg'' → Says msg (a :: as) msg''

/-- What the decoder promises of any bytes. -/
structure Careful (buf : Block) : Prop where
  terminates : ∀ d, createFromBufferParsing buf ≠ .error .unfinished d ∧ createFromBufferParsing buf ≠ .error .nullPointer d
  inBounds : (final parseMessage (.start buf)).cursor.InBounds
  complete : ∀ msg d, createFromBufferParsing buf = .ok msg d →
    ∃ attributes, buf.bytes.drop STUN_MESSAGE_HEADER_LENGTH = attributes.flatMap Attribute.bytes ∧
      Says (headerOf buf.bytes) attributes msg

/-- The attributes are complete up to the end, or up to one that is refused. After an attribute that did not take its
declared length, `loose`, one has to be refused. -/
inductive Framed : Bool → Bytes → Prop
  | nil : Framed false []
  | tooLong {loose : Bool} {l : Bytes} :
    4 ≤ l.length → l.length < 4 + (be16At l 2).toNat → Framed loose l
  | refused {loose : Bool} {l : Bytes} :
    4 ≤ l.length → Refuses (be16At l 0) (be16At l 2) → Framed loose l
  | cons {loose : Bool} {l : Bytes} {type length : UInt16} {n : ℕ} :
    be16At l 0 = type → be16At l 2 = length → 4 + length.toNat ≤ l.length → ¬ Refuses type length →
    ¬ Dangles type length → taken type length (l.drop 4) = n → 4 + (n + padding length) ≤ l.length →
    Framed (loose || n ≠ length.toNat) (l.drop (4 + (n + padding length))) → Framed loose l

section framed

variable {l : Bytes} {d : StunMessageDecoder} {msg msg' : MSStunMessage} {loose : Bool} {fuel : ℕ}

/-- What the loop promises of the bytes that remain. -/
structure CarefulFrom (msg : MSStunMessage) (loose : Bool) (fuel : ℕ) (l : Bytes) (d : StunMessageDecoder) : Prop where
  terminates : ∀ d', parseAttributes fuel msg d ≠ .error .unfinished d' ∧ parseAttributes fuel msg d ≠ .error .nullPointer d'
  inBounds : (final (parseAttributes fuel msg) d).cursor.InBounds
  complete : ∀ msg' d', parseAttributes fuel msg d = .ok msg' d' → loose = false ∧
    ∃ attributes, l = attributes.flatMap Attribute.bytes ∧ Says msg attributes msg'

lemma parseAttributes_nil (hd : At d []) : parseAttributes (fuel + 1) msg d = .ok msg d := by
  have hget : (get : Decode StunMessageDecoder) d = .ok d d := rfl
  rw [parseAttributes, bind_of_ok hget, if_neg (by simp [hd.remaining_eq])]
  rfl

lemma parseAttributes_cons (hd : At d l) (hl : l ≠ []) :
    parseAttributes (fuel + 1) msg d = (parseAttribute msg >>= parseAttributes fuel) d := by
  have hget : (get : Decode StunMessageDecoder) d = .ok d d := rfl
  have hpos := length_pos_of_ne_nil hl
  rw [parseAttributes, bind_of_ok hget, if_pos (by rw [hd.remaining_eq]; omega)]

lemma carefulFrom_nil (hd : At d []) : CarefulFrom msg loose (fuel + 1) [] d ↔ loose = false := by
  have heq : parseAttributes (fuel + 1) msg d = .ok msg d := parseAttributes_nil hd
  constructor
  · intro h
    exact (h.complete msg d heq).1
  · intro h
    refine ⟨fun d' => ?_, ?_, ?_⟩
    · rw [heq]
      exact ⟨by rintro ⟨⟩, by rintro ⟨⟩⟩
    · rw [final, heq]
      exact hd.inBounds
    · intro msg' d' heq'
      rw [heq] at heq'
      cases heq'
      exact ⟨h, [], rfl, .nil msg⟩

lemma attributeStep_cases (msg : MSStunMessage) (h : 4 ≤ l.length) :
    (attributeStep msg l = .refused ∧ (l.length < 4 + (be16At l 2).toNat ∨ Refuses (be16At l 0) (be16At l 2))) ∨
      4 + (be16At l 2).toNat ≤ l.length ∧ ¬ Refuses (be16At l 0) (be16At l 2) ∧
        (attributeStep msg l = .nullPointer ∧ Dangles (be16At l 0) (be16At l 2) ∨
          ∃ msg', attributeOf msg (be16At l 0) (be16At l 2) (l.drop 4) =
              .took (taken (be16At l 0) (be16At l 2) (l.drop 4)) msg' ∧
            attributeStep msg l = .took (4 + (taken (be16At l 0) (be16At l 2) (l.drop 4) + padding (be16At l 2))) msg' ∧
            ¬ Dangles (be16At l 0) (be16At l 2)) := by
  rw [attributeStep, valueOf, length_drop]
  split_ifs with hlt
  · exact .inl ⟨rfl, .inl (by omega)⟩
  have hdoes := does_attributeOf msg (be16At l 0) (be16At l 2) (l.drop 4)
  generalize attributeOf msg (be16At l 0) (be16At l 2) (l.drop 4) = o at hdoes ⊢
  cases hdoes with
  | refused hrefuses => exact .inl ⟨rfl, .inr hrefuses⟩
  | nullPointer hrefuses hdangles => exact .inr ⟨by omega, hrefuses, .inl ⟨rfl, hdangles⟩⟩
  | took msg' hrefuses hdangles hn =>
    subst hn
    exact .inr ⟨by omega, hrefuses, .inr ⟨msg', rfl, rfl, hdangles⟩⟩

lemma taken_take (type length : UInt16) (l : Bytes) : taken type length (l.take length.toNat) = taken type length l := by
  rw [taken, taken, take_take_of_le le_rfl]

/-- The header of an attribute and what comes after it. -/
lemma header_append_drop (h : 4 ≤ l.length) : be16 (be16At l 0) ++ (be16 (be16At l 2) ++ l.drop 4) = l := by
  match l with
  | b₀ :: b₁ :: b₂ :: b₃ :: rest =>
    rw [be16At, be16At, be16_word16, be16_word16]
    rfl

variable {type length : UInt16}

/-- The attribute that the remaining bytes begin with. -/
lemma exists_attribute (htype : be16At l 0 = type) (hlength : be16At l 2 = length)
    (h : 4 + (length.toNat + padding length) ≤ l.length) :
    ∃ a : Attribute, a.type = type ∧ a.length = length ∧ a.value = (l.drop 4).take length.toNat ∧
      l = a.bytes ++ l.drop (4 + (length.toNat + padding length)) := by
  have hvalue : ((l.drop 4).take length.toNat).length = length.toNat := by
    rw [length_take, length_drop]
    omega
  have hpad : ((l.drop (4 + length.toNat)).take (padding length)).length = padding length := by
    rw [length_take, length_drop]
    omega
  let a : Attribute :=
    { type
      value := (l.drop 4).take length.toNat
      pad := (l.drop (4 + length.toNat)).take (padding length)
      length_value := hvalue.trans_lt length.toNat_lt
      length_pad := by rw [hvalue, UInt16.ofNat_toNat, hpad] }
  have ha : a.length = length := by rw [Attribute.length, hvalue, UInt16.ofNat_toNat]
  have hdrop : l.drop (4 + (length.toNat + padding length)) = (l.drop (4 + length.toNat)).drop (padding length) := by
    rw [drop_drop, Nat.add_assoc]
  refine ⟨a, rfl, ha, rfl, ?_⟩
  have hbytes : a.bytes = be16 type ++ (be16 length ++ (a.value ++ a.pad)) := by rw [Attribute.bytes, ha]
  rw [hbytes, append_assoc, append_assoc, append_assoc, hdrop, take_append_drop, ← drop_drop,
    take_append_drop, ← htype, ← hlength, header_append_drop (by omega)]

/-- Attributes that begin a message are those of its bytes. -/
lemma Says.inv {n : ℕ} {attributes : List Attribute} {msg'' : MSStunMessage} (h4 : 4 ≤ l.length)
    (htype : be16At l 0 = type) (hlength : be16At l 2 = length) (hn : taken type length (l.drop 4) = n)
    (hstep : attributeOf msg type length (l.drop 4) = .took n msg') (hl : l = attributes.flatMap Attribute.bytes)
    (hsaid : Says msg attributes msg'') :
    n = length.toNat ∧ ∃ attributes', l.drop (4 + (n + padding length)) = attributes'.flatMap Attribute.bytes ∧
      Says msg' attributes' msg'' := by
  cases hsaid with
  | nil =>
    rw [hl] at h4
    exact absurd h4 (by simp)
  | @cons _ msg₁ _ a as hsized hread hsaid =>
    rw [flatMap_cons] at hl
    have hatype : a.type = type := by rw [← htype, hl, a.be16At_type]
    have halength : a.length = length := by rw [← hlength, hl, a.be16At_length]
    have hvalue : (l.drop 4).take length.toNat = a.value := by
      rw [hl, a.drop_four, ← halength, a.toNat_length, take_left]
    have hlen : a.value.length = length.toNat := by rw [← a.toNat_length, halength]
    have htaken : n = length.toNat := by
      have hdoes := does_attributeOf msg a.type a.length a.value
      rw [Attribute.read] at hread
      rw [hread, hatype, halength] at hdoes
      cases hdoes with
      | took _ _ _ htook => rw [← hn, ← taken_take, hvalue, ← htook, hlen]
    have hlocal := local_attributeOf msg type length hstep htaken.le
    rw [Attribute.read, hatype, halength, ← hvalue, hlocal] at hread
    obtain rfl : msg' = msg₁ := (Outcome.took.inj hread).2
    refine ⟨htaken, as, ?_, hsaid⟩
    have hbytes : 4 + (n + padding length) = a.bytes.length := by
      rw [a.length_bytes, halength, htaken, hlen]
    rw [hl, hbytes, drop_left]

/-- An attribute that takes its declared length comes before the attributes after it. -/
lemma Says.intro {attributes : List Attribute} {msg'' : MSStunMessage} (htype : be16At l 0 = type)
    (hlength : be16At l 2 = length) (hstep : attributeOf msg type length (l.drop 4) = .took length.toNat msg')
    (hle : 4 + (length.toNat + padding length) ≤ l.length)
    (hrest : l.drop (4 + (length.toNat + padding length)) = attributes.flatMap Attribute.bytes)
    (hsaid : Says msg' attributes msg'') :
    ∃ attributes', l = attributes'.flatMap Attribute.bytes ∧ Says msg attributes' msg'' := by
  obtain ⟨a, hatype, halength, hvalue, hl⟩ := exists_attribute htype hlength hle
  have hlen : a.value.length = length.toNat := by rw [← a.toNat_length, halength]
  have hlocal := local_attributeOf msg type length hstep le_rfl
  refine ⟨a :: attributes, ?_, .cons ?_ ?_ hsaid⟩
  · rw [flatMap_cons, ← hrest]
    exact hl
  · intro known hknown k hk
    have hdoes := does_attributeOf msg type length (l.drop 4)
    rw [hstep] at hdoes
    cases hdoes with
    | took _ _ _ htook =>
      rw [hatype] at hknown
      rw [taken, hknown, Option.bind_some, ← hvalue, hk, Option.getD_some] at htook
      rw [hlen, htook]
  · rw [Attribute.read, hatype, halength, hvalue, hlocal, ← hvalue, hlen]

/-- An attribute that is taken leaves the promises to the bytes after it. -/
lemma carefulFrom_step {d' : StunMessageDecoder} {n : ℕ}
    (hrun : parseAttributes (fuel + 1) msg d = parseAttributes fuel msg' d') (htype : be16At l 0 = type)
    (hlength : be16At l 2 = length) (h4 : 4 ≤ l.length) (htaken : taken type length (l.drop 4) = n)
    (hstep : attributeOf msg type length (l.drop 4) = .took n msg') (hn : 4 + (n + padding length) ≤ l.length) :
    CarefulFrom msg loose (fuel + 1) l d ↔
      CarefulFrom msg' (loose || n ≠ length.toNat) fuel (l.drop (4 + (n + padding length))) d' := by
  constructor
  · intro h
    refine ⟨fun d'' => ?_, ?_, fun msg'' d'' heq => ?_⟩
    · rw [← hrun]
      exact h.terminates d''
    · have hin := h.inBounds
      rwa [final, hrun] at hin
    · obtain ⟨hloose, attributes, hl, hsaid⟩ := h.complete msg'' d'' (hrun.trans heq)
      obtain ⟨hlen, hrest⟩ := Says.inv h4 htype hlength htaken hstep hl hsaid
      exact ⟨by simp [hloose, hlen], hrest⟩
  · intro h
    refine ⟨fun d'' => ?_, ?_, fun msg'' d'' heq => ?_⟩
    · rw [hrun]
      exact h.terminates d''
    · rw [final, hrun]
      exact h.inBounds
    · obtain ⟨hloose, attributes, hrest, hsaid⟩ := h.complete msg'' d'' (hrun.symm.trans heq)
      rw [Bool.or_eq_false_iff, decide_eq_false_iff_not, not_not] at hloose
      obtain ⟨hloose, rfl⟩ := hloose
      exact ⟨hloose, Says.intro htype hlength hstep hn hrest hsaid⟩

/-- The loop keeps its promises on the bytes that are framed. -/
theorem carefulFrom_iff (hd : At d l) (hfuel : l.length < fuel) : CarefulFrom msg loose fuel l d ↔ Framed loose l := by
  induction fuel generalizing msg loose l d with
  | zero => exact absurd hfuel (Nat.not_lt_zero _)
  | succ fuel ih =>
    rcases eq_or_ne l [] with rfl | hl
    · rw [carefulFrom_nil hd]
      constructor
      · rintro rfl
        exact .nil
      · intro h
        generalize hnil : ([] : Bytes) = l at h
        cases h with
        | nil => rfl
        | tooLong h4 | refused h4 => exact absurd h4 (by simp [← hnil])
        | cons _ _ hle => exact absurd hle (by simp [← hnil])
    have hcons : parseAttributes (fuel + 1) msg d = (parseAttribute msg >>= parseAttributes fuel) d :=
      parseAttributes_cons hd hl
    have hout (hfinal : ¬ (final (parseAttribute msg) d).cursor.InBounds) : ¬ CarefulFrom msg loose (fuel + 1) l d := by
      intro h
      have hin := h.inBounds
      rw [final, hcons, ← final] at hin
      exact not_inBounds_bind hfinal (grows_parseAttributes fuel) hin
    rcases Nat.lt_or_ge l.length 4 with hshort | h4
    · -- the header is read outside the block
      refine iff_of_false (hout (not_inBounds_parseAttribute hshort hd)) fun h => ?_
      cases h with
      | nil => exact hl rfl
      | tooLong h4 | refused h4 => exact hshort.not_ge h4
      | cons _ _ hle => omega
    have hruns := runs_parseAttribute (l := l) msg h4
    rcases attributeStep_cases msg h4 with ⟨hstep, hwhy⟩ | ⟨hle, hrefuses, ⟨hstep, hdangles⟩ |
      ⟨msg', hattribute, hstep, hdangles⟩⟩
    · -- the attribute is refused
      obtain ⟨d', heq, hin⟩ := hruns.stops hstep d hd
      have hrun : parseAttributes (fuel + 1) msg d = .error .refused d' := hcons.trans (bind_of_error heq)
      refine iff_of_true ⟨fun d'' => ?_, ?_, fun msg' d'' => ?_⟩ ?_
      · rw [hrun]
        exact ⟨by rintro ⟨⟩, by rintro ⟨⟩⟩
      · rwa [final, hrun]
      · rw [hrun]
        rintro ⟨⟩
      · rcases hwhy with hlong | hrefuses
        · exact .tooLong h4 hlong
        · exact .refused h4 hrefuses
    · -- a null pointer is read
      have hread := hruns.reads d hd
      rw [hstep] at hread
      obtain ⟨d', heq⟩ := hread
      have hrun : parseAttributes (fuel + 1) msg d = .error .nullPointer d' := hcons.trans (bind_of_error heq)
      refine iff_of_false (fun h => (h.terminates d').2 hrun) fun h => ?_
      cases h with
      | nil => exact hl rfl
      | tooLong _ hlong => omega
      | refused _ hrefused => exact hrefuses hrefused
      | cons htype hlength _ _ hsafe => exact hsafe (by rwa [← htype, ← hlength])
    have hread := hruns.reads d hd
    rw [hstep] at hread
    simp only at hread
    split_ifs at hread with hn
    · -- the attribute is taken, and the loop goes on
      obtain ⟨d', heq, hd'⟩ := hread
      have hrun : parseAttributes (fuel + 1) msg d = parseAttributes fuel msg' d' := hcons.trans (bind_of_ok heq)
      rw [carefulFrom_step hrun rfl rfl h4 rfl hattribute hn, ih hd' (by rw [length_drop]; omega)]
      constructor
      · exact fun h => .cons rfl rfl hle hrefuses hdangles rfl hn h
      · intro h
        cases h with
        | nil => exact absurd rfl hl
        | tooLong _ hlong => omega
        | refused _ hrefused => exact absurd hrefused hrefuses
        | cons htype hlength _ _ _ htook _ h =>
          subst htype hlength htook
          exact h
    · refine iff_of_false (hout hread) fun h => ?_
      cases h with
      | nil => exact hl rfl
      | tooLong _ hlong => omega
      | refused _ hrefused => exact hrefuses hrefused
      | cons htype hlength _ _ _ htook hle' =>
        subst htype hlength htook
        exact hn hle'

end framed

/-! ### Any bytes -/

section message

variable {l : Bytes}

lemma at_start (buf : Block) : At (.start buf) buf.bytes :=
  ⟨rfl, Nat.zero_le _, Cursor.inBounds_start _ _, rfl⟩

lemma reads_transactionId (msg : MSStunMessage) :
    Reads (do let tr_id ← decodeBuf 12; pure { msg with tr_id }) l (.took 12 { msg with tr_id := bufAt l 0 12 }) :=
  (reads_decodeBuf 12).bind_pure

lemma reads_decodeMessageHeader (h : 8 ≤ l.length) : Reads (decodeMessageHeader .new0) l
    (if be32At l 4 ≠ MS_STUN_MAGIC_COOKIE then .refused else .took 20 (headerOf l)) := by
  have hlength : be16At (l.drop 2) 0 = be16At l 2 := be16At_drop l 2 0
  have hcookie : be32At ((l.drop 2).drop 2) 0 = be32At l 4 := by rw [drop_drop, be32At_drop]
  have htr_id : bufAt (((l.drop 2).drop 2).drop 4) 0 12 = bufAt l 8 12 := by
    rw [drop_drop, drop_drop, bufAt_drop]
  split_ifs with hmagic
  · refine reads_decode16.bind_of_le (o := .refused) (by omega) (reads_decode16.bind_of_le (o := .refused) ?_
      (reads_decode32.bind_of_le (o := .refused) ?_ ?_))
    · rw [length_drop]
      omega
    · rw [length_drop, length_drop]
      omega
    · rw [hcookie, if_pos hmagic]
      exact reads_setError _
  · refine reads_decode16.bind_of_le (o := .took 18 _) (by omega) (reads_decode16.bind_of_le (o := .took 16 _) ?_
      (reads_decode32.bind_of_le (o := .took 12 _) ?_ ?_))
    · rw [length_drop]
      omega
    · rw [length_drop, length_drop]
      omega
    · rw [hcookie, if_neg hmagic, headerOf, ← htr_id, hlength]
      exact reads_transactionId _

structure Announces (bytes : Bytes) : Prop where
  le : STUN_MESSAGE_HEADER_LENGTH ≤ bytes.length
  magic_cookie : be32At bytes 4 = MS_STUN_MAGIC_COOKIE
  length : (be16At bytes 2).toNat + STUN_MESSAGE_HEADER_LENGTH = bytes.length

variable {buf : Block}

/-- The length that the header announces is compared after the magic cookie. -/
lemma createFromBufferParsing_eq (hle : STUN_MESSAGE_HEADER_LENGTH ≤ buf.bytes.length) :
    if be32At buf.bytes 4 ≠ MS_STUN_MAGIC_COOKIE then
      ∃ d, createFromBufferParsing buf = .error .refused d ∧ d.cursor.InBounds
    else ∃ d, At d (buf.bytes.drop STUN_MESSAGE_HEADER_LENGTH) ∧ createFromBufferParsing buf =
        (if (be16At buf.bytes 2).toNat + STUN_MESSAGE_HEADER_LENGTH ≠ buf.bytes.length then throw .refused
        else parseAttributes (buf.bytes.length + 1) (headerOf buf.bytes) : Decode MSStunMessage) d := by
  have hd := at_start buf
  have hget : (get : Decode StunMessageDecoder) (.start buf) = .ok (.start buf) (.start buf) := rfl
  have hsize : ¬ (start buf).size < STUN_MESSAGE_HEADER_LENGTH := not_lt.mpr hle
  have h8 : 8 ≤ buf.bytes.length := (by decide : 8 ≤ STUN_MESSAGE_HEADER_LENGTH).trans hle
  have h20 : 20 ≤ buf.bytes.length := hle
  have hread := reads_decodeMessageHeader h8
  rw [createFromBufferParsing, parseMessage, bind_of_ok hget, if_neg hsize]
  by_cases hmagic : be32At buf.bytes 4 ≠ MS_STUN_MAGIC_COOKIE
  · rw [if_pos hmagic] at hread ⊢
    exact hread.stops _ hd
  · rw [if_neg hmagic] at hread ⊢
    have hheader := hread _ hd
    simp only [if_pos h20] at hheader
    obtain ⟨d, heq, hd'⟩ := hheader
    refine ⟨d, hd', ?_⟩
    rw [bind_of_ok heq, bind_of_ok (checkError_of_at hd')]
    rfl

lemma createFromBufferParsing_of_not_announces (h : ¬ Announces buf.bytes) :
    ∃ d, createFromBufferParsing buf = .error .refused d ∧ d.cursor.InBounds := by
  rcases Nat.lt_or_ge buf.bytes.length STUN_MESSAGE_HEADER_LENGTH with hlt | hle
  · have hget : (get : Decode StunMessageDecoder) (.start buf) = .ok (.start buf) (.start buf) := rfl
    refine ⟨.start buf, ?_, (at_start buf).inBounds⟩
    rw [createFromBufferParsing, parseMessage, bind_of_ok hget]
    exact congrFun (if_pos hlt) _
  · have heq := createFromBufferParsing_eq hle
    split_ifs at heq with hmagic hlength
    · exact heq
    · obtain ⟨d, hd, heq⟩ := heq
      exact ⟨d, heq, hd.inBounds⟩
    · exact absurd ⟨hle, not_not.mp hmagic, not_not.mp hlength⟩ h

lemma createFromBufferParsing_of_announces (h : Announces buf.bytes) :
    ∃ d, At d (buf.bytes.drop STUN_MESSAGE_HEADER_LENGTH) ∧
      createFromBufferParsing buf = parseAttributes (buf.bytes.length + 1) (headerOf buf.bytes) d := by
  have heq := createFromBufferParsing_eq h.le
  rwa [if_neg (not_not.mpr h.magic_cookie), if_neg (not_not.mpr h.length)] at heq

/-- The decoder keeps its promises on bytes that its header does not announce, or whose attributes are complete up to the
end or to one that is refused. -/
theorem careful_iff (buf : Block) :
    Careful buf ↔ (Announces buf.bytes → Framed false (buf.bytes.drop STUN_MESSAGE_HEADER_LENGTH)) := by
  by_cases h : Announces buf.bytes
  · obtain ⟨d, hd, heq⟩ := createFromBufferParsing_of_announces h
    have hfuel : (buf.bytes.drop STUN_MESSAGE_HEADER_LENGTH).length < buf.bytes.length + 1 := by
      rw [length_drop]
      omega
    have hiff : CarefulFrom (headerOf buf.bytes) false _ _ d ↔ _ := carefulFrom_iff hd hfuel
    rw [← hiff]
    have hfinal : final parseMessage (.start buf) =
        final (parseAttributes (buf.bytes.length + 1) (headerOf buf.bytes)) d := by
      rw [final, final, ← heq, createFromBufferParsing]
    constructor
    · intro hcareful _
      refine ⟨fun d' => ?_, ?_, fun msg d' hok => ?_⟩
      · rw [← heq]
        exact hcareful.terminates d'
      · rw [← hfinal]
        exact hcareful.inBounds
      · exact ⟨rfl, hcareful.complete msg d' (heq.trans hok)⟩
    · intro hfrom
      have hfrom := hfrom h
      refine ⟨fun d' => ?_, ?_, fun msg d' hok => ?_⟩
      · rw [heq]
        exact hfrom.terminates d'
      · rw [hfinal]
        exact hfrom.inBounds
      · exact (hfrom.complete msg d' (heq.symm.trans hok)).2
  · obtain ⟨d, heq, hin⟩ := createFromBufferParsing_of_not_announces h
    refine iff_of_true ⟨fun d' => ?_, ?_, fun msg d' hok => ?_⟩ fun hannounces => absurd hannounces h
    · rw [heq]
      exact ⟨by rintro ⟨⟩, by rintro ⟨⟩⟩
    · rw [createFromBufferParsing] at heq
      rwa [final, heq]
    · rw [heq] at hok
      cases hok

/-- The bytes of an address that says it is an IPv6 one are read beyond the end. -/
theorem not_careful : ¬ ∀ buf, Careful buf := by
  intro h
  have hin := (h ⟨[0, 1, 0, 12, 0x21, 0x12, 0xA4, 0x42, 0, 0, 0, 0, 0, 0, 0, 0, 0, 0, 0, 0,
    0, 1, 0, 8, 0, 2, 0, 80, 10, 0, 0, 1], fun _ => 0⟩).inBounds
  revert hin
  decide

end message

end Stun
