import LinphoneSdk.Stun.DecoderBounds
import LinphoneSdk.Stun.Encoder

/-!
# Decoding what is encoded

The attributes of a message come back as they are, unless the decoder does not know their type or they are longer than
it takes.
-/

namespace Stun

open Bytes Chunks Exec Reading StunMessageDecoder List Option UInt16 Nat MSStunMessage

/-! ### Reading complete attributes -/

def readAll : MSStunMessage → List Attribute → Option MSStunMessage
  | msg, [] => some msg
  | msg, a :: as =>
    match a.read msg with
    | .took _ msg => readAll msg as
    | .refused | .nullPointer => none

def Attribute.Whole (a : Attribute) : Prop :=
  ∀ msg, a.read msg = .refused ∨ ∃ msg', a.read msg = .took a.value.length msg'

section reading

variable {m : MSStunMessage} {a : Attribute} {as bs : List Attribute} {d : StunMessageDecoder} {fuel : ℕ}

lemma readAll_append : readAll m (as ++ bs) = (readAll m as).bind fun m => readAll m bs := by
  induction as generalizing m with
  | nil => rfl
  | cons a as ih =>
    rw [cons_append, readAll, readAll]
    cases a.read m with
    | took n m' => exact ih
    | refused => rfl
    | nullPointer => rfl

/-- The bytes after an attribute do not matter. -/
lemma attributeOf_append (ha : a.Whole) (rest : Bytes) :
    attributeOf m a.type a.length (a.value ++ rest) = a.read m := by
  have hvalue : (a.value ++ rest).take a.length.toNat = a.value := by rw [a.toNat_length, take_left]
  have htaken : taken a.type a.length (a.value ++ rest) = taken a.type a.length a.value := by
    rw [← taken_take, hvalue]
  have hdoes := does_attributeOf m a.type a.length (a.value ++ rest)
  have hdoes' := does_attributeOf m a.type a.length a.value
  rw [← Attribute.read] at hdoes'
  rcases ha m with hread | ⟨m', hread⟩
  · rw [hread] at hdoes' ⊢
    cases hdoes' with
    | refused hrefuses =>
      generalize attributeOf m a.type a.length (a.value ++ rest) = o at hdoes
      cases hdoes with
      | refused _ => rfl
      | nullPointer hno => exact absurd hrefuses hno
      | took _ hno => exact absurd hrefuses hno
  · rw [hread] at hdoes'
    cases hdoes' with
    | took _ hrefuses hdangles hn =>
      cases hattribute : attributeOf m a.type a.length (a.value ++ rest) with
      | refused =>
        rw [hattribute] at hdoes
        cases hdoes with
        | refused hyes => exact absurd hyes hrefuses
      | nullPointer =>
        rw [hattribute] at hdoes
        cases hdoes with
        | nullPointer _ hyes => exact absurd hyes hdangles
      | took n m'' =>
        rw [hattribute] at hdoes
        cases hdoes with
        | took _ _ _ hn' =>
          have hlen : n = a.length.toNat := by rw [hn', htaken, ← hn, a.toNat_length]
          have hlocal := local_attributeOf m a.type a.length hattribute hlen.le
          rw [hvalue] at hlocal
          exact hlocal.symm

lemma attributeStep_append (ha : a.Whole) (rest : Bytes) :
    attributeStep m (a.bytes ++ rest) = match a.read m with
      | .took _ m => .took a.bytes.length m
      | o => o := by
  have hle : ¬ ((a.bytes ++ rest).drop 4).length < a.length.toNat := by
    rw [a.drop_four, a.toNat_length, length_append]
    omega
  rw [attributeStep, valueOf, a.be16At_type, a.be16At_length, if_neg hle, a.drop_four, attributeOf_append ha]
  rcases ha m with hread | ⟨m', hread⟩
  · rw [hread]
    rfl
  · rw [hread, a.length_bytes]
    rfl

/-- The loop reads complete attributes. -/
lemma parseAttributes_flatMap (has : ∀ a ∈ as, a.Whole) (hd : At d (as.flatMap Attribute.bytes))
    (hfuel : (as.flatMap Attribute.bytes).length < fuel) :
    match readAll m as with
    | some m' => ∃ d', parseAttributes fuel m d = .ok m' d'
    | none => ∃ d', parseAttributes fuel m d = .error .refused d' := by
  induction as generalizing m d fuel with
  | nil =>
    obtain ⟨fuel, rfl⟩ := exists_eq_succ_of_ne_zero (Nat.ne_zero_of_lt hfuel)
    exact ⟨d, parseAttributes_nil hd⟩
  | cons a as ih =>
    rw [forall_mem_cons] at has
    obtain ⟨fuel, rfl⟩ := exists_eq_succ_of_ne_zero (Nat.ne_zero_of_lt hfuel)
    rw [flatMap_cons] at hd hfuel
    have hlength := a.length_bytes
    have h4 : 4 ≤ (a.bytes ++ as.flatMap Attribute.bytes).length := by
      rw [length_append]
      omega
    have hruns := runs_parseAttribute m h4
    rw [attributeStep_append has.1] at hruns
    have hcons : parseAttributes (fuel + 1) m d = (parseAttribute m >>= parseAttributes fuel) d :=
      parseAttributes_cons hd (ne_nil_of_length_pos (by omega))
    rw [readAll, succ_eq_add_one, hcons]
    rcases has.1 m with hread | ⟨m', hread⟩
    · rw [hread] at hruns ⊢
      obtain ⟨d', heq, -⟩ := hruns.stops rfl d hd
      exact ⟨d', bind_of_error heq⟩
    · rw [hread] at hruns ⊢
      have hstep := hruns.reads d hd
      simp only [length_append, Nat.le_add_right, if_true, drop_left] at hstep
      obtain ⟨d', heq, hd'⟩ := hstep
      rw [bind_of_ok heq]
      rw [length_append] at hfuel
      exact ih has.2 hd' (by omega)

end reading

/-! ### What the bytes of an attribute do -/

/-- Some bytes are complete attributes, and do `effect` to a message. -/
def Encodes (l : Bytes) (effect : MSStunMessage → Option MSStunMessage) : Prop :=
  ∃ as : List Attribute, l = as.flatMap Attribute.bytes ∧ (∀ a ∈ as, a.Whole) ∧ ∀ msg, readAll msg as = effect msg

section encodes

variable {l l' : Bytes} {effect effect' : MSStunMessage → Option MSStunMessage}

lemma encodes_nil : Encodes [] some := ⟨[], rfl, nofun, fun _ => rfl⟩

lemma Encodes.append (h : Encodes l effect) (h' : Encodes l' effect') :
    Encodes (l ++ l') fun msg => (effect msg).bind effect' := by
  obtain ⟨as, rfl, has, heffect⟩ := h
  obtain ⟨bs, rfl, hbs, heffect'⟩ := h'
  refine ⟨as ++ bs, flatMap_append.symm, forall_mem_append.mpr ⟨has, hbs⟩, fun msg => ?_⟩
  rw [readAll_append, heffect]
  congr 1
  exact funext heffect'

def optionalEffect {α : Type} (effect : α → MSStunMessage → Option MSStunMessage) (field : Option α) :
    MSStunMessage → Option MSStunMessage :=
  (field.map effect).getD some

lemma Encodes.optional {α : Type} {encode : α → Bytes} {effect : α → MSStunMessage → Option MSStunMessage}
    {field : Option α} (h : ∀ x ∈ field, Encodes (encode x) (effect x)) :
    Encodes (optional encode field) (optionalEffect effect field) := by
  cases field with
  | none => exact encodes_nil
  | some x => exact h x rfl

lemma Encodes.update {α : Type} {encode : α → Bytes} {g : Option α → MSStunMessage → MSStunMessage}
    {field : Option α} (hnone : ∀ m, g none m = m) (hsome : ∀ x, Encodes (encode x) fun m => some (g (some x) m)) :
    Encodes (Stun.optional encode field) fun m => some (g field m) := by
  cases field with
  | none =>
    simp only [hnone]
    exact encodes_nil
  | some x => exact hsome x

/-- An attribute that is written under a condition. -/
lemma Encodes.updateIf {c : Prop} [Decidable c] {g g' : MSStunMessage → MSStunMessage} (h : Encodes l fun m => some (g m))
    (hpos : c → g' = g) (hneg : ¬ c → g' = id) : Encodes (if c then l else []) fun m => some (g' m) := by
  split_ifs with hc
  · rw [hpos hc]
    exact h
  · rw [hneg hc]
    exact encodes_nil

lemma length_encodePadding (len : ℕ) (h : len < 2 ^ 16) : (encodePadding len).length = padding (.ofNat len) := by
  rw [encodePadding, padding, toNat_ofNat', mod_eq_of_lt h, ← paddingLength]
  split_ifs with hlt
  · rw [length_replicate, mod_eq_of_lt hlt]
  · have hle : paddingLength len ≤ 4 := sub_le _ _
    rw [Nat.le_antisymm hle (not_lt.mp hlt)]
    rfl

lemma encodes_attribute (type : AttributeType) (value : Bytes) (h : value.length < 2 ^ 16)
    (heffect : ∀ msg, attributeOf msg type.code (.ofNat value.length) value = match effect msg with
      | some msg' => .took value.length msg'
      | none => .refused) :
    Encodes (be16 type.code ++ (be16 (.ofNat value.length) ++ (value ++ encodePadding value.length))) effect := by
  let a : Attribute :=
    { type := type.code
      value
      pad := encodePadding value.length
      length_value := h
      length_pad := length_encodePadding value.length h }
  have hread (msg : MSStunMessage) : a.read msg = match effect msg with
      | some msg' => .took value.length msg'
      | none => .refused := heffect msg
  refine ⟨[a], ?_, ?_, fun msg => ?_⟩
  · rw [flatMap_singleton]
    rfl
  · rw [forall_mem_singleton]
    intro msg
    rw [hread]
    cases effect msg with
    | none => exact .inl rfl
    | some msg' => exact .inr ⟨msg', rfl⟩
  · rw [readAll, hread]
    cases effect msg with
    | none => rfl
    | some msg' => rfl

/-- An attribute of a fixed size that is a multiple of four. -/
lemma encodes_fixed (type : AttributeType) (value : Bytes) {n : ℕ} (hn : value.length = n) (h : n < 2 ^ 16)
    (hpadding : encodePadding n = [])
    (heffect : ∀ msg, attributeOf msg type.code (.ofNat n) value = match effect msg with
      | some msg' => .took n msg'
      | none => .refused) :
    Encodes (be16 type.code ++ (be16 (.ofNat n) ++ value)) effect := by
  subst hn
  have hencodes := encodes_attribute type value h heffect
  rwa [hpadding, append_nil] at hencodes

lemma addrOf_v4 {family : UInt8} (h : family ≠ MS_STUN_ADDR_FAMILY_IPV6) (port : UInt16) (a : UInt32) :
    addrOf 8 ([0, family] ++ (be16 port ++ be32 a)) = .took 8 (.ofV4 family port a h) := by
  have hport : be16At ([0, family] ++ (be16 port ++ be32 a)) 2 = port := be16At_of_drop port rfl
  have haddr : be32At ([0, family] ++ (be16 port ++ be32 a)) 4 = a := be32At_of_drop (r := []) a rfl
  have hfamily : ([0, family] ++ (be16 port ++ be32 a)).getD 1 0 = family := rfl
  rw [addrOf, if_neg (by decide), dif_neg (by rwa [hfamily]), hport, haddr]
  rfl

lemma addrOf_v6 (port : UInt16) (a : Buf 16) :
    addrOf 20 ([0, MS_STUN_ADDR_FAMILY_IPV6] ++ (be16 port ++ a.toList)) = .took 20 (.v6 port a) := by
  have hport : be16At ([0, MS_STUN_ADDR_FAMILY_IPV6] ++ (be16 port ++ a.toList)) 2 = port := be16At_of_drop port rfl
  have haddr : bufAt ([0, MS_STUN_ADDR_FAMILY_IPV6] ++ (be16 port ++ a.toList)) 4 16 = a :=
    bufAt_of_drop (r := []) a (by rw [append_nil]; rfl)
  have hfamily : ([0, MS_STUN_ADDR_FAMILY_IPV6] ++ (be16 port ++ a.toList)).getD 1 0 = MS_STUN_ADDR_FAMILY_IPV6 := rfl
  rw [addrOf, if_neg (by decide), dif_pos hfamily, hport, haddr]

variable {t : AttributeType}

lemma encodes_addr {f : MSStunAddress → MSStunMessage → MSStunMessage}
    (h : ∀ msg length l, attributeOf msg t.code length l = (addrOf length l).map fun addr => f addr msg)
    (addr : MSStunAddress) : Encodes (encodeAddr t addr) fun msg => some (f addr msg) := by
  cases addr with
  | v6 port a =>
    refine encodes_fixed (n := 20) t _ (by simp) (by decide) rfl fun msg => ?_
    rw [h]
    exact congrArg (Outcome.map _) (addrOf_v6 port a)
  | v4 port a =>
    refine encodes_fixed (n := 8) t _ rfl (by decide) rfl fun msg => ?_
    rw [h]
    exact congrArg (Outcome.map _) (addrOf_v4 (by decide) port a)
  | other family port a =>
    refine encodes_fixed (n := 8) t _ rfl (by decide) rfl fun msg => ?_
    have haddr : MSStunAddress.ofV4 family.val port a family.property.2 = .other family port a := by
      rw [MSStunAddress.ofV4, dif_neg family.property.1]
    rw [h]
    exact congrArg (Outcome.map _) ((addrOf_v4 family.property.2 port a).trans (by rw [haddr]))

/-- The transaction id masks the address, and unmasks it. -/
lemma encodes_xorAddr {f : MSStunAddress → MSStunMessage → MSStunMessage}
    (h : ∀ msg length l, attributeOf msg t.code length l = (addrOf length l).map fun addr => f (addr.xor msg.tr_id) msg)
    (tr_id : Buf 12) (addr : MSStunAddress) :
    Encodes (encodeXorAddr t tr_id addr) fun msg => some (f ((addr.xor tr_id).xor msg.tr_id) msg) :=
  encodes_addr h (addr.xor tr_id)

variable (x : UInt32)

lemma wordOf_be32 : wordOf 4 (be32 x) = .took 4 x := by
  rw [wordOf, if_neg (by decide), be32At_of_drop (r := []) x rfl]

lemma encodes_word {f : UInt32 → MSStunMessage → MSStunMessage}
    (h : ∀ msg length l, attributeOf msg t.code length l = (wordOf length l).map fun x => f x msg) (x : UInt32) :
    Encodes (be16 t.code ++ (be16 4 ++ be32 x)) fun msg => some (f x msg) := by
  refine encodes_fixed (n := 4) t _ rfl (by decide) rfl fun msg => ?_
  rw [h]
  exact congrArg (Outcome.map _) (wordOf_be32 x)

lemma word64_toNat (a b : UInt32) : (word64 a b).toNat = a.toNat * 2 ^ 32 + b.toNat := by
  have ha := a.toNat_lt
  have hb := b.toNat_lt
  have hshift : (32 : UInt64).toNat % 64 = 32 := by decide
  simp only [word64, UInt64.toNat_or, UInt64.toNat_shiftLeft, UInt32.toNat_toUInt64, hshift]
  rw [mod_eq_of_lt (by rw [shiftLeft_eq]; omega), ← shiftLeft_add_eq_or_of_lt (by omega), shiftLeft_eq]

lemma word64_be64 (x : UInt64) : word64 (x >>> 32).toUInt32 x.toUInt32 = x := by
  apply UInt64.toNat_inj.mp
  have hx := x.toNat_lt
  have hshift : (32 : UInt64).toNat % 64 = 32 := by decide
  rw [word64_toNat]
  simp only [UInt64.toNat_toUInt32, UInt64.toNat_shiftRight, hshift, shiftRight_eq_div_pow]
  omega

lemma iceControlOf_be64 (x : UInt64) : iceControlOf 8 (be64 x) = .took 8 x := by
  have hhigh : be32At (be64 x) 0 = (x >>> 32).toUInt32 := be32At_of_drop (r := be32 x.toUInt32) _ rfl
  have hlow : be32At (be64 x) 4 = x.toUInt32 := be32At_of_drop (r := []) _ rfl
  rw [iceControlOf, if_neg (by decide), hhigh, hlow, word64_be64]

lemma encodes_iceControl {f : UInt64 → MSStunMessage → MSStunMessage}
    (h : ∀ msg length l, attributeOf msg t.code length l = (iceControlOf length l).map fun x => f x msg) (x : UInt64) :
    Encodes (encodeIceControl t x) fun msg => some (f x msg) := by
  refine encodes_fixed (n := 8) t _ rfl (by decide) rfl fun msg => ?_
  rw [h]
  exact congrArg (Outcome.map _) (iceControlOf_be64 x)

def truncate (max_length : ℕ) (s : CString) : CString :=
  ⟨s.val.take max_length, fun h => s.property (mem_of_mem_take h)⟩

lemma encodes_string {max_length : ℕ} {f : Option CString → MSStunMessage → MSStunMessage}
    (h : ∀ msg length l, attributeOf msg t.code length l = (stringOf length max_length l).map fun s => f s msg)
    (hmax : max_length < 2 ^ 16) (s : CString) :
    Encodes (encodeString t max_length s) fun msg => some (f (some (truncate max_length s)) msg) := by
  have hlen : (if max_length < s.strlen then max_length else s.strlen) = (truncate max_length s).val.length := by
    rw [truncate, length_take, CString.strlen]
    split_ifs with hlt
    · exact (Nat.min_eq_left hlt.le).symm
    · exact (Nat.min_eq_right (not_lt.mp hlt)).symm
  have hle : (truncate max_length s).val.length ≤ max_length := length_take_le _ _
  have hlt : (truncate max_length s).val.length < 2 ^ 16 := hle.trans_lt hmax
  have htake : s.val.take (truncate max_length s).val.length = (truncate max_length s).val := by
    rw [truncate, length_take, ← take_take, take_length]
  rw [encodeString, hlen, htake]
  refine encodes_attribute t _ hlt fun msg => ?_
  have htoNat : (ofNat (truncate max_length s).val.length).toNat = (truncate max_length s).val.length := by
    rw [toNat_ofNat', mod_eq_of_lt hlt]
  rw [h, stringOf, htoNat, if_neg hle.not_gt, take_length, CString.ofBytes_val]
  rfl

lemma encodes_data (data : Data) : Encodes (encodeData data) fun msg => some { msg with data } := by
  have htoNat : (ofNat data.val.length).toNat = data.val.length := by
    rw [toNat_ofNat', mod_eq_of_lt data.property]
  refine encodes_attribute .data data.val data.property fun msg => ?_
  rw [attributeOf, AttributeType.ofCode_code]
  simp only
  rw [htoNat, take_length, Data.ofBytes_val]

lemma encodes_useCandidate : Encodes encodeUseCandidate fun msg => some { msg with has_use_candidate := true } := by
  have hencodes : Encodes _ fun msg => some { msg with has_use_candidate := true } :=
    encodes_fixed (n := 0) .useCandidate [] rfl (by decide) rfl fun msg => rfl
  rwa [append_nil] at hencodes

lemma encodes_integrity (hmac : Buf 20) :
    Encodes (encodeIntegrity hmac) fun msg => some (msg.setMessageIntegrity hmac) := by
  refine encodes_fixed (n := 20) .messageIntegrity _ hmac.toList_length (by decide) rfl fun msg => ?_
  have hread : messageIntegrityOf 20 hmac.toList = .took 20 hmac := by
    rw [messageIntegrityOf, if_neg (by decide), bufAt_of_drop (r := []) hmac (by simp)]
  exact congrArg (Outcome.map _) hread

def MSStunErrorCode.reasonBytes (e : MSStunErrorCode) : Bytes := (e.reason.map Subtype.val).getD []

/-- An error code as it is received: an empty reason is none, and the class is on 8 bits. -/
def MSStunErrorCode.received (e : MSStunErrorCode) : MSStunErrorCode where
  reason := e.reason.filter fun reason => 0 < reason.strlen
  number := .ofNat ((e.number / 100).toUInt8.toNat * 100 + (e.number - e.number / 100 * 100).toUInt8.toNat)

def errorCodeValue (e : MSStunErrorCode) : Bytes :=
  be16 0 ++ ([(e.number / 100).toUInt8, (e.number - e.number / 100 * 100).toUInt8] ++ e.reasonBytes)

variable (e : MSStunErrorCode)

lemma length_errorCodeValue : (errorCodeValue e).length = 4 + e.reasonBytes.length := by
  simp only [errorCodeValue, length_append, length_be16, length_cons, length_nil]
  omega

lemma encodeErrorCode_eq :
    encodeErrorCode e = be16 AttributeType.errorCode.code ++ (be16 (.ofNat (errorCodeValue e).length) ++
      (errorCodeValue e ++ encodePadding (errorCodeValue e).length)) := by
  have hpadding : encodePadding (4 + e.reasonBytes.length) = encodePadding e.reasonBytes.length := by
    rw [encodePadding, encodePadding, paddingLength, paddingLength, add_mod_left]
  rw [length_errorCodeValue, hpadding, ofNat_add, errorCodeValue, append_assoc, append_assoc]
  rfl

lemma reasonOf_value (h : (errorCodeValue e).length < 2 ^ 16) :
    reasonOf (.ofNat (errorCodeValue e).length) (errorCodeValue e) = e.received.reason := by
  have hdrop : (errorCodeValue e).drop 4 = e.reasonBytes := rfl
  rw [length_errorCodeValue] at h
  rw [reasonOf, length_errorCodeValue, toNat_ofNat', mod_eq_of_lt h, Nat.add_sub_cancel_left, hdrop, take_length]
  rw [MSStunErrorCode.reasonBytes, MSStunErrorCode.received]
  cases e.reason with
  | none => rfl
  | some reason =>
    by_cases hpos : 0 < reason.val.length <;> simp [CString.strlen, CString.ofBytes_val, filter_some, hpos]

lemma encodes_errorCode (h : (errorCodeValue e).length < 2 ^ 16) :
    Encodes (encodeErrorCode e) fun msg =>
      if STUN_MAX_REASON_LENGTH < e.reasonBytes.length then none else some { msg with error_code := some e.received } := by
  rw [encodeErrorCode_eq]
  refine encodes_attribute .errorCode _ h fun msg => ?_
  have htoNat : (ofNat (errorCodeValue e).length).toNat = 4 + e.reasonBytes.length := by
    rw [toNat_ofNat', mod_eq_of_lt h, length_errorCodeValue]
  have hread : attributeOf msg AttributeType.errorCode.code (.ofNat (errorCodeValue e).length) (errorCodeValue e) =
      (errorCodeOf (.ofNat (errorCodeValue e).length) (errorCodeValue e)).map fun error_code =>
        { msg with error_code := some error_code } := rfl
  rw [hread, errorCodeOf, htoNat, reasonOf_value e h]
  split_ifs with hrefused hlong hlong
  · rfl
  · exact absurd hrefused (by omega)
  · exact absurd hlong (by omega)
  · rw [length_errorCodeValue]
    rfl

lemma encodes_mappedAddress (addr : MSStunAddress) :
    Encodes (encodeAddr .mappedAddress addr) fun msg => some { msg with mapped_address := some addr } :=
  encodes_addr (f := fun addr msg => { msg with mapped_address := some addr }) (fun _ _ _ => rfl) addr

lemma encodes_changeRequest : Encodes (encodeChangeRequest x) fun msg => some { msg with change_request := x } :=
  encodes_word (t := .changeRequest) (f := fun x msg => { msg with change_request := x }) (fun _ _ _ => rfl) x

variable (s : CString)

lemma encodes_username : Encodes (encodeString .username STUN_MAX_USERNAME_LENGTH s)
    fun msg => some { msg with username := some (truncate STUN_MAX_USERNAME_LENGTH s) } :=
  encodes_string (f := fun s msg => { msg with username := s }) (fun _ _ _ => rfl) (by decide) s

lemma encodes_realm : Encodes (encodeString .realm STUN_MAX_REALM_LENGTH s)
    fun msg => some { msg with realm := some (truncate STUN_MAX_REALM_LENGTH s) } :=
  encodes_string (f := fun s msg => { msg with realm := s }) (fun _ _ _ => rfl) (by decide) s

lemma encodes_nonce : Encodes (encodeString .nonce STUN_MAX_NONCE_LENGTH s)
    fun msg => some { msg with nonce := some (truncate STUN_MAX_NONCE_LENGTH s) } :=
  encodes_string (f := fun s msg => { msg with nonce := s }) (fun _ _ _ => rfl) (by decide) s

lemma encodes_lifetime : Encodes (encodeLifetime x) fun msg => some { msg with lifetime := some x } :=
  encodes_word (t := .lifetime) (f := fun x msg => { msg with lifetime := some x }) (fun _ _ _ => rfl) x

lemma encodes_priority : Encodes (encodePriority x) fun msg => some { msg with priority := some x } :=
  encodes_word (t := .priority) (f := fun x msg => { msg with priority := some x }) (fun _ _ _ => rfl) x

lemma encodes_fingerprint : Encodes (be16 AttributeType.fingerprint.code ++ (be16 4 ++ be32 x))
    fun msg => some { msg with fingerprint := x, has_fingerprint := true } :=
  encodes_word (f := fun x msg => { msg with fingerprint := x, has_fingerprint := true }) (fun _ _ _ => rfl) x

/-- An attribute that the decoder does not know is refused. -/
lemma encodes_unknown {type : AttributeType} {value : Bytes}
    (h : ∀ msg, attributeOf msg type.code 4 value = .refused) (hvalue : value.length = 4) :
    Encodes (be16 type.code ++ (be16 4 ++ value)) fun _ => none :=
  encodes_fixed (n := 4) type value hvalue (by decide) rfl h

lemma encodes_requestedTransport (x : UInt8) : Encodes (encodeRequestedTransport x) fun _ => none :=
  encodes_unknown (fun _ => rfl) rfl

lemma encodes_requestedAddressFamily (x : UInt8) : Encodes (encodeRequestedAddressFamily x) fun _ => none :=
  encodes_unknown (fun _ => rfl) rfl

lemma encodes_channelNumber (x : UInt16) : Encodes (encodeChannelNumber x) fun _ => none :=
  encodes_unknown (fun _ => rfl) rfl

/-- What attributes do one after the other. -/
def run (effects : List (MSStunMessage → Option MSStunMessage)) (msg : MSStunMessage) : Option MSStunMessage :=
  effects.foldlM (fun msg effect => effect msg) msg

lemma run_cons (f : MSStunMessage → Option MSStunMessage) (fs : List (MSStunMessage → Option MSStunMessage))
    (msg : MSStunMessage) : run (f :: fs) msg = (f msg).bind (run fs) := rfl

/-- An attribute that is always refused leaves no message. -/
lemma run_eq_none {f : MSStunMessage → Option MSStunMessage} {fs : List (MSStunMessage → Option MSStunMessage)}
    (hf : f ∈ fs) (h : ∀ msg, f msg = none) (msg : MSStunMessage) : run fs msg = none := by
  induction fs generalizing msg with
  | nil => cases hf
  | cons g fs ih =>
    rw [run_cons]
    rcases mem_cons.mp hf with rfl | hf
    · rw [h]
      rfl
    · cases g msg with
      | none => rfl
      | some msg' => exact ih hf msg'

lemma encodes_flatten {ls : List Bytes} {fs : List (MSStunMessage → Option MSStunMessage)}
    (h : Forall₂ Encodes ls fs) : Encodes ls.flatten (run fs) := by
  induction h with
  | nil => exact encodes_nil
  | cons h _ ih => exact h.append ih

end encodes

/-! ### Messages -/

section message

variable (msg : MSStunMessage) (hmac : Option (Buf 20)) (fingerprint : Option UInt32)

/-- The attributes of a message, with the integrity and the fingerprint that are computed. -/
def parts : List Bytes :=
  [optional (encodeAddr .mappedAddress) msg.mapped_address,
    if msg.change_request ≠ 0 then encodeChangeRequest msg.change_request else [],
    optional (encodeString .username STUN_MAX_USERNAME_LENGTH) msg.username,
    optional (encodeString .realm STUN_MAX_REALM_LENGTH) msg.realm,
    optional (encodeString .nonce STUN_MAX_NONCE_LENGTH) msg.nonce,
    optional encodeErrorCode msg.error_code,
    optional (encodeXorAddr .xorMappedAddress msg.tr_id) msg.xor_mapped_address,
    optional (encodeXorAddr .xorPeerAddress msg.tr_id) msg.xor_peer_address,
    optional (encodeXorAddr .xorRelayedAddress msg.tr_id) msg.xor_relayed_address,
    optional encodeRequestedTransport msg.requested_transport,
    optional encodeRequestedAddressFamily msg.requested_address_family,
    optional encodeLifetime msg.lifetime,
    optional encodeChannelNumber msg.channel_number,
    if 0 < msg.data.val.length then encodeData msg.data else [],
    optional encodePriority msg.priority,
    if msg.has_use_candidate then encodeUseCandidate else [],
    optional (encodeIceControl .iceControlled) msg.ice_controlled,
    optional (encodeIceControl .iceControlling) msg.ice_controlling,
    optional encodeIntegrity hmac,
    optional (fun x => be16 AttributeType.fingerprint.code ++ (be16 4 ++ be32 x)) fingerprint]

/-- What the parts do to the message that is decoded. -/
def effects : List (MSStunMessage → Option MSStunMessage) :=
  [fun m => some { m with mapped_address := msg.mapped_address.or m.mapped_address },
    fun m => some { m with change_request := if msg.change_request ≠ 0 then msg.change_request else m.change_request },
    fun m => some { m with username := (msg.username.map (truncate STUN_MAX_USERNAME_LENGTH)).or m.username },
    fun m => some { m with realm := (msg.realm.map (truncate STUN_MAX_REALM_LENGTH)).or m.realm },
    fun m => some { m with nonce := (msg.nonce.map (truncate STUN_MAX_NONCE_LENGTH)).or m.nonce },
    optionalEffect (fun e m => if STUN_MAX_REASON_LENGTH < e.reasonBytes.length then none
      else some { m with error_code := some e.received }) msg.error_code,
    fun m => some { m with xor_mapped_address := (unmasked m msg.xor_mapped_address).or m.xor_mapped_address },
    fun m => some { m with xor_peer_address := (unmasked m msg.xor_peer_address).or m.xor_peer_address },
    fun m => some { m with xor_relayed_address := (unmasked m msg.xor_relayed_address).or m.xor_relayed_address },
    optionalEffect (fun _ _ => none) msg.requested_transport,
    optionalEffect (fun _ _ => none) msg.requested_address_family,
    fun m => some { m with lifetime := msg.lifetime.or m.lifetime },
    optionalEffect (fun _ _ => none) msg.channel_number,
    fun m => some { m with data := if 0 < msg.data.val.length then msg.data else m.data },
    fun m => some { m with priority := msg.priority.or m.priority },
    fun m => some { m with has_use_candidate := msg.has_use_candidate || m.has_use_candidate },
    fun m => some { m with ice_controlled := msg.ice_controlled.or m.ice_controlled },
    fun m => some { m with ice_controlling := msg.ice_controlling.or m.ice_controlling },
    fun m => some
      { m with
        message_integrity := hmac.or m.message_integrity
        has_message_integrity := hmac.isSome || m.has_message_integrity
        has_dummy_message_integrity := m.has_dummy_message_integrity || hmac.any (· = dummyHmac) },
    fun m => some
      { m with
        fingerprint := fingerprint.getD m.fingerprint
        has_fingerprint := fingerprint.isSome || m.has_fingerprint }]
where
  /-- An address that was masked with the transaction id. -/
  unmasked (m : MSStunMessage) (field : Option MSStunAddress) : Option MSStunAddress :=
    field.map fun addr => (addr.xor msg.tr_id).xor m.tr_id

/-- The reason of the error code has a 16-bit length with the number. -/
def ShortReason : Prop := ∀ e ∈ msg.error_code, (errorCodeValue e).length < 2 ^ 16

lemma encodes_parts (h : ShortReason msg) :
    Encodes (parts msg hmac fingerprint).flatten (run (effects msg hmac fingerprint)) := by
  refine encodes_flatten ?_
  simp only [parts, effects, forall₂_cons]
  exact ⟨.update (g := fun field m => { m with mapped_address := field.or m.mapped_address }) (fun _ => rfl)
      encodes_mappedAddress,
    .updateIf (encodes_changeRequest msg.change_request) (fun h => by simp only [if_pos h])
      (fun h => by simp only [if_neg h]; rfl),
    .update (g := fun field m => { m with username := (field.map _).or m.username }) (fun _ => rfl) encodes_username,
    .update (g := fun field m => { m with realm := (field.map _).or m.realm }) (fun _ => rfl) encodes_realm,
    .update (g := fun field m => { m with nonce := (field.map _).or m.nonce }) (fun _ => rfl) encodes_nonce,
    .optional fun e he => encodes_errorCode e (h e he),
    .update (g := fun field m => { m with xor_mapped_address := (effects.unmasked msg m field).or m.xor_mapped_address })
      (fun _ => rfl) (encodes_xorAddr (f := fun addr m => { m with xor_mapped_address := some addr }) (fun _ _ _ => rfl) _),
    .update (g := fun field m => { m with xor_peer_address := (effects.unmasked msg m field).or m.xor_peer_address })
      (fun _ => rfl) (encodes_xorAddr (f := fun addr m => { m with xor_peer_address := some addr }) (fun _ _ _ => rfl) _),
    .update (g := fun field m => { m with xor_relayed_address := (effects.unmasked msg m field).or m.xor_relayed_address })
      (fun _ => rfl) (encodes_xorAddr (f := fun addr m => { m with xor_relayed_address := some addr }) (fun _ _ _ => rfl) _),
    .optional fun x _ => encodes_requestedTransport x, .optional fun x _ => encodes_requestedAddressFamily x,
    .update (g := fun field m => { m with lifetime := field.or m.lifetime }) (fun _ => rfl) encodes_lifetime,
    .optional fun x _ => encodes_channelNumber x,
    .updateIf (encodes_data msg.data) (fun h => by simp only [if_pos h]) (fun h => by simp only [if_neg h]; rfl),
    .update (g := fun field m => { m with priority := field.or m.priority }) (fun _ => rfl) encodes_priority,
    .updateIf encodes_useCandidate (fun h => by simp only [h, Bool.true_or])
      (fun h => by simp only [Bool.not_eq_true] at h; simp only [h, Bool.false_or]; rfl),
    .update (g := fun field m => { m with ice_controlled := field.or m.ice_controlled }) (fun _ => rfl)
      (encodes_iceControl (f := fun x m => { m with ice_controlled := some x }) fun _ _ _ => rfl),
    .update (g := fun field m => { m with ice_controlling := field.or m.ice_controlling }) (fun _ => rfl)
      (encodes_iceControl (f := fun x m => { m with ice_controlling := some x }) fun _ _ _ => rfl),
    .update (g := fun field m =>
      { m with
        message_integrity := field.or m.message_integrity
        has_message_integrity := field.isSome || m.has_message_integrity
        has_dummy_message_integrity := m.has_dummy_message_integrity || field.any (· = dummyHmac) })
      (fun m => by simp) encodes_integrity,
    .update (g := fun field m =>
      { m with
        fingerprint := field.getD m.fingerprint
        has_fingerprint := field.isSome || m.has_fingerprint }) (fun _ => rfl) encodes_fingerprint, .nil⟩

/-- The message that is decoded after this header. -/
def received (m : MSStunMessage) : MSStunMessage :=
  { m with
    data := if 0 < msg.data.val.length then msg.data else m.data
    username := (msg.username.map (truncate STUN_MAX_USERNAME_LENGTH)).or m.username
    realm := (msg.realm.map (truncate STUN_MAX_REALM_LENGTH)).or m.realm
    nonce := (msg.nonce.map (truncate STUN_MAX_NONCE_LENGTH)).or m.nonce
    message_integrity := hmac.or m.message_integrity
    error_code := (msg.error_code.map MSStunErrorCode.received).or m.error_code
    mapped_address := msg.mapped_address.or m.mapped_address
    xor_mapped_address := (effects.unmasked msg m msg.xor_mapped_address).or m.xor_mapped_address
    xor_peer_address := (effects.unmasked msg m msg.xor_peer_address).or m.xor_peer_address
    xor_relayed_address := (effects.unmasked msg m msg.xor_relayed_address).or m.xor_relayed_address
    change_request := if msg.change_request ≠ 0 then msg.change_request else m.change_request
    fingerprint := fingerprint.getD m.fingerprint
    priority := msg.priority.or m.priority
    ice_controlling := msg.ice_controlling.or m.ice_controlling
    ice_controlled := msg.ice_controlled.or m.ice_controlled
    lifetime := msg.lifetime.or m.lifetime
    has_message_integrity := hmac.isSome || m.has_message_integrity
    has_dummy_message_integrity := m.has_dummy_message_integrity || hmac.any (· = dummyHmac)
    has_fingerprint := fingerprint.isSome || m.has_fingerprint
    has_use_candidate := msg.has_use_candidate || m.has_use_candidate }

/-- The attributes that the decoder does not refuse. -/
structure Known : Prop where
  requested_transport : msg.requested_transport = none
  requested_address_family : msg.requested_address_family = none
  channel_number : msg.channel_number = none
  reason : ∀ e ∈ msg.error_code, e.reasonBytes.length ≤ STUN_MAX_REASON_LENGTH

lemma errorCode_of_known (h : Known msg) :
    optionalEffect (fun e m => if STUN_MAX_REASON_LENGTH < e.reasonBytes.length then none
      else some { m with error_code := some e.received }) msg.error_code =
      fun m => some { m with error_code := (msg.error_code.map MSStunErrorCode.received).or m.error_code } := by
  cases herror : msg.error_code with
  | none => rfl
  | some e => exact funext fun m => if_neg (h.reason e herror).not_gt

lemma run_effects (h : Known msg) (m : MSStunMessage) :
    run (effects msg hmac fingerprint) m = some (received msg hmac fingerprint m) := by
  rw [effects, errorCode_of_known msg h, h.requested_transport, h.requested_address_family, h.channel_number]
  rfl

/-- An attribute that the decoder refuses leaves no message. -/
lemma known_of_run {m m' : MSStunMessage} (h : run (effects msg hmac fingerprint) m = some m') : Known msg := by
  have hunknown {α : Type} {field : Option α}
      (hmem : optionalEffect (fun (_ : α) _ => none) field ∈ effects msg hmac fingerprint) : field = none := by
    cases field with
    | none => rfl
    | some x =>
      rw [run_eq_none hmem fun _ => rfl] at h
      cases h
  refine ⟨hunknown (by simp [effects]), hunknown (by simp [effects]), hunknown (by simp [effects]), fun e he => ?_⟩
  by_contra hlong
  have hmem : optionalEffect (fun e m => if STUN_MAX_REASON_LENGTH < e.reasonBytes.length then none
      else some { m with error_code := some e.received }) msg.error_code ∈ effects msg hmac fingerprint := by
    simp [effects]
  rw [he] at hmem
  rw [run_eq_none hmem fun _ => if_pos (not_le.mp hlong)] at h
  cases h

/-! ### The bytes of a message -/

def headerWith (n : ℕ) : Bytes :=
  be16 (msg.type ||| msg.method) ++ (be16 (.ofNat n) ++ (be32 MS_STUN_MAGIC_COOKIE ++ msg.tr_id.toList))

variable (n : ℕ)

lemma length_headerWith : (headerWith msg n).length = STUN_MESSAGE_HEADER_LENGTH := by
  rw [headerWith, length_append, length_append, length_append, Vector.toList_length]
  rfl

lemma encodeMessageLength_headerWith (n len : ℕ) (l : Bytes) :
    encodeMessageLength (headerWith msg n ++ l) len = headerWith msg len ++ l := by
  rw [headerWith, headerWith, append_assoc, append_assoc, append_assoc, append_assoc]
  exact patch_append (be16 (msg.type ||| msg.method)) (be16 (.ofNat n)) _ rfl

lemma lengthened_headerWith (n added : ℕ) (l : Bytes) :
    lengthened (headerWith msg n ++ l) added = headerWith msg (l.length + added) ++ l := by
  rw [lengthened, encodeMessageLength_headerWith, length_append, length_headerWith, Nat.add_sub_cancel_left]

variable (D : Digests)

def sentIntegrity : Option (Buf 20) :=
  if msg.has_message_integrity then integrity D msg (headerWith msg 0 ++ encodeAttributes msg) else none

lemma flatten_parts : (parts msg hmac fingerprint).flatten = encodeAttributes msg ++ (optional encodeIntegrity hmac ++
    optional (fun x => be16 AttributeType.fingerprint.code ++ (be16 4 ++ be32 x)) fingerprint) := by
  simp only [parts, encodeAttributes, flatten_cons, flatten_nil, append_assoc, append_nil]

lemma exists_encodeMessageIntegrity : ∃ n, encodeMessageIntegrity D msg (headerWith msg 0 ++ encodeAttributes msg) =
    headerWith msg n ++ (encodeAttributes msg ++ optional encodeIntegrity (sentIntegrity msg D)) := by
  rw [encodeMessageIntegrity, sentIntegrity]
  split_ifs with h
  · cases integrity D msg (headerWith msg 0 ++ encodeAttributes msg) with
    | none => exact ⟨0, by simp [optional]⟩
    | some hmac =>
      refine ⟨(encodeAttributes msg).length + 24, ?_⟩
      simp only [lengthened_headerWith, append_assoc]
      rfl
  · exact ⟨0, by simp [optional]⟩

lemma exists_encodeMessage : ∃ fingerprint : Option UInt32, fingerprint.isSome = msg.has_fingerprint ∧
    encodeMessage D msg = headerWith msg (parts msg (sentIntegrity msg D) fingerprint).flatten.length ++
      (parts msg (sentIntegrity msg D) fingerprint).flatten := by
  obtain ⟨n, hn⟩ := exists_encodeMessageIntegrity msg D
  have hheader : encodeMessageHeader msg.type msg.method msg.tr_id = headerWith msg 0 := rfl
  simp only [encodeMessage, hheader, hn, flatten_parts]
  cases msg.has_fingerprint with
  | false =>
    refine ⟨none, rfl, ?_⟩
    simp only [Bool.false_eq_true, if_false, encodeMessageLength_headerWith]
    rw [length_append, length_headerWith, Nat.add_sub_cancel_left]
    simp [optional]
  | true =>
    refine ⟨some (calculateFingerprint (lengthened (headerWith msg n ++
      (encodeAttributes msg ++ optional encodeIntegrity (sentIntegrity msg D))) 8) ^^^ 0x5354554E), rfl, ?_⟩
    simp only [if_true, encodeFingerprint, lengthened_headerWith, append_assoc, encodeMessageLength_headerWith]
    rw [length_append, length_headerWith, Nat.add_sub_cancel_left]
    rfl

section headerWith

variable (n : ℕ) (l : Bytes)

lemma be16At_headerWith_type : be16At (headerWith msg n ++ l) 0 = msg.type ||| msg.method := by
  apply be16At_of_drop
  rw [headerWith, append_assoc]
  rfl

lemma be16At_headerWith_length : be16At (headerWith msg n ++ l) 2 = .ofNat n := by
  apply be16At_of_drop
  rw [headerWith, append_assoc, append_assoc]
  rfl

lemma be32At_headerWith : be32At (headerWith msg n ++ l) 4 = MS_STUN_MAGIC_COOKIE := by
  apply be32At_of_drop
  rw [headerWith, append_assoc, append_assoc, append_assoc]
  rfl

lemma bufAt_headerWith : bufAt (headerWith msg n ++ l) 8 12 = msg.tr_id := by
  apply bufAt_of_drop
  rw [headerWith, append_assoc, append_assoc, append_assoc]
  rfl

lemma announces_headerWith : Announces (headerWith msg l.length ++ l) ↔ l.length < 2 ^ 16 := by
  have hlength : (headerWith msg l.length ++ l).length = STUN_MESSAGE_HEADER_LENGTH + l.length := by
    rw [length_append, length_headerWith]
  constructor
  · intro h
    have hannounced := h.length
    rw [be16At_headerWith_length, hlength, Nat.add_comm, Nat.add_left_cancel_iff] at hannounced
    exact hannounced.symm.trans_lt (toNat_lt _)
  · intro h
    refine ⟨hlength.ge.trans' (Nat.le_add_right _ _), be32At_headerWith msg _ l, ?_⟩
    rw [be16At_headerWith_length, hlength, toNat_ofNat', mod_eq_of_lt h, Nat.add_comm]

end headerWith

/-! ### Round trip -/

/-- What a message says: its length, the secrets behind its integrity and the values computed by the encoder are left
out. -/
def MSStunMessage.content : MSStunMessage :=
  { msg with
    length := 0
    password := none
    ha1 := none
    message_integrity := none
    fingerprint := 0
    has_dummy_message_integrity := false }

/-- The decoder accepts what the encoder writes of the message, and gives back its content. -/
def RoundTrips : Prop :=
  ∀ outside, ∃ msg' d, createFromBufferParsing ⟨encodeMessage D msg, outside⟩ = .ok msg' d ∧ msg'.content = msg.content

/-- The integrity can be computed. -/
def HasCredentials : Prop :=
  msg.ha1 ≠ none ∨ (∃ s ∈ msg.username, 0 < s.strlen) ∧ ∃ s ∈ msg.password, 0 < s.strlen

/-- A message with the types that the decoder knows and the lengths that it takes. -/
structure Codable : Prop extends Known msg where
  type : msg.type &&& 0x0110 = msg.type
  method : msg.method &&& 0x3EEF = msg.method
  username : ∀ s ∈ msg.username, s.strlen ≤ STUN_MAX_USERNAME_LENGTH
  realm : ∀ s ∈ msg.realm, s.strlen ≤ STUN_MAX_REALM_LENGTH
  nonce : ∀ s ∈ msg.nonce, s.strlen ≤ STUN_MAX_NONCE_LENGTH
  number : ∀ e ∈ msg.error_code, e.number.toNat < 25600
  reason_ne : ∀ e ∈ msg.error_code, ∀ s ∈ e.reason, 0 < s.strlen
  software : msg.software = none
  credentials : msg.has_message_integrity → HasCredentials msg
  length : (encodeAttributes msg).length + (if msg.has_message_integrity then 24 else 0) +
    (if msg.has_fingerprint then 8 else 0) < 2 ^ 16

lemma isSome_integrity (encoder : Bytes) : (integrity D msg encoder).isSome ↔ HasCredentials msg := by
  rw [integrity, HasCredentials]
  cases msg.ha1 with
  | some ha1 => simp
  | none =>
    cases msg.username with
    | none => simp
    | some username =>
      cases msg.password with
      | none => simp
      | some password =>
        simp only [ne_eq, not_true_eq_false, mem_def, some.injEq, exists_eq_left', false_or]
        split_ifs with h
        · refine iff_of_true ?_ h
          cases msg.realm with
          | none => rfl
          | some realm =>
            simp only
            split_ifs <;> rfl
        · exact iff_of_false (by simp) h

lemma isSome_sentIntegrity :
    (sentIntegrity msg D).isSome = msg.has_message_integrity ↔ (msg.has_message_integrity → HasCredentials msg) := by
  rw [sentIntegrity]
  cases msg.has_message_integrity with
  | false => simp
  | true => simp [isSome_integrity]

lemma length_flatten_parts : (parts msg hmac fingerprint).flatten.length =
    (encodeAttributes msg).length + (if hmac.isSome then 24 else 0) + (if fingerprint.isSome then 8 else 0) := by
  rw [flatten_parts, length_append, length_append, Nat.add_assoc]
  have hfingerprint : (optional (fun x => be16 AttributeType.fingerprint.code ++ (be16 4 ++ be32 x)) fingerprint).length =
      if fingerprint.isSome then 8 else 0 := by
    cases fingerprint <;> rfl
  have hintegrity : (optional encodeIntegrity hmac).length = if hmac.isSome then 24 else 0 := by
    cases hmac with
    | none => rfl
    | some hmac => simp [optional, encodeIntegrity]
  rw [hfingerprint, hintegrity]

lemma shortReason_of_length (h : (parts msg hmac fingerprint).flatten.length < 2 ^ 16) : ShortReason msg := by
  intro e he
  have hmem : optional encodeErrorCode msg.error_code ∈ parts msg hmac fingerprint := by simp [parts]
  have hle := (sublist_flatten_of_mem hmem).length_le
  have hlength : (optional encodeErrorCode msg.error_code).length =
      4 + ((errorCodeValue e).length + (encodePadding (errorCodeValue e).length).length) := by
    rw [he, optional, map_some, getD_some, encodeErrorCode_eq, length_append, length_append,
      length_append, length_be16, length_be16]
    omega
  omega

/-- The decoder gives the message that the attributes make, if their length is a 16-bit one. -/
lemma createFromBufferParsing_parts (outside : ℕ → UInt8) (msg' : MSStunMessage) :
    (∃ d, createFromBufferParsing ⟨headerWith msg (parts msg hmac fingerprint).flatten.length ++
        (parts msg hmac fingerprint).flatten, outside⟩ = .ok msg' d) ↔
      (parts msg hmac fingerprint).flatten.length < 2 ^ 16 ∧
        run (effects msg hmac fingerprint) (headerOf (headerWith msg (parts msg hmac fingerprint).flatten.length ++
          (parts msg hmac fingerprint).flatten)) = some msg' := by
  by_cases h : (parts msg hmac fingerprint).flatten.length < 2 ^ 16
  · obtain ⟨d, hd, heq⟩ := createFromBufferParsing_of_announces
      (show Announces (Block.mk (headerWith msg _ ++ (parts msg hmac fingerprint).flatten) outside).bytes from
        (announces_headerWith msg _).mpr h)
    obtain ⟨as, has, hwhole, hread⟩ := encodes_parts msg hmac fingerprint (shortReason_of_length msg hmac fingerprint h)
    simp only [drop_left' (length_headerWith msg _)] at hd
    rw [has] at hd
    have hfuel : (as.flatMap Attribute.bytes).length <
        (headerWith msg (parts msg hmac fingerprint).flatten.length ++ (parts msg hmac fingerprint).flatten).length + 1 := by
      rw [length_append, ← has]
      omega
    have hparse := parseAttributes_flatMap (m := headerOf (headerWith msg (parts msg hmac fingerprint).flatten.length ++
      (parts msg hmac fingerprint).flatten)) hwhole hd hfuel
    rw [hread] at hparse
    rw [heq, and_iff_right h]
    cases hrun : run (effects msg hmac fingerprint) (headerOf (headerWith msg (parts msg hmac fingerprint).flatten.length ++
      (parts msg hmac fingerprint).flatten)) with
    | none =>
      rw [hrun] at hparse
      obtain ⟨d', hparse⟩ := hparse
      refine iff_of_false ?_ nofun
      rintro ⟨d'', hok⟩
      rw [hparse] at hok
      cases hok
    | some msg'' =>
      rw [hrun] at hparse
      obtain ⟨d', hparse⟩ := hparse
      rw [hparse]
      constructor
      · rintro ⟨d'', hok⟩
        cases hok
        rfl
      · rintro hok
        cases hok
        exact ⟨d', rfl⟩
  · obtain ⟨d, heq, -⟩ := createFromBufferParsing_of_not_announces
      (show ¬ Announces (Block.mk (headerWith msg _ ++ (parts msg hmac fingerprint).flatten) outside).bytes from
        mt (announces_headerWith msg _).mp h)
    refine iff_of_false ?_ fun hlt => h hlt.1
    rintro ⟨d', hok⟩
    rw [heq] at hok
    cases hok

lemma truncate_eq_self_iff (s : CString) : truncate n s = s ↔ s.strlen ≤ n := by
  rw [Subtype.ext_iff, truncate, take_eq_self_iff]
  rfl

lemma map_truncate_iff (field : Option CString) : field.map (truncate n) = field ↔ ∀ s ∈ field, s.strlen ≤ n := by
  cases field with
  | none => simp
  | some s => simp [truncate_eq_self_iff]

lemma toNat_received_number (e : MSStunErrorCode) :
    e.received.number.toNat = e.number.toNat / 100 % 256 * 100 + e.number.toNat % 100 := by
  have hlt := e.number.toNat_lt
  have hclass : (e.number / 100).toUInt8.toNat = e.number.toNat / 100 % 256 := by
    rw [toNat_toUInt8, UInt16.toNat_div]
    rfl
  have hmul : (e.number / 100 * 100).toNat = e.number.toNat / 100 * 100 := by
    rw [UInt16.toNat_mul, UInt16.toNat_div]
    exact mod_eq_of_lt ((div_mul_le_self _ _).trans_lt hlt)
  have hcode : (e.number - e.number / 100 * 100).toUInt8.toNat = e.number.toNat % 100 := by
    rw [toNat_toUInt8, UInt16.toNat_sub_of_le _ _ (le_iff_toNat_le.mpr (by rw [hmul]; omega)), hmul]
    omega
  rw [MSStunErrorCode.received, toNat_ofNat', hclass, hcode]
  omega

/-- An error code comes back if its class is on 8 bits and its reason is not empty. -/
lemma received_eq_self_iff (e : MSStunErrorCode) :
    e.received = e ↔ e.number.toNat < 25600 ∧ ∀ s ∈ e.reason, 0 < s.strlen := by
  have hnumber : e.received.number = e.number ↔ e.number.toNat < 25600 := by
    rw [← UInt16.toNat_inj, toNat_received_number]
    have hlt := e.number.toNat_lt
    omega
  have hreason : e.received.reason = e.reason ↔ ∀ s ∈ e.reason, 0 < s.strlen := by
    rw [MSStunErrorCode.received]
    cases e.reason with
    | none => simp
    | some s => simp
  rw [← hnumber, ← hreason]
  constructor
  · intro heq
    exact ⟨congrArg _ heq, congrArg _ heq⟩
  · rintro ⟨hnumber, hreason⟩
    rcases e with ⟨reason, number⟩
    exact congrArg₂ MSStunErrorCode.mk hreason hnumber

lemma or_and_distrib (a b c : UInt16) : (a ||| b) &&& c = a &&& c ||| b &&& c :=
  UInt16.toBitVec_inj.mp BitVec.and_or_distrib_right

lemma and_eq_zero {a b c : UInt16} (h : a &&& b = a) (hbc : b &&& c = 0) : a &&& c = 0 := by
  rw [← h, UInt16.and_assoc, hbc, UInt16.and_zero]

/-- The bits of the type and of the method are apart. -/
lemma type_or_method_iff (type method : UInt16) :
    (type ||| method) &&& 0x0110 = type ∧ (type ||| method) &&& 0x3EEF = method ↔
      type &&& 0x0110 = type ∧ method &&& 0x3EEF = method := by
  constructor
  · rintro ⟨htype, hmethod⟩
    constructor
    · nth_rewrite 1 [← htype]
      rw [UInt16.and_assoc, UInt16.and_self, htype]
    · nth_rewrite 1 [← hmethod]
      rw [UInt16.and_assoc, UInt16.and_self, hmethod]
  · rintro ⟨htype, hmethod⟩
    rw [or_and_distrib, or_and_distrib, htype, hmethod, and_eq_zero htype (by decide), and_eq_zero hmethod (by decide),
      UInt16.or_zero, UInt16.zero_or]
    exact ⟨rfl, rfl⟩

/-- When the decoded content is the content of the message. -/
lemma content_received_iff (l : Bytes) (h : Known msg) :
    (received msg hmac fingerprint (headerOf (headerWith msg n ++ l))).content = msg.content ↔
      ((msg.type ||| msg.method) &&& 0x0110 = msg.type ∧ (msg.type ||| msg.method) &&& 0x3EEF = msg.method) ∧
      msg.username.map (truncate STUN_MAX_USERNAME_LENGTH) = msg.username ∧
      msg.realm.map (truncate STUN_MAX_REALM_LENGTH) = msg.realm ∧
      msg.nonce.map (truncate STUN_MAX_NONCE_LENGTH) = msg.nonce ∧
      msg.error_code.map MSStunErrorCode.received = msg.error_code ∧
      msg.software = none ∧ hmac.isSome = msg.has_message_integrity ∧ fingerprint.isSome = msg.has_fingerprint := by
  have htype : (headerOf (headerWith msg n ++ l)).type = (msg.type ||| msg.method) &&& 0x0110 := by
    rw [← be16At_headerWith_type msg n l]
    rfl
  have hmethod : (headerOf (headerWith msg n ++ l)).method = (msg.type ||| msg.method) &&& 0x3EEF := by
    rw [← be16At_headerWith_type msg n l]
    rfl
  have htr_id : (headerOf (headerWith msg n ++ l)).tr_id = msg.tr_id := bufAt_headerWith msg n l
  have hunmasked (field : Option MSStunAddress) :
      (effects.unmasked msg (headerOf (headerWith msg n ++ l)) field).or none = field := by
    rw [effects.unmasked, htr_id, or_none]
    cases field with
    | none => rfl
    | some addr => exact congrArg some (addr.xor_xor msg.tr_id)
  constructor
  · intro heq
    have hcongr {α : Type} (f : MSStunMessage → α) := congrArg f heq
    refine ⟨⟨?_, ?_⟩, ?_, ?_, ?_, ?_, ?_, ?_, ?_⟩
    · rw [← htype]
      exact hcongr MSStunMessage.type
    · rw [← hmethod]
      exact hcongr MSStunMessage.method
    · exact or_none.symm.trans (hcongr MSStunMessage.username)
    · exact or_none.symm.trans (hcongr MSStunMessage.realm)
    · exact or_none.symm.trans (hcongr MSStunMessage.nonce)
    · exact or_none.symm.trans (hcongr MSStunMessage.error_code)
    · exact (hcongr MSStunMessage.software).symm
    · exact (Bool.or_false _).symm.trans (hcongr MSStunMessage.has_message_integrity)
    · exact (Bool.or_false _).symm.trans (hcongr MSStunMessage.has_fingerprint)
  · rintro ⟨⟨htype', hmethod'⟩, husername, hrealm, hnonce, herror, hsoftware, hintegrity, hfingerprint⟩
    have hdata : (if 0 < msg.data.val.length then msg.data else MSStunMessage.new0.data) = msg.data := by
      split_ifs with hpos
      · rfl
      · exact Subtype.ext (length_eq_zero_iff.mp (Nat.eq_zero_of_not_pos hpos)).symm
    have hchange : (if msg.change_request ≠ 0 then msg.change_request else 0) = msg.change_request := by
      split_ifs with hne
      · rfl
      · exact (not_not.mp hne).symm
    rw [MSStunMessage.content, MSStunMessage.content, MSStunMessage.mk.injEq]
    exact ⟨htype.trans htype', hmethod.trans hmethod', rfl, htr_id, hdata, or_none.trans husername, rfl, rfl,
      or_none.trans hrealm, rfl, hsoftware.symm, or_none.trans hnonce, or_none.trans herror,
      or_none, hunmasked _, hunmasked _, hunmasked _, hchange, rfl, or_none, or_none, or_none,
      or_none, h.channel_number.symm, h.requested_transport.symm, h.requested_address_family.symm,
      (Bool.or_false _).trans hintegrity, rfl, (Bool.or_false _).trans hfingerprint, Bool.or_false _⟩

theorem roundTrips_iff_codable : RoundTrips msg D ↔ Codable msg := by
  obtain ⟨fingerprint, hfingerprint, hbytes⟩ := exists_encodeMessage msg D
  have hlength := length_flatten_parts msg (sentIntegrity msg D) fingerprint
  constructor
  · intro h
    obtain ⟨msg', d, hok, hcontent⟩ := h fun _ => 0
    rw [hbytes] at hok
    obtain ⟨hlt, hrun⟩ := (createFromBufferParsing_parts msg _ fingerprint _ msg').mp ⟨d, hok⟩
    have hknown := known_of_run msg _ fingerprint hrun
    rw [run_effects msg _ fingerprint hknown, some.injEq] at hrun
    rw [← hrun, content_received_iff msg _ fingerprint _ _ hknown, type_or_method_iff] at hcontent
    obtain ⟨⟨htype, hmethod⟩, husername, hrealm, hnonce, herror, hsoftware, hintegrity, -⟩ := hcontent
    rw [hlength, hintegrity, hfingerprint] at hlt
    have herror' : ∀ e ∈ msg.error_code, e.received = e := by
      intro e he
      rw [he, map_some, some.injEq] at herror
      exact herror
    exact
      { toKnown := hknown
        type := htype
        method := hmethod
        username := (map_truncate_iff _ _).mp husername
        realm := (map_truncate_iff _ _).mp hrealm
        nonce := (map_truncate_iff _ _).mp hnonce
        number := fun e he => ((received_eq_self_iff e).mp (herror' e he)).1
        reason_ne := fun e he => ((received_eq_self_iff e).mp (herror' e he)).2
        software := hsoftware
        credentials := (isSome_sentIntegrity msg D).mp hintegrity
        length := hlt }
  · intro h outside
    have hintegrity := (isSome_sentIntegrity msg D).mpr h.credentials
    have hlt : (parts msg (sentIntegrity msg D) fingerprint).flatten.length < 2 ^ 16 := by
      rw [hlength, hintegrity, hfingerprint]
      exact h.length
    have herror : msg.error_code.map MSStunErrorCode.received = msg.error_code := by
      cases herror : msg.error_code with
      | none => rfl
      | some e =>
        rw [map_some, (received_eq_self_iff e).mpr ⟨h.number e herror, h.reason_ne e herror⟩]
    obtain ⟨d, hok⟩ := (createFromBufferParsing_parts msg _ fingerprint outside _).mpr
      ⟨hlt, run_effects msg _ fingerprint h.toKnown _⟩
    refine ⟨_, d, by rw [hbytes]; exact hok, ?_⟩
    rw [content_received_iff msg _ fingerprint _ _ h.toKnown, type_or_method_iff]
    exact ⟨⟨h.type, h.method⟩, (map_truncate_iff _ _).mpr h.username, (map_truncate_iff _ _).mpr h.realm,
      (map_truncate_iff _ _).mpr h.nonce, herror, h.software, hintegrity, hfingerprint⟩

/-- The decoder gives back what the encoder writes of a message with known types and lengths. -/
theorem roundTrips_of_codable (h : Codable msg) : RoundTrips msg D := (roundTrips_iff_codable msg D).mpr h

end message

/-- A connectivity check. -/
def bindingRequest : MSStunMessage :=
  { new0 with
    method := 0x001
    tr_id := ⟨[1, 2, 3, 4, 5, 6, 7, 8, 9, 10, 11, 12], rfl⟩
    username := some ⟨[97, 58, 98], by decide⟩
    password := some ⟨[112], by decide⟩
    priority := some 1845501695
    ice_controlling := some 0x0123456789ABCDEF
    has_message_integrity := true
    has_fingerprint := true
    has_use_candidate := true }

/-- Hash functions that hash nothing. -/
def noDigests : Digests := ⟨fun _ _ => zeros 20, fun _ => zeros 16⟩

theorem roundTrips_bindingRequest : RoundTrips bindingRequest noDigests :=
  roundTrips_of_codable bindingRequest noDigests
    { requested_transport := rfl
      requested_address_family := rfl
      channel_number := rfl
      reason := nofun
      type := by decide
      method := by decide
      username := by decide
      realm := nofun
      nonce := nofun
      number := nofun
      reason_ne := nofun
      software := rfl
      credentials := fun _ => .inr ⟨⟨_, rfl, by decide⟩, ⟨_, rfl, by decide⟩⟩
      length := by decide }

def allocateRequest : MSStunMessage :=
  { new0 with
    method := 0x003
    requested_transport := some 17 }

theorem not_roundTrips_allocate : ¬ ∀ msg D, RoundTrips msg D := by
  intro h
  obtain ⟨msg', d, hok, -⟩ := h allocateRequest noDigests fun _ => 0
  have hreturns : returns parseMessage (.start ⟨encodeMessage noDigests allocateRequest, fun _ => 0⟩) = true := by
    rw [createFromBufferParsing] at hok
    rw [returns, hok]
  exact absurd hreturns (by decide)

end Stun
