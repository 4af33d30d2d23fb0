import LinphoneSdk.Bctoolbox.Escaping
import Mathlib.Data.List.Nodup
import Mathlib.Data.List.Perm.Basic

/-!
# Comparison of SIP URIs

`belle_sip_uri_equals` decodes the texts while it compares them, looks up five parameters whatever their case and the
others by their exact name, from one side only. It is an equivalence that ignores order, case and encoding exactly
around the URIs without parameters.
-/

namespace BelleSip

open CString Bctoolbox List Option

/-! ### URIs -/

structure ParamPair where
  name : Bytes
  value : Option Bytes

/-- The parameters: `belle_sip_parameters_set_parameter` replaces the one of the same name. -/
structure Parameters where
  param_list : List ParamPair
  nodup : (param_list.map ParamPair.name).Nodup

/-- What the comparison reads of a URI. -/
structure Uri where
  params : Parameters
  secure : UInt32
  user : Option Bytes
  host : Option Bytes
  port : ℤ

def tolower (c : UInt8) : UInt8 := if 65 ≤ c ∧ c ≤ 90 then c + 32 else c

/-- Equal up to the case of the letters. -/
def CaseEq (s t : Bytes) : Prop := s.map tolower = t.map tolower

instance decidableCaseEq (s t : Bytes) : Decidable (CaseEq s t) :=
  inferInstanceAs (Decidable (s.map tolower = t.map tolower))

def getParameter (list : List ParamPair) (name : Bytes) : Option Bytes :=
  (list.find? fun p => p.name = name).bind ParamPair.value

def getCaseParameter (list : List ParamPair) (name : Bytes) : Option Bytes :=
  (list.find? fun p => CaseEq p.name name).bind ParamPair.value

/-! ### The comparison -/

def upper (case_sensitive : Bool) (c : UInt8) : UInt8 :=
  if !case_sensitive ∧ c < 0x7B ∧ 0x60 < c then c - 0x20 else c

/-- The next character, 0 at the end. -/
def nextChar (garbage : Bytes → UInt8) : Bytes → UInt8 × Bytes
  | [] => (0, [])
  | c :: a => getChar garbage c a

section

variable (garbage_a garbage_b : Bytes → UInt8)

/-- The loop of `uri_strcmp`, `true` when the strings differ. -/
def strcmpLoop (case_sensitive : Bool) (a b : Bytes) : Bool :=
  match a with
  | [] => upper case_sensitive 0 ≠ upper case_sensitive (nextChar garbage_b b).1
  | c :: a =>
    if upper case_sensitive (getChar garbage_a c a).1 ≠ upper case_sensitive (nextChar garbage_b b).1 then true
    else if (getChar garbage_a c a).1 = 0 ∨ (nextChar garbage_b b).1 = 0 then false
    else strcmpLoop case_sensitive (getChar garbage_a c a).2 (nextChar garbage_b b).2
  termination_by a.length
  decreasing_by exact length_getChar_lt garbage_a c a

def uriStrcmp (case_sensitive : Bool) : Option Bytes → Option Bytes → Bool
  | none, none => false
  | some a, some b => strcmpLoop garbage_a garbage_b case_sensitive a b
  | _, _ => true

def comparedParameters : List Bytes :=
  [bytes ['t', 'r', 'a', 'n', 's', 'p', 'o', 'r', 't'], bytes ['u', 's', 'e', 'r'], bytes ['t', 't', 'l'],
    bytes ['m', 'e', 't', 'h', 'o', 'd'], bytes ['m', 'a', 'd', 'd', 'r']]

variable (well_known_port well_known_port_tls : ℤ)

def getWellKnownPort (transport : Bytes) : ℤ :=
  if CaseEq transport (bytes ['U', 'D', 'P']) ∨ CaseEq transport (bytes ['T', 'C', 'P']) then well_known_port
  else if CaseEq transport (bytes ['D', 'T', 'L', 'S']) ∨ CaseEq transport (bytes ['T', 'L', 'S']) then
    well_known_port_tls
  else -1

def Uri.portOrDefault (uri : Uri) : ℤ :=
  if uri.port = 0 then
    match getCaseParameter uri.params.param_list (bytes ['t', 'r', 'a', 'n', 's', 'p', 'o', 'r', 't']) with
    | none => getWellKnownPort well_known_port well_known_port_tls (bytes ['U', 'D', 'P'])
    | some transport => getWellKnownPort well_known_port well_known_port_tls transport
  else uri.port

def Uri.equalsWithOmission (uri_a uri_b : Uri) (uri_omitting : Bool) : Bool :=
  if uri_a.secure ≠ uri_b.secure then false
  else if uriStrcmp garbage_a garbage_b true uri_a.user uri_b.user then false
  else if uriStrcmp garbage_a garbage_b false uri_a.host uri_b.host then false
  else if uri_omitting ∧ uri_a.portOrDefault well_known_port well_known_port_tls ≠
      uri_b.portOrDefault well_known_port well_known_port_tls then false
  else if ¬ uri_omitting ∧ uri_a.port ≠ uri_b.port then false
  else if comparedParameters.any fun param =>
      uriStrcmp garbage_a garbage_b false (getCaseParameter uri_a.params.param_list param)
        (getCaseParameter uri_b.params.param_list param) then false
  else uri_a.params.param_list.all fun a_param =>
    match getParameter uri_b.params.param_list a_param.name with
    | none => true
    | some b_param_value => !uriStrcmp garbage_b garbage_a false (some b_param_value) a_param.value

end

/-! ### What is compared -/

/-- The characters of a text up to the first that is decoded to 0. -/
def decoded (garbage : Bytes → UInt8) (s : Bytes) : Bytes :=
  match s with
  | [] => []
  | c :: a =>
    if (getChar garbage c a).1 = 0 then [] else (getChar garbage c a).1 :: decoded garbage (getChar garbage c a).2
  termination_by s.length
  decreasing_by exact length_getChar_lt garbage c a

/-- The characters that are compared. -/
def view (garbage : Bytes → UInt8) (case_sensitive : Bool) (s : Bytes) : Bytes :=
  (decoded garbage s).map (upper case_sensitive)

lemma upper_eq_zero_iff {case_sensitive : Bool} {c : UInt8} : upper case_sensitive c = 0 ↔ c = 0 := by
  rw [upper]
  split_ifs with h
  · have h₂ := UInt8.lt_iff_toNat_lt.mp h.2.2
    constructor
    · intro hzero
      have hle : (0x20 : UInt8) ≤ c := UInt8.le_iff_toNat_le.mpr (by simp at h₂ ⊢; omega)
      have hnat := congrArg UInt8.toNat hzero
      rw [UInt8.toNat_sub_of_le _ _ hle] at hnat
      simp at h₂ hnat
      omega
    · rintro rfl
      exact absurd h₂ (by decide)
  · rfl

section views

variable {garbage : Bytes → UInt8} {case_sensitive : Bool} {c : UInt8} {a : Bytes}

@[simp] lemma view_nil : view garbage case_sensitive [] = [] := by
  rw [view, decoded, map_nil]

lemma view_cons : view garbage case_sensitive (c :: a) = if (getChar garbage c a).1 = 0 then [] else
    upper case_sensitive (getChar garbage c a).1 :: view garbage case_sensitive (getChar garbage c a).2 := by
  rw [view, decoded]
  split_ifs
  · rfl
  · rfl

/-- The next character and what is compared after it. -/
lemma view_eq_nextChar (s : Bytes) : view garbage case_sensitive s = if (nextChar garbage s).1 = 0 then [] else
    upper case_sensitive (nextChar garbage s).1 :: view garbage case_sensitive (nextChar garbage s).2 := by
  cases s with
  | nil => rw [view_nil, nextChar, if_pos rfl]
  | cons c a => exact view_cons

end views

/-- The strings do not differ when their characters are the same. -/
lemma strcmpLoop_eq_false_iff (garbage_a garbage_b : Bytes → UInt8) (case_sensitive : Bool) (a b : Bytes) :
    strcmpLoop garbage_a garbage_b case_sensitive a b = false ↔
      view garbage_a case_sensitive a = view garbage_b case_sensitive b := by
  induction hn : a.length using Nat.strong_induction_on generalizing a b with
  | _ n ih =>
    have hzero : upper case_sensitive 0 = 0 := upper_eq_zero_iff.mpr rfl
    rw [view_eq_nextChar b]
    cases a with
    | nil =>
      rw [strcmpLoop, view_nil, hzero]
      split_ifs with hb
      · simp [hb, hzero]
      · have hne : upper case_sensitive (nextChar garbage_b b).1 ≠ 0 := fun h => hb (upper_eq_zero_iff.mp h)
        simp [hne.symm]
    | cons c a =>
      rw [strcmpLoop, view_cons]
      by_cases heq : upper case_sensitive (getChar garbage_a c a).1 = upper case_sensitive (nextChar garbage_b b).1
      · have hiff : (getChar garbage_a c a).1 = 0 ↔ (nextChar garbage_b b).1 = 0 := by
          rw [← @upper_eq_zero_iff case_sensitive, heq, upper_eq_zero_iff]
        rw [if_neg (not_not_intro heq)]
        by_cases hend : (nextChar garbage_b b).1 = 0
        · rw [if_pos (.inr hend), if_pos (hiff.mpr hend), if_pos hend]
          exact ⟨fun _ => rfl, fun _ => rfl⟩
        · have hstart : (getChar garbage_a c a).1 ≠ 0 := fun h => hend (hiff.mp h)
          rw [if_neg (not_or_intro hstart hend), if_neg hstart, if_neg hend, cons.injEq,
            ih _ (hn ▸ length_getChar_lt garbage_a c a) _ _ rfl]
          exact (and_iff_right heq).symm
      · rw [if_pos heq]
        refine ⟨fun h => (by cases h), fun h => absurd h ?_⟩
        split_ifs with ha hb
        · rw [ha, hb] at heq
          exact absurd rfl heq
        · exact not_false
        · exact not_false
        · exact fun hcons => heq (cons.inj hcons).1

lemma uriStrcmp_eq_false_iff (garbage_a garbage_b : Bytes → UInt8) (case_sensitive : Bool)
    (a b : Option Bytes) : uriStrcmp garbage_a garbage_b case_sensitive a b = false ↔
      a.map (view garbage_a case_sensitive) = b.map (view garbage_b case_sensitive) := by
  cases a <;> cases b <;> simp [uriStrcmp, strcmpLoop_eq_false_iff]

/-! ### Texts and their variations -/

def reserved : Bytes := bytes [';', '/', '?', ':', '@', '&', '=', '+', '$', ',']

/-- A character that means the same as its `%XX` form. -/
def Replaceable (c : UInt8) : Prop := c ∉ reserved ∧ c ≠ 37 ∧ c ≠ 0

/-- A character is replaced by its `%XX` form. -/
inductive Encodes : Bytes → Bytes → Prop where
  | here {c h l : UInt8} {a : Bytes} (hc : Replaceable c) (hv : hexPair h l = some c) :
      Encodes (c :: a) (37 :: h :: l :: a)
  | sequence {h l v : UInt8} {a a' : Bytes} (hv : hexPair h l = some v) (ha : Encodes a a') :
      Encodes (37 :: h :: l :: a) (37 :: h :: l :: a')
  | char {c : UInt8} {a a' : Bytes} (hc : sequenceValue c a = none) (ha : Encodes a a') :
      Encodes (c :: a) (c :: a')

/-- Two digits follow each `%` that two characters follow, and no character that can be replaced follows another `%`.
What comes after a character that is decoded to 0 does not count. -/
inductive WellEncoded : Bytes → Prop where
  | nil : WellEncoded []
  | char {c : UInt8} {a : Bytes} (hc : isEscapedChar (c :: a) = false)
      (hlast : c = 37 → ∀ d ∈ a, ¬ Replaceable d) (ha : c ≠ 0 → WellEncoded a) : WellEncoded (c :: a)
  | sequence {h l v : UInt8} {a : Bytes} (hv : hexPair h l = some v) (ha : v ≠ 0 → WellEncoded a) :
      WellEncoded (37 :: h :: l :: a)

section texts

variable {case_sensitive : Bool} {c h l v : UInt8} {a a' s s' : Bytes}

lemma view_of_not_escaped (garbage : Bytes → UInt8) (hc : isEscapedChar (c :: a) = false) :
    view garbage case_sensitive (c :: a) =
      if c = 0 then [] else upper case_sensitive c :: view garbage case_sensitive a := by
  rw [view_cons, getChar_of_not_escaped hc]

lemma view_of_hexPair (garbage : Bytes → UInt8) (hv : hexPair h l = some v) :
    view garbage case_sensitive (37 :: h :: l :: a) =
      if v = 0 then [] else upper case_sensitive v :: view garbage case_sensitive a := by
  rw [view_cons, getChar_of_hexPair garbage hv]

lemma isEscapedChar_of_ne (hc : c ≠ 37) (a : Bytes) : isEscapedChar (c :: a) = false := by
  simp [isEscapedChar, hc]

lemma sequenceValue_of_ne (hc : c ≠ 37) (a : Bytes) : sequenceValue c a = none := if_neg hc

/-- What a well-encoded text is compared by does not depend on what a failed conversion leaves. -/
lemma WellEncoded.view_eq (hs : WellEncoded s) (garbage garbage' : Bytes → UInt8) :
    view garbage case_sensitive s = view garbage' case_sensitive s := by
  induction hs with
  | nil => rw [view_nil, view_nil]
  | char hc _ _ ih =>
    rw [view_of_not_escaped garbage hc, view_of_not_escaped garbage' hc]
    split_ifs with hzero
    · rfl
    · rw [ih hzero]
  | sequence hv _ ih =>
    rw [view_of_hexPair garbage hv, view_of_hexPair garbage' hv]
    split_ifs with hzero
    · rfl
    · rw [ih hzero]

/-- A text of at most one character after a `%` has nothing to replace. -/
lemma not_encodes_of_last (hc : isEscapedChar (37 :: a) = false) (hlast : ∀ d ∈ a, ¬ Replaceable d) :
    ¬ Encodes a a' := by
  intro henc
  have hlength : a.length < 2 := by simpa [isEscapedChar] using hc
  cases henc with
  | here hd _ => exact hlast _ mem_cons_self hd
  | sequence _ _ => exact absurd hlength (by simp)
  | char _ hrest => cases hrest <;> exact absurd hlength (by simp)

/-- A well-encoded text is compared as before when a character is replaced. -/
lemma WellEncoded.view_encodes (hs : WellEncoded s) (henc : Encodes s s') (garbage : Bytes → UInt8) :
    view garbage case_sensitive s' = view garbage case_sensitive s := by
  induction henc with
  | here hc hv => rw [view_of_hexPair garbage hv, view_of_not_escaped garbage (isEscapedChar_of_ne hc.2.1 _)]
  | sequence hv _ ih =>
    rw [view_of_hexPair garbage hv, view_of_hexPair garbage hv]
    split_ifs with hzero
    · rfl
    · cases hs with
      | char hc _ _ => simp [isEscapedChar] at hc
      | sequence hv' ha =>
        obtain rfl := some.inj (hv.symm.trans hv')
        rw [ih (ha hzero)]
  | @char c a a' hc henc ih =>
    cases hs with
    | char hescaped hlast ha =>
      by_cases hpercent : c = 37
      · subst hpercent
        exact absurd henc (not_encodes_of_last hescaped (hlast rfl))
      · rw [view_of_not_escaped garbage hescaped, view_of_not_escaped garbage (isEscapedChar_of_ne hpercent _)]
        split_ifs with hzero
        · rfl
        · rw [ih (ha hzero)]
    | @sequence h l v a hv _ =>
      have hsome : sequenceValue 37 (h :: l :: a) = some v := hv
      rw [hsome] at hc
      cases hc

lemma Replaceable.of_hexDigit {n : ℕ} (hc : hexDigit? c = some n) : Replaceable c := by
  have hnot : ∀ d ∈ 37 :: 0 :: reserved, hexDigit? d = none := by decide +kernel
  have hne (d : UInt8) (hd : d ∈ 37 :: 0 :: reserved) : c ≠ d := by
    rintro rfl
    rw [hnot c hd] at hc
    cases hc
  refine ⟨fun hmem => hne c ?_ rfl, hne 37 mem_cons_self, hne 0 (mem_cons_of_mem _ mem_cons_self)⟩
  exact mem_cons_of_mem _ (mem_cons_of_mem _ hmem)

/-- The `%XX` form. -/
lemma Encodes.of_replaceable (hc : Replaceable c) :
    Encodes (c :: a) (37 :: hexDigit (c.toNat / 16) :: hexDigit (c.toNat % 16) :: a) :=
  .here hc (hexPair_hexDigit c)

lemma Encodes.append {w : Bytes} (hw : ∀ d ∈ w, d ≠ 37) (h : Encodes a a') : Encodes (w ++ a) (w ++ a') := by
  induction w with
  | nil => exact h
  | cons d w ih =>
    exact .char (sequenceValue_of_ne (hw d mem_cons_self) _) (ih fun e he => hw e (mem_cons_of_mem _ he))

/-- The conversion fails at a `%`, behind blanks or a sign. -/
lemma scan02x_eq_none {w : Bytes} (hw : ∀ d ∈ w, isspace d) {t : Bytes}
    (ht : t.head? = some 37 ∨ ∃ c r, t = c :: 37 :: r ∧ hexDigit? c = none ∧ isspace c = false) :
    scan02x (w ++ t) = none := by
  have hpercent : hexDigit? 37 = none := by decide
  have hdigits : (37 : UInt8) ≠ 43 ∧ (37 : UInt8) ≠ 45 := by decide
  have hspaces : skipSpaces (w ++ t) = skipSpaces t := dropWhile_append_of_pos hw
  rw [scan02x, hspaces]
  obtain hhead | ⟨c, r, rfl, hc, hspace⟩ := ht
  · obtain ⟨r, rfl⟩ := head?_eq_some_iff.mp hhead
    rw [skipSpaces, dropWhile_cons_of_neg (by decide)]
    cases r with
    | nil => rfl
    | cons d r =>
      simp only [hpercent, hdigits.1, hdigits.2, if_false]
      cases hd : hexDigit? d <;> rfl
  · rw [skipSpaces, dropWhile_cons_of_neg (by rw [hspace]; decide)]
    simp only [hc, hpercent]

/-- A conversion that succeeds fails once its first digit is replaced. -/
lemma exists_encodes_of_scan02x (hscan : scan02x a = some v) :
    ∃ a', Encodes a a' ∧ scan02x a' = none ∧ 2 ≤ a'.length := by
  have hsplit : a.takeWhile isspace ++ skipSpaces a = a := takeWhile_append_dropWhile
  have hspaces : ∀ d ∈ a.takeWhile isspace, isspace d := fun d hd => mem_takeWhile_imp hd
  have hpercent : ∀ d ∈ a.takeWhile isspace, d ≠ 37 := by
    rintro d hd rfl
    exact absurd (hspaces 37 hd) (by decide)
  have hfirst : ∀ c ∈ (skipSpaces a).head?, isspace c = false := by
    intro c hc
    have hhead := head?_dropWhile_not isspace a
    rw [← skipSpaces, mem_def.mp hc] at hhead
    simpa using hhead
  -- what follows the blanks begins with a digit or with a sign and a digit
  have hreplace : ∃ t', Encodes (skipSpaces a) t' ∧ 2 ≤ t'.length ∧
      (t'.head? = some 37 ∨ ∃ c r, t' = c :: 37 :: r ∧ hexDigit? c = none ∧ isspace c = false) := by
    rw [scan02x] at hscan
    rcases hskip : skipSpaces a with _ | ⟨c, t⟩
    · rw [hskip] at hscan
      cases hscan
    · rw [hskip] at hscan hfirst
      cases hc : hexDigit? c with
      | some m =>
        exact ⟨_, .of_replaceable (.of_hexDigit hc), by simp, .inl rfl⟩
      | none =>
        rcases t with _ | ⟨d, t⟩
        · simp only [hc] at hscan
          cases hscan
        · cases hd : hexDigit? d with
          | none =>
            simp only [hc, hd] at hscan
            cases hscan
          | some n =>
            have hne : c ≠ 37 := by
              rintro rfl
              have hsign : (37 : UInt8) ≠ 43 ∧ (37 : UInt8) ≠ 45 := by decide
              simp only [hc, hd, hsign.1, hsign.2, if_false] at hscan
              cases hscan
            exact ⟨_, .char (sequenceValue_of_ne hne _) (.of_replaceable (.of_hexDigit hd)), by simp,
              .inr ⟨c, _, rfl, hc, hfirst c rfl⟩⟩
  obtain ⟨t', henc, hlength, ht'⟩ := hreplace
  refine ⟨a.takeWhile isspace ++ t', ?_, scan02x_eq_none hspaces ht', ?_⟩
  · have happend := henc.append hpercent
    rwa [hsplit] at happend
  · rw [length_append]
    omega

lemma upper_one : upper case_sensitive 1 = 1 := by
  cases case_sensitive <;> rfl

lemma upper_two : upper case_sensitive 2 = 2 := by
  cases case_sensitive <;> rfl

/-- A failed conversion can be compared by something else than any given character. -/
lemma exists_view_ne (hlength : 2 ≤ a'.length) (hscan : scan02x a' = none) (t : Bytes) :
    ∃ garbage : Bytes → UInt8, view garbage case_sensitive (37 :: a') ≠ t := by
  have hescaped : isEscapedChar (37 :: a') = true := by simpa [isEscapedChar] using hlength
  have hview (g : UInt8) : view (fun _ => g) case_sensitive (37 :: a') =
      if g = 0 then [] else upper case_sensitive g :: view (fun _ => g) case_sensitive (a'.drop 2) := by
    rw [view_cons, getChar, if_pos hescaped, hscan]
    rfl
  by_contra hall
  push Not at hall
  have hone := (hall fun _ => 1).trans (hall fun _ => 2).symm
  rw [hview, hview, if_neg (by decide), if_neg (by decide), upper_one, upper_two] at hone
  exact absurd (cons.inj hone).1 (by decide)

/-- A text that is compared in the same way whatever a failed conversion leaves and whatever is replaced is
well encoded. -/
lemma wellEncoded_of_view_eq
    (hsame : ∀ garbage garbage', view garbage case_sensitive s = view garbage' case_sensitive s)
    (henc : ∀ s', Encodes s s' → ∀ garbage, view garbage case_sensitive s' = view garbage case_sensitive s) :
    WellEncoded s := by
  induction hn : s.length using Nat.strong_induction_on generalizing s with
  | _ n ih =>
    cases s with
    | nil => exact .nil
    | cons c a =>
      cases hc : isEscapedChar (c :: a) with
      | false =>
        by_cases hpercent : c = 37
        · subst hpercent
          rcases a with _ | ⟨d, _ | ⟨e, a⟩⟩
          · exact .char hc (fun _ d hd => by cases hd) fun _ => .nil
          · refine .char hc (fun _ d' hd' => ?_) fun _ => ?_
            · rw [mem_singleton.mp hd']
              intro hreplaceable
              have hreplaced : Encodes [37, d] (37 :: 37 :: hexDigit (d.toNat / 16) :: hexDigit (d.toNat % 16) :: []) :=
                .char rfl (.of_replaceable hreplaceable)
              obtain ⟨g, hg⟩ := @exists_view_ne case_sensitive _
                (show 2 ≤ (37 :: hexDigit (d.toNat / 16) :: hexDigit (d.toNat % 16) :: []).length by simp)
                (@scan02x_eq_none [] (fun _ h => by cases h) _ (.inl rfl)) (view (fun _ => 0) case_sensitive [37, d])
              exact hg ((henc _ hreplaced g).trans (hsame g _))
            · exact .char (by simp [isEscapedChar]) (fun _ e he => by cases he) fun _ => .nil
          · simp [isEscapedChar] at hc
        · refine .char hc (fun h => absurd h hpercent) fun hzero => ih _ (hn ▸ Nat.lt_succ_self _) (fun g g' => ?_)
            (fun a' ha' g => ?_) rfl
          · have hwhole := hsame g g'
            rw [view_of_not_escaped g hc, view_of_not_escaped g' hc, if_neg hzero, if_neg hzero] at hwhole
            exact (cons.inj hwhole).2
          · have hwhole := henc _ (.char (sequenceValue_of_ne hpercent a) ha') g
            rw [view_of_not_escaped g hc, view_of_not_escaped g (isEscapedChar_of_ne hpercent a'), if_neg hzero,
              if_neg hzero] at hwhole
            exact (cons.inj hwhole).2
      | true =>
        obtain ⟨rfl, h, l, rest, rfl⟩ := exists_of_isEscapedChar hc
        cases hv : hexPair h l with
        | none =>
          have hvalue : sequenceValue 37 (h :: l :: rest) = none := hv
          exfalso
          cases hscan : scan02x (h :: l :: rest) with
          | none =>
            obtain ⟨g, hg⟩ := @exists_view_ne case_sensitive _ (by simp) hscan
              (view (fun _ => 0) case_sensitive (37 :: h :: l :: rest))
            exact hg (hsame g _)
          | some v =>
            obtain ⟨a', ha', hnone, hlength⟩ := exists_encodes_of_scan02x hscan
            obtain ⟨g, hg⟩ := @exists_view_ne case_sensitive _ hlength hnone
              (view (fun _ => 0) case_sensitive (37 :: h :: l :: rest))
            exact hg ((henc _ (.char hvalue ha') g).trans (hsame g _))
        | some v =>
          refine .sequence hv fun hzero => ih _ ?_ (fun g g' => ?_) (fun a' ha' g => ?_) rfl
          · rw [← hn, length_cons, length_cons, length_cons]
            omega
          · have hwhole := hsame g g'
            rw [view_of_hexPair g hv, view_of_hexPair g' hv, if_neg hzero, if_neg hzero] at hwhole
            exact (cons.inj hwhole).2
          · have hwhole := henc _ (.sequence hv ha') g
            rw [view_of_hexPair g hv, view_of_hexPair g hv, if_neg hzero, if_neg hzero] at hwhole
            exact (cons.inj hwhole).2

/-- The case of a letter decides neither what is compared nor what is escaped. -/
lemma of_tolower_eq {d : UInt8} (h : tolower c = tolower d) :
    upper false c = upper false d ∧ hexDigit? c = hexDigit? d ∧ (c = 37 ↔ d = 37) ∧ (c = 0 ↔ d = 0) := by
  have hsame : c = d ∨ (65 ≤ c ∧ c ≤ 90 ∧ d = c + 32) ∨ (65 ≤ d ∧ d ≤ 90 ∧ c = d + 32) := by
    rw [tolower, tolower] at h
    split_ifs at h with hc hd hd
    · exact .inl (by simpa using h)
    · exact .inr (.inl ⟨hc.1, hc.2, h.symm⟩)
    · exact .inr (.inr ⟨hd.1, hd.2, h⟩)
    · exact .inl h
  have hletter : ∀ n : Fin 26, upper false (UInt8.ofNat (65 + n)) = upper false (UInt8.ofNat (65 + n) + 32) ∧
      hexDigit? (UInt8.ofNat (65 + n)) = hexDigit? (UInt8.ofNat (65 + n) + 32) ∧
      (UInt8.ofNat (65 + n) ≠ 37 ∧ UInt8.ofNat (65 + n) + 32 ≠ 37) ∧
      UInt8.ofNat (65 + n) ≠ 0 ∧ UInt8.ofNat (65 + n) + 32 ≠ 0 := by decide +kernel
  have hcase {e : UInt8} (hle : 65 ≤ e) (hge : e ≤ 90) : ∃ n : Fin 26, UInt8.ofNat (65 + n) = e := by
    rw [UInt8.le_iff_toNat_le] at hle hge
    have hle' : 65 ≤ e.toNat := hle
    have hge' : e.toNat ≤ 90 := hge
    refine ⟨⟨e.toNat - 65, by omega⟩, ?_⟩
    rw [show 65 + (e.toNat - 65) = e.toNat by omega, UInt8.ofNat_toNat]
  obtain rfl | ⟨hle, hge, rfl⟩ | ⟨hle, hge, rfl⟩ := hsame
  · exact ⟨rfl, rfl, Iff.rfl, Iff.rfl⟩
  · obtain ⟨n, rfl⟩ := hcase hle hge
    obtain ⟨hupper, hdigit, hpercent, hzero⟩ := hletter n
    exact ⟨hupper, hdigit, iff_of_false hpercent.1 hpercent.2, iff_of_false hzero.1 hzero.2⟩
  · obtain ⟨n, rfl⟩ := hcase hle hge
    obtain ⟨hupper, hdigit, hpercent, hzero⟩ := hletter n
    exact ⟨hupper.symm, hdigit.symm, iff_of_false hpercent.2 hpercent.1, iff_of_false hzero.2 hzero.1⟩

lemma isEscapedChar_congr {d : UInt8} (hc : tolower c = tolower d) (ha : CaseEq a a') :
    isEscapedChar (c :: a) = isEscapedChar (d :: a') := by
  have hlength : a.length = a'.length := by simpa using congrArg length ha
  have hpercent := (of_tolower_eq hc).2.2.1
  simp [isEscapedChar, hlength, hpercent]

/-- A well-encoded text is compared as before when the case of its letters changes, where the case does not count. -/
lemma WellEncoded.view_caseEq (hs : WellEncoded s) (hcase : CaseEq s s') (garbage : Bytes → UInt8) :
    view garbage false s' = view garbage false s := by
  induction hs generalizing s' with
  | nil =>
    obtain rfl : s' = [] := by simpa [CaseEq] using hcase.symm
    rfl
  | char hc _ _ ih =>
    cases s' with
    | nil => cases hcase
    | cons d a' =>
      obtain ⟨hd, ha'⟩ := cons.inj hcase
      obtain ⟨hupper, -, -, hzero⟩ := of_tolower_eq hd
      rw [view_of_not_escaped garbage hc, view_of_not_escaped garbage ((isEscapedChar_congr hd ha').symm.trans hc),
        hupper, if_congr hzero rfl rfl]
      split_ifs with hend
      · rfl
      · rw [ih (fun h => hend (hzero.mp h)) ha']
  | sequence hv _ ih =>
    rcases s' with _ | ⟨d, _ | ⟨h', _ | ⟨l', a'⟩⟩⟩
    · exact absurd (congrArg length hcase) (by simp)
    · exact absurd (congrArg length hcase) (by simp)
    · exact absurd (congrArg length hcase) (by simp)
    · obtain ⟨hd, hcase⟩ := cons.inj hcase
      obtain ⟨hh, hcase⟩ := cons.inj hcase
      obtain ⟨hl, ha'⟩ := cons.inj hcase
      obtain rfl : d = 37 := (of_tolower_eq hd).2.2.1.mp rfl
      have hv' := hv
      rw [hexPair, (of_tolower_eq hh).2.1, (of_tolower_eq hl).2.1, ← hexPair] at hv'
      rw [view_of_hexPair garbage hv, view_of_hexPair garbage hv']
      split_ifs with hzero
      · rfl
      · rw [ih hzero ha']

end texts

/-! ### Variations of a URI -/

/-- The parameters in another order, letters of the host, of the name or of the value of a parameter in the other case,
or a character replaced by its `%XX` form in the user, in the host or in the value of a parameter. -/
inductive Variation (a : Uri) : Uri → Prop where
  | reorder (params : Parameters) (h : params.param_list.Perm a.params.param_list) : Variation a { a with params }
  | hostCase {host host' : Bytes} (ha : a.host = some host) (h : CaseEq host host') :
      Variation a { a with host := some host' }
  | nameCase {front back : List ParamPair} {name name' : Bytes} {value : Option Bytes} (params : Parameters)
      (ha : a.params.param_list = front ++ ⟨name, value⟩ :: back)
      (hparams : params.param_list = front ++ ⟨name', value⟩ :: back) (h : CaseEq name name') :
      Variation a { a with params }
  | value {front back : List ParamPair} {name value value' : Bytes} (params : Parameters)
      (ha : a.params.param_list = front ++ ⟨name, some value⟩ :: back)
      (hparams : params.param_list = front ++ ⟨name, some value'⟩ :: back)
      (h : CaseEq value value' ∨ Encodes value value') : Variation a { a with params }
  | userEncoded {user user' : Bytes} (ha : a.user = some user) (h : Encodes user user') :
      Variation a { a with user := some user' }
  | hostEncoded {host host' : Bytes} (ha : a.host = some host) (h : Encodes host host') :
      Variation a { a with host := some host' }

/-- What is claimed of a URI: it equals itself, the comparison with any other is the same from both sides, and the same
for its variations. -/
structure Uri.ComparedAsClaimed (well_known_port well_known_port_tls : ℤ) (uri_omitting : Bool) (a : Uri) : Prop where
  refl (garbage garbage' : Bytes → UInt8) :
    a.equalsWithOmission garbage garbage' well_known_port well_known_port_tls a uri_omitting = true
  symm (b : Uri) (garbage_a garbage_b : Bytes → UInt8) :
    a.equalsWithOmission garbage_a garbage_b well_known_port well_known_port_tls b uri_omitting =
      b.equalsWithOmission garbage_b garbage_a well_known_port well_known_port_tls a uri_omitting
  varied (a' : Uri) (h : Variation a a') (b : Uri) (garbage_a garbage_b : Bytes → UInt8) :
    a'.equalsWithOmission garbage_a garbage_b well_known_port well_known_port_tls b uri_omitting =
        a.equalsWithOmission garbage_a garbage_b well_known_port well_known_port_tls b uri_omitting ∧
      b.equalsWithOmission garbage_b garbage_a well_known_port well_known_port_tls a' uri_omitting =
        b.equalsWithOmission garbage_b garbage_a well_known_port well_known_port_tls a uri_omitting

structure Uri.Plain (a : Uri) : Prop where
  params : a.params.param_list = []
  user : ∀ user ∈ a.user, WellEncoded user
  host : ∀ host ∈ a.host, WellEncoded host

section uris

variable {garbage_a garbage_b : Bytes → UInt8} {well_known_port well_known_port_tls : ℤ} {a b : Uri}
  {uri_omitting : Bool}

/-- What the loop over the parameters of one side requires. -/
def Passes (garbage_a garbage_b : Bytes → UInt8) (list list' : List ParamPair) : Prop :=
  ∀ p ∈ list, ∀ value, getParameter list' p.name = some value →
    some (view garbage_b false value) = p.value.map (view garbage_a false)

/-- What is required of both sides alike. -/
structure Uri.Agrees (garbage_a garbage_b : Bytes → UInt8) (well_known_port well_known_port_tls : ℤ)
    (uri_omitting : Bool) (a b : Uri) : Prop where
  secure : a.secure = b.secure
  user : a.user.map (view garbage_a true) = b.user.map (view garbage_b true)
  host : a.host.map (view garbage_a false) = b.host.map (view garbage_b false)
  omitted : uri_omitting = true → a.portOrDefault well_known_port well_known_port_tls =
    b.portOrDefault well_known_port well_known_port_tls
  port : uri_omitting = false → a.port = b.port
  compared : ∀ param ∈ comparedParameters, (getCaseParameter a.params.param_list param).map (view garbage_a false) =
    (getCaseParameter b.params.param_list param).map (view garbage_b false)

lemma Uri.Agrees.symm (h : a.Agrees garbage_a garbage_b well_known_port well_known_port_tls uri_omitting b) :
    b.Agrees garbage_b garbage_a well_known_port well_known_port_tls uri_omitting a :=
  ⟨h.secure.symm, h.user.symm, h.host.symm, fun ho => (h.omitted ho).symm, fun ho => (h.port ho).symm,
    fun param hparam => (h.compared param hparam).symm⟩

lemma Uri.equalsWithOmission_iff :
    a.equalsWithOmission garbage_a garbage_b well_known_port well_known_port_tls b uri_omitting = true ↔
      a.Agrees garbage_a garbage_b well_known_port well_known_port_tls uri_omitting b ∧
        Passes garbage_a garbage_b a.params.param_list b.params.param_list := by
  have hstrcmp := uriStrcmp_eq_false_iff garbage_a garbage_b
  have hloop : (a.params.param_list.all fun a_param =>
      match getParameter b.params.param_list a_param.name with
      | none => true
      | some b_param_value => !uriStrcmp garbage_b garbage_a false (some b_param_value) a_param.value) = true ↔
      Passes garbage_a garbage_b a.params.param_list b.params.param_list := by
    rw [List.all_eq_true]
    refine forall₂_congr fun p hp => ?_
    cases getParameter b.params.param_list p.name with
    | none => exact ⟨fun _ value h => (by cases h), fun _ => rfl⟩
    | some value =>
      simp only [Bool.not_eq_true', uriStrcmp_eq_false_iff, Option.map_some, Option.some.injEq, forall_eq']
  rw [equalsWithOmission]
  constructor
  · intro h
    split_ifs at h with hsecure huser hhost homitted hport hcompared
    refine ⟨⟨not_not.mp hsecure, (hstrcmp true _ _).mp (Bool.not_eq_true _ ▸ huser),
      (hstrcmp false _ _).mp (Bool.not_eq_true _ ▸ hhost), fun ho => ?_, fun ho => ?_, fun param hparam => ?_⟩,
      hloop.mp h⟩
    · by_contra hne
      exact homitted ⟨ho, hne⟩
    · by_contra hne
      exact hport ⟨by rw [ho]; decide, hne⟩
    · rw [Bool.not_eq_true, List.any_eq_false] at hcompared
      exact (hstrcmp false _ _).mp (Bool.not_eq_true _ ▸ hcompared param hparam)
  · rintro ⟨hagrees, hpasses⟩
    have hcompared : comparedParameters.any (fun param => uriStrcmp garbage_a garbage_b false
        (getCaseParameter a.params.param_list param) (getCaseParameter b.params.param_list param)) = false := by
      rw [List.any_eq_false]
      intro param hparam
      rw [(hstrcmp false _ _).mpr (hagrees.compared param hparam)]
      exact Bool.false_ne_true
    have hport : ¬ (¬ uri_omitting = true ∧ a.port ≠ b.port) := by
      rintro ⟨ho, hne⟩
      exact hne (hagrees.port (by simpa using ho))
    rw [if_neg (not_not_intro hagrees.secure), (hstrcmp true _ _).mpr hagrees.user,
      (hstrcmp false _ _).mpr hagrees.host, if_neg Bool.false_ne_true, if_neg Bool.false_ne_true,
      if_neg (fun h => h.2 (hagrees.omitted h.1)), if_neg hport, hcompared, if_neg Bool.false_ne_true]
    exact hloop.mpr hpasses

/-! ### URIs without parameters -/

lemma passes_nil_left (list : List ParamPair) : Passes garbage_a garbage_b [] list := fun p hp => by cases hp

lemma passes_nil_right (list : List ParamPair) : Passes garbage_a garbage_b list [] := fun p _ value h => by cases h

/-- URIs without parameters that are compared by the same texts are compared alike. -/
lemma Uri.equalsWithOmission_congr {a' : Uri} (ha : a.params.param_list = []) (ha' : a'.params.param_list = [])
    (hsecure : a'.secure = a.secure) (hport : a'.port = a.port)
    (huser : a'.user.map (view garbage_a true) = a.user.map (view garbage_a true))
    (hhost : a'.host.map (view garbage_a false) = a.host.map (view garbage_a false)) :
    a'.equalsWithOmission garbage_a garbage_b well_known_port well_known_port_tls b uri_omitting =
        a.equalsWithOmission garbage_a garbage_b well_known_port well_known_port_tls b uri_omitting ∧
      b.equalsWithOmission garbage_b garbage_a well_known_port well_known_port_tls a' uri_omitting =
        b.equalsWithOmission garbage_b garbage_a well_known_port well_known_port_tls a uri_omitting := by
  have hdefault : a'.portOrDefault well_known_port well_known_port_tls =
      a.portOrDefault well_known_port well_known_port_tls := by
    rw [portOrDefault, portOrDefault, ha, ha', hport]
  have hagrees : a'.Agrees garbage_a garbage_b well_known_port well_known_port_tls uri_omitting b ↔
      a.Agrees garbage_a garbage_b well_known_port well_known_port_tls uri_omitting b := by
    constructor
    · rintro ⟨h₁, h₂, h₃, h₄, h₅, h₆⟩
      rw [ha'] at h₆
      refine ⟨hsecure ▸ h₁, huser ▸ h₂, hhost ▸ h₃, hdefault ▸ h₄, hport ▸ h₅, ?_⟩
      rwa [ha]
    · rintro ⟨h₁, h₂, h₃, h₄, h₅, h₆⟩
      rw [ha] at h₆
      refine ⟨hsecure.symm ▸ h₁, huser.symm ▸ h₂, hhost.symm ▸ h₃, hdefault.symm ▸ h₄, hport.symm ▸ h₅, ?_⟩
      rwa [ha']
  constructor <;> rw [Bool.eq_iff_iff, equalsWithOmission_iff, equalsWithOmission_iff, ha, ha']
  · rw [hagrees]
  · exact and_congr_left' ⟨fun h => (hagrees.mp h.symm).symm, fun h => (hagrees.mpr h.symm).symm⟩

lemma map_view_eq {case_sensitive : Bool} {text : Option Bytes} (htext : ∀ s ∈ text, WellEncoded s)
    (garbage garbage' : Bytes → UInt8) :
    text.map (view garbage case_sensitive) = text.map (view garbage' case_sensitive) := by
  cases text with
  | none => rfl
  | some s => exact congrArg some ((htext s rfl).view_eq garbage garbage')

lemma Uri.Plain.comparedAsClaimed (h : a.Plain) :
    a.ComparedAsClaimed well_known_port well_known_port_tls uri_omitting where
  refl garbage garbage' := by
    rw [equalsWithOmission_iff, h.params]
    refine ⟨⟨rfl, map_view_eq h.user _ _, map_view_eq h.host _ _, fun _ => rfl, fun _ => rfl, ?_⟩, passes_nil_left []⟩
    intro param _
    rw [h.params]
    rfl
  symm b garbage_a garbage_b := by
    rw [Bool.eq_iff_iff, equalsWithOmission_iff, equalsWithOmission_iff, h.params]
    exact ⟨fun hab => ⟨hab.1.symm, passes_nil_right _⟩, fun hba => ⟨hba.1.symm, passes_nil_left _⟩⟩
  varied a' hvariation b garbage_a garbage_b := by
    cases hvariation with
    | reorder params hperm =>
      rw [h.params] at hperm
      exact equalsWithOmission_congr h.params hperm.eq_nil rfl rfl rfl rfl
    | @hostCase host host' ha hcase =>
      refine equalsWithOmission_congr h.params h.params rfl rfl rfl ?_
      rw [ha]
      exact congrArg some ((h.host host ha).view_caseEq hcase garbage_a)
    | nameCase params ha =>
      rw [h.params] at ha
      exact absurd ha.symm (by simp)
    | value params ha =>
      rw [h.params] at ha
      exact absurd ha.symm (by simp)
    | @userEncoded user user' ha henc =>
      refine equalsWithOmission_congr h.params h.params rfl rfl ?_ rfl
      rw [ha]
      exact congrArg some ((h.user user ha).view_encodes henc garbage_a)
    | @hostEncoded host host' ha henc =>
      refine equalsWithOmission_congr h.params h.params rfl rfl rfl ?_
      rw [ha]
      exact congrArg some ((h.host host ha).view_encodes henc garbage_a)

/-! ### URIs with parameters -/

section

variable (h : a.ComparedAsClaimed well_known_port well_known_port_tls uri_omitting)
include h

lemma Uri.ComparedAsClaimed.varied_self {a' : Uri} (hvariation : Variation a a') (garbage : Bytes → UInt8) :
    a'.Agrees garbage garbage well_known_port well_known_port_tls uri_omitting a :=
  (equalsWithOmission_iff.mp (((h.varied a' hvariation a garbage garbage).1).trans (h.refl garbage garbage))).1

lemma Uri.ComparedAsClaimed.user : ∀ user ∈ a.user, WellEncoded user := by
  intro user huser
  refine @wellEncoded_of_view_eq true _ (fun g g' => ?_) (fun user' henc g => ?_)
  · have hsame := (equalsWithOmission_iff.mp (h.refl g g')).1.user
    rw [huser] at hsame
    exact some.inj hsame
  · have hsame := (h.varied_self (.userEncoded huser henc) g).user
    rw [huser] at hsame
    exact some.inj hsame

lemma Uri.ComparedAsClaimed.host : ∀ host ∈ a.host, WellEncoded host := by
  intro host hhost
  refine @wellEncoded_of_view_eq false _ (fun g g' => ?_) (fun host' henc g => ?_)
  · have hsame := (equalsWithOmission_iff.mp (h.refl g g')).1.host
    rw [hhost] at hsame
    exact some.inj hsame
  · have hsame := (h.varied_self (.hostEncoded hhost henc) g).host
    rw [hhost] at hsame
    exact some.inj hsame

end

def flip : Option Bytes → Option Bytes
  | none => some []
  | some _ => none

/-- Two lists of parameters that differ by one that has a value in one of them only: the loop passes from one side and
not from the other. -/
lemma not_passes_iff {garbage : Bytes → UInt8} {list list' : List ParamPair} {name : Bytes}
    {value : Option Bytes} (hmem : ⟨name, value⟩ ∈ list) (hmem' : ⟨name, flip value⟩ ∈ list')
    (hget : getParameter list name = value) (hget' : getParameter list' name = flip value)
    (hothers : ∀ p ∈ list, p.name ≠ name → getParameter list' p.name = p.value)
    (hothers' : ∀ p ∈ list', p.name ≠ name → getParameter list p.name = p.value ∨ getParameter list p.name = none) :
    ¬ (Passes garbage garbage list list' ↔ Passes garbage garbage list' list) := by
  cases value with
  | none =>
    intro hiff
    have hpasses : Passes garbage garbage list' list := by
      intro p hp v hv
      by_cases hname : p.name = name
      · rw [hname, hget] at hv
        cases hv
      · obtain hsame | hnone := hothers' p hp hname
        · rw [hsame] at hv
          rw [hv, map_some]
        · rw [hnone] at hv
          cases hv
    have hmissing := hiff.mpr hpasses _ hmem [] hget'
    cases hmissing
  | some w =>
    intro hiff
    have hpasses : Passes garbage garbage list list' := by
      intro p hp v hv
      by_cases hname : p.name = name
      · rw [hname, hget'] at hv
        cases hv
      · rw [hothers p hp hname] at hv
        rw [hv, map_some]
    have hmissing := hiff.mp hpasses _ hmem' w hget
    cases hmissing

/-- A URI that differs by such a parameter, and by none that is looked up whatever its case, is compared differently
from both sides. -/
lemma Uri.not_comparedAsClaimed {params : Parameters}
    (hcompared : ∀ param ∈ comparedParameters, getCaseParameter params.param_list param =
      getCaseParameter a.params.param_list param) {name : Bytes} {value : Option Bytes}
    (hmem : ⟨name, value⟩ ∈ a.params.param_list) (hmem' : ⟨name, flip value⟩ ∈ params.param_list)
    (hget : getParameter a.params.param_list name = value) (hget' : getParameter params.param_list name = flip value)
    (hothers : ∀ p ∈ a.params.param_list, p.name ≠ name → getParameter params.param_list p.name = p.value)
    (hothers' : ∀ p ∈ params.param_list, p.name ≠ name →
      getParameter a.params.param_list p.name = p.value ∨ getParameter a.params.param_list p.name = none) :
    ¬ a.ComparedAsClaimed well_known_port well_known_port_tls uri_omitting := by
  intro h
  let garbage : Bytes → UInt8 := fun _ => 0
  have hdefault : a.portOrDefault well_known_port well_known_port_tls =
      Uri.portOrDefault well_known_port well_known_port_tls { a with params } := by
    rw [portOrDefault, portOrDefault, hcompared _ mem_cons_self]
  have hagrees : a.Agrees garbage garbage well_known_port well_known_port_tls uri_omitting { a with params } :=
    ⟨rfl, rfl, rfl, fun _ => hdefault, fun _ => rfl, fun param hparam => by rw [hcompared param hparam]⟩
  have hsymm := h.symm { a with params } garbage garbage
  rw [Bool.eq_iff_iff, equalsWithOmission_iff, equalsWithOmission_iff, and_iff_right hagrees,
    and_iff_right hagrees.symm] at hsymm
  exact not_passes_iff hmem hmem' hget hget' hothers hothers' hsymm

def flipAt (name : Bytes) (p : ParamPair) : ParamPair :=
  if p.name = name then { p with value := flip p.value } else p

variable (name : Bytes)

@[simp] lemma name_flipAt (p : ParamPair) : (flipAt name p).name = p.name := by
  rw [flipAt]
  split_ifs <;> rfl

variable {p : ParamPair}

lemma flipAt_of_ne {name : Bytes} (h : p.name ≠ name) : flipAt name p = p := if_neg h

lemma map_name_flipAt (list : List ParamPair) :
    (list.map (flipAt name)).map ParamPair.name = list.map ParamPair.name := by
  rw [List.map_map]
  exact List.map_congr_left fun p _ => name_flipAt name p

lemma find?_map_flipAt (q : Bytes → Bool) (list : List ParamPair) :
    (list.map (flipAt name)).find? (fun p => q p.name) = (list.find? fun p => q p.name).map (flipAt name) := by
  rw [find?_map]
  exact congrArg (Option.map _) (congrArg (find? · list) (funext fun p => congrArg q (name_flipAt name p)))

variable {list : List ParamPair}

section

variable (hnodup : (list.map ParamPair.name).Nodup) (hp : p ∈ list)
include hnodup hp

lemma find?_of_mem : list.find? (fun q => q.name = p.name) = some p := by
  cases hfind : list.find? fun q => q.name = p.name with
  | none => exact absurd (find?_eq_none.mp hfind p hp) (by simp)
  | some q =>
    have hname : q.name = p.name := by simpa using find?_some hfind
    rw [inj_on_of_nodup_map hnodup (mem_of_find?_eq_some hfind) hp hname]

lemma getParameter_of_mem : getParameter list p.name = p.value := by
  rw [getParameter, find?_of_mem hnodup hp, bind_some]

lemma getParameter_map_flipAt (name : Bytes) :
    getParameter (list.map (flipAt name)) p.name = (flipAt name p).value := by
  rw [getParameter, find?_map_flipAt name (fun n => n = p.name), find?_of_mem hnodup hp, map_some, bind_some]

end

/-- The parameters with the value of one of them given or taken. -/
def Parameters.flipAt (params : Parameters) (name : Bytes) : Parameters where
  param_list := params.param_list.map (BelleSip.flipAt name)
  nodup := by
    rw [map_name_flipAt]
    exact params.nodup

/-- A parameter that no lookup whatever the case finds. -/
lemma Uri.not_comparedAsClaimed_of_hidden (hp : p ∈ a.params.param_list)
    (hhidden : ∀ param ∈ comparedParameters, (a.params.param_list.find? fun q => CaseEq q.name param) ≠ some p) :
    ¬ a.ComparedAsClaimed well_known_port well_known_port_tls uri_omitting := by
  have hflip : (BelleSip.flipAt p.name p) = ⟨p.name, flip p.value⟩ := if_pos rfl
  have hget := getParameter_map_flipAt a.params.nodup hp p.name
  rw [hflip] at hget
  refine @not_comparedAsClaimed _ _ a _ (a.params.flipAt p.name) (fun param hparam => ?_) p.name p.value hp ?_
    (getParameter_of_mem a.params.nodup hp) hget (fun q hq hne => ?_) (fun q hq hne => ?_)
  · rw [getCaseParameter, getCaseParameter, Parameters.flipAt, find?_map_flipAt p.name (fun n => CaseEq n param)]
    cases hfind : a.params.param_list.find? fun q => CaseEq q.name param with
    | none => rfl
    | some q =>
      have hne : q.name ≠ p.name := by
        intro hname
        rw [inj_on_of_nodup_map a.params.nodup (mem_of_find?_eq_some hfind) hp hname] at hfind
        exact hhidden param hparam hfind
      rw [map_some, flipAt_of_ne hne]
  · rw [← hflip]
    exact mem_map_of_mem hp
  · refine (getParameter_map_flipAt a.params.nodup hq p.name).trans ?_
    rw [flipAt_of_ne hne]
  · obtain ⟨r, hr, rfl⟩ := mem_map.mp hq
    rw [name_flipAt] at hne ⊢
    rw [flipAt_of_ne hne]
    exact .inl (getParameter_of_mem a.params.nodup hr)

/-- The letter in the other case. -/
def swapCase (c : UInt8) : UInt8 := if 65 ≤ c ∧ c ≤ 90 then c + 32 else if 97 ≤ c ∧ c ≤ 122 then c - 32 else c

lemma swapCase_spec (c : UInt8) :
    tolower (swapCase c) = tolower c ∧ (swapCase c = c → ¬ (97 ≤ tolower c ∧ tolower c ≤ 122)) := by
  have hall : ∀ n : Fin 256, tolower (swapCase (UInt8.ofNat n)) = tolower (UInt8.ofNat n) ∧
      (swapCase (UInt8.ofNat n) = UInt8.ofNat n →
        ¬ (97 ≤ tolower (UInt8.ofNat n) ∧ tolower (UInt8.ofNat n) ≤ 122)) := by decide +kernel
  have hc := hall ⟨c.toNat, c.toNat_lt⟩
  rwa [UInt8.ofNat_toNat] at hc

lemma caseEq_swapCase : CaseEq (name.map swapCase) name := by
  rw [CaseEq, List.map_map]
  exact List.map_congr_left fun c _ => (swapCase_spec c).1

/-- The name of a parameter that is looked up whatever its case has another spelling. -/
lemma swapCase_ne {name param : Bytes} (hparam : param ∈ comparedParameters) (h : CaseEq name param) :
    name.map swapCase ≠ name := by
  have hletter : ∀ param ∈ comparedParameters, ∃ d rest, param = d :: rest ∧ 97 ≤ tolower d ∧ tolower d ≤ 122 := by
    intro param hparam
    simp only [comparedParameters, mem_cons, not_mem_nil, or_false] at hparam
    obtain rfl | rfl | rfl | rfl | rfl := hparam <;> exact ⟨_, _, rfl, by decide, by decide⟩
  obtain ⟨d, rest, rfl, hd⟩ := hletter param hparam
  intro hsame
  cases name with
  | nil => cases h
  | cons c name =>
    have hc : tolower c = tolower d := (cons.inj h).1
    exact (swapCase_spec c).2 (cons.inj hsame).1 (hc ▸ hd)

/-- Two such parameters have names that differ in more than their case. -/
lemma eq_of_caseEq {param param' : Bytes} (hparam : param ∈ comparedParameters)
    (hparam' : param' ∈ comparedParameters) (h : CaseEq param param') : param = param' := by
  simp only [comparedParameters, mem_cons, not_mem_nil, or_false] at hparam hparam'
  obtain rfl | rfl | rfl | rfl | rfl := hparam <;> obtain rfl | rfl | rfl | rfl | rfl := hparam'
  all_goals first | rfl | exact absurd h (by decide)

/-- A URI with a parameter is compared differently from both sides with some other. -/
lemma Uri.ComparedAsClaimed.params_eq_nil
    (h : a.ComparedAsClaimed well_known_port well_known_port_tls uri_omitting) : a.params.param_list = [] := by
  by_contra hne
  obtain ⟨p, hp⟩ := exists_mem_of_ne_nil _ hne
  have hfound : ∀ q ∈ a.params.param_list, ∃ param ∈ comparedParameters,
      (a.params.param_list.find? fun r => CaseEq r.name param) = some q := by
    intro q hq
    by_contra hhidden
    push Not at hhidden
    exact not_comparedAsClaimed_of_hidden hq hhidden h
  obtain ⟨param, hparam, hfind⟩ := hfound p hp
  have hcase : CaseEq p.name param := by simpa using find?_some hfind
  -- the name in the other case is that of no parameter
  have hfresh : ∀ q ∈ a.params.param_list, p.name.map swapCase ≠ q.name := by
    intro q hq hname
    obtain ⟨param', hparam', hfind'⟩ := hfound q hq
    have hcase' : CaseEq q.name param' := by simpa using find?_some hfind'
    have hsame : CaseEq param param' := by
      have hswap := caseEq_swapCase p.name
      rw [hname] at hswap
      exact (hcase.symm.trans hswap.symm).trans hcase'
    obtain rfl := eq_of_caseEq hparam hparam' hsame
    obtain rfl : p = q := some.inj (hfind.symm.trans hfind')
    exact swapCase_ne hparam hcase hname
  have hnodup : ((⟨p.name.map swapCase, p.value⟩ :: (a.params.flipAt p.name).param_list).map ParamPair.name).Nodup := by
    rw [map_cons, nodup_cons]
    refine ⟨fun hmem => ?_, (a.params.flipAt p.name).nodup⟩
    rw [Parameters.flipAt, map_name_flipAt] at hmem
    obtain ⟨q, hq, hname⟩ := mem_map.mp hmem
    exact hfresh q hq hname.symm
  have hflip : (BelleSip.flipAt p.name p) = ⟨p.name, flip p.value⟩ := if_pos rfl
  have hlookup {name : Bytes} (hname : p.name.map swapCase ≠ name) :
      getParameter (⟨p.name.map swapCase, p.value⟩ :: (a.params.flipAt p.name).param_list) name =
        getParameter (a.params.flipAt p.name).param_list name := by
    rw [getParameter, find?_cons_of_neg (by simpa using hname), ← getParameter]
  have hget := getParameter_map_flipAt a.params.nodup hp p.name
  rw [hflip] at hget
  refine @not_comparedAsClaimed _ _ a _ ⟨_, hnodup⟩ (fun param' hparam' => ?_) p.name p.value hp ?_
    (getParameter_of_mem a.params.nodup hp) ((hlookup (hfresh p hp)).trans hget) (fun q hq hneq => ?_)
    (fun q hq hneq => ?_) h
  · by_cases hcase' : CaseEq p.name param'
    · obtain rfl := eq_of_caseEq hparam hparam' (hcase.symm.trans hcase')
      have hswapped : CaseEq (p.name.map swapCase) param := (caseEq_swapCase p.name).trans hcase
      rw [getCaseParameter, getCaseParameter, hfind, find?_cons_of_pos (by simpa using hswapped), bind_some, bind_some]
    · have hcase'' : ¬ CaseEq (p.name.map swapCase) param' := fun hc => hcase' ((caseEq_swapCase p.name).symm.trans hc)
      rw [getCaseParameter, getCaseParameter, find?_cons_of_neg (by simpa using hcase''), Parameters.flipAt,
        find?_map_flipAt p.name (fun n => CaseEq n param')]
      cases hfind' : a.params.param_list.find? fun q => CaseEq q.name param' with
      | none => rfl
      | some q =>
        have hneq : q.name ≠ p.name := by
          intro hname
          have hq : CaseEq q.name param' := by simpa using find?_some hfind'
          exact hcase' (hname ▸ hq)
        rw [map_some, flipAt_of_ne hneq]
  · rw [← hflip]
    exact mem_cons_of_mem _ (mem_map_of_mem hp)
  · rw [hlookup (hfresh q hq)]
    refine (getParameter_map_flipAt a.params.nodup hq p.name).trans ?_
    rw [flipAt_of_ne hneq]
  · obtain rfl | hq := mem_cons.mp hq
    · refine .inr ?_
      rw [getParameter, bind_eq_none_iff]
      intro r hr
      have hname : r.name = p.name.map swapCase := by simpa using find?_some hr
      exact absurd hname.symm (hfresh r (mem_of_find?_eq_some hr))
    · obtain ⟨r, hr, rfl⟩ := mem_map.mp hq
      rw [name_flipAt] at hneq ⊢
      rw [flipAt_of_ne hneq]
      exact .inl (getParameter_of_mem a.params.nodup hr)

end uris

/-- A URI equals itself, is compared in the same way from both sides, and its variations as it is itself, exactly when
it has no parameters and a well-encoded user and host. -/
theorem Uri.comparedAsClaimed_iff (well_known_port well_known_port_tls : ℤ) (uri_omitting : Bool) (a : Uri) :
    a.ComparedAsClaimed well_known_port well_known_port_tls uri_omitting ↔ a.Plain :=
  ⟨fun h => ⟨h.params_eq_nil, h.user, h.host⟩, fun h => h.comparedAsClaimed⟩

/-- `sip:h;x=1` equals `sip:h;x`, which does not equal `sip:h;x=1`. -/
theorem Uri.not_equals_comm : ¬ ∀ (garbage : Bytes → UInt8) (a b : Uri),
    a.equalsWithOmission garbage garbage 5060 5061 b false =
      b.equalsWithOmission garbage garbage 5060 5061 a false := by
  intro h
  let valueless : Uri := ⟨⟨[⟨[120], none⟩], nodup_singleton _⟩, 0, none, some [104], 0⟩
  let valued : Uri := ⟨⟨[⟨[120], some [49]⟩], nodup_singleton _⟩, 0, none, some [104], 0⟩
  have hcomm := h (fun _ => 0) valueless valued
  have hagrees : valueless.Agrees (fun _ => 0) (fun _ => 0) 5060 5061 false valued :=
    ⟨rfl, rfl, rfl, fun _ => rfl, fun _ => rfl, fun param hparam => by
      simp only [comparedParameters, mem_cons, not_mem_nil, or_false] at hparam
      obtain rfl | rfl | rfl | rfl | rfl := hparam <;> rfl⟩
  rw [Bool.eq_iff_iff, equalsWithOmission_iff, equalsWithOmission_iff, and_iff_right hagrees,
    and_iff_right hagrees.symm] at hcomm
  have hpasses : Passes (fun _ => 0) (fun _ => 0) valued.params.param_list valueless.params.param_list := by
    intro p hp value hvalue
    rw [mem_singleton.mp hp] at hvalue
    cases hvalue
  have hmissing := hcomm.mpr hpasses _ mem_cons_self [49] rfl
  cases hmissing

end BelleSip
