import LinphoneSdk.Lime.WriteBack
import Mathlib.Data.Prod.Lex

/-!
# No message is accepted twice

The message keys of a session are the leaves of a tree of derivations. The keys of a run carry their
place in the tree, which no operation reads, so that a session is described by its current place: the
keys of the messages accepted so far and the skipped keys stand before it, the keys that can still be
derived stand at or after it. Two places may hold the same key: what is asked of the primitives is that
no message of the run is opened with keys of two places.
-/

namespace Lime

open Bytes Exec List Option Session

variable {A : Curve} {C : Crypto A}

/-! ### Keys with their places -/

/-- Places of the keys: a chain key by the number of root derivations before it and its position on
its chain, a message key by the place of the chain key it comes from. -/
structure Crypto.Places (C : Crypto A) where
  depth : C.ChainKey → ℕ
  position : C.ChainKey → ℕ
  place : C.MessageKey → ℕ ×ₗ ℕ
  depth_root : ∀ RK input, depth (C.hkdf RK input).1 = depth RK + 1
  depth_chain : ∀ RK input, depth (C.hkdf RK input).2 = depth RK + 1
  depth_hmacCK : ∀ CK label, depth (C.hmacCK CK label) = depth CK
  position_hmacCK : ∀ CK label, position (C.hmacCK CK label) = position CK + 1
  place_hmacMK : ∀ CK label, place (C.hmacMK CK label) = toLex (depth CK, position CK)
  depth_zeroKey : depth C.zeroKey = 0

/-- The same primitives on keys that carry their place: the number of root derivations before them and
their position on the chain. -/
def Crypto.placed (C : Crypto A) : Crypto A where
  ECPrivate := C.ECPrivate
  ECSecret := C.ECSecret
  KEMPrivate := C.KEMPrivate
  KEMSecret := C.KEMSecret
  KEMRandom := C.KEMRandom
  ChainKey := C.ChainKey × ℕ × ℕ
  MessageKey := C.MessageKey × ℕ × ℕ
  ecPublic := C.ecPublic
  ecShared := C.ecShared
  kemPublic := C.kemPublic
  encaps := C.encaps
  decaps := C.decaps
  hkdf RK input :=
    let keys := C.hkdf RK.1 (match input with
      | .ec dhOut => .ec dhOut
      | .kem dhOut kemOut S R Pk Ct => .kem dhOut kemOut S R Pk Ct)
    ((keys.1, RK.2.1 + 1, 0), keys.2, RK.2.1 + 1, 0)
  hmacCK CK label := (C.hmacCK CK.1 label, CK.2.1, CK.2.2 + 1)
  hmacMK CK label := (C.hmacMK CK.1 label, CK.2)
  hkdfSeed seed := (C.hkdfSeed seed, 0, 0)
  zeroKey := (C.zeroKey, 0, 0)
  hashIndex := C.hashIndex
  AEAD_encrypt MK := C.AEAD_encrypt MK.1
  AEAD_decrypt MK := C.AEAD_decrypt MK.1

def Crypto.Places.placed (C : Crypto A) : C.placed.Places where
  depth CK := CK.2.1
  position CK := CK.2.2
  place MK := toLex MK.2
  depth_root _ _ := rfl
  depth_chain _ _ := rfl
  depth_hmacCK _ _ := rfl
  position_hmacCK _ _ := rfl
  place_hmacMK _ _ := rfl
  depth_zeroKey := rfl

/-- No message is opened with keys of two places. -/
def Crypto.Places.OpensOnce (g : C.Places) (opened : List (Bytes × C.MessageKey)) : Prop :=
  ∀ x ∈ opened, ∀ y ∈ opened, x.1 = y.1 → g.place x.2 = g.place y.2

/-! ### The current place of a session -/

abbrev SkippedKey (C : Crypto A) : Type := Bytes × UInt16 × C.MessageKey

def skippedKeys (l : List (ReceiverKeyChain C)) : List (SkippedKey C) :=
  l.flatMap fun c => c.messageKeys.map fun kv => (c.DHrIndex, kv)

@[simp] lemma skippedKeys_nil : skippedKeys ([] : List (ReceiverKeyChain C)) = [] := rfl

lemma skippedKeys_append (l l' : List (ReceiverKeyChain C)) :
    skippedKeys (l ++ l') = skippedKeys l ++ skippedKeys l' := flatMap_append

lemma skippedKeys_cons (c : ReceiverKeyChain C) (l : List (ReceiverKeyChain C)) :
    skippedKeys (c :: l) = (c.messageKeys.map fun kv => (c.DHrIndex, kv)) ++ skippedKeys l := rfl

/-- The keys of a table after an insertion were there or are among the ones inserted. -/
lemma KeyTable.of_insertChain {ch : ReceiverKeyChain C} {t t' : KeyTable C}
    (h : insertChain ch t = some t') {I : Bytes} {n : UInt16} {MK : C.MessageKey}
    (hk : t' I n = some MK) : t I n = some MK ∨ I = ch.DHrIndex ∧ (n, MK) ∈ ch.messageKeys := by
  obtain ⟨DHr, l⟩ := ch
  rw [insertChain] at h
  dsimp only at h ⊢
  induction l generalizing t with
  | nil =>
    cases h
    exact .inl hk
  | cons kv l ih =>
    rw [foldlM_cons, bind_eq_bind, bind_eq_some_iff] at h
    obtain ⟨t1, h1, h⟩ := h
    obtain hk1 | ⟨hI, hmem⟩ := ih h
    · rw [insertKey] at h1
      split_ifs at h1
      cases h1
      dsimp only at hk1
      split_ifs at hk1 with hrow
      · obtain ⟨rfl, rfl⟩ := hrow
        cases hk1
        exact .inr ⟨rfl, mem_cons_self⟩
      · exact .inl hk1
    · exact .inr ⟨hI, mem_cons_of_mem _ hmem⟩

lemma KeyTable.of_insertChains {l : List (ReceiverKeyChain C)} {t t' : KeyTable C}
    (h : insertChains l t = some t') {I : Bytes} {n : UInt16} {MK : C.MessageKey}
    (hk : t' I n = some MK) : t I n = some MK ∨ (I, n, MK) ∈ skippedKeys l := by
  induction l generalizing t with
  | nil =>
    cases h
    exact .inl hk
  | cons ch l ih =>
    rw [insertChains_cons, bind_eq_some_iff] at h
    obtain ⟨t1, h1, h⟩ := h
    rw [skippedKeys_cons, mem_append]
    obtain hk1 | hmem := ih h
    · obtain hk0 | ⟨rfl, hmem⟩ := of_insertChain h1 hk1
      · exact .inl hk0
      · exact .inr (.inl (mem_map_of_mem hmem))
    · exact .inr (.inr hmem)

namespace Session

/-- A key found for a header is stored at its position. -/
lemma storedKey_eq_some {t : KeyTable C} {header : DRHeader A} {DHr : Bytes}
    {MK : C.MessageKey} (h : storedKey t header = some (DHr, MK)) : t DHr header.Ns = some MK := by
  rw [storedKey] at h
  cases hidx : t (header.getDHrIndex C) header.Ns with
  | some MK' =>
    rw [hidx] at h
    cases h
    exact hidx
  | none =>
    rw [hidx] at h
    cases hkeys : header.keys with
    | index ec r i =>
      rw [hkeys] at h
      cases h
    | full k =>
      rw [hkeys] at h
      dsimp only at h
      split_ifs at h
      obtain ⟨MK', hraw, heq⟩ := map_eq_some_iff.mp h
      cases heq
      exact hraw

/-- A receiving ratchet derives the root key and the chain key together. -/
lemma asymmetricRatchetReceiving_hkdf (header : DRHeader A) (s : Session C) :
    ∃ input, (s.asymmetricRatchetReceiving header).RK = (C.hkdf s.RK input).1 ∧
      (s.asymmetricRatchetReceiving header).CKr = (C.hkdf s.RK input).2 := by
  rw [asymmetricRatchetReceiving]
  cases header.keys with
  | index ec r i => exact ⟨_, rfl, rfl⟩
  | full DHr =>
    dsimp only
    split_ifs
    · exact ⟨_, rfl, rfl⟩
    · exact ⟨_, rfl, rfl⟩

end Session

namespace Crypto.Places

variable (g : C.Places)

/-- The place of the next message key of a receiving chain. -/
def current (s : Session C) : ℕ ×ₗ ℕ := toLex (g.depth s.CKr, g.position s.CKr)

/-- The keys skipped since the place `c` stand in order between `c` and the current place, and the
receiving chain is not ahead of the root key. -/
structure Window (c : ℕ ×ₗ ℕ) (s : Session C) : Prop where
  le : c ≤ g.current s
  depth : g.depth s.CKr ≤ g.depth s.RK
  sorted : (skippedKeys s.mkskipped).Pairwise fun x y => g.place x.2.2 < g.place y.2.2
  lower : ∀ x ∈ skippedKeys s.mkskipped, c ≤ g.place x.2.2
  upper : ∀ x ∈ skippedKeys s.mkskipped, g.place x.2.2 < g.current s

variable {g} {c : ℕ ×ₗ ℕ} {s s' : Session C}

/-- The current place moves on, the keys skipped stay. -/
lemma Window.mono (h : g.Window c s) (hmk : s'.mkskipped = s.mkskipped)
    (hcur : g.current s ≤ g.current s') (hdepth : g.depth s'.CKr ≤ g.depth s'.RK) : g.Window c s' := by
  refine ⟨h.le.trans hcur, hdepth, ?_, ?_, ?_⟩
  · rw [hmk]
    exact h.sorted
  · rw [hmk]
    exact h.lower
  · rw [hmk]
    exact fun x hx => (h.upper x hx).trans_le hcur

/-- The place of the key derived at the current place. -/
lemma place_KDF_CK (g : C.Places) (s : Session C) : g.place (KDF_CK s.CKr s.Nr).2 = g.current s := g.place_hmacMK _ _

lemma lt_current_of_hmacCK {CK : C.ChainKey} {label : Bytes} (h : s.CKr = CK)
    (h' : s'.CKr = C.hmacCK CK label) : g.current s < g.current s' := by
  rw [current, current, h, h', g.depth_hmacCK, g.position_hmacCK, Prod.Lex.toLex_lt_toLex]
  exact .inr ⟨rfl, Nat.lt_succ_self _⟩

/-- The keys derived by a loop stand in order from the current place on. -/
lemma deriveSkipped_places (n : ℕ) (s : Session C) :
    let r := s.deriveSkipped n
    g.current s ≤ g.current r.2 ∧ g.depth r.2.CKr = g.depth s.CKr ∧
      (r.1.Pairwise fun x y => g.place x.2 < g.place y.2) ∧
      ∀ x ∈ r.1, g.current s ≤ g.place x.2 ∧ g.place x.2 < g.current r.2 := by
  induction n generalizing s with
  | zero => exact ⟨le_refl _, rfl, Pairwise.nil, fun x hx => by cases hx⟩
  | succ n ih =>
    set s1 : Session C := { s with
      CKr := (KDF_CK s.CKr s.Nr).1, Nr := s.Nr + 1
      KEMRatchetChainSize := s.KEMRatchetChainSize + 1 } with hs1
    obtain ⟨hle, hdepth, hsorted, hrange⟩ := ih s1
    have hlt : g.current s < g.current s1 := lt_current_of_hmacCK rfl rfl
    have hplace := place_KDF_CK g s
    refine ⟨hlt.le.trans hle, hdepth.trans (g.depth_hmacCK _ _), ?_, ?_⟩
    · rw [deriveSkipped, pairwise_cons]
      refine ⟨fun x hx => ?_, hsorted⟩
      rw [hplace]
      exact hlt.trans_le (hrange x hx).1
    · rw [deriveSkipped]
      intro x hx
      obtain rfl | hx := mem_cons.mp hx
      · exact ⟨hplace.ge, hplace.trans_lt (hlt.trans_le hle)⟩
      · exact ⟨hlt.le.trans (hrange x hx).1, (hrange x hx).2⟩

lemma Window.skipMessageKeys {n : UInt16} {limit : ℤ} (h : g.Window c s)
    (hskip : s.skipMessageKeys n limit = some s') : g.Window c s' := by
  rw [Session.skipMessageKeys] at hskip
  split_ifs at hskip
  · cases hskip
    exact h
  · cases hskip
    set k := n.toNat - s.Nr.toNat
    obtain ⟨hle, hdepth, hsorted, hrange⟩ := deriveSkipped_places (g := g) k s
    have hRK : (s.deriveSkipped k).2.RK = s.RK :=
      (congrArg Session.RK (Session.deriveSkipped_eraseChain k s) :)
    have hkeys : skippedKeys ((s.deriveSkipped k).2.mkskipped ++ [⟨s.DHr.getIndex C, (s.deriveSkipped k).1⟩]) =
        skippedKeys s.mkskipped ++ (s.deriveSkipped k).1.map fun kv => (s.DHr.getIndex C, kv) := by
      rw [skippedKeys_append, Session.deriveSkipped_mkskipped, skippedKeys_cons, skippedKeys_nil, append_nil]
    refine ⟨h.le.trans hle, ?_, ?_, ?_, ?_⟩
    · change g.depth (s.deriveSkipped k).2.CKr ≤ g.depth (s.deriveSkipped k).2.RK
      rw [hdepth, hRK]
      exact h.depth
    · rw [hkeys, pairwise_append, pairwise_map]
      refine ⟨h.sorted, hsorted, fun x hx y hy => ?_⟩
      obtain ⟨kv, hkv, rfl⟩ := mem_map.mp hy
      exact (h.upper x hx).trans_le (hrange kv hkv).1
    · rw [hkeys]
      intro x hx
      obtain hx | hx := mem_append.mp hx
      · exact h.lower x hx
      · obtain ⟨kv, hkv, rfl⟩ := mem_map.mp hx
        exact h.le.trans (hrange kv hkv).1
    · rw [hkeys]
      intro x hx
      obtain hx | hx := mem_append.mp hx
      · exact (h.upper x hx).trans_le hle
      · obtain ⟨kv, hkv, rfl⟩ := mem_map.mp hx
        exact (hrange kv hkv).2

/-- A receiving ratchet starts a chain after everything derived before. -/
lemma Window.asymmetricRatchetReceiving (h : g.Window c s) (header : DRHeader A) :
    g.Window c (s.asymmetricRatchetReceiving header) := by
  obtain ⟨input, hRK, hCKr⟩ := asymmetricRatchetReceiving_hkdf header s
  have hmk := asymmetricRatchetReceiving_mkskipped header s
  have hdepth := h.depth
  refine h.mono hmk ?_ ?_
  · rw [current, current, hCKr, Prod.Lex.toLex_le_toLex, g.depth_chain]
    left
    omega
  · rw [hRK, hCKr, g.depth_chain, g.depth_root]

/-- A message key was derived at a place after `c`, and after the keys skipped on the way. -/
structure Derived (g : C.Places) (c : ℕ ×ₗ ℕ) (MK : C.MessageKey) (s : Session C) : Prop where
  window : g.Window c s
  lower : c ≤ g.place MK
  upper : g.place MK < g.current s
  after : ∀ x ∈ skippedKeys s.mkskipped, g.place x.2.2 < g.place MK

lemma Window.prepareOnChain {header : DRHeader A} {limit : ℤ} {MK : C.MessageKey} {stored : Bool}
    (h : g.Window c s) (hprep : s.prepareOnChain header limit = some (s', MK, stored)) : g.Derived c MK s' := by
  rw [Session.prepareOnChain, map_eq_some_iff] at hprep
  obtain ⟨s1, hskip, hprep⟩ := hprep
  cases hprep
  have hw := h.skipMessageKeys hskip
  have hplace := place_KDF_CK g s1
  have hlt : g.current s1 < g.current s1.advanceReceiving := lt_current_of_hmacCK rfl rfl
  have hdepth : g.depth s1.advanceReceiving.CKr = g.depth s1.CKr := g.depth_hmacCK _ _
  refine ⟨hw.mono rfl hlt.le (hdepth.trans_le hw.depth), ?_, ?_, ?_⟩
  · rw [hplace]
    exact hw.le
  · rw [hplace]
    exact hlt
  · intro x hx
    rw [hplace]
    exact hw.upper x hx

lemma Window.startReception (h : g.Window c s) (header : DRHeader A) (u : Option Bytes) :
    g.Window c { s.startReception header with usedDHid := u } := by
  have hmk := Session.startReception_mkskipped header s
  have hkeys : (s.startReception header).CKr = s.CKr ∧ (s.startReception header).RK = s.RK := by
    rw [Session.startReception, Session.confirmKEMPk]
    split_ifs <;> exact ⟨rfl, rfl⟩
  refine h.mono hmk ?_ ?_
  · rw [current, current, hkeys.1]
  · dsimp only
    rw [hkeys.1, hkeys.2]
    exact h.depth

/-- A prepared key was derived at a new place, or found in the storage. -/
lemma Window.prepared {t : KeyTable C} {header : DRHeader A} {r : Session C × C.MessageKey × Bool}
    (h : g.Window c s) (hprep : Session.Prepared t header s r) :
    r.2.2 = false ∧ g.Derived c r.2.1 r.1 ∨ r.2.2 = true ∧ ∃ DHr, Session.storedKey t header = some (DHr, r.2.1) ∧
        r.1.usedDHid = some DHr ∧ r.1.usedNr = header.Ns ∧ g.Window c r.1 ∧
        g.current r.1 = g.current s ∧ r.1.mkskipped = s.mkskipped := by
  cases hprep with
  | first hvalid hchain =>
    refine .inl ⟨(Session.prepareOnChain_eraseChain hchain).2, Window.prepareOnChain ?_ hchain⟩
    have hstart : g.Window c { s with dirty := .dirtyDecrypt } := h.mono rfl (le_refl _) h.depth
    exact (hstart.asymmetricRatchetReceiving header).mono rfl (le_refl _)
      (hstart.asymmetricRatchetReceiving header).depth
  | onChain u hvalid hdhr hkey hchain =>
    exact .inl ⟨(Session.prepareOnChain_eraseChain hchain).2, (h.startReception header u).prepareOnChain hchain⟩
  | stored hvalid hcur hkey =>
    have hw := h.startReception header (s.startReception header).usedDHid
    refine .inr ⟨rfl, _, hkey, rfl, rfl, hw.mono rfl (le_refl _) hw.depth, ?_,
      Session.startReception_mkskipped header s⟩
    have hCKr : (s.startReception header).CKr = s.CKr := by
      rw [Session.startReception, Session.confirmKEMPk]
      split_ifs <;> rfl
    simp only [current, hCKr]
  | newChain hvalid hdhr hkey hchain =>
    rw [Session.prepareNewChain, bind_eq_some_iff] at hchain
    obtain ⟨s1, hskip, hchain⟩ := hchain
    have hw1 := (h.startReception header none).skipMessageKeys hskip
    exact .inl ⟨(Session.prepareOnChain_eraseChain hchain).2,
      (hw1.asymmetricRatchetReceiving header).prepareOnChain hchain⟩

/-! ### Keys spent -/

/-- Before the place `c`, the stored keys stand at distinct places, and the keys that opened the
messages accepted so far are not stored any more. -/
structure Spent (g : C.Places) (opened : List (Bytes × C.MessageKey))
    (accepted : List Bytes) (c : ℕ ×ₗ ℕ) (t : KeyTable C) : Prop where
  stored : ∀ I n MK, t I n = some MK → g.place MK < c
  distinct : ∀ I n MK I' n' MK', t I n = some MK → t I' n' = some MK' → g.place MK = g.place MK' → I = I' ∧ n = n'
  spent : ∀ m ∈ accepted, ∃ MK, (m, MK) ∈ opened ∧ g.place MK < c ∧
    ∀ I n MK', t I n = some MK' → g.place MK' ≠ g.place MK

variable {opened : List (Bytes × C.MessageKey)} {accepted : List Bytes} {c' : ℕ ×ₗ ℕ}
  {t t' : KeyTable C} {m : Bytes} {header : DRHeader A} {MK : C.MessageKey}

lemma Spent.empty (g : C.Places) (c : ℕ ×ₗ ℕ) : g.Spent opened [] c fun _ _ => none where
  stored _ _ _ h := by cases h
  distinct _ _ _ _ _ _ h := by cases h
  spent _ h := by cases h

lemma Spent.not_mem (hO : g.OpensOnce opened) (h : g.Spent opened accepted c t)
    (hopen : (m, MK) ∈ opened) (hkey : c ≤ g.place MK ∨ ∃ I n, t I n = some MK) : m ∉ accepted := by
  intro hm
  obtain ⟨MK', hopen', hpast, hnot⟩ := h.spent m hm
  have heq : g.place MK = g.place MK' := hO _ hopen _ hopen' rfl
  obtain hle | ⟨I, n, hkey⟩ := hkey
  · rw [heq] at hle
    exact absurd hpast (not_lt.mpr hle)
  · exact hnot I n MK hkey heq

/-- Storing keys derived after the place `c`. -/
lemma Spent.insert (h : g.Spent opened accepted c t) (hw : g.Window c s)
    (ht : KeyTable.insertChains s.mkskipped t = some t') : g.Spent opened accepted (g.current s) t' := by
  have hmem : ∀ I n MK, t' I n = some MK → t I n = some MK ∨ (I, n, MK) ∈ skippedKeys s.mkskipped :=
    fun _ _ _ => KeyTable.of_insertChains ht
  have hnodup : ((skippedKeys s.mkskipped).map fun x => g.place x.2.2).Nodup := by
    rw [Nodup, pairwise_map]
    exact hw.sorted.imp fun h => h.ne
  refine ⟨fun I n MK hk => ?_, fun I n MK I' n' MK' hk hk' hplace => ?_, fun m hm => ?_⟩
  · obtain hk | hk := hmem I n MK hk
    · exact (h.stored I n MK hk).trans_le hw.le
    · exact hw.upper _ hk
  · obtain hk | hk := hmem I n MK hk
    · obtain hk' | hk' := hmem I' n' MK' hk'
      · exact h.distinct I n MK I' n' MK' hk hk' hplace
      · have hlt := (h.stored I n MK hk).trans_le (hw.lower _ hk')
        exact absurd hplace hlt.ne
    · obtain hk' | hk' := hmem I' n' MK' hk'
      · have hlt := (h.stored I' n' MK' hk').trans_le (hw.lower _ hk)
        exact absurd hplace hlt.ne'
      · -- two keys of the list at one place are the same element
        have heq : ((I, n, MK) : SkippedKey C) = (I', n', MK') :=
          inj_on_of_nodup_map hnodup hk hk' hplace
        cases heq
        exact ⟨rfl, rfl⟩
  · obtain ⟨MK, hopen, hpast, hnot⟩ := h.spent m hm
    refine ⟨MK, hopen, hpast.trans_le hw.le, fun I n MK' hk => ?_⟩
    obtain hk | hk := hmem I n MK' hk
    · exact hnot I n MK' hk
    · exact (hpast.trans_le (hw.lower _ hk)).ne'

/-- Accepting a message with a key at a place that is not stored. -/
lemma Spent.accept (h : g.Spent opened accepted c t) (hopen : (m, MK) ∈ opened) (hlt : g.place MK < c)
    (hnot : ∀ I n MK', t I n = some MK' → g.place MK' ≠ g.place MK) : g.Spent opened (accepted ++ [m]) c t := by
  refine ⟨h.stored, h.distinct, fun m' hm' => ?_⟩
  obtain hm' | hm' := mem_append.mp hm'
  · exact h.spent m' hm'
  · obtain rfl := mem_singleton.mp hm'
    exact ⟨MK, hopen, hlt, hnot⟩

/-- Deleting a stored key. -/
lemma Spent.delete (h : g.Spent opened accepted c t) (I : Bytes) (n : UInt16) :
    g.Spent opened accepted c fun i k => if i = I ∧ k = n then none else t i k := by
  have hsome : ∀ i k MK, (if i = I ∧ k = n then none else t i k) = some MK → t i k = some MK := by
    intro i k MK hk
    split_ifs at hk
    exact hk
  refine ⟨fun i k MK hk => h.stored i k MK (hsome i k MK hk), fun i k MK i' k' MK' hk hk' =>
    h.distinct i k MK i' k' MK' (hsome i k MK hk) (hsome i' k' MK' hk'), fun m hm => ?_⟩
  obtain ⟨MK, hopen, hpast, hnot⟩ := h.spent m hm
  exact ⟨MK, hopen, hpast, fun i k MK' hk => hnot i k MK' (hsome i k MK' hk)⟩

/-- A session with no unsaved key, whose accepted messages are spent. -/
structure Ready (g : C.Places) (opened : List (Bytes × C.MessageKey))
    (accepted : List Bytes) (s : Session C) (t : KeyTable C) : Prop where
  mkskipped : s.mkskipped = []
  usedDHid : s.usedDHid = none
  depth : g.depth s.CKr ≤ g.depth s.RK
  spent : g.Spent opened accepted (g.current s) t

lemma Ready.window (h : g.Ready opened accepted s t) : g.Window (g.current s) s := by
  refine ⟨le_refl _, h.depth, ?_, ?_, ?_⟩ <;> rw [h.mkskipped]
  · exact Pairwise.nil
  · intro x hx
    cases hx
  · intro x hx
    cases hx

/-- Only the keys of the session matter. -/
lemma Ready.congr (h : g.Ready opened accepted s t) (hmk : s'.mkskipped = []) (hused : s'.usedDHid = none)
    (hCKr : s'.CKr = s.CKr) (hRK : g.depth s.RK ≤ g.depth s'.RK) : g.Ready opened accepted s' t := by
  refine ⟨hmk, hused, ?_, ?_⟩
  · rw [hCKr]
    exact h.depth.trans hRK
  · rw [current, hCKr]
    exact h.spent

end Crypto.Places

/-! ### Runs -/

namespace Operation

/-- The state after an operation, whether it succeeds or not, and the message it accepted. The caller
of a failed encryption rolls the transaction back. -/
def attempt (op : Operation C) (w : World C) : World C × Option Bytes :=
  match op with
  | .encrypt rnd now plaintext AD p =>
    match ratchetEncrypt rnd now plaintext AD p w with
    | .ok _ w' => (w', none)
    | .error _ w' => ({ w' with db := w.db }, none)
  | .decrypt now ciphertext AD p =>
    match ratchetDecrypt now ciphertext AD p w with
    | .ok (some _) w' => (w', some ciphertext)
    | .ok none w' => (w', none)
    | .error _ w' => (w', none)

/-- The message accepted, with the key prepared for it. -/
def openedWith (op : Operation C) (w : World C) : Option (Bytes × C.MessageKey) := do
  let m ← (op.attempt w).2
  let header ← DRHeader.parse A m
  let (_, MK, _) ← w.session.prepare (w.db.DR_MSk w.session.dbSessionId) header
  return (m, MK)

end Operation

/-- Runs of a session, the messages accepted and the keys that opened them: any operation with any
failure of the backend, under a condition on the session it starts from, and evictions followed by a
reload. -/
inductive History (P : Session C → Prop) (w : World C) :
    World C → List Bytes → List (Bytes × C.MessageKey) → Prop where
  | start : History P w w [] []
  | step {w1 w2 : World C} {accepted : List Bytes}
      {opened : List (Bytes × C.MessageKey)} {m : Option Bytes} (op : Operation C)
      (fault : Option Call) (h : History P w w1 accepted opened) (hP : P w1.session)
      (hop : op.attempt { w1 with fault := fault } = (w2, m)) :
      History P w w2 (accepted ++ m.toList)
        (opened ++ (op.openedWith { w1 with fault := fault }).toList)
  | reload {w1 : World C} {accepted : List Bytes}
      {opened : List (Bytes × C.MessageKey)} {s : Session C}
      (h : History P w w1 accepted opened)
      (hload : sessionLoad w1.session.dbSessionId w1.db = some s) :
      History P w { w1 with session := s } accepted opened

/-- The session is marked as in sync with the storage, or was just built. -/
def Session.Settled (s : Session C) : Prop := s.dirty = .clean ∨ s.dirty = .dirty

/-- What holds along a run on settled sessions. -/
structure Unspent (g : C.Places) (opened : List (Bytes × C.MessageKey))
    (accepted : List Bytes) (w : World C) : Prop where
  unused : w.db.UnusedEmpty
  nodup : accepted.Nodup
  settled : w.session.Settled → g.Ready opened accepted w.session (w.db.DR_MSk w.session.dbSessionId)
  stored : ∀ r, w.db.DR_sessions w.session.dbSessionId = some r →
    g.Ready opened accepted (.ofRow w.session.dbSessionId [] r) (w.db.DR_MSk w.session.dbSessionId)
  clean : w.session.dirty = .clean → ∃ r, w.db.DR_sessions w.session.dbSessionId = some r ∧
    r.RK = w.session.RK ∧ r.CKr = w.session.CKr
  fresh : w.session.dirty = .dirty → w.session.dbSessionId = 0

variable {g : C.Places} {opened : List (Bytes × C.MessageKey)} {accepted : List Bytes}
  {w w' : World C} {s s2 : Session C}

/-- A row is there for given identifiers only. -/
lemma Db.UnusedEmpty.le_of_row {db : Db C} (hdb : db.UnusedEmpty) {id : ℕ} {r : SessionRow C}
    (h : db.DR_sessions id = some r) : id ≠ 0 ∧ id ≤ db.lastSessionId := by
  by_contra hne
  have hnone := (hdb id (by omega)).1
  rw [hnone] at h
  cases h

lemma Unspent.dbSessionId_le (h : Unspent g opened accepted w) (hsettled : w.session.Settled) :
    w.session.dbSessionId ≤ w.db.lastSessionId := by
  obtain hclean | hnew := hsettled
  · obtain ⟨r, hr, -⟩ := h.clean hclean
    exact (h.unused.le_of_row hr).2
  · rw [h.fresh hnew]
    exact Nat.zero_le _

/-- A failed operation leaves the storage, and a session that must be loaded again. -/
lemma Unspent.of_failed (h : Unspent g opened accepted w) (hdb : w'.db = w.db)
    (hid : w'.session.dbSessionId = w.session.dbSessionId ∨ w'.session.dbSessionId = w.db.lastSessionId + 1)
    (hdirty : ¬ w'.session.Settled) : Unspent g opened accepted w' := by
  refine ⟨hdb ▸ h.unused, h.nodup, fun hs => absurd hs hdirty, ?_,
    fun hs => absurd (.inl hs) hdirty, fun hs => absurd (.inr hs) hdirty⟩
  rw [hdb]
  intro r hr
  obtain hid | hid := hid
  · rw [hid] at hr ⊢
    exact h.stored r hr
  · rw [hid, (h.unused _ (.inr (Nat.lt_succ_self _))).1] at hr
    cases hr

/-- The keys a save writes do not depend on the activation of the session. -/
lemma Session.updateRow_deactivatedRow (now : ℤ) (s : Session C) (r : SessionRow C) :
    (s.updateRow now (s.deactivatedRow now r)).RK = (s.updateRow now r).RK ∧
      (s.updateRow now (s.deactivatedRow now r)).CKr = (s.updateRow now r).CKr := by
  rw [deactivatedRow]
  split_ifs
  · cases hd : s.dirty <;> simp only [updateRow, hd, and_self]
  · exact ⟨rfl, rfl⟩

variable {now : ℤ}

lemma Saved.row_keys (hsaved : Saved now { w with session := s2 } w')
    (hrow : s2.dbSessionId ≠ 0 → ∃ r, w.db.DR_sessions s2.dbSessionId = some r ∧
      (s2.updateRow now r).RK = s2.RK ∧ (s2.updateRow now r).CKr = s2.CKr) :
    ∃ r, w'.db.DR_sessions w'.session.dbSessionId = some r ∧ r.RK = s2.RK ∧ r.CKr = s2.CKr := by
  cases hsaved with
  | new h0 saved =>
    obtain ⟨did, -, -, hsession, hr⟩ := saved.session
    rw [hsession]
    exact ⟨_, hr, rfl, rfl⟩
  | old h0 saved =>
    obtain ⟨r, hr, hRK, hCKr⟩ := hrow h0
    obtain ⟨hRK', hCKr'⟩ := s2.updateRow_deactivatedRow now r
    have hnew := saved.row
    dsimp only at hnew
    rw [hr, map_some] at hnew
    have hid : w'.session.dbSessionId = s2.dbSessionId := by
      rw [saved.session]
      rfl
    exact ⟨_, hid ▸ hnew, hRK'.trans hRK, hCKr'.trans hCKr⟩

/-- A saved operation: the session left in memory is ready and has the keys of its row. -/
lemma Unspent.of_saved (h : Unspent g opened accepted w) (hsettled : w.session.Settled)
    (hid : s2.dbSessionId = w.session.dbSessionId) (hsaved : Saved now { w with session := s2 } w')
    (hrow : ∀ r, r.RK = w.session.RK → r.CKr = w.session.CKr →
      (s2.updateRow now r).RK = s2.RK ∧ (s2.updateRow now r).CKr = s2.CKr)
    {v : Session C} (hs3 : v.dbSessionId = w'.session.dbSessionId ∧ v.dirty = .clean ∧
      v.RK = s2.RK ∧ v.CKr = s2.CKr) {m : Option Bytes}
    (hnodup : (accepted ++ m.toList).Nodup)
    (hready : g.Ready opened (accepted ++ m.toList) v (w'.db.DR_MSk w'.session.dbSessionId)) :
    Unspent g opened (accepted ++ m.toList) { w' with session := v } := by
  obtain ⟨hid3, hclean3, hRK3, hCKr3⟩ := hs3
  have hrowkeys := hsaved.row_keys fun hne => by
    obtain hclean | hnew := hsettled
    · obtain ⟨r, hr, hRK, hCKr⟩ := h.clean hclean
      exact ⟨r, hid ▸ hr, hrow r hRK hCKr⟩
    · exact absurd (hid.trans (h.fresh hnew)) hne
  obtain ⟨r, hr, hRK, hCKr⟩ := hrowkeys
  have hle : s2.dbSessionId ≤ w.db.lastSessionId := hid ▸ h.dbSessionId_le hsettled
  refine ⟨hsaved.unusedEmpty h.unused hle, hnodup, fun _ => ?_, fun r' hr' => ?_, fun _ => ?_, fun hd => ?_⟩
  · dsimp only
    rw [hid3]
    exact hready
  · dsimp only at hr' ⊢
    rw [hid3] at hr' ⊢
    rw [hr] at hr'
    cases hr'
    refine hready.congr rfl rfl (hCKr.trans hCKr3.symm) ?_
    exact (congrArg g.depth (hRK3.trans hRK.symm)).le
  · exact ⟨r, by dsimp only; rw [hid3]; exact hr, hRK.trans hRK3.symm, hCKr.trans hCKr3.symm⟩
  · rw [hclean3] at hd
    cases hd

variable {rnd : Randomness C}

lemma Unspent.encrypt (h : Unspent g opened accepted w) (hsettled : w.session.Settled)
    (hsaved : Saved now { w with session := w.session.sent rnd now } w') :
    Unspent g opened accepted { w' with session := { w'.session with dirty := .clean } } := by
  have hback := w.session.putBackSending_sent rnd now
  have hCKr : (w.session.sent rnd now).CKr = w.session.CKr := (congrArg CKr hback :)
  have hmk : (w.session.sent rnd now).mkskipped = w.session.mkskipped :=
    (congrArg mkskipped hback :)
  have hused : (w.session.sent rnd now).usedDHid = w.session.usedDHid :=
    (congrArg usedDHid hback :)
  have hid : (w.session.sent rnd now).dbSessionId = w.session.dbSessionId :=
    (congrArg dbSessionId hback :)
  have hroot := w.session.sent_root rnd now
  have hready := h.settled hsettled
  set s2 := w.session.sent rnd now
  have hfinal : w'.session.RK = s2.RK ∧ w'.session.CKr = s2.CKr ∧ w'.session.mkskipped = s2.mkskipped ∧
      w'.session.usedDHid = s2.usedDHid := by
    cases hsaved with
    | new h0 saved =>
      obtain ⟨did, -, -, hsession, -⟩ := saved.session
      rw [hsession]
      exact ⟨rfl, rfl, rfl, rfl⟩
    | old h0 saved =>
      rw [saved.session]
      exact ⟨rfl, rfl, rfl, rfl⟩
  have hkeys := hsaved.keys h.unused
  dsimp only at hkeys
  rw [hid, hmk, hready.mkskipped, KeyTable.insertChains_nil, deleteUsed, hused, hready.usedDHid, some_inj] at hkeys
  have hdepth : g.depth w.session.RK ≤ g.depth s2.RK := by
    obtain ⟨-, hRK⟩ | ⟨-, input, hRK⟩ := hroot
    · rw [hRK]
    · rw [hRK, g.depth_root]
      exact Nat.le_succ _
  have hnone := h.of_saved (v := { w'.session with dirty := .clean }) (m := none) hsettled hid hsaved ?_
    ⟨rfl, rfl, hfinal.1, hfinal.2.1⟩ (by simpa using h.nodup) ?_
  · simpa using hnone
  · intro r hRK' hCKr'
    obtain ⟨hd, hRK⟩ | ⟨hd, input, hRK⟩ := hroot
    · simp only [updateRow, hd, hRK', hRK, hCKr', hCKr, and_self]
    · simp only [updateRow, hd, hCKr', hCKr, and_self]
  · rw [← hkeys, toList_none, append_nil]
    refine hready.congr ?_ ?_ (hfinal.2.1.trans hCKr) ?_
    · exact (hfinal.2.2.1.trans hmk).trans hready.mkskipped
    · exact (hfinal.2.2.2.trans hused).trans hready.usedDHid
    · exact hdepth.trans (congrArg g.depth hfinal.1).ge

/-! ### Decryptions -/

variable {header : DRHeader A} {MK : C.MessageKey} {stored : Bool} {m : Bytes}

/-- The row saved by a reception has the keys of the session. -/
lemma Session.Received.updateRow_keys (hr : Session.Received s s2) {r : SessionRow C} (hRK : r.RK = s.RK) :
    (s2.updateRow now r).RK = s2.RK ∧ (s2.updateRow now r).CKr = s2.CKr := by
  have hact := hr.activates
  cases hd : s2.dirty with
  | clean | dirtyEncrypt | dirtyRatchetSending =>
    simp only [Session.activates, hd] at hact
    cases hact
  | dirtyDecrypt =>
    obtain ⟨-, -, hRK'⟩ := hr.symmetric hd
    simp only [Session.updateRow, hd, hRK, hRK', and_self]
  | dirtyRatchetReceiving | dirtyKemRatchetReceiving | dirty =>
    simp only [Session.updateRow, hd, and_self]

/-- What a save and the end of a decryption keep of the session. -/
lemma Saved.afterDecrypt_keys (hsaved : Saved now { w with session := s2 } w') (stored : Bool) :
    (w'.session.afterDecrypt stored).dbSessionId = w'.session.dbSessionId ∧
    (w'.session.afterDecrypt stored).dirty = .clean ∧
    (w'.session.afterDecrypt stored).RK = s2.RK ∧ (w'.session.afterDecrypt stored).CKr = s2.CKr ∧
    (w'.session.afterDecrypt stored).mkskipped = (if stored then s2.mkskipped else []) ∧
    (w'.session.afterDecrypt stored).usedDHid = (if stored then none else s2.usedDHid) := by
  have hfinal : w'.session.RK = s2.RK ∧ w'.session.CKr = s2.CKr ∧
      w'.session.mkskipped = s2.mkskipped ∧ w'.session.usedDHid = s2.usedDHid := by
    cases hsaved with
    | new h0 saved =>
      obtain ⟨did, -, -, hsession, -⟩ := saved.session
      rw [hsession]
      exact ⟨rfl, rfl, rfl, rfl⟩
    | old h0 saved =>
      rw [saved.session]
      exact ⟨rfl, rfl, rfl, rfl⟩
  obtain ⟨hRK, hCKr, hmk, hused⟩ := hfinal
  cases stored with
  | true => exact ⟨rfl, rfl, hRK, hCKr, hmk, rfl⟩
  | false => exact ⟨rfl, rfl, hRK, hCKr, rfl, hused⟩

lemma Crypto.Places.Ready.accept {t t' : KeyTable C} (hready : g.Ready opened accepted s t)
    (hO : g.OpensOnce opened) (hprep : Prepared t header s (s2, MK, stored)) (hopen : (m, MK) ∈ opened)
    (ht : KeyTable.insertChains s2.mkskipped (s2.deleteUsed t) = some t') :
    m ∉ accepted ∧ g.depth s2.CKr ≤ g.depth s2.RK ∧
      (stored = true → s2.mkskipped = []) ∧ g.Spent opened (accepted ++ [m]) (g.current s2) t' := by
  obtain ⟨hstored, hderived⟩ | ⟨hstored, DHr, hkey, hused, hNr, hw, hcur, hmk⟩ :=
    hready.window.prepared hprep
  · -- a derived key: the skipped keys are inserted, then the message is accepted
    dsimp only at hstored hderived
    subst hstored
    have hused : s2.usedDHid = none := (hprep.kept hready.usedDHid).2 rfl
    rw [deleteUsed, hused] at ht
    refine ⟨hready.spent.not_mem hO hopen (.inl hderived.lower), hderived.window.depth,
      fun h => (by cases h), (hready.spent.insert hderived.window ht).accept hopen
        hderived.upper fun I n MK' hk => ?_⟩
    obtain hk | hk := KeyTable.of_insertChains ht hk
    · exact ((hready.spent.stored I n MK' hk).trans_le hderived.lower).ne
    · exact (hderived.after _ hk).ne
  · -- a stored key: it is deleted
    dsimp only at hstored hkey hused hNr hw hcur hmk
    subst hstored
    have hrow : t DHr header.Ns = some MK := storedKey_eq_some hkey
    have hmk : s2.mkskipped = [] := hmk.trans hready.mkskipped
    rw [hmk, KeyTable.insertChains_nil, deleteUsed, hused, hNr, some_inj] at ht
    refine ⟨hready.spent.not_mem hO hopen (.inr ⟨_, _, hrow⟩), hw.depth, fun _ => hmk, ?_⟩
    rw [hcur, ← ht]
    refine (hready.spent.delete DHr header.Ns).accept hopen (hready.spent.stored _ _ _ hrow) ?_
    intro I n MK' hk hplace
    split_ifs at hk with hne
    exact hne (hready.spent.distinct I n MK' _ _ MK hk hrow hplace)

lemma Unspent.decrypt (hO : g.OpensOnce opened) (h : Unspent g opened accepted w) (hsettled : w.session.Settled)
    (hprep : Prepared (w.db.DR_MSk w.session.dbSessionId) header w.session (s2, MK, stored))
    (hopen : (m, MK) ∈ opened) (hsaved : Saved now { w with session := s2 } w') :
    Unspent g opened (accepted ++ [m]) { w' with session := w'.session.afterDecrypt stored } := by
  have hready := h.settled hsettled
  have hreceived : Received w.session s2 := hprep.received
  have hid : s2.dbSessionId = w.session.dbSessionId :=
    (congrArg dbSessionId hreceived.erased :)
  have hkeys := hsaved.keys h.unused
  dsimp only at hkeys
  rw [hid] at hkeys
  obtain ⟨hnew, hdepth, hempty, hspent⟩ := hready.accept hO hprep hopen hkeys
  obtain ⟨hid3, hclean3, hRK3, hCKr3, hmk3, hused3⟩ := hsaved.afterDecrypt_keys stored
  refine h.of_saved (m := some m) hsettled hid hsaved
    (fun r hRK _ => hreceived.updateRow_keys hRK) ⟨hid3, hclean3, hRK3, hCKr3⟩ ?_
    ⟨?_, ?_, ?_, ?_⟩
  · rw [toList_some, nodup_append_comm]
    exact nodup_cons.mpr ⟨hnew, h.nodup⟩
  · rw [hmk3]
    cases stored with
    | true => exact hempty rfl
    | false => rfl
  · rw [hused3]
    cases stored with
    | true => rfl
    | false => exact (hprep.kept hready.usedDHid).2 rfl
  · rw [hRK3, hCKr3]
    exact hdepth
  · rw [Crypto.Places.current, hCKr3]
    exact hspent

/-! ### Every run -/

lemma not_settled_of_receiving (h : Receiving s s2) : ¬ s2.Settled := by
  rintro (hs | hs) <;> obtain h | h | h := h.dirty <;> rw [h] at hs <;> cases hs

lemma not_settled_of_sending (h : s.dirty = .dirtyEncrypt ∨ s.dirty = .dirtyRatchetSending) : ¬ s.Settled := by
  rintro (hs | hs) <;> obtain h | h := h <;> rw [h] at hs <;> cases hs

/-- The session a failed save leaves must be loaded again. -/
lemma Unspent.of_saveFailed (h : Unspent g opened accepted w) (hid : s2.dbSessionId = w.session.dbSessionId)
    (hdirty : ¬ s2.Settled) (hfail : SaveFailed { w with session := s2 } w') :
    Unspent g opened accepted { w' with db := w.db } := by
  obtain ⟨did, id, OPk, epoch, active, hid', hs⟩ := hfail.session
  dsimp only at hid' hs
  refine h.of_failed rfl ?_ ?_
  · dsimp only
    rw [hs]
    exact hid'.imp (fun h => h.trans hid) And.right
  · dsimp only
    rw [hs]
    exact hdirty

lemma Unspent.attempt_encrypt (h : Unspent g opened accepted w) (hsettled : w.session.Settled)
    (rnd : Randomness C) (now : ℤ) (plaintext AD : Bytes) (p : Bool) :
    wp (ratchetEncrypt rnd now plaintext AD p) (fun _ w' => Unspent g opened accepted w')
      (fun _ w' => Unspent g opened accepted { w' with db := w.db }) w := by
  have hid : (w.session.sent rnd now).dbSessionId = w.session.dbSessionId :=
    (congrArg dbSessionId (w.session.putBackSending_sent rnd now) :)
  refine wp_ratchetEncrypt (fun _ => h.of_failed rfl (.inl ?_) ?_) (fun w' hfail => ?_)
    (fun w' hsaved => h.encrypt hsettled hsaved)
  · exact (congrArg dbSessionId (w.session.putBackSending_advanceSending rnd now) :)
  · exact not_settled_of_sending
      ((w.session.prepareSending_root rnd now).imp And.left And.left)
  · exact h.of_saveFailed hid
      (not_settled_of_sending ((w.session.sent_root rnd now).imp And.left And.left)) hfail

/-- The message is opened with the key prepared for it, if it is accepted. -/
lemma Unspent.attempt_decrypt (hO : g.OpensOnce opened) (h : Unspent g opened accepted w)
    (hsettled : w.session.Settled) (now : ℤ) (ciphertext AD : Bytes) (p : Bool) :
    wp (ratchetDecrypt now ciphertext AD p)
      (fun res w' => (res.isSome → ∀ header r, DRHeader.parse A ciphertext = some header →
          w.session.prepare (w.db.DR_MSk w.session.dbSessionId) header = some r → (ciphertext, r.2.1) ∈ opened) →
        Unspent g opened (accepted ++ (res.map fun _ => ciphertext).toList) w')
      (fun _ w' => Unspent g opened accepted w') w := by
  refine wp_ratchetDecrypt (fun _ => h) (fun _ _ _ => h)
    (fun _ s hs => h.of_failed rfl (.inl hs.dbSessionId) (not_settled_of_receiving hs))
    (fun _ _ _ s hs => h.of_failed rfl (.inl hs.dbSessionId) (not_settled_of_receiving hs))
    (fun header s2 MK stored hparse _ hprep => ?_)
  have hprepared := prepared_of_prepare hprep
  have hreceived : Received w.session s2 := hprepared.received
  have hid : s2.dbSessionId = w.session.dbSessionId :=
    (congrArg dbSessionId hreceived.erased :)
  have hdirty : ¬ s2.Settled := not_settled_of_receiving hreceived.receiving
  refine wp_decryptPrepared (fun _ => h.of_failed rfl (.inl hid) hdirty) (fun _ _ => ?_)
    (fun w' hdb hfail => ?_) (fun plaintext w' _ _ hsaved hopen => ?_)
  · rw [map_none, toList_none, append_nil]
    exact h.of_failed rfl (.inl hid) hdirty
  · have hfailed := h.of_saveFailed hid hdirty hfail
    rw [← hdb] at hfailed
    exact hfailed
  · exact h.decrypt hO hsettled hprepared (hopen rfl header _ hparse hprep) hsaved

lemma Unspent.withFault (h : Unspent g opened accepted w) (fault : Option Call) :
    Unspent g opened accepted { w with fault := fault } :=
  ⟨h.unused, h.nodup, h.settled, h.stored, h.clean, h.fresh⟩

lemma Unspent.step (hO : g.OpensOnce opened) (h : Unspent g opened accepted w)
    (hsettled : w.session.Settled) (op : Operation C) (hopen : ∀ x ∈ op.openedWith w, x ∈ opened) :
    Unspent g opened (accepted ++ (op.attempt w).2.toList) (op.attempt w).1 := by
  cases op with
  | encrypt rnd now plaintext AD p =>
    have hwp := h.attempt_encrypt hsettled rnd now plaintext AD p
    rw [Operation.attempt]
    cases hres : ratchetEncrypt rnd now plaintext AD p w with
    | ok c w' => simpa [hres] using wp_of_ok hwp hres
    | error e w' => simpa [hres] using wp_of_error hwp hres
  | decrypt now ciphertext AD p =>
    have hwp := h.attempt_decrypt hO hsettled now ciphertext AD p
    cases hres : ratchetDecrypt now ciphertext AD p w with
    | ok res w' =>
      have hok := wp_of_ok hwp hres
      cases res with
      | none => simpa [Operation.attempt, hres] using hok
      | some plaintext =>
        have haccepted : (Operation.attempt (.decrypt now ciphertext AD p) w).2 = some ciphertext := by
          simp only [Operation.attempt, hres]
        have hkey := hok fun _ header r hparse hprep => hopen _ (by
          simp [Operation.openedWith, haccepted, hparse, hprep])
        simpa [Operation.attempt, hres] using hkey
    | error e w' => simpa [Operation.attempt, hres] using wp_of_error hwp hres

lemma Unspent.reload (h : Unspent g opened accepted w) (hload : sessionLoad w.session.dbSessionId w.db = some s) :
    Unspent g opened accepted { w with session := s } := by
  rw [sessionLoad, bind_eq_bind, bind_eq_some_iff] at hload
  obtain ⟨r, hr, hload⟩ := hload
  obtain ⟨d, -, hload⟩ := bind_eq_some_iff.mp hload
  cases hload
  have hready : g.Ready opened accepted (.ofRow w.session.dbSessionId d.DeviceId r)
      (w.db.DR_MSk w.session.dbSessionId) := (h.stored r hr).congr rfl rfl rfl (le_refl _)
  exact ⟨h.unused, h.nodup, fun _ => hready, fun r' hr' => h.stored r' hr', fun _ => ⟨r, hr, rfl, rfl⟩,
    fun hd => (by cases hd)⟩

lemma Created.keys (h : Created s) : s.dirty = .dirty ∧ s.dbSessionId = 0 ∧ s.mkskipped = [] ∧
    s.usedDHid = none ∧ s.CKr = C.zeroKey := by
  cases h <;> exact ⟨rfl, rfl, rfl, rfl, rfl⟩

lemma Unspent.created (g : C.Places) (hcreated : Created w.session) (hdb : w.db.UnusedEmpty) :
    Unspent g opened [] w := by
  obtain ⟨hdirty, hid, hmk, hused, hCKr⟩ := hcreated.keys
  obtain ⟨hrow, hkeys⟩ := hdb 0 (.inl rfl)
  refine ⟨hdb, nodup_nil, fun _ => ⟨hmk, hused, ?_, ?_⟩, ?_, ?_, fun _ => hid⟩
  · rw [hCKr, g.depth_zeroKey]
    exact Nat.zero_le _
  · rw [hid, hkeys]
    exact .empty g _
  · rw [hid, hrow]
    intro r hr
    cases hr
  · rw [hdirty]
    intro hd
    cases hd

lemma Unspent.run {wanted : List (Bytes × C.MessageKey)} (hO : g.OpensOnce opened)
    (hcreated : Created w.session) (hdb : w.db.UnusedEmpty)
    (hrun : History Settled w w' accepted wanted) (hsub : ∀ x ∈ wanted, x ∈ opened) :
    Unspent g opened accepted w' := by
  induction hrun with
  | start => exact .created g hcreated hdb
  | step op fault h hP hop ih =>
    have hbefore := ih fun x hx => hsub x (mem_append_left _ hx)
    have hstep := (hbefore.withFault fault).step hO hP op fun x hx =>
      hsub x (mem_append_right _ (mem_toList.mpr hx))
    rw [hop] at hstep
    exact hstep
  | reload h hload ih => exact (ih hsub).reload hload

/-- Along every run whose operations all start from a session in sync with the storage or just built,
and in which no message is opened with keys of two places, no message is accepted twice. -/
theorem accepted_once {C : Crypto A} {w w' : World C.placed} {accepted : List Bytes}
    {opened : List (Bytes × C.placed.MessageKey)} (hcreated : Created w.session)
    (hdb : w.db.UnusedEmpty) (hrun : History Settled w w' accepted opened)
    (honce : (Crypto.Places.placed C).OpensOnce opened) : accepted.Nodup :=
  (Unspent.run honce hcreated hdb hrun fun _ h => h).nodup

/-! ### Runs on concrete primitives -/

abbrev SampleCrypto : Crypto .C255 := (Crypto.sample .C255).placed

/-- The session of a receiver, in the storage of the local user. -/
def sampleReceiver : World SampleCrypto where
  session := .initReceiver (C := SampleCrypto) ((7 : UInt32), 0, 0) (zeros _)
    ⟨fill _ 3, (3 : UInt8), fill _ 4, (4 : UInt8), zeros _⟩ 1 [1] 0 (zeros _) 1
  db := .sample _
  fault := none

/-- The message at position `n` of the first sending chain of its peer. -/
def sampleMessage (n : ℕ) : Bytes :=
  let s : Session SampleCrypto := .initSender (C := SampleCrypto) ((7 : UInt32), 0, 0) (zeros _)
    ⟨fill _ 3, fill _ 4, zeros _⟩ 1 [1] (zeros _) 1 [] ⟨(5 : UInt8), (6 : UInt8), (8 : UInt8)⟩
  (advanceSending^[n] s).sealMessage [10, 11] [] true

def sampleDecrypt (m : Bytes) : Operation SampleCrypto := .decrypt 0 m [] true

lemma unusedEmpty_sample (C : Crypto A) : (Db.sample C).UnusedEmpty := fun _ _ => ⟨rfl, rfl⟩

/-- The state after the reception of a message. -/
def afterDelivery (m : Bytes) (w : World SampleCrypto) : World SampleCrypto :=
  ((sampleDecrypt m).attempt { w with fault := none }).1

section

variable {P : Session SampleCrypto → Prop} {w w1 : World SampleCrypto} {accepted : List Bytes}
  {opened : List (Bytes × SampleCrypto.MessageKey)}

lemma History.delivery (m : Bytes) (res : Option Bytes)
    (h : History P w w1 accepted opened) (hP : P w1.session)
    (hres : ((sampleDecrypt m).attempt { w1 with fault := none }).2 = res) :
    History P w (afterDelivery m w1) (accepted ++ res.toList)
      (opened ++ ((sampleDecrypt m).openedWith { w1 with fault := none }).toList) :=
  .step (sampleDecrypt m) none h hP (Prod.ext rfl hres)

/-- The state after an eviction and a reload. -/
def afterReload (w : World SampleCrypto) : World SampleCrypto :=
  { w with session := (sessionLoad w.session.dbSessionId w.db).getD w.session }

lemma History.reloaded (h : History P w w1 accepted opened)
    (hload : (sessionLoad w1.session.dbSessionId w1.db).isSome) : History P w (afterReload w1) accepted opened := by
  obtain ⟨s, hs⟩ := isSome_iff_exists.mp hload
  rw [afterReload, hs, getD_some]
  exact .reload h hs

end

instance (s : Session C) : Decidable s.Settled := inferInstanceAs (Decidable (_ ∨ _))

instance (g : C.Places) (opened : List (Bytes × C.MessageKey)) : Decidable (g.OpensOnce opened) :=
  inferInstanceAs (Decidable (∀ x ∈ opened, ∀ y ∈ opened, _ → _))

/-- A message refused the second time, and a skipped one after a reload. -/
theorem accepted_once_two_messages : ∃ w' opened,
    History Settled sampleReceiver w' [sampleMessage 1, sampleMessage 0] opened ∧
      opened.length = 2 ∧ [sampleMessage 1, sampleMessage 0].Nodup := by
  have h1 := History.start (P := Settled) (w := sampleReceiver)
    |>.delivery (sampleMessage 1) (some (sampleMessage 1)) (by decide +kernel) (by decide +kernel)
  have h2 := h1.delivery (sampleMessage 1) none (by decide +kernel) (by decide +kernel)
  have h3 := h2.reloaded (by decide +kernel)
  have h4 := h3.delivery (sampleMessage 0) (some (sampleMessage 0)) (by decide +kernel)
    (by decide +kernel)
  exact ⟨_, _, h4, by decide +kernel, accepted_once (.receiver _ _ _ _ _ _ _ _)
    (unusedEmpty_sample _) h4 (by decide +kernel)⟩

/-- The message at position `n` with another tag. -/
def sampleForgery (n : ℕ) : Bytes := (sampleMessage n).dropLast ++ [1]

/-- The session object is used again after a refused message: the key that this one left in memory is
stored again each time it is deleted. -/
theorem not_accepted_once_after_refusal : ¬ ∀ (A : Curve) (C : Crypto A) (w w' : World C.placed) (accepted : List Bytes)
      (opened : List (Bytes × C.placed.MessageKey)), Created w.session → w.db.UnusedEmpty →
      History (fun _ => True) w w' accepted opened → (Crypto.Places.placed C).OpensOnce opened → accepted.Nodup := by
  intro h
  have h1 := History.start (P := fun _ => True) (w := sampleReceiver)
    |>.delivery (sampleMessage 1) (some (sampleMessage 1)) trivial (by decide +kernel)
  have h2 := h1.delivery (sampleForgery 3) none trivial (by decide +kernel)
  have h3 := h2.delivery (sampleMessage 0) (some (sampleMessage 0)) trivial (by decide +kernel)
  have h4 := h3.delivery (sampleMessage 2) (some (sampleMessage 2)) trivial (by decide +kernel)
  have h5 := h4.delivery (sampleMessage 2) (some (sampleMessage 2)) trivial (by decide +kernel)
  have hnodup := h _ _ _ _ _ _ (.receiver _ _ _ _ _ _ _ _) (unusedEmpty_sample _) h5
    (by decide +kernel)
  exact absurd hnodup (by decide +kernel)

end Lime
