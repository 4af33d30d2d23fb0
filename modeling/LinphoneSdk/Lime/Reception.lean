import LinphoneSdk.Lime.RatchetSpec

/-!
# What a reception changes in a session

Erasing the fields that a part of a reception may write makes its frame condition an equation: the
part does not change the erased session.
-/

namespace Lime

open Bytes Exec Session

variable {A : Curve} {C : Crypto A} {header : DRHeader A} {s s' : Session C}

namespace Session

def eraseReception (s : Session C) : Session C :=
  { s.eraseChain with
    DHr := .zero, DHrValid := true, RK := C.zeroKey, usedDHid := none, usedNr := 0, dirty := .clean
    peerKEMPkAvailable := false, peerHasSelfKEMPk := false, peerECPkAvailable := false }

lemma prepareOnChain_eraseChain {limit : ℤ} {MK : C.MessageKey} {stored : Bool}
    (h : s.prepareOnChain header limit = some (s', MK, stored)) : s'.eraseChain = s.eraseChain ∧ stored = false := by
  rw [prepareOnChain, Option.map_eq_some_iff] at h
  obtain ⟨s1, hskip, h⟩ := h
  cases h
  have herase : s1.eraseChain = s.eraseChain := skipMessageKeys_eraseChain hskip
  exact ⟨herase, rfl⟩

/-! ### Receptions -/

lemma eraseReception_of_eraseChain (h : s'.eraseChain = s.eraseChain) : s'.eraseReception = s.eraseReception := by
  rw [eraseReception, eraseReception, h]

/-- A receiving ratchet is one of three. -/
lemma asymmetricRatchetReceiving_cases (P : Session C → Prop) (hEC : ∀ DHr, P (s.asymmetricRatchetReceivingEC DHr))
    (hindex : ∀ ec, P (s.asymmetricRatchetReceivingIndex ec))
    (hKEM : ∀ DHr, P (s.asymmetricRatchetReceivingKEM DHr)) : P (s.asymmetricRatchetReceiving header) := by
  rw [asymmetricRatchetReceiving]
  cases header.keys with
  | index ec r i => exact hindex ec
  | full DHr =>
    dsimp only
    split_ifs
    · exact hKEM DHr
    · exact hEC DHr

lemma asymmetricRatchetReceiving_eraseReception (header : DRHeader A) (s : Session C) :
    (s.asymmetricRatchetReceiving header).eraseReception = s.eraseReception :=
  asymmetricRatchetReceiving_cases (·.eraseReception = s.eraseReception) (fun _ => rfl) (fun _ => rfl) fun _ => rfl

lemma asymmetricRatchetReceiving_DHrValid (header : DRHeader A) (s : Session C) :
    (s.asymmetricRatchetReceiving header).DHrValid = s.DHrValid :=
  asymmetricRatchetReceiving_cases (·.DHrValid = s.DHrValid) (fun _ => rfl) (fun _ => rfl) fun _ => rfl

lemma asymmetricRatchetReceiving_usedDHid (header : DRHeader A) (s : Session C) :
    (s.asymmetricRatchetReceiving header).usedDHid = s.usedDHid :=
  asymmetricRatchetReceiving_cases (·.usedDHid = s.usedDHid) (fun _ => rfl) (fun _ => rfl) fun _ => rfl

lemma asymmetricRatchetReceiving_mkskipped (header : DRHeader A) (s : Session C) :
    (s.asymmetricRatchetReceiving header).mkskipped = s.mkskipped :=
  asymmetricRatchetReceiving_cases (·.mkskipped = s.mkskipped) (fun _ => rfl) (fun _ => rfl) fun _ => rfl

/-- What a prepared session shares with the session it comes from. -/
structure Received (s s' : Session C) : Prop where
  erased : s'.eraseReception = s.eraseReception
  DHrValid : s'.DHrValid = true
  dirty : s'.dirty = .dirtyDecrypt ∨ s'.dirty = .dirtyRatchetReceiving ∨ s'.dirty = .dirtyKemRatchetReceiving
  /-- Without an asymmetric ratchet the peer key and the root key stay. -/
  symmetric : s'.dirty = .dirtyDecrypt → s.DHrValid = true ∧ s'.DHr = s.DHr ∧ s'.RK = s.RK

lemma Received.activates (h : Received s s') : s'.activates = true := by
  rw [Session.activates]
  obtain h | h | h := h.dirty <;> rw [h]

lemma Received.receiving (h : Received s s') : Receiving s s' :=
  ⟨h.dirty, (congrArg dbSessionId h.erased :)⟩

lemma Received.of_eraseChain {s1 : Session C} (h : Received s s1)
    (herase : s'.eraseChain = s1.eraseChain) : Received s s' := by
  have hvalid : s'.DHrValid = s1.DHrValid := (congrArg Session.DHrValid herase :)
  have hdirty : s'.dirty = s1.dirty := (congrArg Session.dirty herase :)
  have hDHr : s'.DHr = s1.DHr := (congrArg Session.DHr herase :)
  have hRK : s'.RK = s1.RK := (congrArg Session.RK herase :)
  refine ⟨(eraseReception_of_eraseChain herase).trans h.erased, hvalid.trans h.DHrValid, ?_, ?_⟩
  · rw [hdirty]
    exact h.dirty
  · rw [hdirty, hDHr, hRK]
    exact h.symmetric

/-- A session whose chain was just started by an asymmetric ratchet. -/
lemma Received.of_asymmetricRatchet {s1 : Session C} (herase : s1.eraseReception = s.eraseReception)
    (hvalid : s'.DHrValid = true) (hdirty : s'.dirty = (s1.asymmetricRatchetReceiving header).dirty)
    (herase' : s'.eraseReception = (s1.asymmetricRatchetReceiving header).eraseReception) : Received s s' := by
  have hd := asymmetricRatchetReceiving_dirty header s1
  refine ⟨?_, hvalid, ?_, ?_⟩
  · rw [herase', asymmetricRatchetReceiving_eraseReception, herase]
  · rw [hdirty]
    exact Or.inr hd
  · rw [hdirty]
    intro h
    obtain hd | hd := hd <;> rw [hd] at h <;> cases h

/-! ### The ways to prepare a decryption -/

def startReception (header : DRHeader A) (s : Session C) : Session C :=
  confirmKEMPk header { s with dirty := .dirtyDecrypt }

/-- How the message key of a header is found or derived. -/
inductive Prepared (t : KeyTable C) (header : DRHeader A) (s : Session C) :
    Session C × C.MessageKey × Bool → Prop where
  /-- The first message of a session created on reception. -/
  | first {r} (hvalid : s.DHrValid = false)
      (h : prepareOnChain header settings.maxMessageSkip
        { asymmetricRatchetReceiving header { s with dirty := .dirtyDecrypt } with
          DHrValid := true } = some r) : Prepared t header s r
  /-- A message on the current receiving chain. -/
  | onChain {r} (u : Option Bytes) (hvalid : s.DHrValid = true)
      (hdhr : header.isDHr C s.DHr = true)
      (hkey : header.Ns ≥ s.Nr ∧ u = s.usedDHid ∨ storedKey t header = none ∧ u = none)
      (h : prepareOnChain header settings.maxMessageSkip
        { s.startReception header with usedDHid := u } = some r) : Prepared t header s r
  /-- A message whose key is in the storage. -/
  | stored {DHr MK} (hvalid : s.DHrValid = true)
      (hcur : ¬ (header.isDHr C s.DHr = true ∧ header.Ns ≥ s.Nr))
      (hkey : storedKey t header = some (DHr, MK)) :
      Prepared t header s
        ({ s.startReception header with usedDHid := some DHr, usedNr := header.Ns }, MK, true)
  /-- A message on a new receiving chain. -/
  | newChain {r} (hvalid : s.DHrValid = true) (hdhr : header.isDHr C s.DHr = false)
      (hkey : storedKey t header = none)
      (h : prepareNewChain header { s.startReception header with usedDHid := none } = some r) :
      Prepared t header s r

variable {r : Session C × C.MessageKey × Bool} {t : KeyTable C}

theorem prepared_of_prepare (h : s.prepare t header = some r) : Prepared t header s r := by
  rw [prepare] at h
  split_ifs at h with hv
  · have husedDHid : (s.startReception header).usedDHid = s.usedDHid := by
      rw [startReception, confirmKEMPk]
      split_ifs <;> rfl
    rw [prepareValid] at h
    by_cases hcur : header.isDHr C s.DHr = true ∧ header.Ns ≥ s.Nr
    · rw [if_pos hcur] at h
      exact .onChain _ hv hcur.1 (.inl ⟨hcur.2, husedDHid⟩) h
    · rw [if_neg hcur] at h
      cases hkey : storedKey t header with
      | some p =>
        rw [hkey] at h
        cases h
        exact .stored hv hcur hkey
      | none =>
        rw [hkey] at h
        change (if header.isDHr C s.DHr = true then _ else _) = some r at h
        by_cases hdhr : header.isDHr C s.DHr = true
        · rw [if_pos hdhr] at h
          exact .onChain none hv hdhr (.inr ⟨hkey, rfl⟩) h
        · rw [if_neg hdhr] at h
          exact .newChain hv (by simpa using hdhr) hkey h
  · exact .first (by simpa using hv) h

lemma prepare_onChain (hvalid : s.DHrValid = true) (hdhr : header.isDHr C s.DHr = true) (hNs : header.Ns ≥ s.Nr) :
    s.prepare t header = prepareOnChain header settings.maxMessageSkip (s.startReception header) := by
  rw [prepare, if_pos hvalid, prepareValid, if_pos ⟨hdhr, hNs⟩]
  rfl

lemma prepare_stored {DHr : Bytes} {MK : C.MessageKey} (hvalid : s.DHrValid = true)
    (hcur : ¬ (header.isDHr C s.DHr = true ∧ header.Ns ≥ s.Nr)) (hkey : storedKey t header = some (DHr, MK)) :
    s.prepare t header =
      some ({ s.startReception header with usedDHid := some DHr, usedNr := header.Ns }, MK, true) := by
  rw [prepare, if_pos hvalid, prepareValid, if_neg hcur, hkey]
  rfl

lemma prepare_newChain (hvalid : s.DHrValid = true) (hdhr : header.isDHr C s.DHr = false)
    (hkey : storedKey t header = none) :
    s.prepare t header = prepareNewChain header { s.startReception header with usedDHid := none } := by
  have hne : ¬ header.isDHr C s.DHr = true := by
    rw [hdhr]
    exact Bool.false_ne_true
  rw [prepare, if_pos hvalid, prepareValid, if_neg (fun h => hne h.1), hkey]
  exact if_neg hne

lemma received_startReception (hvalid : s.DHrValid = true) (u : Option Bytes) (n : UInt16) :
    Received s { s.startReception header with usedDHid := u, usedNr := n } := by
  rw [startReception, confirmKEMPk]
  split_ifs <;> exact ⟨rfl, hvalid, Or.inl rfl, fun _ => ⟨hvalid, rfl, rfl⟩⟩

/-- Preparing a decryption changes the session only as a reception may. -/
theorem Prepared.received (h : Prepared t header s r) : Received s r.1 := by
  cases h with
  | first hvalid h =>
    refine Received.of_eraseChain ?_ (prepareOnChain_eraseChain h).1
    have herase : eraseReception { s with dirty := .dirtyDecrypt } = s.eraseReception := rfl
    exact Received.of_asymmetricRatchet herase rfl rfl rfl
  | onChain u hvalid hdhr hkey h =>
    exact (received_startReception hvalid u _).of_eraseChain (prepareOnChain_eraseChain h).1
  | stored hvalid hcur hkey => exact received_startReception hvalid _ _
  | newChain hvalid hdhr hkey h =>
    rw [prepareNewChain, Option.bind_eq_some_iff] at h
    obtain ⟨s1, hskip, hchain⟩ := h
    have hr1 : Received s s1 :=
      (received_startReception hvalid none _).of_eraseChain (skipMessageKeys_eraseChain hskip)
    refine Received.of_eraseChain ?_ (prepareOnChain_eraseChain hchain).1
    refine Received.of_asymmetricRatchet hr1.erased ?_ rfl rfl
    rw [asymmetricRatchetReceiving_DHrValid]
    exact hr1.DHrValid

lemma startReception_mkskipped (header : DRHeader A) (s : Session C) :
    (s.startReception header).mkskipped = s.mkskipped := by
  rw [startReception, confirmKEMPk]
  split_ifs <;> rfl

/-- A stored key leaves no skipped key in memory; a derived one marks no stored key as used. -/
theorem Prepared.kept (h : Prepared t header s r) (hused : s.usedDHid = none) :
    (r.2.2 = true → r.1.mkskipped = s.mkskipped) ∧ (r.2.2 = false → r.1.usedDHid = none) := by
  cases h with
  | first hvalid h =>
    obtain ⟨herase, hstored⟩ := prepareOnChain_eraseChain h
    have hr := (congrArg usedDHid herase :)
    have hasym := asymmetricRatchetReceiving_usedDHid header { s with dirty := .dirtyDecrypt }
    exact ⟨fun h => absurd (hstored.symm.trans h) (by decide), fun _ => hr.trans (hasym.trans hused)⟩
  | onChain u hvalid hdhr hkey h =>
    obtain ⟨herase, hstored⟩ := prepareOnChain_eraseChain h
    have hr := (congrArg usedDHid herase :)
    refine ⟨fun h => absurd (hstored.symm.trans h) (by decide), fun _ => hr.trans ?_⟩
    obtain ⟨-, rfl⟩ | ⟨-, rfl⟩ := hkey
    · exact hused
    · rfl
  | stored hvalid hcur hkey =>
    exact ⟨fun _ => startReception_mkskipped header s, fun h => (by cases h)⟩
  | newChain hvalid hdhr hkey h =>
    rw [prepareNewChain, Option.bind_eq_some_iff] at h
    obtain ⟨s1, hskip, hchain⟩ := h
    obtain ⟨herase, hstored⟩ := prepareOnChain_eraseChain hchain
    have hr := (congrArg usedDHid herase :)
    have hasym := asymmetricRatchetReceiving_usedDHid header s1
    have hs1 := (congrArg usedDHid (skipMessageKeys_eraseChain hskip) :)
    exact ⟨fun h => absurd (hstored.symm.trans h) (by decide), fun _ => hr.trans (hasym.trans hs1)⟩

/-! ### The KEM chain size -/

lemma toNat_add_one_le (x : UInt32) : (x + 1).toNat ≤ x.toNat + 1 := by
  rw [UInt32.toNat_add]
  exact Nat.mod_le _ _

lemma deriveSkipped_chainSize (n : ℕ) (s : Session C) :
    (s.deriveSkipped n).2.KEMRatchetChainSize.toNat ≤ s.KEMRatchetChainSize.toNat + n := by
  induction n generalizing s with
  | zero => exact le_refl _
  | succ n ih =>
    rw [deriveSkipped]
    refine (ih _).trans ?_
    have := toNat_add_one_le s.KEMRatchetChainSize
    dsimp only
    omega

lemma skipMessageKeys_chainSize {n : UInt16} {limit : ℤ} (h : s.skipMessageKeys n limit = some s') :
    s'.KEMRatchetChainSize.toNat ≤ s.KEMRatchetChainSize.toNat + (n.toNat - s.Nr.toNat) := by
  rw [skipMessageKeys] at h
  split_ifs at h
  · cases h
    omega
  · cases h
    exact deriveSkipped_chainSize _ s

lemma prepareOnChain_chainSize {limit : ℤ} {MK : C.MessageKey} {stored : Bool}
    (h : s.prepareOnChain header limit = some (s', MK, stored)) : s'.KEMRatchetChainSize.toNat ≤
      s.KEMRatchetChainSize.toNat + (header.Ns.toNat - s.Nr.toNat) + 1 := by
  rw [prepareOnChain, Option.map_eq_some_iff] at h
  obtain ⟨s1, hskip, h⟩ := h
  cases h
  have h1 := skipMessageKeys_chainSize hskip
  have h2 := toNat_add_one_le s1.KEMRatchetChainSize
  simp only [advanceReceiving]
  omega

/-- Number of messages counted in the KEM chain once a message with this header is received: a header
with the whole peer keys starts a new chain. -/
def countedAfter (C : Crypto A) (header : DRHeader A) (s : Session C) : ℕ :=
  match header.keys with
  | .full _ =>
    if s.DHrValid ∧ header.isDHr C s.DHr then
      s.KEMRatchetChainSize.toNat + (header.Ns.toNat - s.Nr.toNat) + 1
    else header.Ns.toNat + 1
  | .index _ _ _ =>
    if s.DHrValid ∧ header.isDHr C s.DHr then
      s.KEMRatchetChainSize.toNat + (header.Ns.toNat - s.Nr.toNat) + 1
    else s.KEMRatchetChainSize.toNat + (header.PN.toNat - s.Nr.toNat) + header.Ns.toNat + 1

lemma asymmetricRatchetReceiving_Nr (header : DRHeader A) (s : Session C) :
    (s.asymmetricRatchetReceiving header).Nr = 0 :=
  asymmetricRatchetReceiving_cases (·.Nr = 0) (fun _ => rfl) (fun _ => rfl) fun _ => rfl

/-- The chain size after an asymmetric ratchet and `n` derivations before the message. -/
lemma asymmetricRatchetReceiving_chainSize (header : DRHeader A) (s : Session C) :
    (s.asymmetricRatchetReceiving header).KEMRatchetChainSize = match header.keys with
      | .full _ => 0
      | .index _ _ _ => s.KEMRatchetChainSize := by
  rw [asymmetricRatchetReceiving]
  cases header.keys with
  | index ec r i => rfl
  | full DHr =>
    dsimp only
    split_ifs <;> rfl

lemma startReception_chainSize (header : DRHeader A) (s : Session C) :
    (s.startReception header).KEMRatchetChainSize = s.KEMRatchetChainSize := by
  rw [startReception, confirmKEMPk]
  split_ifs <;> rfl

lemma startReception_Nr (header : DRHeader A) (s : Session C) : (s.startReception header).Nr = s.Nr := by
  rw [startReception, confirmKEMPk]
  split_ifs <;> rfl

/-- The messages counted by a prepared session. -/
theorem Prepared.chainSize_le (h : Prepared t header s r) :
    r.1.KEMRatchetChainSize.toNat ≤ s.countedAfter C header ∨ r.1.KEMRatchetChainSize = s.KEMRatchetChainSize := by
  cases h with
  | first hvalid h =>
    left
    have hle := prepareOnChain_chainSize h
    dsimp only at hle
    rw [asymmetricRatchetReceiving_chainSize, asymmetricRatchetReceiving_Nr] at hle
    rw [countedAfter]
    cases hk : header.keys <;> simp only [hk, hvalid] at hle ⊢ <;> simp at hle ⊢ <;> omega
  | onChain u hvalid hdhr hkey h =>
    left
    have hle := prepareOnChain_chainSize h
    dsimp only at hle
    rw [startReception_chainSize, startReception_Nr] at hle
    rw [countedAfter]
    cases hk : header.keys <;> simpa [hk, hvalid, hdhr] using hle
  | stored hvalid hcur hkey =>
    right
    exact startReception_chainSize header s
  | newChain hvalid hdhr hkey h =>
    left
    rw [prepareNewChain, Option.bind_eq_some_iff] at h
    obtain ⟨s1, hskip, hchain⟩ := h
    have hle1 := skipMessageKeys_chainSize hskip
    have hle := prepareOnChain_chainSize hchain
    dsimp only at hle1
    rw [startReception_chainSize, startReception_Nr] at hle1
    rw [asymmetricRatchetReceiving_chainSize, asymmetricRatchetReceiving_Nr] at hle
    rw [countedAfter]
    cases hk : header.keys <;> simp only [hk, hdhr] at hle ⊢ <;> simp at hle ⊢ <;> omega

end Session

end Lime
