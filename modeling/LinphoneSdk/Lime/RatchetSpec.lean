import LinphoneSdk.Lime.DoubleRatchet
import LinphoneSdk.Lime.StorageSpec

/-!
# Rules for `ratchetEncrypt` and `ratchetDecrypt`

A decryption has two parts. `Session.prepare` is the part before the authentication: it finds the
message key in the storage or derives it, and gives the session to save. `decryptPrepared` opens the
message and saves. The rule `wp_ratchetDecrypt` reduces `ratchetDecrypt` to these two, so that its
callers never go through its branches in the monad.
-/

namespace Lime

open Bytes Exec Option Session

variable {A : Curve} {C : Crypto A}

/-! ### Preparing a decryption -/

namespace Session

def prepareOnChain (header : DRHeader A) (limit : ℤ) (s : Session C) : Option (Session C × C.MessageKey × Bool) :=
  (s.skipMessageKeys header.Ns limit).map fun s =>
    (s.advanceReceiving, (KDF_CK s.CKr s.Nr).2, false)

def storedKey (t : KeyTable C) (header : DRHeader A) : Option (Bytes × C.MessageKey) :=
  match t (header.getDHrIndex C) header.Ns with
  | some MK => some (header.getDHrIndex C, MK)
  | none =>
    match header.keys with
    | .full DHr =>
      if A.isKEM then none else (t DHr.ec.toList header.Ns).map fun MK => (DHr.ec.toList, MK)
    | .index _ _ _ => none

def prepareNewChain (header : DRHeader A) (s : Session C) : Option (Session C × C.MessageKey × Bool) :=
  (s.skipMessageKeys header.PN (settings.maxMessageSkip - header.Ns.toNat)).bind fun s' =>
    prepareOnChain header (settings.maxMessageSkip - (header.PN.toNat - s.Nr.toNat))
      (s'.asymmetricRatchetReceiving header)

/-- Find or derive the message key of a header in a session that already received a peer key. -/
def prepareValid (t : KeyTable C) (header : DRHeader A) (s : Session C) : Option (Session C × C.MessageKey × Bool) :=
  let s' := s.confirmKEMPk header
  if header.isDHr C s.DHr ∧ header.Ns ≥ s.Nr then
    prepareOnChain header settings.maxMessageSkip s'
  else
    match storedKey t header with
    | some (DHr, MK) => some ({ s' with usedDHid := some DHr, usedNr := header.Ns }, MK, true)
    | none =>
      if header.isDHr C s.DHr then
        prepareOnChain header settings.maxMessageSkip { s' with usedDHid := none }
      else prepareNewChain header { s' with usedDHid := none }

/-- The session, the message key and whether it was stored, before the message is opened; `none` when
too many keys must be derived. -/
def prepare (t : KeyTable C) (header : DRHeader A) (s : Session C) : Option (Session C × C.MessageKey × Bool) :=
  if s.DHrValid then prepareValid t header { s with dirty := .dirtyDecrypt }
  else
    prepareOnChain header settings.maxMessageSkip
      { asymmetricRatchetReceiving header { s with dirty := .dirtyDecrypt } with DHrValid := true }

lemma asymmetricRatchetReceiving_dirty (header : DRHeader A) (s : Session C) :
    (s.asymmetricRatchetReceiving header).dirty = .dirtyRatchetReceiving ∨
      (s.asymmetricRatchetReceiving header).dirty = .dirtyKemRatchetReceiving := by
  rw [asymmetricRatchetReceiving]
  cases header.keys with
  | index ec r i => exact .inl rfl
  | full DHr =>
    dsimp only
    split_ifs
    · exact .inr rfl
    · exact .inl rfl

/-- Erase what a derivation on the receiving chain writes. -/
def eraseChain (s : Session C) : Session C :=
  { s with CKr := C.zeroKey, Nr := 0, KEMRatchetChainSize := 0, mkskipped := [] }

lemma deriveSkipped_eraseChain (n : ℕ) (s : Session C) : (s.deriveSkipped n).2.eraseChain = s.eraseChain := by
  induction n generalizing s with
  | zero => rfl
  | succ n ih =>
    rw [deriveSkipped]
    exact ih _

lemma deriveSkipped_mkskipped (n : ℕ) (s : Session C) : (s.deriveSkipped n).2.mkskipped = s.mkskipped := by
  induction n generalizing s with
  | zero => rfl
  | succ n ih =>
    rw [deriveSkipped]
    exact ih _

lemma skipMessageKeys_eraseChain {s s' : Session C} {n : UInt16} {limit : ℤ}
    (h : s.skipMessageKeys n limit = some s') : s'.eraseChain = s.eraseChain := by
  rw [skipMessageKeys] at h
  split_ifs at h
  · cases h
    rfl
  · cases h
    exact deriveSkipped_eraseChain _ s

/-- The session `s'` was changed by a reception of `s` and not saved since. -/
structure Receiving (s s' : Session C) : Prop where
  dirty : s'.dirty = .dirtyDecrypt ∨ s'.dirty = .dirtyRatchetReceiving ∨ s'.dirty = .dirtyKemRatchetReceiving
  dbSessionId : s'.dbSessionId = s.dbSessionId

lemma Receiving.asymmetricRatchetReceiving {s s' : Session C} (h : s'.dbSessionId = s.dbSessionId)
    (header : DRHeader A) : Receiving s (s'.asymmetricRatchetReceiving header) := by
  refine ⟨.inr (asymmetricRatchetReceiving_dirty header s'), ?_⟩
  rw [← h, Session.asymmetricRatchetReceiving]
  cases header.keys with
  | index ec r i => rfl
  | full DHr =>
    dsimp only
    split_ifs <;> rfl

lemma Receiving.confirmKEMPk {s s' : Session C} (h : Receiving s s') (header : DRHeader A) :
    Receiving s (s'.confirmKEMPk header) := by
  rw [Session.confirmKEMPk]
  split_ifs
  · exact ⟨h.dirty, h.dbSessionId⟩
  · exact h

def afterDecrypt (stored : Bool) (s : Session C) : Session C :=
  if stored then { s with dirty := .clean, usedDHid := none, usedNr := 0, X3DHInitMessage := [] }
  else { s with dirty := .clean, mkskipped := [], X3DHInitMessage := [] }

end Session

def decryptPrepared (now : ℤ) (header : DRHeader A) (s : Session C) (MK : C.MessageKey)
    (stored : Bool) (ciphertext DRAD : Bytes) : DRM C (Option Bytes) := do
  modifySession fun _ => s
  match ← decrypt MK ciphertext header.size DRAD with
  | none => return none
  | some plaintext =>
    sessionSave now true
    modifySession (afterDecrypt stored)
    return some plaintext

/-! ### The decryption rule -/

section rule

variable {now : ℤ} {header : DRHeader A} {ciphertext DRAD : Bytes} {w : World C}
  {Q : Option Bytes → World C → Prop} {E : Exception → World C → Prop}

lemma wp_skipKeys {Q : PUnit → World C → Prop} (n : UInt16) (limit : ℤ)
    (hnone : w.session.skipMessageKeys n limit = none → E .bctbx w)
    (hsome : ∀ s, w.session.skipMessageKeys n limit = some s → Q ⟨⟩ { w with session := s }) :
    wp (skipKeys n limit) Q E w := by
  rw [skipKeys, wp_bind, wp_getSession]
  cases h : w.session.skipMessageKeys n limit with
  | none => exact hnone h
  | some s => exact hsome s h

lemma wp_decryptOnChain (limit : ℤ) (hnone : w.session.prepareOnChain header limit = none → E .bctbx w)
    (hsome : ∀ s MK stored, w.session.prepareOnChain header limit = some (s, MK, stored) →
      wp (decryptPrepared now header s MK stored ciphertext DRAD) Q E w) :
    wp (decryptOnChain now header limit ciphertext DRAD) Q E w := by
  rw [decryptOnChain, wp_bind]
  refine wp_skipKeys header.Ns limit (fun h => hnone ?_) (fun s h => ?_)
  · rw [prepareOnChain, h, map_none]
  · exact hsome s.advanceReceiving (KDF_CK s.CKr s.Nr).2 false
      (by rw [prepareOnChain, h, map_some])

lemma wp_decryptOnNewChain {s0 : Session C} (hw : Receiving s0 w.session)
    (hnone : w.session.prepareNewChain header = none → ∀ s, s0.Receiving s → E .bctbx { w with session := s })
    (hsome : ∀ s MK stored, w.session.prepareNewChain header = some (s, MK, stored) →
      wp (decryptPrepared now header s MK stored ciphertext DRAD) Q E w) :
    wp (decryptOnHeaderChain now header true ciphertext DRAD) Q E w := by
  rw [decryptOnHeaderChain, if_pos rfl, wp_bind, wp_getSession, wp_bind]
  refine wp_skipKeys header.PN _ (fun h => hnone ?_ w.session hw) (fun s h => ?_)
  · rw [prepareNewChain, h, bind_none]
  · have hprep : w.session.prepareNewChain header = prepareOnChain header
        (settings.maxMessageSkip - (header.PN.toNat - w.session.Nr.toNat))
        (s.asymmetricRatchetReceiving header) := by
      rw [prepareNewChain, h, bind_some]
    rw [wp_bind, wp_modifySession]
    refine wp_decryptOnChain _ (fun h' => hnone (hprep.trans h') _ ?_) (fun s' MK stored h' => ?_)
    · have hid : s.dbSessionId = w.session.dbSessionId :=
        (congrArg dbSessionId (skipMessageKeys_eraseChain h) :)
      exact .asymmetricRatchetReceiving (hid.trans hw.dbSessionId) header
    · exact hsome s' MK stored (hprep.trans h')

lemma wp_lookForStoredMessageKey {Q : Option C.MessageKey → World C → Prop} {s0 : Session C}
    (hw : Receiving s0 w.session)
    (hfault : w.fault = some .selectMessageKey → ∀ s, s0.Receiving s → E .std { w with session := s })
    (hnone : storedKey (w.db.DR_MSk w.session.dbSessionId) header = none →
      Q none { w with session := { w.session with usedDHid := none } })
    (hsome : ∀ DHr MK, storedKey (w.db.DR_MSk w.session.dbSessionId) header = some (DHr, MK) → Q (some MK)
        { w with session := { w.session with usedDHid := some DHr, usedNr := header.Ns } }) :
    wp (lookForStoredMessageKey header) Q E w := by
  have hf := fun h => hfault h w.session hw
  rw [lookForStoredMessageKey, wp_bind, trySkippedMessageKeys]
  simp only [wp_bind, wp_extCall, wp_getSession, wp_getDb]
  refine ⟨hf, fun hne => ?_⟩
  cases hidx : w.db.DR_MSk w.session.dbSessionId (header.getDHrIndex C) header.Ns with
  | some MK =>
    exact hsome (header.getDHrIndex C) MK (by simp only [storedKey, hidx])
  | none =>
    simp only [wp_bind, wp_modifySession, wp_pure]
    cases hkeys : header.keys with
    | index ec r s => exact hnone (by simp only [storedKey, hidx, hkeys])
    | full DHr =>
      simp only [wp_ite, wp_pure]
      refine ⟨fun hkem => hnone (by simp only [storedKey, hidx, hkeys, hkem, if_true]), fun hkem => ?_⟩
      rw [trySkippedMessageKeys]
      simp only [wp_bind, wp_extCall, wp_getSession, wp_getDb]
      refine ⟨fun h => hfault h _ ⟨hw.dirty, hw.dbSessionId⟩, fun _ => ?_⟩
      cases hraw : w.db.DR_MSk w.session.dbSessionId DHr.ec.toList header.Ns with
      | some MK =>
        refine hsome DHr.ec.toList MK ?_
        simp only [storedKey, hidx, hkeys, hkem, hraw, map_some]
        rfl
      | none =>
        refine hnone ?_
        simp only [storedKey, hidx, hkeys, hkem, hraw, map_none]
        rfl

lemma wp_decryptValid {s0 : Session C} (hw : Receiving s0 w.session) (hfault : w.fault = some .selectMessageKey →
      ∀ s, s0.Receiving s → E .std { w with session := s })
    (hnone : w.session.prepareValid (w.db.DR_MSk w.session.dbSessionId) header = none →
      ∀ s, s0.Receiving s → E .bctbx { w with session := s })
    (hsome : ∀ s MK stored, w.session.prepareValid (w.db.DR_MSk w.session.dbSessionId) header = some (s, MK, stored) →
      wp (decryptPrepared now header s MK stored ciphertext DRAD) Q E w) :
    wp (decryptValid now header ciphertext DRAD) Q E w := by
  have hid : (w.session.confirmKEMPk header).dbSessionId = w.session.dbSessionId := by
    rw [confirmKEMPk]
    split <;> rfl
  have hw' := hw.confirmKEMPk header
  rw [decryptValid]
  simp only [wp_bind, wp_getSession, wp_modifySession, wp_ite]
  refine ⟨fun hcur => ?_, fun hcur => ?_⟩
  · have hprep : w.session.prepareValid (w.db.DR_MSk w.session.dbSessionId) header =
        (w.session.confirmKEMPk header).prepareOnChain header settings.maxMessageSkip := by
      rw [prepareValid, if_pos hcur]
    exact wp_decryptOnChain _ (fun h => hnone (hprep.trans h) _ hw')
      (fun s MK stored h => hsome s MK stored (hprep.trans h))
  · refine wp_lookForStoredMessageKey hw' (fun h => hfault h) (fun hkey => ?_) (fun DHr MK hkey => ?_)
    · -- no stored key: derive it on the current chain, or start the one of the header
      simp only [hid] at hkey
      by_cases hdhr : header.isDHr C w.session.DHr = true
      · have hprep : w.session.prepareValid (w.db.DR_MSk w.session.dbSessionId) header =
            prepareOnChain header settings.maxMessageSkip
              { w.session.confirmKEMPk header with usedDHid := none } := by
          rw [prepareValid, if_neg hcur, hkey]
          simp only [hdhr, if_true]
        simp only [hdhr, Bool.not_true]
        exact wp_decryptOnChain _ (fun h => hnone (hprep.trans h) _ ⟨hw'.dirty, hw'.dbSessionId⟩)
          (fun s MK stored h => hsome s MK stored (hprep.trans h))
      · have hprep : w.session.prepareValid (w.db.DR_MSk w.session.dbSessionId) header = prepareNewChain header
              { w.session.confirmKEMPk header with usedDHid := none } := by
          rw [prepareValid, if_neg hcur, hkey]
          simp only [hdhr]
          rfl
        simp only [Bool.not_eq_true] at hdhr
        simp only [hdhr, Bool.not_false]
        exact wp_decryptOnNewChain ⟨hw'.dirty, hw'.dbSessionId⟩ (fun h => hnone (hprep.trans h))
          (fun s MK stored h => hsome s MK stored (hprep.trans h))
    · simp only [hid] at hkey
      exact hsome _ MK true (by rw [prepareValid, if_neg hcur, hkey])

/-- A decryption that is not refused before the message is opened opens it with the prepared key. -/
theorem wp_ratchetDecrypt {ciphertext AD : Bytes} {p : Bool}
    (hparse : DRHeader.parse A ciphertext = none → E .bctbx w)
    (hflag : ∀ header, DRHeader.parse A ciphertext = some header → p ≠ header.payloadDirectEncryption → E .bctbx w)
    (hfault : w.fault = some .selectMessageKey → ∀ s, w.session.Receiving s → E .std { w with session := s })
    (hnone : ∀ header, DRHeader.parse A ciphertext = some header →
      w.session.prepare (w.db.DR_MSk w.session.dbSessionId) header = none →
      ∀ s, w.session.Receiving s → E .bctbx { w with session := s })
    (hsome : ∀ header s MK stored, DRHeader.parse A ciphertext = some header → p = header.payloadDirectEncryption →
      w.session.prepare (w.db.DR_MSk w.session.dbSessionId) header = some (s, MK, stored) →
      wp (decryptPrepared now header s MK stored ciphertext
        (receivedAD w.session header ciphertext AD)) Q E w) :
    wp (ratchetDecrypt now ciphertext AD p) Q E w := by
  rw [ratchetDecrypt]
  cases hheader : DRHeader.parse A ciphertext with
  | none => exact hparse hheader
  | some header =>
    have hnone := hnone header hheader
    simp only [wp_bind, wp_ite, wp_throw, wp_getSession, wp_modifySession]
    refine ⟨fun hp => hflag header hheader hp, fun hp => ?_⟩
    simp only [ne_eq, not_not] at hp
    have hsome := fun s MK stored => hsome header s MK stored hheader hp
    refine ⟨fun hv => ?_, fun hv => ?_⟩
    · have hprep : w.session.prepare (w.db.DR_MSk w.session.dbSessionId) header =
          prepareValid (w.db.DR_MSk w.session.dbSessionId) header
            { w.session with dirty := .dirtyDecrypt } := by
        rw [prepare, if_pos hv]
      have hrec : Receiving w.session { w.session with dirty := .dirtyDecrypt } :=
        ⟨.inl rfl, rfl⟩
      refine wp_decryptValid hrec hfault (fun h => hnone (hprep.trans h)) (fun s MK stored h => ?_)
      exact hsome s MK stored (hprep.trans h)
    · have hprep : w.session.prepare (w.db.DR_MSk w.session.dbSessionId) header =
          prepareOnChain header settings.maxMessageSkip
            { asymmetricRatchetReceiving header { w.session with dirty := .dirtyDecrypt } with
              DHrValid := true } := by
        rw [prepare, if_neg hv]
      refine wp_decryptOnChain _ (fun h => hnone (hprep.trans h) _ ?_) (fun s MK stored h => ?_)
      · have hrec : Receiving w.session
            (asymmetricRatchetReceiving header { w.session with dirty := .dirtyDecrypt }) :=
          .asymmetricRatchetReceiving rfl header
        exact ⟨hrec.dirty, hrec.dbSessionId⟩
      · exact hsome s MK stored (hprep.trans h)

/-- The plain text of a message long enough to hold a tag. -/
def openMessage (MK : C.MessageKey) (header : DRHeader A) (ciphertext DRAD : Bytes) : Option Bytes :=
  C.AEAD_decrypt MK ((ciphertext.drop header.size).take
    (ciphertext.length - header.size - settings.DRMessageAuthTagSize)) DRAD
    (ciphertext.drop (ciphertext.length - settings.DRMessageAuthTagSize))

lemma wp_decryptPrepared {s : Session C} {MK : C.MessageKey} {stored : Bool}
    (hshort : ciphertext.length < header.size + settings.DRMessageAuthTagSize → E .std { w with session := s })
    (hrefused : openMessage MK header ciphertext DRAD = none → Q none { w with session := s })
    (hfailed : ∀ w', w'.db = w.db → SaveFailed { w with session := s } w' → E .bctbx w')
    (hsaved : ∀ plaintext w', header.size + settings.DRMessageAuthTagSize ≤ ciphertext.length →
      openMessage MK header ciphertext DRAD = some plaintext →
      Saved now { w with session := s } w' →
      Q (some plaintext) { w' with session := w'.session.afterDecrypt stored }) :
    wp (decryptPrepared now header s MK stored ciphertext DRAD) Q E w := by
  rw [decryptPrepared, wp_bind, wp_modifySession, wp_bind, decrypt, wp_ite]
  refine ⟨fun h => hshort h, fun h => ?_⟩
  simp only [wp_pure]
  cases hopen : openMessage MK header ciphertext DRAD with
  | none =>
    rw [openMessage] at hopen
    rw [hopen]
    exact hrefused hopen
  | some plaintext =>
    have hsaved := fun w' => hsaved plaintext w' (by omega) hopen
    rw [openMessage] at hopen
    rw [hopen]
    simp only [wp_bind, wp_modifySession, wp_pure]
    refine wp_mono (wp_sessionSave now true) (fun _ w' h => hsaved w' h) ?_
    rintro e w' ⟨rfl, hdb, hfail⟩
    exact hfailed w' (hdb rfl) hfail

end rule

namespace Session

/-- The session once it sealed a message, before it is saved. -/
def sent (rnd : Randomness C) (now : ℤ) (s : Session C) : Session C :=
  (s.prepareSending rnd now).advanceSending.checkSendingChain

end Session

theorem wp_ratchetEncrypt {rnd : Randomness C} {now : ℤ} {plaintext AD : Bytes} {p : Bool}
    {w : World C} {Q : Bytes → World C → Prop} {E : Exception → World C → Prop}
    (hseal : w.fault = some .AEADEncrypt →
      E .std { w with session := (w.session.prepareSending rnd now).advanceSending })
    (hfailed : ∀ w', SaveFailed { w with session := w.session.sent rnd now } w' → E .bctbx w')
    (hsaved : ∀ w', Saved now { w with session := w.session.sent rnd now } w' →
      Q ((w.session.prepareSending rnd now).sealMessage plaintext AD p)
        { w' with session := { w'.session with dirty := .clean } }) :
    wp (ratchetEncrypt rnd now plaintext AD p) Q E w := by
  rw [ratchetEncrypt]
  simp only [wp_bind, wp_modifySession, wp_getSession, wp_extCall, wp_pure]
  refine ⟨hseal, fun _ => wp_mono (wp_sessionSave now false) (fun _ w' h => hsaved w' h) ?_⟩
  rintro e w' ⟨rfl, -, hfail⟩
  exact hfailed w' hfail

end Lime
