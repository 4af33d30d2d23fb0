import LinphoneSdk.Lime.WriteBack
import Mathlib.Algebra.GroupWithZero.Nat

/-!
# How many message keys a decryption skips

The allowance of `maxMessageSkip` derivations is shared by the end of the old receiving chain and the start of the new
one. The count of the old chain is a signed difference: a header that ends the old chain before the messages that were
received on it adds to the allowance.
-/

namespace Lime

open Bytes Exec

variable {A : Curve} {C : Crypto A} {header : DRHeader A} {t : KeyTable C} {s s' : Session C}

namespace Session

def skippedKeys (s : Session C) : ℕ := (s.mkskipped.map fun chain => chain.messageKeys.length).sum

/-- The header starts a new receiving chain: it is not on the current one, and its key is not stored. -/
def StartsChain (t : KeyTable C) (header : DRHeader A) (s : Session C) : Prop :=
  s.DHrValid = true ∧ header.isDHr C s.DHr = false ∧ storedKey t header = none

instance (t : KeyTable C) (header : DRHeader A) (s : Session C) : Decidable (StartsChain t header s) :=
  inferInstanceAs (Decidable (_ ∧ _ ∧ storedKey t header = none))

def maxAllowedDerivation (t : KeyTable C) (header : DRHeader A) (s : Session C) : ℤ :=
  if StartsChain t header s then settings.maxMessageSkip - (header.PN.toNat - s.Nr.toNat) else settings.maxMessageSkip

lemma length_deriveSkipped (n : ℕ) (s : Session C) : (s.deriveSkipped n).1.length = n := by
  induction n generalizing s with
  | zero => rfl
  | succ n ih =>
    rw [deriveSkipped, List.length_cons, ih]

/-- The keys up to `n` are added, when they are not more than the limit. -/
lemma skippedKeys_skipMessageKeys {n : UInt16} {limit : ℤ} (h : s.skipMessageKeys n limit = some s') :
    s'.skippedKeys = s.skippedKeys + (n.toNat - s.Nr.toNat) ∧ (s.Nr = n ∨ (n.toNat : ℤ) ≤ s.Nr.toNat + limit) := by
  rw [skipMessageKeys] at h
  split_ifs at h with heq hlimit
  · cases h
    simp [heq]
  · cases h
    refine ⟨?_, .inr (by omega)⟩
    simp [skippedKeys, deriveSkipped_mkskipped, length_deriveSkipped]

lemma skippedKeys_eq_of_mkskipped (h : s'.mkskipped = s.mkskipped) : s'.skippedKeys = s.skippedKeys := by
  rw [skippedKeys, skippedKeys, h]

variable {r : Session C × C.MessageKey × Bool}

lemma skippedKeys_prepareOnChain {limit : ℤ} (h : s.prepareOnChain header limit = some r) :
    r.1.skippedKeys = s.skippedKeys + (header.Ns.toNat - s.Nr.toNat) ∧
      (s.Nr = header.Ns ∨ (header.Ns.toNat : ℤ) ≤ s.Nr.toNat + limit) := by
  rw [prepareOnChain, Option.map_eq_some_iff] at h
  obtain ⟨s1, hskip, rfl⟩ := h
  obtain ⟨hcount, hlimit⟩ := skippedKeys_skipMessageKeys hskip
  exact ⟨hcount, hlimit⟩

/-- On a new chain, the keys of both chains are counted. -/
lemma skippedKeys_prepareNewChain (h : s.prepareNewChain header = some r) :
    r.1.skippedKeys = s.skippedKeys + (header.PN.toNat - s.Nr.toNat) + header.Ns.toNat ∧
      (header.Ns = 0 ∨ (header.Ns.toNat : ℤ) ≤ settings.maxMessageSkip - (header.PN.toNat - s.Nr.toNat)) ∧
      (s.Nr = header.PN ∨ (header.PN.toNat : ℤ) ≤ s.Nr.toNat + (settings.maxMessageSkip - header.Ns.toNat)) := by
  rw [prepareNewChain, Option.bind_eq_some_iff] at h
  obtain ⟨s1, hskip, hchain⟩ := h
  obtain ⟨hold, hfirst⟩ := skippedKeys_skipMessageKeys hskip
  obtain ⟨hnew, hsecond⟩ := skippedKeys_prepareOnChain hchain
  rw [asymmetricRatchetReceiving_Nr] at hnew hsecond
  rw [skippedKeys_eq_of_mkskipped (asymmetricRatchetReceiving_mkskipped header s1), hold] at hnew
  refine ⟨by simpa using hnew, hsecond.imp Eq.symm fun h => ?_, hfirst⟩
  simpa using h

/-- The keys of a decryption that succeeds are within the limit, unless the header ends the old chain too early. -/
lemma skippedKeys_prepare_le (h : s.prepare t header = some r) (hPN : StartsChain t header s → s.Nr ≤ header.PN) :
    r.1.skippedKeys ≤ s.skippedKeys + settings.maxMessageSkip := by
  cases prepared_of_prepare h with
  | first hvalid h =>
    obtain ⟨hcount, hlimit⟩ := skippedKeys_prepareOnChain h
    have hNr : { asymmetricRatchetReceiving header { s with dirty := .dirtyDecrypt } with DHrValid := true }.Nr = 0 :=
      asymmetricRatchetReceiving_Nr header _
    have hkept : { asymmetricRatchetReceiving header { s with dirty := .dirtyDecrypt } with
        DHrValid := true }.skippedKeys = s.skippedKeys :=
      skippedKeys_eq_of_mkskipped (asymmetricRatchetReceiving_mkskipped header { s with dirty := .dirtyDecrypt })
    rw [hNr] at hcount hlimit
    rw [hcount, hkept]
    rcases hlimit with heq | hle
    · simp [← heq]
    · simp only [UInt16.toNat_zero] at hle ⊢
      omega
  | onChain u hvalid hdhr hkey h =>
    obtain ⟨hcount, hlimit⟩ := skippedKeys_prepareOnChain h
    have hkept : { s.startReception header with usedDHid := u }.skippedKeys = s.skippedKeys :=
      skippedKeys_eq_of_mkskipped (startReception_mkskipped header s)
    rw [hcount, hkept]
    rcases hlimit with heq | hle
    · rw [heq, Nat.sub_self]
      omega
    · omega
  | @stored DHr MK hvalid hcur hkey =>
    have hkept : { s.startReception header with usedDHid := some DHr, usedNr := header.Ns }.skippedKeys =
        s.skippedKeys := skippedKeys_eq_of_mkskipped (startReception_mkskipped header s)
    exact hkept.le.trans (Nat.le_add_right _ _)
  | newChain hvalid hdhr hkey h =>
    obtain ⟨hcount, hnew, hold⟩ := skippedKeys_prepareNewChain h
    have hkept : { s.startReception header with usedDHid := none }.skippedKeys = s.skippedKeys :=
      skippedKeys_eq_of_mkskipped (startReception_mkskipped header s)
    have hNr : { s.startReception header with usedDHid := none }.Nr = s.Nr := startReception_Nr header s
    have hle : s.Nr.toNat ≤ header.PN.toNat := UInt16.le_iff_toNat_le.1 (hPN ⟨hvalid, hdhr, hkey⟩)
    rw [hNr] at hcount hnew
    rw [hcount, hkept]
    rcases hnew with hzero | hnew
    · rw [hNr] at hold
      rcases hold with heq | hold
      · simp [heq, hzero]
      · simp only [hzero, UInt16.toNat_zero] at hold ⊢
        omega
    · omega

end Session

section

variable {w : World C} {now : ℤ} {ciphertext AD : Bytes} {p : Bool}

/-- A prepared message is opened, and nothing else happens. -/
lemma ratchetDecrypt_eq_decryptPrepared {MK : C.MessageKey} {stored : Bool}
    (hparse : DRHeader.parse A ciphertext = some header) (hflag : p = header.payloadDirectEncryption)
    (hfault : w.fault ≠ some .selectMessageKey)
    (hprepare : w.session.prepare (w.db.DR_MSk w.session.dbSessionId) header = some (s, MK, stored)) :
    ratchetDecrypt now ciphertext AD p w =
      decryptPrepared now header s MK stored ciphertext (receivedAD w.session header ciphertext AD) w := by
  have hheader {header' : DRHeader A} (h : DRHeader.parse A ciphertext = some header') : header' = header :=
    Option.some.inj (h.symm.trans hparse)
  refine eq_of_wp (wp_ratchetDecrypt ?_ ?_ ?_ ?_ ?_)
  · intro hnone
    rw [hparse] at hnone
    cases hnone
  · intro header' hparse' hne
    obtain rfl := hheader hparse'
    exact absurd hflag hne
  · intro h
    exact absurd h hfault
  · intro header' hparse' hnone
    obtain rfl := hheader hparse'
    rw [hprepare] at hnone
    cases hnone
  · intro header' s' MK' stored' hparse' _ hsome
    obtain rfl := hheader hparse'
    rw [hprepare] at hsome
    cases hsome
    exact wp_outcome _ w

/-- A message for which too many keys would be derived is refused. -/
lemma ratchetDecrypt_eq_error (hparse : DRHeader.parse A ciphertext = some header)
    (hfault : w.fault ≠ some .selectMessageKey)
    (hprepare : w.session.prepare (w.db.DR_MSk w.session.dbSessionId) header = none) :
    ∃ s, ratchetDecrypt now ciphertext AD p w = .error .bctbx { w with session := s } := by
  have hwp : wp (ratchetDecrypt now ciphertext AD p) (fun _ _ => False)
      (fun e w' => e = .bctbx ∧ ∃ s, w' = { w with session := s }) w := by
    refine wp_ratchetDecrypt (fun _ => ⟨rfl, w.session, rfl⟩) (fun _ _ _ => ⟨rfl, w.session, rfl⟩)
      (fun h => absurd h hfault) (fun _ _ _ s _ => ⟨rfl, s, rfl⟩) ?_
    intro header' s MK stored hparse' _ hsome
    obtain rfl : header' = header := Option.some.inj (hparse'.symm.trans hparse)
    rw [hprepare] at hsome
    cases hsome
  obtain ⟨e, w', hrun, rfl, s, rfl⟩ := exists_error_of_wp hwp
  exact ⟨s, hrun⟩

/-- A message is refused, or opened by a session that was prepared for it. Of the keys that a prepared session skipped
there are at most `maxMessageSkip`, and the allowance never exceeds that, if and only if the header does not end the old
chain before the messages that were received on it. -/
theorem bounded_skipping (w : World C) (now : ℤ) (ciphertext AD : Bytes) (header : DRHeader A)
    (hparse : DRHeader.parse A ciphertext = some header) (hfault : w.fault ≠ some .selectMessageKey) :
    let t := w.db.DR_MSk w.session.dbSessionId
    (w.session.prepare t header = none → ∃ s, ratchetDecrypt now ciphertext AD header.payloadDirectEncryption w =
        .error .bctbx { w with session := s }) ∧
    (∀ s MK stored, w.session.prepare t header = some (s, MK, stored) →
      ratchetDecrypt now ciphertext AD header.payloadDirectEncryption w =
        decryptPrepared now header s MK stored ciphertext (receivedAD w.session header ciphertext AD) w) ∧
    (((∀ s MK stored, w.session.prepare t header = some (s, MK, stored) →
          s.skippedKeys ≤ w.session.skippedKeys + settings.maxMessageSkip) ∧
        w.session.maxAllowedDerivation t header ≤ settings.maxMessageSkip) ↔
      (w.session.StartsChain t header → w.session.Nr ≤ header.PN)) := by
  intro t
  refine ⟨ratchetDecrypt_eq_error hparse hfault,
    fun s MK stored h => ratchetDecrypt_eq_decryptPrepared hparse rfl hfault h, ?_, ?_⟩
  · rintro ⟨-, hallowed⟩ hstarts
    rw [Session.maxAllowedDerivation, if_pos hstarts] at hallowed
    rw [UInt16.le_iff_toNat_le]
    omega
  · intro hPN
    refine ⟨fun s MK stored h => Session.skippedKeys_prepare_le h hPN, ?_⟩
    rw [Session.maxAllowedDerivation]
    split_ifs with hstarts
    · have := UInt16.le_iff_toNat_le.1 (hPN hstarts)
      omega
    · exact le_rfl

end

/-! ### Examples -/

/-- A message with a header of the curve alone: `Ns`, `PN` and a key of 32 bytes, and what follows. -/
def newChainMessage (Ns PN : UInt16) (key : UInt8) (rest : Bytes) : Bytes :=
  [0x01, 0x02, 0x01] ++ be16 Ns ++ be16 PN ++ List.replicate 32 key ++ rest

def countingReceiver (Nr : UInt16) : World (Crypto.sample .C255) :=
  { sampleWorld .C255 with session := { (sampleWorld .C255).session with Nr } }

/-- A message that starts a new chain, behind three skipped messages. -/
theorem bounded_skipping_new_chain : ∃ header, DRHeader.parse .C255 (newChainMessage 2 4 9 []) = some header ∧
    (countingReceiver 1).session.StartsChain ((countingReceiver 1).db.DR_MSk 0) header ∧
    (∀ s MK stored, (countingReceiver 1).session.prepare ((countingReceiver 1).db.DR_MSk 0) header =
        some (s, MK, stored) →
      s.skippedKeys ≤ (countingReceiver 1).session.skippedKeys + settings.maxMessageSkip) := by
  refine ⟨_, rfl, by decide +kernel, ?_⟩
  obtain ⟨-, -, hbound⟩ :=
    bounded_skipping (countingReceiver 1) 0 (newChainMessage 2 4 9 []) [] _ rfl (by decide +kernel)
  exact (hbound.2 (by decide +kernel)).1

/-- One message was received on the old chain. The header says that there were none, and is the message 513 of the new
chain. -/
theorem bounded_skipping_fails : ∃ header, DRHeader.parse .C255 (newChainMessage 513 0 9 []) = some header ∧
    (∃ s MK stored, (countingReceiver 1).session.prepare ((countingReceiver 1).db.DR_MSk 0) header =
        some (s, MK, stored) ∧ (countingReceiver 1).session.skippedKeys + settings.maxMessageSkip < s.skippedKeys) ∧
    settings.maxMessageSkip <
      (countingReceiver 1).session.maxAllowedDerivation ((countingReceiver 1).db.DR_MSk 0) header := by
  refine ⟨_, rfl, ?_, by decide +kernel⟩
  have hstarts : (countingReceiver 1).session.StartsChain ((countingReceiver 1).db.DR_MSk 0)
      ⟨513, 0, .full ⟨fill _ 9, zeros _, zeros _⟩, 39, true⟩ := by decide +kernel
  obtain ⟨hvalid, hdhr, hkey⟩ := hstarts
  have hprepare := Session.prepare_newChain hvalid hdhr hkey
  obtain ⟨r, hr⟩ := Option.isSome_iff_exists.1 (show (Session.prepareNewChain
    ⟨513, 0, .full ⟨fill _ 9, zeros _, zeros _⟩, 39, true⟩ { (countingReceiver 1).session.startReception
      ⟨513, 0, .full ⟨fill _ 9, zeros _, zeros _⟩, 39, true⟩ with usedDHid := none }).isSome by decide +kernel)
  have hcount := (Session.skippedKeys_prepareNewChain hr).1
  refine ⟨r.1, r.2.1, r.2.2, hprepare.trans hr, ?_⟩
  rw [hcount]
  decide +kernel

end Lime
