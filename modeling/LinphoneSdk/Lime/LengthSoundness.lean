import LinphoneSdk.Lime.BoundedSkipping
import LinphoneSdk.Lime.Message

/-!
# The sizes of received messages

The size of a plain text is the size of the message without its header and its tag. The size of a cipher message is
checked before; the size of a Double Ratchet message is not, and a difference that wraps around is the size that the
output is resized to.
-/

namespace Lime

open Bytes Exec

variable {A : Curve} {C : Crypto A} {header : DRHeader A} {now : ℤ} {ciphertext AD : Bytes} {p : Bool}

/-! ### Double Ratchet messages -/

def LongEnough (A : Curve) (message : Bytes) : Prop :=
  ∀ header, DRHeader.parse A message = some header → header.size + settings.DRMessageAuthTagSize ≤ message.length

/-- The output is resized to a negative size: the message of a prepared session is too short. -/
lemma decryptPrepared_short {s : Session C} {MK : C.MessageKey} {stored : Bool} {DRAD : Bytes} {w : World C}
    (hshort : ciphertext.length < header.size + settings.DRMessageAuthTagSize) :
    decryptPrepared now header s MK stored ciphertext DRAD w = .error .std { w with session := s } := by
  have hwp : wp (decryptPrepared now header s MK stored ciphertext DRAD) (fun _ _ => False)
      (fun e w' => e = .std ∧ w' = { w with session := s }) w := by
    rw [decryptPrepared, wp_bind, wp_modifySession, wp_bind, decrypt, wp_ite]
    exact ⟨fun _ => ⟨rfl, rfl⟩, fun hlong => absurd hshort hlong⟩
  obtain ⟨e, w', hrun, rfl, rfl⟩ := exists_error_of_wp hwp
  exact hrun

/-- When no call of the storage fails, only the resize raises an exception that is not a `BctbxException`. -/
lemma wp_ratchetDecrypt_longEnough {w : World C} (hfault : w.fault = none) (hlong : LongEnough A ciphertext) :
    wp (ratchetDecrypt now ciphertext AD p) (fun _ _ => True) (fun e _ => e = .bctbx) w := by
  refine wp_ratchetDecrypt (fun _ => rfl) (fun _ _ _ => rfl) ?_ (fun _ _ _ _ _ => rfl) ?_
  · intro h
    rw [hfault] at h
    cases h
  · intro header s MK stored hparse _ _
    refine wp_decryptPrepared ?_ (fun _ => trivial) (fun _ _ _ => rfl) (fun _ _ _ _ _ => trivial)
    intro hshort
    exact absurd (hlong header hparse) (by omega)

def readyWorld (DHs : ARsKey C) (header : DRHeader A) : World C where
  session := { Session.initReceiver C.zeroKey (zeros _) DHs 0 [] 0 (zeros _) 0 with
    DHrValid := true
    Nr := header.Ns }
  db := { Db.sample C with DR_MSk := fun _ _ _ => some (C.hmacMK C.zeroKey []) }
  fault := none

lemma exists_prepare_readyWorld (DHs : ARsKey C) (header : DRHeader A) : ∃ r, (readyWorld DHs header).session.prepare
      ((readyWorld DHs header).db.DR_MSk (readyWorld DHs header).session.dbSessionId) header = some r := by
  have hvalid : (readyWorld DHs header).session.DHrValid = true := rfl
  by_cases hdhr : header.isDHr C (readyWorld DHs header).session.DHr = true
  · have hNs : header.Ns ≥ (readyWorld DHs header).session.Nr := UInt16.le_refl header.Ns
    have hNr : ((readyWorld DHs header).session.startReception header).Nr = header.Ns :=
      Session.startReception_Nr header _
    rw [Session.prepare_onChain hvalid hdhr hNs, Session.prepareOnChain, Session.skipMessageKeys, if_pos hNr]
    exact ⟨_, rfl⟩
  · exact ⟨_, Session.prepare_stored hvalid (fun h => hdhr h.1) rfl⟩

/-! ### Cipher messages -/

section

variable {mem : Memory C} {DRmessage localAD cipherMessage : Bytes}

lemma wp_tryRatchetDecrypt_longEnough (hlong : LongEnough A DRmessage) (i : ℕ) :
    wp (tryRatchetDecrypt i none now DRmessage AD p) (fun _ _ => True) (fun e _ => e = .bctbx) mem := by
  rw [tryRatchetDecrypt, wp_tryCatch, wp_onSession]
  refine wp_mono (wp_ratchetDecrypt_longEnough rfl hlong) (fun _ _ _ => trivial) ?_
  rintro e w' rfl
  exact trivial

/-- The sizes of the cipher message are those that were checked. -/
lemma wp_decryptSessions_longEnough (hlong : LongEnough A DRmessage)
    (hcipher : p = true ∨ settings.DRMessageAuthTagSize ≤ cipherMessage.length) (sessions : List ℕ) :
    wp (decryptSessions now DRmessage AD localAD cipherMessage p sessions fun _ => none) (fun _ _ => True)
      (fun e _ => e = .bctbx) mem := by
  induction sessions generalizing mem with
  | nil => exact trivial
  | cons i rest ih =>
    rw [decryptSessions, wp_bind]
    refine wp_mono (wp_tryRatchetDecrypt_longEnough hlong i) (fun output mem' _ => ?_) (fun _ _ h => h)
    cases output with
    | none => exact ih
    | some output =>
      simp only []
      rw [wp_ite]
      refine ⟨fun _ => trivial, fun hdirect => ?_⟩
      have htag : ¬ cipherMessage.length < settings.DRMessageAuthTagSize :=
        Nat.not_lt.2 (hcipher.resolve_left hdirect)
      rw [wp_bind, openCipherMessage, if_neg htag]
      dsimp only
      cases C.AEAD_decrypt (C.hkdfSeed output)
        (cipherMessage.take (cipherMessage.length - settings.DRMessageAuthTagSize)) localAD
        (cipherMessage.drop (cipherMessage.length - settings.DRMessageAuthTagSize)) with
      | none => exact rfl
      | some plaintext => exact trivial

end

/-- No session resizes its output to a negative size if and only if the message is as long as its header and the tag;
whatever the cipher message is, its size minus the tag is never negative. -/
theorem length_soundness (DHs : ARsKey C) (DRmessage : Bytes) :
    ((∀ (w : World C) (now : ℤ) (AD : Bytes) (p : Bool), w.fault = none →
        ∀ w', ratchetDecrypt now DRmessage AD p w ≠ .error .std w') ↔ LongEnough A DRmessage) ∧
    (LongEnough A DRmessage → ∀ (mem : Memory C) (now : ℤ) (sourceDeviceId recipientDeviceId recipientUserId : Bytes)
        (DRSessions : List ℕ) (cipherMessage : Bytes) (mem' : Memory C),
        decryptMessage now sourceDeviceId recipientDeviceId recipientUserId DRSessions DRmessage cipherMessage
          (fun _ => none) mem ≠ .error .std mem') := by
  refine ⟨⟨fun h header hparse => ?_, fun hlong w now AD p hfault w' hrun => ?_⟩, ?_⟩
  · by_contra hshort
    obtain ⟨⟨s, MK, stored⟩, hprepare⟩ := exists_prepare_readyWorld DHs header
    refine h (readyWorld DHs header) 0 [] header.payloadDirectEncryption rfl
      { readyWorld DHs header with session := s } ?_
    rw [ratchetDecrypt_eq_decryptPrepared hparse rfl (by rintro ⟨⟩) hprepare]
    exact decryptPrepared_short (Nat.lt_of_not_le hshort)
  · have hbctbx := wp_of_error (wp_ratchetDecrypt_longEnough hfault hlong) hrun
    cases hbctbx
  · intro hlong mem now sourceDeviceId recipientDeviceId recipientUserId DRSessions cipherMessage mem' hrun
    have hwp : wp (decryptMessage now sourceDeviceId recipientDeviceId recipientUserId DRSessions DRmessage
        cipherMessage fun _ => none) (fun _ _ => True) (fun e _ => e = .bctbx) mem := by
      rw [decryptMessage, wp_ite]
      refine ⟨fun _ => rfl, fun hcheck => ?_⟩
      refine wp_decryptSessions_longEnough hlong ?_ DRSessions
      by_cases hdirect : cipherMessage.isEmpty = true
      · exact .inl hdirect
      · exact .inr (Nat.not_lt.1 fun h => hcheck ⟨hdirect, h⟩)
    have hbctbx := wp_of_error hwp hrun
    cases hbctbx

/-- A message of a header and a tag is long enough for every session of the curve. -/
theorem length_soundness_header_and_tag :
    ∀ (w : World (Crypto.sample .C255)) (now : ℤ) (AD : Bytes) (p : Bool), w.fault = none →
      ∀ w', ratchetDecrypt now (newChainMessage 0 0 9 (List.replicate 16 0)) AD p w ≠ .error .std w' := by
  refine (length_soundness (countingReceiver 0).session.DHs (newChainMessage 0 0 9 (List.replicate 16 0))).1.2 ?_
  intro header hparse
  cases hparse
  decide

/-- A header without anything behind it: the size of the plain text wraps around. -/
theorem length_soundness_fails :
    ∃ w', ratchetDecrypt 0 (newChainMessage 0 0 9 []) [] true (countingReceiver 0) = .error .std w' := ⟨_, rfl⟩

end Lime
