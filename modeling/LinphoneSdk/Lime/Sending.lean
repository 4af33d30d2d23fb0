import LinphoneSdk.Lime.RatchetSpec

/-!
# What an encryption changes in a session

The counterpart of the frame conditions of receptions: an encryption does not change the session
whose sending part is erased.
-/

namespace Lime

open Bytes

variable {A : Curve} {C : Crypto A} {s : Session C}

namespace Session

variable (rnd : Randomness C)

lemma prepareSending_of_available (now : ℤ) (h : s.peerECPkAvailable = true) :
    ∃ RK CKs DHs force kem has c, (A.isKEM = true → c = s.KEMRatchetChainSize) ∧ s.prepareSending rnd now = { s with
        PN := s.Ns, Ns := 0, RK := RK, CKs := CKs, DHs := DHs, forceKEMRatchet := force
        peerKEMPkAvailable := kem, peerHasSelfKEMPk := has, KEMRatchetChainSize := c
        dirty := .dirtyRatchetSending, peerECPkAvailable := false } := by
  simp only [prepareSending, h, if_true, asymmetricRatchetSending]
  cases hkem : A.isKEM with
  | false => exact ⟨_, _, _, _, _, _, _, fun hf => (by cases hf), rfl⟩
  | true =>
    simp only [if_true]
    split_ifs
    · exact ⟨_, _, _, _, _, _, _, fun _ => rfl, rfl⟩
    · exact ⟨_, _, _, _, _, _, _, fun _ => rfl, rfl⟩

lemma prepareSending_of_unavailable (now : ℤ) (h : s.peerECPkAvailable = false) :
    s.prepareSending rnd now = { s with dirty := .dirtyEncrypt } := by
  simp only [prepareSending, h, Bool.false_eq_true, if_false]

/-- The session `s'` with the fields an encryption may write taken from `s`. -/
def putBackSending (s s' : Session C) : Session C :=
  { s' with
    DHs := s.DHs, forceKEMRatchet := s.forceKEMRatchet, peerKEMPkAvailable := s.peerKEMPkAvailable
    peerHasSelfKEMPk := s.peerHasSelfKEMPk, peerECPkAvailable := s.peerECPkAvailable
    KEMRatchetChainSize := s.KEMRatchetChainSize, RK := s.RK, CKs := s.CKs, Ns := s.Ns, PN := s.PN
    dirty := s.dirty, activeStatus := s.activeStatus }

variable (now : ℤ) (s : Session C)

lemma putBackSending_prepareSending : s.putBackSending (s.prepareSending rnd now) = s := by
  cases hEC : s.peerECPkAvailable with
  | false => rw [prepareSending_of_unavailable rnd now hEC]; rfl
  | true =>
    obtain ⟨RK, CKs, DHs, force, kem, has, c, -, heq⟩ := prepareSending_of_available rnd now hEC
    rw [heq]
    rfl

lemma putBackSending_advanceSending : s.putBackSending (s.prepareSending rnd now).advanceSending = s :=
  putBackSending_prepareSending rnd now s

lemma putBackSending_sent : s.putBackSending (s.sent rnd now) = s := by
  rw [sent, checkSendingChain]
  split_ifs
  · exact putBackSending_advanceSending rnd now s
  · exact putBackSending_advanceSending rnd now s

/-- An encryption stays on its chain, or starts one from the root key; the kind of change tells
which. -/
lemma prepareSending_root : (s.prepareSending rnd now).dirty = .dirtyEncrypt ∧ (s.prepareSending rnd now).RK = s.RK ∨
      (s.prepareSending rnd now).dirty = .dirtyRatchetSending ∧
        ∃ input, (s.prepareSending rnd now).RK = (C.hkdf s.RK input).1 := by
  cases hEC : s.peerECPkAvailable with
  | false => exact Or.inl (by rw [prepareSending_of_unavailable rnd now hEC]; exact ⟨rfl, rfl⟩)
  | true =>
    right
    simp only [prepareSending, hEC, if_true, asymmetricRatchetSending]
    split_ifs
    · exact ⟨rfl, _, rfl⟩
    · exact ⟨rfl, _, rfl⟩
    · exact ⟨rfl, _, rfl⟩

lemma sent_root : (s.sent rnd now).dirty = .dirtyEncrypt ∧ (s.sent rnd now).RK = s.RK ∨
      (s.sent rnd now).dirty = .dirtyRatchetSending ∧ ∃ input, (s.sent rnd now).RK = (C.hkdf s.RK input).1 := by
  rw [sent, checkSendingChain]
  split_ifs
  · exact prepareSending_root rnd now s
  · exact prepareSending_root rnd now s

end Session

end Lime
