import LinphoneSdk.Ortp.RtpBundle

/-!
# The books of a bundle

The entries that a bundle holds for a session are those that its mode and its SSRCs call for, as long as no mode
changes the part of the entries that the bundle does not follow.
-/

namespace RtpBundle

open List Option Function

open scoped TimeIndex OrderedMap

variable {S : Type} [DecidableEq S]

/-! ### The entries held for a session -/

def RtpSession.Sends (session : RtpSession) : Prop := session.mode ≠ .recvOnly

def RtpSession.Receives (session : RtpSession) : Prop := session.mode ≠ .sendOnly

instance (session : RtpSession) : Decidable session.Sends := inferInstanceAs (Decidable (_ ≠ _))

instance (session : RtpSession) : Decidable session.Receives := inferInstanceAs (Decidable (_ ≠ _))

/-- The mid of the session. One that entered with an empty mid gets any. -/
def RtpSession.Named (session : RtpSession) (mid : Bytes) : Prop :=
  session.mid = some mid ∨ session.mid = some []

def heldIn (m : OrderedMap UInt32 (BundleSession S)) (s : S) (ssrc : UInt32) : Option Bytes :=
  (m.find ssrc).bind fun e => if e.rtpSession = s then some e.mid.mid else none

variable (b : RtpBundleCxx S)

def RtpBundleCxx.held (s : S) : UInt32 → Option Bytes := heldIn b.mSsrcToSession s

/-- The mids under which a session waits. -/
def waitingIn (index : List (Bytes × S)) (s : S) : List Bytes :=
  (index.filter fun e => e.2 = s).map Prod.fst

def RtpBundleCxx.waiting (s : S) : List Bytes := waitingIn b.mWaitingForAssignment s

/-- The entries of a session in a bundle: its send SSRC when it sends, and when it receives either the SSRC that was
assigned to it or a place among those that wait. -/
structure Kept (session : RtpSession) (held : UInt32 → Option Bytes) (waiting : List Bytes) : Prop where
  reachable : ∀ ssrc, (held ssrc).isSome ↔ session.mid.isSome ∧ (session.Sends ∧ ssrc = session.sndSsrc ∨
      session.Receives ∧ session.ssrcSet = true ∧ waiting = [] ∧ ssrc = session.rcvSsrc)
  unassigned : session.mid.isSome → session.Receives → session.ssrcSet = false → waiting ≠ []
  once : waiting = [] ∨ session.Receives ∧ ∃ mid, waiting = [mid] ∧ session.Named mid
  named : ∀ ssrc mid, held ssrc = some mid → session.Named mid

def RtpBundleCxx.Bookkept (s : S) : Prop := Kept (b.sessions s) (b.held s) (b.waiting s)

/-! ### Runs -/

inductive Action (S : Type) where
  | addSession (mid : Bytes) (session : S)
  | setMode (session : S) (mode : RtpSessionMode)
  | check (m : Packet) (isOutgoing : Bool) (answer : Option S)

def RtpBundleCxx.step : Action S → RtpBundleCxx S
  | .addSession mid session => RtpBundle.addSession b mid session
  | .setMode session mode => RtpBundle.setMode b session mode
  | .check m isOutgoing answer => (checkForSession b m isOutgoing answer).2

structure RtpBundleCxx.Initial (b : RtpBundleCxx S) : Prop where
  sessions : ∀ s, (b.sessions s).mid = none
  main : b.mSsrcToSession = .empty
  waiting : b.mWaitingForAssignment = []

inductive Reaches (P : RtpBundleCxx S → Action S → Prop) (b : RtpBundleCxx S) : RtpBundleCxx S → Prop where
  | refl : Reaches P b b
  | step {b' : RtpBundleCxx S} (a : Action S) (h : Reaches P b b') (ha : P b' a) : Reaches P b (b'.step a)

/-- A session is known to be assigned when it is, as `sessionModeUpdated` sees it. -/
def Tracked (session : RtpSession) (waiting : List Bytes) : Prop :=
  session.ssrcSet = true ∧ session.rcvSsrc ≠ 0 ↔ waiting = []

instance (session : RtpSession) (waiting : List Bytes) : Decidable (Tracked session waiting) :=
  inferInstanceAs (Decidable (_ ↔ _))

/-- The changes of the mode that are followed. Between modes that both receive the send SSRC is not followed, and from
sending to both it is lost. -/
def SoundChange (s : S) (mode : RtpSessionMode) : Prop :=
  let session := b.sessions s
  match session.mode, mode with
  | .recvOnly, .sendOnly =>
    Tracked session (b.waiting s) ∧ ∀ e, b.mSsrcToSession.find session.sndSsrc = some e → e.rtpSession = s
  | .sendRecv, .sendOnly => Tracked session (b.waiting s) ∧ (b.waiting s = [] → session.rcvSsrc ≤ session.sndSsrc)
  | .sendOnly, .sendRecv => False
  | .recvOnly, .sendRecv => b.waiting s = [] ∧ session.rcvSsrc = session.sndSsrc
  | .sendRecv, .recvOnly => b.waiting s = [] ∧ session.rcvSsrc = session.sndSsrc
  | _, _ => True

/-- The SSRC of the packet does not move to another mid. -/
def Unmoved : Packet → Prop
  | .rtp version ssrc mid _ _ =>
    version = 2 → ∀ e, b.mSsrcToSession.find ssrc = some e → mid = [] ∨ e.mid.mid = [] ∨ e.mid.mid = mid
  | _ => True

/-- The application gives a new session for an outgoing SSRC, which only sends. -/
def FreshSender (s : S) : Prop :=
  (b.sessions s).mid = none ∧ (b.sessions s).mode = .sendOnly

/-- The application gives a session for an incoming SSRC: a new one that only receives, or one of this mid that is
assigned already. -/
def Reusable (m : Packet) (s : S) : Prop :=
  let session := b.sessions s
  (session.mid = none ∧ session.mode = .recvOnly ∧
      (session.ssrcSet = true → session.rcvSsrc ≠ m.ssrc → b.mSsrcToSession.find session.rcvSsrc = none)) ∨
    session.Receives ∧ b.waiting s = [] ∧ (∀ mid, resolveMid b m = some mid → session.Named mid) ∧
      (session.Sends → session.rcvSsrc ≠ session.sndSsrc)

/-- The steps that keep the books. -/
def Sound : Action S → Prop
  | .addSession _ s =>
    (b.sessions s).mid = none ∧ ((b.sessions s).Sends → b.mSsrcToSession.find (b.sessions s).sndSsrc = none)
  | .setMode s mode => (b.sessions s).mid.isSome → SoundChange b s mode
  | .check m isOutgoing answer =>
    Unmoved b m ∧ ∀ s ∈ answer, if isOutgoing then FreshSender b s else Reusable b m s

structure Routes (b : RtpBundleCxx S) : Prop where
  /-- A packet goes to a session that sends or receives its SSRC by then. -/
  right : ∀ ssrc mid seqnumber payloadType answer s, let m := Packet.rtp 2 ssrc mid seqnumber payloadType
    Sound b (.check m false answer) → (checkForSession b m false answer).1 = some s →
      let session := (checkForSession b m false answer).2.sessions s
      session.Sends ∧ ssrc = session.sndSsrc ∨ session.Receives ∧ ssrc = session.rcvSsrc
  /-- A packet of the SSRC that a session sends, or that was assigned to it, goes to it. -/
  reached : ∀ ssrc mid seqnumber payloadType isOutgoing answer s, let m := Packet.rtp 2 ssrc mid seqnumber payloadType
    let session := b.sessions s
    Unmoved b m → session.mid.isSome →
      session.Sends ∧ ssrc = session.sndSsrc ∨ session.Receives ∧ b.waiting s = [] ∧ ssrc = session.rcvSsrc →
      (checkForSession b m isOutgoing answer).1 = some s
  /-- A packet of a new SSRC goes to a session that waits for it, if there is one. -/
  assigned : ∀ ssrc mid seqnumber answer s, mid ≠ [] → mid ∈ b.waiting s → b.mSsrcToSession.find ssrc = none →
    ∃ s', (checkForSession b (.rtp 2 ssrc mid seqnumber (b.sessions s).rcvPt) false answer).1 = some s' ∧
      mid ∈ b.waiting s' ∧ (b.sessions s').rcvPt = (b.sessions s).rcvPt

/-! ### The main map, seen from a session -/

section heldIn

variable {m : OrderedMap UInt32 (BundleSession S)} {s t : S} {ssrc : UInt32} {e : BundleSession S}
  {mid : Bytes}

lemma heldIn_eq_some : heldIn m s ssrc = some mid ↔ ∃ e, m.find ssrc = some e ∧ e.rtpSession = s ∧ e.mid.mid = mid := by
  simp [heldIn, bind_eq_some_iff]

lemma isSome_heldIn : (heldIn m s ssrc).isSome ↔ ∃ e, m.find ssrc = some e ∧ e.rtpSession = s := by
  simp only [isSome_iff_exists, heldIn_eq_some]
  constructor
  · rintro ⟨_, e, hfind, hs, _⟩
    exact ⟨e, hfind, hs⟩
  · rintro ⟨e, hfind, hs⟩
    exact ⟨e.mid.mid, e, hfind, hs, rfl⟩

lemma heldIn_of_find_none (h : m.find ssrc = none) : heldIn m s ssrc = none := by rw [heldIn, h]; rfl

/-- A SSRC leads to one session only. -/
lemma heldIn_of_ne (h : (heldIn m s ssrc).isSome) (hne : t ≠ s) : heldIn m t ssrc = none := by
  obtain ⟨e, hfind, rfl⟩ := isSome_heldIn.mp h
  simp [heldIn, hfind, hne.symm]

lemma heldIn_emplace_of_none (h : m.find ssrc = none) : heldIn (m.emplace ssrc e) s =
      if e.rtpSession = s then update (heldIn m s) ssrc (some e.mid.mid) else heldIn m s := by
  funext ssrc'
  by_cases hssrc : ssrc' = ssrc
  · subst hssrc
    rw [heldIn, m.find_emplace_self, h, getD_none, bind_some]
    split_ifs
    · rw [update_self]
    · rw [heldIn_of_find_none h]
  · rw [heldIn, m.find_emplace_of_ne e hssrc]
    split_ifs
    · rw [update_of_ne hssrc, heldIn]
    · rfl

lemma heldIn_emplace_of_some {e' : BundleSession S} (h : m.find ssrc = some e') :
    heldIn (m.emplace ssrc e) s = heldIn m s := by
  funext ssrc'
  by_cases hssrc : ssrc' = ssrc
  · subst hssrc
    rw [heldIn, heldIn, m.find_emplace_self, h, getD_some]
  · rw [heldIn, heldIn, m.find_emplace_of_ne e hssrc]

lemma heldIn_erase : heldIn (m.erase ssrc) s = update (heldIn m s) ssrc none := by
  funext ssrc'
  by_cases hssrc : ssrc' = ssrc
  · subst hssrc
    rw [update_self, heldIn_of_find_none (m.find_erase_self ssrc')]
  · rw [update_of_ne hssrc, heldIn, heldIn, m.find_erase_of_ne hssrc]

variable {ssrc' : UInt32}

lemma heldIn_erase_eq_some : heldIn (m.erase ssrc) s ssrc' = some mid ↔ ssrc' ≠ ssrc ∧ heldIn m s ssrc' = some mid := by
  rw [heldIn_erase, update_apply]
  split_ifs with h <;> simp [h]

lemma isSome_heldIn_erase : (heldIn (m.erase ssrc) s ssrc').isSome ↔ ssrc' ≠ ssrc ∧ (heldIn m s ssrc').isSome := by
  rw [heldIn_erase, update_apply]
  split_ifs with h <;> simp [h]

/-- The entries of other sessions are not erased. -/
lemma heldIn_erase_of_ne (h : (heldIn m s ssrc).isSome) (hne : t ≠ s) : heldIn (m.erase ssrc) t = heldIn m t := by
  rw [heldIn_erase, update_eq_self_iff, heldIn_of_ne h hne]

/-- The entry of a SSRC that no other session holds. -/
lemma isSome_heldIn_emplace (h : ∀ e', m.find ssrc = some e' → e'.rtpSession = e.rtpSession) (ssrc' : UInt32) :
    (heldIn (m.emplace ssrc e) e.rtpSession ssrc').isSome ↔ ssrc' = ssrc ∨ (heldIn m e.rtpSession ssrc').isSome := by
  cases hfind : m.find ssrc with
  | none =>
    rw [heldIn_emplace_of_none hfind, if_pos rfl, update_apply]
    split_ifs with hssrc <;> simp [hssrc]
  | some e' =>
    rw [heldIn_emplace_of_some hfind, or_iff_right_of_imp]
    rintro rfl
    exact isSome_heldIn.mpr ⟨e', hfind, h e' hfind⟩

lemma heldIn_emplace_eq_some (h : heldIn (m.emplace ssrc e) s ssrc' = some mid) :
    mid = e.mid.mid ∨ heldIn m s ssrc' = some mid := by
  cases hfind : m.find ssrc with
  | none =>
    rw [heldIn_emplace_of_none hfind] at h
    split_ifs at h
    · rw [update_apply] at h
      split_ifs at h
      · exact .inl (some.inj h).symm
      · exact .inr h
    · exact .inr h
  | some e' =>
    rw [heldIn_emplace_of_some hfind] at h
    exact .inr h

lemma heldIn_emplace_of_ne (h : e.rtpSession ≠ s) : heldIn (m.emplace ssrc e) s = heldIn m s := by
  cases hfind : m.find ssrc with
  | none => rw [heldIn_emplace_of_none hfind, if_neg h]
  | some e' => exact heldIn_emplace_of_some hfind

lemma isSome_heldIn_modify {f : BundleSession S → BundleSession S} (hf : ∀ e, (f e).rtpSession = e.rtpSession)
    (ssrc' : UInt32) : (heldIn (m.modify ssrc f) s ssrc').isSome = (heldIn m s ssrc').isSome := by
  rw [heldIn, heldIn, m.find_modify]
  cases m.find ssrc' with
  | none => rfl
  | some e =>
    simp only [map_some, bind_some]
    by_cases hs : e.rtpSession = s <;> split_ifs <;> simp_all

lemma heldIn_modify_eq_some {f : BundleSession S → BundleSession S} (hf : ∀ e, (f e).rtpSession = e.rtpSession)
    (h : heldIn (m.modify ssrc f) s ssrc' = some mid) : heldIn m s ssrc' = some mid ∨
      ∃ e, m.find ssrc = some e ∧ ssrc' = ssrc ∧ e.rtpSession = s ∧ (f e).mid.mid = mid := by
  rw [heldIn_eq_some, m.find_modify] at h
  obtain ⟨e', hmap, hs, hmid⟩ := h
  obtain ⟨e, hfind, rfl⟩ := map_eq_some_iff.mp hmap
  by_cases hssrc : ssrc' = ssrc
  · subst hssrc
    rw [if_pos rfl] at hs hmid
    exact .inr ⟨e, hfind, rfl, by rw [← hf, hs], hmid⟩
  · rw [if_neg hssrc] at hs hmid
    exact .inl (heldIn_eq_some.mpr ⟨e, hfind, hs, hmid⟩)

end heldIn

section waitingIn

variable {index : List (Bytes × S)} {s t : S} {mid : Bytes}

lemma waitingIn_eq_nil : waitingIn index s = [] ↔ ∀ e ∈ index, e.2 ≠ s := by
  simp [waitingIn, filter_eq_nil_iff]

lemma waitingIn_emplace_of_ne (h : t ≠ s) : waitingIn (TimeIndex.emplace mid s index) t = waitingIn index t := by
  rw [waitingIn, TimeIndex.filter_emplace_of_false (by simp [h.symm]), waitingIn]

lemma waitingIn_emplace (h : waitingIn index s = []) : waitingIn (TimeIndex.emplace mid s index) s = [mid] := by
  rw [waitingIn, TimeIndex.filter_emplace_of_nil (by simp) (map_eq_nil_iff.mp h)]
  rfl

variable {p : Bytes × S → Bool} {e : Bytes × S}

lemma waitingIn_eraseP_of_ne (hfind : index.find? p = some e) (h : t ≠ e.2) :
    waitingIn (index.eraseP p) t = waitingIn index t := by
  rw [waitingIn, filter_eraseP_of_find hfind (by simp [h.symm]), waitingIn]

lemma waitingIn_eraseP (hfind : index.find? p = some e) (h : waitingIn index e.2 = [mid]) :
    waitingIn (index.eraseP p) e.2 = [] := by
  obtain ⟨e', hfilter, _⟩ := map_eq_singleton_iff.mp h
  rw [waitingIn, filter_eraseP_eq_nil hfind (by simp) hfilter]
  rfl

/-- An entry that is found is one of its session. -/
lemma mem_waitingIn (hfind : index.find? p = some e) : e.1 ∈ waitingIn index e.2 := by
  have hmem := mem_of_find?_eq_some hfind
  exact mem_map_of_mem (mem_filter.mpr ⟨hmem, by simp⟩)

end waitingIn

/-! ### Entering the bundle -/

section steps

variable {b : RtpBundleCxx S} {s t : S} {session : RtpSession} {held : UInt32 → Option Bytes}
  {waiting : List Bytes}

/-- A session that is in no bundle has no entries. -/
lemma Kept.of_out (h : Kept session held waiting) (hmid : session.mid = none) : held = (fun _ => none) ∧ waiting = [] := by
  constructor
  · funext ssrc
    have hnone := mt (h.reachable ssrc).mp (by simp [hmid])
    simpa using hnone
  · rcases h.once with hnil | ⟨_, mid, _, hnamed⟩
    · exact hnil
    · simp [RtpSession.Named, hmid] at hnamed

/-- A session waits under one mid at most, which is its own. -/
lemma Kept.of_mem (h : Kept session held waiting) {mid : Bytes} (hmem : mid ∈ waiting) :
    waiting = [mid] ∧ session.Receives ∧ session.Named mid := by
  obtain ⟨hreceives, mid', rfl, hnamed⟩ := h.once.resolve_left (ne_nil_of_mem hmem)
  rw [mem_singleton] at hmem
  subst hmem
  exact ⟨rfl, hreceives, hnamed⟩

lemma RtpSession.Named.isSome {mid : Bytes} (h : session.Named mid) : session.mid.isSome := by
  rcases h with h | h <;> simp [h]

/-- A step may touch the entries of one session only. -/
lemma bookkept_frame {b' : RtpBundleCxx S} (h : ∀ t, b.Bookkept t) (hself : b'.Bookkept s)
    (hframe : ∀ t, t ≠ s → b'.sessions t = b.sessions t ∧ b'.held t = b.held t ∧ b'.waiting t = b.waiting t) (t : S) :
    b'.Bookkept t := by
  by_cases hts : t = s
  · rw [hts]
    exact hself
  · obtain ⟨hsession, hheld, hwaiting⟩ := hframe t hts
    rw [RtpBundleCxx.Bookkept, hsession, hheld, hwaiting]
    exact h t

/-- The entries of a session that enters the bundle. -/
lemma kept_enter {mid : Bytes} (hmid : session.mid = some mid)
    (hsends : session.Sends → held = update (fun _ => none) session.sndSsrc (some mid))
    (hnot : ¬ session.Sends → held = fun _ => none)
    (hreceives : session.Receives → waiting = [mid]) (hnot' : ¬ session.Receives → waiting = []) :
    Kept session held waiting := by
  have hwaiting : session.Receives → waiting ≠ [] := fun h => by simp [hreceives h]
  refine ⟨fun ssrc => ?_, fun _ h _ => hwaiting h, ?_, fun ssrc mid' => ?_⟩
  · have hunassigned : ¬ (session.Receives ∧ session.ssrcSet = true ∧ waiting = [] ∧ ssrc = session.rcvSsrc) :=
      fun ⟨h, _, hnil, _⟩ => hwaiting h hnil
    rw [or_iff_left hunassigned, hmid]
    by_cases hs : session.Sends
    · rw [hsends hs, update_apply]
      split_ifs with hssrc <;> simp [hs, hssrc]
    · rw [hnot hs]
      simp [hs]
  · by_cases hr : session.Receives
    · exact .inr ⟨hr, mid, hreceives hr, .inl hmid⟩
    · exact .inl (hnot' hr)
  · by_cases hs : session.Sends
    · rw [hsends hs, update_apply]
      split_ifs
      · rintro ⟨⟩
        exact .inl hmid
      · exact nofun
    · rw [hnot hs]
      exact nofun

lemma sessions_addSession (b : RtpBundleCxx S) (s : S) (mid : Bytes) :
    (addSession b mid s).sessions = update b.sessions s { b.sessions s with mid := some mid } := by
  cases hmode : (b.sessions s).mode <;> simp [addSession, enterSession, hmode, RtpBundleCxx.setSession]

lemma held_addSession {mid : Bytes}
    (hfree : (b.sessions s).Sends → b.mSsrcToSession.find (b.sessions s).sndSsrc = none) :
    (addSession b mid s).held t =
      if (b.sessions s).Sends ∧ s = t then update (b.held t) (b.sessions s).sndSsrc (some mid) else b.held t := by
  cases hmode : (b.sessions s).mode <;>
    simp only [RtpSession.Sends, hmode, ne_eq, reduceCtorEq, not_true_eq_false, not_false_eq_true, false_and, true_and,
      if_false, forall_true_left] at hfree ⊢ <;>
    simp only [addSession, enterSession, hmode, RtpBundleCxx.setSession, RtpBundleCxx.held]
  · exact heldIn_emplace_of_none hfree
  · exact heldIn_emplace_of_none hfree

lemma waiting_addSession {mid : Bytes} (hwaiting : b.waiting s = []) :
    (addSession b mid s).waiting t = if (b.sessions s).Receives ∧ t = s then [mid] else b.waiting t := by
  have hemplace : waitingIn (TimeIndex.emplace mid s b.mWaitingForAssignment) t =
      if t = s then [mid] else b.waiting t := by
    split_ifs with hts
    · rw [hts, waitingIn_emplace hwaiting]
    · exact waitingIn_emplace_of_ne hts
  cases hmode : (b.sessions s).mode <;>
    simp only [RtpSession.Receives, hmode, ne_eq, reduceCtorEq, not_true_eq_false, not_false_eq_true, false_and,
      true_and, if_false] <;>
    simp only [addSession, enterSession, hmode, RtpBundleCxx.setSession, RtpBundleCxx.waiting]
  · exact hemplace
  · exact hemplace

lemma bookkept_addSession {mid : Bytes} (h : ∀ t, b.Bookkept t) (ha : Sound b (.addSession mid s)) (t : S) :
    (addSession b mid s).Bookkept t := by
  obtain ⟨hmid, hfree⟩ := ha
  obtain ⟨hheld, hwaiting⟩ := (h s).of_out hmid
  rw [RtpBundleCxx.Bookkept, sessions_addSession, held_addSession hfree, waiting_addSession hwaiting]
  by_cases hts : t = s
  · subst hts
    rw [update_self]
    refine kept_enter rfl (fun hs => ?_) (fun hs => ?_) (fun hr => ?_) (fun hr => ?_)
    · rw [if_pos ⟨hs, rfl⟩, hheld]
    · rw [if_neg fun h => hs h.1, hheld]
    · rw [if_pos ⟨hr, rfl⟩]
    · rw [if_neg fun h => hr h.1, hwaiting]
  · rw [update_of_ne hts, if_neg fun h => hts h.2.symm, if_neg fun h => hts h.2]
    exact h t

@[simp] lemma setSession_self (b : RtpBundleCxx S) (s : S) (f : RtpSession → RtpSession) :
    (b.setSession s f).sessions s = f (b.sessions s) := update_self ..

/-! ### Changes of the mode -/

lemma kept_out (hmid : session.mid = none) : Kept session (fun _ => none) [] :=
  ⟨fun _ => by simp [hmid], by simp [hmid], .inl rfl, nofun⟩

lemma kept_sendOnly (hmode : session.mode = .sendOnly) (hmid : session.mid.isSome)
    (hheld : ∀ ssrc, (held ssrc).isSome ↔ ssrc = session.sndSsrc)
    (hnamed : ∀ ssrc mid, held ssrc = some mid → session.Named mid) : Kept session held [] := by
  have hsends : session.Sends := by simp [RtpSession.Sends, hmode]
  have hnot : ¬ session.Receives := by simp [RtpSession.Receives, hmode]
  refine ⟨fun ssrc => ?_, fun _ h => absurd h hnot, .inl rfl, hnamed⟩
  simp [hheld, hmid, hsends, hnot]

lemma sessions_leaveReception (b : RtpBundleCxx S) (s : S) : (leaveReception b s).sessions = b.sessions := by
  simp only [leaveReception]
  split_ifs <;> split <;> rfl

/-- The send SSRC of a session that stops receiving is its own, or free. -/
def SndFree (b : RtpBundleCxx S) (s : S) : Prop :=
  ∀ e, b.mSsrcToSession.find (b.sessions s).sndSsrc = some e → e.rtpSession = s

/-- The entry of the SSRC that a session receives comes first, when the one that it sends is not less. -/
lemma first_eq_rcv (hkept : Kept session (b.held s) (b.waiting s)) (hmid : session.mid.isSome)
    (hreceives : session.Receives) (hset : session.ssrcSet = true) (hwaiting : b.waiting s = [])
    (hle : session.Sends → session.rcvSsrc ≤ session.sndSsrc) :
    ∃ e, b.mSsrcToSession.first (fun e => decide (e.2.rtpSession = s)) = some (session.rcvSsrc, e) ∧
      b.mSsrcToSession.find session.rcvSsrc = some e ∧ e.rtpSession = s := by
  have hrcv : (b.held s session.rcvSsrc).isSome :=
    (hkept.reachable _).mpr ⟨hmid, .inr ⟨hreceives, hset, hwaiting, rfl⟩⟩
  obtain ⟨e, hfind, hs⟩ := isSome_heldIn.mp hrcv
  cases hfirst : b.mSsrcToSession.first (fun e => decide (e.2.rtpSession = s)) with
  | none => simpa [hs] using OrderedMap.eq_false_of_first hfirst hfind
  | some x =>
    obtain ⟨k, e'⟩ := x
    obtain ⟨hfind', hs', hleast⟩ := OrderedMap.find_of_first hfirst
    have hk : (b.held s k).isSome := isSome_heldIn.mpr ⟨e', hfind', by simpa using hs'⟩
    have hkeq : k = session.rcvSsrc := by
      rcases ((hkept.reachable k).mp hk).2 with ⟨hsends, rfl⟩ | ⟨_, _, _, rfl⟩
      · by_contra hne
        have hlt : session.rcvSsrc < session.sndSsrc := lt_of_le_of_ne (hle hsends) (Ne.symm hne)
        simpa [hs] using hleast _ hlt e hfind
      · rfl
    subst hkeq
    exact ⟨e', rfl, hfind', by simpa using hs'⟩

section

variable (h : ∀ t, Kept (if t = s then session else b.sessions t) (b.held t) (b.waiting t))
include h

lemma bookkept_leave_assigned
    (hsession : b.sessions s = { session with mode := .sendOnly }) (hmid : session.mid.isSome)
    (hreceives : session.Receives) (hset : session.ssrcSet = true ∧ session.rcvSsrc ≠ 0) (hwaiting : b.waiting s = [])
    (hle : session.Sends → session.rcvSsrc ≤ session.sndSsrc) (hfree : SndFree b s) (t : S) :
    (leaveReception b s).Bookkept t := by
  have hkept : Kept session (b.held s) (b.waiting s) := by simpa using h s
  obtain ⟨e, hfirst, hfind, hs⟩ := first_eq_rcv hkept hmid hreceives hset.1 hwaiting hle
  have hleave : leaveReception b s = { b with mSsrcToSession :=
      (b.mSsrcToSession.erase session.rcvSsrc).emplace session.sndSsrc ⟨e.mid, s⟩ } := by
    rw [leaveReception, hsession]
    simp only [if_pos hset, hfirst]
  have hheld (t : S) : (leaveReception b s).held t =
      heldIn ((b.mSsrcToSession.erase session.rcvSsrc).emplace session.sndSsrc ⟨e.mid, s⟩) t := by
    rw [hleave]
    rfl
  have hwait (t : S) : (leaveReception b s).waiting t = b.waiting t := by
    rw [hleave]
    rfl
  rw [RtpBundleCxx.Bookkept, sessions_leaveReception, hheld, hwait]
  by_cases hts : t = s
  · subst hts
    rw [hsession, hwaiting]
    have hfree' : ∀ e', (b.mSsrcToSession.erase session.rcvSsrc).find session.sndSsrc = some e' → e'.rtpSession = t := by
      intro e' hfind'
      by_cases heq : session.sndSsrc = session.rcvSsrc
      · rw [heq, OrderedMap.find_erase_self] at hfind'
        cases hfind'
      · rw [OrderedMap.find_erase_of_ne _ heq] at hfind'
        refine hfree e' ?_
        rw [hsession]
        exact hfind'
    refine kept_sendOnly rfl hmid (fun ssrc => ?_) fun ssrc mid hmid => ?_
    · refine (isSome_heldIn_emplace hfree' ssrc).trans (or_iff_left_of_imp fun hsome => ?_)
      obtain ⟨hne, hsome⟩ := isSome_heldIn_erase.mp hsome
      rcases ((hkept.reachable ssrc).mp hsome).2 with ⟨_, heq⟩ | ⟨_, _, _, heq⟩
      · exact heq
      · exact absurd heq hne
    · rcases heldIn_emplace_eq_some hmid with rfl | hmid
      · exact hkept.named session.rcvSsrc _ (heldIn_eq_some.mpr ⟨e, hfind, hs, rfl⟩)
      · exact hkept.named ssrc mid (heldIn_erase_eq_some.mp hmid).2
  · rw [heldIn_emplace_of_ne (Ne.symm hts), heldIn_erase_of_ne (isSome_heldIn.mpr ⟨e, hfind, hs⟩) hts]
    have ht := h t
    rwa [if_neg hts] at ht

/-- A session that waits stops receiving. -/
lemma bookkept_leave_waiting
    (hsession : b.sessions s = { session with mode := .sendOnly }) (hmid : session.mid.isSome)
    (hset : ¬ (session.ssrcSet = true ∧ session.rcvSsrc ≠ 0)) (hwaiting : b.waiting s ≠ []) (hfree : SndFree b s)
    (t : S) : (leaveReception b s).Bookkept t := by
  have hkept : Kept session (b.held s) (b.waiting s) := by simpa using h s
  obtain ⟨x, hfind, hx⟩ : ∃ x, b.mWaitingForAssignment.find? (fun e => decide (e.2 = s)) = some x ∧ x.2 = s := by
    cases hfind : b.mWaitingForAssignment.find? (fun e => decide (e.2 = s)) with
    | none =>
      refine absurd (waitingIn_eq_nil.mpr fun e he => ?_) hwaiting
      simpa using find?_eq_none.mp hfind e he
    | some x => exact ⟨x, rfl, by simpa using find?_some hfind⟩
  obtain ⟨mid', rfl⟩ : ∃ mid', x = (mid', s) := ⟨x.1, by rw [← hx]⟩
  obtain ⟨hwait, _, hnamed⟩ := hkept.of_mem (mem_waitingIn hfind)
  have hleave : leaveReception b s = { b with
      mSsrcToSession := b.mSsrcToSession.emplace session.sndSsrc ⟨⟨mid', 0⟩, s⟩
      mWaitingForAssignment := b.mWaitingForAssignment.eraseP fun e => e.2 = s } := by
    rw [leaveReception, hsession]
    simp only [if_neg hset, hfind]
  have hheld (t : S) : (leaveReception b s).held t =
      heldIn (b.mSsrcToSession.emplace session.sndSsrc ⟨⟨mid', 0⟩, s⟩) t := by
    rw [hleave]
    rfl
  have hwaits (t : S) : (leaveReception b s).waiting t =
      waitingIn (b.mWaitingForAssignment.eraseP fun e => e.2 = s) t := by
    rw [hleave]
    rfl
  rw [RtpBundleCxx.Bookkept, sessions_leaveReception, hheld, hwaits]
  by_cases hts : t = s
  · subst hts
    rw [hsession, waitingIn_eraseP hfind hwait]
    have hfree' : ∀ e', b.mSsrcToSession.find session.sndSsrc = some e' → e'.rtpSession = t := by
      rw [SndFree, hsession] at hfree
      exact hfree
    refine kept_sendOnly rfl hmid (fun ssrc => ?_) fun ssrc mid hmid => ?_
    · refine (isSome_heldIn_emplace hfree' ssrc).trans (or_iff_left_of_imp fun hsome => ?_)
      rcases ((hkept.reachable ssrc).mp hsome).2 with ⟨_, heq⟩ | ⟨_, _, hnil, _⟩
      · exact heq
      · exact absurd hnil hwaiting
    · rcases heldIn_emplace_eq_some hmid with rfl | hmid
      · exact hnamed
      · exact hkept.named ssrc mid hmid
  · rw [heldIn_emplace_of_ne (Ne.symm hts), waitingIn_eraseP_of_ne hfind hts]
    have ht := h t
    rwa [if_neg hts] at ht

/-- A session that sends starts receiving. -/
lemma bookkept_enterReception
    (hmode : session.mode = .sendOnly) (hsession : b.sessions s = { session with mode := .recvOnly })
    (hmid : session.mid.isSome) (t : S) : (enterReception b s).Bookkept t := by
  have hkept : Kept session (b.held s) (b.waiting s) := by simpa using h s
  have hsends : session.Sends := by simp [RtpSession.Sends, hmode]
  have hnot : ¬ session.Receives := by simp [RtpSession.Receives, hmode]
  have hwaiting : b.waiting s = [] := hkept.once.resolve_right fun hr => hnot hr.1
  have hsnd : (b.held s session.sndSsrc).isSome := (hkept.reachable _).mpr ⟨hmid, .inl ⟨hsends, rfl⟩⟩
  obtain ⟨e, hfind, hs⟩ := isSome_heldIn.mp hsnd
  have hnamed : session.Named e.mid.mid :=
    hkept.named session.sndSsrc _ (heldIn_eq_some.mpr ⟨e, hfind, hs, rfl⟩)
  have henter : enterReception b s = { b with
      mSsrcToSession := b.mSsrcToSession.erase session.sndSsrc
      mWaitingForAssignment := TimeIndex.emplace e.mid.mid s b.mWaitingForAssignment } := by
    simp only [enterReception, hsession, hfind]
  have hheld (t : S) : (enterReception b s).held t = heldIn (b.mSsrcToSession.erase session.sndSsrc) t := by
    rw [henter]
    rfl
  have hwaits (t : S) : (enterReception b s).waiting t =
      waitingIn (TimeIndex.emplace e.mid.mid s b.mWaitingForAssignment) t := by
    rw [henter]
    rfl
  have hsessions : (enterReception b s).sessions = b.sessions := by
    rw [henter]
  rw [RtpBundleCxx.Bookkept, hsessions, hheld, hwaits]
  by_cases hts : t = s
  · subst hts
    rw [hsession, waitingIn_emplace hwaiting]
    refine ⟨fun ssrc => ?_, fun _ _ _ => cons_ne_nil _ _, ?_, fun ssrc mid hmid => ?_⟩
    · simp only [isSome_heldIn_erase, RtpSession.Sends, ne_eq, not_true_eq_false, false_and, reduceCtorEq,
        and_false, or_false, iff_false, not_and]
      intro hne hsome
      rcases ((hkept.reachable ssrc).mp hsome).2 with ⟨_, heq⟩ | ⟨hr, _⟩
      · exact hne heq
      · exact hnot hr
    · exact .inr ⟨by simp [RtpSession.Receives], e.mid.mid, rfl, hnamed⟩
    · exact hkept.named ssrc mid (heldIn_erase_eq_some.mp hmid).2
  · rw [heldIn_erase_of_ne hsnd hts, waitingIn_emplace_of_ne hts]
    have ht := h t
    rwa [if_neg hts] at ht

end

/-- Between the modes that receive the entries stay, which is right when one SSRC is sent and received. -/
lemma kept_of_same_ssrc (hkept : Kept session held waiting) (hreceives : session.Receives) (hwaiting : waiting = [])
    (hssrc : session.rcvSsrc = session.sndSsrc) {mode : RtpSessionMode} (hmode : mode ≠ .sendOnly) :
    Kept { session with mode } held waiting := by
  refine ⟨fun ssrc => ?_, fun hmid _ => hkept.unassigned hmid hreceives, .inl hwaiting, hkept.named⟩
  rw [hkept.reachable]
  refine and_congr_right fun hmid => ?_
  have hset : session.ssrcSet = true := by
    by_contra hset
    exact hkept.unassigned hmid hreceives (by simpa using hset) hwaiting
  have hreceives' : RtpSession.Receives { session with mode } ↔ True := iff_true_intro hmode
  rw [hreceives', iff_true_intro hreceives]
  simp only [hset, hwaiting, hssrc, true_and]
  tauto

lemma bookkept_setMode {mode : RtpSessionMode} (h : ∀ t, b.Bookkept t) (ha : Sound b (.setMode s mode)) (t : S) :
    (setMode b s mode).Bookkept t := by
  obtain ⟨b', hb'⟩ : ∃ b', b' = b.setSession s fun session => { session with mode } := ⟨_, rfl⟩
  have hs : b'.sessions s = { b.sessions s with mode } := by
    rw [hb']
    exact update_self ..
  have hne {t : S} (hts : t ≠ s) : b'.sessions t = b.sessions t := by
    rw [hb']
    exact update_of_ne hts ..
  have hheld (t : S) : b'.held t = b.held t := by rw [hb']; rfl
  have hwaiting (t : S) : b'.waiting t = b.waiting t := by rw [hb']; rfl
  have hfind : b'.mSsrcToSession = b.mSsrcToSession := by rw [hb']; rfl
  have hbooks (t : S) : Kept (if t = s then b.sessions s else b'.sessions t) (b'.held t) (b'.waiting t) := by
    rw [hheld, hwaiting]
    split_ifs with hts
    · rw [hts]
      exact h s
    · rw [hne hts]
      exact h t
  -- the entries stay
  have hstay (hks : Kept { b.sessions s with mode } (b.held s) (b.waiting s)) : b'.Bookkept t := by
    rw [RtpBundleCxx.Bookkept, hheld, hwaiting]
    by_cases hts : t = s
    · rw [hts, hs]
      exact hks
    · rw [hne hts]
      exact h t
  have hset : setMode b s mode =
      if (b'.sessions s).mid.isSome then sessionModeUpdated b' s (b.sessions s).mode else b' := by
    rw [hb']
    rfl
  rw [hset, hs]
  split_ifs with hmid
  · have hsound := ha hmid
    have hunchanged (hmode : (b.sessions s).mode = mode) : b'.Bookkept t := by
      refine hstay ?_
      rw [← hmode]
      exact h s
    have hsame (hwait : b.waiting s = []) (hssrc : (b.sessions s).rcvSsrc = (b.sessions s).sndSsrc)
        (hreceives : (b.sessions s).Receives) (hmode : mode ≠ .sendOnly) : b'.Bookkept t :=
      hstay (kept_of_same_ssrc (h s) hreceives hwait hssrc hmode)
    have hleave (hreceives : (b.sessions s).Receives) (hmode : mode = .sendOnly)
        (htracked : Tracked (b.sessions s) (b.waiting s))
        (hle : b.waiting s = [] → (b.sessions s).Sends → (b.sessions s).rcvSsrc ≤ (b.sessions s).sndSsrc)
        (hfree : SndFree b' s) : (leaveReception b' s).Bookkept t := by
      subst hmode
      by_cases hnil : b.waiting s = []
      · exact bookkept_leave_assigned hbooks hs hmid hreceives (htracked.mpr hnil) (by rw [hwaiting, hnil])
          (hle hnil) hfree t
      · exact bookkept_leave_waiting hbooks hs hmid (mt htracked.mp hnil) (by rwa [hwaiting]) hfree t
    cases hprevious : (b.sessions s).mode <;> cases mode <;>
      simp only [SoundChange, hprevious, sessionModeUpdated, hs] at hsound ⊢
    · exact hunchanged hprevious
    · have hnot : ¬ (b.sessions s).Sends := by simp [RtpSession.Sends, hprevious]
      refine hleave (by simp [RtpSession.Receives, hprevious]) rfl hsound.1 (fun _ hsends => absurd hsends hnot) ?_
      rw [SndFree, hs, hfind]
      exact hsound.2
    · exact hsame hsound.1 hsound.2 (by simp [RtpSession.Receives, hprevious]) nofun
    · exact bookkept_enterReception hbooks hprevious hs hmid t
    · exact hunchanged hprevious
    · exact hsame hsound.1 hsound.2 (by simp [RtpSession.Receives, hprevious]) nofun
    · refine hleave (by simp [RtpSession.Receives, hprevious]) rfl hsound.1 (fun hnil _ => hsound.2 hnil) ?_
      rw [SndFree, hs, hfind]
      intro e he
      have hsnd : (b.held s (b.sessions s).sndSsrc).isSome :=
        ((h s).reachable _).mpr ⟨hmid, .inl ⟨by simp [RtpSession.Sends, hprevious], rfl⟩⟩
      obtain ⟨e', he', hs'⟩ := isSome_heldIn.mp hsnd
      rw [he] at he'
      cases he'
      exact hs'
    · exact hunchanged hprevious
  · have hnone : (b.sessions s).mid = none := by simpa using hmid
    obtain ⟨hnil, hnil'⟩ := (h s).of_out hnone
    refine hstay ?_
    rw [hnil, hnil']
    exact kept_out hnone

/-! ### Packets -/

variable {m : Packet} {ssrc : UInt32} {mid : Bytes}

variable {payloadType : ℕ}

omit [DecidableEq S] in
lemma forgetMoved_rtp {version : UInt8} {seqnumber : UInt16}
    (h : ∀ e, b.mSsrcToSession.find ssrc = some e → mid = [] ∨ e.mid.mid = [] ∨ e.mid.mid = mid) :
    forgetMoved b (.rtp version ssrc mid seqnumber payloadType) = b := by
  rw [forgetMoved]
  cases hfind : b.mSsrcToSession.find ssrc with
  | none => rfl
  | some e =>
    refine if_neg fun ⟨hmid, hne, hmoved⟩ => ?_
    rcases h e hfind with h | h | h
    · exact hmid h
    · exact hne h
    · exact hmoved h

/-- The mid of an entry changes when it is empty only. -/
lemma bookkept_modify {sequenceNumber : UInt32} (h : ∀ t, b.Bookkept t)
    (hmid : ∀ e, b.mSsrcToSession.find ssrc = some e →
      (updateBundleSession mid sequenceNumber e).mid.mid = e.mid.mid ∨ e.mid.mid = []) (t : S) :
    RtpBundleCxx.Bookkept
      { b with mSsrcToSession := b.mSsrcToSession.modify ssrc (updateBundleSession mid sequenceNumber) } t := by
  have hf (e : BundleSession S) : (updateBundleSession mid sequenceNumber e).rtpSession = e.rtpSession := by
    rw [updateBundleSession]
    split_ifs <;> rfl
  obtain ⟨hreachable, hunassigned, honce, hnamed⟩ := h t
  refine ⟨fun ssrc' => ?_, hunassigned, honce, fun ssrc' mid' hmid' => ?_⟩
  · rw [RtpBundleCxx.held, isSome_heldIn_modify hf]
    exact hreachable ssrc'
  · rcases heldIn_modify_eq_some hf hmid' with hmid' | ⟨e, hfind, rfl, hs, rfl⟩
    · exact hnamed ssrc' mid' hmid'
    · have hbefore := hnamed ssrc' e.mid.mid (heldIn_eq_some.mpr ⟨e, hfind, hs, rfl⟩)
      rcases hmid e hfind with heq | hnil
      · rwa [heq]
      · rw [hnil] at hbefore
        exact .inr (or_self_iff.mp hbefore)

lemma Kept.assign (h : Kept session held waiting) (hreceives : session.Receives) (hnamed : session.Named mid)
    (hwaiting : waiting ≠ []) :
    Kept { session with ssrcSet := true, rcvSsrc := ssrc } (update held ssrc (some mid)) [] := by
  refine ⟨fun ssrc' => ?_, nofun, .inl rfl, fun ssrc' mid' hmid' => ?_⟩
  · have hreceives' : RtpSession.Receives { session with ssrcSet := true, rcvSsrc := ssrc } ↔ True :=
      iff_true_intro hreceives
    have hbefore := h.reachable ssrc'
    simp only [hwaiting, false_and, and_false, or_false, hnamed.isSome, true_and] at hbefore
    rw [hreceives', update_apply]
    simp only [hnamed.isSome, true_and]
    split_ifs with hssrc
    · simp [hssrc]
    · rw [or_iff_left hssrc]
      exact hbefore
  · rw [update_apply] at hmid'
    split_ifs at hmid'
    · cases hmid'
      exact hnamed
    · exact h.named ssrc' mid' hmid'

lemma bookkept_assign {b' : RtpBundleCxx S} (h : ∀ t, b.Bookkept t) (hnone : b.mSsrcToSession.find ssrc = none)
    (hassign : assign b ssrc mid payloadType = some (s, b')) (t : S) : b'.Bookkept t := by
  simp only [assign] at hassign
  split at hassign
  next key s' hfind =>
    cases hassign
    have hkey : key = mid := by
      have hblank := find?_some hfind
      simp only [decide_eq_true_eq] at hblank
      exact hblank.1
    subst hkey
    obtain ⟨hwaiting, hreceives, hnamed⟩ := (h s).of_mem (mem_waitingIn hfind)
    refine bookkept_frame h ?_ (fun t hts => ⟨update_of_ne hts .., ?_, ?_⟩) t
    · have hheld : heldIn (b.mSsrcToSession.emplace ssrc ⟨⟨key, 0⟩, s⟩) s = update (b.held s) ssrc (some key) := by
        rw [heldIn_emplace_of_none hnone, if_pos rfl, RtpBundleCxx.held]
      rw [RtpBundleCxx.Bookkept, setSession_self, RtpBundleCxx.waiting, RtpBundleCxx.held]
      simp only [RtpBundleCxx.setSession]
      rw [hheld, waitingIn_eraseP hfind hwaiting]
      exact (h s).assign hreceives hnamed (by simp [hwaiting])
    · exact heldIn_emplace_of_ne (Ne.symm hts)
    · exact waitingIn_eraseP_of_ne hfind hts
  · cases hassign

/-- The books after the application gave a session: it gets the SSRC, and the mid if it had none. -/
lemma bookkept_emit (b' : RtpBundleCxx S) (h : ∀ t, b.Bookkept t)
    (hframe : ∀ t, t ≠ s → heldIn b'.mSsrcToSession t = b.held t) (hsessions : ∀ t, t ≠ s → b'.sessions t = b.sessions t)
    (hwaiting : b'.mWaitingForAssignment = b.mWaitingForAssignment) (hnone : b'.mSsrcToSession.find ssrc = none)
    (hkept : Kept { b'.sessions s with mid := (b'.sessions s).mid <|> some mid }
      (update (b'.held s) ssrc (some mid)) (b.waiting s)) (t : S) :
    RtpBundleCxx.Bookkept (RtpBundleCxx.setSession
      { b' with mSsrcToSession := b'.mSsrcToSession.emplace ssrc ⟨⟨mid, 0⟩, s⟩ } s
      fun session => { session with mid := session.mid <|> some mid }) t := by
  have hwaits (t : S) : waitingIn b'.mWaitingForAssignment t = b.waiting t := by
    rw [hwaiting]
    rfl
  refine bookkept_frame (s := s) h ?_ (fun t hts => ⟨?_, ?_, ?_⟩) t
  · rw [RtpBundleCxx.Bookkept, setSession_self, RtpBundleCxx.waiting, RtpBundleCxx.held]
    simp only [RtpBundleCxx.setSession]
    rw [heldIn_emplace_of_none hnone, if_pos rfl, hwaits]
    exact hkept
  · rw [← hsessions t hts]
    exact update_of_ne hts ..
  · rw [← hframe t hts]
    exact heldIn_emplace_of_ne (Ne.symm hts)
  · exact hwaits t

lemma bookkept_emit_outgoing (h : ∀ t, b.Bookkept t) (hnone : b.mSsrcToSession.find ssrc = none)
    (hfresh : FreshSender b s) (t : S) : (emitNewSsrc b ssrc mid true (some s)).2.Bookkept t := by
  obtain ⟨hmid, hmode⟩ := hfresh
  obtain ⟨hheld, hwaiting⟩ := (h s).of_out hmid
  refine bookkept_emit (b.setSession s fun session => { session with sndSsrc := ssrc }) h (fun _ _ => rfl)
    (fun t hts => update_of_ne hts ..) rfl hnone ?_ t
  have hheld' : (b.setSession s fun session => { session with sndSsrc := ssrc }).held s = fun _ => none := hheld
  rw [setSession_self, hwaiting, hheld']
  refine kept_enter (show _ = some mid by simp [hmid]) (fun _ => rfl) (fun hnot => ?_) (fun hr => ?_) fun _ => rfl
  · exact absurd (by simp [RtpSession.Sends, hmode]) hnot
  · exact absurd hmode hr

omit [DecidableEq S] in
lemma find_leaveSsrc (hnone : b.mSsrcToSession.find ssrc = none) :
    (leaveSsrc b ssrc s).mSsrcToSession.find ssrc = none := by
  rw [leaveSsrc]
  split_ifs with hset
  · exact (OrderedMap.find_erase_of_ne _ (Ne.symm hset.2)).trans hnone
  · exact hnone

omit [DecidableEq S] in
lemma sessions_leaveSsrc : (leaveSsrc b ssrc s).sessions = b.sessions := by
  rw [leaveSsrc]
  split_ifs <;> rfl

omit [DecidableEq S] in
lemma waiting_leaveSsrc : (leaveSsrc b ssrc s).mWaitingForAssignment = b.mWaitingForAssignment := by
  rw [leaveSsrc]
  split_ifs <;> rfl

/-- A session that is in no bundle leaves the entries of others. -/
lemma held_leaveSsrc_of_free (hfree : (b.sessions s).ssrcSet = true → (b.sessions s).rcvSsrc ≠ ssrc →
      b.mSsrcToSession.find (b.sessions s).rcvSsrc = none) :
    heldIn (leaveSsrc b ssrc s).mSsrcToSession t = b.held t := by
  simp only [leaveSsrc]
  split_ifs with hset
  · rw [heldIn_erase, RtpBundleCxx.held, update_eq_self_iff, heldIn_of_find_none (hfree hset.1 hset.2)]
  · rfl

omit [DecidableEq S] in
lemma held_leaveSsrc_of_assigned (hset : (b.sessions s).ssrcSet = true) (hne : (b.sessions s).rcvSsrc ≠ ssrc) :
    (leaveSsrc b ssrc s).mSsrcToSession = b.mSsrcToSession.erase (b.sessions s).rcvSsrc := by
  simp only [leaveSsrc, if_pos (And.intro hset hne)]

/-- A session leaves the SSRC that it receives for another. -/
lemma Kept.reassign (h : Kept session held []) (hreceives : session.Receives) (hnamed : session.Named mid)
    (hssrc : session.Sends → session.rcvSsrc ≠ session.sndSsrc) :
    Kept { session with ssrcSet := true, rcvSsrc := ssrc }
      (update (update held session.rcvSsrc none) ssrc (some mid)) [] := by
  have hreceives' : RtpSession.Receives { session with ssrcSet := true, rcvSsrc := ssrc } ↔ True :=
    iff_true_intro hreceives
  have hsends : RtpSession.Sends { session with ssrcSet := true, rcvSsrc := ssrc } ↔ session.Sends := Iff.rfl
  refine ⟨fun ssrc' => ?_, nofun, .inl rfl, fun ssrc' mid' hmid' => ?_⟩
  · have hbefore := h.reachable ssrc'
    rw [hreceives', hsends]
    simp only [hnamed.isSome, true_and] at hbefore ⊢
    by_cases hnew : ssrc' = ssrc
    · subst hnew
      simp
    by_cases hold : ssrc' = session.rcvSsrc
    · subst hold
      rw [update_of_ne hnew, update_self]
      simp only [isSome_none, Bool.false_eq_true, hnew, or_false, false_iff, not_and]
      exact hssrc
    · rw [update_of_ne hnew, update_of_ne hold, hbefore]
      simp [hnew, hold]
  · rw [update_apply] at hmid'
    split_ifs at hmid'
    · cases hmid'
      exact hnamed
    · rw [update_apply] at hmid'
      split_ifs at hmid'
      exact h.named ssrc' mid' hmid'

/-- A session that only receives enters the bundle with its SSRC. -/
lemma kept_recvOnly (hmode : session.mode = .recvOnly) (hmid : session.mid = some mid) (hset : session.ssrcSet = true) :
    Kept session (update (fun _ => none) session.rcvSsrc (some mid)) [] := by
  have hnot : ¬ session.Sends := by simp [RtpSession.Sends, hmode]
  have hreceives : session.Receives := by simp [RtpSession.Receives, hmode]
  refine ⟨fun ssrc' => ?_, fun _ _ hunset => ?_, .inl rfl, fun ssrc' mid' hmid' => ?_⟩
  · rw [update_apply]
    split_ifs with hssrc <;> simp [hmid, hnot, hreceives, hset, hssrc]
  · simp [hset] at hunset
  · rw [update_apply] at hmid'
    split_ifs at hmid'
    cases hmid'
    exact .inl hmid

lemma bookkept_emit_incoming (h : ∀ t, b.Bookkept t) (hnone : b.mSsrcToSession.find ssrc = none)
    (hreuse : (b.sessions s).mid = none ∧ (b.sessions s).mode = .recvOnly ∧
        ((b.sessions s).ssrcSet = true → (b.sessions s).rcvSsrc ≠ ssrc →
          b.mSsrcToSession.find (b.sessions s).rcvSsrc = none) ∨
      (b.sessions s).Receives ∧ b.waiting s = [] ∧ (b.sessions s).Named mid ∧
        ((b.sessions s).Sends → (b.sessions s).rcvSsrc ≠ (b.sessions s).sndSsrc)) (t : S) :
    (emitNewSsrc b ssrc mid false (some s)).2.Bookkept t := by
  obtain ⟨f, hf⟩ : ∃ f : RtpSession → RtpSession, f = fun s => { s with ssrcSet := true, rcvSsrc := ssrc } := ⟨_, rfl⟩
  have hother {t : S} (hts : t ≠ s) : ((leaveSsrc b ssrc s).setSession s f).sessions t = b.sessions t := by
    rw [← sessions_leaveSsrc (b := b) (s := s)]
    exact update_of_ne hts ..
  have hself : ((leaveSsrc b ssrc s).setSession s f).sessions s = f (b.sessions s) := by
    rw [setSession_self, sessions_leaveSsrc]
  have hemit : (emitNewSsrc b ssrc mid false (some s)).2 = RtpBundleCxx.setSession
      { (leaveSsrc b ssrc s).setSession s f with
        mSsrcToSession := ((leaveSsrc b ssrc s).setSession s f).mSsrcToSession.emplace ssrc ⟨⟨mid, 0⟩, s⟩ } s
      fun session => { session with mid := session.mid <|> some mid } := by
    rw [hf]
    rfl
  rw [hemit]
  rcases hreuse with ⟨hmid, hmode, hfree⟩ | ⟨hreceives, hwaiting, hnamed, hssrc⟩
  · obtain ⟨hheld, hwaiting⟩ := (h s).of_out hmid
    refine bookkept_emit ((leaveSsrc b ssrc s).setSession s f) h (fun t _ => held_leaveSsrc_of_free hfree)
      (fun t hts => hother hts) waiting_leaveSsrc (find_leaveSsrc hnone) ?_ t
    have hheld' : ((leaveSsrc b ssrc s).setSession s f).held s = fun _ => none :=
      (held_leaveSsrc_of_free hfree).trans hheld
    rw [hself, hheld', hwaiting, hf]
    exact kept_recvOnly hmode (by simp [hmid]) rfl
  · have hks := h s
    rw [RtpBundleCxx.Bookkept, hwaiting] at hks
    have hset : (b.sessions s).ssrcSet = true := by
      by_contra hunset
      exact hks.unassigned hnamed.isSome hreceives (by simpa using hunset) rfl
    have hrcv : (b.held s (b.sessions s).rcvSsrc).isSome :=
      (hks.reachable _).mpr ⟨hnamed.isSome, .inr ⟨hreceives, hset, rfl, rfl⟩⟩
    have hne : (b.sessions s).rcvSsrc ≠ ssrc := by
      intro heq
      rw [heq, RtpBundleCxx.held, heldIn_of_find_none hnone] at hrcv
      cases hrcv
    have herase := held_leaveSsrc_of_assigned hset hne
    refine bookkept_emit ((leaveSsrc b ssrc s).setSession s f) h (fun t hts => ?_) (fun t hts => hother hts)
      waiting_leaveSsrc (find_leaveSsrc hnone) ?_ t
    · simp only [RtpBundleCxx.setSession, herase]
      exact heldIn_erase_of_ne hrcv hts
    · have hheld' : ((leaveSsrc b ssrc s).setSession s f).held s = update (b.held s) (b.sessions s).rcvSsrc none := by
        simp only [RtpBundleCxx.held, RtpBundleCxx.setSession, herase]
        exact heldIn_erase
      obtain ⟨mid', hmid'⟩ := isSome_iff_exists.mp hnamed.isSome
      rw [hself, hheld', hwaiting, hf]
      have hmid'' : ((b.sessions s).mid <|> some mid) = (b.sessions s).mid := by
        rw [hmid']
        rfl
      simp only [hmid'']
      exact hks.reassign hreceives hnamed hssrc

variable {answer : Option S} {isOutgoing : Bool}

lemma bookkept_checkMid (h : ∀ t, b.Bookkept t) (hnone : b.mSsrcToSession.find m.ssrc = none)
    (hanswer : ∀ s ∈ answer, if isOutgoing then FreshSender b s else
      (b.sessions s).mid = none ∧ (b.sessions s).mode = .recvOnly ∧
          ((b.sessions s).ssrcSet = true → (b.sessions s).rcvSsrc ≠ m.ssrc →
            b.mSsrcToSession.find (b.sessions s).rcvSsrc = none) ∨
        (b.sessions s).Receives ∧ b.waiting s = [] ∧ (b.sessions s).Named mid ∧
          ((b.sessions s).Sends → (b.sessions s).rcvSsrc ≠ (b.sessions s).sndSsrc)) (t : S) :
    (checkMid b m mid isOutgoing answer).2.Bookkept t := by
  cases m with
  | sdes =>
    simp only [checkMid]
    split <;> exact h t
  | rtcp =>
    simp only [checkMid]
    split <;> exact h t
  | rtp version ssrc mid' seqnumber payloadType =>
    simp only [checkMid]
    split
    next s b' hassign =>
      cases isOutgoing with
      | true => cases hassign
      | false => exact bookkept_assign h hnone hassign t
    next =>
      split_ifs
      · cases answer with
        | none => exact h t
        | some s =>
          have hs := hanswer s rfl
          cases isOutgoing with
          | true => exact bookkept_emit_outgoing h hnone hs t
          | false => exact bookkept_emit_incoming h hnone hs t
      · exact h t

lemma bookkept_checkUnknown (h : ∀ t, b.Bookkept t) (hnone : b.mSsrcToSession.find m.ssrc = none)
    (hanswer : ∀ s ∈ answer, if isOutgoing then FreshSender b s else Reusable b m s) (t : S) :
    (checkUnknown b m isOutgoing answer).2.Bookkept t := by
  rw [checkUnknown]
  cases hmid : resolveMid b m with
  | none => exact h t
  | some mid =>
    refine bookkept_checkMid (b := rememberMid b m.ssrc mid) h hnone (fun s hs => ?_) t
    have hs := hanswer s hs
    cases isOutgoing with
    | true => exact hs
    | false =>
      exact hs.imp_right fun ⟨hreceives, hwaiting, hnamed, hssrc⟩ => ⟨hreceives, hwaiting, hnamed mid hmid, hssrc⟩

lemma bookkept_bySsrc (h : ∀ t, b.Bookkept t) (hmoved : forgetMoved b m = b)
    (hmid : ∀ e, b.mSsrcToSession.find m.ssrc = some e →
      (updateBundleSession m.mid m.sequenceNumber e).mid.mid = e.mid.mid ∨ e.mid.mid = [])
    (hanswer : ∀ s ∈ answer, if isOutgoing then FreshSender b s else Reusable b m s) (t : S) :
    (checkForSession.bySsrc isOutgoing answer b m).2.Bookkept t := by
  rw [checkForSession.bySsrc, hmoved]
  cases hfind : b.mSsrcToSession.find m.ssrc with
  | none => exact bookkept_checkUnknown h hfind hanswer t
  | some e => exact bookkept_modify h hmid t

lemma bookkept_check (h : ∀ t, b.Bookkept t) (ha : Sound b (.check m isOutgoing answer)) (t : S) :
    (checkForSession b m isOutgoing answer).2.Bookkept t := by
  obtain ⟨hunmoved, hanswer⟩ := ha
  cases m with
  | rtp version ssrc mid seqnumber payloadType =>
    rw [checkForSession]
    split_ifs with hversion
    · exact h t
    · have hmoved := hunmoved (not_not.mp hversion)
      refine bookkept_bySsrc h (forgetMoved_rtp hmoved) (fun e he => ?_) hanswer t
      rw [updateBundleSession]
      split_ifs with hupdate
      · refine .inr ?_
        rcases hmoved e he with hmid | hmid | hmid
        · exact absurd hmid hupdate.1
        · exact hmid
        · exact absurd hmid.symm hupdate.2.1
      · exact .inl rfl
  | sdes ssrc mid =>
    refine bookkept_bySsrc h rfl (fun e _ => .inl ?_) hanswer t
    rw [updateBundleSession, if_neg]
    rintro ⟨_, _, hlt⟩
    exact absurd hlt (by simp [Packet.sequenceNumber])
  | rtcp ssrc referred length =>
    rw [checkForSession]
    split
    · exact bookkept_modify h (fun e _ => .inl (by simp [updateBundleSession, Packet.mid])) t
    · exact bookkept_bySsrc h rfl (fun e _ => .inl (by simp [updateBundleSession, Packet.mid])) hanswer t

/-- A sound step keeps the books of all sessions. -/
lemma bookkept_step {a : Action S} (h : ∀ t, b.Bookkept t) (ha : Sound b a) (t : S) : (b.step a).Bookkept t := by
  cases a with
  | addSession mid s => exact bookkept_addSession h ha t
  | setMode s mode => exact bookkept_setMode h ha t
  | check m isOutgoing answer => exact bookkept_check h ha t

lemma bookkept_initial (h : b.Initial) (t : S) : b.Bookkept t := by
  have hheld : b.held t = fun _ => none := by
    funext ssrc
    rw [RtpBundleCxx.held, h.main]
    rfl
  have hwaiting : b.waiting t = [] := by
    rw [RtpBundleCxx.waiting, h.waiting]
    rfl
  rw [RtpBundleCxx.Bookkept, hheld, hwaiting]
  exact kept_out (h.sessions t)

/-! ### Routing -/

lemma assign_eq_some {b' : RtpBundleCxx S} (hassign : assign b ssrc mid payloadType = some (s, b')) :
    mid ∈ b.waiting s ∧ (b.sessions s).rcvPt = payloadType ∧
      b'.sessions s = { b.sessions s with ssrcSet := true, rcvSsrc := ssrc } := by
  simp only [assign] at hassign
  split at hassign
  next key s' hfind =>
    cases hassign
    have hblank := find?_some hfind
    simp only [decide_eq_true_eq] at hblank
    obtain ⟨rfl, hpt⟩ := hblank
    exact ⟨mem_waitingIn hfind, hpt, setSession_self ..⟩
  · cases hassign

lemma exists_assign (hmem : mid ∈ b.waiting s) (hpt : (b.sessions s).rcvPt = payloadType) :
    ∃ s' b', assign b ssrc mid payloadType = some (s', b') := by
  obtain ⟨⟨mid', s'⟩, he, rfl⟩ := mem_map.mp hmem
  obtain ⟨hentry, hs⟩ := mem_filter.mp he
  have hs' : s' = s := by simpa using hs
  subst hs'
  simp only [assign]
  split
  · exact ⟨_, _, rfl⟩
  next hnone =>
    have hblank := find?_eq_none.mp hnone _ hentry
    simp [hpt] at hblank

/-- A known SSRC leads to its session. -/
lemma fst_bySsrc {e : BundleSession S} (hmoved : forgetMoved b m = b) (hfind : b.mSsrcToSession.find m.ssrc = some e) :
    checkForSession.bySsrc isOutgoing answer b m = (some e.rtpSession,
      { b with mSsrcToSession := b.mSsrcToSession.modify m.ssrc (updateBundleSession m.mid m.sequenceNumber) }) := by
  simp only [checkForSession.bySsrc, hmoved, hfind]

lemma bySsrc_of_none (hmoved : forgetMoved b m = b) (hfind : b.mSsrcToSession.find m.ssrc = none) :
    checkForSession.bySsrc isOutgoing answer b m = checkUnknown b m isOutgoing answer := by
  simp only [checkForSession.bySsrc, hmoved, hfind]

/-- An incoming packet of a new SSRC goes to a session that receives it from then on. -/
lemma right_checkMid {version : UInt8} {mid' : Bytes} {seqnumber : UInt16} (h : ∀ t, b.Bookkept t)
    (hanswer : ∀ s ∈ answer, (b.sessions s).Receives)
    (hs : (checkMid b (.rtp version ssrc mid' seqnumber payloadType) mid false answer).1 = some s) :
    let session := (checkMid b (.rtp version ssrc mid' seqnumber payloadType) mid false answer).2.sessions s
    session.Receives ∧ ssrc = session.rcvSsrc := by
  simp only [checkMid, Bool.false_eq_true, if_false] at hs ⊢
  cases hassign : assign b ssrc mid payloadType with
  | some x =>
    obtain ⟨s', b'⟩ := x
    simp only [hassign] at hs ⊢
    cases hs
    obtain ⟨hmem, _, hsession⟩ := assign_eq_some hassign
    obtain ⟨_, hreceives, _⟩ := (h s).of_mem hmem
    rw [hsession]
    exact ⟨hreceives, rfl⟩
  | none =>
    simp only [hassign] at hs ⊢
    split_ifs at hs ⊢ with hask
    cases answer with
    | none => cases hs
    | some s' =>
      cases hs
      have hreceives := hanswer s rfl
      simp only [emitNewSsrc, Bool.false_eq_true, if_false, RtpBundleCxx.setSession, update_self, sessions_leaveSsrc]
      exact ⟨hreceives, trivial⟩

lemma routes_of_bookkept (h : ∀ t, b.Bookkept t) : Routes b := by
  refine ⟨?_, ?_, ?_⟩
  · intro ssrc mid seqnumber payloadType answer s m ⟨hunmoved, hanswer⟩ hs
    have hmoved : forgetMoved b m = b := forgetMoved_rtp (hunmoved rfl)
    have hcheck : checkForSession b m false answer = checkForSession.bySsrc false answer b m := rfl
    rw [hcheck] at hs ⊢
    cases hfind : b.mSsrcToSession.find ssrc with
    | some e =>
      rw [fst_bySsrc hmoved hfind] at hs ⊢
      cases hs
      have hheld : (b.held e.rtpSession ssrc).isSome := isSome_heldIn.mpr ⟨e, hfind, rfl⟩
      exact (((h e.rtpSession).reachable ssrc).mp hheld).2.imp_right fun hr => ⟨hr.1, hr.2.2.2⟩
    | none =>
      rw [bySsrc_of_none hmoved hfind, checkUnknown] at hs ⊢
      cases hmid : resolveMid b m with
      | none => simp only [hmid, reduceCtorEq] at hs
      | some mid' =>
        simp only [hmid] at hs ⊢
        refine .inr (right_checkMid (b := rememberMid b ssrc mid') h (fun s hs => ?_) hs)
        rcases hanswer s hs with ⟨_, hmode, _⟩ | ⟨hreceives, _⟩
        · exact fun hsend => by cases hmode.symm.trans hsend
        · exact hreceives
  · intro ssrc mid seqnumber payloadType isOutgoing answer s m session hunmoved hmid hssrc
    have hmoved : forgetMoved b m = b := forgetMoved_rtp (hunmoved rfl)
    have hheld : (b.held s ssrc).isSome := by
      refine ((h s).reachable ssrc).mpr ⟨hmid, hssrc.imp_right fun ⟨hr, hwaiting, heq⟩ => ⟨hr, ?_, hwaiting, heq⟩⟩
      by_contra hunset
      exact (h s).unassigned hmid hr (by simpa using hunset) hwaiting
    obtain ⟨e, hfind, rfl⟩ := isSome_heldIn.mp hheld
    exact congrArg Prod.fst (fst_bySsrc (m := m) hmoved hfind)
  · intro ssrc mid seqnumber answer s hne hmem hnone
    obtain ⟨m, hm⟩ : ∃ m, m = Packet.rtp 2 ssrc mid seqnumber (b.sessions s).rcvPt := ⟨_, rfl⟩
    have hmoved : forgetMoved b m = b := by
      rw [hm]
      exact forgetMoved_rtp fun e he => by cases he.symm.trans hnone
    have hresolve : resolveMid b m = some mid := by
      rw [hm]
      exact if_neg hne
    have hcheck : checkForSession b m false answer = checkMid (rememberMid b ssrc mid) m mid false answer := by
      have hfind : b.mSsrcToSession.find m.ssrc = none := by
        rw [hm]
        exact hnone
      have hby : checkForSession b m false answer = checkForSession.bySsrc false answer b m := by
        rw [hm]
        rfl
      rw [hby, bySsrc_of_none hmoved hfind, checkUnknown, hresolve, hm]
      rfl
    obtain ⟨s', b', hassign⟩ : ∃ s' b',
        assign (rememberMid b ssrc mid) ssrc mid (b.sessions s).rcvPt = some (s', b') := exists_assign hmem rfl
    obtain ⟨hmem', hpt, _⟩ := assign_eq_some hassign
    refine ⟨s', ?_, hmem', hpt⟩
    rw [← hm, hcheck, hm, checkMid]
    simp only [Bool.false_eq_true, if_false]
    rw [hassign]

end steps

/-! ### Runs -/

/-- A bundle whose steps are sound holds for every session the entries that its mode and its SSRCs call for, and routes
the packets by them. -/
theorem bookkept_of_reaches {b b' : RtpBundleCxx S} (hinitial : b.Initial) (h : Reaches Sound b b') :
    (∀ s, b'.Bookkept s) ∧ Routes b' := by
  have hbooks : ∀ s, b'.Bookkept s := by
    induction h with
    | refl => exact bookkept_initial hinitial
    | step a _ ha ih => exact bookkept_step ih ha
  exact ⟨hbooks, routes_of_bookkept hbooks⟩

def sample (mode : RtpSessionMode) : RtpBundleCxx Unit where
  sessions _ := { mode, sndSsrc := 1 }
  mSsrcToSession := .empty
  mSsrcToMid _ := none
  mWaitingForAssignment := []
  mPrimary := none

/-- The session enters, gets the SSRC 5 and stops receiving. -/
def sampleRun (mode : RtpSessionMode) : RtpBundleCxx Unit :=
  (((sample mode).step (.addSession [97] ())).step (.check (.rtp 2 5 [97] 0 0) false none)).step (.setMode () .sendOnly)

lemma initial_sample (mode : RtpSessionMode) : (sample mode).Initial := ⟨fun _ => rfl, rfl, rfl⟩

theorem bookkept_of_reaches_sample : (∀ s, (sampleRun .recvOnly).Bookkept s) ∧ Routes (sampleRun .recvOnly) := by
  refine bookkept_of_reaches (initial_sample .recvOnly) (.step _ (.step _ (.step _ .refl ?_) ?_) ?_)
  · exact ⟨rfl, fun h => absurd rfl h⟩
  · exact ⟨fun _ _ => nofun, nofun⟩
  · exact fun _ => ⟨by decide, fun _ _ => rfl⟩

/-- A session that sent and received keeps the SSRC that it received. -/
theorem not_bookkept_of_reaches :
    (sample .sendRecv).Initial ∧ Reaches (fun _ _ => True) (sample .sendRecv) (sampleRun .sendRecv) ∧
      ¬ (sampleRun .sendRecv).Bookkept () := by
  refine ⟨initial_sample .sendRecv, .step _ (.step _ (.step _ .refl trivial) trivial) trivial, fun h => ?_⟩
  have hheld : ((sampleRun .sendRecv).held () 5).isSome := by decide
  obtain ⟨_, ⟨_, hsnd⟩ | ⟨hreceives, _⟩⟩ := (h.reachable 5).mp hheld
  · exact absurd hsnd (by decide)
  · exact absurd hreceives (by decide)

end RtpBundle
