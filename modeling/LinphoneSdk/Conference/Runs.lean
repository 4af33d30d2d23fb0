import LinphoneSdk.Conference.Replication
import Mathlib.Logic.Relation

/-!
# Runs of a conference

A server that makes changes, and a client to which the network gives any notification that was emitted, in any order,
any number of times or never. The client subscribes again at any time.
-/

namespace Conference

open FirstMatch List Option

/-! ### The states of the server -/

lemma Roster.changed {l r : List Participant} {p q : Participant} (hroster : Roster (l ++ p :: r))
    (hq : q.address = p.address) (hdevices : (q.devices.map (·.address)).Nodup)
    (hcalls : (q.devices.filter (·.callId ≠ "")).Pairwise fun d d' => d.callId ≠ d'.callId) :
    Roster (l ++ q :: r) := by
  have hmem {p' : Participant} (hp' : p' ∈ l ++ q :: r) : p' = q ∨ p' ∈ l ++ p :: r := by
    rcases mem_append.1 hp' with hp' | hp'
    · exact .inr (mem_append_left _ hp')
    · rcases mem_cons.1 hp' with heq | hp'
      · exact .inl heq
      · exact .inr (mem_append_right _ (mem_cons_of_mem _ hp'))
  constructor
  · have haddresses := hroster.addresses
    simp only [map_append, map_cons] at haddresses ⊢
    rwa [hq]
  · intro p' hp'
    rcases hmem hp' with rfl | hp'
    · exact hdevices
    · exact hroster.devices p' hp'
  · intro p' hp'
    rcases hmem hp' with rfl | hp'
    · exact hcalls
    · exact hroster.calls p' hp'

lemma ParticipantDevice.Fits.nodup {device : ParticipantDevice} {dl dr : List ParticipantDevice}
    (hfits : device.Fits (dl ++ dr)) (h : ((dl ++ dr).map (·.address)).Nodup) :
    ((dl ++ device :: dr).map (·.address)).Nodup := by
  have hperm : ((dl ++ device :: dr).map (·.address)).Perm ((device :: (dl ++ dr)).map (·.address)) :=
    perm_middle.map _
  rw [hperm.nodup_iff, map_cons, nodup_cons]
  refine ⟨fun hmem => ?_, h⟩
  obtain ⟨d, hd, heq⟩ := mem_map.1 hmem
  exact (hfits d hd).1 heq

lemma ParticipantDevice.Fits.calls {device : ParticipantDevice} {dl dr : List ParticipantDevice}
    (hfits : device.Fits (dl ++ dr))
    (h : ((dl ++ dr).filter (·.callId ≠ "")).Pairwise fun d d' => d.callId ≠ d'.callId) :
    ((dl ++ device :: dr).filter (·.callId ≠ "")).Pairwise fun d d' => d.callId ≠ d'.callId := by
  have hperm : ((dl ++ device :: dr).filter (·.callId ≠ "")).Perm ((device :: (dl ++ dr)).filter (·.callId ≠ "")) :=
    perm_middle.filter _
  rw [hperm.pairwise_iff fun hne => hne.symm]
  by_cases hempty : device.callId = ""
  · rwa [filter_cons_of_neg (by simp [hempty])]
  · rw [filter_cons_of_pos (by simp [hempty]), pairwise_cons]
    refine ⟨fun d hd heq => ?_, h⟩
    exact (hfits d (mem_filter.1 hd).1).2 hempty heq.symm

lemma Roster.apply {participants : List Participant} {change : Change} (hroster : Roster participants)
    (hvalid : change.Valid participants) : Roster (change.apply participants) := by
  cases change with
  | participantAdded p =>
    obtain ⟨hnew, hp⟩ := hvalid
    constructor
    · have haddresses := hroster.addresses
      simp only [Change.apply, map_append, map_cons, map_nil, nodup_append, nodup_cons,
        not_mem_nil, not_false_eq_true, nodup_nil, and_self, List.mem_map, mem_singleton, true_and]
      refine ⟨haddresses, ?_⟩
      rintro _ ⟨q, hq, rfl⟩ _ rfl
      exact hnew q hq
    · intro q hq
      rcases mem_append.1 hq with hq | hq
      · exact hroster.devices q hq
      · exact hp.devices q hq
    · intro q hq
      rcases mem_append.1 hq with hq | hq
      · exact hroster.calls q hq
      · exact hp.calls q hq
  | participantRemoved address =>
    have hsub : (participants.eraseP (·.address = address)).Sublist participants := eraseP_sublist
    constructor
    · exact hroster.addresses.sublist (hsub.map _)
    · exact fun q hq => hroster.devices q (hsub.subset hq)
    · exact fun q hq => hroster.calls q (hsub.subset hq)
  | participantSetAdmin address isAdmin =>
    obtain ⟨p, hp, rfl⟩ := hvalid
    obtain ⟨l, r, rfl, hl⟩ := hroster.split hp
    rw [Change.apply, updateFirst_address _ hl]
    exact hroster.changed rfl (hroster.devices p hp) (hroster.calls p hp)
  | deviceAdded address device =>
    obtain ⟨p, hp, rfl, hfits⟩ := hvalid
    obtain ⟨l, r, rfl, hl⟩ := hroster.split hp
    rw [Change.apply, updateFirst_address _ hl]
    have hfits' : device.Fits (p.devices ++ []) := by simpa using hfits
    exact hroster.changed rfl (hfits'.nodup (by simpa using hroster.devices p hp))
      (hfits'.calls (by simpa using hroster.calls p hp))
  | deviceRemoved address device described =>
    obtain ⟨p, hp, rfl, -⟩ := hvalid
    obtain ⟨l, r, rfl, hl⟩ := hroster.split hp
    rw [Change.apply, updateFirst_address _ hl]
    have hsub : (p.devices.filter (·.address ≠ device.address)).Sublist p.devices := filter_sublist
    exact hroster.changed rfl ((hroster.devices p hp).sublist (hsub.map _))
      ((hroster.calls p hp).sublist (hsub.filter _))
  | deviceDataChanged address old device =>
    obtain ⟨p, hp, rfl, hold, -, hfits⟩ := hvalid
    obtain ⟨l, r, rfl, hl⟩ := hroster.split hp
    obtain ⟨dl, dr, hdevices, hdl, hdr⟩ := exists_split (hroster.devices p hp) hold
    have hsub : (dl ++ dr).Sublist p.devices := by
      rw [hdevices]
      exact (Sublist.refl dl).append (sublist_cons_self old dr)
    have hfits' : device.Fits (dl ++ dr) := fits_of_split hdevices hdl hdr hfits
    have happly : updateFirst (·.address = old.address) (fun _ => device) p.devices = dl ++ device :: dr := by
      rw [hdevices, updateFirst_append_cons (fun d hd => by simpa using hdl d hd) (by simp)]
    rw [Change.apply, updateFirst_address _ hl, happly]
    exact hroster.changed rfl (hfits'.nodup ((hroster.devices p hp).sublist (hsub.map _)))
      (hfits'.calls ((hroster.calls p hp).sublist (hsub.filter _)))
  | other => exact hroster

/-- The calls of a client are those of its own participant. -/
def Foreign (me : String) (calls : String → Bool) (participants : List Participant) : Prop :=
  ∀ p ∈ participants, p.address ≠ me → ∀ d ∈ p.devices, d.callId ≠ "" → calls d.callId = false

namespace Server

variable {server : Server}

/-- A server whose changes were valid, and whose states give the calls of the client to its participant only. -/
structure Sound (me : String) (calls : String → Bool) (server : Server) : Prop where
  roster : Roster server.initial
  valid : ∀ i, ∀ change : Change, server.changes[i]? = some change → change.Valid (server.stateAt (server.first + i))
  foreign : ∀ version, Foreign me calls (server.stateAt version)

lemma stateAt_first : server.stateAt server.first = server.initial := by simp [stateAt]

lemma stateAt_succ {i : ℕ} {change : Change} (hchange : server.changes[i]? = some change) :
    server.stateAt (server.first + i + 1) = change.apply (server.stateAt (server.first + i)) := by
  have hsucc : server.first + i + 1 - server.first = i + 1 := by omega
  simp only [stateAt, hsucc, Nat.add_sub_cancel_left, take_add_one, hchange, toList_some,
    foldl_append, foldl_cons, foldl_nil]

lemma stateAt_of_version_le {version : ℕ} (h : server.version ≤ version) :
    server.stateAt version = server.stateAt server.version := by
  have hlength : server.changes.length ≤ version - server.first := by
    simp only [Server.version] at h
    omega
  simp only [stateAt, Server.version, Nat.add_sub_cancel_left]
  rw [take_of_length_le hlength, take_of_length_le (Nat.le_refl _)]

lemma Sound.roster_stateAt {me : String} {calls : String → Bool} (hsound : server.Sound me calls) (i : ℕ) :
    Roster (server.stateAt (server.first + i)) := by
  induction i with
  | zero => exact stateAt_first ▸ hsound.roster
  | succ i ih =>
    rcases hchange : server.changes[i]? with _ | change
    · have hle : server.changes.length ≤ i := List.getElem?_eq_none_iff.1 hchange
      have hi : server.version ≤ server.first + i := by simp only [Server.version]; omega
      have hsucc : server.version ≤ server.first + (i + 1) := by omega
      rw [stateAt_of_version_le hsucc, ← stateAt_of_version_le hi]
      exact ih
    · rw [← Nat.add_assoc, stateAt_succ hchange]
      exact ih.apply (hsound.valid i change hchange)

def change (server : Server) (change : Change) : Server :=
  { server with changes := server.changes ++ [change] }

lemma stateAt_change {change : Change} {version : ℕ} (h : version ≤ server.version) :
    (server.change change).stateAt version = server.stateAt version := by
  have hle : version - server.first ≤ server.changes.length := by
    simp only [Server.version] at h
    omega
  simp only [stateAt, Server.change, take_append_of_le_length hle]

lemma stateAt_change_version {change : Change} : (server.change change).stateAt (server.change change).version =
    change.apply (server.stateAt server.version) := by
  have hchange : (server.change change).changes[server.changes.length]? = some change := by simp [Server.change]
  have hversion : (server.change change).version = (server.change change).first + server.changes.length + 1 := by
    simp [Server.version, Server.change]
    omega
  rw [hversion, stateAt_succ hchange]
  exact congrArg change.apply (stateAt_change (Nat.le_refl _))

lemma Sound.change {me : String} {calls : String → Bool} (hsound : server.Sound me calls) {change : Change}
    (hvalid : change.Valid (server.stateAt server.version))
    (hforeign : Foreign me calls (change.apply (server.stateAt server.version))) :
    (server.change change).Sound me calls where
  roster := hsound.roster
  valid i c hc := by
    have hfirst : (server.change change).first = server.first := rfl
    by_cases hi : i < server.changes.length
    · have hold : server.changes[i]? = some c := by
        rwa [Server.change, getElem?_append_left hi] at hc
      rw [hfirst, stateAt_change (by simp only [Server.version]; omega)]
      exact hsound.valid i c hold
    · have hlt : i < (server.changes ++ [change]).length := (List.getElem?_eq_some_iff.1 hc).1
      have heq : i = server.changes.length := by
        rw [length_append, length_singleton] at hlt
        omega
      subst heq
      have hchange : c = change := by simpa [Server.change] using hc.symm
      subst hchange
      rw [hfirst, stateAt_change (by simp only [Server.version]; omega)]
      exact hvalid
  foreign version := by
    by_cases hle : version ≤ server.version
    · rw [stateAt_change hle]
      exact hsound.foreign version
    · have hversion : (server.change change).version = server.version + 1 := by
        simp [Server.version, Server.change]
        omega
      rw [stateAt_of_version_le (by omega), stateAt_change_version]
      exact hforeign

end Server

/-! ### The notifications that the client takes -/

namespace ClientConferenceEventHandler

variable {h : ClientConferenceEventHandler} {participants : List Participant}

/-- A participant as it is in a state of the server is honest. -/
lemma honest_of_foreign (hforeign : Foreign h.me.address h.calls participants) {user : UserType} {p : Participant}
    (hp : p ∈ participants) (hentity : user.entity = p.address)
    (hendpoints : ∀ e ∈ user.endpoints, ∀ callId ∈ e.callId, ∃ d ∈ p.devices, callId = d.callId ∧ callId ≠ "") :
    h.Honest user := by
  intro hme e he callId hcall
  obtain ⟨d, hd, rfl, hne⟩ := hendpoints e he callId hcall
  exact hforeign p hp (hentity ▸ hme) d hd hne

lemma callId_of_mem_endpoint {d : ParticipantDevice} {state : StateType} {callId : String}
    (h : callId ∈ (d.endpoint state).callId) : callId = d.callId ∧ callId ≠ "" := by
  simp only [ParticipantDevice.endpoint, ParticipantDevice.callInfo] at h
  split_ifs at h with hempty
  · cases h
  · cases h
    exact ⟨rfl, hempty⟩

lemma honest_user (hforeign : Foreign h.me.address h.calls participants) {p : Participant} (hp : p ∈ participants) :
    h.Honest p.user := by
  refine honest_of_foreign hforeign hp rfl fun e he callId hcall => ?_
  obtain ⟨d, hd, rfl⟩ := mem_map.1 he
  exact ⟨d, hd, callId_of_mem_endpoint hcall⟩

/-- The users of a change, before and after which the calls of the client are those of its own participant. -/
lemma honest_change {change : Change} (hroster : Roster participants) (hvalid : change.Valid participants)
    (hbefore : Foreign h.me.address h.calls participants)
    (hafter : Foreign h.me.address h.calls (change.apply participants)) : ∀ user ∈ change.users, h.Honest user := by
  have hsilent (address : String) (state : StateType) (roles : Option (List String)) :
      h.Honest ⟨address, state, roles, []⟩ := fun _ e he => by cases he
  intro user huser
  cases change with
  | participantAdded p =>
    rw [mem_singleton.1 huser]
    exact honest_user hafter (by simp [Change.apply])
  | participantRemoved address =>
    rw [mem_singleton.1 huser]
    exact hsilent _ _ _
  | participantSetAdmin address isAdmin =>
    rw [mem_singleton.1 huser]
    exact hsilent _ _ _
  | deviceAdded address device =>
    obtain ⟨p, hp, rfl, -⟩ := hvalid
    obtain ⟨l, r, rfl, hl⟩ := hroster.split hp
    rw [Change.apply, updateFirst_address _ hl] at hafter
    rw [mem_singleton.1 huser]
    refine honest_of_foreign hafter (p := { p with devices := p.devices ++ [device] }) (by simp) rfl ?_
    intro e he callId hcall
    rw [mem_singleton.1 he] at hcall
    exact ⟨device, by simp, callId_of_mem_endpoint hcall⟩
  | deviceRemoved address device described =>
    obtain ⟨p, hp, rfl, hdevice⟩ := hvalid
    rw [mem_singleton.1 huser]
    refine honest_of_foreign hbefore hp rfl fun e he callId hcall => ⟨device, hdevice, ?_⟩
    rw [mem_singleton.1 he] at hcall
    cases described with
    | false => cases hcall
    | true => exact callId_of_mem_endpoint (show callId ∈ (device.endpoint .deleted).callId from hcall)
  | deviceDataChanged address old device =>
    obtain ⟨p, hp, rfl, hold, -, -⟩ := hvalid
    obtain ⟨l, r, rfl, hl⟩ := hroster.split hp
    obtain ⟨dl, dr, hdevices, hdl, -⟩ := exists_split (hroster.devices p hp) hold
    rw [Change.apply, updateFirst_address _ hl, hdevices,
      updateFirst_append_cons (fun d hd => by simpa using hdl d hd) (by simp)] at hafter
    rw [mem_singleton.1 huser]
    refine honest_of_foreign hafter (p := { p with devices := dl ++ device :: dr }) (by simp) rfl ?_
    intro e he callId hcall
    rw [mem_singleton.1 he] at hcall
    exact ⟨device, by simp, callId_of_mem_endpoint hcall⟩
  | other => cases huser

def takesFull (h : ClientConferenceEventHandler) (version : ℕ) : ClientConferenceEventHandler :=
  { h.clearParticipants with waitingFullState := false, fullStateRequested := false, lastNotify := version }

/-- A full state is taken whatever the version is. -/
lemma conferenceInfoNotifyReceived_full (version : ℕ) :
    h.conferenceInfoNotifyReceived (fullNotify h.conferenceAddress participants version) =
      (participants.map (·.user)).foldlM userReceived (h.takesFull version) := by
  cases hrequested : h.fullStateRequested <;>
    simp [conferenceInfoNotifyReceived, fullNotify, takesFull, clearParticipants, hrequested]

def takesPartial (h : ClientConferenceEventHandler) (version : ℕ) : ClientConferenceEventHandler :=
  { h with waitingFullState := false, lastNotify := version }

/-- A partial notification does nothing, or requests a full state, or its users are handled. -/
lemma conferenceInfoNotifyReceived_partial (change : Change) (version : ℕ) :
    h.conferenceInfoNotifyReceived (partialNotify h.conferenceAddress change version) =
      if h.waitingFullState then some h
      else if version ≤ h.lastNotify then some { h with waitingFullState := false }.requestFullState
      else change.users.foldlM userReceived (h.takesPartial version) := by
  have hnotFull : ¬StateType.partialState = StateType.full := by decide
  simp only [conferenceInfoNotifyReceived, partialNotify, hnotFull, decide_false, Bool.not_false, Bool.and_true,
    Bool.false_and, Bool.true_and, Bool.false_eq_true, if_false, ne_eq, not_true_eq_false, any_some,
    decide_eq_true_eq, getD_some, takesPartial]
  by_cases hother : change = .other
  · subst hother; rfl
  · simp only [hother, if_false]

end ClientConferenceEventHandler

/-! ### The system -/

structure System where
  server : Server
  client : ClientConferenceEventHandler
  /-- Since the last full state, a partial notification was taken that skipped a version. -/
  skipped : Bool

/-- A partial notification that is taken though it does not follow the last one. -/
def ClientConferenceEventHandler.skips (h : ClientConferenceEventHandler) (n : ConferenceType) : Bool :=
  !h.waitingFullState && n.version.any (h.lastNotify + 1 < ·)

inductive Step : System → System → Prop
  | change {s : System} {change : Change} (hvalid : change.Valid (s.server.stateAt s.server.version))
      (hforeign : Foreign s.client.me.address s.client.calls (change.apply (s.server.stateAt s.server.version))) :
      Step s { s with server := s.server.change change }
  | deliver {s : System} {n : ConferenceType} {client : ClientConferenceEventHandler}
      (hemitted : s.server.Emitted s.client.conferenceAddress n)
      (hreceived : s.client.conferenceInfoNotifyReceived n = some client) :
      Step s { s with
        client := client
        skipped := n.state ≠ .full && (s.skipped || s.client.skips n) }
  | subscribe {s : System} : Step s { s with client := s.client.subscribe }

namespace System

open ClientConferenceEventHandler

variable {s t : System}

/-- The client holds the state of the server that has the number of its last notification. -/
def Synced (s : System) : Prop :=
  s.server.first ≤ s.client.lastNotify ∧ s.client.lastNotify ≤ s.server.version ∧
    s.client.participants = view s.client.me.address (s.server.stateAt s.client.lastNotify)

/-- The client waits for its first full state, or it holds a state. -/
structure Initial (s : System) : Prop where
  sound : s.server.Sound s.client.me.address s.client.calls
  waiting : s.client.waitingFullState = true → s.client.lastNotify = 0
  synced : s.client.waitingFullState = false → s.Synced
  skipped : s.skipped = false

/-- What holds in every run. -/
structure Invariant (s : System) : Prop where
  sound : s.server.Sound s.client.me.address s.client.calls
  waiting : s.client.waitingFullState = true → s.client.lastNotify = 0
  synced : s.client.fullStateRequested = true ∨ s.client.waitingFullState = true ∨ s.skipped = true ∨ s.Synced

lemma Initial.invariant (h : s.Initial) : s.Invariant where
  sound := h.sound
  waiting := h.waiting
  synced := by
    rcases hwaiting : s.client.waitingFullState with _ | _
    · exact .inr (.inr (.inr (h.synced hwaiting)))
    · exact .inr (.inl rfl)

section

variable (hinvariant : s.Invariant)

include hinvariant in
lemma Invariant.roster {version : ℕ} (h : s.server.first ≤ version) : Roster (s.server.stateAt version) := by
  obtain ⟨i, rfl⟩ := Nat.exists_eq_add_of_le h
  exact hinvariant.sound.roster_stateAt i

include hinvariant in
/-- The users of a full state are handled one after the other. -/
lemma Invariant.users {version : ℕ} (hfirst : s.server.first ≤ version) :
    ∃ h, ((s.server.stateAt version).map (·.user)).foldlM userReceived (s.client.takesFull version) = some h ∧
      Keeps (s.client.takesFull version) h ∧
      Applied (s.client.takesFull version) h (view s.client.me.address (s.server.stateAt version)) := by
  have hforeign : Foreign s.client.me.address s.client.calls (s.server.stateAt version) :=
    hinvariant.sound.foreign version
  have hhonest : ∀ p ∈ s.server.stateAt version, (s.client.takesFull version).Honest p.user :=
    fun p hp => honest_user hforeign hp
  obtain ⟨h, hreceived, happlied⟩ := applied_foldlM_user (hinvariant.roster hfirst) hhonest
    fun q hq => absurd hq (not_mem_nil)
  refine ⟨h, hreceived, Keeps.foldlM_userReceived (fun user huser => ?_) hreceived, happlied⟩
  obtain ⟨p, hp, rfl⟩ := mem_map.1 huser
  exact hhonest p hp

/-- What a delivery leaves in a run. -/
structure Delivered (s : System) (h : ClientConferenceEventHandler) (skipped : Bool) : Prop where
  me : h.me.address = s.client.me.address
  calls : h.calls = s.client.calls
  conferenceAddress : h.conferenceAddress = s.client.conferenceAddress
  waiting : h.waitingFullState = true → h.lastNotify = 0
  synced : h.fullStateRequested = true ∨ h.waitingFullState = true ∨ skipped = true ∨
    s.server.first ≤ h.lastNotify ∧ h.lastNotify ≤ s.server.version ∧
      h.participants = view h.me.address (s.server.stateAt h.lastNotify)

include hinvariant in
lemma Invariant.full {version : ℕ} (hfirst : s.server.first ≤ version) (hlast : version ≤ s.server.version) :
    ∃ h, s.client.conferenceInfoNotifyReceived
        (fullNotify s.client.conferenceAddress (s.server.stateAt version) version) = some h ∧
      Delivered s h false ∧ (h.fullStateRequested = true ∨ h.lastNotify = version) := by
  rw [conferenceInfoNotifyReceived_full]
  obtain ⟨h, hreceived, hkeeps, happlied⟩ := hinvariant.users hfirst
  refine ⟨h, hreceived, ⟨hkeeps.me, hkeeps.calls, hkeeps.conferenceAddress, ?_, ?_⟩, ?_⟩
  · rcases hkeeps.lastNotify with ⟨-, hzero⟩ | ⟨hwaiting, -⟩
    · exact fun _ => hzero
    · rw [hwaiting]
      exact fun h => by cases h
  · rcases happlied with hrequested | ⟨me, hme, heq⟩
    · exact .inl hrequested
    · rw [heq]
      refine .inr (.inr (.inr ⟨hfirst, hlast, ?_⟩))
      change _ = view me.address _
      rw [hme]
      rfl
  · rcases hkeeps.lastNotify with ⟨hrequested, -⟩ | ⟨-, heq⟩
    · exact .inl hrequested
    · exact .inr heq

include hinvariant in
/-- After the notification of a change the client holds the next state, or it is known not to. -/
lemma Invariant.changed {i : ℕ} {change : Change} (hchange : s.server.changes[i]? = some change) {n : ConferenceType}
    (hn : n = partialNotify s.client.conferenceAddress change (s.server.first + i + 1))
    {h : ClientConferenceEventHandler} (hreceived : s.client.conferenceInfoNotifyReceived n = some h) :
    Delivered s h (s.skipped || s.client.skips n) ∧
    (h.fullStateRequested = true ∨ s.client.lastNotify ≤ h.lastNotify) := by
  have hi : i < s.server.changes.length := (List.getElem?_eq_some_iff.1 hchange).1
  have hskips : s.client.skips n =
      (!s.client.waitingFullState && decide (s.client.lastNotify + 1 < s.server.first + i + 1)) := by
    rw [hn]; rfl
  rw [hn, conferenceInfoNotifyReceived_partial] at hreceived
  rw [hskips]
  split_ifs at hreceived with hwaiting hversion
  · cases hreceived
    exact ⟨⟨rfl, rfl, rfl, hinvariant.waiting, .inr (.inl hwaiting)⟩, .inr (Nat.le_refl _)⟩
  · cases hreceived
    exact ⟨⟨rfl, rfl, rfl, fun _ => rfl, .inl rfl⟩, .inl rfl⟩
  · set h₀ := s.client.takesPartial (s.server.first + i + 1) with hh₀
    have hbefore : Foreign h₀.me.address h₀.calls (s.server.stateAt (s.server.first + i)) :=
      hinvariant.sound.foreign _
    have hafter : Foreign h₀.me.address h₀.calls (change.apply (s.server.stateAt (s.server.first + i))) := by
      rw [← Server.stateAt_succ hchange]
      exact hinvariant.sound.foreign _
    have hroster := hinvariant.sound.roster_stateAt i
    have hvalid := hinvariant.sound.valid i change hchange
    have hhonest := honest_change hroster hvalid hbefore hafter
    have hkeeps : Keeps h₀ h := Keeps.foldlM_userReceived hhonest hreceived
    refine ⟨⟨hkeeps.me, hkeeps.calls, hkeeps.conferenceAddress, ?_, ?_⟩, ?_⟩
    · rcases hkeeps.lastNotify with ⟨-, hzero⟩ | ⟨hwaiting', -⟩
      · exact fun _ => hzero
      · rw [hwaiting']
        exact fun h => by cases h
    · rcases hinvariant.synced with hrequested | hwaiting' | hskipped | ⟨hfirst, hlast, hsync⟩
      · exact .inl (hkeeps.requested hrequested)
      · exact absurd hwaiting' hwaiting
      · exact .inr (.inr (.inl (by simp [hskipped])))
      · by_cases hnext : s.client.lastNotify + 1 < s.server.first + i + 1
        · refine .inr (.inr (.inl ?_))
          have hawake : s.client.waitingFullState = false := by simpa using hwaiting
          simp [hawake, hnext]
        · -- the notification follows the last one
          have hlastNotify : s.client.lastNotify = s.server.first + i := by omega
          rw [hlastNotify] at hsync
          obtain ⟨h', hreceived', happlied⟩ := applied_change (h := h₀) hroster hvalid hhonest hsync
          obtain rfl : h' = h := some.inj (hreceived'.symm.trans hreceived)
          rcases happlied with hrequested | ⟨me, hme, heq⟩
          · exact .inl hrequested
          · rw [heq]
            refine .inr (.inr (.inr ⟨?_, ?_, ?_⟩))
            · change s.server.first ≤ s.server.first + i + 1
              omega
            · change s.server.first + i + 1 ≤ s.server.first + s.server.changes.length
              omega
            · change _ = view me.address (s.server.stateAt (s.server.first + i + 1))
              rw [hme, Server.stateAt_succ hchange]
    · rcases hkeeps.lastNotify with ⟨hrequested, -⟩ | ⟨-, heq⟩
      · exact .inl hrequested
      · refine .inr ?_
        rw [heq]
        change s.client.lastNotify ≤ s.server.first + i + 1
        omega

lemma Delivered.invariant {h : ClientConferenceEventHandler} {skipped : Bool} (hinvariant : s.Invariant)
    (hdelivered : Delivered s h skipped) : Invariant { s with client := h, skipped := skipped } where
  sound := by
    change s.server.Sound h.me.address h.calls
    rw [hdelivered.me, hdelivered.calls]
    exact hinvariant.sound
  waiting := hdelivered.waiting
  synced := hdelivered.synced

end

lemma Invariant.step (hinvariant : s.Invariant) (hstep : Step s t) : t.Invariant := by
  cases hstep with
  | change hvalid hforeign =>
    refine ⟨hinvariant.sound.change hvalid hforeign, hinvariant.waiting, ?_⟩
    rcases hinvariant.synced with hrequested | hwaiting | hskipped | ⟨hfirst, hlast, hsync⟩
    · exact .inl hrequested
    · exact .inr (.inl hwaiting)
    · exact .inr (.inr (.inl hskipped))
    · refine .inr (.inr (.inr ⟨hfirst, ?_, ?_⟩))
      · simp only [Server.version, Server.change, length_append] at hlast ⊢
        omega
      · rw [hsync, Server.stateAt_change hlast]
  | @deliver n client hemitted hreceived =>
    rcases hemitted with ⟨i, change, hchange, hn⟩ | ⟨version, hfirst, hlast, rfl⟩
    · have hdelivered := (hinvariant.changed hchange hn hreceived).1
      have hstate : n.state ≠ .full := by simp [hn, partialNotify]
      simp only [hstate, decide_true, ne_eq, not_false_eq_true, Bool.true_and]
      exact hdelivered.invariant hinvariant
    · obtain ⟨h, hreceived', hdelivered, -⟩ := hinvariant.full hfirst hlast
      obtain rfl : h = client := some.inj (hreceived'.symm.trans hreceived)
      exact hdelivered.invariant hinvariant
  | subscribe =>
    refine ⟨hinvariant.sound, ?_, ?_⟩
    · simp only [subscribe]
      split_ifs with hsent
      · exact of_decide_eq_true
      · exact hinvariant.waiting
    · rcases hinvariant.synced with hrequested | hwaiting | hskipped | hsync
      · exact .inl hrequested
      · refine .inr (.inl ?_)
        simp [subscribe, hinvariant.waiting hwaiting, hwaiting]
      · exact .inr (.inr (.inl hskipped))
      · exact .inr (.inr (.inr hsync))

lemma Invariant.run (hinvariant : s.Invariant) (hrun : Relation.ReflTransGen Step s t) : t.Invariant := by
  induction hrun with
  | refl => exact hinvariant
  | tail _ hstep ih => exact ih.step hstep

/-- The version goes back when a full state is requested or taken. -/
lemma Invariant.lastNotify_step (hinvariant : s.Invariant) (hstep : Step s t)
    (hback : t.client.lastNotify < s.client.lastNotify) :
    t.client.fullStateRequested = true ∨ ∃ n, s.server.Emitted s.client.conferenceAddress n ∧ n.state = .full ∧
        s.client.conferenceInfoNotifyReceived n = some t.client ∧ n.version = some t.client.lastNotify := by
  cases hstep with
  | change _ _ => exact absurd hback (Nat.lt_irrefl _)
  | @deliver n client hemitted hreceived =>
    rcases hemitted with ⟨i, change, hchange, hn⟩ | ⟨version, hfirst, hlast, rfl⟩
    · rcases (hinvariant.changed hchange hn hreceived).2 with hrequested | hle
      · exact .inl hrequested
      · exact absurd hback (Nat.not_lt.2 hle)
    · obtain ⟨h, hreceived', -, hversion⟩ := hinvariant.full hfirst hlast
      obtain rfl : h = client := some.inj (hreceived'.symm.trans hreceived)
      rcases hversion with hrequested | heq
      · exact .inl hrequested
      · exact .inr ⟨_, .inr ⟨version, hfirst, hlast, rfl⟩, rfl, hreceived, congrArg some heq.symm⟩
  | subscribe => exact absurd hback (Nat.lt_irrefl _)

end System

/-- In every run, a client that neither requested nor waits for a full state holds the participants of the state whose
number it stored, unless a notification that it took since its last full state skipped a version. The number goes back
when a full state is requested or taken only. -/
theorem conference_replicated {s t : System} (hinitial : s.Initial) (hrun : Relation.ReflTransGen Step s t) :
    (t.client.fullStateRequested = false → t.client.waitingFullState = false → t.skipped = false →
      t.server.first ≤ t.client.lastNotify ∧ t.client.lastNotify ≤ t.server.version ∧
      t.client.participants = view t.client.me.address (t.server.stateAt t.client.lastNotify)) ∧
    ∀ u, Step t u → u.client.lastNotify < t.client.lastNotify → u.client.fullStateRequested = true ∨
        ∃ n, t.server.Emitted t.client.conferenceAddress n ∧ n.state = .full ∧
          t.client.conferenceInfoNotifyReceived n = some u.client ∧ n.version = some u.client.lastNotify := by
  have hinvariant := hinitial.invariant.run hrun
  refine ⟨fun hrequested hwaiting hskipped => ?_, fun u hstep hback => hinvariant.lastNotify_step hstep hback⟩
  rcases hinvariant.synced with h | h | h | hsync
  · rw [hrequested] at h; cases h
  · rw [hwaiting] at h; cases h
  · rw [hskipped] at h; cases h
  · exact hsync

/-! ### A conference of which a notification is lost -/

section

def alice : Participant := ⟨"sip:alice@example.org", true, [⟨"sip:alice@example.org;gr=a", "a"⟩]⟩

def bob : Participant := ⟨"sip:bob@example.org", false, []⟩

/-- A client that holds the first state, without participants. -/
def carol : ClientConferenceEventHandler where
  conferenceAddress := "sip:conference@example.org"
  calls callId := callId = "c"
  subscribes _ := true
  subscriptions := 1
  me := ⟨"sip:carol@example.org", false, []⟩
  participants := []
  lastNotify := 1
  fullStateRequested := false
  waitingFullState := false

def emptyConference : System := ⟨⟨1, [], []⟩, carol, false⟩

lemma emptyConference_initial : emptyConference.Initial where
  sound :=
    { roster := ⟨nodup_nil, fun p hp => (not_mem_nil hp).elim, fun p hp => (not_mem_nil hp).elim⟩
      valid := fun i change hchange => by cases hchange
      foreign := fun version p hp => by simp [emptyConference, Server.stateAt] at hp }
  waiting h := by cases h
  synced _ := ⟨Nat.le_refl 1, Nat.le_refl 1, rfl⟩
  skipped := rfl

def aliceJoins : System := { emptyConference with server := emptyConference.server.change (.participantAdded alice) }

lemma aliceJoins_step : Step emptyConference aliceJoins := by
  refine .change ⟨fun p hp => (not_mem_nil hp).elim, ?_⟩ ?_
  · constructor <;> simp [alice]
  · intro p hp hme d hd hne
    have heq : p = alice := mem_singleton.1 hp
    subst heq
    have hdevice : d = ⟨"sip:alice@example.org;gr=a", "a"⟩ := mem_singleton.1 hd
    subst hdevice
    decide

def aliceReceived : System :=
  { aliceJoins with client := { carol with participants := [alice], lastNotify := 2 } }

lemma aliceReceived_step : Step aliceJoins aliceReceived :=
  .deliver (n := partialNotify carol.conferenceAddress (.participantAdded alice) 2)
    (.inl ⟨0, .participantAdded alice, rfl, rfl⟩) rfl

def bobJoins : System := { aliceJoins with server := aliceJoins.server.change (.participantAdded bob) }

lemma bobJoins_step : Step aliceJoins bobJoins := by
  refine .change ⟨fun p hp => ?_, ?_⟩ ?_
  · have heq : p = alice := mem_singleton.1 hp
    subst heq
    decide
  · constructor <;> simp [bob]
  · intro p hp hme d hd hne
    have hp' : p = alice ∨ p = bob := by
      simpa [aliceJoins, emptyConference, Server.stateAt, Server.version, Server.change, Change.apply] using hp
    rcases hp' with rfl | rfl
    · have hdevice : d = ⟨"sip:alice@example.org;gr=a", "a"⟩ := mem_singleton.1 hd
      subst hdevice
      decide
    · cases hd

def aliceLost : System :=
  { bobJoins with client := { carol with participants := [bob], lastNotify := 3 }, skipped := true }

lemma aliceLost_step : Step bobJoins aliceLost :=
  .deliver (n := partialNotify carol.conferenceAddress (.participantAdded bob) 3)
    (.inl ⟨1, .participantAdded bob, rfl, rfl⟩) rfl

def staleFull : System := { aliceLost with client := carol, skipped := false }

lemma staleFull_step : Step aliceLost staleFull :=
  .deliver (n := fullNotify carol.conferenceAddress [] 1) (.inr ⟨1, by decide, by decide, rfl⟩) rfl

end

/-- Alice joins and the client is told; and a full state of before takes the version back. -/
theorem conference_replicated_alice :
    (aliceReceived.client.participants = [alice] ∧ aliceReceived.client.lastNotify = 2 ∧
      aliceReceived.client.participants = view aliceReceived.client.me.address
        (aliceReceived.server.stateAt aliceReceived.client.lastNotify)) ∧
    (staleFull.client.lastNotify < aliceLost.client.lastNotify ∧ (staleFull.client.fullStateRequested = true ∨
        ∃ n, aliceLost.server.Emitted aliceLost.client.conferenceAddress n ∧ n.state = .full ∧
          aliceLost.client.conferenceInfoNotifyReceived n = some staleFull.client ∧
          n.version = some staleFull.client.lastNotify)) :=
  ⟨⟨rfl, rfl, ((conference_replicated emptyConference_initial
      (.tail (.single aliceJoins_step) aliceReceived_step)).1 rfl rfl rfl).2.2⟩,
    by decide, (conference_replicated emptyConference_initial
      (.tail (.tail (.single aliceJoins_step) bobJoins_step) aliceLost_step)).2 _ staleFull_step (by decide)⟩

/-- Bob without Alice is no state of the server, and a full state leads back without a request. -/
theorem conference_diverges : emptyConference.Initial ∧ Relation.ReflTransGen Step emptyConference aliceLost ∧
      aliceLost.client.fullStateRequested = false ∧ aliceLost.client.waitingFullState = false ∧
      aliceLost.client.lastNotify = 3 ∧ aliceLost.client.participants = [bob] ∧
      view aliceLost.client.me.address (aliceLost.server.stateAt 3) = [alice, bob] ∧
      Step aliceLost staleFull ∧ staleFull.client.lastNotify = 1 ∧ staleFull.client.fullStateRequested = false :=
  ⟨emptyConference_initial, .tail (.tail (.single aliceJoins_step) bobJoins_step) aliceLost_step, by decide, by decide,
    by decide, by decide, by decide, staleFull_step, by decide, by decide⟩

/-- In every run, whatever was lost or came out of order, a full state that the server emitted gives the client the
participants of that state, and leaves no request for another one. -/
theorem fullState_recovers {s t : System} (hinitial : s.Initial) (hrun : Relation.ReflTransGen Step s t) {version : ℕ}
    (hfirst : t.server.first ≤ version) (hlast : version ≤ t.server.version) :
    ∃ u, Step t u ∧ t.client.conferenceInfoNotifyReceived
        (fullNotify t.client.conferenceAddress (t.server.stateAt version) version) = some u.client ∧
      u.client.fullStateRequested = false ∧ u.client.waitingFullState = false ∧ u.client.lastNotify = version ∧
      u.client.participants = view t.client.me.address (t.server.stateAt version) := by
  obtain ⟨h, hreceived, hkeeps, happlied⟩ := (hinitial.invariant.run hrun).users hfirst
  have hrequested : h.fullStateRequested = false := by
    obtain ⟨h', hreceived', heq⟩ := ClientConferenceEventHandler.exists_foldlM_user (h := t.client.takesFull version)
      (t.server.stateAt version)
    obtain rfl : h' = h := some.inj (hreceived'.symm.trans hreceived)
    exact heq
  rw [← ClientConferenceEventHandler.conferenceInfoNotifyReceived_full] at hreceived
  refine ⟨_, .deliver (.inr ⟨version, hfirst, hlast, rfl⟩) hreceived, hreceived, hrequested, ?_⟩
  rcases hkeeps.lastNotify with ⟨hlost, -⟩ | ⟨hwaiting, hversion⟩
  · rw [hrequested] at hlost
    cases hlost
  · refine ⟨hwaiting, hversion, ?_⟩
    rcases happlied with hlost | ⟨me, hme, heq⟩
    · rw [hrequested] at hlost
      cases hlost
    · exact congrArg ClientConferenceEventHandler.participants heq

theorem fullState_recovers_alice : ∃ u, Step aliceLost u ∧ u.client.fullStateRequested = false ∧
      u.client.participants = view aliceLost.client.me.address (aliceLost.server.stateAt 3) := by
  obtain ⟨u, hstep, -, hrequested, -, -, hparticipants⟩ := @fullState_recovers emptyConference aliceLost
    emptyConference_initial (.tail (.tail (.single aliceJoins_step) bobJoins_step) aliceLost_step) 3 (by decide)
    (by decide)
  exact ⟨u, hstep, hrequested, hparticipants⟩

end Conference
