import LinphoneSdk.Conference.Server
import Mathlib.Data.List.Pairwise

/-!
# The replication of a conference

A client that takes the notifications of a server holds the participants of the state whose number it stored, unless it
waits for a full state or skipped a notification.
-/

namespace Conference

open FirstMatch List Change

/-! ### The devices of a participant -/

namespace Participant

variable {participant : Participant}

lemma findDevice_eq_true {gruu : String} : participant.findDevice gruu = true ↔
    ∃ d ∈ participant.devices, d.address = gruu := by
  simp [findDevice]

lemma findDevice_eq_false {gruu : String} : participant.findDevice gruu = false ↔
    ∀ d ∈ participant.devices, d.address ≠ gruu := by
  simp [findDevice]

/-- A device that is new is appended with its call. -/
lemma addDevice_of_fits {device : ParticipantDevice} (h : ∀ d ∈ participant.devices, d.address ≠ device.address) :
    participant.addDevice device.address device.callInfo =
      { participant with devices := participant.devices ++ [device] } := by
  have hnot := findDevice_eq_false.2 h
  have hcall : device.callInfo.getD "" = device.callId := by
    simp only [ParticipantDevice.callInfo]
    split_ifs with hc
    · simp [hc]
    · rfl
  simp only [addDevice, hnot, Bool.false_eq_true, if_false]
  rw [updateFirst_append_cons (fun d hd => by simpa using h d hd) (by simp)]
  simp [hcall]

lemma removeDevice_setAddressByCallId {device : ParticipantDevice}
    (hcalls : ∀ d ∈ participant.devices, d.callId = device.callId → d = device) :
    (participant.setAddressByCallId device.address device.callId).removeDevice device.address =
      participant.removeDevice device.address := by
  have hsame : participant.setAddressByCallId device.address device.callId = participant := by
    have hdevices : ∀ l : List ParticipantDevice, (∀ d ∈ l, d ∈ participant.devices) →
        updateFirst (·.callId = device.callId) (fun d => { d with address := device.address }) l = l := by
      intro l hl
      induction l with
      | nil => rfl
      | cons d l ih =>
        simp only [updateFirst, decide_eq_true_eq]
        split_ifs with hd
        · rw [hcalls d (hl d (by simp)) hd]
        · rw [ih fun x hx => hl x (mem_cons_of_mem d hx)]
    simp only [setAddressByCallId]
    rw [hdevices participant.devices fun d hd => hd]
  rw [hsame]

lemma endpointChange_dataChanged {old device : ParticipantDevice} {l r : List ParticipantDevice}
    (hdevices : participant.devices = l ++ old :: r)
    (hvalid : device.address = old.address ∧ (device.callId ≠ "" ∨ old.callId = "") ∨
      device.callId = old.callId ∧ old.callId ≠ "")
    (hl : ∀ d ∈ l, d.address ≠ old.address) (hfits : device.Fits (l ++ r)) :
    ∃ change, ClientConferenceEventHandler.endpointChange participant device.address (device.endpoint .partialState) =
        some change ∧ change participant = { participant with devices := l ++ device :: r } := by
  have hfind : participant.findDevice old.address = true := findDevice_eq_true.2 ⟨old, by simp [hdevices], rfl⟩
  by_cases hempty : device.callId = ""
  · have hcall : device.callInfo = none := by simp [ParticipantDevice.callInfo, hempty]
    have heq : device = old := by
      rcases hvalid with ⟨haddress, hcall | hcall⟩ | ⟨hcall, hne⟩
      · exact absurd hempty hcall
      · cases device; cases old; simp_all
      · exact absurd (hcall ▸ hempty) hne
    rw [heq] at hcall ⊢
    refine ⟨fun participant => participant.setCallId old.address none, ?_, ?_⟩
    · simp [ClientConferenceEventHandler.endpointChange, ParticipantDevice.endpoint, hcall, hfind]
    · simp only [setCallId, hdevices]
      rw [updateFirst_append_cons (fun d hd => by simpa using hl d hd) (by simp)]
      simp
  · have hcall : device.callInfo = some device.callId := by simp [ParticipantDevice.callInfo, hempty]
    by_cases hsame : device.callId = old.callId
    · have hfound : participant.findDeviceByCallId device.callId = true := by
        simp [findDeviceByCallId, hdevices, hsame]
      refine ⟨fun participant => participant.setAddressByCallId device.address device.callId, ?_, ?_⟩
      · simp [ClientConferenceEventHandler.endpointChange, ParticipantDevice.endpoint, hcall, hfound]
      · simp only [setAddressByCallId, hdevices]
        rw [updateFirst_append_cons
          (fun d hd => by simpa using (hfits d (mem_append_left r hd)).2 hempty) (by simp [hsame])]
        have heq : ({ old with address := device.address } : ParticipantDevice) = device := by
          cases device; cases old; simp_all
        rw [heq]
    · have haddress : device.address = old.address := by
        rcases hvalid with h | h
        · exact h.1
        · exact absurd h.1 hsame
      have hfound : participant.findDeviceByCallId device.callId = false := by
        simp only [findDeviceByCallId, hdevices, any_eq_false, decide_eq_true_eq]
        intro d hd
        rcases mem_append.1 hd with hd | hd
        · exact (hfits d (mem_append_left r hd)).2 hempty
        · rcases mem_cons.1 hd with rfl | hd
          · exact fun h => hsame h.symm
          · exact (hfits d (mem_append_right l hd)).2 hempty
      refine ⟨fun participant => participant.setCallId device.address (some device.callId), ?_, ?_⟩
      · simp [ClientConferenceEventHandler.endpointChange, ParticipantDevice.endpoint, hcall, hfound, haddress, hfind]
      · simp only [setCallId, hdevices, haddress]
        rw [updateFirst_append_cons (fun d hd => by simpa using hl d hd) (by simp)]
        have heq : ({ old with callId := device.callId } : ParticipantDevice) = device := by
          cases device; cases old; simp_all
        simp [heq]

end Participant

/-! ### The users -/

namespace ClientConferenceEventHandler

variable {h : ClientConferenceEventHandler}

def Honest (h : ClientConferenceEventHandler) (user : UserType) : Prop :=
  user.entity ≠ h.me.address → ∀ e ∈ user.endpoints, ∀ callId ∈ e.callId, h.calls callId = false

variable {user : UserType}

lemma isMe_iff (hhonest : h.Honest user) : h.isMe user = decide (user.entity = h.me.address) := by
  simp only [isMe]
  by_cases hme : user.entity = h.me.address
  · simp [hme]
  · have hcalls : user.endpoints.any (fun e => e.callId.any h.calls) = false := by
      simp only [any_eq_false, Option.any_eq_true, not_exists, not_and]
      intro e he callId hcall hown
      rw [hhonest hme e he callId hcall] at hown
      cases hown
    simp [hme, hcalls]

section

variable {address : String} {p : Participant} {l r : List Participant}

section

variable (hparticipants : h.participants = l ++ p :: r) (hl : ∀ q ∈ l, q.address ≠ address) (hp : p.address = address)
include hparticipants hl hp

lemma findParticipant_false : h.findParticipant false address = some p := by
  simp only [findParticipant, Bool.false_eq_true, if_false, hparticipants]
  exact find?_append_cons (fun q hq => by simpa using hl q hq) (by simpa using hp)

lemma updateParticipant_false (f : Participant → Participant) :
    h.updateParticipant false address f = { h with participants := l ++ f p :: r } := by
  simp only [updateParticipant, Bool.false_eq_true, if_false, hparticipants]
  rw [updateFirst_append_cons (fun q hq => by simpa using hl q hq) (by simpa using hp)]

lemma endpointReceived_false {endpoint : EndpointType} {gruu : String} (hgruu : endpoint.entity = some gruu)
    {change : Participant → Participant} (hchange : endpointChange p gruu endpoint = some change) :
    endpointReceived false address h endpoint = { h with participants := l ++ change p :: r } := by
  rw [endpointReceived, hgruu, findParticipant_false hparticipants hl hp]
  simp only [hchange]
  exact updateParticipant_false hparticipants hl hp change

lemma fillParticipantAttributes_false (isAdmin : Bool) :
    h.fillParticipantAttributes false address (some [adminRole isAdmin]) =
      { h with participants := l ++ { p with isAdmin := isAdmin } :: r } := by
  have hrole : [adminRole isAdmin].contains "admin" = isAdmin := by cases isAdmin <;> decide
  simp only [fillParticipantAttributes, hrole]
  exact updateParticipant_false hparticipants hl hp _

end

/-- The endpoints of a participant that is added give it its devices. -/
lemma foldl_endpointReceived (hl : ∀ q ∈ l, q.address ≠ address) (hp : p.address = address)
    (devices : List ParticipantDevice) (hnodup : ((p.devices ++ devices).map (·.address)).Nodup)
    (hparticipants : h.participants = l ++ p :: r) :
    (devices.map (·.endpoint .full)).foldl (endpointReceived false address) h =
      { h with participants := l ++ { p with devices := p.devices ++ devices } :: r } := by
  induction devices generalizing h p with
  | nil =>
    simp only [map_nil, foldl_nil, append_nil]
    rw [← hparticipants]
  | cons d devices ih =>
    have hfits : ∀ d' ∈ p.devices, d'.address ≠ d.address := by
      intro d' hd' heq
      rw [map_append, nodup_append] at hnodup
      exact hnodup.2.2 _ (mem_map_of_mem hd') _ (by simp) heq
    have hstep : endpointReceived false address h (d.endpoint .full) =
        { h with participants := l ++ { p with devices := p.devices ++ [d] } :: r } := by
      rw [endpointReceived_false hparticipants hl hp rfl rfl]
      simp only [ParticipantDevice.endpoint]
      rw [Participant.addDevice_of_fits hfits]
    rw [map_cons, foldl_cons, hstep]
    rw [ih (p := { p with devices := p.devices ++ [d] }) hp (by simpa using hnodup) rfl]
    simp

end

/-! #### What every user leaves -/

/-- What the handling of a user leaves: the configuration, a request for a full state once it is made, and the version
with its flag unless a full state is requested. -/
structure Keeps (h h' : ClientConferenceEventHandler) : Prop where
  conferenceAddress : h'.conferenceAddress = h.conferenceAddress
  calls : h'.calls = h.calls
  me : h'.me.address = h.me.address
  requested : h.fullStateRequested = true → h'.fullStateRequested = true
  lastNotify : h'.fullStateRequested = true ∧ h'.lastNotify = 0 ∨
    h'.waitingFullState = h.waitingFullState ∧ h'.lastNotify = h.lastNotify

namespace Keeps

variable {h h' h'' : ClientConferenceEventHandler}

lemma refl (h : ClientConferenceEventHandler) : Keeps h h := ⟨rfl, rfl, rfl, id, .inr ⟨rfl, rfl⟩⟩

lemma trans (h₁ : Keeps h h') (h₂ : Keeps h' h'') : Keeps h h'' where
  conferenceAddress := h₂.conferenceAddress.trans h₁.conferenceAddress
  calls := h₂.calls.trans h₁.calls
  me := h₂.me.trans h₁.me
  requested := h₂.requested ∘ h₁.requested
  lastNotify := by
    rcases h₂.lastNotify with hrequested | ⟨hwaiting, hlast⟩
    · exact .inl hrequested
    · rcases h₁.lastNotify with ⟨hrequested, hzero⟩ | ⟨hwaiting', hlast'⟩
      · exact .inl ⟨h₂.requested hrequested, hlast.trans hzero⟩
      · exact .inr ⟨hwaiting.trans hwaiting', hlast.trans hlast'⟩

lemma requestFullState (h : ClientConferenceEventHandler) : Keeps h h.requestFullState :=
  ⟨rfl, rfl, rfl, fun _ => rfl, .inl ⟨rfl, rfl⟩⟩

lemma updateParticipant (isMe : Bool) (address : String) {f : Participant → Participant}
    (hf : ∀ p, (f p).address = p.address) : Keeps h (h.updateParticipant isMe address f) := by
  cases isMe
  · exact ⟨rfl, rfl, rfl, id, .inr ⟨rfl, rfl⟩⟩
  · exact ⟨rfl, rfl, hf h.me, id, .inr ⟨rfl, rfl⟩⟩

lemma fillParticipantAttributes (isMe : Bool) (address : String) (roles : Option (List String)) :
    Keeps h (h.fillParticipantAttributes isMe address roles) := by
  cases roles with
  | none => exact refl h
  | some entry => exact updateParticipant isMe address fun p => rfl

end Keeps

/-- What an endpoint changes is in the devices. -/
lemma endpointChange_address {participant : Participant} {gruu : String} {endpoint : EndpointType}
    {change : Participant → Participant} (hchange : endpointChange participant gruu endpoint = some change)
    (p : Participant) : (change p).address = p.address := by
  unfold endpointChange at hchange
  split at hchange
  · cases hchange; rfl
  · split at hchange
    · split_ifs at hchange; cases hchange; rfl
    · split_ifs at hchange <;> cases hchange <;> rfl
  · split at hchange <;> cases hchange <;> rfl

lemma Keeps.endpointReceived (isMe : Bool) (address : String) (endpoint : EndpointType) :
    Keeps h (endpointReceived isMe address h endpoint) := by
  unfold ClientConferenceEventHandler.endpointReceived
  split
  · split
    · next hchange => exact Keeps.updateParticipant isMe address (endpointChange_address hchange)
    · exact Keeps.requestFullState h
  · exact Keeps.refl h

lemma Keeps.foldl_endpointReceived (isMe : Bool) (address : String) (endpoints : List EndpointType) :
    Keeps h (endpoints.foldl (ClientConferenceEventHandler.endpointReceived isMe address) h) := by
  induction endpoints generalizing h with
  | nil => exact Keeps.refl h
  | cons endpoint endpoints ih => exact (Keeps.endpointReceived isMe address endpoint).trans ih

lemma Keeps.userDetails (isMe : Bool) (user : UserType) : Keeps h (h.userDetails isMe user) := by
  unfold ClientConferenceEventHandler.userDetails
  split
  · exact Keeps.requestFullState h
  · exact (Keeps.fillParticipantAttributes isMe user.entity user.roles).trans
      (Keeps.foldl_endpointReceived isMe user.entity user.endpoints)

lemma Keeps.userReceived {h' : ClientConferenceEventHandler} (hhonest : h.Honest user)
    (hreceived : h.userReceived user = some h') : Keeps h h' := by
  have hparticipants (ps : List Participant) : Keeps h { h with participants := ps } :=
    ⟨rfl, rfl, rfl, id, .inr ⟨rfl, rfl⟩⟩
  simp only [ClientConferenceEventHandler.userReceived, isMe_iff hhonest] at hreceived
  split at hreceived
  · split at hreceived <;> cases hreceived
    · exact Keeps.refl h
    · exact hparticipants _
  · cases hreceived
  · split at hreceived <;> cases hreceived
    · next hme =>
      have hstep : Keeps h { h with me := { h.me with address := user.entity } } :=
        ⟨rfl, rfl, of_decide_eq_true hme, id, .inr ⟨rfl, rfl⟩⟩
      exact hstep.trans (Keeps.userDetails _ user)
    · exact Keeps.userDetails _ user
  · cases hreceived
    exact (hparticipants _).trans (Keeps.userDetails _ user)
  · cases hreceived
    exact Keeps.userDetails _ user

lemma Keeps.honest {h' : ClientConferenceEventHandler} (hkeeps : Keeps h h') (hhonest : h.Honest user) :
    h'.Honest user := by
  intro hme e he callId hcall
  rw [hkeeps.calls]
  exact hhonest (hkeeps.me ▸ hme) e he callId hcall

lemma Keeps.foldlM_userReceived {users : List UserType} {h' : ClientConferenceEventHandler}
    (hhonest : ∀ user ∈ users, h.Honest user)
    (hreceived : users.foldlM ClientConferenceEventHandler.userReceived h = some h') : Keeps h h' := by
  induction users generalizing h with
  | nil =>
    cases hreceived
    exact Keeps.refl _
  | cons user users ih =>
    rw [foldlM_cons] at hreceived
    obtain ⟨h₁, huser, hrest⟩ := Option.bind_eq_some_iff.1 hreceived
    have hstep : Keeps h h₁ := Keeps.userReceived (hhonest user (by simp)) huser
    refine hstep.trans (ih (fun user' huser' => ?_) hrest)
    exact hstep.honest (hhonest user' (by simp [huser']))

/-! #### The user that is the client -/

/-- The participants are given ones, and nothing else changes but the client itself; or a full state is requested. -/
def Applied (h h' : ClientConferenceEventHandler) (participants : List Participant) : Prop :=
  h'.fullStateRequested = true ∨
    ∃ me : Participant, me.address = h.me.address ∧ h' = { h with me := me, participants := participants }

lemma applied_updateParticipant_me (address : String) {f : Participant → Participant}
    (hf : ∀ p, (f p).address = p.address) : h.Applied (h.updateParticipant true address f) h.participants :=
  .inr ⟨f h.me, hf h.me, rfl⟩

lemma applied_endpointReceived_me (address : String) (endpoint : EndpointType) :
    h.Applied (endpointReceived true address h endpoint) h.participants := by
  unfold endpointReceived
  split
  · split
    · next hchange => exact applied_updateParticipant_me address (endpointChange_address hchange)
    · exact .inl rfl
  · exact .inr ⟨h.me, rfl, rfl⟩

lemma Applied.trans {h' h'' : ClientConferenceEventHandler} {ps qs : List Participant} (h₁ : h.Applied h' ps)
    (h₂ : h'.Applied h'' qs) : h.Applied h'' qs := by
  rcases h₂ with hrequested | ⟨me, hme, rfl⟩
  · exact .inl hrequested
  · rcases h₁ with hrequested | ⟨me', hme', rfl⟩
    · exact .inl hrequested
    · exact .inr ⟨me, hme.trans hme', rfl⟩

lemma applied_foldl_endpointReceived_me (address : String) (endpoints : List EndpointType) :
    h.Applied (endpoints.foldl (endpointReceived true address) h) h.participants := by
  induction endpoints generalizing h with
  | nil => exact .inr ⟨h.me, rfl, rfl⟩
  | cons endpoint endpoints ih =>
    rw [foldl_cons]
    have hstep := applied_endpointReceived_me (h := h) address endpoint
    rcases hstep with hrequested | ⟨me, hme, heq⟩
    · exact .inl ((Keeps.foldl_endpointReceived true address endpoints).requested hrequested)
    · have hrest := ih (h := endpointReceived true address h endpoint)
      rw [heq] at hrest ⊢
      exact Applied.trans (.inr ⟨me, hme, rfl⟩) hrest

lemma applied_userDetails_me (user : UserType) : h.Applied (h.userDetails true user) h.participants := by
  simp only [userDetails, findParticipant, if_true]
  have hfill : h.Applied (h.fillParticipantAttributes true user.entity user.roles) h.participants := by
    cases user.roles with
    | none => exact .inr ⟨h.me, rfl, rfl⟩
    | some entry => exact applied_updateParticipant_me user.entity fun p => rfl
  rcases hfill with hrequested | ⟨me, hme, heq⟩
  · exact .inl ((Keeps.foldl_endpointReceived true user.entity user.endpoints).requested hrequested)
  · have hrest := applied_foldl_endpointReceived_me
      (h := h.fillParticipantAttributes true user.entity user.roles) user.entity user.endpoints
    rw [heq] at hrest ⊢
    exact Applied.trans (.inr ⟨me, hme, rfl⟩) hrest

/-- The client itself is no participant: its user changes none of them. -/
lemma applied_userReceived_me (hhonest : h.Honest user) (hme : user.entity = h.me.address) :
    ∃ h', h.userReceived user = some h' ∧ h.Applied h' h.participants := by
  have hfind : h.findParticipant true user.entity = some h.me := rfl
  simp only [userReceived, isMe_iff hhonest, hme, decide_true, if_true]
  rw [← hme, hfind]
  rcases user.state with _ | _ | _
  · have hrename : ({ h with me := { h.me with address := user.entity } } : ClientConferenceEventHandler) = h := by
      rw [hme]
    simp only [hrename]
    exact ⟨_, rfl, applied_userDetails_me user⟩
  · exact ⟨_, rfl, applied_userDetails_me user⟩
  · exact ⟨_, rfl, .inr ⟨h.me, rfl, rfl⟩⟩

/-! #### The other users -/

section

variable {user : UserType} (hhonest : h.Honest user) (hother : user.entity ≠ h.me.address)

include hhonest hother in
lemma isMe_eq_false : h.isMe user = false := by
  rw [isMe_iff hhonest]
  exact decide_eq_false hother

include hhonest hother in
/-- A user that is added comes with its attributes and its devices. -/
lemma userReceived_user {p : Participant} (huser : user = p.user)
    (hnew : ∀ q ∈ h.participants, q.address ≠ p.address) (hdevices : (p.devices.map (·.address)).Nodup) :
    h.userReceived user = some { h with participants := h.participants ++ [p] } := by
  have hme := isMe_eq_false hhonest hother
  have hentity : user.entity = p.address := by rw [huser]; rfl
  have hstate : user.state = .full := by rw [huser]; rfl
  have hroles : user.roles = some [adminRole p.isAdmin] := by rw [huser]; rfl
  have hendpoints : user.endpoints = p.devices.map (·.endpoint .full) := by rw [huser]; rfl
  have hfind : h.findParticipant false p.address = none := by
    simp only [findParticipant, Bool.false_eq_true, if_false, find?_eq_none, decide_eq_true_eq]
    exact hnew
  simp only [userReceived, hme, hstate, hentity, hfind]
  set h₁ : ClientConferenceEventHandler :=
    { h with participants := h.participants ++ [Participant.create p.address] } with hh₁
  have hcreated : h₁.participants = h.participants ++ Participant.create p.address :: [] := rfl
  simp only [userDetails, hentity, hroles, hendpoints, findParticipant_false hcreated hnew rfl]
  rw [fillParticipantAttributes_false hcreated hnew rfl p.isAdmin]
  rw [foldl_endpointReceived (p := { Participant.create p.address with isAdmin := p.isAdmin }) hnew rfl p.devices
    (by simpa [Participant.create] using hdevices) rfl]
  simp [Participant.create, hh₁]

include hhonest hother in
lemma userReceived_deleted {l r : List Participant} {p : Participant} (hstate : user.state = .deleted)
    (hparticipants : h.participants = l ++ p :: r) (hl : ∀ q ∈ l, q.address ≠ user.entity)
    (hp : p.address = user.entity) : h.userReceived user = some { h with participants := l ++ r } := by
  have hme := isMe_eq_false hhonest hother
  simp only [userReceived, hme, hstate, findParticipant_false hparticipants hl hp, Bool.false_eq_true, if_false]
  rw [hparticipants, eraseP_append_cons (fun q hq => by simpa using hl q hq) (by simpa using hp)]

include hhonest hother in
/-- A user that changed keeps its place: what its roles and its endpoints do to it is done there. -/
lemma userReceived_partialState {l r : List Participant} {p : Participant} (hstate : user.state = .partialState)
    (hparticipants : h.participants = l ++ p :: r) (hl : ∀ q ∈ l, q.address ≠ user.entity)
    (hp : p.address = user.entity) :
    h.userReceived user = some (user.endpoints.foldl (endpointReceived false user.entity)
      (h.fillParticipantAttributes false user.entity user.roles)) := by
  have hme := isMe_eq_false hhonest hother
  simp only [userReceived, hme, hstate, userDetails, findParticipant_false hparticipants hl hp]

end

end ClientConferenceEventHandler

/-! ### What the client holds of a state -/

/-- The participants but the client itself. -/
def view (me : String) (participants : List Participant) : List Participant :=
  participants.filter (·.address ≠ me)

section

variable {me : String} {l r participants : List Participant} {p q : Participant}

lemma mem_view : p ∈ view me participants ↔ p ∈ participants ∧ p.address ≠ me := by
  simp [view]

lemma view_append : view me (l ++ r) = view me l ++ view me r := by
  simp [view]

lemma view_cons_of_ne (hp : p.address ≠ me) : view me (p :: l) = p :: view me l := by
  simp [view, hp]

lemma view_cons_of_eq (hp : p.address = me) : view me (p :: l) = view me l := by
  simp [view, hp]

lemma view_split (hp : p.address ≠ me) : view me (l ++ p :: r) = view me l ++ p :: view me r := by
  rw [view_append, view_cons_of_ne hp]

/-- A participant that changed keeps its place. -/
lemma view_changed (hp : p.address ≠ me) (hq : q.address = p.address) :
    view me (l ++ q :: r) = view me l ++ q :: view me r :=
  view_split (by rwa [hq])

lemma view_changed_of_eq (hp : p.address = me) (hq : q.address = p.address) :
    view me (l ++ q :: r) = view me (l ++ p :: r) := by
  rw [view_append, view_append, view_cons_of_eq (hq.trans hp), view_cons_of_eq hp]

lemma view_split_of_eq (hp : p.address = me) : view me (l ++ p :: r) = view me (l ++ r) := by
  rw [view_append, view_append, view_cons_of_eq hp]

lemma updateFirst_address (f : Participant → Participant) (hl : ∀ q ∈ l, q.address ≠ p.address) :
    updateFirst (·.address = p.address) f (l ++ p :: r) = l ++ f p :: r :=
  updateFirst_append_cons (fun q hq => by simpa using hl q hq) (by simp)

lemma Roster.tail (hroster : Roster (p :: participants)) : Roster participants where
  addresses := (nodup_cons.1 hroster.addresses).2
  devices q hq := hroster.devices q (mem_cons_of_mem p hq)
  calls q hq := hroster.calls q (mem_cons_of_mem p hq)

/-- The participant of a valid change splits a roster. -/
lemma Roster.split (hroster : Roster participants) (hp : p ∈ participants) :
    ∃ l r, participants = l ++ p :: r ∧ ∀ q ∈ l, q.address ≠ p.address := by
  obtain ⟨l, r, heq, hl, -⟩ := exists_split hroster.addresses hp
  exact ⟨l, r, heq, hl⟩

end

lemma Roster.call_unique {participants : List Participant} (hroster : Roster participants) {p : Participant}
    (hp : p ∈ participants) {d d' : ParticipantDevice} (hd : d ∈ p.devices) (hd' : d' ∈ p.devices)
    (hcall : d.callId = d'.callId) (hne : d'.callId ≠ "") : d = d' := by
  have hpairwise := hroster.calls p hp
  have hmem : d ∈ p.devices.filter (·.callId ≠ "") := by simp [hd, hcall, hne]
  have hmem' : d' ∈ p.devices.filter (·.callId ≠ "") := by simp [hd', hne]
  by_contra hdiff
  have hsymm : Std.Symm fun d d' : ParticipantDevice => d.callId ≠ d'.callId := ⟨fun _ _ h => h.symm⟩
  exact hpairwise.forall hmem hmem' hdiff hcall

/-- What fits the other devices fits those on both sides. -/
lemma fits_of_split {devices dl dr : List ParticipantDevice} {old device : ParticipantDevice}
    (hdevices : devices = dl ++ old :: dr) (hdl : ∀ d ∈ dl, d.address ≠ old.address)
    (hdr : ∀ d ∈ dr, d.address ≠ old.address) (hfits : device.Fits (devices.filter (· ≠ old))) :
    device.Fits (dl ++ dr) := by
  intro d hd
  refine hfits d ?_
  have hne : d ≠ old := by
    rintro rfl
    rcases mem_append.1 hd with hd | hd
    · exact hdl d hd rfl
    · exact hdr d hd rfl
  rw [mem_filter, hdevices]
  refine ⟨?_, by simpa using hne⟩
  rcases mem_append.1 hd with hd | hd
  · exact mem_append_left _ hd
  · exact mem_append_right _ (mem_cons_of_mem _ hd)

/-! ### The notifications of the server -/

namespace ClientConferenceEventHandler

variable {h : ClientConferenceEventHandler}

/-! #### No user of a whole state leads to a request -/

lemma fullStateRequested_updateParticipant (isMe : Bool) (address : String) (f : Participant → Participant) :
    (h.updateParticipant isMe address f).fullStateRequested = h.fullStateRequested := by
  cases isMe <;> rfl

/-- A device that is given as a whole needs none to be there. -/
lemma fullStateRequested_endpointReceived (isMe : Bool) (address : String) {endpoint : EndpointType}
    (hendpoint : endpoint.state = .full) :
    (endpointReceived isMe address h endpoint).fullStateRequested = h.fullStateRequested := by
  unfold endpointReceived
  split
  · simp only [endpointChange, hendpoint]
    exact fullStateRequested_updateParticipant isMe address _
  · rfl

lemma fullStateRequested_userDetails {isMe : Bool} {p : Participant}
    (hfound : (h.findParticipant isMe p.address).isSome) :
    (h.userDetails isMe p.user).fullStateRequested = h.fullStateRequested := by
  obtain ⟨q, hq⟩ := Option.isSome_iff_exists.1 hfound
  have hendpoints (devices : List ParticipantDevice) (h' : ClientConferenceEventHandler) :
      ((devices.map (·.endpoint .full)).foldl (endpointReceived isMe p.address) h').fullStateRequested =
        h'.fullStateRequested := by
    induction devices generalizing h' with
    | nil => rfl
    | cons d devices ih =>
      rw [map_cons, foldl_cons, ih]
      exact fullStateRequested_endpointReceived isMe p.address rfl
  rw [userDetails, show p.user.entity = p.address from rfl, hq]
  exact (hendpoints p.devices _).trans (fullStateRequested_updateParticipant isMe p.address _)

lemma exists_userReceived_user (p : Participant) :
    ∃ h', h.userReceived p.user = some h' ∧ h'.fullStateRequested = h.fullStateRequested := by
  have hstate : p.user.state = .full := rfl
  have hentity : p.user.entity = p.address := rfl
  unfold userReceived
  dsimp only
  rw [hstate, hentity]
  cases hfound : h.findParticipant (h.isMe p.user) p.address with
  | none =>
    refine ⟨_, rfl, fullStateRequested_userDetails ?_⟩
    cases h.isMe p.user with
    | true => rfl
    | false => simp [findParticipant, Participant.create]
  | some q =>
    dsimp only
    split_ifs with hme
    · exact ⟨_, rfl, fullStateRequested_userDetails (by rw [hme]; rfl)⟩
    · exact ⟨_, rfl, fullStateRequested_userDetails (by rw [hfound]; rfl)⟩

lemma foldlM_cons {user : UserType} {users : List UserType} {h₁ h' : ClientConferenceEventHandler}
    (huser : h.userReceived user = some h₁) (husers : users.foldlM userReceived h₁ = some h') :
    (user :: users).foldlM userReceived h = some h' := by
  rw [List.foldlM_cons, huser]
  exact husers

lemma exists_foldlM_user (participants : List Participant) :
    ∃ h', (participants.map (·.user)).foldlM userReceived h = some h' ∧
      h'.fullStateRequested = h.fullStateRequested := by
  induction participants generalizing h with
  | nil => exact ⟨h, rfl, rfl⟩
  | cons p participants ih =>
    obtain ⟨h₁, huser, heq⟩ := exists_userReceived_user (h := h) p
    obtain ⟨h', hreceived, heq'⟩ := ih (h := h₁)
    exact ⟨h', foldlM_cons huser hreceived, heq'.trans heq⟩

/-- The users of a whole state: the participants but the client itself are appended. -/
lemma applied_foldlM_user {participants : List Participant} (hroster : Roster participants)
    (hhonest : ∀ p ∈ participants, h.Honest p.user)
    (hnew : ∀ q ∈ h.participants, ∀ p ∈ participants, q.address ≠ p.address) :
    ∃ h', (participants.map (·.user)).foldlM userReceived h = some h' ∧
      h.Applied h' (h.participants ++ view h.me.address participants) := by
  induction participants generalizing h with
  | nil => exact ⟨h, rfl, .inr ⟨h.me, rfl, by simp [view]⟩⟩
  | cons p participants ih =>
    have hp : h.Honest p.user := hhonest p (by simp)
    have hrest : Roster participants := hroster.tail
    have hhonest' {h₁ : ClientConferenceEventHandler} (huser : h.userReceived p.user = some h₁) :
        ∀ q ∈ participants, h₁.Honest q.user :=
      fun q hq => (Keeps.userReceived hp huser).honest (hhonest q (mem_cons_of_mem p hq))
    by_cases hme : p.address = h.me.address
    · rw [view_cons_of_eq hme]
      obtain ⟨h₁, huser, hrequested | ⟨me, hme', rfl⟩⟩ := applied_userReceived_me hp hme
      · obtain ⟨h', hreceived, heq⟩ := exists_foldlM_user (h := h₁) participants
        exact ⟨h', foldlM_cons huser hreceived, .inl (heq.trans hrequested)⟩
      · obtain ⟨h', hreceived, happlied⟩ := ih (h := { h with me := me }) hrest (hhonest' huser)
          fun q hq p' hp' => hnew q hq p' (mem_cons_of_mem p hp')
        simp only [hme'] at happlied
        exact ⟨h', foldlM_cons huser hreceived, Applied.trans (.inr ⟨me, hme', rfl⟩) happlied⟩
    · rw [view_cons_of_ne hme]
      have huser := userReceived_user hp hme rfl (fun q hq => hnew q hq p (by simp)) (hroster.devices p (by simp))
      have hstep := ih (h := { h with participants := h.participants ++ [p] }) hrest (hhonest' huser) ?_
      · obtain ⟨h', hreceived, happlied⟩ := hstep
        simp only [append_assoc, cons_append, nil_append] at happlied
        exact ⟨h', foldlM_cons huser hreceived, Applied.trans (.inr ⟨h.me, rfl, rfl⟩) happlied⟩
      · intro q hq p' hp'
        rcases mem_append.1 hq with hq | hq
        · exact hnew q hq p' (mem_cons_of_mem p hp')
        · rw [mem_singleton.1 hq]
          have haddresses := hroster.addresses
          rw [map_cons, nodup_cons] at haddresses
          exact fun heq => haddresses.1 (heq ▸ mem_map_of_mem hp')

/-- The notification of a device that changed, added or was removed, for a participant in its place. -/
lemma userReceived_endpoint {l r : List Participant} {p : Participant} {endpoint : EndpointType} {gruu : String}
    {change : Participant → Participant} (hhonest : h.Honest ⟨p.address, .partialState, none, [endpoint]⟩)
    (hother : p.address ≠ h.me.address) (hparticipants : h.participants = l ++ p :: r)
    (hl : ∀ q ∈ l, q.address ≠ p.address) (hgruu : endpoint.entity = some gruu)
    (hchange : endpointChange p gruu endpoint = some change) :
    h.userReceived ⟨p.address, .partialState, none, [endpoint]⟩ =
      some { h with participants := l ++ change p :: r } := by
  rw [userReceived_partialState hhonest hother rfl hparticipants hl rfl]
  exact congrArg some (endpointReceived_false hparticipants hl rfl hgruu hchange)

/-- A change notified to a client that holds the state before it. -/
lemma applied_change {participants : List Participant} {change : Change} (hroster : Roster participants)
    (hvalid : change.Valid participants) (hhonest : ∀ user ∈ change.users, h.Honest user)
    (hsync : h.participants = view h.me.address participants) : ∃ h', change.users.foldlM userReceived h = some h' ∧
      h.Applied h' (view h.me.address (change.apply participants)) := by
  have hmine {u : UserType} (hu : u ∈ change.users) (hme : u.entity = h.me.address)
      (happly : view h.me.address (change.apply participants) = view h.me.address participants) :
      ∃ h', [u].foldlM userReceived h = some h' ∧ h.Applied h' (view h.me.address (change.apply participants)) := by
    rw [happly, ← hsync]
    obtain ⟨h', huser, happlied⟩ := applied_userReceived_me (hhonest u hu) hme
    exact ⟨h', foldlM_cons huser rfl, happlied⟩
  have hone {u : UserType} {ps : List Participant} (hu : h.userReceived u = some { h with participants := ps }) :
      ∃ h', [u].foldlM userReceived h = some h' ∧ h.Applied h' ps :=
    ⟨_, foldlM_cons hu rfl, .inr ⟨h.me, rfl, rfl⟩⟩
  have hplace {p : Participant} {l r : List Participant} (heq : participants = l ++ p :: r)
      (hother : p.address ≠ h.me.address) : h.participants = view h.me.address l ++ p :: view h.me.address r := by
    rw [hsync, heq, view_split hother]
  have hbefore {p : Participant} {l : List Participant} (hl : ∀ q ∈ l, q.address ≠ p.address) :
      ∀ q ∈ view h.me.address l, q.address ≠ p.address := fun q hq => hl q (mem_view.1 hq).1
  cases change with
  | participantAdded p =>
    obtain ⟨hnew, hdevices⟩ := hvalid
    have hp := hhonest p.user (by simp [users])
    simp only [users]
    by_cases hme : p.address = h.me.address
    · refine hmine (u := p.user) (by simp [users]) hme ?_
      rw [apply, view_append, view_cons_of_eq hme]
      simp [view]
    · refine hone ?_
      rw [userReceived_user hp hme rfl ?_ (hdevices.devices p (by simp))]
      · rw [apply, view_append, view_cons_of_ne hme, hsync]
        simp [view]
      · rw [hsync]
        exact fun q hq => hnew q (mem_view.1 hq).1
  | participantRemoved address =>
    obtain ⟨p, hp, rfl⟩ := hvalid
    obtain ⟨l, r, heq, hl⟩ := hroster.split hp
    have happly : (participantRemoved p.address).apply participants = l ++ r := by
      rw [apply, heq, eraseP_append_cons (fun q hq => by simpa using hl q hq) (by simp)]
    simp only [users]
    by_cases hme : p.address = h.me.address
    · refine hmine (by simp [users]) hme ?_
      rw [happly, heq, view_split_of_eq hme]
    · refine hone ?_
      rw [userReceived_deleted (hhonest _ (by simp [users])) hme rfl (hplace heq hme) (hbefore hl) rfl, happly,
        view_append]
  | participantSetAdmin address isAdmin =>
    obtain ⟨p, hp, rfl⟩ := hvalid
    obtain ⟨l, r, heq, hl⟩ := hroster.split hp
    have happly : (participantSetAdmin p.address isAdmin).apply participants =
        l ++ { p with isAdmin := isAdmin } :: r := by
      rw [apply, heq, updateFirst_address _ hl]
    simp only [users]
    by_cases hme : p.address = h.me.address
    · refine hmine (by simp [users]) hme ?_
      rw [happly, heq, view_changed_of_eq (q := { p with isAdmin := isAdmin }) hme rfl]
    · refine hone ?_
      rw [userReceived_partialState (hhonest _ (by simp [users])) hme rfl (hplace heq hme) (hbefore hl) rfl,
        happly, view_changed (q := { p with isAdmin := isAdmin }) hme rfl]
      exact congrArg some (fillParticipantAttributes_false (hplace heq hme) (hbefore hl) rfl isAdmin)
  | deviceAdded address device =>
    obtain ⟨p, hp, rfl, hfits⟩ := hvalid
    obtain ⟨l, r, heq, hl⟩ := hroster.split hp
    have happly : (deviceAdded p.address device).apply participants =
        l ++ { p with devices := p.devices ++ [device] } :: r := by
      rw [apply, heq, updateFirst_address _ hl]
    simp only [users]
    by_cases hme : p.address = h.me.address
    · refine hmine (by simp [users]) hme ?_
      rw [happly, heq, view_changed_of_eq (q := { p with devices := p.devices ++ [device] }) hme rfl]
    · refine hone ?_
      rw [userReceived_endpoint (hhonest _ (by simp [users])) hme (hplace heq hme) (hbefore hl) rfl rfl, happly,
        view_changed (q := { p with devices := p.devices ++ [device] }) hme rfl]
      simp only [ParticipantDevice.endpoint]
      rw [Participant.addDevice_of_fits fun d hd => (hfits d hd).1]
  | deviceRemoved address device described =>
    obtain ⟨p, hp, rfl, hdevice⟩ := hvalid
    obtain ⟨l, r, heq, hl⟩ := hroster.split hp
    have happly : (deviceRemoved p.address device described).apply participants =
        l ++ p.removeDevice device.address :: r := by
      rw [apply, heq, updateFirst_address _ hl]
      rfl
    simp only [users]
    by_cases hme : p.address = h.me.address
    · refine hmine (by simp [users]) hme ?_
      rw [happly, heq, view_changed_of_eq (q := p.removeDevice device.address) hme rfl]
    · refine hone ?_
      have hchange : ∃ change : Participant → Participant, endpointChange p device.address
          ⟨some device.address, .deleted, if described then device.callInfo else none⟩ = some change ∧
          change p = p.removeDevice device.address := by
        by_cases hcall : described = true ∧ device.callId ≠ ""
        · refine ⟨fun p => (p.setAddressByCallId device.address device.callId).removeDevice device.address, ?_, ?_⟩
          · simp [endpointChange, ParticipantDevice.callInfo, hcall.1, hcall.2]
          · exact Participant.removeDevice_setAddressByCallId
              fun d hd heq => hroster.call_unique hp hd hdevice heq hcall.2
        · refine ⟨fun p => p.removeDevice device.address, ?_, rfl⟩
          have hnone : (if described then device.callInfo else none) = none := by
            cases described with
            | false => rfl
            | true =>
              have hempty : device.callId = "" := by simpa using hcall
              simp [ParticipantDevice.callInfo, hempty]
          simp [endpointChange, hnone]
      obtain ⟨change, hchange, hresult⟩ := hchange
      rw [userReceived_endpoint (hhonest _ (by simp [users])) hme (hplace heq hme) (hbefore hl) rfl hchange,
        happly, view_changed (q := p.removeDevice device.address) hme rfl, hresult]
  | deviceDataChanged address old device =>
    obtain ⟨p, hp, rfl, hold, hkeeps, hfits⟩ := hvalid
    obtain ⟨l, r, heq, hl⟩ := hroster.split hp
    obtain ⟨dl, dr, hdevices, hdl, hdr⟩ := exists_split (hroster.devices p hp) hold
    have hfits' : device.Fits (dl ++ dr) := fits_of_split hdevices hdl hdr hfits
    have happly : (deviceDataChanged p.address old device).apply participants =
        l ++ { p with devices := dl ++ device :: dr } :: r := by
      rw [apply, heq, updateFirst_address _ hl, hdevices,
        updateFirst_append_cons (fun d hd => by simpa using hdl d hd) (by simp)]
    simp only [users]
    by_cases hme : p.address = h.me.address
    · refine hmine (by simp [users]) hme ?_
      rw [happly, heq, view_changed_of_eq (q := { p with devices := dl ++ device :: dr }) hme rfl]
    · refine hone ?_
      obtain ⟨change, hchange, hresult⟩ := Participant.endpointChange_dataChanged hdevices hkeeps hdl hfits'
      rw [userReceived_endpoint (hhonest _ (by simp [users])) hme (hplace heq hme) (hbefore hl) rfl hchange,
        happly, view_changed (q := { p with devices := dl ++ device :: dr }) hme rfl, hresult]
  | other => exact ⟨h, rfl, .inr ⟨h.me, rfl, by rw [apply, ← hsync]⟩⟩

end ClientConferenceEventHandler

end Conference
