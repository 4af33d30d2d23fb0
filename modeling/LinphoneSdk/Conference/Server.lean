import LinphoneSdk.Conference.ClientEventHandler

/-!
# The conference server

The changes of a conference, the notifications that the server emits for them, and the states that it numbers.
-/

namespace Conference

open FirstMatch

/-- The lists of participants: no address comes twice, and no address and no call comes twice among the devices of a
participant. -/
structure Roster (participants : List Participant) : Prop where
  addresses : (participants.map (·.address)).Nodup
  devices : ∀ p ∈ participants, (p.devices.map (·.address)).Nodup
  calls : ∀ p ∈ participants, (p.devices.filter (·.callId ≠ "")).Pairwise fun d d' => d.callId ≠ d'.callId

/-- A change of the state of the conference. The notification of a removed device may give its call. -/
inductive Change where
  | participantAdded (participant : Participant)
  | participantRemoved (address : String)
  | participantSetAdmin (address : String) (isAdmin : Bool)
  | deviceAdded (address : String) (device : ParticipantDevice)
  | deviceRemoved (address : String) (device : ParticipantDevice) (described : Bool)
  | deviceDataChanged (address : String) (old device : ParticipantDevice)
  /-- The subject and so on. -/
  | other
  deriving DecidableEq

namespace Change

def apply (participants : List Participant) : Change → List Participant
  | participantAdded participant => participants ++ [participant]
  | participantRemoved address => participants.eraseP (·.address = address)
  | participantSetAdmin address isAdmin =>
    updateFirst (·.address = address) (fun p => { p with isAdmin := isAdmin }) participants
  | deviceAdded address device =>
    updateFirst (·.address = address) (fun p => { p with devices := p.devices ++ [device] }) participants
  | deviceRemoved address device _ =>
    updateFirst (·.address = address)
      (fun p => { p with devices := p.devices.filter (·.address ≠ device.address) }) participants
  | deviceDataChanged address old device =>
    updateFirst (·.address = address)
      (fun p => { p with devices := updateFirst (·.address = old.address) (fun _ => device) p.devices }) participants
  | other => participants

end Change

/-- A device may be part of a participant with other devices. -/
def ParticipantDevice.Fits (device : ParticipantDevice) (devices : List ParticipantDevice) : Prop :=
  ∀ d ∈ devices, d.address ≠ device.address ∧ (device.callId ≠ "" → d.callId ≠ device.callId)

/-- A change that the server may make. A device that changes keeps its address, and leaves no call but for another; or
it keeps its call and changes its address. -/
def Change.Valid (participants : List Participant) : Change → Prop
  | .participantAdded participant =>
    (∀ p ∈ participants, p.address ≠ participant.address) ∧ Roster [participant]
  | .participantRemoved address => ∃ p ∈ participants, p.address = address
  | .participantSetAdmin address _ => ∃ p ∈ participants, p.address = address
  | .deviceAdded address device => ∃ p ∈ participants, p.address = address ∧ device.Fits p.devices
  | .deviceRemoved address device _ => ∃ p ∈ participants, p.address = address ∧ device ∈ p.devices
  | .deviceDataChanged address old device => ∃ p ∈ participants, p.address = address ∧ old ∈ p.devices ∧
    (device.address = old.address ∧ (device.callId ≠ "" ∨ old.callId = "") ∨
      device.callId = old.callId ∧ old.callId ≠ "") ∧
    device.Fits (p.devices.filter (· ≠ old))
  | .other => True

/-! ### The notifications -/

def ParticipantDevice.callInfo (device : ParticipantDevice) : Option String :=
  if device.callId = "" then none else some device.callId

def ParticipantDevice.endpoint (device : ParticipantDevice) (state : StateType) : EndpointType :=
  ⟨some device.address, state, device.callInfo⟩

def adminRole (isAdmin : Bool) : String := if isAdmin then "admin" else "participant"

def Participant.user (participant : Participant) : UserType where
  entity := participant.address
  state := .full
  roles := some [adminRole participant.isAdmin]
  endpoints := participant.devices.map (·.endpoint .full)

namespace Change

def users : Change → List UserType
  | participantAdded participant => [participant.user]
  | participantRemoved address => [⟨address, .deleted, none, []⟩]
  | participantSetAdmin address isAdmin => [⟨address, .partialState, some [adminRole isAdmin], []⟩]
  | deviceAdded address device => [⟨address, .partialState, none, [device.endpoint .full]⟩]
  | deviceRemoved address device described =>
    [⟨address, .partialState, none, [⟨some device.address, .deleted, if described then device.callInfo else none⟩]⟩]
  | deviceDataChanged address _ device => [⟨address, .partialState, none, [device.endpoint .partialState]⟩]
  | other => []

end Change

def partialNotify (entity : String) (change : Change) (version : ℕ) : ConferenceType :=
  ⟨entity, .partialState, some version, if change = .other then none else some change.users⟩

/-- The notification of a whole state. -/
def fullNotify (entity : String) (participants : List Participant) (version : ℕ) : ConferenceType :=
  ⟨entity, .full, some version, some (participants.map (·.user))⟩

/-! ### The states -/

/-- A server: the number of its first state and that state, and the changes since then. -/
structure Server where
  first : ℕ
  initial : List Participant
  changes : List Change

namespace Server

variable (server : Server)

def stateAt (version : ℕ) : List Participant :=
  (server.changes.take (version - server.first)).foldl Change.apply server.initial

def version : ℕ := server.first + server.changes.length

def Emitted (entity : String) (n : ConferenceType) : Prop :=
  (∃ i, ∃ change ∈ server.changes[i]?, n = partialNotify entity change (server.first + i + 1)) ∨
    ∃ v, server.first ≤ v ∧ v ≤ server.version ∧ n = fullNotify entity (server.stateAt v) v

end Server

end Conference
