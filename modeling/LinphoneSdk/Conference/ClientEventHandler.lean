import LinphoneSdk.Lib.FirstMatch

/-!
# The conference event handler of a client

How a client follows the participants of a conference and their devices through the notifications of the conference
event package: the version of a notification is compared with the last one, the users and their endpoints are applied
one after the other, and a full state is requested when they do not fit.
-/

namespace Conference

open FirstMatch

/-! ### The notifications -/

inductive StateType where
  | full
  | partialState
  | deleted
  deriving DecidableEq

structure EndpointType where
  entity : Option String
  state : StateType
  callId : Option String
  deriving DecidableEq

structure UserType where
  entity : String
  state : StateType
  /-- The entries of the roles. -/
  roles : Option (List String)
  endpoints : List EndpointType
  deriving DecidableEq

structure ConferenceType where
  entity : String
  state : StateType
  version : Option ℕ
  users : Option (List UserType)
  deriving DecidableEq

/-! ### The participants -/

structure ParticipantDevice where
  address : String
  callId : String
  deriving DecidableEq

structure Participant where
  address : String
  isAdmin : Bool
  devices : List ParticipantDevice
  deriving DecidableEq

namespace Participant

variable (participant : Participant) (gruu : String)

def create (address : String) : Participant := ⟨address, false, []⟩

def findDevice : Bool := participant.devices.any (·.address = gruu)

def findDeviceByCallId (callId : String) : Bool := participant.devices.any (·.callId = callId)

/-- `addDevice`, then the call id of the device if the endpoint has one. -/
def addDevice (callId : Option String) : Participant :=
  let devices := if participant.findDevice gruu then participant.devices else participant.devices ++ [⟨gruu, ""⟩]
  { participant with
    devices := updateFirst (·.address = gruu) (fun device => { device with callId := callId.getD device.callId }) devices }

def removeDevice : Participant :=
  { participant with devices := participant.devices.filter (·.address ≠ gruu) }

def setAddressByCallId (callId : String) : Participant :=
  { participant with
    devices := updateFirst (·.callId = callId) (fun device => { device with address := gruu }) participant.devices }

def setCallId (callId : Option String) : Participant :=
  { participant with
    devices := updateFirst (·.address = gruu) (fun device => { device with callId := callId.getD device.callId })
      participant.devices }

end Participant

/-! ### The handler -/

/-- The handler with its conference. The calls of the core are known by their call ids, and `subscribes n` says whether
the subscription number `n` is sent. -/
structure ClientConferenceEventHandler where
  conferenceAddress : String
  calls : String → Bool
  subscribes : ℕ → Bool
  subscriptions : ℕ
  me : Participant
  participants : List Participant
  lastNotify : ℕ
  fullStateRequested : Bool
  waitingFullState : Bool

namespace ClientConferenceEventHandler

variable (h : ClientConferenceEventHandler)

/-- `subscribe`, for a conference that is not managed by the list event handler. -/
def subscribe : ClientConferenceEventHandler :=
  { h with
    subscriptions := h.subscriptions + 1
    waitingFullState := if h.subscribes h.subscriptions then h.lastNotify = 0 else h.waitingFullState }

/-- `resetLastNotify` comes before the new subscription. -/
def requestFullState : ClientConferenceEventHandler :=
  { { h with lastNotify := 0 }.subscribe with fullStateRequested := true }

/-- The client itself, or a participant of the conference. -/
def findParticipant (isMe : Bool) (address : String) : Option Participant :=
  if isMe then some h.me else h.participants.find? (·.address = address)

/-- A change of the participant that `findParticipant` finds. -/
def updateParticipant (isMe : Bool) (address : String) (f : Participant → Participant) : ClientConferenceEventHandler :=
  if isMe then { h with me := f h.me }
  else { h with participants := updateFirst (·.address = address) f h.participants }

def fillParticipantAttributes (isMe : Bool) (address : String) (roles : Option (List String)) :
    ClientConferenceEventHandler :=
  match roles with
  | none => h
  | some entry =>
    h.updateParticipant isMe address fun participant => { participant with isAdmin := entry.contains "admin" }

def endpointChange (participant : Participant) (gruu : String) (endpoint : EndpointType) :
    Option (Participant → Participant) :=
  match endpoint.state with
  | .full => some fun participant => participant.addDevice gruu endpoint.callId
  | .partialState =>
    match endpoint.callId with
    | none => if participant.findDevice gruu then some fun participant => participant.setCallId gruu none else none
    | some callId =>
      if participant.findDeviceByCallId callId then some fun participant => participant.setAddressByCallId gruu callId
      else if participant.findDevice gruu then some fun participant => participant.setCallId gruu (some callId)
      else none
  | .deleted =>
    match endpoint.callId with
    | none => some fun participant => participant.removeDevice gruu
    | some callId => some fun participant => (participant.setAddressByCallId gruu callId).removeDevice gruu

def endpointReceived (isMe : Bool) (address : String) (h : ClientConferenceEventHandler) (endpoint : EndpointType) :
    ClientConferenceEventHandler :=
  match endpoint.entity, h.findParticipant isMe address with
  | some gruu, some participant =>
    match endpointChange participant gruu endpoint with
    | some change => h.updateParticipant isMe address change
    | none => h.requestFullState
  | _, _ => h

/-- The user is the client itself: by its address, or by a call of one of its endpoints. -/
def isMe (user : UserType) : Bool :=
  user.entity = h.me.address || user.endpoints.any fun endpoint => endpoint.callId.any h.calls

/-- The attributes and the endpoints of a user, once it was added if it had to be. -/
def userDetails (isMe : Bool) (user : UserType) : ClientConferenceEventHandler :=
  match h.findParticipant isMe user.entity with
  | none => h.requestFullState
  | some _ =>
    user.endpoints.foldl (endpointReceived isMe user.entity) (h.fillParticipantAttributes isMe user.entity user.roles)

/-- One turn of the loop over the users. A user that is deleted but not there is logged through a null pointer: that has
no result. -/
def userReceived (h : ClientConferenceEventHandler) (user : UserType) : Option ClientConferenceEventHandler :=
  let isMe := h.isMe user
  match user.state, h.findParticipant isMe user.entity with
  | .deleted, some _ =>
    if isMe then some h
    else some { h with participants := h.participants.eraseP (·.address = user.entity) }
  | .deleted, none => none
  | .full, some _ =>
    if isMe then some ({ h with me := { h.me with address := user.entity } }.userDetails isMe user)
    else some (h.userDetails isMe user)
  | .full, none =>
    some ({ h with participants := h.participants ++ [Participant.create user.entity] }.userDetails isMe user)
  | .partialState, _ => some (h.userDetails isMe user)

def clearParticipants : ClientConferenceEventHandler :=
  { h with me := { h.me with devices := [] }, participants := [] }

def conferenceInfoNotifyReceived (confInfo : ConferenceType) : Option ClientConferenceEventHandler :=
  let isFullState : Bool := confInfo.state = .full
  if h.waitingFullState && !isFullState then some h
  else
    let h := { h with waitingFullState := false }
    if confInfo.entity ≠ h.conferenceAddress then some h
    else
      let currentNotifyVersion := h.lastNotify
      let h := if isFullState && h.fullStateRequested then { h with fullStateRequested := false } else h
      if !isFullState && confInfo.version.any (· ≤ currentNotifyVersion) then some h.requestFullState
      else
        let h := { h with lastNotify := confInfo.version.getD h.lastNotify }
        let h := if isFullState then h.clearParticipants else h
        match confInfo.users with
        | none => some h
        | some users => users.foldlM userReceived h

end ClientConferenceEventHandler

end Conference
