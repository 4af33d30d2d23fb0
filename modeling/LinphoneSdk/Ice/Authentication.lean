import LinphoneSdk.Ice.Runs

/-!
# What changes the state of ICE

A request changes the state only when its integrity and its user name are accepted. Nothing of the kind is computed for
a response: it only has to answer a transaction of the check list, or a request to the server.
-/

namespace Ice

open Bytes Stun Option

/-! ### The state of ICE -/

/-- What packets may change of a check list: the candidates, the pairs with their states and nominations, the valid list
and the state. -/
structure CheckListView where
  local_candidates : List CandidateId
  remote_candidates : List CandidateId
  pairs : List PairId
  pair_state : PairId → IceCandidatePairState
  is_nominated : PairId → Bool
  nomination_pending : PairId → Bool
  valid_list : List (PairId × PairId × Bool)
  state : IceCheckListState

def IceCheckList.view (cl : IceCheckList) : CheckListView where
  local_candidates := cl.local_candidates
  remote_candidates := cl.remote_candidates
  pairs := cl.pairs
  pair_state p := (cl.pair p).state
  is_nominated p := (cl.pair p).is_nominated
  nomination_pending p := (cl.pair p).nomination_pending
  valid_list := cl.valid_list.map fun v => (cl.validOf v, cl.generatedFrom v, (cl.valid_pair v).selected)
  state := cl.state

structure Unchanged (a a' : Agent) : Prop where
  role : a'.session.role = a.session.role
  view : ∀ i, (a'.session.streams i).map IceCheckList.view = (a.session.streams i).map IceCheckList.view

namespace Unchanged

variable {a a' a'' : Agent} {i : StreamIndex}

lemma refl (a : Agent) : Unchanged a a := ⟨rfl, fun _ => rfl⟩

lemma trans (h : Unchanged a a') (h' : Unchanged a' a'') : Unchanged a a'' :=
  ⟨h'.role.trans h.role, fun i => (h'.view i).trans (h.view i)⟩

lemma of_session (h : a'.session = a.session) : Unchanged a a' :=
  ⟨congrArg IceSession.role h, fun i => congrArg (fun s => (IceSession.streams s i).map IceCheckList.view) h⟩

lemma isSome (h : Unchanged a a') (i : StreamIndex) : (a'.session.streams i).isSome = (a.session.streams i).isSome := by
  have hview := congrArg Option.isSome (h.view i)
  rwa [Option.isSome_map, Option.isSome_map] at hview

lemma modify {f : IceCheckList → IceCheckList} (hi : (a.session.streams i).isSome)
    (hf : ∀ cl, (f cl).view = cl.view) : Unchanged a (a.modify i f) := by
  refine ⟨rfl, fun j => ?_⟩
  by_cases hj : j = i
  · obtain ⟨cl, hcl⟩ := isSome_iff_exists.mp hi
    rw [hj, Agent.modify_streams, Agent.cl_of_streams hcl, hcl, map_some, map_some, hf]
  · rw [Agent.modify_streams_of_ne hj]

lemma tick (h : Unchanged a a') : Unchanged a a'.tick := ⟨h.role, h.view⟩

lemma draw (h : Unchanged a a') : Unchanged a a'.draw := ⟨h.role, h.view⟩

end Unchanged

namespace Agent

variable {P : Platform} {a : Agent} {i : StreamIndex} {evt_data : OrtpEventData} {msg : MSStunMessage}

/-! ### The server -/

lemma view_setTurnContext (cl : IceCheckList) (componentID : UInt16) (f : MSTurnContext → MSTurnContext) :
    (cl.setTurnContext componentID f).view = cl.view := by
  rw [IceCheckList.setTurnContext]
  split_ifs <;> rfl

section

variable (hi : (a.session.streams i).isSome)
include hi

lemma unchanged_scheduleRequest (stun_method componentID channel_number : UInt16)
    (peer_address : MSStunAddress) (ms : ℤ) :
    Unchanged a (a.scheduleRequest P i stun_method componentID channel_number peer_address ms) := by
  rw [scheduleRequest]
  apply (Unchanged.modify hi _).tick
  intro cl
  rfl

lemma unchanged_createPermission :
    Unchanged a (a.handleReceivedCreatePermissionSuccessResponse P i evt_data msg) := by
  rw [handleReceivedCreatePermissionSuccessResponse]
  split
  · have h : Unchanged a (a.modify i (removeStunServerRequest msg.tr_id)) := .modify hi fun _ => rfl
    exact h.trans (unchanged_scheduleRequest (by rw [h.isSome i, hi]) _ _ _ _ _)
  · exact .refl a

lemma unchanged_refresh : Unchanged a (a.handleReceivedTurnRefreshSuccessResponse P i evt_data msg) := by
  have h : Unchanged a (a.modify i (removeStunServerRequest msg.tr_id)) := .modify hi fun _ => rfl
  have hi' : ((a.modify i (removeStunServerRequest msg.tr_id)).session.streams i).isSome := by rw [h.isSome i, hi]
  rw [handleReceivedTurnRefreshSuccessResponse]
  split_ifs
  · exact h.trans (.modify hi' fun cl => view_setTurnContext cl _ _)
  · exact h.trans (unchanged_scheduleRequest hi' _ _ _ _ _)

lemma unchanged_channelBind : Unchanged a (a.handleReceivedTurnChannelBindSuccessResponse P i evt_data msg) := by
  rw [handleReceivedTurnChannelBindSuccessResponse]
  split
  · have h : Unchanged a (a.modify i fun cl => removeStunServerRequest msg.tr_id
        (cl.setTurnContext evt_data.socket_type.componentID fun turn => { turn with state := .channelBound })) := by
      refine .modify hi fun cl => ?_
      rw [← view_setTurnContext cl evt_data.socket_type.componentID fun turn => { turn with state := .channelBound }]
      rfl
    exact h.trans (unchanged_scheduleRequest (by rw [h.isSome i, hi]) _ _ _ _ _)
  · exact .refl a

lemma unchanged_stunServerError : Unchanged a (a.handleStunServerErrorResponse P i evt_data msg) := by
  rw [handleStunServerErrorResponse]
  split_ifs
  · apply (Unchanged.modify hi _).tick.draw
    intro cl
    rfl
  · exact .refl a

end

variable {remote_addr : MSStunAddress}

/-- A response that is not to a request to the server only ends the gathering. -/
lemma unchanged_allocate (hi : (a.session.streams i).isSome) (h : getStunServerRequest msg.tr_id (a.cl i) = none) :
    Unchanged a (a.handleReceivedTurnAllocateSuccessResponse P i evt_data msg remote_addr).1 := by
  rw [handleReceivedTurnAllocateSuccessResponse]
  split_ifs
  · simp only [h]
    split_ifs
    · exact .refl a
    · exact .modify hi fun _ => rfl
  · exact .refl a

/-! ### Requests -/

/-- A request is accepted: its integrity is that of the local password as far as `strcmp` compares them, and what is
before the colon of its user name begins the local fragment. -/
structure AcceptedRequest (P : Platform) (a : Agent) (packet : Bytes) (msg : MSStunMessage) : Prop where
  type : msg.type &&& 0x0110 = MS_STUN_TYPE_REQUEST
  integrity : ∃ hmac ∈ msg.message_integrity, sameHmac hmac (expectedIntegrity P packet msg.length a.session.local_pwd)
  username : ∃ username ∈ msg.username, 58 ∈ username.val ∧
    username.val.takeWhile (· ≠ 58) <+: a.session.local_ufrag.val

lemma integrity_of_checkIntegrity {packet : Bytes} (hcheck : a.session.check_message_integrity = true)
    (h : a.checkIntegrity P packet msg = .accepted) :
    ∃ hmac ∈ msg.message_integrity, sameHmac hmac (expectedIntegrity P packet msg.length a.session.local_pwd) := by
  rw [checkIntegrity] at h
  split_ifs at h with hany hdummy
  · simpa [any_eq_true] using hany
  · simp [hcheck] at hdummy

lemma username_of_checkUsername (h : a.checkUsername msg = .accepted) :
    ∃ username ∈ msg.username, 58 ∈ username.val ∧ username.val.takeWhile (· ≠ 58) <+: a.session.local_ufrag.val := by
  rw [checkUsername] at h
  split_ifs at h with hany
  obtain ⟨username, hmem, hname⟩ := (any_eq_true _ _).mp hany
  exact ⟨username, hmem, of_decide_eq_true hname⟩

lemma acceptedRequest_of_checkRequest {packet : Bytes} (hcheck : a.session.check_message_integrity = true)
    (htype : msg.type &&& 0x0110 = MS_STUN_TYPE_REQUEST) (h : a.checkRequest P packet msg = .accepted) :
    AcceptedRequest P a packet msg := by
  rw [checkRequest] at h
  split at h
  · cases h
  · split at h
    · cases h
    next hintegrity =>
      split at h
      · cases h
      next husername =>
        exact ⟨htype, integrity_of_checkIntegrity hcheck hintegrity, username_of_checkUsername husername⟩

lemma handleReceivedBindingRequest_cases (hcheck : a.session.check_message_integrity = true)
    (htype : msg.type &&& 0x0110 = MS_STUN_TYPE_REQUEST) (remote_addr : MSStunAddress) :
    Unchanged a (a.handleReceivedBindingRequest P i evt_data msg remote_addr) ∨
      AcceptedRequest P a evt_data.packet.bytes msg := by
  rw [handleReceivedBindingRequest]
  split
  · exact .inl (.of_session rfl)
  next h => exact .inr (acceptedRequest_of_checkRequest hcheck htype h)

/-! ### Responses -/

/-- A response answers a transaction of the check list, or a request to the server. -/
structure KnownResponse (a : Agent) (i : StreamIndex) (msg : MSStunMessage) : Prop where
  type : msg.type &&& 0x0110 = MS_STUN_TYPE_SUCCESS_RESPONSE ∨ msg.type &&& 0x0110 = MS_STUN_TYPE_ERROR_RESPONSE
  known : (∃ transaction ∈ (a.cl i).transaction_list, transaction.transactionID = msg.tr_id) ∨
    ∃ request ∈ (a.cl i).stun_server_requests, msg.tr_id ∈ request.transactions

lemma exists_of_findTransactionFromId {cl : IceCheckList} {tr_id : Buf 12} {transaction : IceTransaction}
    (h : cl.findTransactionFromId tr_id = some transaction) :
    ∃ transaction ∈ cl.transaction_list, transaction.transactionID = tr_id :=
  ⟨transaction, List.mem_of_find?_eq_some h, by simpa using List.find?_some h⟩

lemma exists_of_getStunServerRequest {cl : IceCheckList} {tr_id : Buf 12} {request : IceStunServerRequest}
    (h : getStunServerRequest tr_id cl = some request) :
    ∃ request ∈ cl.stun_server_requests, tr_id ∈ request.transactions :=
  ⟨request, List.mem_of_find?_eq_some h, by simpa [hasTransaction] using List.find?_some h⟩

/-- The response of the server changes nothing, or answers one of the requests. -/
lemma allocate_cases (hi : (a.session.streams i).isSome) (remote_addr : MSStunAddress) :
    Unchanged a (a.handleReceivedTurnAllocateSuccessResponse P i evt_data msg remote_addr).1 ∨
      ∃ request ∈ (a.cl i).stun_server_requests, msg.tr_id ∈ request.transactions := by
  cases h : getStunServerRequest msg.tr_id (a.cl i) with
  | none => exact .inl (unchanged_allocate hi h)
  | some request => exact .inr (exists_of_getStunServerRequest h)

/-- Ending the gathering keeps the transactions. -/
lemma transaction_list_allocate (h : getStunServerRequest msg.tr_id (a.cl i) = none) :
    ((a.handleReceivedTurnAllocateSuccessResponse P i evt_data msg remote_addr).1.cl i).transaction_list =
      (a.cl i).transaction_list := by
  rw [handleReceivedTurnAllocateSuccessResponse]
  split_ifs
  · simp only [h]
    split_ifs
    · rfl
    · rw [modify_cl]
      rfl
  · rfl

lemma handleCheckResponse_cases {a' : Agent} (h : a.handleCheckResponse P i evt_data msg remote_addr = some a') :
    a' = a ∨ ∃ transaction ∈ (a.cl i).transaction_list, transaction.transactionID = msg.tr_id := by
  rw [handleCheckResponse] at h
  split at h
  · exact .inl (some_inj.mp h).symm
  next hfind => exact .inr (exists_of_findTransactionFromId hfind)

lemma handleReceivedBindingResponse_cases {a' : Agent} (hi : (a.session.streams i).isSome)
    (h : a.handleReceivedBindingResponse P i evt_data msg remote_addr = some a') :
    Unchanged a a' ∨ (∃ transaction ∈ (a.cl i).transaction_list, transaction.transactionID = msg.tr_id) ∨
      ∃ request ∈ (a.cl i).stun_server_requests, msg.tr_id ∈ request.transactions := by
  rw [handleReceivedBindingResponse] at h
  split_ifs at h
  · cases hrequest : getStunServerRequest msg.tr_id (a.cl i) with
    | some request => exact .inr (.inr (exists_of_getStunServerRequest hrequest))
    | none =>
      have hunchanged := @unchanged_allocate P a i evt_data msg remote_addr hi hrequest
      have hlist := @transaction_list_allocate P a i evt_data msg remote_addr hrequest
      generalize a.handleReceivedTurnAllocateSuccessResponse P i evt_data msg remote_addr = r at h hunchanged hlist
      obtain ⟨a₁, known⟩ := r
      cases known with
      | true =>
        rw [← some_inj.mp h]
        exact .inl hunchanged
      | false =>
        rcases handleCheckResponse_cases h with rfl | hknown
        · exact .inl hunchanged
        · rw [hlist] at hknown
          exact .inr (.inl hknown)
  · rcases handleCheckResponse_cases h with rfl | hknown
    · exact .inl (.refl _)
    · exact .inr (.inl hknown)

lemma handleReceivedErrorResponse_cases (hi : (a.session.streams i).isSome) :
    Unchanged a (a.handleReceivedErrorResponse P i evt_data msg) ∨
      ∃ transaction ∈ (a.cl i).transaction_list, transaction.transactionID = msg.tr_id := by
  rw [handleReceivedErrorResponse]
  split_ifs
  · exact .inl (unchanged_stunServerError hi)
  · split
    · exact .inl (.refl a)
    next hfind => exact .inr (exists_of_findTransactionFromId hfind)

/-- What a success response changes, by its method. -/
lemma successResponse_cases {a' : Agent} (hi : (a.session.streams i).isSome)
    (htype : msg.type &&& 0x0110 = MS_STUN_TYPE_SUCCESS_RESPONSE) (h : a.handleMessage P i evt_data msg = some a') :
    Unchanged a a' ∨ KnownResponse a i msg := by
  have hne : MS_STUN_TYPE_SUCCESS_RESPONSE ≠ MS_STUN_TYPE_REQUEST := by decide
  simp only [handleMessage, htype, if_neg hne, if_true] at h
  split_ifs at h
  · rcases handleReceivedBindingResponse_cases hi h with hunchanged | hknown
    · exact .inl hunchanged
    · exact .inr ⟨.inl htype, hknown⟩
  · rw [← some_inj.mp h]
    rcases @allocate_cases P a i evt_data msg hi evt_data.source_addr with hunchanged | hknown
    · exact .inl hunchanged
    · exact .inr ⟨.inl htype, .inr hknown⟩
  · rw [← some_inj.mp h]
    exact .inl (unchanged_createPermission hi)
  · rw [← some_inj.mp h]
    exact .inl (unchanged_refresh hi)
  · rw [← some_inj.mp h]
    exact .inl (unchanged_channelBind hi)
  · rw [← some_inj.mp h]
    exact .inl (.refl a)

lemma handleMessage_cases {a' : Agent} (hi : (a.session.streams i).isSome)
    (hcheck : a.session.check_message_integrity = true) (h : a.handleMessage P i evt_data msg = some a') :
    Unchanged a a' ∨ AcceptedRequest P a evt_data.packet.bytes msg ∨ KnownResponse a i msg := by
  by_cases hrequest : msg.type &&& 0x0110 = MS_STUN_TYPE_REQUEST
  · rw [handleMessage, if_pos hrequest] at h
    rw [← some_inj.mp h]
    exact (handleReceivedBindingRequest_cases hcheck hrequest _).imp_right .inl
  · by_cases hsuccess : msg.type &&& 0x0110 = MS_STUN_TYPE_SUCCESS_RESPONSE
    · exact (successResponse_cases hi hsuccess h).imp_right .inr
    · rw [handleMessage, if_neg hrequest, if_neg hsuccess] at h
      split_ifs at h with herror
      · rw [← some_inj.mp h]
        exact (handleReceivedErrorResponse_cases hi).imp_right fun hknown => .inr ⟨.inr herror, .inl hknown⟩
      · rw [← some_inj.mp h]
        exact .inl (.refl a)

/-- A packet changes the role or a check list only if it is a request that is accepted, or a response to a transaction
of the check list or to a request to the server. -/
theorem accepted_or_known_of_changed {P : Platform} {a a' : Agent} {i : StreamIndex} {evt_data : OrtpEventData}
    (hi : (a.session.streams i).isSome) (hcheck : a.session.check_message_integrity = true)
    (h : a.handleStunPacket P i evt_data = some a') (hchanged : ¬ Unchanged a a') :
    ∃ msg d, createFromBufferParsing evt_data.packet = .ok msg d ∧
      (AcceptedRequest P a evt_data.packet.bytes msg ∨ KnownResponse a i msg) := by
  rw [handleStunPacket] at h
  split at h
  next msg d hparse =>
    rcases handleMessage_cases hi hcheck h with hunchanged | hcases
    · exact absurd hunchanged hchanged
    · exact ⟨msg, d, hparse, hcases⟩
  next => cases h
  next =>
    rw [← some_inj.mp h] at hchanged
    exact absurd (Unchanged.refl a) hchanged

end Agent

/-! ### A response without integrity -/

/-- The message verifies under the password of its direction, and a request is for the local fragment. -/
def Authenticated (P : Platform) (a : Agent) (i : StreamIndex) (packet : Bytes) (msg : MSStunMessage) : Prop :=
  if msg.type &&& 0x0110 = MS_STUN_TYPE_REQUEST then
    msg.message_integrity = some (Agent.expectedIntegrity P packet msg.length a.session.local_pwd) ∧
      ∃ username ∈ msg.username, 58 ∈ username.val ∧ username.val.takeWhile (· ≠ 58) = a.session.local_ufrag.val
  else
    ∃ pwd ∈ a.session.remotePwd (a.cl i), msg.message_integrity = some (Agent.expectedIntegrity P packet msg.length pwd)

/-- A packet with a role conflict for the first check, and nothing else. -/
def bareRoleConflict : OrtpEventData where
  packet := ⟨[0x01, 0x11, 0, 8, 0x21, 0x12, 0xA4, 0x42, 1, 0, 0, 0, 0, 0, 0, 0, 0, 0, 0, 0, 0, 9, 0, 4, 0, 0, 4, 87],
    fun _ => 0⟩
  socket_type := .rtp
  source_addr := .v4 2000 2
  recv_addr := .v4 1000 1

/-- The state after the check was sent. -/
def checking : Agent := (runOf plainPlatform (.new plainPlatform) checkOperations).getD (.new plainPlatform)

def afterRoleConflict : Agent := (checking.handleStunPacket plainPlatform 0 bareRoleConflict).getD checking

lemma handleStunPacket_bareRoleConflict :
    checking.handleStunPacket plainPlatform 0 bareRoleConflict = some afterRoleConflict := by
  have h : (checking.handleStunPacket plainPlatform 0 bareRoleConflict).isSome := by decide
  obtain ⟨a, ha⟩ := isSome_iff_exists.mp h
  rw [afterRoleConflict, ha, getD_some]

lemma changed_bareRoleConflict : ¬ Unchanged checking afterRoleConflict := by
  intro h
  exact absurd h.role (by decide)

def messageOf (evt_data : OrtpEventData) : Option MSStunMessage :=
  match createFromBufferParsing evt_data.packet with
  | .ok msg _ => some msg
  | .error _ _ => none

lemma messageOf_eq_some {evt_data : OrtpEventData} {msg : MSStunMessage} {d : StunMessageDecoder}
    (h : createFromBufferParsing evt_data.packet = .ok msg d) : messageOf evt_data = some msg := by
  rw [messageOf, h]

/-- A response that nothing authenticates changes the role. -/
theorem not_authenticated_of_changed : ¬ ∀ (P : Platform) (a a' : Agent) (i : StreamIndex) (evt_data : OrtpEventData),
    (a.session.streams i).isSome → a.session.check_message_integrity = true →
      a.handleStunPacket P i evt_data = some a' → ¬ Unchanged a a' →
        ∃ msg d, createFromBufferParsing evt_data.packet = .ok msg d ∧
          Authenticated P a i evt_data.packet.bytes msg := by
  intro h
  obtain ⟨msg, d, hparse, hauthenticated⟩ := h plainPlatform checking afterRoleConflict 0 bareRoleConflict (by decide)
    (by decide) handleStunPacket_bareRoleConflict changed_bareRoleConflict
  have hbare : ∀ msg ∈ messageOf bareRoleConflict,
      msg.type &&& 0x0110 ≠ MS_STUN_TYPE_REQUEST ∧ msg.message_integrity = none := by decide
  obtain ⟨htype, hintegrity⟩ := hbare msg (messageOf_eq_some hparse)
  rw [Authenticated, if_neg htype, hintegrity] at hauthenticated
  obtain ⟨pwd, -, hsome⟩ := hauthenticated
  cases hsome

/-- The role conflict answers the transaction of the check. -/
theorem accepted_or_known_of_bareRoleConflict : ∃ msg d, createFromBufferParsing bareRoleConflict.packet = .ok msg d ∧
      (Agent.AcceptedRequest plainPlatform checking bareRoleConflict.packet.bytes msg ∨
        Agent.KnownResponse checking 0 msg) :=
  Agent.accepted_or_known_of_changed (by decide) (by decide) handleStunPacket_bareRoleConflict changed_bareRoleConflict

end Ice
