import Mathlib.Logic.Function.Basic
import Mathlib.Data.List.Basic

/-!
# SIP transactions

What client and server transactions share: their state, their timers, their channel, and how they end. A transaction
calls its listeners, its dialog and its channel, and any of them may act on it again before it returns. Such a call is
an application of `cb`, which says what happened to the transaction meanwhile.
-/

namespace BelleSip

inductive TransactionState where
  | init
  | trying
  | calling
  | completed
  | confirmed
  | accepted
  | proceeding
  | terminated
  deriving DecidableEq

def TransactionState.is_transient : TransactionState → Bool
  | init | trying | calling | proceeding => true
  | _ => false

/-- The INVITE and non-INVITE transactions of clients and servers. -/
inductive TransactionKind where
  | ict
  | nict (register : Bool)
  | ist
  | nist
  deriving DecidableEq

/-- The timers of the four kinds, by their letter in the source, and `call_repair_timer`. -/
inductive Timer where
  | A
  | B
  | D
  | M
  | E
  | F
  | K
  | G
  | H
  | I
  | L
  | J
  | callRepair
  deriving DecidableEq

structure BelleSipChannel where
  id : ℕ
  is_reliable : Bool
  deriving DecidableEq

inductive ChannelState where
  | init
  | ready
  | disconnected
  | error
  | retry
  | other
  deriving DecidableEq

structure Response where
  id : ℕ
  status_code : ℕ
  deriving DecidableEq

/-- The request of the transaction, the ACK made from a response, or a response. -/
inductive Queued where
  | request
  | ack (of : Response)
  | response (resp : Response)
  deriving DecidableEq

/-- Where a transaction calls code that may act on it. -/
inductive Callback where
  | process_io_error
  | process_timeout
  | process_transaction_terminated
  | process_response_event (resp : Response)
  | process_request_event
  | belle_sip_dialog_update
  | belle_sip_dialog_check_ack_sent
  | belle_sip_channel_prepare
  | belle_sip_channel_queue_message
  | belle_sip_channel_notify_server_error
  | belle_sip_channel_notify_timeout

structure Transaction where
  kind : TransactionKind
  state : TransactionState
  channel : Option BelleSipChannel
  last_response : Option Response
  timed_out : Bool
  /-- The timers that are armed. A timer that is started while it is armed stays so: that the object of the first one is
  lost, as in a second call to send the request, cannot be seen here. -/
  timers : Timer → Bool
  /-- The response that the ACK of an INVITE client transaction was made from. -/
  ack : Option Response
  /-- The provider dispatches messages to the transaction. -/
  registered : Bool
  /-- The messages queued on channels. -/
  queued : List (BelleSipChannel × Queued)
  /-- The responses that a client transaction notified to its listeners. -/
  notified : List Response
  /-- The responses that a server transaction recorded in `last_response`. -/
  recorded : List Response
  /-- A channel, or a message, was used that is absent. -/
  nullUsed : Bool
  /-- The transaction went to another state once it was terminated. -/
  resumed : Bool

namespace Transaction

variable (cb : Callback → Transaction → Transaction) (t : Transaction)

def new (kind : TransactionKind) (state : TransactionState) : Transaction where
  kind := kind
  state := state
  channel := none
  last_response := none
  timed_out := false
  timers := fun _ => false
  ack := none
  registered := false
  queued := []
  notified := []
  recorded := []
  nullUsed := false
  resumed := false

/-- `belle_sip_transaction_set_state` -/
def set_state (state : TransactionState) : Transaction :=
  { t with state := state, resumed := t.resumed || (t.state = .terminated ∧ state ≠ .terminated) }

def start_timer (timer : Timer) : Transaction := { t with timers := Function.update t.timers timer true }

def stop_timer (timer : Timer) : Transaction := { t with timers := Function.update t.timers timer false }

def use_channel : Transaction := { t with nullUsed := t.nullUsed || t.channel.isNone }

def is_reliable : Bool := t.channel.any (·.is_reliable)

def TransactionKind.timers : TransactionKind → List Timer
  | .ict => [.A, .B, .D, .M]
  | .nict _ => [.F, .E, .K]
  | .ist => [.G, .H, .I, .L]
  | .nist => [.J]

/-- `on_ict_terminate`, `nict_on_terminate`, `ist_on_terminate` and `nist_on_terminate` -/
def on_terminate : Transaction :=
  { t with
    timers := fun timer => if timer ∈ TransactionKind.timers t.kind then false else t.timers timer
    ack := if t.kind = .ict then none else t.ack }

/-- `belle_sip_channel_queue_message` on the channel of the transaction. A channel that is not ready yet may go to
another state before it returns. -/
def queue_message (msg : Queued) : Transaction :=
  match t.channel with
  | none => { t with nullUsed := true }
  | some channel => cb .belle_sip_channel_queue_message { t with queued := t.queued ++ [(channel, msg)] }

variable {cb t} in
lemma queue_message_of_some {channel : BelleSipChannel} (h : t.channel = some channel) (msg : Queued) :
    t.queue_message cb msg = cb .belle_sip_channel_queue_message { t with queued := t.queued ++ [(channel, msg)] } := by
  unfold queue_message
  split <;> simp_all

def set_transaction_terminated : Transaction :=
  { cb .process_transaction_terminated t.on_terminate with registered := false }

def terminate : Transaction :=
  let t := t.stop_timer .callRepair
  if t.state ≠ .terminated then
    let t := t.set_state .terminated
    let t := if t.last_response.all (·.status_code < 200) then cb .belle_sip_dialog_update t else t
    set_transaction_terminated cb t.on_terminate
  else t

def handle_channel_error : Transaction :=
  let t :=
    if t.state ≠ .completed ∧ t.state ≠ .confirmed ∧ t.state ≠ .accepted ∧ t.state ≠ .terminated then
      cb .process_io_error t
    else t
  let t :=
    if t.timed_out then cb .process_timeout t
    else if t.kind = .ist ∨ t.kind = .ict then t.stop_timer .callRepair
    else t
  let t :=
    if !t.timed_out ∧ t.state.is_transient ∧ t.kind = .ist then t.start_timer .callRepair
    else if !t.timed_out ∧ t.state.is_transient ∧ t.kind = .ict then t.start_timer .callRepair
    else t.terminate cb
  { t with channel := none }

variable {cb} in
/-- What the callbacks and the ways to lose the channel keep, the error of a channel keeps. -/
lemma handle_channel_error_of {R : Transaction → Transaction → Prop} (hrefl : ∀ x, R x x)
    (htrans : ∀ {x y z}, R x y → R y z → R x z) (hcb : ∀ c x, R x (cb c x))
    (hstop : ∀ x, R x (x.stop_timer .callRepair))
    (hrepair : ∀ x : Transaction, x.kind = .ict ∨ x.kind = .ist → x.state.is_transient →
      R x { x.start_timer .callRepair with channel := none })
    (hend : ∀ x, R x { x.terminate cb with channel := none }) : R t (t.handle_channel_error cb) := by
  have hio : R t (if t.state ≠ .completed ∧ t.state ≠ .confirmed ∧ t.state ≠ .accepted ∧ t.state ≠ .terminated then
      cb .process_io_error t else t) := by
    split_ifs
    · exact hcb _ _
    · exact hrefl _
  simp only [handle_channel_error]
  generalize (if t.state ≠ .completed ∧ t.state ≠ .confirmed ∧ t.state ≠ .accepted ∧ t.state ≠ .terminated then
      cb .process_io_error t else t) = u at hio ⊢
  have htimeout : R u (if u.timed_out then cb .process_timeout u
      else if u.kind = .ist ∨ u.kind = .ict then u.stop_timer .callRepair else u) := by
    split_ifs
    · exact hcb _ _
    · exact hstop _
    · exact hrefl _
  generalize (if u.timed_out then cb .process_timeout u
      else if u.kind = .ist ∨ u.kind = .ict then u.stop_timer .callRepair else u) = v at htimeout ⊢
  refine htrans (htrans hio htimeout) ?_
  split_ifs with hist hict
  · exact hrepair v (.inr hist.2.2) hist.2.1
  · exact hrepair v (.inl hict.2.2) hict.2.1
  · exact hend v

end Transaction

end BelleSip
