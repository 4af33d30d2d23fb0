import LinphoneSdk.BelleSip.Transaction

/-!
# SIP server transactions

The INVITE and the non-INVITE server transactions. A channel to return the responses on can always be obtained. The
application may submit responses, terminate a transaction or close its channel from inside any call that it makes as
well as from outside.
-/

namespace BelleSip

namespace Transaction

variable (cb : Callback → Transaction → Transaction) (t : Transaction) (obtained : BelleSipChannel)

def check_channel : Transaction := { t with channel := t.channel <|> some obtained }

def queue_response (resp : Option Response) : Transaction :=
  match resp with
  | none => { t with nullUsed := true }
  | some resp => (t.check_channel obtained).queue_message cb (.response resp)

/-! ### The INVITE server transaction -/

def ist_send_new_response (resp : Response) : Transaction × Bool :=
  match t.state with
  | .proceeding =>
    let t := t.queue_response cb obtained (some resp)
    if 200 ≤ resp.status_code ∧ resp.status_code < 300 then ((t.set_state .accepted).start_timer .L, true)
    else if 300 ≤ resp.status_code then
      let t := (t.set_state .completed).use_channel
      let t := if !t.is_reliable then t.start_timer .G else t
      (t.start_timer .H, true)
    else (t, true)
  | .accepted => (t, 200 ≤ resp.status_code ∧ resp.status_code < 300)
  | _ => (t, false)

def ist_on_request_retransmission : Transaction :=
  match t.state with
  | .proceeding => t.queue_response cb obtained t.last_response
  | .completed => t.queue_response cb obtained t.last_response
  | _ => t

/-- `belle_sip_ist_process_ack`, and the ACK of a 2xx response that is notified. -/
def ist_process_ack : Transaction :=
  match t.state with
  | .completed =>
    let t := ((t.stop_timer .G).set_state .confirmed).use_channel
    if !t.is_reliable then t.start_timer .I else t.terminate cb
  | .accepted => cb .process_request_event t
  | _ => t

/-! ### The non-INVITE server transaction -/

def nist_set_completed : Transaction :=
  (t.use_channel.start_timer .J).set_state .completed

def nist_send_new_response (resp : Response) : Transaction × Bool :=
  let proceeding :=
    let t := if 200 ≤ resp.status_code then t.nist_set_completed else t
    (t.queue_response cb obtained (some resp), true)
  match t.state with
  | .trying =>
    if resp.status_code < 200 then ((t.set_state .proceeding).queue_response cb obtained (some resp), true)
    else proceeding
  | .proceeding => proceeding
  | .completed => (t, false)
  | _ => (t, true)

/-- The channel is not obtained again here. -/
def nist_on_request_retransmission : Transaction :=
  let answer :=
    if t.channel.isSome then
      match t.last_response with
      | none => { t with nullUsed := true }
      | some resp => t.queue_message cb (.response resp)
    else t
  match t.state with
  | .proceeding => answer
  | .completed => answer
  | _ => t

/-! ### The events -/

def send_new_response (resp : Response) : Transaction × Bool :=
  match t.kind with
  | .ist => t.ist_send_new_response cb obtained resp
  | .nist => t.nist_send_new_response cb obtained resp
  | _ => (t, false)

def record_response (resp : Response) : Transaction :=
  { t with last_response := some resp, recorded := t.recorded ++ [resp] }

def send_response (resp : Response) : Transaction :=
  let (t, sent) := (t.check_channel obtained).send_new_response cb obtained resp
  let t := if sent then t.record_response resp else t
  cb .belle_sip_dialog_update t

def on_request_retransmission : Transaction :=
  match t.kind with
  | .ist => t.ist_on_request_retransmission cb obtained
  | .nist => t.nist_on_request_retransmission cb
  | _ => t

def process_ack : Transaction :=
  if t.kind = .ist then t.ist_process_ack cb else t

/-- The timers of server transactions, from `ist_on_timer_G` to `server_transaction_on_call_repair_timer`, which submits
`unavailable`. -/
def server_on_timer (unavailable : Response) : Timer → Transaction
  | .G => if t.state = .completed then t.queue_response cb obtained t.last_response else t.stop_timer .G
  | .H => if t.state = .completed then (t.stop_timer .H).terminate cb else t.stop_timer .H
  | .I => (t.stop_timer .I).terminate cb
  | .L => (t.stop_timer .L).terminate cb
  | .J => (t.stop_timer .J).terminate cb
  | .callRepair => (t.stop_timer .callRepair).send_response cb obtained unavailable
  | _ => t

def server_on_channel_state_changed (state : ChannelState) : Transaction :=
  match state with
  | .disconnected => t.handle_channel_error cb
  | .error => t.handle_channel_error cb
  | .retry => if t.state ≠ .init then t.handle_channel_error cb else t
  | _ => t

end Transaction

/-- What may happen to a server transaction inside the calls that it makes: the actions of the application, which closes
the channel by disconnecting it, and the changes of the state of its channel. -/
inductive ServerAction where
  | send_response (resp : Response) (obtained : BelleSipChannel)
  | terminate
  | channel (state : ChannelState)

inductive ServerEvent where
  | request (obtained : BelleSipChannel)
  | ack
  | cancel
  | timer (timer : Timer) (unavailable : Response) (obtained : BelleSipChannel)
  | action (action : ServerAction)

namespace Transaction

variable (cb : Callback → Transaction → Transaction) (t : Transaction)

def serve : ServerAction → Transaction
  | .send_response resp obtained => t.send_response cb obtained resp
  | .terminate => t.terminate cb
  | .channel state => if t.channel.isSome then t.server_on_channel_state_changed cb state else t

/-- `belle_sip_server_transaction_on_request`, the timers and the actions. -/
def serverStep : ServerEvent → Transaction
  | .request obtained => t.on_request_retransmission cb obtained
  | .ack => t.process_ack cb
  | .cancel => cb .process_request_event t
  | .timer τ unavailable obtained => t.server_on_timer cb obtained unavailable τ
  | .action action => t.serve cb action

/-- `belle_sip_provider_create_server_transaction`: an INVITE is answered by `trying` at once. -/
def newServer (kind : TransactionKind) (obtained : BelleSipChannel) (trying : Response) : Transaction :=
  if kind = .ist then { new .ist .proceeding with registered := true }.send_response cb obtained trying
  else { new kind .trying with registered := true }

end Transaction

/-- Requests reach a transaction that the provider still has, and a timer fires when it is armed. -/
def ServerEvent.Enabled (t : Transaction) : ServerEvent → Prop
  | .request _ => t.registered
  | .ack => t.registered
  | .cancel => t.registered
  | .timer τ unavailable _ => t.timers τ ∧ unavailable.status_code = 503
  | .action _ => True

/-- What actions that meet a condition, and the calls that they make in turn, make of a transaction. -/
inductive Serves (meets : (Callback → Transaction → Transaction) → Transaction → ServerAction → Prop) :
    Transaction → Transaction → Prop where
  | done (t : Transaction) : Serves meets t t
  | act {t t' : Transaction} (action : ServerAction) (cb : Callback → Transaction → Transaction)
      (hcb : ∀ c x, Serves meets x (cb c x)) (hmeets : meets cb t action) (h : Serves meets (t.serve cb action) t') :
      Serves meets t t'

def ServerEvent.submits (e : ServerEvent) : List ServerAction :=
  match e with
  | .timer .callRepair unavailable obtained => [.send_response unavailable obtained]
  | .action a => [a]
  | _ => []

/-- The states that a server transaction reaches when every action meets a condition. -/
inductive ServerRun (meets : (Callback → Transaction → Transaction) → Transaction → ServerAction → Prop)
    (kind : TransactionKind) : Transaction → Prop where
  | new (cb : Callback → Transaction → Transaction) (hcb : ∀ c x, Serves meets x (cb c x)) (obtained : BelleSipChannel)
      (trying : Response) (htrying : trying.status_code = 100)
      (hmeets : kind = .ist →
        meets cb { Transaction.new .ist .proceeding with registered := true } (.send_response trying obtained)) :
      ServerRun meets kind (.newServer cb kind obtained trying)
  | step {t : Transaction} (h : ServerRun meets kind t) (cb : Callback → Transaction → Transaction)
      (hcb : ∀ c x, Serves meets x (cb c x)) (e : ServerEvent) (he : e.Enabled t)
      (hmeets : ∀ action ∈ e.submits, meets cb t action) : ServerRun meets kind (t.serverStep cb e)

end BelleSip
