import LinphoneSdk.BelleSip.Transaction

/-!
# SIP client transactions

The INVITE and the non-INVITE client transactions, with the provider that dispatches responses to them. The application
may terminate a transaction, stop its retransmissions or close its channel, and channels change state, from inside any
call that a transaction makes as well as from outside.
-/

namespace BelleSip

namespace Transaction

variable (cb : Callback → Transaction → Transaction) (t : Transaction)

variable (resp : Response) (absorbed : Bool)

/-- The dialog may absorb the response. -/
def notify_response : Transaction :=
  let t := { t with last_response := some resp }
  let t := cb .belle_sip_dialog_update t
  if absorbed then t
  else
    let t := cb (.process_response_event resp) { t with notified := t.notified ++ [resp] }
    let t :=
      if t.kind = .ict ∧ 200 ≤ resp.status_code ∧ resp.status_code < 300 then cb .belle_sip_dialog_check_ack_sent t
      else t
    if t.kind = .nict true ∧ (resp.status_code = 500 ∨ resp.status_code = 503) then
      if t.channel.isNone then { t with nullUsed := true }
      else cb .belle_sip_channel_notify_server_error t
    else t

/-- A channel that received nothing for long is `dead`. -/
def notify_timeout (dead : Bool) : Transaction :=
  if t.kind = .nict true ∧ t.channel.isNone then { t with nullUsed := true }
  else
    let t := if t.kind = .nict true then cb .belle_sip_channel_notify_timeout t else t
    if t.kind = .nict true ∧ dead then { t with timed_out := true }
    else (cb .process_timeout t).terminate cb

/-! ### The INVITE client transaction -/

def make_ack (resp : Response) : Transaction × Queued :=
  let ack := t.ack.getD resp
  ({ t with ack := some ack }, .ack ack)

def ict_on_response : Transaction :=
  let proceeding (t : Transaction) : Transaction :=
    if 300 ≤ resp.status_code then
      let (t, ack) := (t.set_state .completed).make_ack resp
      ((t.queue_message cb ack).notify_response cb resp absorbed).start_timer .D
    else if 200 ≤ resp.status_code then
      ((t.start_timer .M).set_state .accepted).notify_response cb resp absorbed
    else if 100 ≤ resp.status_code then t.notify_response cb resp absorbed
    else t
  match t.state with
  | .calling => proceeding (t.set_state .proceeding)
  | .proceeding => proceeding t
  | .accepted =>
    if 200 ≤ resp.status_code ∧ resp.status_code < 300 then t.notify_response cb resp absorbed else t
  | .completed =>
    if 300 ≤ resp.status_code ∧ t.ack.isSome then t.queue_message cb (.ack (t.ack.getD resp))
    else if 200 ≤ resp.status_code ∧ resp.status_code < 300 then t.notify_response cb resp absorbed
    else t
  | _ => t

def ict_send_request : Transaction :=
  let t := t.set_state .calling
  let t := t.use_channel
  let t := if !t.is_reliable then t.start_timer .A else t
  (t.start_timer .B).queue_message cb .request

/-! ### The non-INVITE client transaction -/

def nict_set_completed : Transaction :=
  let t := t.use_channel
  let channel_is_reliable := t.is_reliable
  let t := (t.set_state .completed).notify_response cb resp absorbed
  if !channel_is_reliable then t.start_timer .K else t.terminate cb

def nict_on_response : Transaction :=
  match t.state with
  | .trying =>
    if resp.status_code < 200 then (t.set_state .proceeding).notify_response cb resp absorbed
    else t.nict_set_completed cb resp absorbed
  | .proceeding => if 200 ≤ resp.status_code then t.nict_set_completed cb resp absorbed else t
  | _ => t

def nict_send_request : Transaction :=
  let t := (t.set_state .trying).start_timer .F
  let t := t.use_channel
  let t := if !t.is_reliable then t.start_timer .E else t
  t.queue_message cb .request

/-! ### The events -/

def send_request : Transaction :=
  match t.kind with
  | .ict => t.ict_send_request cb
  | .nict _ => t.nict_send_request cb
  | _ => t

def on_response : Transaction :=
  match t.kind with
  | .ict => t.ict_on_response cb resp absorbed
  | .nict _ => t.nict_on_response cb resp absorbed
  | _ => t

def stop_retransmissions : Transaction :=
  match t.kind with
  | .ict => t.stop_timer .A
  | .nict _ => t.stop_timer .E
  | _ => t

/-- The timers of client transactions, from `ict_on_timer_A` to `client_transaction_on_call_repair_timer`. Those that
never ask to be called again are disarmed when they fire. -/
def client_on_timer (dead : Bool) : Timer → Transaction
  | .A =>
    if t.channel.isNone then t.stop_timer .A
    else if t.state = .calling then t.queue_message cb .request
    else t
  | .B => if t.state = .calling then (t.stop_timer .B).notify_timeout cb dead else t.stop_timer .B
  | .D => if t.state = .completed then (t.stop_timer .D).terminate cb else t.stop_timer .D
  | .M => if t.state = .accepted then (t.stop_timer .M).terminate cb else t.stop_timer .M
  | .F =>
    if t.state = .trying ∨ t.state = .proceeding then (t.stop_timer .F).notify_timeout cb dead else t.stop_timer .F
  | .E => if t.state = .trying ∨ t.state = .proceeding then t.queue_message cb .request else t.stop_timer .E
  | .K => (t.stop_timer .K).terminate cb
  | .callRepair => (t.stop_timer .callRepair).terminate cb
  | _ => t

def client_on_channel_state_changed (state : ChannelState) : Transaction :=
  match state with
  | .ready => if t.state = .init then t.send_request cb else t
  | .disconnected => t.handle_channel_error cb
  | .error => t.handle_channel_error cb
  | .retry => if t.state ≠ .init then t.handle_channel_error cb else t
  | _ => t

/-- `belle_sip_client_transaction_send_request_to`, for a request that its dialog does not queue and whose URIs are
complete. The provider finds a channel, which is in some state. -/
def send_request_to (found : Option (BelleSipChannel × ChannelState)) : Transaction :=
  if t.state ≠ .init then t
  else
    let t := { cb .belle_sip_dialog_update t with registered := true }
    match found with
    | none => t.terminate cb
    | some (channel, state) =>
      let t := { t with channel := some channel }
      match state with
      | .init => cb .belle_sip_channel_prepare t
      | .ready => t.send_request cb
      | _ => t

/-- `belle_sip_provider_dispatch_response`, for the transaction of the response. Without a channel the listeners get the
response without a transaction. -/
def dispatch_response (resp : Response) (found : Option BelleSipChannel) (absorbed : Bool) : Transaction :=
  let t := if t.channel.isNone then { t with channel := found } else t
  if t.channel.isSome then t.on_response cb resp absorbed else t

end Transaction

/-- What may happen to a client transaction inside the calls that it makes: the actions of the application, which closes
the channel by disconnecting it, and the changes of the state of its channel. -/
inductive ClientAction where
  | terminate
  | stop_retransmissions
  | channel (state : ChannelState)

inductive ClientEvent where
  | send_request (found : Option (BelleSipChannel × ChannelState))
  | response (resp : Response) (found : Option BelleSipChannel) (absorbed : Bool)
  | timer (timer : Timer) (dead : Bool)
  | action (action : ClientAction)

namespace Transaction

variable (cb : Callback → Transaction → Transaction) (t : Transaction)

def act : ClientAction → Transaction
  | .terminate => t.terminate cb
  | .stop_retransmissions => t.stop_retransmissions
  | .channel state => if t.channel.isSome then t.client_on_channel_state_changed cb state else t

def clientStep : ClientEvent → Transaction
  | .send_request found => t.send_request_to cb found
  | .response resp found absorbed => t.dispatch_response cb resp found absorbed
  | .timer τ dead => t.client_on_timer cb dead τ
  | .action action => t.act cb action

end Transaction

/-- A response reaches a transaction that the provider still has, and a timer fires when it is armed. -/
def ClientEvent.Enabled (t : Transaction) : ClientEvent → Prop
  | .response _ _ _ => t.registered
  | .timer τ _ => t.timers τ
  | _ => True

/-- What actions, and the calls that they make in turn, make of a transaction. -/
inductive Acts : Transaction → Transaction → Prop where
  | done (t : Transaction) : Acts t t
  | act {t t' : Transaction} (action : ClientAction) (cb : Callback → Transaction → Transaction)
      (hcb : ∀ c x, Acts x (cb c x)) (h : Acts (t.act cb action) t') : Acts t t'

/-- The runs of a client transaction, with the events, what happens inside the calls of each, and the states before. -/
inductive ClientRun (kind : TransactionKind) :
    List (Transaction × (Callback → Transaction → Transaction) × ClientEvent) → Transaction → Prop where
  | new : ClientRun kind [] (.new kind .init)
  | step {run} {t : Transaction} (h : ClientRun kind run t) (cb : Callback → Transaction → Transaction)
      (hcb : ∀ c x, Acts x (cb c x)) (e : ClientEvent) (he : e.Enabled t) :
      ClientRun kind (run ++ [(t, cb, e)]) (t.clientStep cb e)

end BelleSip
