import Mathlib.Data.List.Chain
import LinphoneSdk.BelleSip.ServerTransaction

/-!
# The runs of SIP server transactions

Every response that is recorded was queued, and a final response is only replaced by 2xx responses, as long as nothing
is submitted where the code records a response that it does not queue.
-/

namespace BelleSip

open TransactionState List Option

/-- The states in which a server transaction has no final response. -/
def TransactionState.Pending (state : TransactionState) : Prop := state = trying ∨ state = proceeding

instance (state : TransactionState) : Decidable state.Pending := inferInstanceAs (Decidable (_ ∨ _))

def Response.IsSuccess (resp : Response) : Prop := 200 ≤ resp.status_code ∧ resp.status_code < 300

instance (resp : Response) : Decidable resp.IsSuccess := inferInstanceAs (Decidable (_ ∧ _))

/-- A response may be recorded after another. -/
def Response.MayReplace (resp last : Response) : Prop :=
  200 ≤ last.status_code → resp = last ∨ resp.IsSuccess

instance (resp last : Response) : Decidable (resp.MayReplace last) := inferInstanceAs (Decidable (_ → _))

namespace Transaction

def HasQueued (t : Transaction) (resp : Response) : Prop := ∃ channel, (channel, .response resp) ∈ t.queued

/-- The response may be recorded in the state in which the code records it without queuing it, and while it is queued
no final response that it may not replace is recorded. -/
def Submits (cb : Callback → Transaction → Transaction) (t : Transaction) (resp : Response) : Prop :=
  (t.kind = .ist ∧ t.state = accepted ∧ resp.IsSuccess ∨
      t.kind = .nist ∧ t.state ≠ trying ∧ t.state ≠ proceeding ∧ t.state ≠ completed →
    t.HasQueued resp ∧ ∀ last ∈ t.last_response, resp.MayReplace last) ∧
  (t.state = trying ∨ t.state = proceeding → ∀ x : Transaction, (∀ last ∈ x.last_response, last.status_code < 200) →
    ∀ last ∈ (cb .belle_sip_channel_queue_message x).last_response, resp.MayReplace last)

end Transaction

def ServerAction.Meets (cb : Callback → Transaction → Transaction) (t : Transaction) : ServerAction → Prop
  | .send_response resp _ => t.Submits cb resp
  | _ => True

namespace Transaction

/-! ### What actions keep -/

structure Recorded (t : Transaction) : Prop where
  last : t.last_response = t.recorded.getLast?
  queued : ∀ resp ∈ t.recorded, t.HasQueued resp
  chain : t.recorded.IsChain fun last resp => resp.MayReplace last
  final : ∀ resp ∈ t.last_response, 200 ≤ resp.status_code → ¬ t.state.Pending

/-- There is a response to answer the retransmissions with. -/
def Answers (t : Transaction) : Prop := t.state = proceeding ∨ t.state = completed → t.last_response.isSome

/-- A non-INVITE transaction has a channel to answer the retransmissions on. -/
def Connected (t : Transaction) : Prop :=
  t.kind = .nist → t.state = proceeding ∨ t.state = completed → t.channel.isSome

/-- What actions may make of a transaction. -/
structure Later (t t' : Transaction) : Prop where
  kind : t'.kind = t.kind
  queued : t.queued <+: t'.queued
  done : ¬ t.state.Pending → ¬ t'.state.Pending
  ended : t.state = terminated → t'.state = terminated
  recorded : t.Recorded → t'.Recorded
  answers : t.Answers → t'.Answers
  connected : t.Connected → t'.Connected

variable {cb : Callback → Transaction → Transaction} {t t' t'' : Transaction}

lemma Later.refl (t : Transaction) : Later t t := ⟨rfl, prefix_rfl, id, id, id, id, id⟩

lemma Later.trans (h : Later t t') (h' : Later t' t'') : Later t t'' where
  kind := h'.kind.trans h.kind
  queued := h.queued.trans h'.queued
  done := h'.done ∘ h.done
  ended := h'.ended ∘ h.ended
  recorded := h'.recorded ∘ h.recorded
  answers := h'.answers ∘ h.answers
  connected := h'.connected ∘ h.connected

lemma Recorded.of_same (h : t.Recorded) (hlast : t'.last_response = t.last_response) (hrecorded : t'.recorded = t.recorded)
    (hqueued : t.queued <+: t'.queued) (hdone : ¬ t.state.Pending → ¬ t'.state.Pending) : t'.Recorded where
  last := by rw [hlast, hrecorded, h.last]
  queued resp hresp := by
    obtain ⟨channel, hchannel⟩ := h.queued resp (hrecorded ▸ hresp)
    exact ⟨channel, hqueued.subset hchannel⟩
  chain := by rw [hrecorded]; exact h.chain
  final resp hresp hcode := hdone (h.final resp (hlast ▸ hresp) hcode)

/-- The changes that leave the responses, the channel and the state alone. -/
lemma Later.of_same (hkind : t'.kind = t.kind) (hstate : t'.state = t.state) (hchannel : t'.channel = t.channel)
    (hlast : t'.last_response = t.last_response) (hrecorded : t'.recorded = t.recorded)
    (hqueued : t.queued <+: t'.queued) : Later t t' where
  kind := hkind
  queued := hqueued
  done := by rw [hstate]; exact id
  ended := by rw [hstate]; exact id
  recorded h := h.of_same hlast hrecorded hqueued (by rw [hstate]; exact id)
  answers := by rw [Answers, Answers, hstate, hlast]; exact id
  connected := by rw [Connected, Connected, hkind, hstate, hchannel]; exact id

/-- The states in which retransmissions are not answered. -/
lemma Later.set_state {state : TransactionState} (hdone : ¬ t.state.Pending → ¬ state.Pending)
    (hended : t.state = terminated → state = terminated) (hstate : state ≠ proceeding ∧ state ≠ completed) :
    Later t (t.set_state state) where
  kind := rfl
  queued := prefix_rfl
  done := hdone
  ended := hended
  recorded h := h.of_same rfl rfl prefix_rfl hdone
  answers _ h := by rcases h with h | h <;> exact absurd h (by simp [Transaction.set_state, hstate])
  connected _ _ h := by rcases h with h | h <;> exact absurd h (by simp [Transaction.set_state, hstate])

section

variable (hcb : ∀ c x, Later x (cb c x))

include hcb in
/-- The callbacks leave a transaction terminated. -/
lemma Later.terminate (t : Transaction) : Later t (t.terminate cb) := by
  have hstop : Later t (t.stop_timer .callRepair) := .of_same rfl rfl rfl rfl rfl prefix_rfl
  have hend (x : Transaction) : Later x (set_transaction_terminated cb x.on_terminate) := by
    have hon (y : Transaction) : Later y y.on_terminate := .of_same rfl rfl rfl rfl rfl prefix_rfl
    refine ((hon x).trans (hon _)).trans ((hcb .process_transaction_terminated _).trans ?_)
    exact .of_same rfl rfl rfl rfl rfl prefix_rfl
  simp only [Transaction.terminate]
  split_ifs
  · have hset := hstop.trans (.set_state (by simp [Pending]) (fun _ => rfl) (by simp))
    exact hset.trans ((hcb .belle_sip_dialog_update _).trans (hend _))
  · exact (hstop.trans (.set_state (by simp [Pending]) (fun _ => rfl) (by simp))).trans (hend _)
  · exact hstop

lemma Later.drop_channel (h : t.kind = .nist → t.state ≠ proceeding ∧ t.state ≠ completed) :
    Later t { t with channel := none } where
  kind := rfl
  queued := prefix_rfl
  done := id
  ended := id
  recorded h := { h with }
  answers := id
  connected _ hkind hstate := by
    rcases hstate with hstate | hstate
    · exact absurd hstate (h hkind).1
    · exact absurd hstate (h hkind).2

include hcb in
lemma Later.state_terminate (t : Transaction) : (t.terminate cb).state = terminated := by
  simp only [Transaction.terminate]
  split_ifs with hstate
  · exact (hcb .process_transaction_terminated _).ended ((hcb .belle_sip_dialog_update _).ended rfl)
  · exact (hcb .process_transaction_terminated _).ended rfl
  · simpa using hstate

include hcb in
lemma Later.handle_channel_error (t : Transaction) : Later t (t.handle_channel_error cb) := by
  refine t.handle_channel_error_of .refl .trans hcb ?_ ?_ ?_
  · exact fun x => .of_same rfl rfl rfl rfl rfl prefix_rfl
  · intro x hkind _
    have hstart : Later x (x.start_timer .callRepair) := .of_same rfl rfl rfl rfl rfl prefix_rfl
    refine hstart.trans (.drop_channel fun hk => ?_)
    rcases hkind with hkind | hkind
    · exact absurd (hkind.symm.trans hk) (by decide)
    · exact absurd (hkind.symm.trans hk) (by decide)
  · intro x
    refine (Later.terminate hcb x).trans (.drop_channel fun _ => ?_)
    simp [Later.state_terminate hcb x]

/-! ### The responses -/

lemma Later.check_channel (t : Transaction) (obtained : BelleSipChannel) : Later t (t.check_channel obtained) where
  kind := rfl
  queued := prefix_rfl
  done := id
  ended := id
  recorded h := { h with }
  answers := id
  connected _ _ _ := by
    simp only [Transaction.check_channel]
    cases t.channel <;> rfl

@[simp] lemma isSome_channel_check_channel (t : Transaction) (obtained : BelleSipChannel) :
    (t.check_channel obtained).channel.isSome := by
  simp only [Transaction.check_channel]
  cases t.channel <;> rfl

include hcb in
lemma Later.queue_message (t : Transaction) (msg : Queued) : Later t (t.queue_message cb msg) := by
  cases hchannel : t.channel with
  | none =>
    simp only [Transaction.queue_message, hchannel]
    exact .of_same rfl rfl hchannel.symm rfl rfl prefix_rfl
  | some channel =>
    rw [queue_message_of_some hchannel]
    have hsame : Later t { t with queued := t.queued ++ [(channel, msg)] } := .of_same rfl rfl rfl rfl rfl ⟨_, rfl⟩
    exact hsame.trans (hcb _ _)

include hcb in
lemma Later.queue_response (t : Transaction) (obtained : BelleSipChannel) (resp : Option Response) :
    Later t (t.queue_response cb obtained resp) := by
  unfold Transaction.queue_response
  split
  · exact .of_same rfl rfl rfl rfl rfl prefix_rfl
  · exact (Later.check_channel t obtained).trans (.queue_message hcb _ _)

include hcb in
/-- The response is queued, and what was recorded meanwhile may be replaced by it. -/
lemma queue_response_some (t : Transaction) (obtained : BelleSipChannel) (resp : Response)
    (hpending : ∀ last ∈ t.last_response, last.status_code < 200)
    (hsubmits : ∀ x : Transaction, (∀ last ∈ x.last_response, last.status_code < 200) →
      ∀ last ∈ (cb .belle_sip_channel_queue_message x).last_response, resp.MayReplace last) :
    (t.queue_response cb obtained (some resp)).HasQueued resp ∧
      ∀ last ∈ (t.queue_response cb obtained (some resp)).last_response, resp.MayReplace last := by
  obtain ⟨channel, hchannel⟩ := isSome_iff_exists.1 (isSome_channel_check_channel t obtained)
  simp only [Transaction.queue_response, Transaction.queue_message]
  split
  next hnone => simp [hnone] at hchannel
  next channel' _ =>
    refine ⟨⟨channel', ?_⟩, hsubmits _ hpending⟩
    exact (hcb .belle_sip_channel_queue_message _).queued.subset (by simp)

variable {resp : Response}

lemma Recorded.record_response (h : t.Recorded) (hqueued : t.HasQueued resp)
    (hreplace : ∀ last ∈ t.last_response, resp.MayReplace last) (hfinal : 200 ≤ resp.status_code → ¬ t.state.Pending) :
    (t.record_response resp).Recorded where
  last := by simp [Transaction.record_response]
  queued resp' hresp' := by
    rcases mem_append.1 hresp' with hresp' | hresp'
    · exact h.queued resp' hresp'
    · rw [mem_singleton.1 hresp']
      exact hqueued
  chain := by
    refine isChain_append.2 ⟨h.chain, isChain_singleton _, ?_⟩
    intro last hlast resp' hresp'
    rw [← h.last] at hlast
    simp only [head?_cons, mem_def, some.injEq] at hresp'
    exact hresp' ▸ hreplace last hlast
  final resp' hresp' hcode := by
    simp only [Transaction.record_response, mem_def, some.injEq] at hresp'
    exact hfinal (hresp' ▸ hcode)

/-- What the two machines do with a response: it is queued before it is recorded, or it is one that they record without
queuing it. -/
structure Sent (t t' : Transaction) (resp : Response) (sent : Bool) : Prop where
  later : sent = false → Later t t'
  kind : t'.kind = t.kind
  queued : t.queued <+: t'.queued
  done : ¬ t.state.Pending → ¬ t'.state.Pending
  ended : t.state = terminated → t'.state = terminated
  recorded : sent → t.Recorded → t'.Recorded ∧ t'.HasQueued resp ∧
    (∀ last ∈ t'.last_response, resp.MayReplace last) ∧ (200 ≤ resp.status_code → ¬ t'.state.Pending)
  connected : t.Connected → t'.Connected

lemma Sent.of_later (h : Later t t') (resp : Response) (hrecorded : t.Recorded → t'.HasQueued resp ∧
      (∀ last ∈ t'.last_response, resp.MayReplace last) ∧ (200 ≤ resp.status_code → ¬ t'.state.Pending))
    (sent : Bool) : Sent t t' resp sent where
  later _ := h
  kind := h.kind
  queued := h.queued
  done := h.done
  ended := h.ended
  recorded _ ht := ⟨h.recorded ht, hrecorded ht⟩
  connected := h.connected

lemma Sent.of_not_sent (h : Later t t') (resp : Response) : Sent t t' resp false where
  later _ := h
  kind := h.kind
  queued := h.queued
  done := h.done
  ended := h.ended
  recorded h := by cases h
  connected := h.connected

lemma Recorded.pending (h : t.Recorded) (hstate : t.state.Pending) :
    ∀ last ∈ t.last_response, last.status_code < 200 := by
  intro last hlast
  by_contra hcode
  have := h.final last hlast (by omega)
  simp [hstate] at this

include hcb in
lemma Sent.queue {u : Transaction} {obtained : BelleSipChannel} (hpending : t.state.Pending) (hkind : u.kind = t.kind)
    (hqueued : u.queued = t.queued) (hlast : u.last_response = t.last_response) (hrecorded : u.recorded = t.recorded)
    (hsubmits : ∀ x : Transaction, (∀ last ∈ x.last_response, last.status_code < 200) →
      ∀ last ∈ (cb .belle_sip_channel_queue_message x).last_response, resp.MayReplace last)
    (hkind' : t'.kind = (u.queue_response cb obtained (some resp)).kind)
    (hqueued' : t'.queued = (u.queue_response cb obtained (some resp)).queued)
    (hlast' : t'.last_response = (u.queue_response cb obtained (some resp)).last_response)
    (hrecorded' : t'.recorded = (u.queue_response cb obtained (some resp)).recorded)
    (hdone : ¬ (u.queue_response cb obtained (some resp)).state.Pending → ¬ t'.state.Pending)
    (hfinal : 200 ≤ resp.status_code → ¬ t'.state.Pending) (hconnected : t.Connected → t'.Connected) :
    Sent t t' resp true := by
  have hlater := Later.queue_response hcb u obtained (some resp)
  refine ⟨fun h => (by cases h), (hkind'.trans hlater.kind).trans hkind, ?_, ?_, ?_, fun _ ht => ?_, hconnected⟩
  · rw [hqueued', ← hqueued]
    exact hlater.queued
  · exact fun h => absurd hpending h
  · intro h
    simp [h, Pending] at hpending
  · have hu : u.Recorded := ht.of_same hlast hrecorded (hqueued ▸ prefix_rfl) fun h => absurd hpending h
    obtain ⟨hq, hreplace⟩ := queue_response_some hcb u obtained resp
      (by rw [hlast]; exact ht.pending hpending) hsubmits
    have hu := (hlater.recorded hu).of_same hlast' hrecorded' (hqueued' ▸ prefix_rfl) hdone
    refine ⟨hu, ?_, by rw [hlast']; exact hreplace, hfinal⟩
    rw [HasQueued, hqueued']
    exact hq

include hcb in
lemma Sent.ist_send_new_response (hkind : t.kind = .ist) (obtained : BelleSipChannel) (hsubmits : t.Submits cb resp) :
    Sent t (t.ist_send_new_response cb obtained resp).1 resp (t.ist_send_new_response cb obtained resp).2 := by
  have hconnected {u : Transaction} (hu : u.kind = t.kind) : u.Connected := by
    intro h
    simp [hu, hkind] at h
  have hqueue := (Later.queue_response hcb t obtained (some resp)).kind
  simp only [Transaction.ist_send_new_response]
  split
  next hstate =>
    have hsubmits := hsubmits.2 (.inr hstate)
    have hpending : t.state.Pending := by simp [hstate, Pending]
    have haccepted : ¬ accepted.Pending := by decide
    have hcompleted : ¬ completed.Pending := by decide
    split_ifs with h200 h300 hreliable
    · exact .queue hcb hpending rfl rfl rfl rfl hsubmits rfl rfl rfl rfl (fun _ => haccepted) (fun _ => haccepted)
        fun _ => hconnected hqueue
    · exact .queue hcb hpending rfl rfl rfl rfl hsubmits rfl rfl rfl rfl (fun _ => hcompleted) (fun _ => hcompleted)
        fun _ => hconnected hqueue
    · exact .queue hcb hpending rfl rfl rfl rfl hsubmits rfl rfl rfl rfl (fun _ => hcompleted) (fun _ => hcompleted)
        fun _ => hconnected hqueue
    · refine .queue hcb hpending rfl rfl rfl rfl hsubmits rfl rfl rfl rfl (fun h => h) ?_ fun _ => hconnected hqueue
      intro hcode
      omega
  next hstate =>
    by_cases hsuccess : resp.IsSuccess
    · obtain ⟨hqueued, hreplace⟩ := hsubmits.1 (.inl ⟨hkind, hstate, hsuccess⟩)
      refine .of_later (.refl t) resp (fun _ => ⟨hqueued, hreplace, fun _ => ?_⟩) _
      simp [hstate, Pending]
    · have hnot : decide (200 ≤ resp.status_code ∧ resp.status_code < 300) = false := by
        simpa [Response.IsSuccess] using hsuccess
      rw [hnot]
      exact .of_not_sent (.refl t) resp
  next => exact .of_not_sent (.refl t) resp

include hcb in
lemma Sent.nist_send_new_response (hkind : t.kind = .nist) (hchannel : t.channel.isSome) (obtained : BelleSipChannel)
    (hsubmits : t.Submits cb resp) :
    Sent t (t.nist_send_new_response cb obtained resp).1 resp (t.nist_send_new_response cb obtained resp).2 := by
  have hconnected {u : Transaction} (hu : u.channel.isSome) :
      (u.queue_response cb obtained (some resp)).Connected :=
    (Later.queue_response hcb u obtained (some resp)).connected fun _ _ => hu
  -- what both TRYING and PROCEEDING do
  have hproceeding (hstate : t.state = trying ∨ t.state = proceeding) :
      Sent t ((if 200 ≤ resp.status_code then t.nist_set_completed else t).queue_response cb obtained (some resp)) resp
        true := by
    have hpending : t.state.Pending := by rcases hstate with h | h <;> simp [h, Pending]
    have hsubmits := hsubmits.2 hstate
    split_ifs with hcode
    · have hcompleted : ¬ t.nist_set_completed.state.Pending := by simp [nist_set_completed, set_state, Pending]
      refine .queue (u := t.nist_set_completed) hcb hpending rfl rfl rfl rfl hsubmits rfl rfl rfl rfl (fun h => h) ?_
        fun _ => hconnected hchannel
      exact fun _ => (Later.queue_response hcb t.nist_set_completed obtained (some resp)).done hcompleted
    · exact .queue (u := t) hcb hpending rfl rfl rfl rfl hsubmits rfl rfl rfl rfl (fun h => h)
        (fun h => absurd h hcode) fun _ => hconnected hchannel
  simp only [Transaction.nist_send_new_response]
  split
  next hstate =>
    have hpending : t.state.Pending := .inl hstate
    by_cases hcode : resp.status_code < 200
    · simp only [hcode, if_true]
      exact .queue (u := t.set_state proceeding) hcb hpending rfl rfl rfl rfl (hsubmits.2 (.inl hstate)) rfl rfl rfl rfl
        (fun h => h) (fun h => by omega) fun _ => hconnected hchannel
    · simp only [hcode, if_false]
      exact hproceeding (.inl hstate)
  next hstate => exact hproceeding (.inr hstate)
  next => exact .of_not_sent (.refl t) resp
  next htrying hproceeding' hcompleted =>
    obtain ⟨hqueued, hreplace⟩ := hsubmits.1 (.inr ⟨hkind, htrying, hproceeding', hcompleted⟩)
    refine .of_later (.refl t) resp (fun _ => ⟨hqueued, hreplace, fun _ => ?_⟩) _
    exact fun h => h.elim htrying hproceeding'

include hcb in
lemma Sent.send_new_response (hchannel : t.channel.isSome) (obtained : BelleSipChannel) (hsubmits : t.Submits cb resp) :
    Sent t (t.send_new_response cb obtained resp).1 resp (t.send_new_response cb obtained resp).2 := by
  simp only [Transaction.send_new_response]
  split
  next hkind => exact .ist_send_new_response hcb hkind obtained hsubmits
  next hkind => exact .nist_send_new_response hcb hkind hchannel obtained hsubmits
  next => exact .of_not_sent (.refl t) resp

lemma Later.of_sent (h : Sent t t' resp true) : Later t (t'.record_response resp) where
  kind := h.kind
  queued := h.queued
  done := h.done
  ended := h.ended
  recorded ht := by
    obtain ⟨ht', hqueued, hreplace, hfinal⟩ := h.recorded rfl ht
    exact ht'.record_response hqueued hreplace hfinal
  answers _ _ := rfl
  connected := h.connected

include hcb in
lemma Later.send_response (t : Transaction) (obtained : BelleSipChannel) (hsubmits : t.Submits cb resp) :
    Later t (t.send_response cb obtained resp) := by
  have hsent := Sent.send_new_response (t := t.check_channel obtained) hcb (by simp) obtained hsubmits
  have hcheck := Later.check_channel t obtained
  simp only [Transaction.send_response]
  generalize (t.check_channel obtained).send_new_response cb obtained resp = r at hsent ⊢
  obtain ⟨u, sent⟩ := r
  refine (hcheck.trans ?_).trans (hcb _ _)
  cases sent with
  | true => exact .of_sent hsent
  | false => exact hsent.later rfl

/-! ### The actions and the events -/

include hcb in
lemma Later.serve (t : Transaction) {action : ServerAction} (hmeets : action.Meets cb t) :
    Later t (t.serve cb action) := by
  cases action with
  | send_response resp obtained => exact .send_response hcb t obtained hmeets
  | terminate => exact .terminate hcb t
  | channel state =>
    simp only [Transaction.serve]
    split_ifs
    · cases state with
      | disconnected => exact .handle_channel_error hcb t
      | error => exact .handle_channel_error hcb t
      | retry =>
        simp only [server_on_channel_state_changed]
        split_ifs
        · exact .handle_channel_error hcb t
        · exact .refl t
      | _ => exact .refl t
    · exact .refl t

include hcb in
lemma Later.on_request_retransmission (t : Transaction) (obtained : BelleSipChannel) :
    Later t (t.on_request_retransmission cb obtained) := by
  simp only [Transaction.on_request_retransmission]
  split
  · simp only [ist_on_request_retransmission]
    split
    · exact .queue_response hcb t obtained _
    · exact .queue_response hcb t obtained _
    · exact .refl t
  · simp only [nist_on_request_retransmission]
    split
    · split_ifs
      · split
        · exact .of_same rfl rfl rfl rfl rfl prefix_rfl
        · exact .queue_message hcb t _
      · exact .refl t
    · split_ifs
      · split
        · exact .of_same rfl rfl rfl rfl rfl prefix_rfl
        · exact .queue_message hcb t _
      · exact .refl t
    · exact .refl t
  · exact .refl t

include hcb in
lemma Later.process_ack (t : Transaction) : Later t (t.process_ack cb) := by
  simp only [Transaction.process_ack]
  split_ifs
  · simp only [ist_process_ack]
    split
    next hstate =>
      have hstop : Later t (t.stop_timer .G) := .of_same rfl rfl rfl rfl rfl prefix_rfl
      have hset : Later (t.stop_timer .G) ((t.stop_timer .G).set_state confirmed) :=
        .set_state (by simp [Pending]) (fun h => by simp [Transaction.stop_timer, hstate] at h) (by simp)
      have huse (u : Transaction) : Later u u.use_channel := .of_same rfl rfl rfl rfl rfl prefix_rfl
      have hstart (u : Transaction) : Later u (u.start_timer .I) := .of_same rfl rfl rfl rfl rfl prefix_rfl
      split_ifs
      · exact ((hstop.trans hset).trans (huse _)).trans (hstart _)
      · exact ((hstop.trans hset).trans (huse _)).trans (.terminate hcb _)
    next => exact hcb _ t
    next => exact .refl t
  · exact .refl t

include hcb in
lemma Later.server_on_timer (t : Transaction) (obtained : BelleSipChannel) {unavailable : Response} {τ : Timer}
    (hmeets : τ = .callRepair → t.Submits cb unavailable) :
    Later t (t.server_on_timer cb obtained unavailable τ) := by
  have hstop (τ : Timer) : Later t (t.stop_timer τ) := .of_same rfl rfl rfl rfl rfl prefix_rfl
  have hterminate (τ : Timer) : Later t ((t.stop_timer τ).terminate cb) := (hstop τ).trans (.terminate hcb _)
  cases τ with
  | G =>
    simp only [Transaction.server_on_timer]
    split_ifs
    · exact .queue_response hcb t obtained _
    · exact hstop _
  | H =>
    simp only [Transaction.server_on_timer]
    split_ifs
    · exact hterminate _
    · exact hstop _
  | I => exact hterminate _
  | L => exact hterminate _
  | J => exact hterminate _
  | callRepair => exact (hstop _).trans (.send_response hcb (t.stop_timer .callRepair) obtained (hmeets rfl))
  | _ => exact .refl t

include hcb in
lemma Later.serverStep (t : Transaction) {e : ServerEvent} (hmeets : ∀ action ∈ e.submits, action.Meets cb t) :
    Later t (t.serverStep cb e) := by
  cases e with
  | request obtained => exact .on_request_retransmission hcb t obtained
  | ack => exact .process_ack hcb t
  | cancel => exact hcb _ t
  | timer τ unavailable obtained =>
    refine .server_on_timer hcb t obtained fun hτ => ?_
    subst hτ
    exact hmeets (.send_response unavailable obtained) (by simp [ServerEvent.submits])
  | action action => exact .serve hcb t (hmeets action (by simp [ServerEvent.submits]))

end

end Transaction

/-- What actions that meet the condition make of a transaction, with the calls that they make in turn. -/
lemma Serves.later {t t' : Transaction} (h : Serves (fun cb t action => action.Meets cb t) t t') : t.Later t' := by
  induction h with
  | done t => exact .refl t
  | act action cb hcb hmeets h ihcb ih => exact (Transaction.Later.serve ihcb _ hmeets).trans ih

/-- The invariant of the runs of server transactions. -/
structure Transaction.Consistent (kind : TransactionKind) (t : Transaction) : Prop where
  kind : t.kind = kind
  recorded : t.Recorded
  answers : t.Answers
  connected : t.Connected

variable {kind : TransactionKind}

lemma Transaction.Consistent.later {t t' : Transaction} (h : t.Consistent kind) (hl : t.Later t') :
    t'.Consistent kind :=
  ⟨hl.kind.trans h.kind, hl.recorded h.recorded, hl.answers h.answers, hl.connected h.connected⟩

variable {t : Transaction}

/-- The response that an INVITE transaction is created with is sent. -/
lemma Transaction.answers_send_response {cb : Callback → Transaction → Transaction}
    (hcb : ∀ c x, Transaction.Later x (cb c x)) (hkind : t.kind = .ist) (hstate : t.state = proceeding)
    (obtained : BelleSipChannel) (resp : Response) : (t.send_response cb obtained resp).Answers := by
  have hsent : ((t.check_channel obtained).send_new_response cb obtained resp).2 = true := by
    have hkind' : (t.check_channel obtained).kind = .ist := hkind
    have hstate' : (t.check_channel obtained).state = proceeding := hstate
    simp only [Transaction.send_new_response, hkind', Transaction.ist_send_new_response, hstate']
    split_ifs <;> rfl
  simp only [Transaction.send_response, hsent, if_true]
  exact (hcb .belle_sip_dialog_update _).answers fun _ => rfl

lemma ServerRun.consistent (hkind : kind = .ist ∨ kind = .nist)
    (h : ServerRun (fun cb t action => action.Meets cb t) kind t) : t.Consistent kind := by
  induction h with
  | new cb hcb obtained trying htrying hmeets =>
    have hlater c x := (hcb c x).later
    rcases hkind with rfl | rfl
    · have hnew : ({ Transaction.new .ist .proceeding with registered := true } : Transaction).Recorded :=
        ⟨rfl, by simp [Transaction.new], by simp [Transaction.new], by simp [Transaction.new]⟩
      have hsend := Transaction.Later.send_response hlater _ obtained (hmeets rfl)
      refine ⟨hsend.kind, hsend.recorded hnew, ?_, hsend.connected fun h => by cases h⟩
      exact Transaction.answers_send_response hlater
        (t := { Transaction.new .ist .proceeding with registered := true }) rfl rfl obtained trying
    · refine ⟨rfl, ⟨rfl, ?_, ?_, ?_⟩, ?_, ?_⟩ <;> simp [Transaction.newServer, Transaction.new, Transaction.Answers,
        Transaction.Connected]
  | step h cb hcb e he hmeets ih => exact ih.later (.serverStep (fun c x => (hcb c x).later) _ hmeets)

/-- When a server transaction that has a response to answer with gets the request again, it queues the last response and
nothing else. -/
lemma Transaction.Consistent.retransmission (hkind : kind = .ist ∨ kind = .nist) (h : t.Consistent kind)
    (hstate : t.state = proceeding ∨ t.state = completed) (cb : Callback → Transaction → Transaction)
    (obtained : BelleSipChannel) :
    ∃ resp channel u, t.last_response = some resp ∧ u.queued = t.queued ++ [(channel, .response resp)] ∧
      t.serverStep cb (.request obtained) = cb .belle_sip_channel_queue_message u := by
  obtain ⟨resp, hresp⟩ := isSome_iff_exists.1 (h.answers hstate)
  rcases hkind with rfl | rfl
  · have hsome := isSome_channel_check_channel t obtained
    obtain ⟨channel, hchannel⟩ := isSome_iff_exists.1 hsome
    have hstep : t.serverStep cb (.request obtained) = t.queue_response cb obtained t.last_response := by
      simp only [Transaction.serverStep, Transaction.on_request_retransmission, h.kind,
        Transaction.ist_on_request_retransmission]
      rcases hstate with hstate | hstate <;> simp only [hstate]
    rw [hstep, hresp, Transaction.queue_response, Transaction.queue_message_of_some hchannel]
    exact ⟨resp, channel, _, rfl, rfl, rfl⟩
  · have hsome := h.connected h.kind hstate
    obtain ⟨channel, hchannel⟩ := isSome_iff_exists.1 hsome
    have hstep : t.serverStep cb (.request obtained) = t.queue_message cb (.response resp) := by
      simp only [Transaction.serverStep, Transaction.on_request_retransmission, h.kind,
        Transaction.nist_on_request_retransmission, hsome, if_true, hresp]
      rcases hstate with hstate | hstate <;> simp only [hstate]
    rw [hstep, Transaction.queue_message_of_some hchannel]
    exact ⟨resp, channel, _, hresp, rfl, rfl⟩

lemma Transaction.Consistent.ignored (hkind : kind = .ist ∨ kind = .nist) (h : t.Consistent kind)
    (hstate : ¬ (t.state = proceeding ∨ t.state = completed)) (cb : Callback → Transaction → Transaction)
    (obtained : BelleSipChannel) : t.serverStep cb (.request obtained) = t := by
  simp only [Transaction.serverStep, Transaction.on_request_retransmission, h.kind]
  rcases hkind with rfl | rfl
  · simp only [Transaction.ist_on_request_retransmission]
    split
    next hproceeding => exact absurd (.inl hproceeding) hstate
    next hcompleted => exact absurd (.inr hcompleted) hstate
    next => rfl
  · simp only [Transaction.nist_on_request_retransmission]
    split
    next hproceeding => exact absurd (.inl hproceeding) hstate
    next hcompleted => exact absurd (.inr hcompleted) hstate
    next => rfl

/-- In every run of a server transaction whose submissions meet the condition, the responses that are recorded were
queued, a final one is replaced by itself or 2xx responses only, and the retransmissions of the request are answered by
the last response, or by nothing. -/
theorem server_transaction_answers {kind : TransactionKind} (hkind : kind = .ist ∨ kind = .nist) {t : Transaction}
    (h : ServerRun (fun cb t action => action.Meets cb t) kind t) : t.last_response = t.recorded.getLast? ∧
    (∀ resp ∈ t.recorded, ∃ channel, (channel, .response resp) ∈ t.queued) ∧
    t.recorded.IsChain (fun last resp => 200 ≤ last.status_code →
      resp = last ∨ 200 ≤ resp.status_code ∧ resp.status_code < 300) ∧
    (t.state = proceeding ∨ t.state = completed → ∀ cb obtained, ∃ resp channel u,
      t.last_response = some resp ∧ u.queued = t.queued ++ [(channel, .response resp)] ∧
        t.serverStep cb (.request obtained) = cb .belle_sip_channel_queue_message u) ∧
    (t.last_response = none ∨ ¬ (t.state = proceeding ∨ t.state = completed) → ∀ cb obtained,
      t.serverStep cb (.request obtained) = t) := by
  have ht := h.consistent hkind
  refine ⟨ht.recorded.last, ht.recorded.queued, ht.recorded.chain, fun hstate cb obtained =>
    ht.retransmission hkind hstate cb obtained, fun hnone cb obtained => ?_⟩
  have hstate : ¬ (t.state = proceeding ∨ t.state = completed) := by
    rcases hnone with hnone | hstate
    · intro hstate
      have := ht.answers hstate
      simp [hnone] at this
    · exact hstate
  exact ht.ignored hkind hstate cb obtained

/-! ### Runs -/

/-- Nothing happens inside the calls. -/
def undisturbed : Callback → Transaction → Transaction := fun _ t => t

lemma serves_undisturbed {meets} (c : Callback) (t : Transaction) : Serves meets t (undisturbed c t) := .done t

/-- An INVITE transaction, created over TCP. -/
def invited : Transaction := .newServer undisturbed .ist ⟨0, true⟩ ⟨0, 100⟩

def answered (resp : Response) : Transaction :=
  invited.serverStep undisturbed (.action (.send_response resp ⟨0, true⟩))

/-- An INVITE that is answered by 486. -/
theorem server_transaction_answers_busy : (answered ⟨1, 486⟩).last_response = (answered ⟨1, 486⟩).recorded.getLast? := by
  have hsubmits (t : Transaction) (hkind : t.kind = .ist) (hstate : t.state = proceeding) (resp : Response) :
      t.Submits undisturbed resp := by
    refine ⟨fun h => ?_, fun _ x hx last hlast hcode => ?_⟩
    · rcases h with ⟨-, h, -⟩ | ⟨h, -⟩
      · simp [hstate] at h
      · simp [hkind] at h
    · have := hx last hlast
      omega
  have hnew : ServerRun (fun cb t action => action.Meets cb t) .ist invited :=
    .new undisturbed serves_undisturbed ⟨0, true⟩ ⟨0, 100⟩ rfl fun _ => hsubmits _ rfl rfl _
  have hrun := hnew.step undisturbed serves_undisturbed (.action (.send_response ⟨1, 486⟩ ⟨0, true⟩)) trivial (by
    intro action haction
    rw [ServerEvent.submits, mem_singleton] at haction
    subst haction
    exact hsubmits _ (by decide) (by decide) _)
  exact (server_transaction_answers (.inl rfl) hrun).1

/-- A second 2xx response to an INVITE is recorded and never queued. A terminated non-INVITE transaction records 500 in
the place of 200. -/
theorem server_transaction_records_unqueued :
    (∃ t, ServerRun (fun _ _ _ => True) .ist t ∧ ∃ resp ∈ t.last_response, ∀ channel,
      (channel, .response resp) ∉ t.queued) ∧
    (∃ t, ServerRun (fun _ _ _ => True) .nist t ∧ t.recorded = [⟨1, 200⟩, ⟨2, 500⟩]) := by
  have hsubmit {kind} {t : Transaction} (h : ServerRun (fun _ _ _ => True) kind t) (resp : Response) :
      ServerRun (fun _ _ _ => True) kind (t.serverStep undisturbed (.action (.send_response resp ⟨0, true⟩))) :=
    h.step undisturbed serves_undisturbed _ trivial fun _ _ => trivial
  have hist : ServerRun (fun _ _ _ => True) .ist invited :=
    .new undisturbed serves_undisturbed ⟨0, true⟩ ⟨0, 100⟩ rfl fun _ => trivial
  have hnist : ServerRun (fun _ _ _ => True) .nist (.newServer undisturbed .nist ⟨0, true⟩ ⟨0, 100⟩) :=
    .new undisturbed serves_undisturbed ⟨0, true⟩ ⟨0, 100⟩ rfl fun _ => trivial
  have hterminated := ((hsubmit hnist ⟨1, 200⟩).step undisturbed serves_undisturbed (.timer .J ⟨0, 503⟩ ⟨0, true⟩)
    ⟨by decide, rfl⟩ fun _ _ => trivial)
  refine ⟨⟨_, hsubmit (hsubmit hist ⟨1, 200⟩) ⟨2, 200⟩, ⟨2, 200⟩, by decide, ?_⟩, ⟨_, hsubmit hterminated ⟨2, 500⟩, ?_⟩⟩
  · intro channel
    have hqueued : ((answered ⟨1, 200⟩).serverStep undisturbed (.action (.send_response ⟨2, 200⟩ ⟨0, true⟩))).queued =
        [(⟨0, true⟩, .response ⟨0, 100⟩), (⟨0, true⟩, .response ⟨1, 200⟩)] := by decide
    rw [answered] at hqueued
    rw [hqueued]
    simp
  · decide

end BelleSip
