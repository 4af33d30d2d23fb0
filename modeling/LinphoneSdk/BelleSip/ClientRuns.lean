import LinphoneSdk.BelleSip.ClientTransaction

/-!
# The runs of SIP client transactions

What a transaction looks like after the calls that it makes, whatever happened inside them, and what holds in every
state of a run.
-/

namespace BelleSip

open TransactionState List Option Transaction

namespace Transaction

/-- The timers that are armed are those that the end of the transaction stops. -/
def Owned (t : Transaction) : Prop := ∀ τ, t.timers τ → τ ∈ TransactionKind.timers t.kind ∨ τ = .callRepair

/-- What actions leave as it is, in whatever state the transaction is. -/
structure Quiet (t t' : Transaction) : Prop where
  kind : t'.kind = t.kind
  notified : t'.notified = t.notified
  queued : ∃ l, t'.queued = t.queued ++ l ∧ ∀ q ∈ l, q.2 = .request
  nullUsed : t'.nullUsed = t.nullUsed
  resumed : t'.resumed = t.resumed
  channel : t'.channel = t.channel ∨ t'.channel = none
  owned : t.Owned → t'.Owned

/-- What actions may make of a transaction. -/
structure Meanwhile (t t' : Transaction) : Prop extends Quiet t t' where
  state : t'.state = t.state ∨ t'.state = terminated ∨ t.state = init ∧ t.channel.isSome ∧
      (t.kind = .ict ∧ t'.state = calling ∨ (∃ r, t.kind = .nict r) ∧ t'.state = trying)
  timers : t.state = terminated → ∀ τ, t'.timers τ → t.timers τ
  ended : t.Owned → t.state ≠ terminated → t'.state = terminated → ∀ τ, t'.timers τ = false
  kept : t'.state ≠ terminated → t'.ack = t.ack ∧
    (t'.channel = t.channel ∨ (t.kind = .ict ∨ t.kind = .ist) ∧ t'.state.is_transient)

variable {cb : Callback → Transaction → Transaction} {t t' t'' : Transaction}

lemma Quiet.refl (t : Transaction) : Quiet t t :=
  ⟨rfl, rfl, ⟨[], by simp⟩, rfl, rfl, .inl rfl, id⟩

lemma Quiet.trans (h : Quiet t t') (h' : Quiet t' t'') : Quiet t t'' := by
  obtain ⟨l, hl, hrequest⟩ := h.queued
  obtain ⟨l', hl', hrequest'⟩ := h'.queued
  refine ⟨h'.kind.trans h.kind, h'.notified.trans h.notified, ⟨l ++ l', by rw [hl', hl, append_assoc], ?_⟩,
    h'.nullUsed.trans h.nullUsed, h'.resumed.trans h.resumed, ?_, h'.owned ∘ h.owned⟩
  · intro q hq
    rcases mem_append.1 hq with hq | hq
    · exact hrequest q hq
    · exact hrequest' q hq
  · rcases h'.channel with h' | h'
    · rw [h']
      exact h.channel
    · exact .inr h'

lemma Meanwhile.refl (t : Transaction) : Meanwhile t t :=
  { Quiet.refl t with
    state := .inl rfl
    timers := fun _ _ hτ => hτ
    ended := fun _ h h' => absurd h' h
    kept := fun _ => ⟨rfl, .inl rfl⟩ }

lemma Meanwhile.state_terminated (h : Meanwhile t t') (ht : t.state = terminated) : t'.state = terminated := by
  rcases h.state with h | h | ⟨h, -⟩
  · rw [h, ht]
  · exact h
  · simp [ht] at h

lemma Meanwhile.trans (h : Meanwhile t t') (h' : Meanwhile t' t'') : Meanwhile t t'' where
  toQuiet := h.toQuiet.trans h'.toQuiet
  state := by
    rcases h'.state with h'' | h'' | ⟨hinit, hchannel, h''⟩
    · rw [h'']
      exact h.state
    · exact .inr (.inl h'')
    · have ht : t.state = init := by
        rcases h.state with ht | ht | ⟨ht, -⟩
        · exact ht.symm.trans hinit
        · simp [hinit] at ht
        · exact ht
      have hsome : t.channel.isSome := by
        rcases h.channel with heq | heq
        · rwa [heq] at hchannel
        · simp [heq] at hchannel
      exact .inr (.inr ⟨ht, hsome, by rwa [h.kind] at h''⟩)
  timers ht τ hτ := h.timers ht τ (h'.timers (h.state_terminated ht) τ hτ)
  ended hown ht ht'' := by
    intro τ
    by_cases ht' : t'.state = TransactionState.terminated
    · have hnone := h.ended hown ht ht' τ
      by_contra hτ
      have hτ' := h'.timers ht' τ (by simpa using hτ)
      simp [hnone] at hτ'
    · exact h'.ended (h.owned hown) ht' ht'' τ
  kept ht'' := by
    have ht' : t'.state ≠ TransactionState.terminated := fun ht' => ht'' (h'.state_terminated ht')
    obtain ⟨hack, hchannel⟩ := h.kept ht'
    obtain ⟨hack', hchannel'⟩ := h'.kept ht''
    refine ⟨hack'.trans hack, ?_⟩
    rcases hchannel' with hchannel' | ⟨hkind, htransient⟩
    · rcases hchannel with hchannel | ⟨hkind, htransient⟩
      · exact .inl (hchannel'.trans hchannel)
      · refine .inr ⟨hkind, ?_⟩
        rcases h'.state with hstate | hstate | ⟨-, -, hstate⟩
        · rwa [hstate]
        · exact absurd hstate ht''
        · rcases hstate with ⟨-, hstate⟩ | ⟨-, hstate⟩ <;> simp [hstate, TransactionState.is_transient]
    · rw [h.kind] at hkind
      exact .inr ⟨hkind, htransient⟩

/-! ### The end of a transaction -/

section

variable (hcb : ∀ c x, Meanwhile x (cb c x))

lemma Owned.stop_timer (h : t.Owned) (τ : Timer) : (t.stop_timer τ).Owned := by
  intro τ' hτ'
  apply h
  simp only [Transaction.stop_timer, Function.update_apply] at hτ'
  split at hτ' <;> simp_all

lemma Owned.start_timer (h : t.Owned) {τ : Timer} (hτ : τ ∈ TransactionKind.timers t.kind ∨ τ = .callRepair) :
    (t.start_timer τ).Owned := by
  intro τ' hτ'
  by_cases heq : τ' = τ
  · exact heq ▸ hτ
  · exact h τ' (by simpa [Transaction.start_timer, Function.update_apply, heq] using hτ')

lemma Quiet.stop_timer (t : Transaction) (τ : Timer) : Quiet t (t.stop_timer τ) :=
  { Quiet.refl t with owned := fun h => h.stop_timer τ }

lemma Quiet.set_state (t : Transaction) (state : TransactionState)
    (h : t.state ≠ terminated ∨ state = terminated) : Quiet t (t.set_state state) :=
  { Quiet.refl t with
    resumed := by rcases h with h | h <;> simp [Transaction.set_state, h] }

lemma Quiet.start_timer {τ : Timer} (hτ : τ ∈ TransactionKind.timers t.kind ∨ τ = .callRepair) :
    Quiet t (t.start_timer τ) :=
  { Quiet.refl t with owned := fun h => h.start_timer hτ }

lemma Quiet.on_terminate (t : Transaction) : Quiet t t.on_terminate :=
  { Quiet.refl t with
    owned := by
      intro h τ hτ
      apply h
      simp only [Transaction.on_terminate] at hτ
      split at hτ <;> simp_all }

lemma Meanwhile.stop_timer (t : Transaction) (τ : Timer) : Meanwhile t (t.stop_timer τ) :=
  { Meanwhile.refl t with
    toQuiet := Quiet.stop_timer t τ
    timers := by
      intro _ τ' hτ'
      simp only [Transaction.stop_timer, Function.update_apply] at hτ'
      split at hτ' <;> simp_all
    ended := fun _ h h' => absurd h' h }

lemma timers_of_on_terminate {τ : Timer} (h : t.on_terminate.timers τ) : t.timers τ := by
  simp only [on_terminate] at h
  split at h <;> simp_all

/-- No timer is armed once the timers of the kind are stopped. -/
lemma not_timers_on_terminate (h : t.Owned) (hrepair : t.timers .callRepair = false) (τ : Timer) :
    ¬ t.on_terminate.timers τ := by
  intro hτ
  rcases h τ (timers_of_on_terminate hτ) with hkind | hkind
  · simp [on_terminate, hkind] at hτ
  · have := timers_of_on_terminate hτ
    rw [hkind, hrepair] at this
    cases this

include hcb in
lemma Quiet.set_transaction_terminated (t : Transaction) : Quiet t (set_transaction_terminated cb t) :=
  { (Quiet.on_terminate t).trans (hcb .process_transaction_terminated t.on_terminate).toQuiet with }

include hcb in
lemma timers_of_set_transaction_terminated {τ : Timer} (ht : t.state = terminated)
    (h : (set_transaction_terminated cb t).timers τ) : t.timers τ :=
  timers_of_on_terminate ((hcb .process_transaction_terminated t.on_terminate).timers ht τ h)

include hcb in
/-- A transaction that is terminated stops its timers, and the provider is told. -/
lemma exists_of_terminate (ht : t.state ≠ terminated) :
    ∃ x, Meanwhile ((t.stop_timer .callRepair).set_state terminated) x ∧
      t.terminate cb = set_transaction_terminated cb x.on_terminate := by
  have hstate : (t.stop_timer .callRepair).state ≠ terminated := ht
  simp only [terminate, if_pos hstate]
  split_ifs
  · exact ⟨_, hcb _ _, rfl⟩
  · exact ⟨_, .refl _, rfl⟩

include hcb in
lemma state_terminate (t : Transaction) : (t.terminate cb).state = terminated := by
  by_cases ht : t.state = terminated
  · simp [terminate, stop_timer, ht]
  · obtain ⟨x, hx, heq⟩ := exists_of_terminate hcb ht
    rw [heq]
    exact (hcb .process_transaction_terminated x.on_terminate.on_terminate).state_terminated (hx.state_terminated rfl)

include hcb in
lemma Meanwhile.of_terminate (t : Transaction) : Meanwhile t (t.terminate cb) := by
  by_cases ht : t.state = terminated
  · have heq : t.terminate cb = t.stop_timer .callRepair := by
      simp [Transaction.terminate, Transaction.stop_timer, ht]
    rw [heq]
    exact Meanwhile.stop_timer t _
  · obtain ⟨x, hx, heq⟩ := exists_of_terminate hcb ht
    have hstop : Quiet t ((t.stop_timer .callRepair).set_state TransactionState.terminated) :=
      (Quiet.stop_timer t _).trans (Quiet.set_state _ _ (.inr rfl))
    have hend := (hstop.trans hx.toQuiet).trans
      ((Quiet.on_terminate x).trans (Quiet.set_transaction_terminated hcb x.on_terminate))
    rw [heq]
    refine { hend with state := ?_, timers := fun h => absurd h ht, ended := ?_, kept := ?_ }
    · exact .inr (.inl (heq ▸ state_terminate hcb t))
    · intro hown _ _ τ
      by_contra hτ
      have hτ : (BelleSip.Transaction.set_transaction_terminated cb x.on_terminate).timers τ := by simpa using hτ
      have hτ := timers_of_set_transaction_terminated hcb (t := x.on_terminate) (hx.state_terminated rfl) hτ
      have hrepair : x.timers .callRepair = false := by
        by_contra hne
        have := hx.timers rfl .callRepair (by simpa using hne)
        simp [Transaction.stop_timer, Transaction.set_state] at this
      exact not_timers_on_terminate (hx.owned (hstop.owned hown)) hrepair τ hτ
    · exact fun h => absurd (heq ▸ state_terminate hcb t) h

lemma Meanwhile.start_repair (hkind : t.kind = .ict ∨ t.kind = .ist) (ht : t.state.is_transient) :
    Meanwhile t { t.start_timer .callRepair with channel := none } :=
  { Quiet.refl t with
    channel := .inr rfl
    owned := fun h => h.start_timer (.inr rfl)
    state := .inl rfl
    timers := fun h => by simp [h, TransactionState.is_transient] at ht
    ended := fun _ h h' => absurd h' h
    kept := fun _ => ⟨rfl, .inr ⟨hkind, ht⟩⟩ }

lemma Meanwhile.drop_channel (h : Meanwhile t t') (ht : t'.state = TransactionState.terminated) :
    Meanwhile t { t' with channel := none } :=
  { h with
    channel := .inr rfl
    kept := fun h' => absurd ht h' }

include hcb in
lemma Meanwhile.handle_channel_error (t : Transaction) : Meanwhile t (t.handle_channel_error cb) := by
  refine t.handle_channel_error_of .refl .trans hcb ?_ ?_ ?_
  · exact fun x => .stop_timer x _
  · exact fun x hkind htransient => .start_repair hkind htransient
  · exact fun x => (Meanwhile.of_terminate hcb x).drop_channel (state_terminate hcb x)

/-! ### The actions -/

include hcb in
lemma Meanwhile.queue_request (h : t.channel.isSome) : Meanwhile t (t.queue_message cb .request) := by
  obtain ⟨channel, hchannel⟩ := isSome_iff_exists.1 h
  rw [queue_message_of_some hchannel]
  refine Meanwhile.trans ?_ (hcb _ _)
  exact { Meanwhile.refl t with queued := ⟨[(channel, .request)], rfl, by simp⟩ }

lemma Quiet.use_channel (h : t.channel.isSome) : Quiet t t.use_channel :=
  { Quiet.refl t with
    nullUsed := by
      obtain ⟨channel, hchannel⟩ := isSome_iff_exists.1 h
      simp [Transaction.use_channel, hchannel] }

/-- A request that is sent leaves the first state with its timers. -/
lemma Meanwhile.of_quiet (h : Quiet t t') (ht : t.state = init) (hack : t'.ack = t.ack)
    (hchannel : t'.channel = t.channel) (hsome : t.channel.isSome)
    (hstate : t.kind = .ict ∧ t'.state = calling ∨ (∃ r, t.kind = .nict r) ∧ t'.state = trying) : Meanwhile t t' :=
  { h with
    state := .inr (.inr ⟨ht, hsome, hstate⟩)
    timers := by simp [ht]
    ended := by
      intro _ _ h'
      rcases hstate with ⟨-, hstate⟩ | ⟨-, hstate⟩ <;> simp [hstate] at h'
    kept := fun _ => ⟨hack, .inl hchannel⟩ }

include hcb in
lemma Meanwhile.of_send_request (ht : t.state = init) (h : t.channel.isSome) : Meanwhile t (t.send_request cb) := by
  have huse (u : Transaction) (hu : u.channel = t.channel) : Quiet u u.use_channel := .use_channel (by rwa [hu])
  have hstart (u : Transaction) (hu : u.kind = t.kind) (τ : Timer) (hτ : τ ∈ TransactionKind.timers t.kind) :
      Quiet u (u.start_timer τ) := .start_timer (.inl (hu ▸ hτ))
  simp only [send_request]
  cases hkind : t.kind with
  | ict =>
    simp only [hkind] at hstart
    have hset := (Quiet.set_state t calling (.inl (by simp [ht]))).trans (huse _ rfl)
    simp only [ict_send_request]
    split_ifs
    · have hA := hset.trans (hstart _ (by exact hkind) .A (by decide))
      exact (Meanwhile.of_quiet (hA.trans (hstart _ (by exact hkind) .B (by decide))) ht rfl rfl h
        (.inl ⟨hkind, rfl⟩)).trans
        (.queue_request hcb h)
    · exact (Meanwhile.of_quiet (hset.trans (hstart _ (by exact hkind) .B (by decide))) ht rfl rfl h
        (.inl ⟨hkind, rfl⟩)).trans
        (.queue_request hcb h)
  | nict register =>
    simp only [hkind] at hstart
    have hF := (Quiet.set_state t trying (.inl (by simp [ht]))).trans
      (hstart _ (by exact hkind) .F (by simp [TransactionKind.timers]))
    have hset := hF.trans (huse _ rfl)
    simp only [nict_send_request]
    split_ifs
    · have hE := hset.trans (hstart _ (by exact hkind) .E (by simp [TransactionKind.timers]))
      exact (Meanwhile.of_quiet hE ht rfl rfl h (.inr ⟨⟨register, hkind⟩, rfl⟩)).trans (.queue_request hcb h)
    · exact (Meanwhile.of_quiet hset ht rfl rfl h (.inr ⟨⟨register, hkind⟩, rfl⟩)).trans (.queue_request hcb h)
  | ist => exact .refl _
  | nist => exact .refl _

include hcb in
lemma Meanwhile.of_act (t : Transaction) (action : ClientAction) : Meanwhile t (t.act cb action) := by
  cases action with
  | terminate => exact .of_terminate hcb t
  | stop_retransmissions =>
    simp only [act, stop_retransmissions]
    split
    · exact .stop_timer t _
    · exact .stop_timer t _
    · exact .refl t
  | channel state =>
    simp only [act]
    split_ifs with hchannel
    · cases state with
      | ready =>
        simp only [client_on_channel_state_changed]
        split_ifs with ht
        · exact .of_send_request hcb ht hchannel
        · exact .refl t
      | disconnected => exact .handle_channel_error hcb t
      | error => exact .handle_channel_error hcb t
      | retry =>
        simp only [client_on_channel_state_changed]
        split_ifs
        · exact .handle_channel_error hcb t
        · exact .refl t
      | init => exact .refl t
      | other => exact .refl t
    · exact .refl t

end

end Transaction

/-- What actions make of a transaction, with the calls that they make in turn. -/
lemma Acts.meanwhile {t t' : Transaction} (h : Acts t t') : t.Meanwhile t' := by
  induction h with
  | done t => exact .refl t
  | act action cb hcb h ihcb ih => exact (Meanwhile.of_act ihcb _ action).trans ih

/-! ### The invariant of the runs -/

/-- A final response of class 300 to 699. -/
def Response.IsFailure (resp : Response) : Prop := 300 ≤ resp.status_code ∧ resp.status_code < 700

instance (resp : Response) : Decidable resp.IsFailure := inferInstanceAs (Decidable (_ ∧ _))

namespace Transaction

def failures (t : Transaction) : List Response := t.notified.filter (·.IsFailure)

/-- The state of a client transaction of some kind between two events. -/
structure Sound (kind : TransactionKind) (t : Transaction) : Prop where
  same : t.kind = kind
  kind : t.kind = .ict ∨ ∃ r, t.kind = .nict r
  owned : t.Owned
  nullUsed : t.nullUsed = false
  resumed : t.resumed = false
  timers : t.state = terminated → ∀ τ, t.timers τ = false
  failures : t.failures.length ≤ 1
  pending : t.state ≠ completed → t.state ≠ terminated → t.failures = [] ∧ t.ack = none ∧ ∀ q ∈ t.queued, q.2 = .request
  channel : t.state = completed ∨ (∃ r, t.kind = .nict r) ∧ (t.state = trying ∨ t.state = proceeding) → t.channel.isSome
  acks : ∃ ack, ∀ q ∈ t.queued, q.2 = .request ∨ q.2 = .ack ack
  acked : t.kind = .ict → t.state = completed → ∃ ack channel, t.ack = some ack ∧ (channel, .ack ack) ∈ t.queued

variable {cb : Callback → Transaction → Transaction} {kind : TransactionKind} {t t' : Transaction}

lemma Sound.new (h : kind = .ict ∨ ∃ r, kind = .nict r) : Sound kind (.new kind init) where
  same := rfl
  kind := h
  owned := fun _ h => by simp [Transaction.new] at h
  nullUsed := rfl
  resumed := rfl
  timers := fun h => by cases h
  failures := by simp [Transaction.failures, Transaction.new]
  pending := fun _ _ => ⟨rfl, rfl, by simp [Transaction.new]⟩
  channel := by simp [Transaction.new]
  acks := ⟨⟨0, 0⟩, by simp [Transaction.new]⟩
  acked := fun _ h => by cases h

lemma Meanwhile.state_completed (h : Meanwhile t t') (ht : t'.state = completed) : t.state = completed := by
  rcases h.state with heq | heq | ⟨-, -, ⟨-, heq⟩ | ⟨-, heq⟩⟩
  · rw [← heq, ht]
  all_goals simp [ht] at heq

/-- What actions do keeps the invariant. -/
lemma Sound.meanwhile (h : Sound kind t) (hm : Meanwhile t t') : Sound kind t' where
  same := hm.kind.trans h.same
  kind := by rw [hm.kind]; exact h.kind
  owned := hm.owned h.owned
  nullUsed := hm.nullUsed.trans h.nullUsed
  resumed := hm.resumed.trans h.resumed
  timers ht' := by
    by_cases ht : t.state = terminated
    · intro τ
      by_contra hτ
      have := hm.timers ht τ (by simpa using hτ)
      simp [h.timers ht τ] at this
    · exact hm.ended h.owned ht ht'
  failures := by rw [Transaction.failures, hm.notified]; exact h.failures
  pending hcompleted hterminated := by
    have hst : t.state ≠ completed ∧ t.state ≠ terminated := by
      refine ⟨?_, fun ht => hterminated (hm.state_terminated ht)⟩
      intro ht
      rcases hm.state with heq | heq | ⟨heq, -⟩
      · exact hcompleted (heq.trans ht)
      · exact hterminated heq
      · simp [ht] at heq
    obtain ⟨hfailures, hack, hqueued⟩ := h.pending hst.1 hst.2
    obtain ⟨l, hl, hrequest⟩ := hm.queued
    refine ⟨by rw [Transaction.failures, hm.notified]; exact hfailures, (hm.kept hterminated).1.trans hack, ?_⟩
    intro q hq
    rw [hl] at hq
    rcases mem_append.1 hq with hq | hq
    · exact hqueued q hq
    · exact hrequest q hq
  channel ht' := by
    have hterminated : t'.state ≠ terminated := by
      rintro heq
      rcases ht' with ht' | ⟨-, ht' | ht'⟩ <;> simp [heq] at ht'
    have hsome : t.channel.isSome := by
      rcases ht' with ht' | ⟨hkind, ht'⟩
      · exact h.channel (.inl (hm.state_completed ht'))
      · rw [hm.kind] at hkind
        rcases hm.state with heq | heq | ⟨-, hsome, -⟩
        · rw [heq] at ht'
          exact h.channel (.inr ⟨hkind, ht'⟩)
        · exact absurd heq hterminated
        · exact hsome
    rcases (hm.kept hterminated).2 with heq | ⟨hkind, htransient⟩
    · rwa [heq]
    · rcases ht' with ht' | ⟨⟨r, hr⟩, -⟩
      · simp [ht', TransactionState.is_transient] at htransient
      · rw [hm.kind] at hr
        simp [hr] at hkind
  acks := by
    obtain ⟨ack, hack⟩ := h.acks
    obtain ⟨l, hl, hrequest⟩ := hm.queued
    refine ⟨ack, fun q hq => ?_⟩
    rw [hl] at hq
    rcases mem_append.1 hq with hq | hq
    · exact hack q hq
    · exact .inl (hrequest q hq)
  acked hkind ht' := by
    rw [hm.kind] at hkind
    obtain ⟨ack, channel, hack, hqueued⟩ := h.acked hkind (hm.state_completed ht')
    obtain ⟨l, hl, -⟩ := hm.queued
    refine ⟨ack, channel, ?_, by rw [hl]; exact mem_append_left _ hqueued⟩
    exact (hm.kept (by simp [ht'])).1.trans hack

/-! ### The responses -/

def record (t : Transaction) (resp : Response) (notified : List Response) : Transaction :=
  { t with last_response := some resp, notified := t.notified ++ notified }

lemma Meanwhile.notify (h : Meanwhile t t') (l : List Response) :
    Meanwhile { t with notified := t.notified ++ l } { t' with notified := t'.notified ++ l } :=
  { h with notified := by rw [h.notified] }

/-- The calls made while a response is notified leave the channel of a REGISTER transaction to the report of a server
error. -/
def KeepsChannel (cb : Callback → Transaction → Transaction) (t : Transaction) (resp : Response) : Prop :=
  t.kind = .nict true → resp.status_code = 500 ∨ resp.status_code = 503 →
    ∀ c, c = .belle_sip_dialog_update ∨ c = .process_response_event resp →
      ∀ x : Transaction, x.channel.isSome → (cb c x).channel.isSome

variable {resp : Response} {absorbed : Bool} (hcb : ∀ c x, Meanwhile x (cb c x))

include hcb in
lemma Meanwhile.of_notify_response (absorbed : Bool) (hchannel : t.kind = .nict true → t.channel.isSome)
    (hkeeps : KeepsChannel cb t resp) :
    ∃ l, (l = [] ∨ l = [resp]) ∧ Meanwhile (t.record resp l) (t.notify_response cb resp absorbed) := by
  have hupdate := hcb .belle_sip_dialog_update { t with last_response := some resp }
  simp only [notify_response]
  cases absorbed with
  | true =>
    refine ⟨[], .inl rfl, ?_⟩
    simpa [record] using hupdate
  | false =>
    refine ⟨[resp], .inr rfl, ?_⟩
    simp only [Bool.false_eq_true, if_false]
    generalize hx : cb .belle_sip_dialog_update { t with last_response := some resp } = x at hupdate ⊢
    have hy := hcb (.process_response_event resp) { x with notified := x.notified ++ [resp] }
    generalize hy' : cb (.process_response_event resp) { x with notified := x.notified ++ [resp] } = y at hy ⊢
    have hrecord : Meanwhile (t.record resp [resp]) y := (hupdate.notify [resp]).trans hy
    have hkind : y.kind = t.kind := hrecord.kind
    have hz : Meanwhile y (if y.kind = .ict ∧ 200 ≤ resp.status_code ∧ resp.status_code < 300 then
        cb .belle_sip_dialog_check_ack_sent y else y) ∧ (y.kind ≠ .ict → (if y.kind = .ict ∧ 200 ≤ resp.status_code ∧
          resp.status_code < 300 then cb .belle_sip_dialog_check_ack_sent y else y) = y) := by
      split_ifs with h
      · exact ⟨hcb _ _, fun hne => absurd h.1 hne⟩
      · exact ⟨.refl _, fun _ => rfl⟩
    generalize (if y.kind = .ict ∧ 200 ≤ resp.status_code ∧ resp.status_code < 300 then
        cb .belle_sip_dialog_check_ack_sent y else y) = z at hz ⊢
    split_ifs with hregister hnone
    · have hregister' : t.kind = .nict true := by rw [← hkind, ← hz.1.kind, hregister.1]
      have hzy : z = y := hz.2 (by rw [hkind, hregister']; simp)
      have hx' : x.channel.isSome := by
        rw [← hx]
        exact hkeeps hregister' hregister.2 _ (.inl rfl) _ (hchannel hregister')
      have hsome : y.channel.isSome := by
        rw [← hy']
        exact hkeeps hregister' hregister.2 _ (.inr rfl) _ hx'
      rw [hzy] at hnone
      simp [isNone_iff_eq_none.1 hnone] at hsome
    · exact (hrecord.trans hz.1).trans (hcb _ _)
    · exact hrecord.trans hz.1

/-- The calls leave a completed transaction alive. -/
def KeepsAlive (cb : Callback → Transaction → Transaction) : Prop :=
  ∀ c (x : Transaction), x.state = completed → (cb c x).state ≠ terminated

include hcb in
lemma KeepsAlive.state (h : KeepsAlive cb) (c : Callback) {x : Transaction} (hx : x.state = completed) :
    (cb c x).state = completed := by
  rcases (hcb c x).state with heq | heq | ⟨heq, -⟩
  · rw [heq, hx]
  · exact absurd heq (h c x hx)
  · simp [hx] at heq

include hcb in
lemma KeepsAlive.notify_response (h : KeepsAlive cb) (ht : t.state = completed) :
    (t.notify_response cb resp absorbed).state = completed := by
  have hstate (c : Callback) {x : Transaction} (hx : x.state = completed) := h.state hcb c hx
  have hupdate := hstate .belle_sip_dialog_update (x := { t with last_response := some resp }) ht
  simp only [Transaction.notify_response]
  generalize cb .belle_sip_dialog_update { t with last_response := some resp } = x at hupdate ⊢
  split
  · exact hupdate
  · have hevent := hstate (.process_response_event resp) (x := { x with notified := x.notified ++ [resp] }) hupdate
    generalize cb (.process_response_event resp) { x with notified := x.notified ++ [resp] } = y at hevent ⊢
    have hcheck : (if y.kind = .ict ∧ 200 ≤ resp.status_code ∧ resp.status_code < 300 then
        cb .belle_sip_dialog_check_ack_sent y else y).state = completed := by
      split_ifs
      · exact hstate _ hevent
      · exact hevent
    generalize (if y.kind = .ict ∧ 200 ≤ resp.status_code ∧ resp.status_code < 300 then
        cb .belle_sip_dialog_check_ack_sent y else y) = z at hcheck ⊢
    split_ifs
    · exact hcheck
    · exact hstate _ hcheck
    · exact hcheck

lemma Sound.record (h : Sound kind t) {l : List Response} (hl : l = [] ∨ l = [resp])
    (hresp : resp.IsFailure → t.state = completed ∧ t.failures = []) : Sound kind (t.record resp l) where
  same := h.same
  kind := h.kind
  owned := h.owned
  nullUsed := h.nullUsed
  resumed := h.resumed
  timers := h.timers
  failures := by
    simp only [Transaction.failures, Transaction.record, filter_append, length_append]
    by_cases hfailure : resp.IsFailure
    · have hnil := (hresp hfailure).2
      simp only [Transaction.failures] at hnil
      rw [hnil]
      rcases hl with rfl | rfl <;> simp [hfailure]
    · have := h.failures
      simp only [Transaction.failures] at this
      rcases hl with rfl | rfl <;> simpa [hfailure] using this
  pending hcompleted hterminated := by
    obtain ⟨hfailures, hack, hqueued⟩ := h.pending hcompleted hterminated
    refine ⟨?_, hack, hqueued⟩
    have hfailure : ¬ resp.IsFailure := fun hf => hcompleted (hresp hf).1
    simp only [Transaction.failures] at hfailures
    simp only [Transaction.failures, Transaction.record, filter_append, hfailures]
    rcases hl with rfl | rfl <;> simp [hfailure]
  channel := h.channel
  acks := h.acks
  acked := h.acked

include hcb in
lemma Sound.notify_response (h : Sound kind t) (hresp : resp.IsFailure → t.state = completed ∧ t.failures = [])
    (hchannel : t.kind = .nict true → t.channel.isSome) (hkeeps : KeepsChannel cb t resp) :
    Sound kind (t.notify_response cb resp absorbed) := by
  obtain ⟨l, hl, hm⟩ := Meanwhile.of_notify_response hcb absorbed hchannel hkeeps
  exact (h.record hl hresp).meanwhile hm

/-- The changes of a transaction that has no final response yet. -/
lemma Sound.of_quiet (h : Sound kind t) (hq : Quiet t t') (hcompleted : t.state ≠ completed)
    (hterminated : t.state ≠ terminated) (hstate : t'.state ≠ completed ∧ t'.state ≠ terminated)
    (hack : t'.ack = t.ack) (hchannel : t'.channel.isSome) : Sound kind t' where
  same := hq.kind.trans h.same
  kind := by rw [hq.kind]; exact h.kind
  owned := hq.owned h.owned
  nullUsed := hq.nullUsed.trans h.nullUsed
  resumed := hq.resumed.trans h.resumed
  timers ht' := absurd ht' hstate.2
  failures := by rw [Transaction.failures, hq.notified]; exact h.failures
  pending _ _ := by
    obtain ⟨hfailures, hnone, hqueued⟩ := h.pending hcompleted hterminated
    obtain ⟨l, hl, hrequest⟩ := hq.queued
    refine ⟨by rw [Transaction.failures, hq.notified]; exact hfailures, hack.trans hnone, fun q hq => ?_⟩
    rw [hl] at hq
    rcases mem_append.1 hq with hq | hq
    · exact hqueued q hq
    · exact hrequest q hq
  channel _ := hchannel
  acks := by
    obtain ⟨-, -, hqueued⟩ := h.pending hcompleted hterminated
    obtain ⟨l, hl, hrequest⟩ := hq.queued
    refine ⟨⟨0, 0⟩, fun q hq => .inl ?_⟩
    rw [hl] at hq
    rcases mem_append.1 hq with hq | hq
    · exact hqueued q hq
    · exact hrequest q hq
  acked _ ht' := absurd ht' hstate.1

lemma Sound.start_timer (h : Sound kind t) (ht : t.state ≠ terminated) {τ : Timer}
    (hτ : τ ∈ TransactionKind.timers t.kind) : Sound kind (t.start_timer τ) :=
  { h with
    owned := h.owned.start_timer (.inl hτ)
    timers := fun h => absurd h ht }

/-- The ACK of a final response is queued on the channel of an INVITE transaction. -/
lemma Sound.complete (h : Sound kind t) (resp : Response) (hcompleted : t.state ≠ completed)
    (hterminated : t.state ≠ terminated) {channel : BelleSipChannel} (hchannel : t.channel = some channel) :
    Sound kind { t.set_state completed with ack := some resp, queued := t.queued ++ [(channel, .ack resp)] } where
  same := h.same
  kind := h.kind
  owned := h.owned
  nullUsed := h.nullUsed
  resumed := by simp [set_state, h.resumed, hterminated]
  timers := fun h => by cases h
  failures := h.failures
  pending := fun h => absurd rfl h
  channel _ := by
    show t.channel.isSome
    simp [hchannel]
  acks := by
    obtain ⟨-, -, hqueued⟩ := h.pending hcompleted hterminated
    refine ⟨resp, fun q hq => ?_⟩
    rcases mem_append.1 hq with hq | hq
    · exact .inl (hqueued q hq)
    · exact .inr (by simp_all)
  acked _ _ := ⟨resp, channel, rfl, by simp⟩

include hcb in
lemma Sound.ict_final (h : Sound kind t) (hkind : t.kind = .ict) (hcompleted : t.state ≠ completed)
    (hterminated : t.state ≠ terminated) (hchannel : t.channel.isSome) (halive : KeepsAlive cb) :
    Sound kind ((((t.set_state completed).make_ack resp).1.queue_message cb ((t.set_state completed).make_ack resp).2
      |>.notify_response cb resp absorbed).start_timer .D) := by
  obtain ⟨channel, hsome⟩ := isSome_iff_exists.1 hchannel
  obtain ⟨hfailures, hack, -⟩ := h.pending hcompleted hterminated
  have hqueue : ((t.set_state completed).make_ack resp).1.queue_message cb ((t.set_state completed).make_ack resp).2 =
      cb .belle_sip_channel_queue_message
        { t.set_state completed with ack := some resp, queued := t.queued ++ [(channel, .ack resp)] } := by
    have hmade : ((t.set_state completed).make_ack resp).1.channel = some channel := hsome
    rw [queue_message_of_some hmade]
    simp [make_ack, Transaction.set_state, hack]
  rw [hqueue]
  have hm := hcb .belle_sip_channel_queue_message
    { t.set_state completed with ack := some resp, queued := t.queued ++ [(channel, .ack resp)] }
  have hsound := (h.complete resp hcompleted hterminated hsome).meanwhile hm
  have hstate := halive.state hcb .belle_sip_channel_queue_message (x :=
    { t.set_state completed with ack := some resp, queued := t.queued ++ [(channel, .ack resp)] }) rfl
  have hnone : (cb .belle_sip_channel_queue_message { t.set_state completed with
      ack := some resp, queued := t.queued ++ [(channel, .ack resp)] }).failures = [] := by
    rw [Transaction.failures, hm.notified]
    exact hfailures
  have hkind' := hm.kind.trans hkind
  generalize cb .belle_sip_channel_queue_message { t.set_state completed with
      ack := some resp, queued := t.queued ++ [(channel, .ack resp)] } = u at *
  have hnotify : Sound kind (u.notify_response cb resp absorbed) :=
    hsound.notify_response hcb (fun _ => ⟨hstate, hnone⟩) (by simp [hkind']) (by simp [KeepsChannel, hkind'])
  have hcompleted' : (u.notify_response cb resp absorbed).state = completed := halive.notify_response hcb hstate
  refine hnotify.start_timer (by simp [hcompleted']) ?_
  have hkeeps : KeepsChannel cb u resp := by simp [KeepsChannel, hkind']
  obtain ⟨l, -, hrecord⟩ := Meanwhile.of_notify_response hcb absorbed (by simp [hkind']) hkeeps
  rw [hrecord.kind, show (u.record resp l).kind = u.kind from rfl, hkind']
  decide

include hcb in
lemma Sound.ict_on_response (h : Sound kind t) (hkind : t.kind = .ict) (hchannel : t.channel.isSome)
    (halive : (t.state = calling ∨ t.state = proceeding) → 300 ≤ resp.status_code → KeepsAlive cb) :
    Sound kind (t.ict_on_response cb resp absorbed) := by
  have hnotify {u : Transaction} (hu : Sound kind u) (huk : u.kind = .ict) (hresp : ¬ resp.IsFailure) :
      Sound kind (u.notify_response cb resp absorbed) :=
    hu.notify_response hcb (fun hf => absurd hf hresp) (by simp [huk]) (by simp [KeepsChannel, huk])
  -- what both CALLING and PROCEEDING do, once the state is PROCEEDING
  have hproceeding {u : Transaction} (hu : Sound kind u) (huk : u.kind = .ict) (hus : u.state = proceeding)
      (huc : u.channel.isSome) (halive : 300 ≤ resp.status_code → KeepsAlive cb) :
      Sound kind (if 300 ≤ resp.status_code then
          ((((u.set_state completed).make_ack resp).1.queue_message cb ((u.set_state completed).make_ack resp).2
            |>.notify_response cb resp absorbed).start_timer .D)
        else if 200 ≤ resp.status_code then
          ((u.start_timer .M).set_state accepted).notify_response cb resp absorbed
        else if 100 ≤ resp.status_code then u.notify_response cb resp absorbed
        else u) := by
    split_ifs with h300 h200 h100
    · exact hu.ict_final hcb huk (by simp [hus]) (by simp [hus]) huc (halive h300)
    · refine hnotify ?_ huk (fun hf => h300 hf.1)
      have hM : Quiet u (u.start_timer .M) := .start_timer (.inl (by simp [huk, TransactionKind.timers]))
      refine hu.of_quiet (hM.trans (.set_state _ _ (.inl ?_))) ?_ ?_ ?_ rfl huc
      · simp [Transaction.start_timer, hus]
      · simp [hus]
      · simp [hus]
      · simp [Transaction.set_state]
    · exact hnotify hu huk (fun hf => h300 hf.1)
    · exact hu
  simp only [Transaction.ict_on_response]
  split
  next hstate =>
    refine hproceeding ?_ hkind rfl hchannel (halive (.inl hstate))
    refine h.of_quiet (.set_state t proceeding (.inl (by simp [hstate]))) ?_ ?_ ?_ rfl hchannel
    · simp [hstate]
    · simp [hstate]
    · simp [Transaction.set_state]
  next hstate => exact hproceeding h hkind hstate hchannel (halive (.inr hstate))
  next hstate =>
    split_ifs with hcode
    · exact hnotify h hkind (fun hf => absurd hf.1 (by omega))
    · exact h
  next hstate =>
    split_ifs with hretransmission hcode
    · obtain ⟨ack, channel, hack, hqueued⟩ := h.acked hkind hstate
      obtain ⟨channel', hsome⟩ := isSome_iff_exists.1 hchannel
      rw [queue_message_of_some hsome, hack, getD_some]
      refine Sound.meanwhile ?_ (hcb _ _)
      refine { h with pending := fun h' => absurd hstate h', acks := ?_, acked := ?_ }
      · obtain ⟨ack', hacks⟩ := h.acks
        have heq : ack = ack' := by simpa using hacks _ hqueued
        refine ⟨ack', fun q hq => ?_⟩
        rcases mem_append.1 hq with hq | hq
        · exact hacks q hq
        · exact .inr (by simp_all)
      · exact fun _ _ => ⟨ack, channel, rfl, mem_append_left _ hqueued⟩
    · exact hnotify h hkind (fun hf => absurd hf.1 (by omega))
    · exact h
  next => exact h

include hcb in
lemma Sound.nict_set_completed (h : Sound kind t) {register : Bool} (hkind : t.kind = .nict register)
    (hstate : t.state = trying ∨ t.state = proceeding) (hchannel : t.channel.isSome)
    (halive : t.is_reliable = false → KeepsAlive cb) (hkeeps : KeepsChannel cb t resp) :
    Sound kind (t.nict_set_completed cb resp absorbed) := by
  have hne : t.state ≠ completed ∧ t.state ≠ terminated := by
    rcases hstate with hstate | hstate <;> simp [hstate]
  have huse : t.use_channel.nullUsed = false := (Quiet.use_channel hchannel).nullUsed.trans h.nullUsed
  obtain ⟨hfailures, hack, hqueued⟩ := h.pending hne.1 hne.2
  have hcompleted : Sound kind (t.use_channel.set_state completed) :=
    { same := h.same
      kind := h.kind
      owned := h.owned
      nullUsed := huse
      resumed := by simp [Transaction.set_state, Transaction.use_channel, h.resumed, hne.2]
      timers := fun h => by cases h
      failures := h.failures
      pending := fun h => absurd rfl h
      channel := fun _ => hchannel
      acks := h.acks
      acked := fun hict => by
        have : t.kind = .ict := hict
        simp [hkind] at this }
  have hnotify : Sound kind ((t.use_channel.set_state completed).notify_response cb resp absorbed) :=
    hcompleted.notify_response hcb (fun _ => ⟨rfl, hfailures⟩) (fun _ => hchannel) hkeeps
  simp only [Transaction.nict_set_completed]
  split_ifs with hreliable
  · have halive := halive (by simpa [Transaction.is_reliable, Transaction.use_channel] using hreliable)
    have hstate : ((t.use_channel.set_state completed).notify_response cb resp absorbed).state = completed :=
      halive.notify_response hcb rfl
    refine hnotify.start_timer (by simp [hstate]) ?_
    obtain ⟨l, -, hrecord⟩ := Meanwhile.of_notify_response (t := t.use_channel.set_state completed) hcb absorbed
      (fun _ => hchannel) hkeeps
    rw [hrecord.kind, show ((t.use_channel.set_state completed).record resp l).kind = t.kind from rfl, hkind]
    simp [TransactionKind.timers]
  · exact hnotify.meanwhile (.of_terminate hcb _)

include hcb in
lemma Sound.nict_on_response (h : Sound kind t) {register : Bool} (hkind : t.kind = .nict register)
    (hchannel : t.channel.isSome) (hfinal : (t.state = trying ∨ t.state = proceeding) → 200 ≤ resp.status_code →
      (t.is_reliable = false → KeepsAlive cb) ∧ KeepsChannel cb t resp) :
    Sound kind (t.nict_on_response cb resp absorbed) := by
  simp only [Transaction.nict_on_response]
  split
  next hstate =>
    split_ifs with hcode
    · refine Sound.notify_response hcb ?_ (fun hf => absurd hf.1 (by omega)) (fun _ => hchannel) ?_
      · refine h.of_quiet (.set_state t proceeding (.inl (by simp [hstate]))) ?_ ?_ ?_ rfl hchannel
        · simp [hstate]
        · simp [hstate]
        · simp [Transaction.set_state]
      · intro _ hcode'
        omega
    · have hfinal := hfinal (.inl hstate) (by omega)
      exact h.nict_set_completed hcb hkind (.inl hstate) hchannel hfinal.1 hfinal.2
  next hstate =>
    split_ifs with hcode
    · have hfinal := hfinal (.inr hstate) hcode
      exact h.nict_set_completed hcb hkind (.inr hstate) hchannel hfinal.1 hfinal.2
    · exact h
  next => exact h

/-! ### The timers and the request -/

include hcb in
lemma Meanwhile.of_notify_timeout (hchannel : t.kind = .nict true → t.channel.isSome) (dead : Bool) :
    Meanwhile t (t.notify_timeout cb dead) := by
  simp only [notify_timeout]
  have hcheck : Meanwhile t (if t.kind = .nict true then cb .belle_sip_channel_notify_timeout t else t) := by
    split_ifs
    · exact hcb _ _
    · exact .refl _
  generalize (if t.kind = .nict true then cb .belle_sip_channel_notify_timeout t else t) = u at hcheck ⊢
  split_ifs with hnone hdead
  · have := hchannel hnone.1
    simp [isNone_iff_eq_none.1 hnone.2] at this
  · exact { hcheck with }
  · exact (hcheck.trans (hcb _ _)).trans (.of_terminate hcb _)

include hcb in
lemma Sound.client_on_timer (h : Sound kind t) {τ : Timer} (hτ : t.timers τ) (dead : Bool) :
    Sound kind (t.client_on_timer cb dead τ) := by
  have hstop (τ : Timer) : Meanwhile t (t.stop_timer τ) := .stop_timer t τ
  have hterminate (τ : Timer) : Meanwhile t ((t.stop_timer τ).terminate cb) :=
    (hstop τ).trans (.of_terminate hcb _)
  have htimeout (τ : Timer) (hstate : t.kind = .nict true → t.state = trying ∨ t.state = proceeding) :
      Meanwhile t ((t.stop_timer τ).notify_timeout cb dead) :=
    (hstop τ).trans
      (.of_notify_timeout (t := t.stop_timer τ) hcb (fun hk => h.channel (.inr ⟨⟨true, hk⟩, hstate hk⟩)) dead)
  refine h.meanwhile ?_
  cases τ with
  | A =>
    simp only [Transaction.client_on_timer]
    split_ifs with hnone
    · exact hstop _
    · exact .queue_request hcb (isSome_iff_ne_none.2 (by simpa using hnone))
    · exact .refl t
  | B =>
    simp only [Transaction.client_on_timer]
    split_ifs with hstate
    · refine htimeout .B fun hk => ?_
      have := h.owned .B hτ
      simp [hk, TransactionKind.timers] at this
    · exact hstop _
  | D =>
    simp only [Transaction.client_on_timer]
    split_ifs
    · exact hterminate _
    · exact hstop _
  | M =>
    simp only [Transaction.client_on_timer]
    split_ifs
    · exact hterminate _
    · exact hstop _
  | E =>
    simp only [Transaction.client_on_timer]
    split_ifs with hstate
    · refine .queue_request hcb (h.channel (.inr ⟨?_, hstate⟩))
      rcases h.kind with hk | hk
      · have := h.owned .E hτ
        simp [hk, TransactionKind.timers] at this
      · exact hk
    · exact hstop _
  | F =>
    simp only [Transaction.client_on_timer]
    split_ifs with hstate
    · exact htimeout .F fun _ => hstate
    · exact hstop _
  | K => exact hterminate _
  | callRepair => exact hterminate _
  | G => exact .refl t
  | H => exact .refl t
  | I => exact .refl t
  | L => exact .refl t
  | J => exact .refl t

include hcb in
/-- The request is sent before any final response. -/
lemma Sound.send_request (h : Sound kind t) (hcompleted : t.state ≠ completed) (hterminated : t.state ≠ terminated)
    (hchannel : t.channel.isSome) : Sound kind (t.send_request cb) := by
  have huse (u : Transaction) (hu : u.channel = t.channel) : Quiet u u.use_channel := .use_channel (by rwa [hu])
  have hstart (u : Transaction) (hu : u.kind = t.kind) (τ : Timer) (hτ : τ ∈ TransactionKind.timers t.kind) :
      Quiet u (u.start_timer τ) := .start_timer (.inl (hu ▸ hτ))
  have hqueue (u : Transaction) (hu : Quiet t u) (hstate : u.state = calling ∨ u.state = trying)
      (hack : u.ack = t.ack) (hsome : u.channel.isSome) : Sound kind (u.queue_message cb .request) := by
    refine Sound.meanwhile ?_ (.queue_request hcb hsome)
    refine h.of_quiet hu hcompleted hterminated ?_ hack hsome
    rcases hstate with hstate | hstate <;> simp [hstate]
  have hset (state : TransactionState) : Quiet t (t.set_state state) := .set_state t state (.inl hterminated)
  simp only [Transaction.send_request]
  rcases h.kind with hkind | ⟨register, hkind⟩
  · simp only [hkind] at hstart ⊢
    have hcalling := (hset calling).trans (huse _ rfl)
    simp only [ict_send_request]
    split_ifs
    · have hA := hcalling.trans (hstart _ (by exact hkind) .A (by decide))
      exact hqueue _ (hA.trans (hstart _ (by exact hkind) .B (by decide))) (.inl rfl) rfl hchannel
    · exact hqueue _ (hcalling.trans (hstart _ (by exact hkind) .B (by decide))) (.inl rfl) rfl hchannel
  · simp only [hkind] at hstart ⊢
    have hF := (hset trying).trans (hstart _ (by exact hkind) .F (by simp [TransactionKind.timers]))
    have htrying := hF.trans (huse _ rfl)
    simp only [nict_send_request]
    split_ifs
    · have hE := htrying.trans (hstart _ (by exact hkind) .E (by simp [TransactionKind.timers]))
      exact hqueue _ hE (.inr rfl) rfl hchannel
    · exact hqueue _ htrying (.inr rfl) rfl hchannel

include hcb in
lemma Sound.send_request_to (h : Sound kind t) (found : Option (BelleSipChannel × ChannelState))
    (hupdate : t.state = init → (cb .belle_sip_dialog_update t).state ≠ terminated) :
    Sound kind (t.send_request_to cb found) := by
  simp only [Transaction.send_request_to]
  split_ifs with hinit
  · exact h
  have hm := hcb .belle_sip_dialog_update t
  have hterminated := hupdate (by simpa using hinit)
  have hcompleted : (cb .belle_sip_dialog_update t).state ≠ completed := by
    intro heq
    have := hm.state_completed heq
    simp_all
  have hu := h.meanwhile hm
  generalize cb .belle_sip_dialog_update t = u at *
  have hregistered : Sound kind { u with registered := true } := { hu with }
  cases found with
  | none => exact hregistered.meanwhile (.of_terminate hcb _)
  | some found =>
    have hfound : Sound kind { u with registered := true, channel := some found.1 } :=
      { hregistered with channel := fun _ => rfl }
    cases hstate : found.2 with
    | init =>
      simp only [hstate]
      exact hfound.meanwhile (hcb _ _)
    | ready =>
      simp only [hstate]
      exact hfound.send_request hcb hcompleted hterminated rfl
    | _ =>
      simp only [hstate]
      exact hfound

end Transaction

def Transaction.AwaitsFinal (t : Transaction) (resp : Response) : Prop :=
  t.kind = .ict ∧ (t.state = calling ∨ t.state = proceeding) ∧ 300 ≤ resp.status_code ∨
    (∃ register, t.kind = .nict register) ∧ (t.state = trying ∨ t.state = proceeding) ∧ 200 ≤ resp.status_code

/-- The calls made inside an event leave the transaction alive while its request is prepared, and while its final
response is handled where a timer is started afterwards; and they leave its channel to the report of a server error. -/
def ClientEvent.Meets (cb : Callback → Transaction → Transaction) (t : Transaction) : ClientEvent → Prop
  | .send_request _ => t.state = init → (cb .belle_sip_dialog_update t).state ≠ terminated
  | .response resp found _ => t.AwaitsFinal resp →
      (t.kind = .ict ∨ ¬ (t.channel <|> found).any (·.is_reliable) → KeepsAlive cb) ∧ KeepsChannel cb t resp
  | _ => True

namespace Transaction

variable {cb : Callback → Transaction → Transaction} {kind : TransactionKind} {t : Transaction}
  (hcb : ∀ c x, Meanwhile x (cb c x))

include hcb in
lemma Sound.dispatch_response (h : Sound kind t) {resp : Response} {found : Option BelleSipChannel} {absorbed : Bool}
    (hmeets : ClientEvent.Meets cb t (.response resp found absorbed)) :
    Sound kind (t.dispatch_response cb resp found absorbed) := by
  -- the channel that the response is handled with
  have hdispatch {u : Transaction} (hu : Sound kind u) (huk : u.kind = t.kind) (hus : u.state = t.state)
      (huc : u.channel = (t.channel <|> found)) (hsome : u.channel.isSome) :
      Sound kind (u.on_response cb resp absorbed) := by
    simp only [Transaction.on_response]
    rcases hu.kind with hkind | ⟨register, hkind⟩
    · simp only [hkind]
      refine hu.ict_on_response hcb hkind hsome fun hstate hcode => ?_
      rw [hus] at hstate
      exact (hmeets (.inl ⟨huk ▸ hkind, hstate, hcode⟩)).1 (.inl (huk ▸ hkind))
    · simp only [hkind]
      refine hu.nict_on_response hcb hkind hsome fun hstate hcode => ?_
      rw [hus] at hstate
      obtain ⟨halive, hkeeps⟩ := hmeets (.inr ⟨⟨register, huk ▸ hkind⟩, hstate, hcode⟩)
      refine ⟨fun hreliable => halive (.inr ?_), fun hk => hkeeps (huk ▸ hk)⟩
      rw [← huc]
      simpa [Transaction.is_reliable] using hreliable
  simp only [Transaction.dispatch_response]
  split_ifs with hnone hsome hsome
  · refine hdispatch ?_ rfl rfl ?_ hsome
    · exact { h with channel := fun _ => hsome }
    · simp [isNone_iff_eq_none.1 hnone]
  · simp only [Bool.not_eq_true, isSome_eq_false_iff, isNone_iff_eq_none] at hsome
    have hsame : { t with channel := found } = t := by
      rw [hsome, ← isNone_iff_eq_none.1 hnone]
    rw [hsame]
    exact h
  · obtain ⟨channel, hchannel⟩ := isSome_iff_exists.1 hsome
    exact hdispatch h rfl rfl (by simp [hchannel]) hsome
  · exact h

include hcb in
/-- An event that meets the condition keeps the invariant. -/
lemma Sound.clientStep (h : Sound kind t) {e : ClientEvent} (he : e.Enabled t) (hmeets : e.Meets cb t) :
    Sound kind (t.clientStep cb e) := by
  cases e with
  | send_request found => exact h.send_request_to hcb found hmeets
  | response resp found absorbed => exact h.dispatch_response hcb hmeets
  | timer τ dead => exact h.client_on_timer hcb he dead
  | action action => exact h.meanwhile (.of_act hcb t action)

end Transaction

lemma ClientRun.sound {kind : TransactionKind} (hkind : kind = .ict ∨ ∃ register, kind = .nict register)
    {run} {t : Transaction} (h : ClientRun kind run t) (hmeets : ∀ x ∈ run, x.2.2.Meets x.2.1 x.1) : t.Sound kind := by
  induction h with
  | new => exact .new hkind
  | step hrun cb hcb e he ih =>
    have ht := ih fun x hx => hmeets x (mem_append_left _ hx)
    exact ht.clientStep (fun c x => (hcb c x).meanwhile) he (hmeets (_, cb, e) (by simp))

/-- While they wait for retransmissions, INVITE client transactions answer them with the ACK that they sent. -/
lemma Transaction.Sound.retransmission {kind : TransactionKind} {t : Transaction} (h : t.Sound kind)
    (hkind : t.kind = .ict) (hstate : t.state = completed) {cb : Callback → Transaction → Transaction}
    (hcb : ∀ c x, Transaction.Meanwhile x (cb c x)) {resp : Response} (hcode : 300 ≤ resp.status_code)
    (found : Option BelleSipChannel) (absorbed : Bool) : ∃ ack channel l, (∃ first, (first, .ack ack) ∈ t.queued) ∧
      (t.clientStep cb (.response resp found absorbed)).queued = t.queued ++ (channel, .ack ack) :: l := by
  obtain ⟨ack, first, hack, hqueued⟩ := h.acked hkind hstate
  have hsome := h.channel (.inl hstate)
  obtain ⟨channel, hchannel⟩ := isSome_iff_exists.1 hsome
  have hnone : t.channel.isNone = false := by simp [hchannel]
  have hm := hcb .belle_sip_channel_queue_message { t with queued := t.queued ++ [(channel, .ack ack)] }
  obtain ⟨l, hl, -⟩ := hm.queued
  refine ⟨ack, channel, l, ⟨first, hqueued⟩, ?_⟩
  have hstep : t.clientStep cb (.response resp found absorbed) = t.queue_message cb (.ack ack) := by
    simp only [Transaction.clientStep, Transaction.dispatch_response, hnone, Bool.false_eq_true, if_false, hsome, if_true,
      Transaction.on_response, hkind, Transaction.ict_on_response, hstate, hcode, hack, isSome_some, and_self,
      getD_some]
  rw [hstep, Transaction.queue_message_of_some hchannel, hl, append_assoc]
  rfl

/-- In every run of a client transaction whose events meet the condition, absent channels are not used, one failure is
notified at most, all ACKs are the same and answer the retransmissions, and the end of the transaction is final. -/
theorem client_transaction_sound {kind : TransactionKind} (hkind : kind = .ict ∨ ∃ register, kind = .nict register)
    {run} {t : Transaction} (h : ClientRun kind run t) (hmeets : ∀ x ∈ run, x.2.2.Meets x.2.1 x.1) :
    t.nullUsed = false ∧ (t.notified.filter (·.IsFailure)).length ≤ 1 ∧
    (∀ channel channel' ack ack', (channel, .ack ack) ∈ t.queued → (channel', .ack ack') ∈ t.queued → ack = ack') ∧
    (kind = .ict → t.state = completed → ∀ cb, (∀ c x, Acts x (cb c x)) → ∀ resp : Response, 300 ≤ resp.status_code →
      ∀ found absorbed, ∃ ack channel l, (∃ first, (first, .ack ack) ∈ t.queued) ∧
        (t.clientStep cb (.response resp found absorbed)).queued = t.queued ++ (channel, .ack ack) :: l) ∧
    t.resumed = false ∧ (t.state = terminated → ∀ τ, t.timers τ = false) := by
  have ht := h.sound hkind hmeets
  refine ⟨ht.nullUsed, ht.failures, ?_, ?_, ht.resumed, ht.timers⟩
  · intro channel channel' ack ack' hack hack'
    obtain ⟨ack'', hacks⟩ := ht.acks
    have h := hacks _ hack
    have h' := hacks _ hack'
    simp only [reduceCtorEq, Queued.ack.injEq, false_or] at h h'
    rw [h, h']
  · intro hict hstate cb hcb resp hcode found absorbed
    exact ht.retransmission (ht.same.trans hict) hstate (fun c x => (hcb c x).meanwhile) hcode found absorbed

/-! ### Runs -/

/-- Nothing happens inside the calls. -/
def quietly : Callback → Transaction → Transaction := fun _ t => t

def onResponse (action : ClientAction) : Callback → Transaction → Transaction
  | .process_response_event _, t => t.act quietly action
  | _, t => t

/-- The dialog terminates the transaction that it is told of, before the request is sent. -/
def onUpdate : Callback → Transaction → Transaction
  | .belle_sip_dialog_update, t => t.act quietly .terminate
  | _, t => t

lemma acts_quietly (c : Callback) (t : Transaction) : Acts t (quietly c t) := .done t

lemma acts_act (t : Transaction) (action : ClientAction) : Acts t (t.act quietly action) :=
  .act action quietly acts_quietly (.done _)

lemma acts_onResponse (action : ClientAction) (c : Callback) (t : Transaction) : Acts t (onResponse action c t) := by
  cases c with
  | process_response_event => exact acts_act t action
  | _ => exact .done t

lemma acts_onUpdate (c : Callback) (t : Transaction) : Acts t (onUpdate c t) := by
  cases c with
  | belle_sip_dialog_update => exact acts_act t .terminate
  | _ => exact .done t

def udp : BelleSipChannel := ⟨0, false⟩

def sent (kind : TransactionKind) : Transaction :=
  (new kind init).clientStep quietly (.send_request (some (udp, .ready)))

lemma clientRun_sent (kind : TransactionKind) :
    ClientRun kind [(.new kind init, quietly, .send_request (some (udp, .ready)))] (sent kind) :=
  .step .new quietly acts_quietly (.send_request (some (udp, .ready))) trivial

/-- An INVITE that is answered by 486, which comes twice. -/
theorem client_transaction_sound_busy :
    (((sent .ict).clientStep quietly (.response ⟨1, 486⟩ none false)).clientStep quietly
      (.response ⟨1, 486⟩ none false)).nullUsed = false := by
  have hrun := (((clientRun_sent .ict).step quietly acts_quietly (.response ⟨1, 486⟩ none false) rfl).step quietly
    acts_quietly (.response ⟨1, 486⟩ none false) rfl)
  refine (client_transaction_sound (.inl rfl) hrun ?_).1
  have halive : KeepsAlive quietly := by
    intro c x hx
    simp [quietly, hx]
  intro x hx
  simp only [cons_append, nil_append, mem_cons, not_mem_nil, or_false] at hx
  rcases hx with rfl | rfl | rfl
  · exact fun _ => by simp [quietly, new]
  · exact fun _ => ⟨fun _ => halive, fun _ _ _ _ _ h => h⟩
  · exact fun _ => ⟨fun _ => halive, fun _ _ _ _ _ h => h⟩

/-- A transaction that the application terminates when it is notified of 486 has a timer armed afterwards. A REGISTER
transaction uses the channel that the application closed when it was notified of 503. The transaction of a BYE that the
dialog terminates while the request is prepared is sent all the same. -/
theorem client_transaction_unsound : (∃ run t, ClientRun .ict run t ∧ t.state = terminated ∧ t.timers .D = true) ∧
    (∃ run t, ClientRun (.nict true) run t ∧ t.nullUsed = true) ∧
    (∃ run t, ClientRun (.nict false) run t ∧ t.resumed = true) := by
  refine ⟨⟨_, _, ((clientRun_sent .ict).step (onResponse .terminate) (acts_onResponse _)
      (.response ⟨1, 486⟩ none false) rfl), ?_, ?_⟩,
    ⟨_, _, ((clientRun_sent (.nict true)).step (onResponse (.channel .disconnected)) (acts_onResponse _)
      (.response ⟨1, 503⟩ none false) rfl), ?_⟩,
    ⟨_, _, ClientRun.new.step onUpdate acts_onUpdate (.send_request (some (udp, .ready))) trivial, ?_⟩⟩
  · decide
  · decide
  · decide
  · decide

end BelleSip
