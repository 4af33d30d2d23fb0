import Mathlib.Data.List.Sort
import LinphoneSdk.Ortp.TelephoneEvents

/-!
# The delivery of telephone events

A sender and a receiver with any network between them: the packets of the DTMFs arrive in any order, any number of
times or not at all, and the application asks for packets at any time.
-/

open SortedQueue

namespace Ortp

open Serial List Option

/-! ### The system -/

abbrev SentPacket : Type := Dtmf × Part

def SentPacket.bytes (x : SentPacket) : Packet := x.1.packet x.2

def SentPacket.number (x : SentPacket) : ℤ := x.1.number + x.2.index

structure TevSystem where
  sender : TevSender
  /-- The number that `snd_seq` shows. -/
  number : ℤ
  /-- The DTMFs that were sent, in order. -/
  sent : List Dtmf
  receiver : TevSession
  /-- The packets that wait in the queue of the receiver. -/
  queued : List SentPacket
  /-- The packets that arrived, the newest first. -/
  arrived : List SentPacket
  /-- The packets that left the queue, the newest first. -/
  polled : List SentPacket

inductive TevAction where
  | send (dtmf : Char) (userts : UInt32) (duration : ℤ)
  /-- The sender sends `n` packets of its media. -/
  | media (n : ℕ)
  | arrive (x : SentPacket)
  | poll

namespace TevSystem

def step (s : TevSystem) : TevAction → TevSystem
  | .send dtmf userts duration =>
    match sendDtmf2 s.sender dtmf userts duration, s.sender.tevPt, tevType dtmf with
    | some (_, sender), some pt, some event =>
      { s with
          sender
          number := s.number + 3
          sent := s.sent ++ [dtmfOf s.sender pt event s.number dtmf userts duration] }
    | _, _, _ => s
  | .media n =>
    { s with sender := { s.sender with sndSeq := s.sender.sndSeq + .ofNat n }, number := s.number + n }
  | .arrive x =>
    { s with
        receiver := s.receiver.receive x.bytes
        queued := enqueue (· > ·) SentPacket.number s.receiver.maxPackets x s.queued
        arrived := x :: s.arrived }
  | .poll =>
    { s with
        receiver := s.receiver.poll
        queued := s.queued.tail
        polled := s.queued.head?.toList ++ s.polled }

/-- The DTMFs have different timestamps, and a packet that arrives is one that was sent. -/
def Possible (s : TevSystem) : TevAction → Prop
  | .send _ userts _ => ∀ d ∈ s.sent, d.timestamp ≠ userts + s.sender.sendTsOffset
  | .media _ => True
  | .arrive x => x.1 ∈ s.sent
  | .poll => True

/-- The queue has room for a packet that arrives, whose number is near those of the packets that wait. Between two
last packets of a DTMF nothing leaves the queue but its middle packet. -/
def Harmless (s : TevSystem) : TevAction → Prop
  | .send _ _ _ => True
  | .media _ => True
  | .arrive x => s.receiver.tevRq.length < s.receiver.maxPackets ∧ ∀ y ∈ s.queued, |x.number - y.number| < 2 ^ 15
  | .poll => ∀ d, s.queued.head? = some (d, .last) → (d, .last) ∈ s.polled →
      ∀ x ∈ s.polled.takeWhile (· ≠ (d, .last)), x = (d, .middle)

/-- Nothing was sent yet. -/
structure Initial (s : TevSystem) : Prop where
  shows : Shows 65536 s.sender.sndSeq.toNat s.number
  sent : s.sent = []
  tevRq : s.receiver.tevRq = []
  currentTev : s.receiver.currentTev = none
  notified : s.receiver.notified = []
  queued : s.queued = []
  arrived : s.arrived = []
  polled : s.polled = []

/-- The states reached from `s` by steps that `P` lets through. -/
inductive Reaches (P : TevSystem → TevAction → Prop) (s : TevSystem) : TevSystem → Prop where
  | refl : Reaches P s s
  | step {s' : TevSystem} (a : TevAction) (h : Reaches P s s') (hpossible : s'.Possible a) (ha : P s' a) :
      Reaches P s (s'.step a)

/-- No packet arrives after one of a later DTMF. -/
def InOrder (s : TevSystem) : Prop := s.arrived.Pairwise fun later earlier => earlier.1.number ≤ later.1.number

/-- The events that were notified are those of the DTMFs `ds`: each once, as soon as a last packet went through the
queue, and in the order in which they were sent when the packets of different DTMFs arrive in order. -/
structure Reports (s : TevSystem) (ds : List Dtmf) : Prop where
  notified : s.receiver.notified.map some = ds.map fun d => tevType d.digit
  nodup : ds.Nodup
  arrived : ∀ d ∈ ds, (d, .last) ∈ s.arrived
  reported : ∀ d, (d, .last) ∈ s.arrived → d.packet .last ∉ s.receiver.tevRq → d ∈ ds
  sublist : s.InOrder → ds.Sublist s.sent
  complete : s.InOrder → s.receiver.tevRq = [] → (∀ d ∈ s.sent, (d, .last) ∈ s.arrived) → ds = s.sent

/-! ### What was sent -/

/-- The DTMFs that were sent are numbered in order, with different timestamps. -/
structure Numbered (s : TevSystem) : Prop where
  shows : Shows 65536 s.sender.sndSeq.toNat s.number
  sent : ∀ d ∈ s.sent, Shows 65536 d.seq.toNat d.number ∧ d.number + 3 ≤ s.number
  spaced : s.sent.Pairwise fun a b => a.number + 3 ≤ b.number
  timestamps : s.sent.Pairwise fun a b => a.timestamp ≠ b.timestamp
  events : ∀ d ∈ s.sent, tevType d.digit = some d.event

lemma shows_add {seq : UInt16} {number : ℤ} (h : Shows 65536 seq.toNat number) (n : ℕ) :
    Shows 65536 (seq + .ofNat n).toNat (number + n) := by
  rw [Shows] at h ⊢
  rw [UInt16.toNat_add, UInt16.toNat_ofNat']
  push_cast at h ⊢
  omega

section numbered

variable {s : TevSystem}

lemma Numbered.step (h : s.Numbered) {a : TevAction} (hpossible : s.Possible a) : (s.step a).Numbered := by
  cases a with
  | send dtmf userts duration =>
    rw [TevSystem.step]
    split
    · rename_i sender pt event hsend hpt hevent
      rw [sendDtmf2_eq hpt hevent s.number] at hsend
      cases hsend
      constructor
      · exact shows_add h.shows 3
      · intro d hd
        simp only [mem_append, mem_singleton] at hd
        rcases hd with hd | rfl
        · have hnumber := (h.sent d hd).2
          exact ⟨(h.sent d hd).1, by simp only; omega⟩
        · exact ⟨h.shows, le_rfl⟩
      · refine pairwise_append.mpr ⟨h.spaced, pairwise_singleton _ _, fun d hd d' hd' => ?_⟩
        obtain rfl := mem_singleton.mp hd'
        exact (h.sent d hd).2
      · refine pairwise_append.mpr ⟨h.timestamps, pairwise_singleton _ _, fun d hd d' hd' => ?_⟩
        obtain rfl := mem_singleton.mp hd'
        exact hpossible d hd
      · intro d hd
        simp only [mem_append, mem_singleton] at hd
        rcases hd with hd | rfl
        · exact h.events d hd
        · exact hevent
    · exact h
  | media n =>
    refine ⟨shows_add h.shows n, fun d hd => ?_, h.spaced, h.timestamps, h.events⟩
    have hnumber := (h.sent d hd).2
    exact ⟨(h.sent d hd).1, by simp only [TevSystem.step]; omega⟩
  | arrive x => exact ⟨h.shows, h.sent, h.spaced, h.timestamps, h.events⟩
  | poll => exact ⟨h.shows, h.sent, h.spaced, h.timestamps, h.events⟩

/-- Two DTMFs that were sent are the same one, or three packets apart. -/
lemma Numbered.apart (h : s.Numbered) {a b : Dtmf} (ha : a ∈ s.sent) (hb : b ∈ s.sent) :
    a = b ∨ a.number + 3 ≤ b.number ∨ b.number + 3 ≤ a.number := by
  have : Std.Symm fun a b : Dtmf => a.number + 3 ≤ b.number ∨ b.number + 3 ≤ a.number := ⟨fun _ _ => Or.symm⟩
  have hapart : s.sent.Pairwise fun a b => a.number + 3 ≤ b.number ∨ b.number + 3 ≤ a.number :=
    h.spaced.imp .inl
  by_cases hab : a = b
  · exact .inl hab
  · exact .inr (hapart.forall ha hb hab)

lemma Numbered.eq_of_timestamp (h : s.Numbered) {a b : Dtmf} (ha : a ∈ s.sent) (hb : b ∈ s.sent)
    (heq : a.timestamp = b.timestamp) : a = b := by
  have : Std.Symm fun a b : Dtmf => a.timestamp ≠ b.timestamp := ⟨fun _ _ => Ne.symm⟩
  by_contra hab
  exact h.timestamps.forall ha hb hab heq

lemma Numbered.eq_of_number (h : s.Numbered) {x y : SentPacket} (hx : x.1 ∈ s.sent) (hy : y.1 ∈ s.sent)
    (heq : x.number = y.number) : x = y := by
  have hx2 := x.2.index_le
  have hy2 := y.2.index_le
  rw [SentPacket.number, SentPacket.number] at heq
  rcases h.apart hx hy with hd | hlt | hlt
  · rw [hd] at heq
    exact Prod.ext hd (Part.index_inj (by omega))
  · omega
  · omega

/-- The numbers of the packets are in the order of their DTMFs. -/
lemma Numbered.le_of_number_lt (h : s.Numbered) {x y : SentPacket} (hx : x.1 ∈ s.sent) (hy : y.1 ∈ s.sent)
    (hlt : x.number < y.number) : x.1.number ≤ y.1.number := by
  have hx2 := x.2.index_le
  have hy2 := y.2.index_le
  rw [SentPacket.number, SentPacket.number] at hlt
  rcases h.apart hx hy with hd | hle | hle
  · rw [hd]
  · omega
  · omega

lemma Numbered.shows_packet (h : s.Numbered) {x : SentPacket} (hx : x.1 ∈ s.sent) :
    Shows 65536 (rtpGetSeqnumber x.bytes).toNat x.number := by
  obtain ⟨d, part⟩ := x
  rw [SentPacket.bytes, rtpGetSeqnumber_packet]
  have hshows := (h.sent d hx).1
  cases part with
  | start => simpa [SentPacket.number, Part.index, Dtmf.seqAt] using hshows
  | middle => exact shows_add hshows 1
  | last => exact shows_add hshows 2

end numbered

/-! ### What waits -/

/-- The queue holds packets that arrived, in the order of their numbers, and those that do not wait left it. -/
structure Queued (s : TevSystem) : Prop where
  tevRq : s.receiver.tevRq = s.queued.map SentPacket.bytes
  sorted : s.queued.Pairwise fun x y => x.number < y.number
  sent : ∀ x ∈ s.arrived, x.1 ∈ s.sent
  queued : ∀ x ∈ s.queued, x ∈ s.arrived
  polled : ∀ x ∈ s.polled, x ∈ s.arrived
  arrived : ∀ x ∈ s.arrived, x ∈ s.queued ∨ x ∈ s.polled

section queued

variable {s : TevSystem} {x : SentPacket}

lemma sent_subset_step (s : TevSystem) (a : TevAction) : s.sent ⊆ (s.step a).sent := by
  cases a with
  | send dtmf userts duration =>
    rw [TevSystem.step]
    split
    · exact subset_append_left _ _
    · exact Subset.refl _
  | media n => exact Subset.refl _
  | arrive x => exact Subset.refl _
  | poll => exact Subset.refl _

/-- The queue of the receiver changes as the packets that wait do. -/
lemma Queued.tevRq_receive (h : s.Queued) (hn : s.Numbered) (hx : x.1 ∈ s.sent)
    (hwindow : ∀ y ∈ s.queued, |x.number - y.number| < 2 ^ 15) : (s.receiver.receive x.bytes).tevRq =
      (enqueue (· > ·) SentPacket.number s.receiver.maxPackets x s.queued).map SentPacket.bytes := by
  have hpayload : HasPayload x.bytes := hasPayload_packet x.1 x.2
  rw [TevSession.receive, queuePacket_q hpayload, h.tevRq]
  apply enqueue_map
  intro y hy
  exact seqnumber_compare (hn.shows_packet hx) (hn.shows_packet (h.sent y (h.queued y hy))) (hwindow y hy)

/-- A packet that arrives waits, be it the one that waited already. -/
lemma Queued.mem_enqueue (h : s.Queued) (hn : s.Numbered) (hx : x.1 ∈ s.sent)
    (hroom : s.receiver.tevRq.length < s.receiver.maxPackets) (y : SentPacket) :
    y ∈ enqueue (· > ·) SentPacket.number s.receiver.maxPackets x s.queued ↔ y = x ∨ y ∈ s.queued := by
  rw [h.tevRq, length_map] at hroom
  rw [enqueue_of_lt hroom]
  cases hinsert : insert (· > ·) SentPacket.number x s.queued.reverse with
  | none =>
    obtain ⟨z, hz, heq⟩ := exists_of_insert_eq_none hinsert
    rw [mem_reverse] at hz
    obtain rfl := hn.eq_of_number (h.sent z (h.queued z hz)) hx heq
    constructor
    · exact .inr
    · rintro (rfl | hy)
      · exact hz
      · exact hy
  | some q =>
    have hmem := mem_insert (a := y) hinsert
    rw [mem_reverse] at hmem
    simpa using hmem

lemma Queued.step (h : s.Queued) (hn : s.Numbered) {a : TevAction} (hpossible : s.Possible a)
    (hharmless : s.Harmless a) : (s.step a).Queued := by
  have hsent := sent_subset_step s a
  cases a with
  | send dtmf userts duration =>
    have hsent' : ∀ x ∈ s.arrived, x.1 ∈ (s.step (.send dtmf userts duration)).sent :=
      fun x hx => hsent (h.sent x hx)
    rw [TevSystem.step] at hsent' ⊢
    split
    · rename_i sender pt event hsend hpt hevent
      simp only [hsend, hpt, hevent] at hsent'
      exact ⟨h.tevRq, h.sorted, hsent', h.queued, h.polled, h.arrived⟩
    · exact h
  | media n => exact ⟨h.tevRq, h.sorted, h.sent, h.queued, h.polled, h.arrived⟩
  | arrive x =>
    obtain ⟨hroom, hwindow⟩ := hharmless
    have hmem := h.mem_enqueue hn hpossible hroom
    constructor
    · exact h.tevRq_receive hn hpossible hwindow
    · exact pairwise_enqueue h.sorted
    · exact forall_mem_cons.mpr ⟨hpossible, h.sent⟩
    · intro y hy
      rcases (hmem y).mp hy with rfl | hy
      · exact mem_cons_self
      · exact mem_cons_of_mem _ (h.queued y hy)
    · exact fun y hy => mem_cons_of_mem _ (h.polled y hy)
    · intro y hy
      rcases mem_cons.mp hy with rfl | hy
      · exact .inl ((hmem y).mpr (.inl rfl))
      · exact (h.arrived y hy).imp_left fun hy => (hmem y).mpr (.inr hy)
  | poll =>
    cases hq : s.queued with
    | nil =>
      have htevRq : s.receiver.tevRq = [] := by rw [h.tevRq, hq, map_nil]
      simp only [TevSystem.step, hq, TevSession.poll, htevRq]
      have hsame : Queued { s with queued := [] } := hq ▸ h
      exact hsame
    | cons x q =>
      have htevRq : s.receiver.tevRq = x.bytes :: q.map SentPacket.bytes := by rw [h.tevRq, hq, map_cons]
      obtain ⟨-, hsorted, hsent, hqueued, hpolled, harrived⟩ := h
      rw [hq] at hsorted hqueued harrived
      simp only [TevSystem.step, hq, TevSession.poll, htevRq, head?_cons, toList_some, tail_cons, singleton_append]
      rw [forall_mem_cons] at hqueued
      constructor
      · exact tevRq_checkTelephoneEvents _ _
      · exact hsorted.of_cons
      · exact hsent
      · exact hqueued.2
      · exact forall_mem_cons.mpr ⟨hqueued.1, hpolled⟩
      · intro y hy
        rw [mem_cons]
        rcases harrived y hy with hy | hy
        · rcases mem_cons.mp hy with rfl | hy
          · exact .inr (.inl rfl)
          · exact .inl hy
        · exact .inr (.inr hy)

end queued

/-! ### What was polled -/

/-- The saved event has ended, by the packets that were polled, the newest first. -/
def ended : List SentPacket → Bool
  | [] => false
  | (_, .start) :: _ => false
  | (d, .middle) :: polled => decide (polled.head?.map Prod.fst = some d) && ended polled
  | (_, .last) :: _ => true

/-- A packet of the DTMF was polled last, and its event has ended. -/
def Continues (polled : List SentPacket) (d : Dtmf) : Prop :=
  polled.head?.map Prod.fst = some d ∧ ended polled = true

instance (polled : List SentPacket) (d : Dtmf) : Decidable (Continues polled d) :=
  inferInstanceAs (Decidable (_ ∧ _))

lemma mem_of_continues {polled : List SentPacket} {d : Dtmf} (h : Continues polled d) : (d, .last) ∈ polled := by
  induction polled with
  | nil => exact absurd h.2 (by decide)
  | cons x polled ih =>
    obtain ⟨d', part⟩ := x
    obtain ⟨hhead, hended⟩ := h
    obtain rfl : d' = d := some.inj hhead
    cases part with
    | start => cases hended
    | middle =>
      rw [ended, Bool.and_eq_true, decide_eq_true_eq] at hended
      exact mem_cons_of_mem _ (ih hended)
    | last => exact mem_cons_self

lemma continues_of_takeWhile {polled : List SentPacket} {d : Dtmf} (hmem : (d, .last) ∈ polled)
    (h : ∀ x ∈ polled.takeWhile (· ≠ (d, .last)), x = (d, .middle)) : Continues polled d := by
  induction polled with
  | nil => cases hmem
  | cons x polled ih =>
    by_cases hx : x = (d, .last)
    · subst hx
      exact ⟨rfl, rfl⟩
    · rw [takeWhile_cons_of_pos (by simpa using hx), forall_mem_cons] at h
      obtain ⟨rfl, hrest⟩ := h
      have hcontinues := ih (mem_of_ne_of_mem (Ne.symm hx) hmem) hrest
      refine ⟨rfl, ?_⟩
      rw [ended, Bool.and_eq_true, decide_eq_true_eq]
      exact hcontinues

/-- The saved packet is one of the DTMF that was polled last, and `ds` are the DTMFs that were notified. -/
structure Polled (s : TevSystem) (ds : List Dtmf) : Prop where
  unsaved : s.polled = [] → s.receiver.currentTev = none
  saved : ∀ x ∈ s.polled.head?, ∃ cur, s.receiver.currentTev = some cur ∧ Saved cur x.1 (ended s.polled)
  notified : s.receiver.notified = ds.map Dtmf.event
  nodup : ds.Nodup
  mem_iff : ∀ d, d ∈ ds ↔ (d, .last) ∈ s.polled

section polled

variable {s : TevSystem} {ds : List Dtmf} {d : Dtmf} {part : Part}

lemma Polled.checkTelephoneEvents (h : s.Polled ds) (hn : s.Numbered) (hq : s.Queued) (hd : d ∈ s.sent)
    (part : Part) (r : TevSession) (hr : r.currentTev = s.receiver.currentTev) :
    ∃ cur, (r.checkTelephoneEvents (d.packet part)).currentTev = some cur ∧
      Saved cur d (ended ((d, part) :: s.polled)) ∧ (r.checkTelephoneEvents (d.packet part)).notified =
        r.notified ++ if part = .last ∧ ¬ Continues s.polled d then [d.event] else [] := by
  by_cases hcontinues : part ≠ .start ∧ s.polled.head?.map Prod.fst = some d
  · -- the saved packet is one of the same DTMF
    obtain ⟨hpart, hhead⟩ := hcontinues
    obtain ⟨x, hx, rfl⟩ := map_eq_some_iff.mp hhead
    obtain ⟨cur, hcur, hsaved⟩ := h.saved x hx
    have hcontinues : Continues s.polled x.1 ↔ ended s.polled = true := and_iff_right hhead
    rw [← hr] at hcur
    rw [checkTelephoneEvents_saved hcur hsaved hpart]
    cases part with
    | start => exact absurd rfl hpart
    | middle =>
      refine ⟨cur, hcur, ?_, by simp⟩
      rwa [ended, hhead, decide_eq_true rfl, Bool.true_and]
    | last =>
      cases hended : ended s.polled with
      | false =>
        refine ⟨setEndedAt cur 0, rfl, hsaved.setEndedAt, ?_⟩
        simp [hcontinues, hended]
      | true =>
        rw [hended] at hsaved
        refine ⟨cur, hcur, hsaved, ?_⟩
        simp [hcontinues, hended]
  · -- the packet is saved
    have hsave : r.checkTelephoneEvents (d.packet part) = r.save (d.packet part) := by
      by_cases hpart : part = .start
      · subst hpart
        exact checkTelephoneEvents_start r d
      · refine checkTelephoneEvents_other (fun cur hcur => ?_) part
        rw [hr] at hcur
        cases hpolled : s.polled with
        | nil =>
          rw [mem_def, h.unsaved hpolled] at hcur
          cases hcur
        | cons x polled =>
          have hne : x.1 ≠ d := fun heq => hcontinues ⟨hpart, by rw [hpolled, ← heq]; rfl⟩
          obtain ⟨cur', hcur', hsaved⟩ := h.saved x (by rw [hpolled]; rfl)
          obtain rfl : cur' = cur := some.inj (hcur'.symm.trans hcur)
          have hx := hq.sent x (hq.polled x (by rw [hpolled]; exact mem_cons_self))
          rw [hsaved.timestamp]
          exact fun heq => hne (hn.eq_of_timestamp hx hd heq)
    have hended : ended ((d, part) :: s.polled) = decide (part = .last) := by
      cases part with
      | start => rfl
      | middle =>
        have hhead : ¬ s.polled.head?.map Prod.fst = some d := fun hhead => hcontinues ⟨by decide, hhead⟩
        rw [ended, decide_eq_false hhead, Bool.false_and]
        rfl
      | last => rfl
    rw [hsave, save_packet, hended]
    refine ⟨_, rfl, saved_packet d part, ?_⟩
    by_cases hlast : part = .last
    · have hnot : ¬ Continues s.polled d := fun h => hcontinues ⟨by rw [hlast]; decide, h.1⟩
      simp [hlast, hnot]
    · simp [hlast]

/-- The DTMFs that were notified, once a packet is polled. -/
def reported (ds : List Dtmf) (x : SentPacket) : List Dtmf := if x.2 = .last ∧ x.1 ∉ ds then ds ++ [x.1] else ds

/-- The DTMFs that were notified, after a step. -/
def reportedAfter (s : TevSystem) (ds : List Dtmf) : TevAction → List Dtmf
  | .poll =>
    match s.queued with
    | [] => ds
    | x :: _ => reported ds x
  | _ => ds

lemma mem_reported (x : SentPacket) (d : Dtmf) : d ∈ reported ds x ↔ (d, .last) = x ∨ d ∈ ds := by
  obtain ⟨d', part⟩ := x
  rw [reported, Prod.mk.injEq]
  by_cases hlast : part = .last
  · subst hlast
    by_cases hds : d' ∈ ds
    · rw [if_neg (fun h => h.2 hds)]
      simp only [and_true]
      exact ⟨.inr, fun h => h.elim (fun heq => heq ▸ hds) id⟩
    · rw [if_pos ⟨rfl, hds⟩, mem_append, mem_singleton]
      simp only [and_true]
      exact or_comm
  · rw [if_neg (fun h => hlast h.1)]
    simp only [Ne.symm hlast, and_false, false_or]

lemma nodup_reported (h : ds.Nodup) (x : SentPacket) : (reported ds x).Nodup := by
  rw [reported]
  split_ifs with hnew
  · simpa using h.concat hnew.2
  · exact h

lemma Polled.step (h : s.Polled ds) (hn : s.Numbered) (hq : s.Queued) {a : TevAction} (hharmless : s.Harmless a) :
    (s.step a).Polled (s.reportedAfter ds a) := by
  cases a with
  | send dtmf userts duration =>
    rw [TevSystem.step]
    split
    · exact ⟨h.unsaved, h.saved, h.notified, h.nodup, h.mem_iff⟩
    · exact h
  | media n => exact ⟨h.unsaved, h.saved, h.notified, h.nodup, h.mem_iff⟩
  | arrive x => exact ⟨h.unsaved, h.saved, h.notified, h.nodup, h.mem_iff⟩
  | poll =>
    cases hqueued : s.queued with
    | nil =>
      have htevRq : s.receiver.tevRq = [] := by rw [hq.tevRq, hqueued, map_nil]
      simp only [TevSystem.step, hqueued, TevSession.poll, htevRq, reportedAfter]
      exact ⟨h.unsaved, h.saved, h.notified, h.nodup, h.mem_iff⟩
    | cons x q =>
      obtain ⟨d, part⟩ := x
      have hmem : (d, part) ∈ s.queued := by rw [hqueued]; exact mem_cons_self
      have hd : d ∈ s.sent := hq.sent _ (hq.queued _ hmem)
      have htevRq : s.receiver.tevRq = d.packet part :: q.map SentPacket.bytes := by
        rw [hq.tevRq, hqueued, map_cons]
        rfl
      obtain ⟨cur, hcur, hsaved, hnotified⟩ :=
        h.checkTelephoneEvents hn hq hd part { s.receiver with tevRq := q.map SentPacket.bytes } rfl
      simp only [TevSystem.step, hqueued, TevSession.poll, htevRq, reportedAfter]
      -- the end is notified when the DTMF was not
      have hnew : part = .last → (Continues s.polled d ↔ d ∈ ds) := by
        rintro rfl
        constructor
        · exact fun hcontinues => (h.mem_iff d).mpr (mem_of_continues hcontinues)
        · intro hds
          have hlast := (h.mem_iff d).mp hds
          exact continues_of_takeWhile hlast (hharmless d (by rw [hqueued]; rfl) hlast)
      constructor
      · exact fun hnil => absurd hnil (cons_ne_nil _ _)
      · intro x hx
        obtain rfl := some.inj hx
        exact ⟨cur, hcur, hsaved⟩
      · rw [hnotified]
        simp only [h.notified, reported]
        by_cases hlast : part = .last
        · rw [if_congr (and_congr_right fun hlast => not_congr (hnew hlast)) rfl rfl]
          split_ifs with hds
          · rw [map_append, map_singleton]
          · rw [append_nil]
        · rw [if_neg (fun h => hlast h.1), if_neg (fun h => hlast h.1), append_nil]
      · exact nodup_reported h.nodup _
      · intro d'
        rw [mem_reported, h.mem_iff]
        exact mem_cons.symm

end polled

/-- When the packets of different DTMFs arrive in order, they leave the queue in order. -/
structure Ordered (s : TevSystem) (ds : List Dtmf) : Prop where
  before : s.InOrder → ∀ x ∈ s.polled, ∀ y ∈ s.queued, x.1.number ≤ y.1.number
  sorted : s.InOrder → ds.Pairwise fun a b => a.number < b.number

section ordered

variable {s : TevSystem} {ds : List Dtmf}

lemma Ordered.step (h : s.Ordered ds) (hn : s.Numbered) (hq : s.Queued) (hp : s.Polled ds) {a : TevAction}
    (hpossible : s.Possible a) (hharmless : s.Harmless a) : (s.step a).Ordered (s.reportedAfter ds a) := by
  cases a with
  | send dtmf userts duration =>
    rw [TevSystem.step]
    split
    · exact ⟨h.before, h.sorted⟩
    · exact h
  | media n => exact ⟨h.before, h.sorted⟩
  | arrive x =>
    have hmem := hq.mem_enqueue hn hpossible hharmless.1
    constructor
    · intro horder y hy z hz
      obtain ⟨hx, horder⟩ := pairwise_cons.mp horder
      rcases (hmem z).mp hz with rfl | hz
      · exact hx y (hq.polled y hy)
      · exact h.before horder y hy z hz
    · exact fun horder => h.sorted (pairwise_cons.mp horder).2
  | poll =>
    cases hqueued : s.queued with
    | nil =>
      simp only [TevSystem.step, hqueued, reportedAfter]
      exact ⟨fun _ x _ y hy => absurd hy not_mem_nil, h.sorted⟩
    | cons x q =>
      have hmem (y : SentPacket) (hy : y ∈ x :: q) : y.1 ∈ s.sent :=
        hq.sent y (hq.queued y (by rw [hqueued]; exact hy))
      have hsorted := hq.sorted
      rw [hqueued, pairwise_cons] at hsorted
      have hbefore (horder : s.InOrder) (y : SentPacket) (hy : y ∈ s.polled) (z : SentPacket) (hz : z ∈ x :: q) :
          y.1.number ≤ z.1.number := h.before horder y hy z (by rw [hqueued]; exact hz)
      simp only [TevSystem.step, hqueued, reportedAfter]
      constructor
      · intro horder y hy z hz
        rcases mem_cons.mp hy with rfl | hy
        · exact hn.le_of_number_lt (hmem _ mem_cons_self) (hmem z (mem_cons_of_mem _ hz))
            (hsorted.1 z hz)
        · exact hbefore horder y hy z (mem_cons_of_mem _ hz)
      · intro horder
        rw [reported]
        split_ifs with hnew
        · refine pairwise_append.mpr ⟨h.sorted horder, pairwise_singleton _ _, fun d hd d' hd' => ?_⟩
          obtain rfl := mem_singleton.mp hd'
          have hpolled := (hp.mem_iff d).mp hd
          have hle := hbefore horder _ hpolled x mem_cons_self
          rcases hn.apart (hq.sent _ (hq.polled _ hpolled)) (hmem x mem_cons_self) with heq | hlt | hlt
          · exact absurd (heq ▸ hd) hnew.2
          · simp only at hlt ⊢
            omega
          · simp only at hlt hle ⊢
            omega
        · exact h.sorted horder

end ordered

/-! ### Runs -/

section runs

variable {s s' : TevSystem}

lemma Initial.numbered (h : s.Initial) : s.Numbered where
  shows := h.shows
  sent := by simp [h.sent]
  spaced := by simp [h.sent]
  timestamps := by simp [h.sent]
  events := by simp [h.sent]

lemma Initial.queued_nil (h : s.Initial) : s.Queued where
  tevRq := by simp [h.tevRq, h.queued]
  sorted := by simp [h.queued]
  sent := by simp [h.arrived]
  queued := by simp [h.queued]
  polled := by simp [h.polled]
  arrived := by simp [h.arrived]

lemma Initial.polled_nil (h : s.Initial) : s.Polled [] where
  unsaved _ := h.currentTev
  saved := by simp [h.polled]
  notified := h.notified
  nodup := nodup_nil
  mem_iff := by simp [h.polled]

/-- What holds in every state that is reached without harm. -/
lemma invariants_of_reaches (hinitial : s.Initial) (h : Reaches Harmless s s') :
    s'.Numbered ∧ s'.Queued ∧ ∃ ds, s'.Polled ds ∧ s'.Ordered ds := by
  induction h with
  | refl =>
    refine ⟨hinitial.numbered, hinitial.queued_nil, [], hinitial.polled_nil, ?_, fun _ => Pairwise.nil⟩
    simp [hinitial.polled]
  | step a _ hpossible hharmless ih =>
    obtain ⟨hn, hq, ds, hp, ho⟩ := ih
    exact ⟨hn.step hpossible, hq.step hn hpossible hharmless, _, hp.step hn hq hharmless,
      ho.step hn hq hp hpossible hharmless⟩

/-- In every state of a run without harm each event was notified once, and those of DTMFs that arrive in order were
notified in that order. -/
theorem exists_reports_of_reaches (hinitial : s.Initial) (h : Reaches Harmless s s') : ∃ ds, s'.Reports ds := by
  obtain ⟨hn, hq, ds, hp, ho⟩ := invariants_of_reaches hinitial h
  have harrived : ∀ d ∈ ds, (d, .last) ∈ s'.arrived := fun d hd => hq.polled _ ((hp.mem_iff d).mp hd)
  have hsent : ds ⊆ s'.sent := fun d hd => hq.sent _ (harrived d hd)
  have hreported : ∀ d, (d, .last) ∈ s'.arrived → d.packet .last ∉ s'.receiver.tevRq → d ∈ ds := by
    intro d hd hwaits
    rcases hq.arrived _ hd with hqueued | hpolled
    · rw [hq.tevRq] at hwaits
      exact absurd (List.mem_map.mpr ⟨_, hqueued, rfl⟩) hwaits
    · exact (hp.mem_iff d).mpr hpolled
  have hspaced : s'.sent.Pairwise fun a b => a.number < b.number := hn.spaced.imp fun h => by omega
  have : Std.Antisymm fun a b : Dtmf => a.number < b.number := ⟨fun a b h h' => absurd (h.trans h') (lt_irrefl _)⟩
  have : Std.Irrefl fun a b : Dtmf => a.number < b.number := ⟨fun a => lt_irrefl _⟩
  refine ⟨ds, ?_, hp.nodup, harrived, hreported, fun horder => ?_, fun horder htevRq hall => ?_⟩
  · rw [hp.notified, List.map_map]
    exact List.map_congr_left fun d hd => (hn.events d (hsent hd)).symm
  · exact List.sublist_of_subperm_of_pairwise (List.subperm_of_subset hp.nodup hsent) (ho.sorted horder) hspaced
  · refine (ho.sorted horder).eq_of_mem_iff hspaced fun d => ⟨fun hd => hsent hd, fun hd => ?_⟩
    exact hreported d (hall d hd) (by rw [htevRq]; exact List.not_mem_nil)

end runs

/-! ### Samples -/

/-- A sender and a receiver that have exchanged nothing. -/
def sample : TevSystem where
  sender := { sndSeq := 65535, ssrc := 1, sendTsOffset := 0, tevPt := some 101 }
  number := 65535
  sent := []
  receiver := { tevRq := [], maxPackets := 100, currentTev := none, notified := [] }
  queued := []
  arrived := []
  polled := []

lemma initial_sample : sample.Initial := ⟨rfl, rfl, rfl, rfl, rfl, rfl, rfl, rfl⟩

def sampleSent : TevSystem := sample.step (.send '5' 160 480)

def sampleDtmf : Dtmf := dtmfOf sample.sender 101 5 65535 '5' 160 480

lemma reaches_sampleSent (P : TevSystem → TevAction → Prop) (h : P sample (.send '5' 160 480)) :
    Reaches P sample sampleSent :=
  .step (.send '5' 160 480) .refl (fun _ hd => absurd hd not_mem_nil) h

def sampleArrived : TevSystem :=
  (sampleSent.step (.arrive (sampleDtmf, .start))).step (.arrive (sampleDtmf, .last))

theorem exists_reports_of_reaches_sample : ∃ ds, ((sampleArrived.step .poll).step .poll).Reports ds := by
  refine exists_reports_of_reaches initial_sample (.step .poll (.step .poll (.step (.arrive (sampleDtmf, .last))
    (.step (.arrive (sampleDtmf, .start)) (reaches_sampleSent Harmless trivial) ?_ ?_) ?_ ?_) trivial ?_) trivial ?_)
  · exact mem_singleton.mpr rfl
  · exact ⟨by decide, fun y hy => absurd hy not_mem_nil⟩
  · exact mem_singleton.mpr rfl
  · refine ⟨by decide, fun y hy => ?_⟩
    obtain rfl := mem_singleton.mp hy
    decide
  · exact fun d _ hmem => absurd hmem not_mem_nil
  · intro d _ hmem
    cases mem_singleton.mp hmem

/-- A last packet, the first one that comes late, and the last one again. -/
def sampleLate : TevSystem :=
  (((((sampleSent.step (.arrive (sampleDtmf, .last))).step .poll).step (.arrive (sampleDtmf, .start))).step
    .poll).step (.arrive (sampleDtmf, .last))).step .poll

/-- A DTMF is notified twice when its first packet comes between two of its last ones. -/
theorem not_reports_of_reaches :
    sample.Initial ∧ Reaches (fun _ _ => True) sample sampleLate ∧ ¬ ∃ ds, sampleLate.Reports ds := by
  have hsent : sampleDtmf ∈ sampleSent.sent := mem_singleton.mpr rfl
  refine ⟨initial_sample, ?_, ?_⟩
  · exact .step .poll (.step (.arrive (sampleDtmf, .last)) (.step .poll (.step (.arrive (sampleDtmf, .start))
      (.step .poll (.step (.arrive (sampleDtmf, .last)) (reaches_sampleSent _ trivial) hsent trivial) trivial trivial)
      hsent trivial) trivial trivial) hsent trivial) trivial trivial
  · rintro ⟨ds, hreports⟩
    have hnotified : sampleLate.receiver.notified = [5, 5] := by decide +kernel
    have hone : ∀ d ∈ ds, d = sampleDtmf := by
      intro d hd
      have harrived := hreports.arrived d hd
      have hall : sampleLate.arrived = [(sampleDtmf, .last), (sampleDtmf, .start), (sampleDtmf, .last)] := rfl
      rw [hall] at harrived
      simpa using harrived
    have hlength := congrArg length hreports.notified
    rw [hnotified, length_map, length_map] at hlength
    match ds, hone, hreports.nodup, hlength with
    | [d, d'], hone, hnodup, _ =>
      have hd := hone d (by simp)
      have hd' := hone d' (by simp)
      simp [hd, hd'] at hnodup

end TevSystem

end Ortp
