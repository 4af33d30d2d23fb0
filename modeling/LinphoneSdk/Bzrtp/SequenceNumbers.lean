import LinphoneSdk.Bzrtp.Refinement
import Mathlib.Logic.Relation

/-!
# Sequence numbers

`bzrtp_packetCheck` compares the sequence number of a packet with the last one that the state machine
kept, but not the one of the fragment that completes a message, and three messages are accepted without
keeping their number.
-/

namespace Bzrtp

open Bytes Chunks Exec

section sequenceNumbers

variable {P : CipherPrimitives}

/-! ### Histories -/

def handedPacket (env : Environment P) (call : Call P) (w : World P) : Option Packet :=
  match eventOf env call w true with
  | .message m => some m.zrtpPacket
  | _ => none

/-- A channel, with the packets that its state machine accepted. -/
structure History (P : CipherPrimitives) where
  world : World P
  processed : List Packet

/-- A call that returns. -/
def History.Next (env : Environment P) (call : Call P) (h h' : History P) : Prop :=
  (perform env call h.world = .ok () h'.world ∧ h'.processed = (handedPacket env call h.world).toList ++ h.processed) ∨
    ∃ e, perform env call h.world = .error e h'.world ∧ e ≠ .UNDEFINED ∧ h'.processed = h.processed

def History.ok (env : Environment P) (call : Call P) (w' : World P) (h : History P) : History P :=
  ⟨w', (handedPacket env call h.world).toList ++ h.processed⟩

lemma History.next_ok {env : Environment P} {call : Call P} {h : History P} {w' : World P}
    (hrun : perform env call h.world = .ok () w') : h.Next env call (h.ok env call w') :=
  .inl ⟨hrun, rfl⟩

/-- The messages whose number may not be kept. -/
def unnumbered : List MessageType := [.conf2ACK, .goClear, .clearACK]

def Call.IsFragment (call : Call P) : Prop := ∃ input, call = .processMessage input ∧ isFragmented input

/-- A message completed by a fragment comes after the last packet kept, and no packet comes late after a
message whose number may not be kept. -/
structure History.InOrder (env : Environment P) (call : Call P) (h : History P) : Prop where
  fragment : ∀ packet, handedPacket env call h.world = some packet → call.IsFragment →
    h.world.ch.peerSequenceNumber < packet.sequenceNumber
  unnumbered : ∀ packet, handedPacket env call h.world = some packet →
    ∀ q ∈ h.processed, q.messageType ∈ unnumbered → q.sequenceNumber < packet.sequenceNumber

def OrderedStep (h h' : History P) : Prop := ∃ env call, h.InOrder env call ∧ h.Next env call h'

/-! ### Steps -/

lemma sequenceNumber_messageCheck {sequenceNumber : UInt16} {input packetString : Bytes}
    {inputLength : ℕ} {zrtpPacket : Packet}
    (h : messageCheck sequenceNumber input inputLength = .packet zrtpPacket packetString) :
    zrtpPacket.sequenceNumber = sequenceNumber := by
  rw [messageCheck] at h
  split_ifs at h
  split at h
  · cases h
  · cases h
    rfl

/-- A packet that is not a fragment is newer than the last one kept. -/
lemma lt_of_packetCheck {malloc : (n : ℕ) → Buf n} {input packetString : Bytes} {ch : ChannelContext}
    {zrtpPacket : Packet} (h : (packetCheck malloc input ch).result = .packet zrtpPacket packetString)
    (hplain : ¬ isFragmented input) : ch.peerSequenceNumber < zrtpPacket.sequenceNumber := by
  rw [packetCheck] at h
  cases hheader : packetHeaderCheck input ch with
  | some exitCode => rw [hheader] at h; cases h
  | none =>
    simp only [hheader, if_neg hplain] at h
    rw [sequenceNumber_messageCheck h]
    by_contra hle
    rw [packetHeaderCheck] at hheader
    split_ifs at hheader with _ _ horder
    exact horder ⟨hplain, UInt16.not_lt.mp hle⟩

lemma lt_of_handedPacket {env : Environment P} {call : Call P} {w : World P} {packet : Packet}
    (h : handedPacket env call w = some packet) (hplain : ¬ call.IsFragment) :
    w.ch.peerSequenceNumber < packet.sequenceNumber := by
  cases call with
  | processMessage input =>
    simp only [handedPacket, eventOf] at h
    cases hresult : (packetCheck env.malloc input w.ch.toChannelContext).result with
    | error exitCode =>
      rw [hresult] at h
      cases hs : w.ch.stateMachine <;> simp [hs] at h
    | packet zrtpPacket packetString =>
      have hlt := lt_of_packetCheck hresult fun hfragment => hplain ⟨input, rfl, hfragment⟩
      rw [hresult] at h
      cases hs : w.ch.stateMachine with
      | none => simp [hs] at h
      | some s =>
        simp only [hs] at h
        split_ifs at h
        · cases h
          exact hlt
  | _ => cases h

/-- A transition keeps the number of a message, or the one before; it keeps it when the message is
accepted, but for three types. -/
lemma Transition.peerSequenceNumber {P : Primitives} {m : Handed} {c c' : Core} (h : Transition P (.message m) c c') :
    c'.peerSequenceNumber = m.zrtpPacket.sequenceNumber ∨ c'.peerSequenceNumber = c.peerSequenceNumber ∧
        (m.accepted = true → m.zrtpPacket.messageType ∈ unnumbered) := by
  cases h with
  | kept e h => exact absurd rfl (h m)
  | refused haccepted => exact .inr ⟨rfl, fun h => by simp [haccepted] at h⟩
  | conf2ACK hs htype => exact .inr ⟨rfl, fun _ => by rw [htype]; decide⟩
  | goneClear hs hstate =>
    refine .inr ⟨rfl, fun _ => ?_⟩
    rcases hstate with ⟨-, htype⟩ | ⟨-, htype⟩
    · rw [htype]
      decide
    · rw [htype]
      decide
  | derived hs haccepted => exact .inr ⟨rfl, fun h => by simp [haccepted] at h⟩
  | turned hs hcommit hstate hs' hH2 selfCommit selfDHPart hmacFunction hashLength hc' =>
    obtain ⟨_, _, _, _, rfl⟩ := hc'.exists_eq
    left
    split_ifs
    · rfl
    · rfl
  | dhPart2 hs hH1 hhashed hs0 hhmac hc' =>
    obtain ⟨_, _, _, _, rfl⟩ := hc'.exists_eq
    exact .inl rfl
  | _ => exact .inl rfl

/-- Nothing else changes the number. -/
lemma Transition.peerSequenceNumber_of_ne {P : Primitives} {e : Event} {c c' : Core}
    (h : Transition P e c c') (he : ∀ m, e ≠ .message m) : c'.peerSequenceNumber = c.peerSequenceNumber := by
  cases h with
  | kept | session | started | goClearStarted | wentClear | backToSecure | reset | packetsDeleted | restarted => rfl
  | _ => exact absurd rfl (he _)

/-! ### Runs -/

/-- The packets processed are not newer than the last one kept, but for three types. -/
def History.Kept (h : History P) : Prop :=
  ∀ q ∈ h.processed, q.sequenceNumber ≤ h.world.ch.peerSequenceNumber ∨ q.messageType ∈ unnumbered

variable {env : Environment P} {call : Call P} {h h' : History P}

lemma lt_of_inOrder (hin : h.InOrder env call) {packet : Packet}
    (hpacket : handedPacket env call h.world = some packet) :
    h.world.ch.peerSequenceNumber < packet.sequenceNumber := by
  by_cases hfragment : call.IsFragment
  · exact hin.fragment packet hpacket hfragment
  · exact lt_of_handedPacket hpacket hfragment

lemma eventOf_cases (env : Environment P) (call : Call P) (w : World P) :
    (∃ m : Handed, handedPacket env call w = some m.zrtpPacket ∧
      ∀ accepted, eventOf env call w accepted = .message { m with accepted := accepted }) ∨
    handedPacket env call w = none ∧ ∀ accepted m, eventOf env call w accepted ≠ .message m := by
  cases call with
  | processMessage input =>
    simp only [handedPacket, eventOf]
    cases hs : w.ch.stateMachine with
    | none => exact .inr ⟨rfl, fun _ _ h => by cases h⟩
    | some s =>
      cases (packetCheck env.malloc input w.ch.toChannelContext).result with
      | error exitCode => exact .inr ⟨rfl, fun _ _ h => by cases h⟩
      | packet zrtpPacket packetString =>
        by_cases hping : zrtpPacket.messageType = .ping
        · simp only [if_pos hping]
          exact .inr ⟨trivial, fun _ _ h => by cases h⟩
        · simp only [if_neg hping]
          exact .inl ⟨handed env w.ch.toParserContext zrtpPacket packetString true, rfl, fun _ => rfl⟩
  | _ => exact .inr ⟨rfl, fun _ _ h => by cases h⟩

/-- A step keeps the number of the packet handed, or the one before; it keeps it when the packet is
processed, but for three types. -/
lemma History.Next.peerSequenceNumber (hnext : h.Next env call h') :
    (h'.world.ch.peerSequenceNumber = h.world.ch.peerSequenceNumber ∨
      ∃ packet, handedPacket env call h.world = some packet ∧ h'.world.ch.peerSequenceNumber = packet.sequenceNumber) ∧
    (h'.processed = h.processed ∨ ∃ packet, handedPacket env call h.world = some packet ∧
      h'.processed = packet :: h.processed ∧ (h'.world.ch.peerSequenceNumber = packet.sequenceNumber ∨
          packet.messageType ∈ Bzrtp.unnumbered)) := by
  have hfollows := (follows call : Follows env call) h.world
  rcases eventOf_cases env call h.world with ⟨m, hpacket, hevent⟩ | ⟨hpacket, hevent⟩
  · have hstep (accepted : Bool) (htransition : Transition P.toPrimitives (eventOf env call h.world accepted)
        h.world.core h'.world.core) :
        h'.world.ch.peerSequenceNumber = m.zrtpPacket.sequenceNumber ∨
          h'.world.ch.peerSequenceNumber = h.world.ch.peerSequenceNumber ∧
            (accepted = true → m.zrtpPacket.messageType ∈ Bzrtp.unnumbered) := by
      rw [hevent] at htransition
      exact htransition.peerSequenceNumber
    rcases hnext with ⟨hrun, hprocessed⟩ | ⟨e, hrun, he, hprocessed⟩
    · have htransition := wp_of_ok hfollows hrun
      rw [hpacket] at hprocessed
      rcases hstep true htransition with hseq | ⟨hseq, htype⟩
      · exact ⟨.inr ⟨_, hpacket, hseq⟩, .inr ⟨_, hpacket, hprocessed, .inl hseq⟩⟩
      · exact ⟨.inl hseq, .inr ⟨_, hpacket, hprocessed, .inr (htype rfl)⟩⟩
    · have htransition := wp_of_error hfollows hrun
      rcases hstep false (htransition he) with hseq | ⟨hseq, -⟩
      · exact ⟨.inr ⟨_, hpacket, hseq⟩, .inl hprocessed⟩
      · exact ⟨.inl hseq, .inl hprocessed⟩
  · rcases hnext with ⟨hrun, hprocessed⟩ | ⟨e, hrun, he, hprocessed⟩
    · have htransition := wp_of_ok hfollows hrun
      rw [hpacket] at hprocessed
      exact ⟨.inl (Transition.peerSequenceNumber_of_ne htransition (hevent true)), .inl hprocessed⟩
    · have htransition := wp_of_error hfollows hrun
      exact ⟨.inl (Transition.peerSequenceNumber_of_ne (htransition he) (hevent false)), .inl hprocessed⟩

lemma History.Kept.next (hkept : h.Kept) (hin : h.InOrder env call) (hnext : h.Next env call h') :
    h'.Kept ∧ h.world.ch.peerSequenceNumber ≤ h'.world.ch.peerSequenceNumber := by
  obtain ⟨hnumber, hprocessed⟩ := hnext.peerSequenceNumber
  have hle : h.world.ch.peerSequenceNumber ≤ h'.world.ch.peerSequenceNumber := by
    rcases hnumber with heq | ⟨packet, hpacket, heq⟩
    · exact UInt16.le_of_eq heq.symm
    · rw [heq]
      exact UInt16.le_of_lt (lt_of_inOrder hin hpacket)
  refine ⟨fun q hq => ?_, hle⟩
  have hold : q ∈ h.processed →
      q.sequenceNumber ≤ h'.world.ch.peerSequenceNumber ∨ q.messageType ∈ Bzrtp.unnumbered := by
    intro hq
    rcases hkept q hq with hq | hq
    · exact .inl (UInt16.le_trans hq hle)
    · exact .inr hq
  rcases hprocessed with heq | ⟨packet, hpacket, heq, hstored⟩
  · rw [heq] at hq
    exact hold hq
  · rw [heq] at hq
    rcases List.mem_cons.mp hq with rfl | hq
    · rcases hstored with hstored | hstored
      · exact .inl (UInt16.le_of_eq hstored.symm)
      · exact .inr hstored
    · exact hold hq

lemma kept_of_run {w : World P} (hrun : Relation.ReflTransGen OrderedStep ⟨w, []⟩ h) : h.Kept := by
  induction hrun with
  | refl => exact fun q hq => absurd hq List.not_mem_nil
  | tail _ hstep ih =>
    obtain ⟨env, call, hin, hnext⟩ := hstep
    exact (ih.next hin hnext).1

/-- In a run in order, the number kept never decreases, and a packet handed to the state machine is newer
than all the packets processed before. -/
theorem newer_than_processed {w : World P} (hrun : Relation.ReflTransGen OrderedStep ⟨w, []⟩ h)
    (hin : h.InOrder env call) (hnext : h.Next env call h') :
    h.world.ch.peerSequenceNumber ≤ h'.world.ch.peerSequenceNumber ∧
      ∀ packet, handedPacket env call h.world = some packet →
        ∀ q ∈ h.processed, q.sequenceNumber < packet.sequenceNumber := by
  have hkept := kept_of_run hrun
  refine ⟨(hkept.next hin hnext).2, fun packet hpacket q hq => ?_⟩
  rcases hkept q hq with hle | htype
  · exact UInt16.lt_of_le_of_lt hle (lt_of_inOrder hin hpacket)
  · exact hin.unnumbered packet hpacket q hq htype

end sequenceNumbers

/-! ### A Hello message that comes late, in a fragment -/

def helloACKPacket : Bytes :=
  [0x10, 0, 0, 10] ++ be32 ZRTP_MAGIC_COOKIE ++ [0, 0, 0, 0] ++ [0x50, 0x5a, 0, 3] ++
    messageTypeString .helloACK ++ [5, 75, 131, 208]

/-- A Hello message in one fragment. -/
def helloFragment (sequenceNumber : UInt8) : Bytes :=
  let packet := [0x11, 0, 0, sequenceNumber] ++ be32 ZRTP_MAGIC_COOKIE ++ [0, 0, 0, 0] ++
    [0, 1, 0, 22, 0, 0, 0, 22] ++ ([0x50, 0x5a, 0, 22] ++ messageTypeString .hello ++ ascii "1.10" ++
      List.replicate 72 0)
  packet ++ be32 (CRC32 packet)

def startedWorld : World .sample := final (perform .sample .startChannelEngine) sampleWorld

/-- That channel, once it received the HelloACK message. -/
def helloACKWorld : World .sample :=
  final (perform .sample (.processMessage helloACKPacket)) startedWorld

/-- That channel, once it received the fragment. -/
def helloFragmentWorld (sequenceNumber : UInt8) : World .sample :=
  final (perform .sample (.processMessage (helloFragment sequenceNumber))) helloACKWorld

/-- The channel and the packet it processed. -/
def helloACKHistory : History .sample :=
  History.ok .sample (.processMessage helloACKPacket) helloACKWorld ⟨startedWorld, []⟩

/-- The HelloACK message with the number 10, then the Hello message with the number 11, in a fragment. -/
theorem newer_than_processed_helloACK : helloACKHistory.processed.map Packet.sequenceNumber = [10] ∧
      helloACKHistory.world.ch.peerSequenceNumber ≤ (helloFragmentWorld 11).ch.peerSequenceNumber ∧
      ∀ packet, handedPacket .sample (.processMessage (helloFragment 11)) helloACKHistory.world = some packet →
        ∀ q ∈ helloACKHistory.processed, q.sequenceNumber < packet.sequenceNumber := by
  have hACK : perform .sample (.processMessage helloACKPacket) startedWorld = .ok () helloACKWorld :=
    eq_ok_of_returns (by decide +kernel)
  have hHello : perform .sample (.processMessage (helloFragment 11)) helloACKHistory.world =
      .ok () (helloFragmentWorld 11) := eq_ok_of_returns (by decide +kernel)
  have hnumber : (handedPacket .sample (.processMessage (helloFragment 11)) helloACKHistory.world).map
      Packet.sequenceNumber = some 11 := by decide +kernel
  have hlast : helloACKHistory.world.ch.peerSequenceNumber < 11 := by decide +kernel
  have hstep : OrderedStep ⟨startedWorld, []⟩ helloACKHistory := by
    refine ⟨_, _, ⟨?_, fun _ _ q hq => absurd hq List.not_mem_nil⟩, History.next_ok hACK⟩
    rintro packet - ⟨input, hinput, hfragment⟩
    cases hinput
    exact absurd hfragment (by decide)
  have htypes : ∀ q ∈ helloACKHistory.processed, q.messageType ∉ unnumbered := by decide +kernel
  have hin : helloACKHistory.InOrder .sample (.processMessage (helloFragment 11)) := by
    refine ⟨fun packet hpacket _ => ?_, fun _ _ q hq htype => absurd htype (htypes q hq)⟩
    rw [hpacket, Option.map_some, Option.some_inj] at hnumber
    rwa [hnumber]
  have hnewer := newer_than_processed (.single hstep) hin (History.next_ok hHello)
  simp only [History.ok] at hnewer
  exact ⟨by decide +kernel, hnewer⟩

/-- The number kept decreases from 10 to 5. -/
theorem not_newer_than_processed :
    ¬ ∀ (P : CipherPrimitives) (env : Environment P) (call : Call P) (w : World P) (h h' : History P), w.Initial →
      Relation.ReflTransGen (fun h h' => ∃ env call, History.Next env call h h') ⟨w, []⟩ h →
      h.Next env call h' → h.world.ch.peerSequenceNumber ≤ h'.world.ch.peerSequenceNumber ∧
        ∀ packet, handedPacket env call h.world = some packet →
          ∀ q ∈ h.processed, q.sequenceNumber < packet.sequenceNumber := by
  intro hall
  have hstart : perform .sample .startChannelEngine sampleWorld = .ok () startedWorld :=
    eq_ok_of_returns (by decide +kernel)
  have hACK : perform .sample (.processMessage helloACKPacket) startedWorld = .ok () helloACKWorld :=
    eq_ok_of_returns (by decide +kernel)
  have hHello : perform .sample (.processMessage (helloFragment 5)) helloACKWorld =
      .ok () (helloFragmentWorld 5) := eq_ok_of_returns (by decide +kernel)
  have hnext₁ := History.next_ok (h := ⟨sampleWorld, []⟩) hstart
  have hnext₂ := History.next_ok
    (h := History.ok .sample .startChannelEngine startedWorld ⟨sampleWorld, []⟩) hACK
  have hnext₃ := History.next_ok (h := (History.ok .sample .startChannelEngine startedWorld
    ⟨sampleWorld, []⟩).ok .sample (.processMessage helloACKPacket) helloACKWorld) hHello
  have hle := (hall _ _ _ _ _ _ ⟨.sample, 0, true, zeros 32, 0, rfl⟩
    ((Relation.ReflTransGen.single ⟨_, _, hnext₁⟩).tail ⟨_, _, hnext₂⟩) hnext₃).1
  simp only [History.ok] at hle
  have hlt : (helloFragmentWorld 5).ch.peerSequenceNumber < helloACKWorld.ch.peerSequenceNumber := by
    decide +kernel
  exact absurd hle (UInt16.not_le.mpr hlt)

end Bzrtp
