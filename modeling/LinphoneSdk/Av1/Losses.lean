import LinphoneSdk.Av1.Delivery

/-!
# Losses of AV1 packets

The unpacker sees that a packet is lost by its number, and says so for the packet that comes next, unless a frame
comes out with it. The packets that make up each frame tell when a frame is not what was sent.
-/

namespace Av1

open Flags Ms2 Rounding List Option Bool Prod

/-! ### The packets of a stream -/

/-- Packets from the number `seq` on, only the first with the bit `N`, if `first`, and only the last with the marker,
if `marker`. -/
inductive Train (marker : Bool) : Bool → UInt16 → List Mblk → Prop
  | last {first : Bool} {seq : UInt16} {m : Mblk} (hcseq : m.cseq = seq) (hfirst : isFirst m = first)
      (hmarker : m.marker_info = marker) : Train marker first seq [m]
  | cons {first : Bool} {seq : UInt16} {m : Mblk} {ms : List Mblk} (hcseq : m.cseq = seq) (hfirst : isFirst m = first)
      (hmarker : m.marker_info = false) (hms : Train marker false (seq + 1) ms) : Train marker first seq (m :: ms)

/-- The packets of messages, one after the other. -/
inductive Trains : UInt16 → List (List Mblk) → Prop
  | nil {seq : UInt16} : Trains seq []
  | cons {seq : UInt16} {ms : List Mblk} {mss : List (List Mblk)} (hms : ms = [] ∨ Train true true seq ms)
      (hmss : Trains (seq + .ofNat ms.length) mss) : Trains seq (ms :: mss)

section packing

variable {marker first : Bool} {seq : UInt16} {ms ms' : List Mblk}

lemma Train.append (h : Train false first seq ms) (h' : Train marker false (seq + .ofNat ms.length) ms') :
    Train marker first seq (ms ++ ms') := by
  induction h with
  | last hcseq hfirst hmarker => exact .cons hcseq hfirst hmarker h'
  | cons hcseq hfirst hmarker _ ih =>
    rw [length_cons, UInt16.ofNat_succ_add] at h'
    exact .cons hcseq hfirst hmarker (ih h')

lemma train_makeFragments (maxPacketSize n : ℕ) (N : Bool) (ts : UInt32) (source : Mblk) (remaining : Bytes) :
    Train marker (first && N) seq (makeFragments maxPacketSize N marker ts source (n + 1) first remaining seq) := by
  induction n generalizing first seq remaining with
  | zero =>
    rw [makeFragments, makeFragments]
    exact .last rfl (isFirst_makePacket ..) (Bool.and_true marker)
  | succ n ih =>
    rw [makeFragments]
    refine .cons rfl (isFirst_makePacket ..) (Bool.and_false marker) ?_
    exact @ih false (seq + 1) _

lemma double_pos {x : ℚ} (hx : 0 < x) : 0 < double x := by
  have hle := sub_le_double hx
  have hlt : x * 2 ^ (-53 : ℤ) < x := mul_lt_of_lt_one_right hx (by norm_num)
  linarith

lemma divCeil_pos {a b : ℕ} (ha : 0 < a) (hb : 0 < b) : 0 < divCeil a b := by
  have ha' : (0 : ℚ) < a := by exact_mod_cast ha
  have hb' : (0 : ℚ) < b := by exact_mod_cast hb
  exact Int.ceil_pos.2 (double_pos (div_pos (double_pos ha') (double_pos hb')))

/-- The number of packets is positive. -/
lemma msVideoPayloadSizes_pos {bitstreamSize maxPayloadSize p : ℕ} {n : ℤ} {equalSizeEnabled : Bool}
    (hpos : 0 < bitstreamSize) (h : msVideoPayloadSizes bitstreamSize maxPayloadSize equalSizeEnabled = some (p, n)) :
    0 < n := by
  rw [msVideoPayloadSizes] at h
  by_cases hone : bitstreamSize + 1 < maxPayloadSize
  · rw [if_pos hone] at h
    obtain ⟨-, rfl⟩ := mk.inj (some.inj h)
    exact one_pos
  by_cases hsmall : maxPayloadSize ≤ 1
  · rw [if_neg hone, if_pos hsmall] at h
    cases h
  rw [if_neg hone, if_neg hsmall, bind_eq_bind, bind_eq_some_iff] at h
  obtain ⟨packetsNumber, hnumber, h⟩ := h
  have hdiv := divCeil_pos (b := maxPayloadSize - 1) hpos (by omega)
  rw [toInt] at hnumber
  split_ifs at hnumber
  obtain rfl := some.inj hnumber
  split_ifs at h
  · simp only [bind_eq_some_iff] at h
    obtain ⟨_, -, _, -, hpair⟩ := h
    obtain ⟨-, rfl⟩ := mk.inj (some.inj hpair)
    exact hdiv
  · obtain ⟨-, rfl⟩ := mk.inj (some.inj h)
    exact hdiv

variable {packer packer' : ObuPacker} {obu : Bytes} {obus : List Bytes} {N : Bool} {ts : UInt32}
  {source : Mblk}

/-- An OBU gives a packet at least. -/
lemma train_sendObu (hobu : obu ≠ []) (h : sendObu packer obu N marker ts source = some ms) :
    Train marker N packer.seq ms := by
  rw [sendObu, bind_eq_bind, bind_eq_some_iff] at h
  obtain ⟨⟨maxPacketSize, packetsNumber⟩, hsizes, h⟩ := h
  have hpos := msVideoPayloadSizes_pos (length_pos_iff.2 hobu) hsizes
  dsimp only at h
  split_ifs at h
  · obtain rfl := some.inj h
    exact .last rfl (isFirst_makePacket ..) rfl
  · obtain rfl := some.inj h
    obtain ⟨n, hn⟩ : ∃ n, packetsNumber.toNat = n + 1 := ⟨packetsNumber.toNat - 1, by omega⟩
    have htrain := @train_makeFragments marker true packer.seq maxPacketSize n N ts source obu
    rwa [Bool.true_and, ← hn] at htrain

/-- The OBUs of a message give one train. -/
lemma train_sendObus (hobus : ∀ obu ∈ obus, obu ≠ []) (h : sendObus packer N ts source obus = some (ms, packer')) :
    packer' = { packer with seq := packer.seq + .ofNat ms.length } ∧
      (obus = [] ∧ ms = [] ∨ Train true N packer.seq ms) := by
  induction obus generalizing packer N ms with
  | nil =>
    obtain ⟨rfl, rfl⟩ := mk.inj (some.inj h)
    refine ⟨?_, .inl ⟨rfl, rfl⟩⟩
    rw [length_nil]
    exact congrArg (fun seq => { packer with seq }) (UInt16.add_zero _).symm
  | cons obu obus ih =>
    obtain ⟨hobu, hobus⟩ := forall_mem_cons.1 hobus
    simp only [sendObus, bind_eq_bind, bind_eq_some_iff] at h
    obtain ⟨ms₁, hms₁, ⟨ms₂, packer₂⟩, hms₂, hresult⟩ := h
    obtain ⟨rfl, rfl⟩ := mk.inj (some.inj hresult)
    have hfirst := train_sendObu hobu hms₁
    obtain ⟨rfl, hrest⟩ := ih hobus hms₂
    refine ⟨?_, .inr ?_⟩
    · dsimp only
      rw [length_append, UInt16.ofNat_add, ← UInt16.add_assoc]
    · obtain ⟨rfl, rfl⟩ | hrest := hrest
      · rwa [append_nil]
      · cases obus with
        | nil =>
          obtain ⟨rfl, -⟩ := mk.inj (some.inj hms₂)
          cases hrest
        | cons obu' obus => exact hfirst.append hrest

lemma ne_nil_of_mem_parseObus {fuel : ℕ} {buf : Bytes} (h : parseObus fuel buf = .ok obus) :
    ∀ obu ∈ obus, obu ≠ [] := by
  induction fuel generalizing buf obus with
  | zero =>
    cases buf with
    | nil =>
      cases h
      exact fun obu hobu => by cases hobu
    | cons b buf => cases h
  | succ fuel ih =>
    cases buf with
    | nil =>
      cases h
      exact fun obu hobu => by cases hobu
    | cons b buf =>
      simp only [parseObus, bind, Except.bind] at h
      split at h
      · cases h
      next next hparse =>
      obtain ⟨type, size⟩ := next
      have htake : (b :: buf).take size ≠ [] := by
        obtain ⟨k, rfl⟩ := Nat.exists_eq_add_of_lt (parseNextObu_pos hparse)
        rw [Nat.zero_add, take_succ_cons]
        exact cons_ne_nil _ _
      split at h
      · cases h
      next rest hrest =>
      dsimp only at h
      split_ifs at h <;> cases h
      · exact ih hrest
      · exact forall_mem_cons.2 ⟨htake, ih hrest⟩

lemma train_packMessage {m : Mblk} (h : packMessage packer m ts = some (ms, packer')) :
    packer' = { packer with seq := packer.seq + .ofNat ms.length } ∧ (ms = [] ∨ Train true true packer.seq ms) := by
  rw [packMessage] at h
  cases hparse : parseObus m.bytes.length m.bytes with
  | error e =>
    rw [hparse] at h
    cases e with
    | refused =>
      obtain ⟨rfl, rfl⟩ := mk.inj (some.inj h)
      exact ⟨congrArg (fun seq => { packer with seq }) (UInt16.add_zero _).symm, .inl rfl⟩
    | beyond => cases h
  | ok obus =>
    rw [hparse] at h
    obtain ⟨hpacker, htrain⟩ := train_sendObus (ne_nil_of_mem_parseObus hparse) h
    exact ⟨hpacker, htrain.imp_left And.right⟩

/-- The messages give trains that follow one another. -/
lemma trains_packMessages {messages : List (Mblk × UInt32)} {mss : List (List Mblk)}
    (h : packMessages packer messages = some (mss, packer')) : Trains packer.seq mss := by
  induction messages generalizing packer mss with
  | nil =>
    obtain ⟨rfl, -⟩ := mk.inj (some.inj h)
    exact .nil
  | cons message messages ih =>
    simp only [packMessages, bind_eq_bind, bind_eq_some_iff] at h
    obtain ⟨⟨ms, packer₁⟩, hms, ⟨mss', packer₂⟩, hmss, hresult⟩ := h
    obtain ⟨rfl, rfl⟩ := mk.inj (some.inj hresult)
    obtain ⟨rfl, htrain⟩ := train_packMessage hms
    exact .cons htrain (ih hmss)

end packing

/-! ### The packets of a frame -/

structure SentUnit where
  number : ℕ
  packets : List Mblk
  deriving DecidableEq

/-- The packets of a frame that is being put together, with their units. -/
abbrev Aggregated : Type := Option (List (SentUnit × Mblk))

/-- The packets that `feed` puts in the frame that is complete, and in the one that is aggregated, each with the unit
it is from. -/
def feedPackets (aggregated : Aggregated) (packet : SentUnit × Mblk) : Aggregated × Aggregated :=
  let aggregated := if isFirst packet.2 then some [packet] else aggregated.map (· ++ [packet])
  if packet.2.marker_info then (aggregated, none) else (none, aggregated)

/-- What comes out for each of the packets, with the packets of the frame. -/
def unpackPackets (unpacker : ObuUnpacker) (aggregated : Aggregated) :
    List (SentUnit × Mblk) → List (SentUnit × Status × Aggregated)
  | [] => []
  | packet :: packets =>
    let (ret, _, unpacker) := unpack unpacker packet.2
    let (complete, aggregated) := feedPackets aggregated packet
    (packet.1, ret, complete) :: unpackPackets unpacker aggregated packets

def payloads (packets : List (SentUnit × Mblk)) : Bytes := (packets.map fun p => p.2.bytes.tail).flatten

section packets

variable {frame : Option Mblk} {aggregated : Aggregated} {unpacker : ObuUnpacker}

lemma payloads_append_singleton (packets : List (SentUnit × Mblk)) (packet : SentUnit × Mblk) :
    payloads (packets ++ [packet]) = payloads packets ++ packet.2.bytes.tail := by
  rw [payloads, map_append, flatten_append]
  exact congrArg (payloads packets ++ ·) (append_nil _)

lemma feed_packets (h : frame.map Mblk.bytes = aggregated.map payloads) (packet : SentUnit × Mblk) :
    (feed frame packet.2).1.map Mblk.bytes = (feedPackets aggregated packet).1.map payloads ∧
      (feed frame packet.2).2.map Mblk.bytes = (feedPackets aggregated packet).2.map payloads := by
  have hone : payloads [packet] = packet.2.bytes.tail := append_nil _
  cases hmarker : packet.2.marker_info <;> cases hfirst : isFirst packet.2 <;> cases frame <;> cases aggregated <;>
    simp_all [feed, feedPackets, completeAggregation, payloads_append_singleton]

/-- The packets tell what the code gives. -/
lemma unpackPackets_eq (h : unpacker.frame.map Mblk.bytes = aggregated.map payloads)
    (packets : List (SentUnit × Mblk)) :
    (unpackPackets unpacker aggregated packets).map (fun r => (r.2.1, r.2.2.map payloads)) =
      outputs unpacker (packets.map snd) := by
  induction packets generalizing unpacker aggregated with
  | nil => rfl
  | cons packet packets ih =>
    obtain ⟨hcomplete, haggregated⟩ := feed_packets h packet
    have hrest := @ih (feedPackets aggregated packet).2 (unpack unpacker packet.2).2.2 haggregated
    have hhead : ((unpack unpacker packet.2).1, (feedPackets aggregated packet).1.map payloads) =
        ((unpack unpacker packet.2).1, (unpack unpacker packet.2).2.1.map Mblk.bytes) :=
      Prod.ext rfl hcomplete.symm
    exact congrArg₂ cons hhead hrest

def framesOf (aggregated : Aggregated) : List (SentUnit × Mblk) → List (SentUnit × List (SentUnit × Mblk))
  | [] => []
  | packet :: packets =>
    let (complete, aggregated) := feedPackets aggregated packet
    (complete.toList.map fun frame => (packet.1, frame)) ++ framesOf aggregated packets

/-- A frame that comes out is said to be available. -/
lemma mem_unpackPackets_iff (h : unpacker.frame.map Mblk.bytes = aggregated.map payloads)
    {packets : List (SentUnit × Mblk)} {u : SentUnit} {ret : Status} {frame : List (SentUnit × Mblk)} :
    (u, ret, some frame) ∈ unpackPackets unpacker aggregated packets ↔
      ret = .frameAvailable ∧ (u, frame) ∈ framesOf aggregated packets := by
  induction packets generalizing unpacker aggregated with
  | nil => simp [unpackPackets, framesOf]
  | cons packet packets ih =>
    obtain ⟨hcomplete, haggregated⟩ := feed_packets h packet
    have hrest := @ih (feedPackets aggregated packet).2 (unpack unpacker packet.2).2.2 haggregated
    have hret : (feedPackets aggregated packet).1.isSome → (unpack unpacker packet.2).1 = .frameAvailable := by
      intro hsome
      have hsome' : (feed unpacker.frame packet.2).1.isSome = true := by
        rw [← isSome_map (f := Mblk.bytes), hcomplete, isSome_map]
        exact hsome
      exact if_pos hsome'
    have hunpack : unpackPackets unpacker aggregated (packet :: packets) =
        (packet.1, (unpack unpacker packet.2).1, (feedPackets aggregated packet).1) ::
          unpackPackets (unpack unpacker packet.2).2.2 (feedPackets aggregated packet).2 packets := rfl
    have hframes : framesOf aggregated (packet :: packets) =
        ((feedPackets aggregated packet).1.toList.map fun frame => (packet.1, frame)) ++
          framesOf (feedPackets aggregated packet).2 packets := rfl
    rw [hunpack, hframes, mem_cons, mem_append, hrest, and_or_left]
    refine or_congr_left ?_
    constructor
    · intro heq
      obtain ⟨rfl, hpair⟩ := mk.inj heq
      obtain ⟨rfl, hcomplete'⟩ := mk.inj hpair
      refine ⟨hret (hcomplete' ▸ rfl), mem_map.2 ⟨frame, ?_, rfl⟩⟩
      rw [← hcomplete']
      exact mem_toList.2 rfl
    · rintro ⟨rfl, hmem⟩
      obtain ⟨frame', hframe', heq⟩ := mem_map.1 hmem
      obtain ⟨rfl, rfl⟩ := mk.inj heq
      have hcomplete' := mem_toList.1 hframe'
      rw [hcomplete', hret (hcomplete' ▸ rfl)]

end packets

/-! ### What comes out of a unit -/

/-- The packets received of a unit hold the first one. -/
def Opens (r : List Mblk) : Bool := r.any isFirst

/-- The packets received of a unit hold the last one. -/
def Closes (r : List Mblk) : Bool := r.any (·.marker_info)

section units

variable {marker first : Bool} {seq : UInt16} {ms r : List Mblk} {aggregated : Aggregated}
  {u : SentUnit}

/-- The packets aggregated with those received of a unit. -/
def gather (aggregated : Aggregated) (u : SentUnit) (r : List Mblk) : Aggregated :=
  if Opens r then some (r.map (u, ·)) else aggregated.map (· ++ r.map (u, ·))

lemma Train.eq_true_of_isFirst (h : Train marker first seq ms) {m : Mblk} (hm : m ∈ ms)
    (hfirst : isFirst m = true) : first = true := by
  induction h with
  | last _ hfirst' _ => rwa [mem_singleton.1 hm, hfirst'] at hfirst
  | cons _ hfirst' _ _ ih =>
    rcases mem_cons.1 hm with rfl | hm
    · rwa [hfirst'] at hfirst
    · exact absurd (ih hm) Bool.false_ne_true

lemma Train.not_opens (h : Train marker false seq ms) (hr : r.Sublist ms) : Opens r = false := by
  refine any_eq_false.2 fun m hm hfirst => ?_
  exact Bool.false_ne_true (h.eq_true_of_isFirst (hr.subset hm) hfirst)

lemma feedPackets_eq (aggregated : Aggregated) (u : SentUnit) (m : Mblk) : feedPackets aggregated (u, m) =
      if m.marker_info then (gather aggregated u [m], none) else (none, gather aggregated u [m]) := by
  have hopens : Opens [m] = isFirst m := Bool.or_false _
  rw [gather, hopens]
  rfl

/-- A packet and those after it. -/
lemma gather_cons (m : Mblk) (hr : Opens r = false) :
    gather (gather aggregated u [m]) u r = gather aggregated u (m :: r) := by
  have hopens : Opens [m] = isFirst m := Bool.or_false _
  have hopens' : Opens (m :: r) = isFirst m := by
    rw [Opens, List.any_cons]
    exact (congrArg (isFirst m || ·) hr).trans (Bool.or_false _)
  rw [gather, gather, gather, hr, hopens, hopens', if_neg Bool.false_ne_true]
  split_ifs
  · rfl
  · rw [Option.map_map]
    congr 1
    funext packets
    rw [Function.comp_apply, List.append_assoc]
    rfl

/-- A frame comes out of a unit if its last packet is received: what was aggregated with the packets received. -/
lemma Train.framesOf_append (h : Train true first seq ms) (hr : r.Sublist ms)
    (aggregated : Aggregated) (u : SentUnit) (rest : List (SentUnit × Mblk)) :
    framesOf aggregated (r.map (u, ·) ++ rest) =
      if Closes r then (gather aggregated u r).toList.map (u, ·) ++ framesOf none rest
      else framesOf (gather aggregated u r) rest := by
  have hnil (aggregated : Aggregated) : gather aggregated u [] = aggregated := by
    rw [gather, if_neg (by decide)]
    simp
  induction h generalizing r aggregated with
  | @last _ _ m _ _ hmarker =>
    rcases sublist_singleton.1 hr with rfl | rfl
    · rw [hnil]
      rfl
    · have hcloses : Closes [m] = true := by
        rw [Closes, any_cons, hmarker]
        rfl
      rw [map_singleton, singleton_append, framesOf, feedPackets_eq, if_pos hmarker, if_pos hcloses]
  | @cons _ _ m ms _ _ hmarker hms ih =>
    rcases sublist_cons_iff.1 hr with hr | ⟨r', rfl, hr'⟩
    · exact ih hr aggregated
    · have hcloses : Closes (m :: r') = Closes r' := by
        rw [Closes, any_cons, hmarker]
        rfl
      rw [map_cons, cons_append, framesOf, feedPackets_eq, hmarker, if_neg Bool.false_ne_true, hcloses]
      dsimp only
      rw [toList_none, map_nil, nil_append, ih hr', gather_cons m (hms.not_opens hr')]

lemma Train.opens (h : Train marker true seq ms) : Opens ms = true := by
  cases h with
  | last _ hfirst _ => exact any_eq_true.2 ⟨_, mem_cons_self, hfirst⟩
  | cons _ hfirst _ _ => exact any_eq_true.2 ⟨_, mem_cons_self, hfirst⟩

lemma isSome_gather (aggregated : Aggregated) (u : SentUnit) (r : List Mblk) :
    (gather aggregated u r).isSome = (Opens r || aggregated.isSome) := by
  rw [gather]
  split_ifs with hopens
  · rw [hopens]
    rfl
  · rw [eq_false_of_not_eq_true hopens, isSome_map]
    rfl

/-- What is aggregated begins with a packet of an earlier unit. -/
def FromBefore (k : ℕ) (aggregated : Aggregated) : Prop :=
  ∀ packets, aggregated = some packets → ∃ packet rest, packets = packet :: rest ∧ packet.1.number < k

lemma FromBefore.gather {k : ℕ} (h : FromBefore k aggregated) (ms r : List Mblk) :
    FromBefore (k + 1) (gather aggregated ⟨k, ms⟩ r) := by
  intro packets hpackets
  rw [Av1.gather] at hpackets
  split_ifs at hpackets with hopens
  · obtain ⟨m, hm, -⟩ := any_eq_true.1 hopens
    obtain ⟨m, rest, rfl⟩ := exists_cons_of_ne_nil (ne_nil_of_mem hm)
    obtain rfl := some.inj hpackets
    exact ⟨_, _, rfl, Nat.lt_succ_self k⟩
  · obtain ⟨packets', hpackets', rfl⟩ := map_eq_some_iff.1 hpackets
    obtain ⟨packet, rest, rfl, hlt⟩ := h packets' hpackets'
    exact ⟨packet, _, rfl, Nat.lt_succ_of_lt hlt⟩

/-- The frame that comes out of a unit is the unit where it is received whole; there is none where nothing is
aggregated and the first packet is lost. -/
lemma gather_right_iff {k : ℕ} (hbefore : FromBefore k aggregated) (h : Train marker true seq ms) :
    (∀ frame, gather aggregated ⟨k, ms⟩ r = some frame → frame = ms.map (⟨k, ms⟩, ·)) ↔
      r = ms ∨ Opens r = false ∧ aggregated.isSome = false := by
  have hinjective : Function.Injective fun m : Mblk => ((⟨k, ms⟩ : SentUnit), m) :=
    fun m m' heq => (mk.inj heq).2
  rw [gather]
  split_ifs with hopens
  · rw [hopens]
    constructor
    · intro hright
      exact .inl (map_injective_iff.2 hinjective (hright _ rfl))
    · rintro (rfl | ⟨hnot, -⟩)
      · exact fun frame hframe => (some.inj hframe).symm
      · cases hnot
  · have hnot := eq_false_of_not_eq_true hopens
    have hne : r ≠ ms := by
      rintro rfl
      exact hopens h.opens
    cases aggregated with
    | none => exact iff_of_true (fun frame hframe => by cases hframe) (.inr ⟨hnot, rfl⟩)
    | some packets =>
      obtain ⟨packet, rest, rfl, hlt⟩ := hbefore packets rfl
      refine iff_of_false (fun hright => ?_) ?_
      · have heq := hright _ rfl
        cases ms with
        | nil => cases h
        | cons m ms =>
          have hhead : packet = (⟨k, m :: ms⟩, m) := (cons.inj heq).1
          rw [hhead] at hlt
          exact lt_irrefl k hlt
      · rintro (heq | ⟨-, hnone⟩)
        · exact hne heq
        · cases hnone

end units

/-! ### Streams with losses -/

def received : ℕ → List (List Mblk) → List (List Mblk) → List (SentUnit × Mblk)
  | k, ms :: mss, r :: rss => r.map (⟨k, ms⟩, ·) ++ received (k + 1) mss rss
  | _, _, _ => []

/-- Of each unit whose last packet is received all packets are, or the first one is lost while nothing is
aggregated: what is aggregated begins with a first packet, and ends with a last one. -/
def LossesDropped : Bool → List (List Mblk) → List (List Mblk) → Prop
  | aggregating, ms :: mss, r :: rss =>
    (Closes r = true → r = ms ∨ Opens r = false ∧ aggregating = false) ∧
      LossesDropped (!Closes r && (Opens r || aggregating)) mss rss
  | _, _, _ => True

/-- Packets whose numbers follow one another. -/
def Consecutive : UInt16 → List Mblk → Prop
  | _, [] => True
  | seq, m :: ms => m.cseq = seq ∧ Consecutive (seq + 1) ms

/-- The claim: each frame that comes out is a unit, or said to be corrupted, and nothing is said so when nothing is
lost. -/
def ReportsLosses (packer : ObuPacker) (mss rss : List (List Mblk)) : Prop :=
  ∀ unpacker : ObuUnpacker, unpacker.frame = none → unpacker.Synced packer.seq →
    (∀ u ret frame, (u, ret, some frame) ∈ unpackPackets unpacker none (received 0 mss rss) →
      ret = .frameCorrupted ∨ frame = u.packets.map (u, ·)) ∧
    (rss = mss → ∀ r ∈ unpackAll unpacker rss.flatten, r.1 ≠ .frameCorrupted)

section streams

variable {seq : UInt16} {mss rss : List (List Mblk)} {aggregated : Aggregated}
  {unpacker : ObuUnpacker}

lemma map_snd_received (h : List.Forall₂ List.Sublist rss mss) (k : ℕ) :
    (received k mss rss).map snd = rss.flatten := by
  induction h generalizing k with
  | nil => rfl
  | @cons r ms rss mss _ _ ih =>
    rw [received, List.map_append, ih, List.map_map, List.flatten_cons]
    exact congrArg (· ++ rss.flatten) (List.map_id r)

/-- What comes out for the packets received is what the code gives for them. -/
lemma unpackPackets_received (h : Forall₂ Sublist rss mss) (hnone : unpacker.frame = none) :
    (unpackPackets unpacker none (received 0 mss rss)).map (fun r => (r.2.1, r.2.2.map payloads)) =
      outputs unpacker rss.flatten := by
  have htracks : unpacker.frame.map Mblk.bytes = (none : Aggregated).map payloads := by
    rw [hnone]
    rfl
  rw [unpackPackets_eq htracks, map_snd_received h]

lemma Trains.framesOf_iff (h : Trains seq mss) (hr : Forall₂ Sublist rss mss) {k : ℕ}
    (hbefore : FromBefore k aggregated) :
    (∀ u frame, (u, frame) ∈ framesOf aggregated (received k mss rss) → frame = u.packets.map (u, ·)) ↔
      LossesDropped aggregated.isSome mss rss := by
  induction hr generalizing seq aggregated k with
  | nil => exact iff_of_true (fun u frame hframe => by cases hframe) trivial
  | @cons r ms rss mss hr _ ih =>
    cases h with
    | cons hms hmss =>
      rw [received, LossesDropped]
      rcases hms with rfl | htrain
      · obtain rfl := sublist_nil.1 hr
        have hsame : gather aggregated ⟨k, []⟩ [] = aggregated := by
          rw [gather, if_neg (by decide)]
          simp
        have hrest := ih hmss (hsame ▸ hbefore.gather [] [])
        rw [map_nil, nil_append, hrest]
        exact (and_iff_right (fun hcloses => by cases hcloses)).symm
      · rw [htrain.framesOf_append hr]
        by_cases hcloses : Closes r = true
        · have hnone : FromBefore (k + 1) none := fun packets hpackets => by cases hpackets
          have hrest := ih hmss hnone
          have hright := gather_right_iff (r := r) hbefore htrain
          rw [if_pos hcloses, hcloses, forall_prop_of_true rfl, ← hright, Bool.not_true, Bool.false_and]
          rw [isSome_none] at hrest
          rw [← hrest]
          constructor
          · intro hall
            refine ⟨fun frame hframe => ?_, fun u frame hframe => hall u frame (mem_append_right _ hframe)⟩
            refine hall ⟨k, ms⟩ frame (mem_append_left _ (mem_map.2 ⟨frame, ?_, rfl⟩))
            exact mem_toList.2 hframe
          · rintro ⟨hunit, hothers⟩ u frame hframe
            rcases mem_append.1 hframe with hframe | hframe
            · obtain ⟨frame', hframe', heq⟩ := mem_map.1 hframe
              obtain ⟨rfl, rfl⟩ := mk.inj heq
              exact hunit _ (mem_toList.1 hframe')
            · exact hothers u frame hframe
        · have hopen := eq_false_of_not_eq_true hcloses
          have hrest := ih hmss (hbefore.gather ms r)
          rw [if_neg hcloses, hrest, isSome_gather, hopen, Bool.not_false, Bool.true_and]
          exact (and_iff_right (fun hfalse => by cases hfalse)).symm

lemma Train.consecutive_append {marker first : Bool} {ms rest : List Mblk} (h : Train marker first seq ms)
    (hrest : Consecutive (seq + .ofNat ms.length) rest) : Consecutive seq (ms ++ rest) := by
  induction h with
  | last hcseq _ _ => exact ⟨hcseq, hrest⟩
  | cons hcseq _ _ _ ih =>
    rw [length_cons, UInt16.ofNat_succ_add] at hrest
    exact ⟨hcseq, ih hrest⟩

lemma Trains.consecutive (h : Trains seq mss) : Consecutive seq mss.flatten := by
  induction h with
  | nil => trivial
  | @cons seq ms mss hms _ ih =>
    rw [flatten_cons]
    rcases hms with rfl | htrain
    · rw [length_nil] at ih
      rwa [nil_append, ← UInt16.add_zero seq]
    · exact htrain.consecutive_append ih

/-- No corruption is said where no number misses. -/
lemma Consecutive.not_corrupted {ms : List Mblk} (h : Consecutive seq ms) (hsync : unpacker.Synced seq) :
    ∀ r ∈ unpackAll unpacker ms, r.1 ≠ .frameCorrupted := by
  induction ms generalizing unpacker seq with
  | nil => exact fun r hr => by cases hr
  | cons m ms ih =>
    obtain ⟨rfl, hms⟩ := h
    rw [unpackAll, unpack_eq hsync]
    refine forall_mem_cons.2 ⟨?_, ih hms fun _ => rfl⟩
    dsimp only
    split_ifs
    · decide
    · decide

end streams

/-- The unpacker reports the losses where they do not come out. -/
theorem reportsLosses_iff {packer packer' : ObuPacker} {messages : List (Mblk × UInt32)} {mss rss : List (List Mblk)}
    (h : packMessages packer messages = some (mss, packer')) (hr : Forall₂ Sublist rss mss) :
    ReportsLosses packer mss rss ↔ LossesDropped false mss rss := by
  have htrains := trains_packMessages h
  have hnone : FromBefore 0 none := fun packets hpackets => by cases hpackets
  have hframes := htrains.framesOf_iff hr hnone
  rw [isSome_none] at hframes
  have htracks (unpacker : ObuUnpacker) (hunpacker : unpacker.frame = none) :
      unpacker.frame.map Mblk.bytes = (none : Aggregated).map payloads := by
    rw [hunpacker]
    rfl
  rw [← hframes]
  constructor
  · intro hreports u frame hframe
    have hright := (hreports {} rfl (fun hinit => by cases hinit)).1 u .frameAvailable frame
      ((mem_unpackPackets_iff (htracks {} rfl)).2 ⟨rfl, hframe⟩)
    exact hright.resolve_left (by decide)
  · intro hright unpacker hunpacker hsync
    refine ⟨fun u ret frame hframe => .inr ?_, ?_⟩
    · exact hright u frame ((mem_unpackPackets_iff (htracks unpacker hunpacker)).1 hframe).2
    · rintro rfl
      exact htrains.consecutive.not_corrupted hsync

def threeObus : Mblk := { bytes := [0x32, 1, 7, 0x32, 1, 8, 0x32, 1, 9] }

/-- One of the packets of two such messages. -/
def obuPacket (header byte : UInt8) (marker : Bool) (seq : UInt16) : Mblk :=
  { marker_info := marker, cseq := seq, bytes := [header, 0x32, 1, byte] }

/-- The packets of the first message. -/
def threePackets (seq : UInt16) : List Mblk :=
  [obuPacket 0x18 7 false seq, obuPacket 0x10 8 false (seq + 1), obuPacket 0x10 9 true (seq + 2)]

theorem reportsLosses_iff_threeObus :
    ReportsLosses { maxPayloadSize := 10 } [threePackets 0] [(threePackets 0).tail] := by
  have hpack : packMessages { maxPayloadSize := 10 } [(threeObus, 0)] =
      some ([threePackets 0], { maxPayloadSize := 10, seq := 3 }) := rfl
  refine (reportsLosses_iff hpack (.cons (.cons _ (.refl _)) .nil)).2 ⟨fun _ => .inr ⟨?_, rfl⟩, trivial⟩
  decide

/-- A unit comes out without its second packet, and the first packet of a unit with the last one of the next unit. -/
theorem reportsLosses_iff_fails : (packMessages { maxPayloadSize := 10 } [(threeObus, 0)] =
        some ([threePackets 0], { maxPayloadSize := 10, seq := 3 }) ∧
      ¬ ReportsLosses { maxPayloadSize := 10 } [threePackets 0] [(threePackets 0).eraseIdx 1]) ∧
    packMessages { maxPayloadSize := 10 } [(threeObus, 0), (threeObus, 0)] =
        some ([threePackets 0, threePackets 3], { maxPayloadSize := 10, seq := 6 }) ∧
      ¬ ReportsLosses { maxPayloadSize := 10 } [threePackets 0, threePackets 3]
        [(threePackets 0).take 1, (threePackets 3).drop 2] := by
  refine ⟨⟨rfl, fun hreports => ?_⟩, rfl, fun hreports => ?_⟩
  · have hframe := (hreports {} rfl nofun).1 ⟨0, threePackets 0⟩ .frameAvailable
      (((threePackets 0).eraseIdx 1).map (⟨0, threePackets 0⟩, ·)) (by decide)
    exact absurd hframe (by decide)
  · have hframe := (hreports {} rfl nofun).1 ⟨1, threePackets 3⟩ .frameAvailable
      [(⟨0, threePackets 0⟩, obuPacket 0x18 7 false 0), (⟨1, threePackets 3⟩, obuPacket 0x10 9 true 5)] (by decide)
    exact absurd hframe (by decide)

end Av1
