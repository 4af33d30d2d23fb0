import LinphoneSdk.Sal.BundledStreams
import Mathlib.Data.List.Induction

/-!
# The bundle of an answer

The streams that are answered with a mid go in one bundle, and the last pass disables those whose transport owner is
another in the offer or in the local capabilities. It comes to the streams in their order, and looks the owner up among
those that it has left.
-/

namespace Sal

open List Option

/-! ### Transport owners -/

namespace SalMediaDescription

variable {md md' : SalMediaDescription} {s : SalStreamDescription} {mid : String} {i k : ℕ}

def ownerAt (md : SalMediaDescription) (i : ℕ) : ℤ := (md.streams[i]?).elim (-1) md.getIndexOfTransportOwner

def bundleAt (md : SalMediaDescription) (i : ℕ) : SalStreamBundle :=
  (md.streams[i]?).elim {} fun s => md.getBundleFromMid s.getMid

lemma ownerAt_of_getElem? (h : md.streams[i]? = some s) : md.ownerAt i = md.getIndexOfTransportOwner s := by
  rw [ownerAt, h]
  rfl

lemma ownerAt_congr (hmids : md'.mids = md.mids) (hbundles : md'.bundles = md.bundles) :
    md'.ownerAt i = md.ownerAt i := by
  have hmid : (md'.streams[i]?).map (·.getMid) = (md.streams[i]?).map (·.getMid) := by
    rw [← getElem?_map, ← getElem?_map]
    exact congrArg (·[i]?) hmids
  rw [ownerAt, ownerAt]
  cases hs : md.streams[i]? with
  | none =>
    rw [hs, map_none, map_eq_none_iff] at hmid
    rw [hmid]
    rfl
  | some s =>
    rw [hs, map_some, map_eq_some_iff] at hmid
    obtain ⟨s', hs', hmid⟩ := hmid
    rw [hs']
    exact getIndexOfTransportOwner_congr hmids hbundles hmid

lemma exists_getElem?_of_mids_eq (hmids : md'.mids = md.mids) (hs : md.streams[i]? = some s) :
    ∃ s', md'.streams[i]? = some s' := by
  have hlength : md'.streams.length = md.streams.length := by
    simpa only [mids, length_map] using congrArg length hmids
  obtain ⟨hlen, -⟩ := List.getElem?_eq_some_iff.1 hs
  exact ⟨_, getElem?_eq_getElem (hlength ▸ hlen)⟩

/-- A mid is looked up at the first stream that has it. -/
lemma lookupMid_eq_iff : md.lookupMid mid = k ↔
    (∃ s, md.streams[k]? = some s ∧ s.getMid = mid) ∧ ∀ j < k, ∀ s, md.streams[j]? = some s → s.getMid ≠ mid := by
  rw [lookupMid]
  cases h : md.streams.findIdx? (·.getMid == mid) with
  | none =>
    rw [findIdx?_eq_none_iff] at h
    constructor
    · intro hk
      change (-1 : ℤ) = (k : ℤ) at hk
      omega
    · rintro ⟨⟨s, hs, hmid⟩, -⟩
      exact absurd (h s (mem_of_getElem? hs)) (by simp [hmid])
  | some index =>
    rw [findIdx?_eq_some_iff_getElem] at h
    obtain ⟨hindex, hmid, hbefore⟩ := h
    constructor
    · intro hk
      obtain rfl : index = k := Int.ofNat_inj.1 hk
      refine ⟨⟨_, getElem?_eq_getElem hindex, beq_iff_eq.1 hmid⟩, fun j hj s hs hs' => ?_⟩
      obtain ⟨hlen, rfl⟩ := List.getElem?_eq_some_iff.1 hs
      exact hbefore j hj (beq_iff_eq.2 hs')
    · rintro ⟨⟨s, hs, hmid'⟩, hbefore'⟩
      obtain hlt | rfl | hlt := Nat.lt_trichotomy index k
      · exact absurd (beq_iff_eq.1 hmid) (hbefore' index hlt _ (getElem?_eq_getElem hindex))
      · rfl
      · obtain ⟨hlen, rfl⟩ := List.getElem?_eq_some_iff.1 hs
        exact absurd (beq_iff_eq.2 hmid') (hbefore k hlt)

lemma lookupMid_neg_iff : md.lookupMid mid < 0 ↔ ∀ s ∈ md.streams, s.getMid ≠ mid := by
  rw [lookupMid]
  cases h : md.streams.findIdx? (·.getMid == mid) with
  | none =>
    rw [findIdx?_eq_none_iff] at h
    exact ⟨fun _ s hs hmid => absurd (h s hs) (by simp [hmid]), fun _ => by decide⟩
  | some index =>
    rw [findIdx?_eq_some_iff_getElem] at h
    obtain ⟨hindex, hmid, -⟩ := h
    constructor
    · intro hneg
      change (index : ℤ) < 0 at hneg
      omega
    · intro hne
      exact absurd (beq_iff_eq.1 hmid) (hne _ (getElem_mem hindex))

lemma exists_mid_of_getIndexOfTransportOwner (h : md.getIndexOfTransportOwner s = k) :
    ∃ mid, md.lookupMid mid = k := by
  rw [getIndexOfTransportOwner] at h
  dsimp only at h
  split_ifs at h
  exact ⟨_, h⟩

lemma getIndexOfTransportOwner_of_bundle {b : SalStreamBundle} (hbundles : md.bundles = [b]) (hmid : s.getMid ≠ "")
    (hb : b.hasMid s.getMid) : md.getIndexOfTransportOwner s =
      if b.getMidOfTransportOwner = "" then -2 else md.lookupMid b.getMidOfTransportOwner := by
  have hbundle : md.getBundleFromMid s.getMid = b := by simp [getBundleFromMid, hbundles, hb]
  have hne : b ≠ {} := by
    rintro rfl
    cases hb
  rw [getIndexOfTransportOwner, if_neg hmid]
  dsimp only
  rw [hbundle, if_neg hne]

end SalMediaDescription

/-! ### Building the bundle -/

namespace SalStreamBundle

variable {bundle : SalStreamBundle} {cfg : SalStreamConfiguration} {mid mid' : String}

lemma addStream_nil : addStream ⟨[]⟩ cfg mid = if cfg.bundle_only then ⟨["", mid]⟩ else ⟨[mid]⟩ := rfl

lemma addStream_cons {first : String} {mids : List String} : addStream ⟨first :: mids⟩ cfg mid =
    if !cfg.bundle_only && first == "" then ⟨mid :: mids⟩ else ⟨first :: mids ++ [mid]⟩ := rfl

lemma getMidOfTransportOwner_addStream : (bundle.addStream cfg mid).getMidOfTransportOwner =
    if bundle.getMidOfTransportOwner = "" ∧ cfg.bundle_only = false then mid else bundle.getMidOfTransportOwner := by
  obtain ⟨_ | ⟨first, mids⟩⟩ := bundle
  · cases honly : cfg.bundle_only <;> simp [addStream, getMidOfTransportOwner, honly]
  · by_cases hfirst : first = "" <;> cases honly : cfg.bundle_only <;>
      simp [addStream, getMidOfTransportOwner, honly, hfirst]

lemma hasMid_addStream_self : (bundle.addStream cfg mid).hasMid mid = true := by
  obtain ⟨_ | ⟨first, mids⟩⟩ := bundle
  · rw [addStream_nil]
    split_ifs <;> simp [hasMid]
  · rw [addStream_cons]
    split_ifs <;> simp [hasMid]

/-- A mid that is there stays. -/
lemma hasMid_addStream (h : bundle.hasMid mid' = true) (hmid' : mid' ≠ "") :
    (bundle.addStream cfg mid).hasMid mid' = true := by
  obtain ⟨_ | ⟨first, mids⟩⟩ := bundle
  · cases h
  · rw [hasMid, any_cons, Bool.or_eq_true, beq_iff_eq] at h
    rw [addStream_cons]
    split_ifs with hfirst
    · rw [Bool.and_eq_true, beq_iff_eq] at hfirst
      have hmids := h.resolve_left fun heq => hmid' (heq.symm.trans hfirst.2)
      simp [hasMid, hmids]
    · rcases h with rfl | hmids
      · simp [hasMid]
      · simp [hasMid, hmids]

end SalStreamBundle

namespace OfferAnswerEngine

def ownerMid (streams : List SalStreamDescription) : String :=
  ((streams.find? fun s => s.getMid != "" && !s.isBundleOnly).map (·.getMid)).getD ""

lemma ownerMid_concat (streams : List SalStreamDescription) (s : SalStreamDescription) : ownerMid (streams ++ [s]) =
      if ownerMid streams = "" ∧ s.getMid ≠ "" ∧ s.isBundleOnly = false then s.getMid else ownerMid streams := by
  rw [ownerMid, ownerMid, find?_append]
  cases hfind : streams.find? fun s => s.getMid != "" && !s.isBundleOnly with
  | none =>
    by_cases hmid : s.getMid = "" <;> cases honly : s.isBundleOnly <;> simp [hmid, honly]
  | some t =>
    have ht := find?_some hfind
    rw [Bool.and_eq_true, bne_iff_ne] at ht
    simp [ht.1]

lemma foldl_addToBundles (streams : List SalStreamDescription) : (streams.foldl addToBundles []).tail = [] ∧
      ((streams.foldl addToBundles []).headD {}).getMidOfTransportOwner = ownerMid streams ∧
      ∀ s ∈ streams, s.getMid ≠ "" → ((streams.foldl addToBundles []).headD {}).hasMid s.getMid = true := by
  induction streams using reverseRecOn with
  | nil => exact ⟨rfl, rfl, fun s hs => by cases hs⟩
  | append_singleton streams s ih =>
    obtain ⟨htail, howner, hmids⟩ := ih
    rw [foldl_concat, addToBundles, ownerMid_concat]
    by_cases hmid : s.getMid = ""
    · rw [if_pos hmid, if_neg fun h => h.2.1 hmid]
      refine ⟨htail, howner, fun t ht hne => ?_⟩
      rcases mem_append.1 ht with ht | ht
      · exact hmids t ht hne
      · exact absurd (mem_singleton.1 ht ▸ hmid) hne
    · rw [if_neg hmid]
      refine ⟨htail, ?_, fun t ht hne => ?_⟩
      · rw [headD_cons, SalStreamBundle.getMidOfTransportOwner_addStream, howner]
        simp only [hmid, ne_eq, not_false_eq_true, true_and]
        rfl
      · rw [headD_cons]
        rcases mem_append.1 ht with ht | ht
        · exact SalStreamBundle.hasMid_addStream (hmids t ht hne) hne
        · rw [mem_singleton.1 ht]
          exact SalStreamBundle.hasMid_addStream_self

end OfferAnswerEngine

/-! ### The streams of the bundle -/

namespace OfferAnswerEngine

open SalStreamDescription SalMediaDescription

variable (engine : OfferAnswerEngine) (l r : SalMediaDescription)

/-- The first stream of the bundle that is the transport owner of its group in the offer. -/
structure IsOwner (o : ℕ) (c : BundledStream) : Prop where
  bundled : engine.bundledStream l r o = some c
  owns : c.owns = true
  first : ∀ k < o, ∀ b, engine.bundledStream l r k = some b → b.owns = false

/-- A stream that is its own transport owner in the offer and in the local capabilities. -/
def SelfOwned (o : ℕ) : Prop := l.ownerAt o = o ∧ r.ownerAt o = o

/-- The streams of the bundle whose transport owners in the offer and in the local capabilities do not have them
disabled. -/
inductive Kept (i : ℕ) : Prop
  /-- Both transport owners are that of the bundle, which comes later or stays. -/
  | owned {o : ℕ} {c : BundledStream} (ho : engine.IsOwner l r o c) (hstays : i ≤ o ∨ SelfOwned l r o)
      (hl : l.ownerAt i = o) (hr : r.ownerAt i = o)
  /-- There is no transport owner in the local capabilities, and that of the bundle came before and did not stay. -/
  | orphaned {o : ℕ} {c : BundledStream} (ho : engine.IsOwner l r o c) (hbefore : o < i) (hstays : ¬ SelfOwned l r o)
      (hmid : ∀ k b, i ≤ k → engine.bundledStream l r k = some b → b.mid ≠ c.mid) (hl : l.ownerAt i < 0)
  /-- There is no transport owner in the local capabilities, and the bundle has none. -/
  | unowned (ho : ∀ o c, ¬ engine.IsOwner l r o c) (hl : l.ownerAt i < 0)

variable {engine l r} {i j k o o' : ℕ} {b c c' : BundledStream}

lemma IsOwner.unique (h : engine.IsOwner l r o c) (h' : engine.IsOwner l r o' c') : o' = o ∧ c' = c := by
  have heq : o' = o := by
    obtain hlt | heq | hlt := Nat.lt_trichotomy o' o
    · exact absurd h'.owns (by rw [h.first o' hlt c' h'.bundled]; decide)
    · exact heq
    · exact absurd h.owns (by rw [h'.first o hlt c h.bundled]; decide)
  refine ⟨heq, some.inj ?_⟩
  rw [← h'.bundled, heq, h.bundled]

/-- What the offer has at the index of a stream of the bundle. -/
lemma bundledStream_eq_some (h : engine.bundledStream l r i = some b) :
    ∃ rs ls, r.streams[i]? = some rs ∧ l.streams[i]? = some ls ∧ b.mid = rs.getMid ∧
      b.owns = (rs.getMid == bundleOwnerMid l r rs) ∧ bundleOwnerMid l r rs ≠ "" := by
  obtain ⟨rs, hrs, h⟩ := bind_eq_some_iff.1 h
  obtain ⟨ls, hls, h⟩ := bind_eq_some_iff.1 h
  split_ifs at h
  obtain ⟨answered, -, h⟩ := bind_eq_some_iff.1 h
  rw [bundleMember] at h
  by_cases hbundle : bundleEnabled (bundleOwnerMid l r rs) (ls.getConfigurationAtIndex answered.2.1)
      (rs.getConfigurationAtIndex answered.2.2) = true
  · rw [if_pos hbundle] at h
    cases h
    have hmid : bundleOwnerMid l r rs ≠ "" := by
      rw [bundleEnabled] at hbundle
      simp only [Bool.and_eq_true, bne_iff_ne] at hbundle
      exact hbundle.1.1.2
    exact ⟨rs, ls, hrs, hls, rfl, rfl, hmid⟩
  · rw [if_neg hbundle] at h
    cases h

/-- A stream of the bundle has a transport owner in the offer. -/
lemma ownerAt_nonneg (h : engine.bundledStream l r i = some b) : 0 ≤ r.ownerAt i := by
  obtain ⟨rs, ls, hrs, -, -, -, howner⟩ := bundledStream_eq_some h
  rw [ownerAt_of_getElem? hrs]
  rw [bundleOwnerMid] at howner
  dsimp only at howner
  split_ifs at howner with haccept hindex
  · exact hindex
  · exact absurd rfl howner
  · exact absurd rfl howner

lemma bundledStream_mid_ne (h : engine.bundledStream l r i = some b) : b.mid ≠ "" := by
  have hnonneg := ownerAt_nonneg h
  obtain ⟨rs, ls, hrs, -, hmid, -, -⟩ := bundledStream_eq_some h
  rw [ownerAt_of_getElem? hrs, getIndexOfTransportOwner] at hnonneg
  intro hempty
  rw [if_pos (hmid.symm.trans hempty)] at hnonneg
  exact absurd hnonneg (by decide)

/-- Streams with one mid are transport owners alike. -/
lemma owns_eq_of_mid_eq (hi : engine.bundledStream l r i = some b) (hj : engine.bundledStream l r j = some c)
    (hmid : b.mid = c.mid) : b.owns = c.owns := by
  obtain ⟨rs, ls, hrs, -, hbmid, hbowns, -⟩ := bundledStream_eq_some hi
  obtain ⟨rs', ls', hrs', -, hcmid, hcowns, -⟩ := bundledStream_eq_some hj
  have heq : rs'.getMid = rs.getMid := by rw [← hbmid, ← hcmid, hmid]
  have howner : bundleOwnerMid l r rs' = bundleOwnerMid l r rs := by
    simp only [bundleOwnerMid, getIndexOfTransportOwner_congr rfl rfl heq]
  rw [hbowns, hcowns, heq, howner]

lemma IsOwner.mid_ne (h : engine.IsOwner l r o c) (hk : k < o) (hb : engine.bundledStream l r k = some b) :
    b.mid ≠ c.mid := by
  intro hmid
  have howns := owns_eq_of_mid_eq hb h.bundled hmid
  rw [h.first k hk b hb, h.owns] at howns
  cases howns

/-- The transport owner in the offer of a stream is not one that repeats a mid. -/
lemma ownerAt_ne_of_mid_eq (hj : engine.bundledStream l r j = some c) (hk : engine.bundledStream l r k = some b)
    (hjk : j < k) (hmid : b.mid = c.mid) : r.ownerAt i ≠ k := by
  obtain ⟨rs, ls, hrs, -, hcmid, -, -⟩ := bundledStream_eq_some hj
  obtain ⟨rs', ls', hrs', -, hbmid, -, -⟩ := bundledStream_eq_some hk
  intro howner
  rw [ownerAt] at howner
  cases hs : r.streams[i]? with
  | none =>
    rw [hs] at howner
    change (-1 : ℤ) = k at howner
    omega
  | some s =>
    rw [hs] at howner
    obtain ⟨mid, hlookup⟩ := exists_mid_of_getIndexOfTransportOwner howner
    obtain ⟨⟨t, ht, htmid⟩, hbefore⟩ := lookupMid_eq_iff.1 hlookup
    rw [hrs'] at ht
    cases ht
    refine hbefore j hjk rs hrs ?_
    rw [← hcmid, ← hmid, hbmid, htmid]

lemma kept_iff_of_stays (h : engine.IsOwner l r o c) (hstays : i ≤ o ∨ SelfOwned l r o) :
    engine.Kept l r i ↔ l.ownerAt i = o ∧ r.ownerAt i = o := by
  constructor
  · intro hkept
    cases hkept with
    | owned ho _ hl hr =>
      obtain ⟨rfl, rfl⟩ := h.unique ho
      exact ⟨hl, hr⟩
    | orphaned ho hbefore hgone hmid hl =>
      obtain ⟨rfl, rfl⟩ := h.unique ho
      exact absurd hstays (not_or.2 ⟨hbefore.not_ge, hgone⟩)
    | unowned ho hl => exact absurd h (ho o c)
  · rintro ⟨hl, hr⟩
    exact .owned h hstays hl hr

lemma kept_iff_of_gone (h : engine.IsOwner l r o c) (hbefore : o < i) (hgone : ¬ SelfOwned l r o) :
    engine.Kept l r i ↔ (∀ k b, i ≤ k → engine.bundledStream l r k = some b → b.mid ≠ c.mid) ∧ l.ownerAt i < 0 := by
  constructor
  · intro hkept
    cases hkept with
    | owned ho hstays hl hr =>
      obtain ⟨rfl, rfl⟩ := h.unique ho
      exact absurd hstays (not_or.2 ⟨hbefore.not_ge, hgone⟩)
    | orphaned ho _ _ hmid hl =>
      obtain ⟨rfl, rfl⟩ := h.unique ho
      exact ⟨hmid, hl⟩
    | unowned ho hl => exact absurd h (ho o c)
  · rintro ⟨hmid, hl⟩
    exact .orphaned h hbefore hgone hmid hl

lemma kept_iff_of_unowned (h : ∀ o c, ¬ engine.IsOwner l r o c) : engine.Kept l r i ↔ l.ownerAt i < 0 := by
  constructor
  · intro hkept
    cases hkept with
    | owned ho _ _ _ => exact absurd ho (h _ _)
    | orphaned ho _ _ _ _ => exact absurd ho (h _ _)
    | unowned _ hl => exact hl
  · exact .unowned h

/-! ### The last pass -/

variable {pre d : SalMediaDescription} {s : SalStreamDescription} {mid : String}

/-- The answer before the last pass: the streams of the bundle are in it, and its transport owner is their owner. -/
structure Rebuilt (engine : OfferAnswerEngine) (l r pre : SalMediaDescription) : Prop where
  length : pre.streams.length = r.streams.length
  answers : ∀ k s, pre.streams[k]? = some s → IsAnswer s (engine.bundledStream l r k)
  bundle : ∃ bundle, (∀ i b, engine.bundledStream l r i = some b →
      pre.bundles = [bundle] ∧ bundle.hasMid b.mid = true) ∧
    (∀ o c, engine.IsOwner l r o c → bundle.getMidOfTransportOwner = c.mid) ∧
    ((∀ o c, ¬ engine.IsOwner l r o c) → bundle.getMidOfTransportOwner = "")

lemma Rebuilt.answer (h : Rebuilt engine l r pre) (hb : engine.bundledStream l r k = some b)
    (hs : pre.streams[k]? = some s) : IsAnswer s (some b) :=
  hb ▸ h.answers k s hs

/-- A stream of the bundle is answered at its index. -/
lemma exists_getElem?_of_bundledStream (hlength : d.streams.length = r.streams.length)
    (h : engine.bundledStream l r k = some b) : ∃ s, d.streams[k]? = some s := by
  obtain ⟨rs, ls, hrs, -⟩ := bundledStream_eq_some h
  obtain ⟨hlen, -⟩ := List.getElem?_eq_some_iff.1 hrs
  exact ⟨_, getElem?_eq_getElem (hlength ▸ hlen)⟩

section ownerMid

variable (hanswers : ∀ k s, pre.streams[k]? = some s → IsAnswer s (engine.bundledStream l r k))

include hanswers

lemma ownerMid_of_isOwner (hlength : pre.streams.length = r.streams.length) (h : engine.IsOwner l r o c) :
    ownerMid pre.streams = c.mid := by
  obtain ⟨s, hs⟩ := exists_getElem?_of_bundledStream hlength h.bundled
  have hanswer := hanswers o s hs
  rw [h.bundled] at hanswer
  obtain ⟨hmid, honly, -⟩ := hanswer
  have hfind : (pre.streams.find? fun s => s.getMid != "" && !s.isBundleOnly) = some s := by
    obtain ⟨hlen, hget⟩ := List.getElem?_eq_some_iff.1 hs
    refine find?_eq_some_iff_getElem.2 ⟨?_, o, hlen, hget, fun j hj => ?_⟩
    · rw [hmid, honly, h.owns]
      simp [bundledStream_mid_ne h.bundled]
    · have hlen' : j < pre.streams.length := hj.trans hlen
      have hanswer' := hanswers j _ (getElem?_eq_getElem hlen')
      cases hb : engine.bundledStream l r j with
      | none =>
        rw [hb] at hanswer'
        have hempty : pre.streams[j].getMid = "" := hanswer'
        simp [hempty]
      | some b =>
        rw [hb] at hanswer'
        obtain ⟨-, honly', -⟩ := hanswer'
        rw [honly', h.first j hj b hb]
        simp
  rw [ownerMid, hfind, map_some, getD_some, hmid]

lemma ownerMid_of_unowned (h : ∀ o c, ¬ engine.IsOwner l r o c) : ownerMid pre.streams = "" := by
  -- the first stream of the bundle that owns its group would be its owner
  have hnot (k : ℕ) : ∀ b, engine.bundledStream l r k = some b → b.owns = false := by
    induction k using Nat.strong_induction_on with
    | h k ih =>
      intro b hb
      cases howns : b.owns with
      | false => rfl
      | true => exact absurd ⟨hb, howns, ih⟩ (h k b)
  have hfind : (pre.streams.find? fun s => s.getMid != "" && !s.isBundleOnly) = none := by
    refine find?_eq_none.2 fun s hs => ?_
    obtain ⟨k, hk⟩ := getElem?_of_mem hs
    have hanswer := hanswers k s hk
    cases hb : engine.bundledStream l r k with
    | none =>
      rw [hb] at hanswer
      have hempty : s.getMid = "" := hanswer
      simp [hempty]
    | some b =>
      rw [hb] at hanswer
      obtain ⟨-, honly, -⟩ := hanswer
      rw [honly, hnot k b hb]
      simp
  rw [ownerMid, hfind]
  rfl

end ownerMid

lemma rebuilt_of_negotiated {n : Negotiation} (h : engine.Negotiated l r r.streams.length n) :
    Rebuilt engine l r { n.result with bundles := n.result.streams.foldl addToBundles n.result.bundles } where
  length := h.length
  answers := h.answers
  bundle := by
    obtain ⟨htail, howner, hmids⟩ := foldl_addToBundles n.result.streams
    refine ⟨(n.result.streams.foldl addToBundles []).headD {}, fun i b hb => ?_, fun o c ho => ?_, fun ho => ?_⟩
    · obtain ⟨s, hs⟩ := exists_getElem?_of_bundledStream h.length hb
      have hanswer := h.answers i s hs
      rw [hb] at hanswer
      have hhas := hmids s (mem_of_getElem? hs) (hanswer.1 ▸ bundledStream_mid_ne hb)
      rw [hanswer.1] at hhas
      refine ⟨?_, hhas⟩
      rw [h.bundles]
      cases hfold : n.result.streams.foldl addToBundles [] with
      | nil =>
        rw [hfold] at hhas
        cases hhas
      | cons bundle rest =>
        rw [hfold] at htail
        rw [tail_cons] at htail
        rw [htail]
        rfl
    · exact howner.trans (ownerMid_of_isOwner h.answers h.length ho)
    · exact howner.trans (ownerMid_of_unowned h.answers ho)

def InAnswer (engine : OfferAnswerEngine) (l r : SalMediaDescription) (k : ℕ) : Prop :=
  (∃ b, engine.bundledStream l r k = some b) ∧ engine.Kept l r k

/-- The pass has come to a stream: those before it that are not kept have no mid, the others are as they were. -/
structure Passed (engine : OfferAnswerEngine) (l r pre : SalMediaDescription) (i : ℕ) (d : SalMediaDescription) :
    Prop where
  bundles : d.bundles = pre.bundles
  length : d.streams.length = pre.streams.length
  stays : ∀ k, (k < i → InAnswer engine l r k) → d.streams[k]? = pre.streams[k]?
  gone : ∀ k < i, ¬ InAnswer engine l r k → ∀ s, d.streams[k]? = some s → s.getMid = ""

section

variable (h : Passed engine l r pre i d) (hpre : Rebuilt engine l r pre)
include h hpre

lemma Passed.bundled_of_mid (hs : d.streams[k]? = some s) (hne : s.getMid ≠ "") :
    (k < i → InAnswer engine l r k) ∧ ∃ b, engine.bundledStream l r k = some b ∧ b.mid = s.getMid := by
  have hin (hk : k < i) : InAnswer engine l r k := by
    by_contra hnot
    exact hne (h.gone k hk hnot s hs)
  refine ⟨hin, ?_⟩
  have hanswer := hpre.answers k s ((h.stays k hin).symm.trans hs)
  cases hb : engine.bundledStream l r k with
  | none =>
    rw [hb] at hanswer
    exact absurd hanswer hne
  | some b =>
    rw [hb] at hanswer
    exact ⟨b, rfl, hanswer.1.symm⟩

/-- The transport owner is found where it is as long as it is there. -/
lemma Passed.lookupMid_of_stays
    (ho : engine.IsOwner l r o c) (hstays : i ≤ o ∨ SelfOwned l r o) : d.lookupMid c.mid = o := by
  have hin (hlt : o < i) : InAnswer engine l r o :=
    ⟨⟨c, ho.bundled⟩, (kept_iff_of_stays ho (.inl le_rfl)).2 (hstays.resolve_left hlt.not_ge)⟩
  refine lookupMid_eq_iff.2 ⟨?_, fun j hj s hs hmid => ?_⟩
  · obtain ⟨s, hs⟩ := exists_getElem?_of_bundledStream hpre.length ho.bundled
    exact ⟨s, (h.stays o hin).trans hs, (hpre.answer ho.bundled hs).1⟩
  · obtain ⟨-, b, hb, hbmid⟩ := h.bundled_of_mid hpre hs (hmid ▸ bundledStream_mid_ne ho.bundled)
    exact ho.mid_ne hj hb (hbmid.trans hmid)

/-- Where the transport owner was disabled, only a stream that comes later and repeats its mid is found. -/
lemma Passed.exists_of_gone
    (ho : engine.IsOwner l r o c) (hbefore : o < i) (hgone : ¬ SelfOwned l r o) (hs : d.streams[k]? = some s)
    (hmid : s.getMid = c.mid) : i ≤ k ∧ ∃ b, engine.bundledStream l r k = some b ∧ b.mid = c.mid := by
  obtain ⟨hin, b, hb, hbmid⟩ := h.bundled_of_mid hpre hs (hmid ▸ bundledStream_mid_ne ho.bundled)
  refine ⟨?_, b, hb, hbmid.trans hmid⟩
  by_contra hlt
  have hkept := (hin (by omega)).2
  obtain hko | rfl | hko := Nat.lt_trichotomy k o
  · exact ho.mid_ne hko hb (hbmid.trans hmid)
  · exact hgone ((kept_iff_of_stays ho (.inl le_rfl)).1 hkept)
  · exact ((kept_iff_of_gone ho hko hgone).1 hkept).1 k b le_rfl hb (hbmid.trans hmid)

end

/-- What the last pass disables a stream for. -/
def Mismatch (result_owner_index local_owner_index remote_owner_index : ℤ) : Prop :=
  (0 ≤ result_owner_index ∧ (local_owner_index ≠ result_owner_index ∨ remote_owner_index ≠ result_owner_index)) ∨
    (result_owner_index < 0 ∧ 0 ≤ local_owner_index ∧ 0 ≤ remote_owner_index)

lemma mismatch_of_natCast {x y : ℤ} : Mismatch (o : ℤ) x y ↔ ¬ (x = o ∧ y = o) := by
  unfold Mismatch
  omega

lemma mismatch_of_neg {z x y : ℤ} (hz : z < 0) (hy : 0 ≤ y) : Mismatch z x y ↔ ¬ x < 0 := by
  unfold Mismatch
  omega

/-- The pass disables a stream of the bundle that is not kept. -/
lemma Passed.mismatch_iff (h : Passed engine l r pre i d) (hpre : Rebuilt engine l r pre)
    (hb : engine.bundledStream l r i = some b) (hs : d.streams[i]? = some s) :
    Mismatch (d.getIndexOfTransportOwner s) (l.ownerAt i) (r.ownerAt i) ↔ ¬ engine.Kept l r i := by
  have hanswer := hpre.answer hb ((h.stays i fun hlt => absurd hlt (lt_irrefl i)).symm.trans hs)
  have hmid : s.getMid ≠ "" := hanswer.1 ▸ bundledStream_mid_ne hb
  obtain ⟨bundle, hbundle, howner, hunowned⟩ := hpre.bundle
  obtain ⟨hbundles, hhas⟩ := hbundle i b hb
  rw [getIndexOfTransportOwner_of_bundle (h.bundles.trans hbundles) hmid (hanswer.1 ▸ hhas)]
  by_cases ho : ∃ o c, engine.IsOwner l r o c
  · obtain ⟨o, c, ho⟩ := ho
    rw [howner o c ho, if_neg (bundledStream_mid_ne ho.bundled)]
    by_cases hstays : i ≤ o ∨ SelfOwned l r o
    · rw [h.lookupMid_of_stays hpre ho hstays, mismatch_of_natCast, kept_iff_of_stays ho hstays]
    · rw [not_or, not_le] at hstays
      rw [kept_iff_of_gone ho hstays.1 hstays.2]
      by_cases hneg : d.lookupMid c.mid < 0
      · rw [mismatch_of_neg hneg (ownerAt_nonneg hb)]
        have hnone (k : ℕ) (b' : BundledStream) (hk : i ≤ k) (hb' : engine.bundledStream l r k = some b') :
            b'.mid ≠ c.mid := by
          obtain ⟨t, ht⟩ := exists_getElem?_of_bundledStream hpre.length hb'
          have ht' := (h.stays k fun hlt => absurd hlt hk.not_gt).trans ht
          exact (hpre.answer hb' ht).1 ▸ lookupMid_neg_iff.1 hneg t (mem_of_getElem? ht')
        exact ⟨fun hl hkept => hl hkept.2, fun hkept hl => hkept ⟨hnone, hl⟩⟩
      · -- the mid is found at a later stream, which the offer does not have as transport owner
        obtain ⟨k, hk⟩ := Int.eq_ofNat_of_zero_le (Int.not_lt.1 hneg)
        obtain ⟨⟨t, ht, htmid⟩, -⟩ := lookupMid_eq_iff.1 hk
        obtain ⟨hik, b', hb', hbmid'⟩ := h.exists_of_gone hpre ho hstays.1 hstays.2 ht htmid
        rw [hk]
        change Mismatch (k : ℤ) _ _ ↔ _
        rw [mismatch_of_natCast]
        have hne := ownerAt_ne_of_mid_eq (i := i) ho.bundled hb' (by omega) hbmid'
        exact ⟨fun _ hkept => hkept.1 k b' hik hb' hbmid', fun _ howners => hne howners.2⟩
  · have hnone (o : ℕ) (c : BundledStream) : ¬ engine.IsOwner l r o c := fun h => ho ⟨o, c, h⟩
    rw [hunowned hnone, if_pos rfl, mismatch_of_neg (by decide) (ownerAt_nonneg hb), kept_iff_of_unowned hnone]

lemma Passed.keep (h : Passed engine l r pre i d)
    (hs : InAnswer engine l r i ∨ ∀ s, d.streams[i]? = some s → s.getMid = "") : Passed engine l r pre (i + 1) d where
  bundles := h.bundles
  length := h.length
  stays k hk := h.stays k fun hlt => hk (by omega)
  gone k hk hnot t ht := by
    obtain hlt | rfl : k < i ∨ k = i := by omega
    · exact h.gone k hlt hnot t ht
    · exact hs.resolve_left hnot t ht

lemma Passed.disable (h : Passed engine l r pre i d) (hnot : ¬ InAnswer engine l r i) (s : SalStreamDescription) :
    Passed engine l r pre (i + 1) { d with streams := d.streams.set i s.disable } where
  bundles := h.bundles
  length := length_set.trans h.length
  stays k hk := by
    have hne : i ≠ k := by
      rintro rfl
      exact hnot (hk (Nat.lt_succ_self i))
    change (d.streams.set i s.disable)[k]? = pre.streams[k]?
    rw [getElem?_set_ne hne]
    exact h.stays k fun hlt => hk (by omega)
  gone k hk hnot' t ht := by
    change (d.streams.set i s.disable)[k]? = some t at ht
    obtain hlt | rfl : k < i ∨ k = i := by omega
    · rw [getElem?_set_ne (by omega)] at ht
      exact h.gone k hlt hnot' t ht
    · rw [getElem?_set, if_pos rfl] at ht
      split_ifs at ht
      cases ht
      exact getMid_disable s

/-- The pass comes to one stream. -/
lemma Passed.step {local_capabilities remote_offer : SalMediaDescription} (h : Passed engine l r pre i d)
    (hpre : Rebuilt engine l r pre) (hlmids : local_capabilities.mids = l.mids)
    (hlbundles : local_capabilities.bundles = l.bundles) (hrmids : remote_offer.mids = r.mids)
    (hrbundles : remote_offer.bundles = r.bundles) :
    Passed engine l r pre (i + 1) (verifyBundle local_capabilities remote_offer d i) := by
  have hmember (s : SalStreamDescription) (hs : d.streams[i]? = some s) :
      IsAnswer s (engine.bundledStream l r i) :=
    hpre.answers i s ((h.stays i fun hlt => absurd hlt (lt_irrefl i)).symm.trans hs)
  have hfree (hnone : engine.bundledStream l r i = none) (s : SalStreamDescription) (hs : d.streams[i]? = some s) :
      s.getMid = "" := by
    have hanswer := hmember s hs
    rwa [hnone] at hanswer
  cases hb : engine.bundledStream l r i with
  | none =>
    have hnot : ¬ InAnswer engine l r i := fun ⟨⟨b, hb'⟩, _⟩ => by
      rw [hb] at hb'
      cases hb'
    rw [verifyBundle]
    split
    · dsimp only
      split_ifs
      · exact h.disable hnot _
      · exact h.keep (.inr (hfree hb))
    · exact h.keep (.inr (hfree hb))
  | some b =>
    obtain ⟨s, hs⟩ : ∃ s, d.streams[i]? = some s :=
      exists_getElem?_of_bundledStream (h.length.trans hpre.length) hb
    obtain ⟨rs₀, ls₀, hrs₀, hls₀, -⟩ := bundledStream_eq_some hb
    obtain ⟨ls, hls⟩ := exists_getElem?_of_mids_eq hlmids hls₀
    obtain ⟨rs, hrs⟩ := exists_getElem?_of_mids_eq hrmids hrs₀
    have hmismatch := h.mismatch_iff hpre hb hs
    rw [← ownerAt_congr hlmids hlbundles, ← ownerAt_congr hrmids hrbundles, ownerAt_of_getElem? hls,
      ownerAt_of_getElem? hrs] at hmismatch
    rw [verifyBundle, hs, hls, hrs]
    dsimp only
    split_ifs with hcond
    · exact h.disable (fun hin => hmismatch.1 hcond hin.2) s
    · exact h.keep (.inl ⟨⟨b, hb⟩, by_contra fun hnot => hcond (hmismatch.2 hnot)⟩)

/-- The pass comes to all the streams. -/
lemma passed_verifyBundles {n : Negotiation} (hn : engine.Negotiated l r r.streams.length n)
    (hpre : Rebuilt engine l r pre) :
    Passed engine l r pre pre.streams.length (verifyBundles n.local_capabilities n.remote_offer pre) := by
  rw [verifyBundles]
  generalize pre.streams.length = k
  induction k with
  | zero =>
    exact ⟨rfl, rfl, fun k _ => rfl, fun k hk => absurd hk (Nat.not_lt_zero k)⟩
  | succ k ih =>
    rw [range_succ, foldl_concat]
    exact ih.step hpre hn.localMids hn.localBundles hn.remoteMids hn.remoteBundles

section passed

variable (h : Passed engine l r pre pre.streams.length d) (hpre : Rebuilt engine l r pre)

include h hpre

lemma Passed.exists_answer (hb : engine.bundledStream l r i = some b) (hkept : engine.Kept l r i) :
    ∃ s, d.streams[i]? = some s ∧ IsAnswer s (some b) := by
  obtain ⟨s, hs⟩ := exists_getElem?_of_bundledStream hpre.length hb
  exact ⟨s, (h.stays i fun _ => ⟨⟨b, hb⟩, hkept⟩).trans hs, hpre.answer hb hs⟩

lemma Passed.exists_bundled (hs : d.streams[i]? = some s) (hne : s.getMid ≠ "") :
    ∃ b, engine.bundledStream l r i = some b ∧ engine.Kept l r i ∧ IsAnswer s (some b) := by
  obtain ⟨hin, b, hb, -⟩ := h.bundled_of_mid hpre hs hne
  obtain ⟨hlen, -⟩ := List.getElem?_eq_some_iff.1 hs
  have hinAnswer := hin (h.length ▸ hlen)
  refine ⟨b, hb, hinAnswer.2, hpre.answer hb ?_⟩
  rw [← hs, h.stays i hin]

/-- A stream of the bundle that is kept has the transport owner of the bundle, if it stays. -/
lemma Passed.getIndexOfTransportOwner_eq_iff (hb : engine.bundledStream l r i = some b) (hs : IsAnswer s (some b)) :
    d.getIndexOfTransportOwner s = k ↔ ∃ c, engine.IsOwner l r k c ∧ SelfOwned l r k := by
  have hmid : s.getMid ≠ "" := hs.1 ▸ bundledStream_mid_ne hb
  obtain ⟨bundle, hbundle, howner, hunowned⟩ := hpre.bundle
  obtain ⟨hbundles, hhas⟩ := hbundle i b hb
  rw [getIndexOfTransportOwner_of_bundle (h.bundles.trans hbundles) hmid (hs.1 ▸ hhas)]
  constructor
  · intro hk
    by_cases ho : ∃ o c, engine.IsOwner l r o c
    · obtain ⟨o, c, ho⟩ := ho
      rw [howner o c ho, if_neg (bundledStream_mid_ne ho.bundled)] at hk
      obtain ⟨⟨t, ht, htmid⟩, -⟩ := lookupMid_eq_iff.1 hk
      by_cases hself : SelfOwned l r o
      · rw [h.lookupMid_of_stays hpre ho (.inr hself)] at hk
        obtain rfl : o = k := Int.ofNat_inj.1 hk
        exact ⟨c, ho, hself⟩
      · obtain ⟨t₀, ht₀⟩ := exists_getElem?_of_bundledStream hpre.length ho.bundled
        obtain ⟨hlen₀, -⟩ := List.getElem?_eq_some_iff.1 ht₀
        obtain ⟨hlen, -⟩ := List.getElem?_eq_some_iff.1 ht
        have hle := (h.exists_of_gone hpre ho hlen₀ hself ht htmid).1
        exact absurd (h.length ▸ hlen) hle.not_gt
    · rw [hunowned fun o c h => ho ⟨o, c, h⟩, if_pos rfl] at hk
      omega
  · rintro ⟨c, ho, hself⟩
    rw [howner k c ho, if_neg (bundledStream_mid_ne ho.bundled)]
    exact h.lookupMid_of_stays hpre ho (.inr hself)

end passed

end OfferAnswerEngine

/-! ### Coherent answers -/

/-- The bundles of an answer go with the offer: an enabled stream with a mid has RTCP multiplexing and a bundle whose
transport owner is the offered one, enabled, with a port and not bundle-only; and enabled streams of different groups
of the offer are in no bundle together. -/
structure CoherentBundles (remote_offer answer : SalMediaDescription) : Prop where
  stream : ∀ i s, answer.streams[i]? = some s → s.enabled = true → s.getMid ≠ "" →
    s.getChosenConfiguration.rtcp_mux = true ∧ ∃ (o : ℕ) (t : SalStreamDescription),
      answer.getIndexOfTransportOwner s = o ∧ answer.streams[o]? = some t ∧ t.enabled = true ∧ t.rtp_port ≠ 0 ∧
      t.isBundleOnly = false ∧ remote_offer.ownerAt i = o
  groups : ∀ i j s t, answer.streams[i]? = some s → answer.streams[j]? = some t → s.enabled = true →
    t.enabled = true → s.getMid ≠ "" → t.getMid ≠ "" → remote_offer.bundleAt i ≠ remote_offer.bundleAt j →
    ∀ bundle ∈ answer.bundles, ¬ (bundle.hasMid s.getMid = true ∧ bundle.hasMid t.getMid = true)

namespace OfferAnswerEngine

open SalStreamDescription SalMediaDescription

/-- The enabled streams of the bundle that are kept have RTCP multiplexing on both sides, an owner that is its own
transport owner on both sides and has a port, and one group in the offer. -/
def BundlesMatch (engine : OfferAnswerEngine) (local_capabilities remote_offer : SalMediaDescription) : Prop :=
  ∀ i b, engine.bundledStream local_capabilities remote_offer i = some b → b.enabled = true →
    engine.Kept local_capabilities remote_offer i →
    b.rtcp_mux = true ∧
    (∃ o c, engine.IsOwner local_capabilities remote_offer o c ∧ SelfOwned local_capabilities remote_offer o ∧
      0 < c.port) ∧
    ∀ j b', engine.bundledStream local_capabilities remote_offer j = some b' → b'.enabled = true →
      engine.Kept local_capabilities remote_offer j → remote_offer.bundleAt j = remote_offer.bundleAt i

variable {engine : OfferAnswerEngine} {l r pre d : SalMediaDescription}

section passed

variable (h : Passed engine l r pre pre.streams.length d) (hpre : Rebuilt engine l r pre)

include h hpre

lemma Passed.bundlesMatch (hcoherent : CoherentBundles r d) : engine.BundlesMatch l r := by
  intro i b hb henabled hkept
  obtain ⟨s, hs, hanswer⟩ := h.exists_answer hpre hb hkept
  have hne : s.getMid ≠ "" := hanswer.1 ▸ bundledStream_mid_ne hb
  have hsenabled : s.enabled = true := hanswer.2.2.2.1.trans henabled
  obtain ⟨hmux, o, t, ho, ht, htenabled, -⟩ := hcoherent.stream i s hs hsenabled hne
  obtain ⟨c, howner, hself⟩ := (h.getIndexOfTransportOwner_eq_iff hpre hb hanswer).1 ho
  refine ⟨hanswer.2.2.1.symm.trans hmux, ⟨o, c, howner, hself, ?_⟩, fun j b' hb' henabled' hkept' => ?_⟩
  · obtain ⟨t', ht', htanswer⟩ := h.exists_answer hpre howner.bundled
      ((kept_iff_of_stays howner (.inl le_rfl)).2 hself)
    obtain rfl : t = t' := some.inj (ht.symm.trans ht')
    have hcenabled := htanswer.2.2.2.1.symm.trans htenabled
    rw [BundledStream.enabled, if_pos howner.owns] at hcenabled
    exact of_decide_eq_true hcenabled
  · obtain ⟨s', hs', hanswer'⟩ := h.exists_answer hpre hb' hkept'
    have hne' : s'.getMid ≠ "" := hanswer'.1 ▸ bundledStream_mid_ne hb'
    obtain ⟨bundle, hbundle, -⟩ := hpre.bundle
    obtain ⟨hbundles, hhas⟩ := hbundle i b hb
    have hhas' := (hbundle j b' hb').2
    by_contra hdiff
    refine hcoherent.groups j i s' s hs' hs (hanswer'.2.2.2.1.trans henabled') hsenabled hne' hne hdiff bundle ?_
      ⟨hanswer'.1 ▸ hhas', hanswer.1 ▸ hhas⟩
    rw [h.bundles, hbundles]
    exact mem_singleton_self bundle

lemma Passed.coherentBundles (hmatch : engine.BundlesMatch l r) : CoherentBundles r d where
  stream i s hs henabled hne := by
    obtain ⟨b, hb, hkept, hanswer⟩ := h.exists_bundled hpre hs hne
    obtain ⟨hmux, ⟨o, c, howner, hself, hport⟩, -⟩ := hmatch i b hb (hanswer.2.2.2.1.symm.trans henabled) hkept
    obtain ⟨t, ht, htanswer⟩ := h.exists_answer hpre howner.bundled
      ((kept_iff_of_stays howner (.inl le_rfl)).2 hself)
    refine ⟨hanswer.2.2.1.trans hmux, o, t, ?_, ht, ?_, ?_, ?_, ?_⟩
    · exact (h.getIndexOfTransportOwner_eq_iff hpre hb hanswer).2 ⟨c, howner, hself⟩
    · rw [htanswer.2.2.2.1, BundledStream.enabled, if_pos howner.owns]
      exact decide_eq_true hport
    · rw [htanswer.2.2.2.2 howner.owns]
      omega
    · rw [htanswer.2.1, howner.owns]
      rfl
    · exact ((kept_iff_of_stays howner (.inr hself)).1 hkept).2
  groups i j s t hs ht henabled htenabled hne htne hdiff _ _ _ := by
    obtain ⟨b, hb, hkept, hanswer⟩ := h.exists_bundled hpre hs hne
    obtain ⟨b', hb', hkept', hanswer'⟩ := h.exists_bundled hpre ht htne
    exact hdiff ((hmatch j b' hb' (hanswer'.2.2.2.1.symm.trans htenabled) hkept').2.2 i b hb
      (hanswer.2.2.2.1.symm.trans henabled) hkept)

end passed

/-- The bundles of the answer to an offer are coherent where those of the offer match the local capabilities. -/
theorem coherentBundles_initiateIncoming_iff (hl : ∀ s ∈ l.streams, s.OneMid) (hr : ∀ s ∈ r.streams, s.OneMid) :
    CoherentBundles r (engine.initiateIncoming l r).result ↔ engine.BundlesMatch l r := by
  have hn := negotiated_negotiateStreams engine hl hr
  have hpre := rebuilt_of_negotiated hn
  have h := passed_verifyBundles hn hpre
  exact ⟨h.bundlesMatch hpre, h.coherentBundles hpre⟩

/-! ### Samples -/

/-- An engine without providers, for addresses that are not multicast. -/
def plainEngine : OfferAnswerEngine := { mMsFactory := fun _ => none, isMulticast := fun _ => false }

def pcmuStream (rtcp_mux : Bool) (mid : String) : SalStreamDescription :=
  ({ rtp_port := 7078 } : SalStreamDescription).addActualConfiguration {
    payloads := [{ mime_type := some "PCMU", clock_rate := 8000, channels := 1 }]
    dir := .sendRecv
    mid := mid
    mid_rtp_ext_header_id := 1
    rtcp_mux := rtcp_mux }

def pcmuDescription (rtcp_mux : Bool) (groups : List (List String)) : SalMediaDescription :=
  { streams := ["as", "vs", "ts"].map (pcmuStream rtcp_mux), bundles := groups.map .mk, accept_bundles := true }

lemma oneMid_pcmuDescription (rtcp_mux : Bool) (groups : List (List String)) :
    ∀ s ∈ (pcmuDescription rtcp_mux groups).streams, s.OneMid := by
  intro s hs
  obtain ⟨mid, -, rfl⟩ := mem_map.1 hs
  exact SalStreamDescription.oneMid_addActualConfiguration rfl rfl _

theorem coherentBundles_initiateIncoming_pcmu : CoherentBundles (pcmuDescription true [["vs", "as"]])
      (plainEngine.initiateIncoming (pcmuDescription true [["vs", "as"]])
        (pcmuDescription true [["vs", "as"]])).result := by
  refine (coherentBundles_initiateIncoming_iff (oneMid_pcmuDescription _ _) (oneMid_pcmuDescription _ _)).2 ?_
  have howner : plainEngine.IsOwner (pcmuDescription true [["vs", "as"]]) (pcmuDescription true [["vs", "as"]]) 1
      ⟨"vs", true, true, 7078, true⟩ := by
    refine ⟨rfl, rfl, fun k hk b hb => ?_⟩
    obtain rfl := Nat.lt_one_iff.1 hk
    cases hb
    rfl
  have hbundle : ∀ i b, plainEngine.bundledStream (pcmuDescription true [["vs", "as"]])
      (pcmuDescription true [["vs", "as"]]) i = some b →
      b.rtcp_mux = true ∧ (pcmuDescription true [["vs", "as"]]).bundleAt i = ⟨["vs", "as"]⟩
    | 0, _, hb => by cases hb; exact ⟨rfl, rfl⟩
    | 1, _, hb => by cases hb; exact ⟨rfl, rfl⟩
    | 2, _, hb => by cases hb
    | _ + 3, _, hb => by cases hb
  intro i b hb _ _
  refine ⟨(hbundle i b hb).1, ⟨1, _, howner, ⟨rfl, rfl⟩, by decide⟩, fun j b' hb' _ _ => ?_⟩
  rw [(hbundle i b hb).2, (hbundle j b' hb').2]

/-- RTCP multiplexing is not answered in a bundle if it is not offered, and the streams of two groups that start with
the same mid are answered in one bundle. -/
theorem coherentBundles_initiateIncoming_fails : ¬ CoherentBundles (pcmuDescription false [["as", "vs"]])
        (plainEngine.initiateIncoming (pcmuDescription true [["as", "vs"]])
          (pcmuDescription false [["as", "vs"]])).result ∧
      ¬ CoherentBundles (pcmuDescription true [["as", "vs"], ["as", "ts"]])
        (plainEngine.initiateIncoming (pcmuDescription true [["as", "vs", "ts"]])
          (pcmuDescription true [["as", "vs"], ["as", "ts"]])).result := by
  refine ⟨fun hcoherent => ?_, fun hcoherent => ?_⟩
  · exact absurd (hcoherent.stream 0 _ rfl rfl (by decide)).1 (by decide)
  · refine hcoherent.groups 1 2 _ _ rfl rfl rfl rfl (by decide) (by decide) (by decide) _ (mem_singleton_self _)
      ⟨rfl, rfl⟩

end OfferAnswerEngine

end Sal
