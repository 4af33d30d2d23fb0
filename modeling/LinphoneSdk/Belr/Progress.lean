import LinphoneSdk.Belr.Termination

/-!
# Progress

A recognizer that matches nothing is one of those that can do so by its class. Without left recursion, recognition that
neither gets stuck in a loop nor goes on behind any bound therefore ends.
-/

namespace Belr

open Option Except Nat

variable {grammar : Recognizers} {input : Input} {fuel recognizer pos pos' : ℕ}

/-! ### What matches nothing -/

lemma length_of_literalFeed {mLiteral : Bytes} {n : ℕ} (h : literalFeed mLiteral input pos = some n) :
    n = mLiteral.length := by
  induction mLiteral generalizing pos n with
  | nil => simpa [literalFeed] using h.symm
  | cons c rest ih =>
    by_cases hc : tolower (input.get pos) = c
    · simp only [literalFeed, hc, ne_eq, not_true_eq_false, if_false, map_eq_some_iff] at h
      obtain ⟨m, hm, rfl⟩ := h
      rw [List.length_cons, ih hm]
    · simp [literalFeed, hc] at h

section Empty

variable {derive : ℕ → ℕ → Except Failure (Match Unit Unit)}

lemma mem_of_deriveLongest {elements : List ℕ} {best matched : Match Unit Unit}
    (h : deriveLongest derive pos elements best = .ok matched) :
    matched = best ∨ ∃ element ∈ elements, derive element pos = .ok matched := by
  induction elements generalizing best with
  | nil => exact .inl (ok.inj h).symm
  | cons element elements ih =>
    cases hresult : derive element pos with
    | error failure =>
      rw [deriveLongest, hresult] at h
      cases h
    | ok result =>
      rw [deriveLongest_cons hresult] at h
      rcases ih h with rfl | ⟨other, hother, hmatched⟩
      · have hlonger : longer result best = best ∨ longer result best = result := by
          rcases result with _ | ⟨n, collected⟩
          · exact .inl rfl
          rcases best with _ | ⟨m, collected'⟩
          · exact .inr rfl
          · by_cases hlonger : m < n <;> simp [longer, hlonger]
        rcases hlonger with hlonger | hlonger
        · exact .inl hlonger
        · exact .inr ⟨element, .head _, hresult.trans (congrArg _ hlonger.symm)⟩
      · exact .inr ⟨other, .tail _ hother, hmatched⟩

variable {collected : List (Collected Unit Unit)}

lemma deriveFirst_ne_empty {elements : List ℕ} : deriveFirst derive pos elements ≠ .ok (some (0, collected)) := by
  induction elements with
  | nil =>
    intro h
    cases h
  | cons element elements ih =>
    intro h
    rw [deriveFirst] at h
    cases hresult : derive element pos with
    | error failure =>
      rw [hresult] at h
      cases h
    | ok result =>
      rw [hresult, ok_bind] at h
      rcases result with _ | ⟨_ | n, _⟩
      · exact ih h
      · exact ih h
      · cases h

lemma empty_of_deriveSequence {elements : List ℕ} (h : deriveSequence derive elements pos = .ok (some (0, collected))) :
    ∀ element ∈ elements, ∃ collected', derive element pos = .ok (some (0, collected')) := by
  induction elements generalizing collected with
  | nil => simp
  | cons element elements ih =>
    rw [deriveSequence] at h
    cases hresult : derive element pos with
    | error failure =>
      rw [hresult] at h
      cases h
    | ok result =>
      rw [hresult, ok_bind] at h
      rcases result with _ | ⟨n, first⟩
      · cases h
      · simp only at h
        cases hrest : deriveSequence derive elements (pos + n) with
        | error failure =>
          rw [hrest] at h
          cases h
        | ok rest =>
          rw [hrest, ok_bind] at h
          rcases rest with _ | ⟨m, others⟩
          · cases h
          · have hsum : n + m = 0 := by
              have := congrArg (Option.map Prod.fst) (ok.inj h)
              simpa using this
            obtain ⟨rfl, rfl⟩ : n = 0 ∧ m = 0 := by omega
            intro other hother
            rcases List.mem_cons.mp hother with rfl | hother
            · exact ⟨first, hresult⟩
            · exact ih hrest other hother

lemma empty_of_deriveIterations {mRecognizer : ℕ} {mMax : ℤ} {fuel repeats repeats' : ℕ}
    (h : deriveIterations derive input mRecognizer mMax fuel repeats pos = .ok (repeats', 0, collected)) :
    repeats' = repeats ∨ ∃ collected', derive mRecognizer pos = .ok (some (0, collected')) := by
  cases fuel with
  | zero => cases h
  | succ fuel =>
    rw [deriveIterations] at h
    split at h
    · cases hresult : derive mRecognizer pos with
      | error failure =>
        rw [hresult] at h
        cases h
      | ok result =>
        rw [hresult, ok_bind] at h
        rcases result with _ | ⟨n, first⟩
        · cases h
          exact .inl rfl
        · simp only at h
          cases hrest : deriveIterations derive input mRecognizer mMax fuel (repeats + 1) (pos + n) with
          | error failure =>
            rw [hrest] at h
            cases h
          | ok rest =>
            rw [hrest, ok_bind] at h
            have hsum : n + rest.2.1 = 0 := congrArg (fun result => result.2.1) (ok.inj h)
            obtain rfl : n = 0 := by omega
            exact .inr ⟨first, rfl⟩
    · cases h
      exact .inl rfl

end Empty

/-- A recognizer that matches no character is one that can do so. -/
lemma Returns.nullable (h : Returns grammar input recognizer pos (some 0)) : Nullable grammar recognizer := by
  obtain ⟨fuel, collected, hok, hmatched⟩ := h
  induction fuel generalizing recognizer collected with
  | zero => cases hok
  | succ fuel ih =>
    have hsucc := @recognize_succ grammar input fuel recognizer pos
    have hempty {element : ℕ} {collected' : List (Collected Unit Unit)}
        (h : recognize grammar input fuel element pos = .ok (some (0, collected'))) : Nullable grammar element :=
      ih (some (0, collected')) h rfl
    rw [hok, Except.map, hmatched] at hsucc
    cases hresult : deriveKind (recognize grammar input fuel) input fuel pos (grammar recognizer).kind with
    | error failure =>
      rw [hresult] at hsucc
      cases hsucc
    | ok result =>
      rw [hresult] at hsucc
      obtain ⟨⟨n, collected'⟩, rfl, rfl⟩ := map_eq_some_iff.mp (ok.inj hsucc).symm
      cases hkind : (grammar recognizer).kind with
      | charRecognizer mToRecognize mCaseSensitive =>
        rw [hkind] at hresult
        obtain ⟨n, hfeed, hn⟩ := map_eq_some_iff.mp (ok.inj hresult)
        have hone : n = 1 := by
          rw [charRecognizerFeed] at hfeed
          grind
        cases hone.symm.trans (congrArg Prod.fst hn)
      | charRange mBegin mEnd =>
        rw [hkind] at hresult
        obtain ⟨n, hfeed, hn⟩ := map_eq_some_iff.mp (ok.inj hresult)
        have hone : n = 1 := by
          rw [charRangeFeed] at hfeed
          grind
        cases hone.symm.trans (congrArg Prod.fst hn)
      | literal mLiteral =>
        rw [hkind] at hresult
        obtain ⟨n, hfeed, hn⟩ := map_eq_some_iff.mp (ok.inj hresult)
        have hlength := length_of_literalFeed hfeed
        obtain rfl : mLiteral = [] := by
          cases hn
          exact List.eq_nil_of_length_eq_zero hlength.symm
        exact .literal hkind
      | selector mIsExclusive elements =>
        rw [hkind] at hresult
        cases mIsExclusive with
        | true => exact absurd hresult deriveFirst_ne_empty
        | false =>
          rcases mem_of_deriveLongest hresult with hnone | ⟨element, hmem, helement⟩
          · cases hnone
          · exact .selector hkind hmem (hempty helement)
      | exclusiveSelector elements =>
        rw [hkind] at hresult
        exact absurd hresult deriveFirst_ne_empty
      | sequence elements =>
        rw [hkind] at hresult
        refine .sequence hkind fun element hmem => ?_
        obtain ⟨_, helement⟩ := empty_of_deriveSequence hresult element hmem
        exact hempty helement
      | loop mRecognizer mMin mMax =>
        rw [hkind, deriveKind] at hresult
        cases hiterations : deriveIterations (recognize grammar input fuel) input mRecognizer mMax fuel 0 pos with
        | error failure =>
          rw [hiterations] at hresult
          cases hresult
        | ok iterations =>
          rw [hiterations, ok_bind] at hresult
          obtain ⟨repeats, n, collected'⟩ := iterations
          simp only at hresult
          split at hresult
          · cases hresult
          · rename_i hmin
            cases hresult
            rcases empty_of_deriveIterations hiterations with rfl | ⟨_, helement⟩
            · exact .noIteration hkind (by simpa using hmin)
            · exact .loop hkind (hempty helement)
      | recognizerPointer mRecognizer =>
        rw [hkind] at hresult
        cases mRecognizer with
        | none => cases hresult
        | some mRecognizer => exact .pointer hkind (hempty hresult)
      | recognizerAlias mRecognizer =>
        rw [hkind] at hresult
        cases mRecognizer with
        | none => cases hresult
        | some mRecognizer => exact .alias hkind (hempty hresult)

/-! ### Progress -/

variable {elements : List ℕ}

lemma Sequences.le (h : Sequences grammar input elements pos pos') : pos ≤ pos' := by
  induction h with
  | nil => exact Nat.le_refl _
  | cons _ _ ih => omega

lemma Sequences.nullable (h : Sequences grammar input elements pos pos') (hpos : pos' ≤ pos) :
    ∀ element ∈ elements, Nullable grammar element := by
  induction h with
  | nil => simp
  | cons hfirst hrest ih =>
    have hle := hrest.le
    rename_i n _
    obtain rfl : n = 0 := by omega
    simpa using ⟨hfirst.nullable, ih (by omega)⟩

lemma Iterates.le {mRecognizer repeats : ℕ} {mMax : ℤ} (h : Iterates grammar input mRecognizer mMax pos repeats pos') :
    pos ≤ pos' := by
  induction h with
  | zero => exact Nat.le_refl _
  | succ _ _ _ ih => omega

/-- What is fed is fed further in the input, or it is a left call. -/
lemma Feeds.lt_or_leftCalls {node next : ℕ × ℕ} (h : Feeds grammar input node next) :
    node.2 < next.2 ∨ next.2 = node.2 ∧ LeftCalls grammar node.1 next.1 := by
  rw [Feeds] at h
  rw [LeftCalls]
  cases hkind : (grammar node.1).kind with
  | charRecognizer | charRange | literal => simp [hkind] at h
  | selector mIsExclusive elements =>
    cases mIsExclusive with
    | false | true =>
      rw [hkind] at h
      obtain ⟨hpos, front, rest, rfl, -⟩ := h
      exact .inr ⟨hpos, by simp [Kind.elements]⟩
  | exclusiveSelector elements =>
    rw [hkind] at h
    obtain ⟨hpos, front, rest, rfl, -⟩ := h
    exact .inr ⟨hpos, by simp [Kind.elements]⟩
  | sequence elements =>
    rw [hkind] at h
    obtain ⟨front, rest, rfl, hfront⟩ := h
    rcases Nat.lt_or_ge node.2 next.2 with hlt | hge
    · exact .inl hlt
    · exact .inr ⟨Nat.le_antisymm hge hfront.le, front, rest, rfl, hfront.nullable hge⟩
  | loop mRecognizer mMin mMax =>
    rw [hkind] at h
    obtain ⟨hnext, repeats, hiterates, -⟩ := h
    rcases Nat.lt_or_ge node.2 next.2 with hlt | hge
    · exact .inl hlt
    · exact .inr ⟨Nat.le_antisymm hge hiterates.le, by simp [Kind.elements, hnext]⟩
  | recognizerPointer mRecognizer | recognizerAlias mRecognizer =>
    rw [hkind] at h
    exact .inr ⟨h.2, by simp [Kind.elements, h.1]⟩

/-! ### A recognizer ends when what it feeds does -/

lemma Terminates.result (h : Terminates grammar input recognizer pos) :
    (∃ fuel failure, failure ≠ .outOfFuel ∧ recognize grammar input fuel recognizer pos = .error failure) ∨
      ∃ fuel matched, recognize grammar input fuel recognizer pos = .ok matched := by
  obtain ⟨fuel, hfuel⟩ := h
  cases hresult : recognize grammar input fuel recognizer pos with
  | error failure => exact .inl ⟨fuel, failure, fun h => hfuel (by rw [hresult, h]), hresult⟩
  | ok matched => exact .inr ⟨fuel, matched, hresult⟩

lemma exists_deriveLongest (h : ∀ front element rest, elements = front ++ element :: rest →
    (∀ first ∈ front, ∃ matched, Returns grammar input first pos matched) → Terminates grammar input element pos)
    (best : Match Unit Unit) :
    ∃ fuel, deriveLongest (recognize grammar input fuel) pos elements best ≠ .error .outOfFuel := by
  induction elements generalizing best with
  | nil => exact ⟨0, by simp [deriveLongest, pure, Except.pure]⟩
  | cons element elements ih =>
    rcases (h [] element elements rfl (by simp)).result with ⟨fuel, failure, hfailure, hresult⟩ | ⟨fuel, matched, hok⟩
    · refine ⟨fuel, ?_⟩
      rw [deriveLongest, hresult]
      exact fun h => hfailure (error.inj h)
    · obtain ⟨fuel', hfuel'⟩ := ih (fun front other rest hother hfront =>
        h (element :: front) other rest (by rw [hother, List.cons_append]) (by simpa using ⟨⟨_, .of_ok hok⟩, hfront⟩))
        (longer matched best)
      refine ⟨max fuel fuel', ?_⟩
      rw [deriveLongest_cons (recognize_of_ok (Nat.le_max_left _ _) hok)]
      exact (approx_deriveLongest (fun other _ => approx_recognize (Nat.le_max_right _ _) other pos) _).ne hfuel'

lemma exists_deriveFirst (h : ∀ front element rest, elements = front ++ element :: rest →
    (∀ first ∈ front, ∃ matched, Returns grammar input first pos matched ∧ matched.getD 0 = 0) →
      Terminates grammar input element pos) :
    ∃ fuel, deriveFirst (recognize grammar input fuel) pos elements ≠ .error .outOfFuel := by
  induction elements with
  | nil => exact ⟨0, by simp [deriveFirst, pure, Except.pure]⟩
  | cons element elements ih =>
    rcases (h [] element elements rfl (by simp)).result with ⟨fuel, failure, hfailure, hresult⟩ | ⟨fuel, matched, hok⟩
    · refine ⟨fuel, ?_⟩
      rw [deriveFirst, hresult]
      exact fun h => hfailure (error.inj h)
    · by_cases hzero : (matched.map Prod.fst).getD 0 = 0
      · obtain ⟨fuel', hfuel'⟩ := ih fun front other rest hother hfront =>
          h (element :: front) other rest (by rw [hother, List.cons_append])
            (by simpa using ⟨⟨_, .of_ok hok, hzero⟩, hfront⟩)
        refine ⟨max fuel fuel', ?_⟩
        rw [deriveFirst_cons (recognize_of_ok (Nat.le_max_left _ _) hok) hzero]
        exact (approx_deriveFirst fun other _ => approx_recognize (Nat.le_max_right _ _) other pos).ne hfuel'
      · refine ⟨fuel, ?_⟩
        rw [deriveFirst, hok, ok_bind]
        rcases matched with _ | ⟨_ | n, collected⟩
        · exact absurd rfl hzero
        · exact absurd rfl hzero
        · simp [pure, Except.pure]

lemma exists_deriveSequence (h : ∀ front element rest pos', elements = front ++ element :: rest →
    Sequences grammar input front pos pos' → Terminates grammar input element pos') :
    ∃ fuel, deriveSequence (recognize grammar input fuel) elements pos ≠ .error .outOfFuel := by
  induction elements generalizing pos with
  | nil => exact ⟨0, by simp [deriveSequence, pure, Except.pure]⟩
  | cons element elements ih =>
    rcases (h [] element elements pos rfl .nil).result with ⟨fuel, failure, hfailure, hresult⟩ | ⟨fuel, matched, hok⟩
    · refine ⟨fuel, ?_⟩
      rw [deriveSequence, hresult]
      exact fun h => hfailure (error.inj h)
    · rcases matched with _ | ⟨n, collected⟩
      · refine ⟨fuel, ?_⟩
        rw [deriveSequence, hok, ok_bind]
        simp [pure, Except.pure]
      · obtain ⟨fuel', hfuel'⟩ := @ih (pos + n) fun front other rest pos' hother hfront =>
          h (element :: front) other rest pos' (by rw [hother, List.cons_append]) (.cons (.of_ok hok) hfront)
        refine ⟨max fuel fuel', ?_⟩
        have hrest := (approx_deriveSequence (fun other pos => approx_recognize (Nat.le_max_right fuel fuel') other pos)
          elements (pos + n)).ne hfuel'
        rw [deriveSequence, recognize_of_ok (Nat.le_max_left _ _) hok, ok_bind]
        simp only
        cases hresult : deriveSequence (recognize grammar input (max fuel fuel')) elements (pos + n) with
        | error failure =>
          intro h
          exact hrest (by rw [hresult, error.inj h])
        | ok rest =>
          rcases rest with _ | ⟨m, collected'⟩ <;> simp [ok_bind, pure, Except.pure]

/-- The iterations of a loop end: their number is bounded, or each of them makes progress below a bound. -/
lemma exists_deriveIterations {mRecognizer bound : ℕ} {mMax : ℤ}
    (h : ∀ repeats pos', Iterates grammar input mRecognizer mMax pos repeats pos' → loops mMax repeats input pos' →
      Terminates grammar input mRecognizer pos' ∧ pos' ≤ bound ∧
        (mMax = -1 → ¬ Returns grammar input mRecognizer pos' (some 0)))
    {repeats : ℕ} (hiterates : Iterates grammar input mRecognizer mMax pos repeats pos') :
    ∃ fuel, ∀ fuel' ≥ fuel, deriveIterations (recognize grammar input fuel) input mRecognizer mMax fuel' repeats pos' ≠
      .error .outOfFuel := by
  generalize hmeasure : (if mMax = -1 then bound + 1 - pos' else (mMax - repeats).toNat) = measure
  induction measure using Nat.strongRecOn generalizing repeats pos' with
  | _ measure ih =>
    by_cases hloops : loops mMax repeats input pos'
    · obtain ⟨hterminates, hbound, hprogress⟩ := h repeats pos' hiterates hloops
      rcases hterminates.result with ⟨fuel, failure, hfailure, hresult⟩ | ⟨fuel, matched, hok⟩
      · refine ⟨fuel + 1, fun fuel' hfuel' => ?_⟩
        obtain ⟨fuel', rfl⟩ : ∃ k, fuel' = k + 1 := ⟨fuel' - 1, by omega⟩
        have hresult' := (approx_recognize (le_succ fuel) mRecognizer pos').eq
          (by rw [hresult]; exact fun h => hfailure (error.inj h))
        rw [deriveIterations, if_pos hloops, ← hresult', hresult]
        exact fun h => hfailure (error.inj h)
      · rcases matched with _ | ⟨n, collected⟩
        · refine ⟨fuel + 1, fun fuel' hfuel' => ?_⟩
          obtain ⟨fuel', rfl⟩ : ∃ k, fuel' = k + 1 := ⟨fuel' - 1, by omega⟩
          rw [deriveIterations, if_pos hloops, recognize_of_ok (le_succ fuel) hok, ok_bind]
          simp [pure, Except.pure]
        · have hreturns : Returns grammar input mRecognizer pos' (some n) := .of_ok hok
          have hsmaller : (if mMax = -1 then bound + 1 - (pos' + n) else (mMax - (repeats + 1 : ℕ)).toNat) < measure := by
            rw [← hmeasure]
            by_cases hmax : mMax = -1
            · have hn : n ≠ 0 := fun hn => hprogress hmax (hn ▸ hreturns)
              simp only [if_pos hmax]
              omega
            · simp only [loops, hmax, false_or, decide_eq_true_eq] at hloops
              simp only [if_neg hmax]
              omega
          obtain ⟨fuel', hfuel'⟩ := ih _ hsmaller (.succ hiterates hloops hreturns) rfl
          refine ⟨max fuel fuel' + 1, fun fuel'' hfuel'' => ?_⟩
          obtain ⟨fuel'', rfl⟩ : ∃ k, fuel'' = k + 1 := ⟨fuel'' - 1, by omega⟩
          have hrest := (approx_deriveIterations (fun other pos => approx_recognize
            (show fuel' ≤ max fuel fuel' + 1 by omega) other pos) input mRecognizer mMax (Nat.le_refl fuel'')
              (repeats + 1) (pos' + n)).ne (hfuel' fuel'' (by omega))
          rw [deriveIterations, if_pos hloops, recognize_of_ok (show fuel ≤ max fuel fuel' + 1 by omega) hok, ok_bind]
          simp only
          cases hresult : deriveIterations (recognize grammar input (max fuel fuel' + 1)) input mRecognizer mMax fuel''
              (repeats + 1) (pos' + n) with
          | error failure =>
            intro h
            exact hrest (by rw [hresult, error.inj h])
          | ok rest => simp [ok_bind, pure, Except.pure]
    · refine ⟨1, fun fuel' hfuel' => ?_⟩
      obtain ⟨fuel', rfl⟩ : ∃ k, fuel' = k + 1 := ⟨fuel' - 1, by omega⟩
      rw [deriveIterations, if_neg hloops]
      simp [pure, Except.pure]

/-- A recognizer ends when what it feeds ends, it is not stuck, and the positions are bounded. -/
lemma terminates_of_feeds {node : ℕ × ℕ} {bound : ℕ}
    (hfeeds : ∀ next, Feeds grammar input node next → Terminates grammar input next.1 next.2 ∧ next.2 ≤ bound)
    (hstuck : ¬ Stuck grammar input node) : Terminates grammar input node.1 node.2 := by
  suffices h : ∃ fuel, deriveKind (recognize grammar input fuel) input fuel node.2 (grammar node.1).kind ≠
      .error .outOfFuel by
    obtain ⟨fuel, hfuel⟩ := h
    exact ⟨fuel + 1, recognize_succ_ne_iff.mpr hfuel⟩
  simp only [Feeds] at hfeeds
  cases hkind : (grammar node.1).kind with
  | charRecognizer | charRange | literal => exact ⟨0, by simp [deriveKind, pure, Except.pure]⟩
  | selector mIsExclusive elements =>
    rw [hkind] at hfeeds
    cases mIsExclusive with
    | false =>
      exact exists_deriveLongest (fun front element rest helements hfront =>
        (hfeeds (element, node.2) ⟨rfl, front, rest, helements, hfront⟩).1) none
    | true =>
      exact exists_deriveFirst fun front element rest helements hfront =>
        (hfeeds (element, node.2) ⟨rfl, front, rest, helements, hfront⟩).1
  | exclusiveSelector elements =>
    rw [hkind] at hfeeds
    exact exists_deriveFirst fun front element rest helements hfront =>
      (hfeeds (element, node.2) ⟨rfl, front, rest, helements, hfront⟩).1
  | sequence elements =>
    rw [hkind] at hfeeds
    exact exists_deriveSequence fun front element rest pos' helements hfront =>
      (hfeeds (element, pos') ⟨front, rest, helements, hfront⟩).1
  | loop mRecognizer mMin mMax =>
    rw [hkind] at hfeeds
    obtain ⟨fuel, hfuel⟩ := @exists_deriveIterations _ _ node.2 _ mRecognizer bound mMax
        (fun repeats pos' hiterates hloops => by
      obtain ⟨hterminates, hbound⟩ := hfeeds (mRecognizer, pos') ⟨rfl, repeats, hiterates, hloops⟩
      refine ⟨hterminates, hbound, fun hmax hreturns => hstuck ?_⟩
      subst hmax
      exact ⟨mRecognizer, mMin, repeats, pos', hkind, hiterates, by simpa [loops] using hloops, hreturns⟩)
      0 .zero
    refine ⟨fuel, ?_⟩
    rw [deriveKind]
    cases hresult : deriveIterations (recognize grammar input fuel) input mRecognizer mMax fuel 0 node.2 with
    | error failure =>
      intro h
      exact hfuel fuel (Nat.le_refl _) (by rw [hresult, error.inj h])
    | ok result =>
      by_cases hmin : (result.1 : ℤ) < mMin <;> simp [ok_bind, hmin, pure, Except.pure]
  | recognizerPointer mRecognizer | recognizerAlias mRecognizer =>
    rw [hkind] at hfeeds
    cases mRecognizer with
    | none => exact ⟨0, by simp [deriveKind, throw, throwThe, MonadExceptOf.throw]⟩
    | some mRecognizer => exact (hfeeds (mRecognizer, node.2) ⟨rfl, rfl⟩).1

/-- Recognition ends exactly if no loop is stuck and the positions that it reaches are bounded. -/
lemma terminates_iff (hfinite : grammar.Finite) (hleft : ∀ recognizer, ¬ LeftRecursive grammar recognizer)
    (node : ℕ × ℕ) : Terminates grammar input node.1 node.2 ↔
      (∀ next, Reaches grammar input node next → ¬ Stuck grammar input next) ∧
        ∃ bound, ∀ next, Reaches grammar input node next → next.2 ≤ bound := by
  constructor
  · intro h
    refine ⟨fun next hnext hstuck => not_terminates_of_stuck hstuck (terminates_of_reaches hnext h), ?_⟩
    obtain ⟨fuel, hfuel⟩ := h
    obtain ⟨bound, hbound⟩ := ((finite_reaches hfuel).image Prod.snd).bddAbove
    exact ⟨bound, fun next hnext => hbound (Set.mem_image_of_mem _ hnext)⟩
  · rintro ⟨hstuck, bound, hbound⟩
    suffices h : ∀ left recognizer pos, bound - pos = left → Reaches grammar input node (recognizer, pos) →
        Terminates grammar input recognizer pos from h _ node.1 node.2 rfl .refl
    intro left
    induction left using Nat.strongRecOn with
    | _ left ihleft =>
      intro recognizer
      induction recognizer using (wellFounded_leftCalls hfinite hleft).induction with
      | _ recognizer ih =>
        intro pos hpos hreaches
        refine @terminates_of_feeds _ _ (recognizer, pos) bound (fun next hnext => ?_)
          (hstuck _ hreaches)
        have hreaches' := hreaches.tail hnext
        have hle := hbound next hreaches'
        refine ⟨?_, hle⟩
        rcases hnext.lt_or_leftCalls with hlt | ⟨hpos', hcalls⟩
        · have hlt' : pos < next.2 := hlt
          exact ihleft (bound - next.2) (by omega) next.1 next.2 rfl hreaches'
        · exact ih next.1 hcalls next.2 (by rw [hpos']; exact hpos) hreaches'

section Static

variable (hzero : ∀ recognizer, ¬ (grammar recognizer).kind.AcceptsZero)

include hzero

lemma Returns.le {n : ℕ} (h : Returns grammar input recognizer pos (some n)) (hpos : pos ≤ input.text.length) :
    pos + n ≤ input.text.length := by
  obtain ⟨fuel, collected, hok, hmatched⟩ := h
  have htame (event : Event) : event.Tame grammar input := by
    cases event with
    | beginParse recognizer pos => exact fun hend => hzero recognizer hend.acceptsZero
    | read pos => trivial
    | endParse recognizer pos matched => trivial
  have hagrees := @Recognition.matched_feed grammar input _ _ noHandlers fuel () recognizer pos []
  have hbounded := @Recognition.bounded_feed grammar input fuel recognizer pos []
    (by simp [Recognition.Sound]) fun _ => hpos
  rw [Exec.wp] at hagrees hbounded
  cases hresult : Recognition.feed grammar input fuel recognizer pos [] with
  | ok matched events =>
    rw [hresult] at hagrees hbounded
    obtain ⟨collected', hok', rfl⟩ := hagrees
    cases hok.symm.trans hok'
    exact hbounded.2.2 (fun event _ => htame event) n hmatched
  | error failure events =>
    rw [hresult] at hagrees
    cases hok.symm.trans hagrees

lemma Reaches.le {node next : ℕ × ℕ} (h : Reaches grammar input node next) (hpos : node.2 ≤ input.text.length) :
    next.2 ≤ input.text.length := by
  have hsequences {elements : List ℕ} {pos pos' : ℕ} (h : Sequences grammar input elements pos pos')
      (hpos : pos ≤ input.text.length) : pos' ≤ input.text.length := by
    induction h with
    | nil => exact hpos
    | cons hfirst _ ih => exact ih (hfirst.le hzero hpos)
  have hiterations {mRecognizer repeats pos pos' : ℕ} {mMax : ℤ}
      (h : Iterates grammar input mRecognizer mMax pos repeats pos') (hpos : pos ≤ input.text.length) :
      pos' ≤ input.text.length := by
    induction h with
    | zero => exact hpos
    | succ _ _ hreturns ih => exact hreturns.le hzero ih
  induction h with
  | refl => exact hpos
  | @tail last next _ hfeeds ih =>
    rw [Feeds] at hfeeds
    generalize (grammar last.1).kind = kind at hfeeds
    cases kind with
    | selector first _ => cases first <;> exact hfeeds.1 ▸ ih
    | exclusiveSelector => exact hfeeds.1 ▸ ih
    | sequence =>
      obtain ⟨front, rest, -, hfront⟩ := hfeeds
      exact hsequences hfront ih
    | loop =>
      obtain ⟨-, repeats, hiterates, -⟩ := hfeeds
      exact hiterations hiterates ih
    | recognizerPointer | recognizerAlias => exact hfeeds.2 ▸ ih
    | _ => exact hfeeds.elim

/-- If no recognizer matches the character 0, and no element of an unbounded loop can match nothing, recognition ends. -/
lemma terminates_of_progress (hfinite : grammar.Finite) (hleft : ∀ recognizer, ¬ LeftRecursive grammar recognizer)
    (hloops : ∀ recognizer mRecognizer mMin, (grammar recognizer).kind = .loop mRecognizer mMin (-1) →
      ¬ Nullable grammar mRecognizer) (hpos : pos ≤ input.text.length) : Terminates grammar input recognizer pos := by
  refine (terminates_iff hfinite hleft (recognizer, pos)).mpr ⟨?_, input.text.length, fun next hnext => ?_⟩
  · rintro next - ⟨mRecognizer, mMin, repeats, pos', hkind, -, -, hreturns⟩
    exact hloops _ _ _ hkind hreturns.nullable
  · exact Reaches.le hzero hnext hpos

end Static

/-! ### The parser -/

variable {H C E W : Type} (handlers : Handlers H C) (application : Application H C E W)

lemma Recognition.Agrees.error_iff {α β γ : Type} {size : β → α} {size' : γ → α} {x : Recognition α}
    {derived : Except Failure β} {derived' : Except Failure γ} (h : Recognition.Agrees size x derived)
    (h' : Recognition.Agrees size' x derived') (failure : Failure) :
    derived = .error failure ↔ derived' = .error failure := by
  have hx := h []
  have hx' := h' []
  simp only [Exec.wp] at hx hx'
  cases hresult : x [] with
  | ok a events =>
    rw [hresult] at hx hx'
    obtain ⟨b, rfl, -⟩ := hx
    obtain ⟨c, rfl, -⟩ := hx'
    simp
  | error failure events =>
    rw [hresult] at hx hx'
    rw [hx, hx']
    simp

/-- The derivation of a rule ends as recognition does, whatever the handlers are. -/
lemma deriveRule_ne_iff (handler : H) (rule : ℕ) :
    (∃ fuel, deriveRule handlers grammar input handler rule fuel ≠ .error .outOfFuel) ↔
      Terminates grammar input rule 0 := by
  have hsame (fuel : ℕ) : deriveRule handlers grammar input handler rule (fuel + 1) ≠ .error .outOfFuel ↔
      recognize grammar input (fuel + 1) rule 0 ≠ .error .outOfFuel := by
    rw [recognize_succ_ne_iff, deriveRule]
    exact not_congr <| Recognition.Agrees.error_iff
      (Recognition.matched_kindFeed (fun element pos => Recognition.matched_feed handlers fuel handler element pos) fuel 0 _)
      (Recognition.matched_kindFeed (fun element pos => Recognition.matched_feed noHandlers fuel () element pos) fuel 0 _)
      .outOfFuel
  constructor
  · rintro ⟨fuel, hfuel⟩
    cases fuel with
    | zero => exact absurd rfl hfuel
    | succ fuel => exact ⟨fuel + 1, (hsame fuel).mp hfuel⟩
  · rintro ⟨fuel, hfuel⟩
    exact ⟨fuel + 1, (hsame fuel).mpr ((approx_recognize (le_succ fuel) _ _).ne hfuel)⟩

lemma buildInput_eq_iff {call : Call} {handler : H} (hhandler : handlers.getHandler (grammar call.rule).mId = some handler)
    (w : W) : buildInput handlers grammar application fuel call w = .error .outOfFuel ↔
      deriveRule handlers grammar call.input handler call.rule fuel = .error .outOfFuel := by
  simp only [buildInput, hhandler]
  cases deriveRule handlers grammar call.input handler call.rule fuel with
  | error failure => simp [bind, Except.bind]
  | ok matched =>
    refine iff_of_false ?_ (by simp)
    rw [ok_bind]
    rcases matched with _ | ⟨_ | n, collected⟩
    · simp [pure, Except.pure]
    · simp [pure, Except.pure]
    · simp only
      split <;> simp [pure, Except.pure]

lemma wf_Parser : Wf (Parser : ParserState H C) ∅ :=
  ⟨List.nodup_nil, by simp [Parser], by simp [Parser], by simp, by simp [Parser], by simp [Parser]⟩

variable [DecidableEq H]

/-- The call of the parser returns, or the program is aborted. -/
def ParseEnds (grammar : Recognizers) (call : Call) (w : W) : Prop :=
  ∃ fuel depth, outcome (parseInput handlers grammar application fuel depth call w Parser) ≠
    .error (.failure .outOfFuel)

lemma parseEnds_iff {call : Call} {handler : H} (hhandler : handlers.getHandler (grammar call.rule).mId = some handler)
    (w : W) : ParseEnds handlers application grammar call w ↔ Terminates grammar call.input call.rule 0 := by
  rw [← deriveRule_ne_iff handlers handler]
  have hbuild (fuel : ℕ) := not_congr (@buildInput_eq_iff grammar fuel _ _ _ _ handlers application _ _ hhandler w)
  constructor
  · rintro ⟨fuel, depth, hends⟩
    refine ⟨fuel, (hbuild fuel).mp fun herror => ?_⟩
    rcases parseInput_eq handlers grammar application wf_Parser fuel call w with
      ⟨failure, hfailure, hparse⟩ | ⟨result, s', K', depth', hok, -⟩
    · obtain ⟨s', hparse⟩ := hparse depth
      rw [hparse] at hends
      cases hfailure.symm.trans herror
      exact hends rfl
    · cases hok.symm.trans herror
  · rintro ⟨fuel, hfuel⟩
    replace hfuel := (hbuild fuel).mpr hfuel
    rcases parseInput_eq handlers grammar application wf_Parser fuel call w with
      ⟨failure, hfailure, hparse⟩ | ⟨result, s', K', depth', hok, -, hparse⟩
    · obtain ⟨s', hparse⟩ := hparse 0
      refine ⟨fuel, 0, ?_⟩
      rw [hparse]
      rintro h
      cases h
      exact hfuel hfailure
    · refine ⟨fuel, depth', ?_⟩
      rw [hparse depth' (Nat.le_refl _)]
      simp [outcome]

/-- Without left recursion, the parser returns if and only if no unbounded loop comes to a character where its element
matches nothing, and recognition does not go on behind any bound. -/
theorem parseInput_ends_iff (hfinite : grammar.Finite) (hleft : ∀ recognizer, ¬ LeftRecursive grammar recognizer)
    {call : Call} {handler : H} (hhandler : handlers.getHandler (grammar call.rule).mId = some handler) (w : W) :
    ParseEnds handlers application grammar call w ↔
      (∀ next, Reaches grammar call.input (call.rule, 0) next → ¬ Stuck grammar call.input next) ∧
        ∃ bound, ∀ next, Reaches grammar call.input (call.rule, 0) next → next.2 ≤ bound :=
  (parseEnds_iff handlers application hhandler w).trans (terminates_iff hfinite hleft (call.rule, 0))

/-- The parser returns for every input if the elements of unbounded loops match at least one character, which is never the
character 0. -/
theorem parseInput_ends_of_progress (hfinite : grammar.Finite)
    (hleft : ∀ recognizer, ¬ LeftRecursive grammar recognizer)
    (hzero : ∀ recognizer, ¬ (grammar recognizer).kind.AcceptsZero)
    (hloops : ∀ recognizer mRecognizer mMin, (grammar recognizer).kind = .loop mRecognizer mMin (-1) →
      ¬ Nullable grammar mRecognizer) {call : Call} {handler : H}
    (hhandler : handlers.getHandler (grammar call.rule).mId = some handler) (w : W) :
    ParseEnds handlers application grammar call w :=
  (parseEnds_iff handlers application hhandler w).mpr
    (terminates_of_progress hzero hfinite hleft hloops (Nat.zero_le _))

/-! ### A repetition of a repetition -/

/-- The rule `a = *(*"x")`. -/
def nestedLoops : Recognizers
  | 0 => ⟨1, .loop 1 0 (-1)⟩
  | 1 => ⟨0, .loop 2 0 (-1)⟩
  | _ => ⟨0, .charRecognizer 120 false⟩

lemma nestedLoops_finite : nestedLoops.Finite := by
  refine ⟨3, fun recognizer element helement => ?_⟩
  match recognizer with
  | 0 | 1 => simp [nestedLoops, Kind.elements] at helement; omega
  | _ + 2 => simp [nestedLoops, Kind.elements] at helement

lemma nestedLoops_not_leftRecursive (recognizer : ℕ) : ¬ LeftRecursive nestedLoops recognizer := by
  have hlt {recognizer element : ℕ} (h : Relation.TransGen (LeftCalls nestedLoops) recognizer element) :
      recognizer < element := by
    have hcalls {recognizer element : ℕ} (h : LeftCalls nestedLoops recognizer element) : recognizer < element := by
      have helement := mem_elements_of_leftCalls h
      match recognizer with
      | 0 | 1 => simp [nestedLoops, Kind.elements] at helement; omega
      | _ + 2 => simp [nestedLoops, Kind.elements] at helement
    induction h with
    | single h => exact hcalls h
    | tail _ h ih => exact ih.trans (hcalls h)
  exact fun h => Nat.lt_irrefl _ (hlt h)

/-- A parser with a handler for each rule, which collects nothing. -/
def anyHandler : Handlers Unit Unit := ⟨fun _ => some (), fun _ _ => none⟩

def noObjects : Application Unit Unit Unit Unit := ⟨fun _ _ w => ((), w), fun _ _ _ w => w, fun _ _ _ w => w⟩

/-- The text `y`, parsed with `a`. -/
def stuckCall : Call := ⟨0, ⟨[121], fun _ => 0⟩, false⟩

theorem parseInput_ends_iff_nestedLoops : ParseEnds anyHandler noObjects nestedLoops stuckCall () ↔
    (∀ next, Reaches nestedLoops stuckCall.input (stuckCall.rule, 0) next → ¬ Stuck nestedLoops stuckCall.input next) ∧
      ∃ bound, ∀ next, Reaches nestedLoops stuckCall.input (stuckCall.rule, 0) next → next.2 ≤ bound :=
  parseInput_ends_iff anyHandler noObjects nestedLoops_finite nestedLoops_not_leftRecursive rfl ()

/-- At `y` the inner loop matches nothing, again and again. -/
theorem nestedLoops_does_not_end : ¬ ∀ (grammar : Recognizers), grammar.Finite →
    (∀ recognizer, ¬ LeftRecursive grammar recognizer) → ∀ (handlers : Handlers Unit Unit)
      (application : Application Unit Unit Unit Unit) (call : Call) (handler : Unit),
      handlers.getHandler (grammar call.rule).mId = some handler → ∀ w, ParseEnds handlers application grammar call w := by
  intro h
  have hends := h nestedLoops nestedLoops_finite nestedLoops_not_leftRecursive anyHandler noObjects stuckCall () rfl ()
  refine @not_terminates_of_stuck _ _ (0, 0) ?_ ((parseEnds_iff anyHandler noObjects rfl ()).mp hends)
  exact ⟨1, 0, 0, 0, rfl, .zero, by decide, 2, some (0, []), rfl, rfl⟩

end Belr
