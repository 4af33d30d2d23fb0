import LinphoneSdk.Lib.CString
import LinphoneSdk.Lib.Loop
import LinphoneSdk.Lib.StdString
import Mathlib.Data.List.GetD

/-!
# Folding of lines

`fold` cuts the lines that are too long by an end of line and a blank, and `unfold` takes out the ends of line that
white space follows. Both edit the string that they scan.
-/

namespace Bctoolbox

open CString StdString List Option

namespace Utils

/-- A string that is scanned, and where the scan goes on. -/
structure Scan where
  output : Bytes
  crlf : ℕ

def foldStep (s : Scan) : Scan ⊕ Bytes :=
  match findFrom crlf s.output s.crlf with
  | none => .inr s.output
  | some next_crlf =>
    if 75 < next_crlf - s.crlf then .inl ⟨StdString.insert s.output (s.crlf + 74) [13, 10, 32], s.crlf + 76⟩
    else .inl ⟨s.output, next_crlf + 2⟩

/-! ### `unfold` -/

def unfoldStep (endline : Bytes) (s : Scan) : Scan ⊕ Bytes :=
  match findFrom endline s.output s.crlf with
  | none => .inr s.output
  | some crlf =>
    if isspace (s.output.getD (crlf + endline.length) 0) then
      .inl ⟨erase s.output crlf (endline.length + 1), crlf⟩
    else .inl ⟨s.output, crlf + endline.length⟩

/-- The end of line that `unfold` looks for. -/
def endline (str : Bytes) : Bytes := if find crlf str = none then [10] else crlf

lemma length_endline_pos (str : Bytes) : 0 < (endline str).length := by
  rw [endline]
  split_ifs <;> decide

lemma rank_foldStep {s t : Scan} (h : foldStep s = .inl t) :
    t.output.length - t.crlf < s.output.length - s.crlf := by
  rw [foldStep, findFrom] at h
  cases hfind : find crlf (s.output.drop s.crlf) with
  | none =>
    rw [hfind] at h
    cases h
  | some n =>
    have hle := length_of_find hfind
    simp only [crlf, length_cons, length_nil, length_drop] at hle
    simp only [hfind, map_some] at h
    split_ifs at h with hlong <;> obtain rfl := Sum.inl.inj h
    · simp only [StdString.insert, length_append, length_take, length_cons, length_nil, length_drop]
      omega
    · simp only
      omega

def foldLoop : Loop Scan Bytes where
  step := foldStep
  rank s := s.output.length - s.crlf
  rank_lt := rank_foldStep

def fold (str : Bytes) : Bytes := foldLoop.run ⟨str, 0⟩

lemma rank_unfoldStep {endline : Bytes} (hpos : 0 < endline.length) {s t : Scan}
    (h : unfoldStep endline s = .inl t) : t.output.length - t.crlf < s.output.length - s.crlf := by
  rw [unfoldStep, findFrom] at h
  cases hfind : find endline (s.output.drop s.crlf) with
  | none =>
    rw [hfind] at h
    cases h
  | some n =>
    have hle := length_of_find hfind
    rw [length_drop] at hle
    simp only [hfind, map_some] at h
    split_ifs at h <;> obtain rfl := Sum.inl.inj h
    · simp only [erase, length_append, length_take, length_drop]
      omega
    · simp only
      omega

def unfoldLoop (endline : Bytes) (hpos : 0 < endline.length) : Loop Scan Bytes where
  step := unfoldStep endline
  rank s := s.output.length - s.crlf
  rank_lt := rank_unfoldStep hpos

def unfold (str : Bytes) : Bytes :=
  (unfoldLoop (endline str) (length_endline_pos str)).run ⟨str, 0⟩

/-! ### The lines of a string -/

/-- The lines that an end of line ends. -/
def lines (s : Bytes) : List Bytes :=
  match h : find crlf s with
  | none => []
  | some n => s.take n :: lines (s.drop (n + 2))
  termination_by s.length
  decreasing_by
    have hle := length_of_find h
    simp only [crlf, length_cons, length_nil] at hle
    rw [length_drop]
    omega

/-- No end of line is followed by white space. -/
def NoContinuation (endline s : Bytes) : Prop :=
  ∀ n, endline <+: s.drop n → isspace (s.getD (n + endline.length) 0) = false

instance (endline s : Bytes) : Decidable (NoContinuation endline s) :=
  decidable_of_iff (∀ n < s.length, endline <+: s.drop n → isspace (s.getD (n + endline.length) 0) = false)
    ⟨fun h n hn => by
      by_cases hlt : n < s.length
      · exact h n hlt hn
      · rw [getD_eq_default _ _ (by omega)]
        rfl,
    fun h n _ hn => h n hn⟩

lemma NoContinuation.drop {endline s : Bytes} (h : NoContinuation endline s) (k : ℕ) :
    NoContinuation endline (s.drop k) := by
  intro n hn
  rw [drop_drop] at hn
  have hspace := h _ hn
  rw [getD_eq_getElem?_getD] at hspace ⊢
  rw [getElem?_drop, ← Nat.add_assoc]
  exact hspace

/-! ### What `fold` computes -/

/-- A text and the text folded, from the start of a line on. -/
inductive Folds : Bytes → Bytes → Prop
  | last {s : Bytes} : find crlf s = none → Folds s s
  | line {s out : Bytes} {n : ℕ} : find crlf s = some n → n ≤ 75 → Folds (s.drop (n + 2)) out →
    Folds s (s.take n ++ (crlf ++ out))
  | long {s out : Bytes} {n : ℕ} : find crlf s = some n → 75 < n → Folds (32 :: s.drop 74) (32 :: out) →
    Folds s (s.take 74 ++ (crlf ++ 32 :: out))

variable {s out : Bytes}

lemma Folds.head? (h : Folds s out) : out.head? = s.head? := by
  cases h with
  | last hnone => rfl
  | @line _ out n hfind hle hout =>
    have heq := eq_of_find hfind
    cases n with
    | zero =>
      rw [take_zero, nil_append] at heq
      rw [heq]
      rfl
    | succ n =>
      cases s with
      | nil => cases heq
      | cons c s => rfl
  | long hfind hlt hout =>
    cases s with
    | nil => cases hfind
    | cons c s => rfl

/-- From the start of a line on, the loop folds what is left. -/
lemma folds_run (done s : Bytes) : ∃ out, Folds s out ∧ foldLoop.run ⟨done ++ s, done.length⟩ = done ++ out := by
  induction hlength : s.length using Nat.strongRecOn generalizing done s with
  | _ length ih =>
    have hstep : foldLoop.step ⟨done ++ s, done.length⟩ = foldStep ⟨done ++ s, done.length⟩ := rfl
    rw [foldStep, findFrom_append] at hstep
    cases hfind : find crlf s with
    | none =>
      rw [hfind] at hstep
      exact ⟨s, .last hfind, Loop.run_of_result hstep⟩
    | some n =>
      have hle := length_of_find hfind
      change n + 2 ≤ s.length at hle
      simp only [hfind, map_some, Nat.add_sub_cancel_left] at hstep
      split_ifs at hstep with hlong
      · have hdone : (done ++ (s.take 74 ++ crlf)).length = done.length + 76 := by
          simp only [length_append, length_take, crlf, length_cons, length_nil]
          omega
        have hinsert : StdString.insert (done ++ s) (done.length + 74) [13, 10, 32] =
            (done ++ (s.take 74 ++ crlf)) ++ (32 :: s.drop 74) := by
          rw [insert_append]
          simp [StdString.insert, crlf]
        obtain ⟨out, hout, hrun⟩ := ih (32 :: s.drop 74).length
          (by simp only [length_cons, length_drop]; omega) (done ++ (s.take 74 ++ crlf)) (32 :: s.drop 74) rfl
        obtain ⟨out, rfl⟩ : ∃ out', out = 32 :: out' := by
          have hhead := hout.head?
          cases out with
          | nil => cases hhead
          | cons c out =>
            obtain rfl := some.inj hhead
            exact ⟨out, rfl⟩
        refine ⟨_, .long hfind hlong hout, ?_⟩
        rw [Loop.run_of_next hstep, hinsert, ← hdone, hrun]
        simp only [append_assoc]
      · have heq := eq_of_find hfind
        change s = s.take n ++ (crlf ++ s.drop (n + 2)) at heq
        have hdone : (done ++ (s.take n ++ crlf)).length = done.length + n + 2 := by
          simp only [length_append, length_take, crlf, length_cons, length_nil]
          omega
        have hsplit : done ++ s = (done ++ (s.take n ++ crlf)) ++ s.drop (n + 2) := by
          rw [append_assoc, append_assoc, ← heq]
        obtain ⟨out, hout, hrun⟩ := ih (s.drop (n + 2)).length (by rw [length_drop]; omega)
          (done ++ (s.take n ++ crlf)) (s.drop (n + 2)) rfl
        refine ⟨_, .line hfind (Nat.le_of_not_lt hlong) hout, ?_⟩
        rw [Loop.run_of_next hstep, ← hdone]
        conv_lhs => rw [hsplit]
        rw [hrun]
        simp only [append_assoc]

lemma folds_fold (str : Bytes) : Folds str (fold str) := by
  obtain ⟨out, hout, hrun⟩ := folds_run [] str
  have hfold : fold str = out := hrun
  rwa [hfold]

/-! ### What `unfold` computes -/

/-- A text and the text unfolded, from where the scan goes on. -/
inductive Unfolds (endline : Bytes) : Bytes → Bytes → Prop
  | last {s : Bytes} : find endline s = none → Unfolds endline s s
  | joined {s out : Bytes} {n : ℕ} : find endline s = some n → isspace (s.getD (n + endline.length) 0) = true →
    Unfolds endline (s.drop (n + (endline.length + 1))) out → Unfolds endline s (s.take n ++ out)
  | kept {s out : Bytes} {n : ℕ} : find endline s = some n → isspace (s.getD (n + endline.length) 0) = false →
    Unfolds endline (s.drop (n + endline.length)) out → Unfolds endline s (s.take n ++ (endline ++ out))

section unfolds

variable {endline : Bytes}

lemma Unfolds.run (hpos : 0 < endline.length) {s out : Bytes} (h : Unfolds endline s out) (done : Bytes) :
    (unfoldLoop endline hpos).run ⟨done ++ s, done.length⟩ = done ++ out := by
  induction h generalizing done with
  | @last s hfind =>
    refine Loop.run_of_result ?_
    change unfoldStep endline ⟨done ++ s, done.length⟩ = _
    rw [unfoldStep, findFrom_append, hfind]
    rfl
  | @joined s out n hfind hspace _ ih =>
    have hle := length_of_find hfind
    have hget : (done ++ s).getD (done.length + n + endline.length) 0 = s.getD (n + endline.length) 0 := by
      rw [Nat.add_assoc, getD_append_right _ _ _ _ (Nat.le_add_right _ _), Nat.add_sub_cancel_left]
    have hstep : (unfoldLoop endline hpos).step ⟨done ++ s, done.length⟩ =
        .inl ⟨done ++ erase s n (endline.length + 1), done.length + n⟩ := by
      change unfoldStep endline ⟨done ++ s, done.length⟩ = _
      rw [unfoldStep, findFrom_append, hfind]
      simp only [map_some, hget, hspace, if_true, erase_append]
    have hdone : (done ++ s.take n).length = done.length + n := by
      rw [length_append, length_take]
      omega
    rw [Loop.run_of_next hstep, erase, ← hdone, ← append_assoc, ih, append_assoc]
  | @kept s out n hfind hspace _ ih =>
    have hle := length_of_find hfind
    have hget : (done ++ s).getD (done.length + n + endline.length) 0 = s.getD (n + endline.length) 0 := by
      rw [Nat.add_assoc, getD_append_right _ _ _ _ (Nat.le_add_right _ _), Nat.add_sub_cancel_left]
    have hstep : (unfoldLoop endline hpos).step ⟨done ++ s, done.length⟩ =
        .inl ⟨done ++ s, done.length + n + endline.length⟩ := by
      change unfoldStep endline ⟨done ++ s, done.length⟩ = _
      rw [unfoldStep, findFrom_append, hfind]
      simp only [map_some, hget, hspace, Bool.false_eq_true, if_false]
    have hdone : (done ++ (s.take n ++ endline)).length = done.length + n + endline.length := by
      simp only [length_append, length_take]
      omega
    have hsplit : done ++ s = (done ++ (s.take n ++ endline)) ++ s.drop (n + endline.length) := by
      rw [append_assoc, append_assoc, ← eq_of_find hfind]
    rw [Loop.run_of_next hstep, ← hdone]
    conv_lhs => rw [hsplit]
    rw [ih]
    simp only [append_assoc]

/-- Without a continuation nothing is taken out. -/
lemma Unfolds.refl (hpos : 0 < endline.length) {s : Bytes} (h : NoContinuation endline s) : Unfolds endline s s := by
  induction hlength : s.length using Nat.strongRecOn generalizing s with
  | _ length ih =>
    cases hfind : find endline s with
    | none => exact .last hfind
    | some n =>
      have hle := length_of_find hfind
      have heq := eq_of_find hfind
      have hkept := Unfolds.kept hfind (h n (find_eq_some_iff.mp hfind).2.1)
        (ih _ (by rw [length_drop]; omega) (h.drop _) rfl)
      rwa [← heq] at hkept

end unfolds

/-! ### What is folded is unfolded -/

lemma crlf_prefix_drop_iff {s : Bytes} {n : ℕ} : crlf <+: s.drop n ↔ s[n]? = some 13 ∧ s[n + 1]? = some 10 := by
  have hfirst : s[n]? = (s.drop n)[0]? := by rw [getElem?_drop, Nat.add_zero]
  have hsecond : s[n + 1]? = (s.drop n)[1]? := getElem?_drop.symm
  rw [hfirst, hsecond]
  rcases s.drop n with _ | ⟨c, _ | ⟨d, rest⟩⟩
  · exact iff_of_false (by simp [crlf]) (by simp)
  · exact iff_of_false (by simp [crlf]) (by simp)
  · simp only [crlf, cons_prefix_cons, nil_prefix, and_true, getElem?_cons_zero, getElem?_cons_succ, some_inj]
    exact and_congr eq_comm eq_comm

/-- A cut before the first end of line makes a line of what is before it. -/
lemma find_take_append {s : Bytes} {n k : ℕ} (h : find crlf s = some n) (hk : k ≤ n) (rest : Bytes) :
    find crlf (s.take k ++ (crlf ++ rest)) = some k := by
  have hle := length_of_find h
  change n + 2 ≤ s.length at hle
  have htake : (s.take k).length = k := by
    rw [length_take]
    omega
  refine find_eq_some_iff.mpr ⟨?_, ?_, fun m hm hprefix => ?_⟩
  · simp only [length_append, htake]
    omega
  · rw [drop_left' htake]
    exact prefix_append _ _
  rw [crlf_prefix_drop_iff, getElem?_append_left (by omega), getElem?_take_of_lt hm] at hprefix
  rcases Nat.lt_or_ge (m + 1) k with hlt | hge
  · rw [getElem?_append_left (by omega), getElem?_take_of_lt hlt] at hprefix
    exact (find_eq_some_iff.mp h).2.2 m (by omega) (crlf_prefix_drop_iff.mpr hprefix)
  · obtain rfl : k = m + 1 := by omega
    rw [getElem?_append_right (by omega), htake, Nat.sub_self] at hprefix
    cases hprefix.2

lemma find_cons {c : UInt8} (hc : c ≠ 13) (s : Bytes) : find crlf (c :: s) = (find crlf s).map (· + 1) := by
  rw [find, if_neg]
  rw [crlf, cons_prefix_cons]
  exact fun h => hc h.1.symm

/-- A byte that does not begin an end of line stays. -/
lemma Unfolds.of_cons {c : UInt8} (hc : c ≠ 13) (h : Unfolds crlf (c :: s) (c :: out)) : Unfolds crlf s out := by
  generalize hs : c :: s = s', hout : c :: out = out' at h
  cases h with
  | last hfind =>
    subst hs
    obtain rfl := (cons.inj hout).2
    rw [find_cons hc, map_eq_none_iff] at hfind
    exact .last hfind
  | joined hfind hspace hrest =>
    subst hs
    rw [find_cons hc] at hfind
    obtain ⟨m, hm, rfl⟩ := map_eq_some_iff.mp hfind
    rw [take_succ_cons, cons_append] at hout
    rw [(cons.inj hout).2]
    rw [Nat.add_right_comm m 1, getD_cons_succ] at hspace
    rw [Nat.add_right_comm m 1, drop_succ_cons] at hrest
    exact .joined hm hspace hrest
  | kept hfind hspace hrest =>
    subst hs
    rw [find_cons hc] at hfind
    obtain ⟨m, hm, rfl⟩ := map_eq_some_iff.mp hfind
    rw [take_succ_cons, cons_append] at hout
    rw [(cons.inj hout).2]
    rw [Nat.add_right_comm m 1, getD_cons_succ] at hspace
    rw [Nat.add_right_comm m 1, drop_succ_cons] at hrest
    exact .kept hm hspace hrest

lemma Folds.unfolds (h : Folds s out) (hno : NoContinuation crlf s) : Unfolds crlf out s := by
  induction h with
  | last hfind => exact .last hfind
  | @line s out n hfind hle hout ih =>
    have htake : (s.take n).length = n := by
      have := length_of_find hfind
      rw [length_take]
      omega
    have hfind' := find_take_append hfind (Nat.le_refl n) out
    have hspace : isspace ((s.take n ++ (crlf ++ out)).getD (n + crlf.length) 0) = false := by
      have hspace := hno n (find_eq_some_iff.mp hfind).2.1
      have hhead := hout.head?
      rw [head?_drop] at hhead
      rw [getD_eq_getElem?_getD] at hspace ⊢
      rw [← append_assoc, getElem?_append_right (by simp [htake]), length_append, htake, Nat.sub_self,
        ← head?_eq_getElem?, hhead]
      exact hspace
    have hdrop : (s.take n ++ (crlf ++ out)).drop (n + crlf.length) = out := by
      rw [← append_assoc, drop_left' (by rw [length_append, htake])]
    have hkept := Unfolds.kept hfind' hspace (hdrop.symm ▸ ih (hno.drop _))
    rw [take_left' htake] at hkept
    have heq := eq_of_find hfind
    change s = s.take n ++ (crlf ++ s.drop (n + 2)) at heq
    rwa [← heq] at hkept
  | @long s out n hfind hlong hout ih =>
    have hle := length_of_find hfind
    have htake : (s.take 74).length = 74 := by
      rw [length_take]
      omega
    have hno' : NoContinuation crlf (32 :: s.drop 74) := by
      intro m hm
      cases m with
      | zero => simp [crlf] at hm
      | succ m =>
        rw [Nat.add_right_comm, getD_cons_succ]
        exact hno.drop 74 m hm
    have hrest := (ih hno').of_cons (by decide)
    have hfind' := find_take_append hfind (show 74 ≤ n by omega) (32 :: out)
    have hspace : isspace ((s.take 74 ++ (crlf ++ 32 :: out)).getD (74 + crlf.length) 0) = true := by
      rw [getD_eq_getElem?_getD, ← append_assoc, getElem?_append_right (by simp [htake]),
        length_append, htake, Nat.sub_self]
      rfl
    have hdrop : (s.take 74 ++ (crlf ++ 32 :: out)).drop (74 + (crlf.length + 1)) = out := by
      rw [← Nat.add_assoc, ← drop_drop, ← append_assoc, drop_left' (by rw [length_append, htake]), drop_one, tail_cons]
    have hjoined := Unfolds.joined hfind' hspace (hdrop.symm ▸ hrest)
    rwa [take_left' htake, take_append_drop] at hjoined

lemma lines_of_find {s : Bytes} {n : ℕ} (h : find crlf s = some n) :
    lines s = s.take n :: lines (s.drop (n + 2)) := by
  rw [lines]
  split
  · next hnone =>
    rw [h] at hnone
    cases hnone
  · next m hm =>
    rw [h] at hm
    obtain rfl := some.inj hm
    rfl

lemma Folds.length_le (h : Folds s out) : ∀ line ∈ lines out, line.length ≤ 75 := by
  have hlines {s rest : Bytes} {n k : ℕ} (hfind : find crlf s = some n) (hk : k ≤ n) :
      lines (s.take k ++ (crlf ++ rest)) = s.take k :: lines rest := by
    have hle := length_of_find hfind
    have htake : (s.take k).length = k := by
      rw [length_take]
      omega
    rw [lines_of_find (find_take_append hfind hk rest), take_left' htake, ← append_assoc,
      drop_left' (by rw [length_append, htake]; rfl)]
  induction h with
  | last hfind =>
    intro line hline
    rw [lines] at hline
    split at hline
    · exact absurd hline not_mem_nil
    · next n hn =>
      rw [hfind] at hn
      cases hn
  | @line s out n hfind hle _ ih =>
    intro line hline
    rw [hlines hfind (Nat.le_refl n)] at hline
    rcases mem_cons.mp hline with rfl | hline
    · exact (length_take_le _ _).trans hle
    · exact ih line hline
  | @long s out n hfind hlong _ ih =>
    intro line hline
    rw [hlines hfind (by omega)] at hline
    rcases mem_cons.mp hline with rfl | hline
    · exact (length_take_le _ _).trans (by decide)
    · exact ih line hline

lemma Folds.endline (h : Folds s out) : Utils.endline out = Utils.endline s := by
  have hsome {s : Bytes} {n : ℕ} (hfind : find crlf s = some n) : Utils.endline s = crlf := by
    rw [Utils.endline, if_neg (by simp [hfind])]
  cases h with
  | last _ => rfl
  | line hfind _ _ => rw [hsome hfind, hsome (find_take_append hfind (Nat.le_refl _) _)]
  | long hfind hlong _ => rw [hsome hfind, hsome (find_take_append hfind (by omega) _)]

/-- The lines of a folded text have at most 75 bytes, and a text without continuations is got back. -/
theorem fold_round_trip (s : Bytes) :
    (∀ line ∈ lines (fold s), line.length ≤ 75) ∧ (NoContinuation (endline s) s → unfold (fold s) = s) := by
  have hfolds := folds_fold s
  refine ⟨hfolds.length_le, fun hno => ?_⟩
  have hunfolds : Unfolds (endline (fold s)) (fold s) s := by
    rw [hfolds.endline]
    by_cases hnone : find crlf s = none
    · have hend : endline s = [10] := if_pos hnone
      have hsame : fold s = s := by
        generalize fold s = out at hfolds
        cases hfolds with
        | last _ => rfl
        | line hfind _ _ | long hfind _ _ =>
          rw [hnone] at hfind
          cases hfind
      rw [hsame]
      exact .refl (length_endline_pos s) hno
    · have hend : endline s = crlf := if_neg hnone
      rw [hend] at hno ⊢
      exact hfolds.unfolds hno
  exact hunfolds.run (length_endline_pos _) []

/-- A line of 160 bytes, with a lone carriage return where it is cut. -/
theorem fold_round_trip_long : let s := replicate 73 97 ++ 13 :: (replicate 86 98 ++ crlf ++ [99])
    (∀ line ∈ lines (fold s), line.length ≤ 75) ∧ unfold (fold s) = s :=
  ⟨(fold_round_trip _).1, (fold_round_trip _).2 (by decide +kernel)⟩

end Utils

end Bctoolbox
