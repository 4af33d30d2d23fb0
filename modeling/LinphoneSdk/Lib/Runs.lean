import Mathlib.Data.List.Induction
import Mathlib.Tactic.Common

/-!
# Runs between marks

Some elements of a list are marks and some are counted. The count since the last mark is followed along the list;
while it stays within a bound, no run without a mark has more counted elements than the bound.
-/

namespace Runs

variable {α : Type} (mark counted : α → Bool)

/-- The elements counted since the last mark. -/
def since (l : List α) : ℕ := l.foldl (fun n a => if mark a then 0 else if counted a then n + 1 else n) 0

/-- No run without a mark has more than `n` counted elements. -/
def Within (n : ℕ) (l : List α) : Prop :=
  ∀ run, run <:+: l → (∀ a ∈ run, mark a = false) → run.countP counted ≤ n

@[simp] lemma since_concat (l : List α) (a : α) :
    since mark counted (l ++ [a]) = if mark a then 0 else if counted a then since mark counted l + 1
      else since mark counted l := by
  simp [since]

variable {mark counted} {n : ℕ} {l : List α}

/-- A run without a mark at the end of the list is counted. -/
lemma countP_le_since {run : List α} (h : run <:+ l) (hrun : ∀ a ∈ run, mark a = false) :
    run.countP counted ≤ since mark counted l := by
  induction l using List.reverseRecOn generalizing run with
  | nil =>
    rw [List.suffix_nil.mp h]
    simp
  | append_singleton l a ih =>
    rcases List.suffix_concat_iff.mp h with rfl | ⟨r, rfl, hr⟩
    · simp
    · have hmark : mark a = false := by simp [hrun]
      have hle := ih hr fun b hb => hrun b (by simp [hb])
      simp only [since_concat, hmark, List.countP_append, List.countP_singleton]
      split_ifs <;> simp_all

lemma within_nil : Within mark counted n [] := by
  intro run h _
  simp [List.infix_nil.mp h]

lemma Within.concat {a : α} (h : Within mark counted n l) (ha : since mark counted (l ++ [a]) ≤ n) :
    Within mark counted n (l ++ [a]) := by
  intro run hrun hmark
  rcases List.infix_concat_iff.mp hrun with hsuffix | hinfix
  · exact Nat.le_trans (countP_le_since hsuffix hmark) ha
  · exact h run hinfix hmark

end Runs
