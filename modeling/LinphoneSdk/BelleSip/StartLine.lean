import LinphoneSdk.BelleSip.InputStream

/-!
# The start line of a message

What a peer that follows the protocol sends in front of a message: the line of a request or of a status.
-/

namespace BelleSip

open CString

/-- A request line of SIP, or a status line of SIP or HTTP. -/
inductive StartLine : Bytes → Prop
  | request {method uri : Bytes} (hmethod : method ≠ []) (htoken : isToken method)
      (huri : uri ≠ []) (hword : ∀ c ∈ uri, isspace c = false ∧ c ≠ 0) :
      StartLine (method ++ [32] ++ uri ++ [32] ++ bytes ['S', 'I', 'P', '/', '2', '.', '0'])
  | sipStatus {code reason : Bytes} (hcode : code.length = 3) (hdigits : code.all isdigit)
      (hreason : ∀ c ∈ reason, c ≠ 0 ∧ c ≠ 13 ∧ c ≠ 10) :
      StartLine (bytes ['S', 'I', 'P', '/', '2', '.', '0', ' '] ++ code ++ [32] ++ reason)
  | httpStatus {minor : UInt8} {code reason : Bytes} (hminor : isdigit minor)
      (hcode : code.length = 3) (hdigits : code.all isdigit) (hreason : ∀ c ∈ reason, c ≠ 0 ∧ c ≠ 13 ∧ c ≠ 10) :
      StartLine (bytes ['H', 'T', 'T', 'P', '/', '1', '.'] ++ [minor, 32] ++ code ++ [32] ++ reason)

def isEol (c : UInt8) : Bool := c = 13 || c = 10

lemma isEol_of_not_isspace {c : UInt8} (h : isspace c = false) : isEol c = false := by
  by_contra heol
  rw [Bool.not_eq_false] at heol
  obtain rfl | rfl : c = 13 ∨ c = 10 := by simpa [isEol] using heol
  all_goals exact absurd h (by decide)

/-- The bytes of a token are no spaces and no 0. -/
lemma of_isToken {method : Bytes} (h : isToken method) : ∀ c ∈ method, isspace c = false ∧ c ≠ 0 := by
  intro c hc
  have htoken := List.all_eq_true.mp h c hc
  constructor
  · by_contra hspace
    rw [Bool.not_eq_false] at hspace
    have hrange : c = 32 ∨ 9 ≤ c.toNat ∧ c.toNat ≤ 13 := by
      simpa [isspace, UInt8.le_iff_toNat_le] using hspace
    have hcases : c = 32 ∨ c = 9 ∨ c = 10 ∨ c = 11 ∨ c = 12 ∨ c = 13 := by
      simp only [← UInt8.toNat_inj] at hrange ⊢
      simp only [UInt8.reduceToNat] at hrange ⊢
      omega
    obtain rfl | rfl | rfl | rfl | rfl | rfl := hcases <;> exact absurd htoken (by decide)
  · rintro rfl
    exact absurd htoken (by decide)

lemma StartLine.head {line : Bytes} (h : StartLine line) : ∃ c rest, line = c :: rest ∧ isspace c = false := by
  cases h with
  | @request method uri hmethod htoken =>
    obtain ⟨c, method, rfl⟩ := List.exists_cons_of_ne_nil hmethod
    exact ⟨c, _, rfl, (of_isToken htoken c List.mem_cons_self).1⟩
  | sipStatus => exact ⟨83, _, rfl, by decide⟩
  | httpStatus => exact ⟨72, _, rfl, by decide⟩

end BelleSip
