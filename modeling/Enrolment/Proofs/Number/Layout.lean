/-
The characters that a number is written with.

However the digits of a number are laid out, all that comes between them is a point, the mark
of an exponent and signs; only what is no finite number is written in letters.
-/
import Enrolment.Number.Shortest
import Enrolment.Proofs.Json.RoundTrip

namespace Enrolment

/-- Whether a character is one of those that numbers are written with. -/
def Numeral.isWritten (c : Char) : Bool :=
  Text.isAsciiDigit c || ['.', 'e', '+', '-'].contains c

namespace Numeral

theorem isWritten_of_isAsciiDigit {c : Char} (h : Text.isAsciiDigit c = true) :
    isWritten c = true := by
  unfold isWritten
  rw [h, Bool.true_or]

theorem isWritten_of_mem_ofInt {n : Int} {c : Char} (h : c ∈ ofInt n) : isWritten c = true := by
  rcases Json.mem_ofInt h with hdigit | rfl
  · exact isWritten_of_isAsciiDigit hdigit
  · rfl

end Numeral

/-- A decimal is laid out in digits and marks. -/
theorem Decimal.isWritten_of_mem_layout {d : Decimal} :
    ∀ c ∈ d.layout, Numeral.isWritten c = true := by
  have hdigits : ∀ n : Nat, ∀ c ∈ Nat.toDigits 10 n, Numeral.isWritten c = true := by
    intro n c hc
    exact Numeral.isWritten_of_isAsciiDigit (Json.isAsciiDigit_of_mem_toDigits hc)
  have htake : ∀ n k : Nat, ∀ c ∈ (Nat.toDigits 10 n).take k, Numeral.isWritten c = true :=
    fun n k c hc => hdigits n c (List.mem_of_mem_take hc)
  have hdrop : ∀ n k : Nat, ∀ c ∈ (Nat.toDigits 10 n).drop k, Numeral.isWritten c = true :=
    fun n k c hc => hdigits n c (List.mem_of_mem_drop hc)
  have hzeros : ∀ k : Nat, ∀ c ∈ List.replicate k '0', Numeral.isWritten c = true := by
    intro k c hc
    rw [List.eq_of_mem_replicate hc]
    rfl
  unfold Decimal.layout
  dsimp only
  split
  · split
    · simp only [List.forall_mem_cons, List.forall_mem_append]
      exact ⟨rfl, rfl, hzeros _, hdigits _⟩
    · simp only [List.forall_mem_cons, List.forall_mem_append]
      refine ⟨⟨htake _ _, hzeros _⟩, rfl, ?_⟩
      split
      · exact List.forall_mem_singleton.2 rfl
      · exact hdrop _ _
  · simp only [List.forall_mem_cons, List.forall_mem_append]
    refine ⟨⟨htake _ _, ?_⟩, rfl, ?_, hzeros _, hdigits _⟩
    · split
      · exact List.forall_mem_nil _
      · exact List.forall_mem_cons.2 ⟨rfl, hdrop _ _⟩
    · split <;> rfl

/-- A finite number is written in digits and marks. -/
theorem Binary64.isWritten_of_mem_text {negative : Bool} {m : Nat} {e : Int} :
    ∀ c ∈ (text (finite negative m e)).toList, Numeral.isWritten c = true := by
  have hbody : ∀ c ∈ (if m = 0 then ['0', '.', '0'] else (shortest m e).normal.layout),
      Numeral.isWritten c = true := by
    split
    · exact List.all_eq_true.1 rfl
    · exact Decimal.isWritten_of_mem_layout
  rw [text, String.toList_ofList]
  cases negative with
  | true => exact List.forall_mem_cons.2 ⟨rfl, hbody⟩
  | false => exact hbody

end Enrolment
