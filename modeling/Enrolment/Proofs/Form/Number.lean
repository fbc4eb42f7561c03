/-
Which texts the rule for numbers accepts.

The rule cuts a text at its digits and looks at the pieces; what it accepts is told here by the
grammar of numbers.  Its digits are those of all scripts, so it accepts more than a program
that knows the ten digits of ASCII only: texts with other digits, and nothing else.
-/
import Enrolment.Form.Rule
import Enrolment.Proofs.Number.Literal
import Enrolment.Proofs.Text.Basic

namespace Enrolment

open Numeral

namespace Rule

variable {s : List Char}

/-! ### Beginnings of decimals -/

theorem ne_of_isDigit {c : Char} (h : Text.isDigit c = true) :
    c ≠ '+' ∧ c ≠ '-' ∧ c ≠ '.' ∧ c ≠ 'e' ∧ c ≠ 'E' := by
  refine ⟨?_, ?_, ?_, ?_, ?_⟩ <;>
  · rintro rfl
    revert h
    decide

theorem isUnsigned_of_isDigits (h : IsDigits Text.isDigit s) (rest : List Char) :
    IsUnsigned (s ++ rest) := by
  obtain ⟨c, others, rfl⟩ := List.exists_cons_of_ne_nil h.1
  intro d hd
  obtain rfl : c = d := by simpa using hd
  have hne := ne_of_isDigit (h.2 c List.mem_cons_self)
  exact ⟨hne.1, hne.2.1⟩

theorem isUnsigned_of_isDecimal (h : IsDecimal Text.isDigit s) : IsUnsigned s := by
  cases h with
  | whole hwhole _ => exact isUnsigned_of_isDigits hwhole _
  | pointed hwhole _ _ => exact isUnsigned_of_isDigits hwhole _
  | part _ _ => simp [IsUnsigned]

/-! ### The pieces of a decimal -/

/-- Whether a text does not begin with a digit. -/
def StopsDigits (s : List Char) : Prop :=
  ∀ c ∈ s.head?, Text.isDigit c = false

theorem isDigits_iff : IsDigits Text.isDigit s ↔ (!s.isEmpty && s.all Text.isDigit) = true := by
  unfold IsDigits
  rw [Bool.and_eq_true, Bool.not_eq_true', List.isEmpty_eq_false_iff, List.all_eq_true]

theorem isEmpty_of_isDigits (h : IsDigits Text.isDigit s) : s.isEmpty = false :=
  List.isEmpty_eq_false_iff.2 h.1

theorem isExponent_iff : isExponent s = true ↔ s = [] ∨ IsExponent Text.isDigit s := by
  cases s with
  | nil => simp [isExponent]
  | cons c rest =>
      simp only [isExponent, reduceCtorEq, false_or]
      constructor
      · intro h
        rw [Bool.and_assoc, Bool.and_eq_true, ← isDigits_iff, Bool.or_eq_true, decide_eq_true_eq,
          decide_eq_true_eq] at h
        obtain ⟨mark, hmark, hrest, -⟩ := exists_sign rest
        rw [hrest]
        exact .marked h.1 hmark h.2
      · rintro ⟨hmark, hsign, hdigits⟩
        have hunsigned := isUnsigned_of_isDigits hdigits []
        rw [List.append_nil] at hunsigned
        rw [sign_append hsign hunsigned, Bool.and_assoc, Bool.and_eq_true, ← isDigits_iff]
        exact ⟨by simpa using hmark, hdigits⟩

theorem stopsDigits_of_isExponent (h : s = [] ∨ IsExponent Text.isDigit s) : StopsDigits s := by
  rcases h with rfl | ⟨hmark, -, -⟩
  · simp [StopsDigits]
  · rcases hmark with rfl | rfl <;> simp [StopsDigits] <;> decide

/-- Digits are cut off up to where they stop. -/
theorem cut_digits {digits rest : List Char} (hdigits : ∀ c ∈ digits, Text.isDigit c = true)
    (hrest : StopsDigits rest) :
    (digits ++ rest).takeWhile Text.isDigit = digits ∧
      (digits ++ rest).dropWhile Text.isDigit = rest :=
  Text.takeWhile_dropWhile_append hdigits hrest

theorem isDecimal_pointed {whole : List Char} (hwhole : ∀ c ∈ whole, Text.isDigit c = true)
    (rest : List Char) :
    isDecimal (whole ++ '.' :: rest) =
      ((!whole.isEmpty || !(rest.takeWhile Text.isDigit).isEmpty) &&
        isExponent (rest.dropWhile Text.isDigit)) := by
  have hstops : StopsDigits ('.' :: rest) := by
    simp only [StopsDigits, List.head?_cons, Option.mem_some_iff, forall_eq']
    decide
  obtain ⟨htake, hdrop⟩ := cut_digits hwhole hstops
  unfold isDecimal
  rw [htake, hdrop]
  rfl

theorem isDecimal_plain {whole rest : List Char} (hwhole : ∀ c ∈ whole, Text.isDigit c = true)
    (hstops : StopsDigits rest) (hpoint : ∀ c ∈ rest.head?, c ≠ '.') :
    isDecimal (whole ++ rest) = (!whole.isEmpty && isExponent rest) := by
  obtain ⟨htake, hdrop⟩ := cut_digits hwhole hstops
  unfold isDecimal
  rw [htake, hdrop]
  dsimp only
  split
  · rename_i more
    exact absurd rfl (hpoint '.' (by simp))
  · rfl

/-- A text is digits and what is left where they stop. -/
theorem exists_cut_digits (s : List Char) : ∃ digits rest, s = digits ++ rest ∧
    (∀ c ∈ digits, Text.isDigit c = true) ∧ StopsDigits rest := by
  refine ⟨s.takeWhile Text.isDigit, s.dropWhile Text.isDigit, ?_, ?_, ?_⟩
  · exact List.takeWhile_append_dropWhile.symm
  · exact List.all_eq_true.1 List.all_takeWhile
  · intro c hc
    have hstop := List.head?_dropWhile_not Text.isDigit s
    rw [Option.mem_def.1 hc] at hstop
    simpa using hstop

theorem isDigits_or_nil (h : ∀ c ∈ s, Text.isDigit c = true) :
    s = [] ∨ IsDigits Text.isDigit s := by
  by_cases hempty : s = []
  · exact .inl hempty
  · exact .inr ⟨hempty, h⟩

theorem isDecimal_of_accepted (h : isDecimal s = true) : IsDecimal Text.isDigit s := by
  obtain ⟨whole, rest, rfl, hwhole, hstops⟩ := exists_cut_digits s
  by_cases hpoint : ∀ c ∈ rest.head?, c ≠ '.'
  · rw [isDecimal_plain hwhole hstops hpoint, Bool.and_eq_true, Bool.not_eq_true',
      List.isEmpty_eq_false_iff] at h
    exact .whole ⟨h.1, hwhole⟩ (isExponent_iff.1 h.2)
  · obtain ⟨more, rfl⟩ : ∃ more, rest = '.' :: more := by
      cases rest with
      | nil => simp at hpoint
      | cons c more => exact ⟨more, by simpa using hpoint⟩
    obtain ⟨part, exponent, rfl, hpart, hend⟩ := exists_cut_digits more
    obtain ⟨htake, hdrop⟩ := cut_digits hpart hend
    rw [isDecimal_pointed hwhole, htake, hdrop, Bool.and_eq_true, isExponent_iff] at h
    obtain ⟨hsome, hexponent⟩ := h
    rcases isDigits_or_nil hwhole with rfl | hdigits
    · have hne : part ≠ [] := by simpa using hsome
      exact .part ⟨hne, hpart⟩ hexponent
    · exact .pointed hdigits (isDigits_or_nil hpart) hexponent

theorem isDecimal_complete (h : IsDecimal Text.isDigit s) : isDecimal s = true := by
  cases h with
  | @whole whole exponent hwhole hexponent =>
      have hpoint : ∀ c ∈ exponent.head?, c ≠ '.' := by
        rcases hexponent with rfl | ⟨hmark, -, -⟩
        · simp
        · rcases hmark with rfl | rfl <;> simp
      rw [isDecimal_plain hwhole.2 (stopsDigits_of_isExponent hexponent) hpoint,
        isEmpty_of_isDigits hwhole, isExponent_iff.2 hexponent]
      rfl
  | @pointed whole part exponent hwhole hpart hexponent =>
      have hdigits : ∀ c ∈ part, Text.isDigit c = true := by
        rcases hpart with rfl | hpart
        · simp
        · exact hpart.2
      obtain ⟨-, hdrop⟩ := cut_digits hdigits (stopsDigits_of_isExponent hexponent)
      rw [isDecimal_pointed hwhole.2, hdrop, isEmpty_of_isDigits hwhole,
        isExponent_iff.2 hexponent]
      rfl
  | @part part exponent hpart hexponent =>
      obtain ⟨htake, hdrop⟩ := cut_digits hpart.2 (stopsDigits_of_isExponent hexponent)
      have hnone : ∀ c ∈ ([] : List Char), Text.isDigit c = true := by simp
      have hpointed := isDecimal_pointed hnone (part ++ exponent)
      rw [List.nil_append] at hpointed
      rw [hpointed, htake, hdrop, isEmpty_of_isDigits hpart, isExponent_iff.2 hexponent]
      rfl

theorem isDecimal_iff : isDecimal s = true ↔ IsDecimal Text.isDigit s :=
  ⟨isDecimal_of_accepted, isDecimal_complete⟩

/-! ### Numbers -/

theorem isRadixInteger_iff : isRadixInteger s = true ↔ IsBased s := by
  constructor
  · intro h
    unfold isRadixInteger at h
    split at h
    · rename_i mark digits
      rw [Bool.and_eq_true, Bool.not_eq_true', List.isEmpty_eq_false_iff] at h
      obtain ⟨hsome, hdigits⟩ := h
      split at hdigits
      · rename_i hmark
        exact .sixteen (by simpa using hmark) ⟨hsome, List.all_eq_true.1 hdigits⟩
      · split at hdigits
        · rename_i hmark
          exact .two (by simpa using hmark) ⟨hsome, List.all_eq_true.1 hdigits⟩
        · split at hdigits
          · rename_i hmark
            exact .eight (by simpa using hmark) ⟨hsome, List.all_eq_true.1 hdigits⟩
          · cases hdigits
    · cases h
  · intro h
    cases h with
    | @sixteen mark digits hmark hdigits =>
        have hall := List.all_eq_true.2 hdigits.2
        rcases hmark with rfl | rfl <;> simp [isRadixInteger, hdigits.1, hall]
    | @eight mark digits hmark hdigits =>
        have hall := List.all_eq_true.2 hdigits.2
        rcases hmark with rfl | rfl <;> simpa [isRadixInteger, hdigits.1] using hall
    | @two mark digits hmark hdigits =>
        have hall := List.all_eq_true.2 hdigits.2
        rcases hmark with rfl | rfl <;> simpa [isRadixInteger, hdigits.1] using hall

/-- **The rule for numbers goes by the grammar, with digits of any script.** -/
theorem isNumber_iff : isNumber s = true ↔ IsLiteral Text.isDigit s := by
  unfold isNumber
  simp only [Bool.or_eq_true, isDecimal_iff, decide_eq_true_eq, isRadixInteger_iff]
  constructor
  · intro h
    obtain ⟨mark, hmark, hs, -⟩ := exists_sign s
    rcases h with (hdecimal | hinfinity) | hbased
    · rw [hs]
      exact .decimal hmark hdecimal
    · rw [hs, hinfinity]
      exact .infinity hmark
    · exact .based hbased
  · intro h
    cases h with
    | decimal hsign hbody =>
        rw [sign_append hsign (isUnsigned_of_isDecimal hbody)]
        exact .inl (.inl hbody)
    | infinity hsign =>
        have hunsigned : IsUnsigned "Infinity".toList := by simp [IsUnsigned]
        rw [sign_append hsign hunsigned]
        exact .inl (.inr rfl)
    | based hbased => exact .inr hbased

end Rule

end Enrolment
