/-
What keys have in common when they are compared.

`normal` puts a whole key in small letters before it keeps what is significant, and
the small form of a character may depend on its neighbours.  What is kept does not:
`normal_eq` has it character by character.  So the blanks at the ends of a key do not
count, and keys that are equal but for case and these blanks have one normal form.
-/
import Enrolment.Proofs.Text.Basic
import Enrolment.Submission.Match

namespace Enrolment

namespace Key

/-! ### Normal forms, character by character -/

/-- What is left of a character in a normal form. -/
def remains (c : Char) : List Char :=
  (Text.lowerAt [] c []).filter isSignificant

/-- The neighbours of a character do not matter: only a sigma heeds them, and it never counts. -/
theorem filter_lowerAt (before : List Char) (c : Char) (after : List Char) :
    (Text.lowerAt before c after).filter isSignificant = remains c := by
  unfold remains Text.lowerAt
  by_cases hsigma : c = 'Σ'
  · rw [if_pos hsigma, if_pos hsigma]
    split <;> split <;> decide
  · rw [if_neg hsigma, if_neg hsigma]

theorem normal_eq (key : String) : normal key = key.toList.flatMap remains := by
  have hfrom : ∀ before s, (Text.lowerFrom before s).filter isSignificant = s.flatMap remains := by
    intro before s
    induction s generalizing before with
    | nil => rfl
    | cons c rest ih =>
        rw [Text.lowerFrom, List.filter_append, filter_lowerAt, ih, List.flatMap_cons]
  exact hfrom [] key.toList

theorem remains_of_isBlank {c : Char} (h : Text.isBlank c = true) : remains c = [] := by
  have hsigma : c ≠ 'Σ' := by
    rintro rfl
    revert h
    decide
  have hdotted : c ≠ 'İ' := by
    rintro rfl
    revert h
    decide
  unfold remains Text.lowerAt
  rw [if_neg hsigma, if_neg hdotted, Text.lowerChar_of_isBlank h]
  unfold Text.isBlank at h
  simp only [Bool.or_eq_true, Bool.and_eq_true, decide_eq_true_eq, beq_iff_eq] at h
  simp [isSignificant, Text.toNat_le]
  omega

/-- Blanks at the ends of a key do not count. -/
theorem normal_trim (key : String) : normal (Text.trim key) = normal key := by
  obtain ⟨before, after, hsplit, hbefore, hafter⟩ := Text.strip_between_blanks key.toList
  have hnone : ∀ s : List Char, (∀ c ∈ s, Text.isBlank c = true) → s.flatMap remains = [] := by
    intro s h
    rw [List.flatMap_eq_nil_iff]
    exact fun c hc => remains_of_isBlank (h c hc)
  rw [normal_eq, normal_eq, Text.toList_trim]
  conv => rhs; rw [hsplit]
  rw [List.flatMap_append, List.flatMap_append, hnone before hbefore, hnone after hafter,
    List.nil_append, List.append_nil]

/-- **Keys that are equal but for case and the blanks around them have one normal form.** -/
theorem normal_eq_of_lower_trim_eq {key other : String}
    (h : Text.lower (Text.trim key) = Text.lower (Text.trim other)) :
    normal key = normal other := by
  have hchars := congrArg String.toList h
  rw [Text.toList_lower, Text.toList_lower] at hchars
  rw [← normal_trim key, ← normal_trim other, normal, normal, hchars]

theorem ne_empty_of_normal {key : String} (h : normal key ≠ []) : key ≠ "" := by
  rintro rfl
  rw [normal_eq, String.toList_empty] at h
  exact h List.flatMap_nil

/-- A blank key leaves nothing to compare. -/
theorem normal_of_isBlankText {key : String} (h : Text.isBlankText key = true) :
    normal key = [] := by
  rw [normal_eq, List.flatMap_eq_nil_iff]
  intro c hc
  exact remains_of_isBlank (List.all_eq_true.1 h c hc)

end Key

/-- One text is within another if it stands somewhere in it. -/
theorem Match.isWithin_iff {part whole : List Char} :
    Match.isWithin part whole = true ↔ part <:+: whole := by
  unfold Match.isWithin
  rw [Text.anyTail_iff, List.infix_iff_prefix_suffix]
  constructor
  · rintro ⟨t, hsuffix, hprefix⟩
    exact ⟨t, List.isPrefixOf_iff_prefix.1 hprefix, hsuffix⟩
  · rintro ⟨t, hprefix, hsuffix⟩
    exact ⟨t, hsuffix, List.isPrefixOf_iff_prefix.2 hprefix⟩

end Enrolment
