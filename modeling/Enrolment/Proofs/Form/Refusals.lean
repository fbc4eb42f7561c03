/-
When the strict view refuses a form.

A form with issues is refused, and the issues are the reason.  There is one other reason: the
address of the image may be malformed as a URL, and then there are no issues to report at all,
whatever else is wrong with the form.  So the issues are there just if that address has parts,
and a form is accepted just if it keeps every limit.
-/
import Enrolment.Proofs.Form.Issues
import Enrolment.Proofs.Form.Overflow
import Enrolment.Proofs.Url.Parts

namespace Enrolment

namespace Theme

/-- The problem of the image's address is the only one that can stay undecided. -/
theorem problems_eq_error_iff {theme : Theme} {cause : Url.Malformed} :
    theme.problems = .error cause ↔ Url.split theme.imageAddress.toList = .error cause := by
  unfold problems
  rw [map_eq_error_iff, imageProblem_eq]
  by_cases hempty : theme.imageAddress = ""
  · rw [if_pos hempty, hempty]
    exact iff_of_false nofun nofun
  · rw [if_neg hempty, map_eq_error_iff]
    exact map_eq_error_iff

end Theme

namespace Form

variable {form : Form}

theorem issues_eq_error_iff {cause : Url.Malformed} :
    form.issues = .error cause ↔ Url.split form.theme.imageAddress.toList = .error cause := by
  rw [← Theme.problems_eq_error_iff]
  exact map_eq_error_iff

/-- If the address of the image has parts there are issues, or none if every limit is kept. -/
theorem exists_issues_of_split {parts : Url.Parts}
    (h : Url.split form.theme.imageAddress.toList = .ok parts) :
    ∃ issues, form.issues = .ok issues ∧ (issues = [] ↔ form.KeepsLimits) := by
  obtain ⟨themeProblems, htheme, hnone⟩ := Theme.exists_problems h
  exact ⟨_, issues_eq htheme, issuesWith_eq_nil_iff hnone⟩

/-- The image of a form that keeps every limit has an address with parts, or none. -/
theorem KeepsLimits.exists_split (h : form.KeepsLimits) :
    ∃ parts, Url.split form.theme.imageAddress.toList = .ok parts := by
  rcases h.theme.image with hempty | ⟨parts, hparts, -⟩
  · rw [hempty]
    exact ⟨_, rfl⟩
  · exact ⟨parts, hparts⟩

theorem issues_eq_nil_iff : form.issues = .ok [] ↔ form.KeepsLimits := by
  constructor
  · intro hnil
    cases hsplit : Url.split form.theme.imageAddress.toList with
    | error cause =>
        rw [issues_eq_error_iff.2 hsplit] at hnil
        cases hnil
    | ok parts =>
        obtain ⟨issues, hissues, hkept⟩ := exists_issues_of_split hsplit
        rw [hissues] at hnil
        exact hkept.1 (Except.ok.inj hnil)
  · intro hlimits
    obtain ⟨parts, hsplit⟩ := hlimits.exists_split
    obtain ⟨issues, hissues, hkept⟩ := exists_issues_of_split hsplit
    rw [hissues, hkept.2 hlimits]

/-! ### Refusals -/

theorem ensureValid_eq_ok_iff : form.ensureValid = .ok () ↔ form.issues = .ok [] := by
  unfold ensureValid
  cases form.issues with
  | error cause => simp
  | ok issues => cases issues <;> simp

theorem ensureValid_eq_error_iff {refusal : Refusal} :
    form.ensureValid = .error refusal ↔
      (∃ issues, form.issues = .ok issues ∧ issues ≠ [] ∧ refusal = .issues issues) ∨
        ∃ cause, form.issues = .error cause ∧ refusal = .malformed cause := by
  unfold ensureValid
  cases form.issues with
  | error cause => simp [eq_comm]
  | ok issues => cases issues <;> simp [eq_comm]

/-- **A form has issues or none just if the address of its image has parts, and is refused for
its issues just if there are some.  It is accepted just if it keeps every limit.  The only other
refusal is that of a malformed address, which has a square bracket in it or a character that
stands for a delimiter.** -/
theorem issues_ensureValid_outcome (form : Form) :
    ((∃ issues, form.issues = .ok issues) ↔
      ∃ parts, Url.split form.theme.imageAddress.toList = .ok parts) ∧
    (∀ cause, form.issues = .error cause ↔
      Url.split form.theme.imageAddress.toList = .error cause) ∧
    (form.ensureValid = .ok () ↔ form.KeepsLimits) ∧
    (∀ refusal, form.ensureValid = .error refusal ↔
      (∃ issues, form.issues = .ok issues ∧ issues ≠ [] ∧ refusal = .issues issues) ∨
        ∃ cause, Url.split form.theme.imageAddress.toList = .error cause ∧
          refusal = .malformed cause) ∧
    ∀ cause, Url.split form.theme.imageAddress.toList = .error cause →
      ∃ c ∈ form.theme.imageAddress.toList, Url.isDelicate c = true := by
  refine ⟨?_, fun cause => issues_eq_error_iff, ?_, ?_, ?_⟩
  · rw [exists_ok_iff_forall fun cause => issues_eq_error_iff,
      exists_ok_iff_forall fun cause => Iff.rfl]
  · rw [ensureValid_eq_ok_iff, issues_eq_nil_iff]
  · intro refusal
    rw [ensureValid_eq_error_iff]
    simp only [issues_eq_error_iff]
  · intro cause hsplit
    exact Url.exists_isDelicate_of_split hsplit

/-- A form without fields whose image has an address that stops before its host. -/
def unclosedImage : Form where
  fields := []
  theme := { Theme.plain with splitImageUrl := some "http://[" }
  container := none

/-- It has neither issues nor none, and is refused without any. -/
theorem unclosedImage_undecided :
    unclosedImage.issues = .error .brackets ∧
      (¬∃ issues, unclosedImage.issues = .ok issues) ∧
      unclosedImage.ensureValid = .error (.malformed .brackets) := by
  have herror : unclosedImage.issues = .error .brackets := rfl
  refine ⟨herror, ?_, rfl⟩
  rintro ⟨issues, hok⟩
  rw [herror] at hok
  cases hok

end Form

end Enrolment
