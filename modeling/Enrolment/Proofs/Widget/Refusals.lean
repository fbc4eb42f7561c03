/-
What the compiler refuses.

Whatever is no list is refused as such.  A list is refused for an infinity where one of its
fields takes an integer, or else for an integer beyond the range of binary64 where the theme
takes a number.  Every other list is compiled, whatever its items are.
-/
import Enrolment.Proofs.Form.Overflow
import Enrolment.Proofs.Widget.Plans

namespace Enrolment.Widget

/-- Whether a value is a list with an infinity where one of its fields takes an integer. -/
def HasInfinity (fields : Json) : Prop :=
  ∃ items, fields = .arr items ∧ ∃ members ∈ Json.objects items, Field.HasInfinity members

/-- What an error says of the fields and the theme that could not be compiled. -/
def CompileError.Concerns (fields theme : Json) : CompileError → Prop
  | notList kind => (∀ items, fields ≠ .arr items) ∧ kind = fields.kind
  | overflow .infiniteInteger => HasInfinity fields
  | overflow .integerTooLarge =>
      (∃ items, fields = .arr items) ∧ ¬HasInfinity fields ∧ Theme.HasTooLarge theme.members

theorem hasInfinity_arr {items : List Json} :
    HasInfinity (.arr items) ↔ ∃ members ∈ Json.objects items, Field.HasInfinity members := by
  simp [HasInfinity]

variable (container fields theme : Json) (table : Place.Table)

/-- A list has just the errors that concern it. -/
theorem compileValues_arr_eq_error_iff (items : List Json) (cause : CompileError) :
    compileValues container (.arr items) theme table = .error cause ↔
      cause.Concerns (.arr items) theme := by
  have hfields := (Field.ofItems_failsIf items).congr hasInfinity_arr.symm
  have htheme := Theme.read_failsIf theme
  cases hread : Field.ofItems items with
  | error fault =>
      obtain ⟨rfl, hinfinite⟩ := (hfields fault).1 hread
      have hrefused : compileValues container (.arr items) theme table =
          .error (.overflow .infiniteInteger) := by
        simp only [compileValues, hread]
        rfl
      rw [hrefused, Except.error.injEq]
      rcases cause with kind | (_ | _) <;> simp [CompileError.Concerns, hinfinite]
  | ok read =>
      have hfinite := hfields.exists_ok_iff.1 ⟨read, hread⟩
      cases hlook : Theme.read theme with
      | error fault =>
          obtain ⟨rfl, hlarge⟩ := (htheme fault).1 hlook
          have hrefused : compileValues container (.arr items) theme table =
              .error (.overflow .integerTooLarge) := by
            simp only [compileValues, hread, hlook]
            rfl
          rw [hrefused, Except.error.injEq]
          rcases cause with kind | (_ | _) <;> simp [CompileError.Concerns, hfinite, hlarge]
      | ok look =>
          have hsmall := htheme.exists_ok_iff.1 ⟨look, hlook⟩
          rw [compileValues_eq hread hlook]
          rcases cause with kind | (_ | _) <;> simp [CompileError.Concerns, hfinite, hsmall]

/-- Anything else has the one error that it is no list. -/
theorem compileValues_eq_error_iff_of_ne_arr (h : ∀ items, fields ≠ .arr items)
    (cause : CompileError) :
    compileValues container fields theme table = .error cause ↔ cause.Concerns fields theme := by
  have hrefused : compileValues container fields theme table =
      .error (.notList fields.kind) := by
    cases fields with
    | arr items => exact absurd rfl (h items)
    | null | bool _ | int _ | num _ | str _ | obj _ => rfl
  have hnone : ¬HasInfinity fields := by
    rintro ⟨items, hitems, -⟩
    exact h items hitems
  rw [hrefused, Except.error.injEq]
  rcases cause with kind | (_ | _) <;> simp [CompileError.Concerns, h, hnone, eq_comm]

/-- No error concerns a list without such an infinity and a theme without such an integer. -/
theorem forall_not_concerns_iff :
    (∀ cause : CompileError, ¬cause.Concerns fields theme) ↔
      (∃ items, fields = .arr items) ∧ ¬HasInfinity fields ∧
        ¬Theme.HasTooLarge theme.members := by
  constructor
  · intro hnone
    have hlist : ∃ items, fields = .arr items := by
      by_contra hother
      exact hnone (.notList fields.kind) ⟨not_exists.1 hother, rfl⟩
    have hfinite : ¬HasInfinity fields := hnone (.overflow .infiniteInteger)
    refine ⟨hlist, hfinite, ?_⟩
    intro hlarge
    exact hnone (.overflow .integerTooLarge) ⟨hlist, hfinite, hlarge⟩
  · rintro ⟨⟨items, hitems⟩, hfinite, hsmall⟩ (kind | (_ | _)) hconcerns
    · exact hconcerns.1 items hitems
    · exact hfinite hconcerns
    · exact hsmall hconcerns.2.2

/-- **A form compiles just if it is a list that has no infinity for an integer and its theme no
number that is too large; and what does not compile has the error that concerns it.**  Texts are
sequences of Unicode scalar values: labels with lone surrogates, which cannot be quoted for the
name of a file's part, are left out. -/
theorem compileValues_outcome :
    ((∃ script, compileValues container fields theme table = .ok script) ↔
      (∃ items, fields = .arr items) ∧ ¬HasInfinity fields ∧ ¬Theme.HasTooLarge theme.members) ∧
    ∀ cause, compileValues container fields theme table = .error cause ↔
      cause.Concerns fields theme := by
  have herror : ∀ cause, compileValues container fields theme table = .error cause ↔
      cause.Concerns fields theme := by
    by_cases hlist : ∃ items, fields = .arr items
    · obtain ⟨items, rfl⟩ := hlist
      exact compileValues_arr_eq_error_iff container theme table items
    · exact compileValues_eq_error_iff_of_ne_arr container fields theme table
        (not_exists.1 hlist)
  exact ⟨(exists_ok_iff_forall herror).trans (forall_not_concerns_iff fields theme), herror⟩

/-- A list is refused if a field is numbered by an infinity, or if the title has a size that is too
large. -/
theorem lists_refused :
    compileValues .null (.arr [.obj [("id", .num (.infinite false))]]) .null ⟨[]⟩ =
      .error (.overflow .infiniteInteger) ∧
    compileValues .null (.arr []) (.obj [("titleFontSize", .int Binary64.leastTooLarge)]) ⟨[]⟩ =
      .error (.overflow .integerTooLarge) := by
  refine ⟨rfl, ?_⟩
  rw [compileValues_arr_eq_error_iff]
  refine ⟨⟨[], rfl⟩, ?_, ?_⟩
  · rw [hasInfinity_arr]
    simp
  · refine ⟨("titleFontSize", "title_font_size"), .head _, .int Binary64.leastTooLarge, rfl, ?_⟩
    exact ⟨Binary64.leastTooLarge, rfl, Nat.le_of_eq (Int.natAbs_natCast _).symm⟩

end Enrolment.Widget
