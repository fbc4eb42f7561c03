/-
The numbers that a form cannot hold.

Settings are read leniently, and two readers can fail all the same: an integer is never
infinite, and a number is never an integer beyond the range of binary64.  All readings of a
field or a theme fail alike if they do, so it does not matter which of them fails first
(`FailsIf.bind`).  A field is refused just if it holds an infinity in one of two places, and
a theme just if it holds an integer that is too large in one of three.
-/
import Enrolment.Form.Theme
import Enrolment.Proofs.Form.Placed
import Enrolment.Proofs.Number.Range

namespace Enrolment

/-! ### Readings that fail with one cause -/

/-- A reading in two steps gives a result only if both steps do. -/
theorem ok_of_bind {ε α β : Type} {step : Except ε α} {next : α → Except ε β} {b : β}
    (h : step >>= next = .ok b) : ∃ a, step = .ok a ∧ next a = .ok b := by
  cases step with
  | error cause => cases h
  | ok a => exact ⟨a, rfl, h⟩

theorem ok_of_mapError {ε δ α : Type} {reading : Except ε α} {f : ε → δ} {a : α}
    (h : reading.mapError f = .ok a) : reading = .ok a := by
  cases reading with
  | error cause => cases h
  | ok found => exact congrArg Except.ok (Except.ok.inj h)

theorem map_eq_error_iff {ε α β : Type} {reading : Except ε α} {f : α → β} {cause : ε} :
    reading.map f = .error cause ↔ reading = .error cause := by
  cases reading <;> simp [Except.map]

/-- What has no error gives a result. -/
theorem exists_ok_iff_forall {ε α : Type} {reading : Except ε α} {Refused : ε → Prop}
    (h : ∀ cause, reading = .error cause ↔ Refused cause) :
    (∃ a, reading = .ok a) ↔ ∀ cause, ¬Refused cause := by
  simp only [← h]
  cases reading with
  | ok a => simp
  | error cause => simp

/-- Whether a reading fails just under a condition, and with one cause. -/
def FailsIf {ε α : Type} (reading : Except ε α) (fault : ε) (Refused : Prop) : Prop :=
  ∀ cause, reading = .error cause ↔ cause = fault ∧ Refused

namespace FailsIf

variable {ε α β : Type} {fault : ε} {P Q : Prop} {reading : Except ε α}

theorem ok (a : α) : FailsIf (.ok a) fault False := by
  intro cause
  simp

theorem congr (h : FailsIf reading fault P) (hiff : P ↔ Q) : FailsIf reading fault Q := by
  intro cause
  rw [h cause, hiff]

/-- What is not refused gives a result. -/
theorem exists_ok_iff (h : FailsIf reading fault P) : (∃ a, reading = .ok a) ↔ ¬P := by
  rw [exists_ok_iff_forall h]
  simp

/-- Steps that fail alike fail together if one of them does. -/
theorem bind {next : α → Except ε β} (h : FailsIf reading fault P)
    (hnext : ∀ a, FailsIf (next a) fault Q) : FailsIf (reading >>= next) fault (P ∨ Q) := by
  intro cause
  have hreading := h cause
  cases reading with
  | ok a =>
      have hnot : ¬P := h.exists_ok_iff.1 ⟨a, rfl⟩
      rw [or_iff_right hnot]
      exact hnext a cause
  | error other =>
      have hP : P := ((h other).1 rfl).2
      rw [← or_iff_left_of_imp (fun _ : Q => hP)] at hreading
      constructor
      · intro herror
        exact hreading.1 (congrArg Except.error (Except.error.inj herror))
      · intro hrefused
        exact congrArg Except.error (Except.error.inj (hreading.2 hrefused))

end FailsIf

/-! ### Settings -/

/-- Whether a value is an infinite number. -/
def Json.IsInfinite (value : Json) : Prop :=
  ∃ negative, value = .num (.infinite negative)

/-- Whether a value is an integer beyond the range of binary64. -/
def Json.IsTooLarge (value : Json) : Prop :=
  ∃ n : Int, value = .int n ∧ Binary64.leastTooLarge ≤ n.natAbs

namespace Setting

theorem integer?_failsIf (value : Json) :
    FailsIf (integer? value) .infiniteInteger value.IsInfinite := by
  intro cause
  unfold Json.IsInfinite
  cases value with
  | num x => cases x <;> simp [integer?, eq_comm]
  | null | bool _ | int _ | str _ | arr _ | obj _ => simp [integer?]

theorem size?_failsIf (value : Json) :
    FailsIf (size? value) .infiniteInteger value.IsInfinite := by
  cases value with
  | bool _ =>
      intro cause
      simp [size?, Json.IsInfinite]
  | null | int _ | num _ | str _ | arr _ | obj _ =>
      rw [size?]
      · exact integer?_failsIf _
      · exact nofun

theorem number?_failsIf (value : Json) :
    FailsIf (number? value) .integerTooLarge value.IsTooLarge := by
  intro cause
  unfold Json.IsTooLarge
  cases value with
  | int n =>
      have hnone := Binary64.ofInt?_eq_none_iff n
      rw [number?]
      cases hof : Binary64.ofInt? n with
      | none => simp [hnone.1 hof, eq_comm]
      | some x => simp [← hnone, hof]
  | null | bool _ | num _ | str _ | arr _ | obj _ => simp [number?]

/-- A member that is missing is not refused. -/
theorem optional_failsIf {α : Type} {read : Json → Except Overflow (Option α)} {fault : Overflow}
    {Refused : Json → Prop} (h : ∀ value, FailsIf (read value) fault (Refused value))
    (member : Option Json) :
    FailsIf (optional read member) fault (∃ value ∈ member, Refused value) := by
  cases member with
  | none => exact (FailsIf.ok none).congr (by simp)
  | some value => exact (h value).congr (by simp)

end Setting

/-! ### Fields and themes -/

namespace Field

/-- Whether a field holds an infinity where an integer belongs. -/
def HasInfinity (members : Members) : Prop :=
  (∃ value ∈ members.get? "id", value.IsInfinite) ∨
    ∃ value ∈ members.either? "rowGroup" "row_group", value.IsInfinite

theorem ofMembers_failsIf (members : Members) :
    FailsIf (ofMembers members) .infiniteInteger (HasInfinity members) := by
  have hid := Setting.optional_failsIf Setting.integer?_failsIf (members.get? "id")
  have hrow := Setting.optional_failsIf Setting.integer?_failsIf
    (members.either? "rowGroup" "row_group")
  refine (hid.bind fun _ => hrow.bind fun _ => FailsIf.ok _).congr ?_
  rw [or_false, HasInfinity]

/-- **The fields of a list are refused just if one of its objects holds an infinity where an
integer belongs.** -/
theorem ofItems_failsIf (items : List Json) :
    FailsIf (ofItems items) .infiniteInteger (∃ members ∈ Json.objects items,
      HasInfinity members) := by
  induction items with
  | nil => exact (FailsIf.ok []).congr (by simp)
  | cons item rest ih =>
      cases item with
      | obj members =>
          refine ((ofMembers_failsIf members).bind fun _ => ih.bind fun _ => FailsIf.ok _).congr ?_
          simp
      | null | bool _ | int _ | num _ | str _ | arr _ => exact ih

end Field

namespace Theme

/-- The numbers of a theme, each by its two spellings. -/
def numberKeys : List (String × String) :=
  [("titleFontSize", "title_font_size"), ("subtitleFontSize", "subtitle_font_size"),
    ("buttonRadius", "button_radius")]

/-- Whether a theme has an integer beyond the range of binary64 for a number. -/
def HasTooLarge (members : Members) : Prop :=
  ∃ keys ∈ numberKeys, ∃ value ∈ members.either? keys.1 keys.2, value.IsTooLarge

theorem ofMembers_failsIf (members : Members) :
    FailsIf (ofMembers members) .integerTooLarge (HasTooLarge members) := by
  have hnumber (key other : String) := Setting.optional_failsIf Setting.number?_failsIf
    (members.either? key other)
  refine ((hnumber "titleFontSize" "title_font_size").bind fun _ =>
    (hnumber "subtitleFontSize" "subtitle_font_size").bind fun _ =>
    (hnumber "buttonRadius" "button_radius").bind fun _ => FailsIf.ok _).congr ?_
  simp [HasTooLarge, numberKeys]

/-- **A theme is refused just if it has an integer beyond the range of binary64 for a number.** -/
theorem read_failsIf (theme : Json) :
    FailsIf (read theme) .integerTooLarge (HasTooLarge theme.members) := by
  cases theme with
  | obj members => exact ofMembers_failsIf members
  | null | bool _ | int _ | num _ | str _ | arr _ =>
      exact (FailsIf.ok plain).congr (by simp [HasTooLarge, Json.members, Members.either?,
        Members.get?])

end Theme

end Enrolment
