/-
Which submitted row groups bring two fields together.

The row group of a field is an integer that is read from whatever was submitted for it.  Integers
and the texts that spell one are read as what they denote, a number is cut to an integer, and all
other values are no row group.  So a number with a fractional part is read as an integer that it
does not denote, and that is the only way in which two fields come together whose row groups do
not denote the same integer (`rows_outcome`).
-/
import Enrolment.Proofs.Form.Overflow
import Enrolment.Proofs.Form.Rows
import Enrolment.Proofs.Number.Integer

namespace Enrolment

/-! ### What a value denotes, and what it is read as -/

namespace Json

/-- Whether a value denotes an integer: it is that integer, a number of the same value, or a text
that spells it. -/
inductive Denotes : Json → Int → Prop
  | int (n : Int) : Denotes (.int n) n
  | num {x : Binary64} {n : Int} (h : x.value? = some (n : ℚ)) : Denotes (.num x) n
  | str {s : String} {digits : List Nat} {n : Int} (h : Numeral.Spells s.toList digits n) :
      Denotes (.str s) n

/-- Whether a value is read as an integer: a number is cut, and a text must not have too many
digits. -/
inductive IsReadAs : Json → Int → Prop
  | int (n : Int) : IsReadAs (.int n) n
  | num {x : Binary64} {v : ℚ} (h : x.value? = some v) : IsReadAs (.num x) (Binary64.cut v)
  | str {s : String} {digits : List Nat} {n : Int} (h : Numeral.Spells s.toList digits n)
      (hshort : digits.length ≤ Numeral.maxDigits) : IsReadAs (.str s) n

/-- Whether a value is a number with a fractional part. -/
def HasFraction (value : Json) : Prop :=
  ∃ x v, value = .num x ∧ x.value? = some v ∧ ∀ n : Int, v ≠ n

/-- Whether a value is one of those that denote no row: a number with a fractional part, a truth
value, or a text that spells no integer. -/
inductive IsNoRow : Json → Prop
  | fraction {value : Json} (h : value.HasFraction) : IsNoRow value
  | bool (value : Bool) : IsNoRow (.bool value)
  | text {s : String} (h : ∀ digits n, ¬Numeral.Spells s.toList digits n) : IsNoRow (.str s)

variable {value : Json} {n : Int}

/-- Without a fractional part nothing is cut off. -/
theorem IsReadAs.denotes (h : value.IsReadAs n) (hwhole : ¬value.HasFraction) :
    value.Denotes n := by
  cases h with
  | int => exact .int n
  | str h _ => exact .str h
  | num hvalue =>
      rename_i x v
      have hinteger : ∃ m : Int, v = m := by
        by_contra hnone
        exact hwhole ⟨x, v, rfl, hvalue, fun m heq => hnone ⟨m, heq⟩⟩
      obtain ⟨m, rfl⟩ := hinteger
      rw [Binary64.cut_intCast]
      exact .num hvalue

theorem Denotes.not_hasFraction (h : value.Denotes n) : ¬value.HasFraction := by
  rintro ⟨x, v, rfl, hvalue, hfraction⟩
  cases h with
  | num hwhole =>
      rw [hwhole] at hvalue
      exact hfraction n (Option.some.inj hvalue).symm

/-- Of the values that denote no row, the numbers with a fractional part are read as one. -/
theorem IsNoRow.exists_isReadAs_iff (h : value.IsNoRow) :
    (∃ n, value.IsReadAs n) ↔ value.HasFraction := by
  constructor
  · rintro ⟨n, hread⟩
    cases h with
    | fraction h => exact h
    | bool => cases hread
    | text h =>
        cases hread with
        | str hspells _ => exact absurd hspells (h _ _)
  · rintro ⟨x, v, rfl, hvalue, -⟩
    exact ⟨_, .num hvalue⟩

end Json

/-- **An integer is read from the values that are read as it, and no infinity is among them.** -/
theorem Setting.integer?_eq_ok_some_iff {value : Json} {n : Int} :
    integer? value = .ok (some n) ↔ value.IsReadAs n := by
  constructor
  · intro h
    cases value with
    | int m =>
        obtain rfl : m = n := Option.some.inj (Except.ok.inj h)
        exact .int m
    | str s =>
        obtain ⟨digits, hspells, hshort⟩ := Numeral.integer?_eq_some_iff.1 (Except.ok.inj h)
        exact .str hspells hshort
    | num x =>
        have hcut : x.truncate? = some n := by
          cases x with
          | infinite _ => cases h
          | nan | finite _ _ _ => exact Except.ok.inj h
        obtain ⟨v, hvalue, rfl⟩ := Binary64.truncate?_eq_some_iff.1 hcut
        exact .num hvalue
    | null | bool _ | arr _ | obj _ => cases h
  · intro h
    cases h with
    | int => rfl
    | str hspells hshort =>
        exact congrArg Except.ok (Numeral.integer?_eq_some_iff.2 ⟨_, hspells, hshort⟩)
    | num hvalue =>
        rename_i x v
        have hcut := Binary64.truncate?_eq_some_iff.2 ⟨v, hvalue, rfl⟩
        cases x with
        | infinite _ => cases hvalue
        | nan | finite _ _ _ => exact congrArg Except.ok hcut

namespace Form

/-! ### The rows of submitted fields -/

/-- Two positions of a form share a group. -/
def Together (fields : List Field) (i j : Nat) : Prop :=
  ∃ group ∈ groups fields, i ∈ group.positions ∧ j ∈ group.positions

/-- The value that was submitted for the row group of the field at a position. -/
def submittedRow? (items : List Json) (position : Nat) : Option Json :=
  (Json.objects items)[position]?.bind (·.either? "rowGroup" "row_group")

/-- What it takes for the rows of a form to follow what was submitted. -/
structure RowsFollow (items : List Json) (fields : List Field) : Prop where
  /-- The row group of a field is the integer that the submitted value is read as, if any. -/
  rowGroup_iff : ∀ i field, fields[i]? = some field → ∀ n,
    field.rowGroup = some n ↔ ∃ value ∈ submittedRow? items i, value.IsReadAs n
  /-- Two fields come together just if one integer is read for both. -/
  together_iff : ∀ i j, i < fields.length → j < fields.length → i ≠ j →
    (Together fields i j ↔ ∃ n, (∃ value ∈ submittedRow? items i, value.IsReadAs n) ∧
      ∃ other ∈ submittedRow? items j, other.IsReadAs n)
  /-- Two fields that come together were given the same integer, unless one was given a number with
  a fractional part. -/
  denote_iff : ∀ i j, i < fields.length → j < fields.length → i ≠ j → Together fields i j →
    ∃ value ∈ submittedRow? items i, ∃ other ∈ submittedRow? items j,
      ((∃ n, value.Denotes n ∧ other.Denotes n) ↔ ¬value.HasFraction ∧ ¬other.HasFraction)
  /-- What denotes no row gives none, unless it is a number with a fractional part. -/
  none_iff : ∀ i field, fields[i]? = some field → ∀ value ∈ submittedRow? items i,
    value.IsNoRow → (field.rowGroup = none ↔ ¬value.HasFraction)

theorem rowGroup_eq_some_iff {members : Members} {field : Field}
    (h : Field.ofMembers members = .ok field) (n : Int) :
    field.rowGroup = some n ↔
      ∃ value ∈ members.either? "rowGroup" "row_group", value.IsReadAs n := by
  obtain ⟨id, -, hrest⟩ := ok_of_bind h
  obtain ⟨row, hrow, hfield⟩ := ok_of_bind hrest
  have hread : field.rowGroup = row := by rw [← Except.ok.inj hfield]
  rw [hread]
  cases hvalue : members.either? "rowGroup" "row_group" with
  | none =>
      rw [hvalue] at hrow
      rw [← Except.ok.inj hrow]
      simp
  | some value =>
      have hinteger : Setting.integer? value = .ok row := by
        rw [hvalue] at hrow
        exact hrow
      simp only [Option.mem_some_iff, exists_eq_left', ← Setting.integer?_eq_ok_some_iff, hinteger,
        Except.ok.injEq]

variable {items : List Json} {fields : List Field}

/-- The field at a position is read from the object at that position. -/
theorem exists_members_of_getElem? (h : Field.ofItems items = .ok fields) {i : Nat} {field : Field}
    (hfield : fields[i]? = some field) :
    ∃ members, (Json.objects items)[i]? = some members ∧ Field.ofMembers members = .ok field := by
  have hall := Field.forall₂_ofItems h
  obtain ⟨hi, rfl⟩ := List.getElem?_eq_some_iff.1 hfield
  have hlength : i < (Json.objects items).length := by rwa [hall.length_eq]
  exact ⟨_, List.getElem?_eq_getElem hlength, hall.get hlength hi⟩

/-- **The rows of a form that was read follow what was submitted.** -/
theorem rowsFollow_of_ofItems (h : Field.ofItems items = .ok fields) :
    RowsFollow items fields := by
  have hrow : ∀ i field, fields[i]? = some field → ∀ n,
      field.rowGroup = some n ↔ ∃ value ∈ submittedRow? items i, value.IsReadAs n := by
    intro i field hfield n
    obtain ⟨members, hmembers, hread⟩ := exists_members_of_getElem? h hfield
    rw [rowGroup_eq_some_iff hread, submittedRow?, hmembers, Option.bind_some]
  have htogether : ∀ i j, i < fields.length → j < fields.length → i ≠ j →
      (Together fields i j ↔ ∃ n, (∃ value ∈ submittedRow? items i, value.IsReadAs n) ∧
        ∃ other ∈ submittedRow? items j, other.IsReadAs n) := by
    intro i j hi hj hne
    rw [Together, together_iff i j hi hj, or_iff_right hne]
    refine exists_congr fun n => ?_
    rw [hrow i _ (List.getElem?_eq_getElem hi), hrow j _ (List.getElem?_eq_getElem hj)]
  refine ⟨hrow, htogether, ?_, ?_⟩
  · intro i j hi hj hne hshared
    obtain ⟨n, ⟨value, hvalue, hread⟩, other, hother, hreadOther⟩ :=
      (htogether i j hi hj hne).1 hshared
    refine ⟨value, hvalue, other, hother, ?_, ?_⟩
    · rintro ⟨m, hdenotes, hdenotesOther⟩
      exact ⟨hdenotes.not_hasFraction, hdenotesOther.not_hasFraction⟩
    · rintro ⟨hwhole, hwholeOther⟩
      exact ⟨n, hread.denotes hwhole, hreadOther.denotes hwholeOther⟩
  · intro i field hfield value hvalue hnoRow
    have hsome : ∀ n, field.rowGroup = some n ↔ value.IsReadAs n := by
      intro n
      rw [hrow i field hfield, Option.mem_def.1 hvalue]
      simp
    rw [← hnoRow.exists_isReadAs_iff, Option.eq_none_iff_forall_ne_some, not_exists]
    simp only [ne_eq, hsome]

/-- **A list of fields is read just if no infinity stands where an integer belongs.  Then two fields
come together just if one integer is read for both, and what is read is what was submitted, but for
numbers with a fractional part: these are cut to an integer, where they denote no row.** -/
theorem rows_outcome (items : List Json) :
    ((∃ fields, Field.readList (.arr items) = .ok fields) ↔
      ¬∃ members ∈ Json.objects items, Field.HasInfinity members) ∧
    ∀ fields, Field.readList (.arr items) = .ok fields → RowsFollow items fields := by
  constructor
  · rw [← (Field.ofItems_failsIf items).exists_ok_iff]
    refine exists_congr fun fields => ⟨ok_of_mapError, ?_⟩
    intro h
    rw [Field.readList, h]
    rfl
  · intro fields h
    exact rowsFollow_of_ofItems (ok_of_mapError h)

/-- A text with blanks, a sign and an underscore and a number bring their fields together. -/
theorem spelt_tens_together :
    let items : List Json := [.obj [("rowGroup", .str " +1_0 ")], .bool true,
      .obj [("row_group", .num (.finite false 5 1))]]
    ∃ fields, Field.readList (.arr items) = .ok fields ∧ Together fields 0 1 := by
  intro items
  refine ⟨_, rfl, ?_⟩
  have hspelt : (Json.str " +1_0 ").IsReadAs 10 := Setting.integer?_eq_ok_some_iff.1 rfl
  have hnumber : (Json.num (.finite false 5 1)).IsReadAs 10 :=
    Setting.integer?_eq_ok_some_iff.1 rfl
  have hrows := (rows_outcome items).2 _ rfl
  exact (hrows.together_iff 0 1 (by decide) (by decide) (by decide)).2
    ⟨10, ⟨_, rfl, hspelt⟩, _, rfl, hnumber⟩

/-- One and one and a half come together, though they have no integer in common. -/
theorem one_and_half_together :
    let items : List Json := [.obj [("label", .str "A"), ("rowGroup", .int 1)],
      .obj [("label", .str "B"), ("rowGroup", .num (.ofDecimal false 15 (-1)))]]
    ∃ fields, Field.readList (.arr items) = .ok fields ∧ Together fields 0 1 ∧
      ∃ value ∈ submittedRow? items 0, ∃ other ∈ submittedRow? items 1,
        other.IsNoRow ∧ ¬∃ n, value.Denotes n ∧ other.Denotes n := by
  intro items
  have hhalf : Binary64.ofDecimal false 15 (-1) = .finite false 6755399441055744 (-52) := by rfl
  have hfraction : (Json.num (.ofDecimal false 15 (-1))).HasFraction := by
    refine ⟨_, 3 / 2, rfl, ?_, ?_⟩
    · rw [hhalf, Binary64.value?]
      norm_num
    · intro n heq
      have hdouble : (3 : ℚ) = ((2 * n : Int) : ℚ) := by
        rw [Int.cast_mul, ← heq]
        norm_num
      have : (3 : Int) = 2 * n := by exact_mod_cast hdouble
      omega
  have hrows : RowsFollow items _ := rowsFollow_of_ofItems rfl
  refine ⟨_, rfl, ?_, _, rfl, _, rfl, .fraction hfraction, ?_⟩
  · exact (hrows.together_iff 0 1 (by decide) (by decide) (by decide)).2
      ⟨1, ⟨_, rfl, .int 1⟩, _, rfl, Setting.integer?_eq_ok_some_iff.1 rfl⟩
  · rintro ⟨n, -, hdenotes⟩
    exact hdenotes.not_hasFraction hfraction

end Form

end Enrolment
