/-
Rows of a form.

Fields that name the same row stand together, in the place of the first of them;
a field that names no row stands alone.  Two fields in a row are shown side by
side, and a row of any other length is not.
-/
import Enrolment.Form.Field

namespace Enrolment

/-- A field and its position in the form. -/
structure Placed where
  position : Nat
  field : Field

/-- A row: the fields that stand together, in the order of the form. -/
structure Group where
  members : List Placed
  rowGroup : Option Int

namespace Group

/-- The positions of a row's fields. -/
def positions (group : Group) : List Nat :=
  group.members.map (·.position)

/-- Whether a row is shown side by side. -/
def isPaired (group : Group) : Bool :=
  group.rowGroup.isSome && group.members.length = 2

/-- The fields of a row. -/
def inRow (row : Int) (placed : List Placed) : List Placed :=
  placed.filter (·.field.rowGroup = some row)

/-- The fields outside a row. -/
def outsideRow (row : Int) (placed : List Placed) : List Placed :=
  placed.filter (·.field.rowGroup ≠ some row)

theorem length_outsideRow_le (row : Int) (placed : List Placed) :
    (outsideRow row placed).length ≤ placed.length :=
  List.length_filter_le _ placed

/-- The rows of placed fields, in the order of their first fields. -/
def ofPlaced : List Placed → List Group
  | [] => []
  | first :: rest =>
    match first.field.rowGroup with
    | none => ⟨[first], none⟩ :: ofPlaced rest
    | some row => ⟨first :: inRow row rest, some row⟩ :: ofPlaced (outsideRow row rest)
termination_by placed => placed.length
decreasing_by
  · simp
  · exact Nat.lt_succ_of_le (length_outsideRow_le row rest)

end Group

namespace Form

/-- Fields with their positions, from `index` on. -/
def placeFrom (index : Nat) : List Field → List Placed
  | [] => []
  | field :: rest => ⟨index, field⟩ :: placeFrom (index + 1) rest

/-- The rows of a list of fields. -/
def groups (fields : List Field) : List Group :=
  Group.ofPlaced (placeFrom 0 fields)

end Form

end Enrolment
