/-
A form: its fields, its theme and the page element that it is put into.

Reading is strict about shape where leaving something out would change the form: a
form is an object, its fields are a list, and each of them is an object.  All
misfits are reported at once, but a number that cannot be held stops the reading.
-/
import Enrolment.Form.Field
import Enrolment.Form.Theme

namespace Enrolment

/-- A signup form. -/
structure Form where
  fields : List Field
  theme : Theme
  container : Option String

/-- Why a value is not what was to be read from it. -/
inductive ReadError where
  | misfits (places : List Misfit)
  | overflow (cause : Overflow)

namespace ReadError

/-- A whole value that is no object. -/
def notObject : ReadError :=
  misfits [⟨[], .object⟩]

end ReadError

/-- Reads a field from a value that has to be an object. -/
def Field.read : Json → Except ReadError Field
  | .obj members => (Field.ofMembers members).mapError .overflow
  | _ => .error .notObject

namespace Form

/-- Reads the name of the page element; blanks around it do not count. -/
def readContainer : Json → Option String
  | .arr _ | .obj _ => none
  | value => some (Text.trim value.display) |>.filter (· ≠ "")

/-- Reads the items of the list of fields, from a position on: the fields, and the places of the
items that are no objects. -/
def readItems (index : Nat) : List Json → Except Overflow (List Field × List Misfit)
  | [] => .ok ([], [])
  | .obj members :: rest => do
    let field ← Field.ofMembers members
    let (fields, misfits) ← readItems (index + 1) rest
    return (field :: fields, misfits)
  | _ :: rest => do
    let (fields, misfits) ← readItems (index + 1) rest
    return (fields, ⟨[.member "fields", .item index], .object⟩ :: misfits)

/-- Reads the list of fields; a missing one is empty. -/
def readFields : Option Json → Except Overflow (List Field × List Misfit)
  | none => .ok ([], [])
  | some (.arr items) => readItems 0 items
  | some _ => .ok ([], [⟨[.member "fields"], .list⟩])

/-- Reads a form from the members of an object. -/
def ofMembers (members : Members) : Except ReadError Form := do
  let (fields, misfits) ← (readFields (members.get? "fields")).mapError .overflow
  let theme ← (Theme.read ((members.get? "theme").getD .null)).mapError .overflow
  let container := (members.either? "containerId" "container_id").bind readContainer
  if misfits.isEmpty then .ok { fields, theme, container } else .error (.misfits misfits)

/-- Reads a form. -/
def read : Json → Except ReadError Form
  | .obj members => ofMembers members
  | _ => .error .notObject

end Form

end Enrolment
