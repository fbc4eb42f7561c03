/-
Finding the field that a submitted key belongs to.

Fields with the roles first name, last name and email are looked at first, in that
order, then all others; within each of these classes the order of the form counts.
The first field that explains the key is taken: by its label, by a label that
contains the key or is contained in it, or by a hint at its role.
-/
import Enrolment.Form.Group
import Enrolment.Submission.Key

namespace Enrolment.Match

/-- The roles whose fields are looked at first. -/
def firstRoles : List Role :=
  [.firstName, .lastName, .email]

/-- Whether a field has none of the roles that are looked at first. -/
def isOrdinary (placed : Placed) : Bool :=
  !firstRoles.any fun role => placed.field.role = some role

/-- Fields in the order in which they are looked at. -/
def prioritized (fields : List Placed) : List Placed :=
  (firstRoles.flatMap fun role => fields.filter (·.field.role = some role)) ++
    fields.filter isOrdinary

/-- Whether one text stands within another. -/
def isWithin (part whole : List Char) : Bool :=
  Text.anyTail part.isPrefixOf whole

/-- Whether two normal forms are equal or one contains the other; empty ones do not count. -/
def overlaps (key label : List Char) : Bool :=
  !label.isEmpty && !key.isEmpty && (isWithin label key || isWithin key label)

/-- Whether a field explains a key. -/
def explains (field : Field) (key : String) : Bool :=
  (field.label ≠ "" &&
    Text.lower (Text.trim field.label) = Text.lower (Text.trim key)) ||
  overlaps (Key.normal key) (Key.normal field.label) ||
  field.role.any (Key.hintsAt key)

/-- The field that a key belongs to; a blank key belongs to none. -/
def field? (key : String) (fields : List Field) : Option Placed :=
  if Text.isBlankText key then none
  else (prioritized (Form.placeFrom 0 fields)).find? fun placed => explains placed.field key

end Enrolment.Match
