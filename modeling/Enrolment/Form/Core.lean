/-
The four fields that every signup form has: first name, last name, email and
password.

They stand first, required and locked.  A field that already plays the part, by its
role or by its label, is claimed for it and keeps everything else; the others are
created, with ids beyond all that are in use.
-/
import Enrolment.Form.Field

namespace Enrolment

/-- One of the core fields. -/
structure CoreSlot where
  role : Role
  label : String
  type : InputType
  placeholder : String

namespace CoreSlot

/-- The core fields in order. -/
def all : List CoreSlot :=
  [⟨.firstName, "First Name", .text, "Enter first name"⟩,
    ⟨.lastName, "Last Name", .text, "Enter last name"⟩,
    ⟨.email, "Email", .email, "Enter your email"⟩,
    ⟨.password, "Password", .text, "Create a password"⟩]

/-- Whether a field already plays the part of a core field. -/
def fits (slot : CoreSlot) (field : Field) : Bool :=
  field.role = some slot.role || Text.lower (Text.trim field.label) = Text.lower slot.label

/-- A field turned into a core field. -/
def claim (slot : CoreSlot) (field : Field) : Field :=
  { field with
    required := true
    locked := true
    role := some slot.role
    type := slot.type
    placeholder := if field.placeholder = "" then slot.placeholder else field.placeholder }

/-- The styles of a created core field. -/
def style : Presentation where
  labelColor := some "#1f2937"
  labelSize := some "14"
  labelWeight := some "600"
  borderColor := some "#d1d5db"
  borderWidth := some "1"
  borderRadius := some "6"
  background := some "#ffffff"
  padding := some "10"
  fontSize := some "14"
  textColor := some "#1f2937"

/-- A new core field. -/
def create (slot : CoreSlot) (id : Int) : Field where
  id := some id
  type := slot.type
  label := slot.label
  placeholder := slot.placeholder
  required := true
  style := style
  role := some slot.role
  locked := true
  choices := []
  rowGroup := none

/-- Takes the first field that fits out of a list. -/
def take? (slot : CoreSlot) : List Field → Option (Field × List Field)
  | [] => none
  | field :: rest =>
    if slot.fits field then some (field, rest)
    else (slot.take? rest).map fun (found, others) => (found, field :: others)

/-- Fills slots from a list of fields, creating what is missing with ids from `nextId` on: the core
fields, and the fields that were not claimed. -/
def fill (nextId : Int) (fields : List Field) : List CoreSlot → List Field × List Field
  | [] => ([], fields)
  | slot :: slots =>
    match slot.take? fields with
    | some (found, others) =>
      let (core, rest) := fill nextId others slots
      (slot.claim found :: core, rest)
    | none =>
      let (core, rest) := fill (nextId + 1) fields slots
      (slot.create nextId :: core, rest)

end CoreSlot

namespace Form

/-- The first id beyond all that are in use. -/
def nextId (fields : List Field) : Int :=
  ((fields.filterMap (·.id)).max?).getD 0 + 1

/-- The core fields, followed by the other fields in their order. -/
def withCore (fields : List Field) : List Field :=
  let (core, rest) := CoreSlot.fill (nextId fields) fields CoreSlot.all
  core ++ rest

end Form

end Enrolment
