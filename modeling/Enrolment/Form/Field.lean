/-
The fields of a signup form.

A field is read from the members of an object, with either spelling of a member's
name (`labelColor`, or else `label_color`).  Whatever is missing or unusable takes
its default, so reading fails only for a number that cannot be an integer.
`toWire` writes a field back in the first spelling, without what is not set.
-/
import Enrolment.Form.Setting
import Enrolment.Json.Shape

namespace Enrolment

/-- The declared type of a field. -/
inductive InputType where
  | text | email | phone | number | textarea | select | radio | checkbox | date | file | url
deriving DecidableEq

namespace InputType

/-- The name of a type. -/
def name : InputType → String
  | text => "text"
  | email => "email"
  | phone => "phone"
  | number => "number"
  | textarea => "textarea"
  | select => "select"
  | radio => "radio"
  | checkbox => "checkbox"
  | date => "date"
  | file => "file"
  | url => "url"

/-- All types. -/
def all : List InputType :=
  [text, email, phone, number, textarea, select, radio, checkbox, date, file, url]

/-- The type of a name. -/
def ofName? (s : String) : Option InputType :=
  all.find? (·.name = s)

/-- Reads a type; unknown ones are text. -/
def read (value : Json) : InputType :=
  (ofName? (Setting.word value)).getD text

end InputType

/-- What a field means to the shop, apart from how it is typed in. -/
inductive Role where
  | firstName | lastName | email | password | country | state
deriving DecidableEq

namespace Role

/-- The name of a role. -/
def name : Role → String
  | firstName => "first_name"
  | lastName => "last_name"
  | email => "email"
  | password => "password"
  | country => "country"
  | state => "state"

/-- All roles. -/
def all : List Role :=
  [firstName, lastName, email, password, country, state]

/-- The role of a name. -/
def ofName? (s : String) : Option Role :=
  all.find? (·.name = s)

/-- Reads a role; unknown ones are none. -/
def read? (value : Json) : Option Role :=
  ofName? (Setting.word value)

end Role

/-- One of the answers that a field offers. -/
structure Choice where
  label : String
  value : String
deriving DecidableEq

namespace Choice

/-- Reads a choice from an object; without a value of its own it stands for its label. -/
def ofMembers (members : Members) : Choice :=
  let label := ((members.get? "label").getD .null).display
  let value := ((members.get? "value").getD .null).display
  ⟨label, if value = "" then label else value⟩

/-- Reads a choice from a value; none if the value is neither an object nor a string. -/
def read? : Json → Option Choice
  | .str s => some ⟨s, s⟩
  | .obj members => some (ofMembers members)
  | _ => none

/-- Reads the choices of a list, passing over what is none; other values have no choices. -/
def readList : Json → List Choice
  | .arr items => items.filterMap read?
  | _ => []

/-- The wire form of a choice. -/
def toWire (choice : Choice) : Json :=
  .obj [("label", .str choice.label), ("value", .str choice.value)]

end Choice

/-- The styles that may be set for one field. -/
structure Presentation where
  labelColor : Option String
  labelSize : Option String
  labelWeight : Option String
  borderColor : Option String
  borderWidth : Option String
  borderRadius : Option String
  background : Option String
  padding : Option String
  fontSize : Option String
  textColor : Option String
deriving DecidableEq

namespace Presentation

/-- Nothing set. -/
def plain : Presentation :=
  ⟨none, none, none, none, none, none, none, none, none, none⟩

/-- Reads the styles among the members of a field. -/
def ofMembers (members : Members) : Presentation :=
  let style (key other : String) := (members.either? key other).bind Setting.style?
  { labelColor := style "labelColor" "label_color"
    labelSize := style "labelSize" "label_size"
    labelWeight := style "labelWeight" "label_weight"
    borderColor := style "borderColor" "border_color"
    borderWidth := style "borderWidth" "border_width"
    borderRadius := style "borderRadius" "border_radius"
    background := style "bgColor" "bg_color"
    padding := style "padding" "padding"
    fontSize := style "fontSize" "font_size"
    textColor := style "textColor" "text_color" }

/-- The styles with their names on the wire. -/
def toMembers (p : Presentation) : Members :=
  [("labelColor", .ofText? p.labelColor), ("labelSize", .ofText? p.labelSize),
    ("labelWeight", .ofText? p.labelWeight), ("borderColor", .ofText? p.borderColor),
    ("borderWidth", .ofText? p.borderWidth), ("borderRadius", .ofText? p.borderRadius),
    ("bgColor", .ofText? p.background), ("padding", .ofText? p.padding),
    ("fontSize", .ofText? p.fontSize), ("textColor", .ofText? p.textColor)]

end Presentation

/-- A field of a form. -/
structure Field where
  id : Option Int
  type : InputType
  label : String
  placeholder : String
  required : Bool
  style : Presentation
  role : Option Role
  locked : Bool
  choices : List Choice
  rowGroup : Option Int
deriving DecidableEq

namespace Field

/-- Reads a field from the members of an object. -/
def ofMembers (members : Members) : Except Overflow Field := do
  let get (key : String) := members.get? key
  let id ← Setting.optional Setting.integer? (get "id")
  let rowGroup ← Setting.optional Setting.integer? (members.either? "rowGroup" "row_group")
  return {
    id
    type := ((get "type").map InputType.read).getD .text
    label := ((get "label").map Json.display).getD ""
    placeholder := ((get "placeholder").map Json.display).getD ""
    required := ((get "required").map Setting.flag).getD false
    style := .ofMembers members
    role := (get "role").bind Role.read?
    locked := ((get "locked").map Setting.flag).getD false
    choices := ((get "options").map Choice.readList).getD []
    rowGroup }

/-- The fields among the items of a list, in order; items that are no objects are passed over. -/
def ofItems : List Json → Except Overflow (List Field)
  | [] => .ok []
  | .obj members :: rest => do
    let field ← ofMembers members
    let fields ← ofItems rest
    return field :: fields
  | _ :: rest => ofItems rest

/-- The wire form of a field: what is not set is left out. -/
def toWire (field : Field) : Json :=
  .obj (Json.present (
    [("id", .ofInt? field.id), ("type", .str field.type.name), ("label", .str field.label),
      ("placeholder", .str field.placeholder), ("required", .bool field.required)] ++
    field.style.toMembers ++
    [("role", .ofText? (field.role.map Role.name)), ("locked", .bool field.locked),
      ("options", .arr (field.choices.map Choice.toWire)),
      ("rowGroup", .ofInt? field.rowGroup)]))

end Field

/-- Why a value gives no list of fields. -/
inductive FieldsError where
  | notIterable (kind : String)
  | overflow (cause : Overflow)

/-- The message of a value that gives no list of fields. -/
def FieldsError.message : FieldsError → String
  | notIterable kind => "'" ++ kind ++ "' object is not iterable"
  | overflow cause => cause.message

/-- Reads fields from any value.  The items of a list that are no objects are passed over, and so
are the characters of a string and the keys of an object, which leaves no fields. -/
def Field.readList : Json → Except FieldsError (List Field)
  | .arr items => (Field.ofItems items).mapError .overflow
  | .str _ | .obj _ => .ok []
  | value => .error (.notIterable value.kind)

end Enrolment
