/-
How a field is shown: its control, its keys and its styles.

The role decides before the type: a country field is a list of countries whatever
its type, and a state field is a list of regions or a text input as the chosen
country has regions or not.
-/
import Enrolment.Form.Field
import Enrolment.Form.Rule
import Enrolment.Style.Declaration
import Enrolment.Text.Percent

namespace Enrolment

/-- The kinds of control. -/
inductive Control where
  | countrySelect | stateControl | textarea | select | radio | checkboxGroup | checkbox | file
  | input
deriving DecidableEq

/-- The name of a control. -/
def Control.name : Control → String
  | countrySelect => "country_select"
  | stateControl => "state_control"
  | textarea => "textarea"
  | select => "select"
  | radio => "radio"
  | checkboxGroup => "checkbox_group"
  | checkbox => "checkbox"
  | file => "file"
  | input => "input"

/-- How a state field is shown. -/
inductive StateMode where
  | select | locked | freeText
deriving DecidableEq

/-- The name of a mode. -/
def StateMode.name : StateMode → String
  | select => "select"
  | locked => "locked"
  | freeText => "free_text"

/-- A list when there are regions to choose from.  Otherwise a text input, which is locked as long
as the form has a country field and no country is chosen. -/
def StateMode.of (hasRegions countryChosen needsCountry : Bool) : StateMode :=
  if hasRegions then select
  else if needsCountry && !countryChosen then locked
  else freeText

namespace Field

/-- The control of a field. -/
def control (field : Field) : Control :=
  match field.role, field.type with
  | some .country, _ => .countrySelect
  | some .state, _ => .stateControl
  | _, .textarea => .textarea
  | _, .select => .select
  | _, .radio => .radio
  | _, .checkbox => if field.choices.isEmpty then .checkbox else .checkboxGroup
  | _, .file => .file
  | _, _ => .input

/-- The type of a field's input element. -/
def inputType (field : Field) : String :=
  if field.type = .phone then "tel"
  else if field.role = some .password then "password"
  else field.type.name

/-- A field's label, or its number behind a word if it has none. -/
def labelOr (field : Field) (word : String) (index : Int) : String :=
  if field.label = "" then word ++ " " ++ String.ofList (Numeral.ofInt (index + 1))
  else field.label

theorem labelOr_of_label {field : Field} (h : field.label ≠ "") (word : String) (index : Int) :
    field.labelOr word index = field.label :=
  if_neg h

/-- The key under which a field's answer is submitted: its label, or else its number. -/
def key (field : Field) (index : Int) : String :=
  field.labelOr "Field" index

/-- The name of the part in which a field's file is submitted. -/
def filePart (field : Field) (index : Int) : String :=
  "file__" ++ String.ofList (Text.Percent.encode (field.labelOr "File" index))

/-- The label as it is shown, with a star if an answer is required. -/
def shownLabel (field : Field) : String :=
  field.label ++ if field.required then " *" else ""

/-- The rule of a field's type. -/
def typeRule? (field : Field) : Option Rule :=
  match field.type with
  | .email => some .email
  | .url => some .url
  | .number => some .number
  | .phone => some .phone
  | _ => none

/-- The rule that a field's label suggests.  A label such as "Contact preference" suggests the
rule for phone numbers. -/
def labelRule? (field : Field) : Option Rule :=
  let mentionsAny (words : List String) := words.any (Text.mentions field.label)
  if mentionsAny ["password"] then some .password
  else if field.type ≠ .phone && mentionsAny ["phone", "mobile", "contact"] then some .phone
  else if mentionsAny ["zip", "postal"] then some .postal
  else none

/-- The styles of a field's label. -/
def labelStyle (field : Field) : String :=
  let style := field.style
  Style.inline (
    (style.labelColor.map fun v => ("color", v)).toList ++
    (style.labelSize.map fun v => ("font-size", Style.size v)).toList ++
    (style.labelWeight.map fun v => ("font-weight", v)).toList ++
    [("display", "block"), ("margin-bottom", "6px")])

/-- The styles of a field's control. -/
def controlStyle (field : Field) : String :=
  let style := field.style
  Style.inline [
    ("border-color", style.borderColor.getD "#e5e7eb"),
    ("border-width", Style.size (style.borderWidth.getD "1")),
    ("border-style", "solid"),
    ("border-radius", Style.size (style.borderRadius.getD "10")),
    ("background-color", style.background.getD "#fff"),
    ("padding", Style.size (style.padding.getD "12")),
    ("font-size", Style.size (style.fontSize.getD "14")),
    ("color", style.textColor.getD "#0f172a"),
    ("width", "100%"),
    ("outline", "none")]

/-- Whether one of the fields is a choice of countries. -/
def anyCountry (fields : List Field) : Bool :=
  fields.any (·.control = .countrySelect)

end Field

end Enrolment
