/-
The plan of a field: all that the widget needs to show it and to check its answer.
-/
import Enrolment.Form.Control

namespace Enrolment

/-- What the widget is told about a field. -/
structure Plan where
  index : Int
  control : Control
  inputType : Option String
  label : String
  shownLabel : String
  key : String
  filePart : Option String
  placeholder : String
  required : Bool
  isEmail : Bool
  needsCountry : Bool
  typeRule : Option Rule
  labelRule : Option Rule
  choices : List Choice
  labelStyle : String
  controlStyle : String
deriving DecidableEq

/-- The plan of the field at a position.  A state field has to know whether the form also has a
country field that it should wait for. -/
def Field.plan (field : Field) (index : Int) (needsCountry : Bool) : Plan where
  index
  control := field.control
  inputType := if field.control = .input then some field.inputType else none
  label := field.label
  shownLabel := field.shownLabel
  key := field.key index
  filePart := if field.control = .file then some (field.filePart index) else none
  placeholder := field.placeholder
  required := field.required
  isEmail := field.type = .email
  needsCountry := field.control = .stateControl && needsCountry
  typeRule := field.typeRule?
  labelRule := field.labelRule?
  choices := field.choices
  labelStyle := field.labelStyle
  controlStyle := field.controlStyle

/-- The wire form of a plan. -/
def Plan.toWire (plan : Plan) : Json :=
  .obj [
    ("index", .int plan.index),
    ("kind", .str plan.control.name),
    ("inputType", .ofText? plan.inputType),
    ("label", .str plan.label),
    ("labelText", .str plan.shownLabel),
    ("key", .str plan.key),
    ("filePart", .ofText? plan.filePart),
    ("placeholder", .str plan.placeholder),
    ("required", .bool plan.required),
    ("isEmail", .bool plan.isEmail),
    ("needsCountry", .bool plan.needsCountry),
    ("typeCheck", .ofText? (plan.typeRule.map Rule.name)),
    ("labelCheck", .ofText? (plan.labelRule.map Rule.name)),
    ("options", .arr (plan.choices.map Choice.toWire)),
    ("labelCss", .str plan.labelStyle),
    ("inputCss", .str plan.controlStyle)]

end Enrolment
