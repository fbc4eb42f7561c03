/-
The controls of a preview.

They are the elements that the widget builds, in the state that they have for the
chosen country and before anything is typed.
-/
import Enrolment.Form.Control
import Enrolment.Form.Wording
import Enrolment.Markup.Tree
import Enrolment.Place.Table

namespace Enrolment.Preview

/-- An entry of a list to choose from. -/
def option (value text : String) (selected : Bool) : Markup :=
  .element "option" (.pair "value" value :: if selected then [.flag "selected"] else [])
    [.text text]

/-- The first entry of a list, for no choice. -/
def blankOption (text : String) : Markup :=
  option "" text false

/-- The attributes that most controls share. -/
def commonAttributes (field : Field) (index : Int) : List Attribute :=
  [.pair "name" (field.key index), .pair "aria-label" field.label,
    .pair "style" field.controlStyle]

/-- The list of countries, with the chosen one selected. -/
def countrySelect (field : Field) (index : Int) (table : Place.Table) (chosen : String) :
    Markup :=
  .element "select" (commonAttributes field index) (
    blankOption Wording.countryPlaceholder ::
      table.countries.map fun country =>
        option country.code country.name (country.code = chosen))

/-- The control of a state field: the regions of the chosen country, or a text input. -/
def stateControl (field : Field) (index : Int) (table : Place.Table) (chosen : String)
    (needsCountry : Bool) : Markup :=
  let regions := if chosen = "" then [] else table.regions chosen
  match StateMode.of (!regions.isEmpty) (chosen ≠ "") needsCountry with
  | .select =>
    .element "select" (commonAttributes field index) (
      blankOption Wording.statePlaceholder ::
        regions.map fun region => option region.optionValue region.name false)
  | .locked =>
    .void "input" ([.pair "type" "text", .pair "placeholder" Wording.stateNeedsCountry,
      .flag "disabled"] ++ commonAttributes field index)
  | .freeText =>
    .void "input" ([.pair "type" "text", .pair "placeholder" Wording.stateFreeText] ++
      commonAttributes field index)

/-- The list of a field's choices. -/
def choiceSelect (field : Field) (index : Int) : Markup :=
  .element "select" (commonAttributes field index) (
    blankOption Wording.optionPlaceholder ::
      field.choices.map fun choice => option choice.value choice.label false)

/-- One choice with a button or box to tick. -/
def choiceLine (type : String) (index : Int) (choice : Choice) : Markup :=
  .element "label" [.pair "class" "cs-choice"] [
    .void "input" [.pair "type" type,
      .pair "name" ("cs-field-" ++ String.ofList (Numeral.ofInt index)),
      .pair "value" choice.value],
    .element "span" [] [.text choice.label]]

/-- A field's choices with buttons or boxes to tick. -/
def choiceLines (field : Field) (index : Int) (role type : String) : Markup :=
  .element "div" [.pair "role" role, .pair "aria-label" field.label]
    (field.choices.map (choiceLine type index))

/-- The control of a field. -/
def control (field : Field) (index : Int) (table : Place.Table) (chosen : String)
    (needsCountry : Bool) : Markup :=
  let placeholder : Attribute := .pair "placeholder" field.placeholder
  let common := commonAttributes field index
  match field.control with
  | .countrySelect => countrySelect field index table chosen
  | .stateControl => stateControl field index table chosen needsCountry
  | .textarea => .element "textarea" (.pair "rows" "3" :: placeholder :: common) []
  | .select => choiceSelect field index
  | .radio => choiceLines field index "radiogroup" "radio"
  | .checkboxGroup => choiceLines field index "group" "checkbox"
  | .checkbox =>
    .void "input" [.pair "type" "checkbox", .pair "name" (field.key index),
      .pair "aria-label" field.label]
  | .file => .void "input" (.pair "type" "file" :: common)
  | .input => .void "input" (.pair "type" field.inputType :: placeholder :: common)

end Enrolment.Preview
