/-
The page that a preview shows: the form in its frame, as the widget would build it.
-/
import Enrolment.Form.Group
import Enrolment.Preview.Control
import Enrolment.Style.Sheet

namespace Enrolment.Preview

/-- What a preview is drawn for: the width of the screen, and the country that the visitor
chose. -/
structure View where
  mode : String
  chosen : String

namespace View

/-- The chosen country as its code is written. -/
def country (view : View) : String :=
  Text.upper (Text.trim view.chosen)

/-- Whether fields stand below one another even in pairs. -/
def isStacked (view : View) : Bool :=
  view.mode = "mobile"

end View

/-- A field with its label and the place for its error. -/
def fieldBlock (table : Place.Table) (country : String) (needsCountry : Bool)
    (errorStyle : String) (placed : Placed) : Markup :=
  let field := placed.field
  .element "div"
    [.pair "data-field-index" (String.ofList (Numeral.ofInt placed.position))]
    [.element "label" [.pair "style" field.labelStyle] [.text field.shownLabel],
      control field placed.position table country needsCountry,
      .element "div" [.pair "class" "cs-error", .pair "style" errorStyle] []]

/-- The blocks of a row; a pair stands side by side unless fields are stacked. -/
def row (block : Placed → Markup) (stacked : Bool) (group : Group) : List Markup :=
  let blocks := group.members.map block
  if group.isPaired && !stacked then [.element "div" [.pair "class" "cs-row-group"] blocks]
  else blocks

/-- What stands in the form: its rows, the place for its error, and a button if it has fields. -/
def formBody (fields : List Field) (table : Place.Table) (view : View) (look : Look)
    (frame : Style.Frame) : List Markup :=
  let block := fieldBlock table view.country (Field.anyCountry fields) frame.error
  (Form.groups fields).flatMap (row block view.isStacked) ++
    [.element "div" [.pair "class" "cs-form-error", .pair "role" "alert",
      .pair "style" frame.error] []] ++
    if fields.isEmpty then []
    else [.element "button" [.pair "type" "submit", .pair "style" frame.button]
      [.text look.buttonText]]

/-- The form under its headings. -/
def card (fields : List Field) (table : Place.Table) (view : View) (look : Look)
    (frame : Style.Frame) : Markup :=
  .element "div" [.pair "style" frame.card] [
    .element "h1" [.pair "style" frame.title] [.text look.title],
    .element "p" [.pair "style" frame.subtitle] [.text look.subtitle],
    .element "form" [.flag "novalidate", .pair "style" frame.form]
      (formBody fields table view look frame)]

/-- The picture beside the form, in the split layout. -/
def aside (look : Look) (frame : Style.Frame) : List Markup :=
  if look.layout = .split then
    let accent := if look.splitImageUrl ≠ "" then frame.overlay else frame.orb
    [.element "div" [.pair "style" frame.aside] [.element "div" [.pair "style" accent] []]]
  else []

/-- The document of a preview. -/
def document (fields : List Field) (theme : Theme) (table : Place.Table) (view : View) :
    Markup :=
  let look := theme.look
  let frame := Style.frame look
  .element "html" [] [
    .element "head" [] [.styleSheet (Style.sheet look)],
    .element "body" [.pair "style" frame.body] [
      .element "div" [.pair "style" frame.page] (
        aside look frame ++
        [.element "div" [.pair "id" ("preview-" ++ view.mode), .pair "style" frame.root]
          [card fields table view look frame]])]]

/-- The text of a preview. -/
def html (fields : List Field) (theme : Theme) (table : Place.Table) (view : View) :
    String :=
  Markup.renderDocument (document fields theme table view)

/-- The text of a preview of whatever was given as fields and theme. -/
def ofValues (fields theme : Json) (table : Place.Table) (view : View) :
    Except FieldsError String := do
  let fields ← Field.readList fields
  let theme ← (Theme.read theme).mapError .overflow
  return html fields theme table view

end Enrolment.Preview
