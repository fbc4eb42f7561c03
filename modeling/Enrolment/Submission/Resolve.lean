/-
Showing a submitted value by the label that it was chosen by.

A country shows its name and a state the name of its region, which is looked for in
the country that was submitted beside it, or else in all countries.  A choice shows
its label, and a box that was ticked shows what was ticked.  What cannot be resolved
is shown as it was submitted.
-/
import Enrolment.Form.Control
import Enrolment.Place.Table
import Enrolment.Submission.Match

namespace Enrolment.Resolve

/-- What a value is resolved among: the countries, the answers beside it, and the fields of the
form if they are known. -/
structure Context where
  table : Place.Table
  siblings : Members
  fields : Option (List Field)

namespace Context

/-- Whether the answer under a key is a country: by the field that it belongs to, or by the key
itself if the fields are not known. -/
def isCountryKey (context : Context) (key : String) : Bool :=
  match context.fields with
  | none => Key.hintsAt key .country
  | some fields => (Match.field? key fields).any (·.field.role = some .country)

/-- The country that an answer names by code or by name. -/
def countryOf? (context : Context) (answer : Json) : Option Country :=
  let key := Text.trim answer.display
  (context.table.country? key).or (context.table.countryNamed? key)

/-- The code of the country among the answers. -/
def siblingCode? (context : Context) : Option String :=
  context.siblings.findSome? fun (key, answer) =>
    if context.isCountryKey key then (context.countryOf? answer).map (·.code) else none

end Context

/-- Whether two texts are equal but for case and the blanks around them. -/
def sameText (a b : String) : Bool :=
  Text.lower (Text.trim a) = Text.lower (Text.trim b)

/-- The label of the choice with a value, or else with a label. -/
def choiceLabel? (choices : List Choice) (raw : String) : Option String :=
  ((choices.find? fun choice => sameText choice.value raw).or
    (choices.find? fun choice => sameText choice.label raw)).map (·.label)

/-- Whether a text is one that a ticked box submits. -/
def isTicked (raw : String) : Bool :=
  ["true", "on", "yes", "1"].contains (Text.lower (Text.trim raw))

/-- What a ticked box shows: its first choice, or its label. -/
def tickedLabel (field : Field) (raw : String) : String :=
  match field.choices with
  | choice :: _ => choice.label
  | [] => if field.label = "" then raw else field.label

/-- How the text submitted for a country field is shown. -/
def country (context : Context) (raw : String) : String :=
  match context.table.country? (Text.trim raw) with
  | some country => if country.name = "" then raw else country.name
  | none => raw

/-- How the text submitted for a state field is shown. -/
def state (context : Context) (raw : String) : String :=
  let region := match context.siblingCode? with
    | some code => context.table.region? code raw
    | none => context.table.regionAnywhere? raw
  match region with
  | some region => region.name
  | none => raw

/-- How the text submitted for any other field is shown. -/
def ordinary (field : Field) (raw : String) : String :=
  let hasChoices := field.type = .select || field.type = .radio || field.type = .checkbox
  match if hasChoices then choiceLabel? field.choices raw else none with
  | some label => label
  | none => if field.type = .checkbox && isTicked raw then tickedLabel field raw else raw

/-- How a single value is shown. -/
def scalar (context : Context) (field : Field) (value : Json) : String :=
  if field.role = some .country then country context value.display
  else if field.role = some .state then state context value.display
  else ordinary field value.display

/-- How a value is shown; the items of a list are resolved one by one. -/
def value (context : Context) (field : Field) : Json → String
  | .arr items => ", ".intercalate (items.map (scalar context field))
  | value => scalar context field value

end Enrolment.Resolve
