/-
The rows in which a submitted request is displayed.

Every answer and every upload gives one row, with the label of the field that it
belongs to.  First name, last name and email come first, then the fields in the
order of the form, then what belongs to no field; rows of the same rank keep the
order of the request, uploads last.  Passwords are left out unless they are asked
for.
-/
import Enrolment.Submission.Request
import Enrolment.Submission.Resolve

namespace Enrolment

/-- A row of a displayed request. -/
structure Row where
  label : String
  rawKey : String
  rawValue : Json
  display : String
  fieldId : Option Int
  isFile : Bool
  rank : Nat

namespace Row

/-- The rank of what belongs to no field. -/
def unmatchedRank : Nat := 999

/-- The rank of the first field of a form. -/
def firstFieldRank : Nat := 100

/-- Whether a field was found, and has a role. -/
def hasRole (placed : Option Placed) (role : Role) : Bool :=
  placed.any (·.field.role = some role)

/-- The rank of a key that belongs to a field, or to none. -/
def rankOf (key : String) (placed : Option Placed) : Nat :=
  if Key.hintsAt key .firstName || hasRole placed .firstName then 0
  else if Key.hintsAt key .lastName || hasRole placed .lastName then 1
  else if Text.lower (Text.trim key) = "email" || hasRole placed .email then 2
  else match placed with
    | some placed => placed.position + firstFieldRank
    | none => unmatchedRank

/-- Whether a key, or the field that it belongs to, is one of a password. -/
def isSensitive (key : String) (placed : Option Placed) : Bool :=
  Text.mentions key "password" || hasRole placed .password

/-- The label of a field, unless it is blank. -/
def fieldLabel? (placed : Option Placed) : Option String :=
  (placed.map (·.field.label)).filter (!Text.isBlankText ·)

/-- How a value is shown that belongs to no field with a label. -/
def plainValue : Json → String
  | .arr items => ", ".intercalate (items.map Json.display)
  | value => value.display

/-- What follows the last slash of an address, slashes at its end aside; all of it if there is
nothing else. -/
def lastSegment (address : String) : String :=
  let path := Text.dropEnd (· = '/') address.toList
  let segment := (path.reverse.takeWhile (· ≠ '/')).reverse
  if segment.isEmpty then address else String.ofList segment

/-- The row of an answer. -/
def ofAnswer (context : Resolve.Context) (fields : List Field) (key : String) (answer : Json) :
    Row :=
  let placed := Match.field? key fields
  let (label, display) := match placed, fieldLabel? placed with
    | some placed, some label => (label, Resolve.value context placed.field answer)
    | _, _ => (Key.spoken key, plainValue answer)
  { label := if label = "" then key else label
    rawKey := key
    rawValue := answer
    display
    fieldId := placed.bind (·.field.id)
    isFile := placed.any (·.field.type = .file)
    rank := rankOf key placed }

/-- The row of an upload. -/
def ofUpload (fields : List Field) (upload : Upload) : Row :=
  let placed := Match.field? upload.name fields
  { label := (fieldLabel? placed).getD (Key.spoken upload.name)
    rawKey := upload.name
    rawValue := .str upload.url
    display := if upload.url = "" then upload.name else lastSegment upload.url
    fieldId := placed.bind (·.field.id)
    isFile := true
    rank := rankOf upload.name placed }

/-- The wire form of a row. -/
def toWire (row : Row) : Json :=
  .obj [("label", .str row.label), ("rawKey", .str row.rawKey), ("rawValue", row.rawValue),
    ("displayValue", .str row.display), ("fieldId", .ofInt? row.fieldId),
    ("isFile", .bool row.isFile), ("sortOrder", .int row.rank)]

end Row

namespace Request

/-- The answers of a request that may be displayed. -/
def shownAnswers (request : Request) (fields : List Field) (includeSensitive : Bool) : Members :=
  request.data.filter fun (key, _) =>
    includeSensitive || !Row.isSensitive key (Match.field? key fields)

/-- The rows of a request in the order in which it was submitted. -/
def submittedRows (request : Request) (fields : List Field) (table : Place.Table)
    (includeSensitive : Bool) : List Row :=
  let context : Resolve.Context := ⟨table, request.data, some fields⟩
  (request.shownAnswers fields includeSensitive).map
      (fun (key, answer) => Row.ofAnswer context fields key answer) ++
    request.files.map (Row.ofUpload fields)

/-- The rows of a request in the order of their ranks. -/
def rows (request : Request) (fields : List Field) (table : Place.Table)
    (includeSensitive : Bool) : List Row :=
  (request.submittedRows fields table includeSensitive).mergeSort fun a b => a.rank ≤ b.rank

end Request

end Enrolment
