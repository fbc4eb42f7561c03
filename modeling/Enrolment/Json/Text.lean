/-
The text of a value.

`text` writes any value: a string as it is, a list or an object with its strings
quoted.  Where people read or type values, three variants of it are in use.  All
of them write a whole number without a point; they differ in the words for the
truth values and in what null becomes:

    caption?  none for null   true, false
    display   ""   for null   true, false
    entry     ""   for null   True, False
-/
import Enrolment.Json.Basic
import Enrolment.Number.Numeral
import Enrolment.Number.Shortest
import Enrolment.Text.Quoted

namespace Enrolment.Json

mutual

/-- The text of a value inside a list or an object. -/
def quoted : Json → String
  | null => "None"
  | bool true => "True"
  | bool false => "False"
  | int value => String.ofList (Numeral.ofInt value)
  | num value => value.text
  | str value => Text.Quoted.render value
  | arr items => "[" ++ ", ".intercalate (quotedItems items) ++ "]"
  | obj members => "\x7b" ++ ", ".intercalate (quotedMembers members) ++ "\x7d"

/-- The texts of a list's items. -/
def quotedItems : List Json → List String
  | [] => []
  | item :: rest => quoted item :: quotedItems rest

/-- The texts of an object's members. -/
def quotedMembers : List (String × Json) → List String
  | [] => []
  | (key, value) :: rest =>
    (Text.Quoted.render key ++ ": " ++ quoted value) :: quotedMembers rest

end

/-- The text of a value. -/
def text : Json → String
  | str value => value
  | value => quoted value

/-- The text of a value, a whole number without its point. -/
def plain : Json → String
  | num value =>
    if value.isWhole then String.ofList (Numeral.ofInt (value.truncate?.getD 0)) else value.text
  | value => value.text

/-- The text of a value in a caption or a setting; none for null. -/
def caption? : Json → Option String
  | null => none
  | bool value => some (if value then "true" else "false")
  | value => some value.plain

/-- The text of a value in a caption or a setting; empty for null. -/
def display (value : Json) : String :=
  value.caption?.getD ""

/-- The text of a submitted value; empty for null. -/
def entry : Json → String
  | null => ""
  | value => value.plain

/-- The text of a value; empty for null. -/
def textOrEmpty : Json → String
  | null => ""
  | value => value.text

/-- The text of a value; empty for all that is not truthy. -/
def textIfTruthy (value : Json) : String :=
  if value.isTruthy then value.text else ""

end Enrolment.Json
