/-
JSON values.

Integers are kept apart from numbers with a fraction or an exponent, and an
object is the list of its members in the order in which they were written.  Keys
of an object are expected to be distinct; `put` keeps them so, and `get?` looks
at the first member of a key.

Texts are sequences of Unicode scalar values.  So no value has a lone surrogate in
it, which is half of a character and has no bytes in UTF-8.
-/
import Enrolment.Number.Binary64

namespace Enrolment

/-- A JSON value. -/
inductive Json where
  | null
  | bool (value : Bool)
  | int (value : Int)
  | num (value : Binary64)
  | str (value : String)
  | arr (items : List Json)
  | obj (members : List (String × Json))

/-- The members of an object, in order. -/
abbrev Members := List (String × Json)

namespace Members

/-- The value of a key. -/
def get? (members : Members) (key : String) : Option Json :=
  List.lookup key members

/-- Sets the value of a key: in its place if the key is there, else at the end. -/
def put (members : Members) (key : String) (value : Json) : Members :=
  match members with
  | [] => [(key, value)]
  | (k, v) :: rest => if k = key then (k, value) :: rest else (k, v) :: put rest key value

/-- The value of the first of two keys that is there. -/
def either? (members : Members) (key other : String) : Option Json :=
  (members.get? key).or (members.get? other)

/-- The one of two keys by which `either?` finds a value. -/
def spelling (members : Members) (key other : String) : String :=
  if (members.get? key).isSome then key else other

end Members

namespace Json

instance : Inhabited Json := ⟨null⟩

/-- The members of an object; other values have none. -/
def members : Json → Members
  | obj members => members
  | _ => []

/-- Whether a value is an object. -/
def isObject : Json → Bool
  | obj _ => true
  | _ => false

/-- Whether a value counts as present and true: not null, not `false`, not a zero, not empty. -/
def isTruthy : Json → Bool
  | null => false
  | bool value => value
  | int value => value != 0
  | num value => !value.isZero
  | str value => value != ""
  | arr items => !items.isEmpty
  | obj members => !members.isEmpty

/-- What a value is called in messages. -/
def kind : Json → String
  | null => "NoneType"
  | bool _ => "bool"
  | int _ => "int"
  | num _ => "float"
  | str _ => "str"
  | arr _ => "list"
  | obj _ => "dict"

/-- A string, or null for none. -/
def ofText? : Option String → Json
  | none => null
  | some text => str text

/-- An integer, or null for none. -/
def ofInt? : Option Int → Json
  | none => null
  | some value => int value

/-- The members whose value is not null. -/
def present (members : Members) : Members :=
  members.filter fun (_, value) => match value with
    | null => false
    | _ => true

end Json

end Enrolment
