/-
Style declarations, and the two forms of value that need care.

A size that is a bare number is in pixels.  A URL stands between double quotes,
with a backslash before each double quote and backslash of its own.
-/
import Enrolment.Text.Digit

namespace Enrolment.Style

/-- A property and its value. -/
abbrev Declaration := String × String

/-- Declarations in the form of a style attribute. -/
def inline (declarations : List Declaration) : String :=
  ";".intercalate (declarations.map fun (property, value) => property ++ ":" ++ value)

/-- Whether a text is digits, perhaps with a point and more digits; one line break behind them
does not count. -/
def isBareNumber (s : List Char) : Bool :=
  let line := if s.getLast? = some '\n' then s.dropLast else s
  let whole := line.takeWhile Text.isAsciiDigit
  !whole.isEmpty && match line.dropWhile Text.isAsciiDigit with
    | [] => true
    | '.' :: part => !part.isEmpty && part.all Text.isAsciiDigit
    | _ => false

/-- A size with its unit. -/
def size (value : String) : String :=
  if isBareNumber value.toList then value ++ "px" else value

/-- The body of a quoted URL. -/
def quoteUrl (s : List Char) : List Char :=
  s.flatMap fun c => if c = '"' || c = '\\' then ['\\', c] else [c]

/-- A URL as the value of a property. -/
def url (address : String) : String :=
  "url(\"" ++ String.ofList (quoteUrl address.toList) ++ "\")"

end Enrolment.Style
