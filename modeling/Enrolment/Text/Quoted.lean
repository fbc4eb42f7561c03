/-
How a text is written inside a list or an object: between quotes, so that its ends
show.

Single quotes are used unless the text has a single quote and no double one.
`encode` writes the body for a given quote: the quote and the backslash get a
backslash, and every character that is not printable becomes an escape.
-/
import Enrolment.Text.Digit
import Enrolment.Text.Printable

namespace Enrolment.Text.Quoted

/-- The written form of one character between quotes of the given kind. -/
def encodeChar (quote : Char) (c : Char) : List Char :=
  if c = quote || c = '\\' then ['\\', c]
  else if c = '\n' then ['\\', 'n']
  else if c = '\r' then ['\\', 'r']
  else if c = '\t' then ['\\', 't']
  else if isPrintable c then [c]
  else if c.toNat < 0x100 then '\\' :: 'x' :: hexDigits 2 c.toNat
  else if c.toNat < 0x10000 then '\\' :: 'u' :: hexDigits 4 c.toNat
  else '\\' :: 'U' :: hexDigits 8 c.toNat

/-- The body of a quoted text. -/
def encode (quote : Char) (s : List Char) : List Char :=
  s.flatMap (encodeChar quote)

/-- The quote that leaves most texts without an escaped quote. -/
def quoteFor (s : List Char) : Char :=
  if s.contains '\'' && !s.contains '"' then '"' else '\''

/-- A string between quotes. -/
def render (s : String) : String :=
  let quote := quoteFor s.toList
  String.ofList (quote :: encode quote s.toList ++ [quote])

end Enrolment.Text.Quoted
