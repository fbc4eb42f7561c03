/-
The written form of a JSON value that is embedded in a script.

It is compact, one line of printable ASCII, and inert in markup: neither `</` nor
`<!--` occurs in it.  All characters outside ASCII and all controls are escapes of
their UTF-16 units, and inside a string a slash after `<` is written `\/` and the
exclamation mark of `<!--` is written as an escape.
-/
import Enrolment.Json.Basic
import Enrolment.Number.Numeral
import Enrolment.Number.Shortest
import Enrolment.Text.Digit

namespace Enrolment.Json

/-- The escape of one UTF-16 unit. -/
def writeUnit (unit : Nat) : List Char :=
  '\\' :: 'u' :: Text.hexDigits 4 unit

/-- The written form of a character inside a string. -/
def writeChar (c : Char) : List Char :=
  if c = '"' then ['\\', '"']
  else if c = '\\' then ['\\', '\\']
  else if c = '\n' then ['\\', 'n']
  else if c = '\r' then ['\\', 'r']
  else if c = '\t' then ['\\', 't']
  else if c = '\x08' then ['\\', 'b']
  else if c = '\x0c' then ['\\', 'f']
  else if 32 ≤ c.toNat && c.toNat < 127 then [c]
  else if c.toNat < 0x10000 then writeUnit c.toNat
  else
    writeUnit (0xD800 + (c.toNat - 0x10000) / 0x400) ++
      writeUnit (0xDC00 + (c.toNat - 0x10000) % 0x400)

/-- The body of a written string. -/
def writeChars : List Char → List Char
  | '<' :: '/' :: rest => '<' :: '\\' :: '/' :: writeChars rest
  | '<' :: '!' :: '-' :: '-' :: rest =>
    '<' :: (writeUnit 0x21 ++ '-' :: '-' :: writeChars rest)
  | c :: rest => writeChar c ++ writeChars rest
  | [] => []

/-- A written string. -/
def writeText (s : String) : List Char :=
  '"' :: (writeChars s.toList ++ ['"'])

/-- A written binary64 number; infinities and "not a number" have names. -/
def writeNumber : Binary64 → List Char
  | .nan => "NaN".toList
  | .infinite negative => if negative then "-Infinity".toList else "Infinity".toList
  | x => x.text.toList

mutual

/-- The compact written form of a value, given how its strings are written. -/
def writeWith (text : String → List Char) : Json → List Char
  | null => "null".toList
  | bool true => "true".toList
  | bool false => "false".toList
  | int value => Numeral.ofInt value
  | num value => writeNumber value
  | str value => text value
  | arr items => '[' :: (writeItemsWith text items ++ [']'])
  | obj members => '\x7b' :: (writeMembersWith text members ++ ['\x7d'])

/-- The items of a list, with commas between. -/
def writeItemsWith (text : String → List Char) : List Json → List Char
  | [] => []
  | [item] => writeWith text item
  | item :: rest => writeWith text item ++ ',' :: writeItemsWith text rest

/-- The members of an object, with commas between. -/
def writeMembersWith (text : String → List Char) : List (String × Json) → List Char
  | [] => []
  | [(key, value)] => text key ++ ':' :: writeWith text value
  | (key, value) :: rest =>
    text key ++ ':' :: (writeWith text value ++ ',' :: writeMembersWith text rest)

end

section

variable (text : String → List Char)

theorem writeWith_null : writeWith text null = ['n', 'u', 'l', 'l'] := rfl

theorem writeWith_true : writeWith text (bool true) = ['t', 'r', 'u', 'e'] := rfl

theorem writeWith_false : writeWith text (bool false) = ['f', 'a', 'l', 's', 'e'] := rfl

theorem writeWith_int (n : Int) : writeWith text (int n) = Numeral.ofInt n := rfl

theorem writeWith_str (s : String) : writeWith text (str s) = text s := rfl

theorem writeWith_arr (items : List Json) :
    writeWith text (arr items) = '[' :: (writeItemsWith text items ++ [']']) := rfl

theorem writeWith_obj (members : Members) :
    writeWith text (obj members) = '\x7b' :: (writeMembersWith text members ++ ['\x7d']) := rfl

theorem writeItemsWith_singleton (item : Json) :
    writeItemsWith text [item] = writeWith text item := rfl

theorem writeItemsWith_cons_cons (item next : Json) (items : List Json) :
    writeItemsWith text (item :: next :: items) =
      writeWith text item ++ ',' :: writeItemsWith text (next :: items) := rfl

theorem writeMembersWith_singleton (key : String) (value : Json) :
    writeMembersWith text [(key, value)] = text key ++ ':' :: writeWith text value := rfl

theorem writeMembersWith_cons_cons (key : String) (value : Json) (next : String × Json)
    (members : Members) :
    writeMembersWith text ((key, value) :: next :: members) =
      text key ++ ':' :: (writeWith text value ++ ',' :: writeMembersWith text (next :: members)) :=
  rfl

end

/-- The written form of a value. -/
def write (value : Json) : List Char :=
  writeWith writeText value

end Enrolment.Json
