/-
Reading JSON text.

Members keep the order in which they are first written, and a key that is written
again takes the later value.  A number with a point or an exponent is a binary64
number, any other one an integer of any size.  Escapes of surrogates must come in
pairs.

Every call of the mutual readers consumes a character or hands a shorter task on,
so the length of the text bounds their depth; `read?` supplies it.
-/
import Enrolment.Json.Basic
import Enrolment.Number.Numeral

namespace Enrolment.Json

/-- The blanks that may stand between tokens. -/
def isSpace (c : Char) : Bool :=
  c = ' ' || c = '\n' || c = '\r' || c = '\t'

/-- What follows the blanks in front. -/
def skip (s : List Char) : List Char :=
  s.dropWhile isSpace

/-- The UTF-16 unit that four hexadecimal digits spell. -/
def unit? (a b c d : Char) : Option Nat := do
  let a ← Text.hexDigit? a
  let b ← Text.hexDigit? b
  let c ← Text.hexDigit? c
  let d ← Text.hexDigit? d
  some (((a * 16 + b) * 16 + c) * 16 + d)

/-- The character of a UTF-16 unit that is not a surrogate. -/
def plainUnit? (unit : Nat) : Option Char :=
  if 0xD800 ≤ unit && unit < 0xE000 then none else some (Char.ofNat unit)

/-- The character of a pair of surrogates. -/
def surrogatePair? (high low : Nat) : Option Char :=
  if 0xD800 ≤ high && high < 0xDC00 && 0xDC00 ≤ low && low < 0xE000 then
    some (Char.ofNat (0x10000 + (high - 0xD800) * 0x400 + (low - 0xDC00)))
  else none

/-- The character of an escape by a single letter or mark. -/
def escaped? : Char → Option Char
  | '"' => some '"'
  | '\\' => some '\\'
  | '/' => some '/'
  | 'b' => some '\x08'
  | 'f' => some '\x0c'
  | 'n' => some '\n'
  | 'r' => some '\r'
  | 't' => some '\t'
  | _ => none

/-- Puts a character in front of what was read. -/
def push (c : Char) (reading : Option (List Char × List Char)) :
    Option (List Char × List Char) :=
  reading.map fun (body, rest) => (c :: body, rest)

/-- The body of a string up to its closing quote, and what follows the quote. -/
def readChars : List Char → Option (List Char × List Char)
  | [] => none
  | '"' :: rest => some ([], rest)
  | '\\' :: 'u' :: a :: b :: c :: d :: '\\' :: 'u' :: e :: f :: g :: h :: rest =>
    match unit? a b c d with
    | none => none
    | some high =>
      match plainUnit? high with
      | some char => push char (readChars ('\\' :: 'u' :: e :: f :: g :: h :: rest))
      | none =>
        match (unit? e f g h).bind (surrogatePair? high) with
        | some char => push char (readChars rest)
        | none => none
  | '\\' :: 'u' :: a :: b :: c :: d :: rest =>
    match (unit? a b c d).bind plainUnit? with
    | some char => push char (readChars rest)
    | none => none
  | '\\' :: mark :: rest =>
    match escaped? mark with
    | some char => push char (readChars rest)
    | none => none
  | c :: rest => if c = '\\' || c.toNat < 32 then none else push c (readChars rest)

/-- The digits in front of a text, and what follows them. -/
def spanDigits (s : List Char) : List Char × List Char :=
  (s.takeWhile Text.isAsciiDigit, s.dropWhile Text.isAsciiDigit)

/-- The fraction of a number behind its point; none without a point. -/
def readFraction (s : List Char) : Option (List Char) × List Char :=
  match s with
  | '.' :: rest => (some (spanDigits rest).1, (spanDigits rest).2)
  | _ => (none, s)

/-- The exponent of a number; none without one. -/
def readExponent (s : List Char) : Option (Bool × List Char) × List Char :=
  match s with
  | c :: rest =>
    if c = 'e' || c = 'E' then
      let (negative, rest) := Numeral.sign rest
      (some (negative, (spanDigits rest).1), (spanDigits rest).2)
    else (none, s)
  | [] => (none, [])

/-- Reads a number behind its minus sign. -/
def readSize (negative : Bool) (s : List Char) : Option (Json × List Char) :=
  let (whole, rest) := spanDigits s
  if whole.isEmpty || (whole.head? = some '0' && whole.length ≠ 1) then none
  else
    let (fraction, rest) := readFraction rest
    let (exponent, rest) := readExponent rest
    match fraction, exponent with
    | none, none =>
      let size : Int := Numeral.value whole
      some (int (if negative then -size else size), rest)
    | _, _ =>
      let part := fraction.getD []
      let (down, digits) := exponent.getD (false, ['0'])
      if fraction = some [] || digits.isEmpty then none
      else
        let shift : Int := Numeral.value digits
        some (num (.ofDecimal negative (Numeral.valueFrom (Numeral.value whole) part)
          ((if down then -shift else shift) - part.length)), rest)

/-- Reads a number or one of the names of the numbers that are not finite. -/
def readNumber (s : List Char) : Option (Json × List Char) :=
  match s with
  | 'N' :: 'a' :: 'N' :: rest => some (num .nan, rest)
  | 'I' :: 'n' :: 'f' :: 'i' :: 'n' :: 'i' :: 't' :: 'y' :: rest =>
    some (num (.infinite false), rest)
  | '-' :: 'I' :: 'n' :: 'f' :: 'i' :: 'n' :: 'i' :: 't' :: 'y' :: rest =>
    some (num (.infinite true), rest)
  | '-' :: rest => readSize true rest
  | _ => readSize false s

mutual

/-- Reads a value at the front of a text. -/
def readValue : Nat → List Char → Option (Json × List Char)
  | 0, _ => none
  | depth + 1, s =>
    match s with
    | 'n' :: 'u' :: 'l' :: 'l' :: rest => some (null, rest)
    | 't' :: 'r' :: 'u' :: 'e' :: rest => some (bool true, rest)
    | 'f' :: 'a' :: 'l' :: 's' :: 'e' :: rest => some (bool false, rest)
    | '"' :: rest => (readChars rest).map fun (body, rest) => (str (String.ofList body), rest)
    | '[' :: rest =>
      match skip rest with
      | ']' :: rest => some (arr [], rest)
      | rest => (readItems depth rest).map fun (items, rest) => (arr items, rest)
    | '\x7b' :: rest =>
      match skip rest with
      | '\x7d' :: rest => some (obj [], rest)
      | rest => (readMembers depth [] rest).map fun (members, rest) => (obj members, rest)
    | _ => readNumber s

/-- Reads the items of a list up to its closing bracket. -/
def readItems : Nat → List Char → Option (List Json × List Char)
  | 0, _ => none
  | depth + 1, s =>
    match readValue depth (skip s) with
    | none => none
    | some (item, rest) =>
      match skip rest with
      | ',' :: rest => (readItems depth rest).map fun (items, rest) => (item :: items, rest)
      | ']' :: rest => some ([item], rest)
      | _ => none

/-- Reads members up to the closing brace and puts them behind those already read. -/
def readMembers : Nat → Members → List Char → Option (Members × List Char)
  | 0, _, _ => none
  | depth + 1, members, s =>
    match skip s with
    | '"' :: rest =>
      match readChars rest with
      | none => none
      | some (key, rest) =>
        match skip rest with
        | ':' :: rest =>
          match readValue depth (skip rest) with
          | none => none
          | some (value, rest) =>
            let members := members.put (String.ofList key) value
            match skip rest with
            | ',' :: rest => readMembers depth members rest
            | '\x7d' :: rest => some (members, rest)
            | _ => none
        | _ => none
    | _ => none

end

/-- The value that a whole text spells. -/
def read? (s : List Char) : Option Json :=
  match readValue (s.length + 1) (skip s) with
  | some (value, rest) => if (skip rest).isEmpty then some value else none
  | none => none

end Enrolment.Json
