/-
Numbers typed as text.

A numeral may stand between blanks, be signed, use the decimal digits of any
script and set single underscores between digits.  `bare` removes all of that but
the sign; `integer?` and `binary64?` read what is left.  An integer has at most
4300 digits.
-/
import Enrolment.Number.Binary64
import Enrolment.Text.Blank
import Enrolment.Text.Case
import Enrolment.Text.Digit

namespace Enrolment.Numeral

/-- The blanks allowed around a numeral: all but the information separators. -/
def isMargin (c : Char) : Bool :=
  Text.isBlank c && !(28 ≤ c.toNat && c.toNat ≤ 31)

/-- A decimal digit of any script as the ASCII digit of its value; other characters stay. -/
def plainDigit (c : Char) : Char :=
  match Text.digit? c with
  | some value => Char.ofNat (48 + value)
  | none => c

/-- Removes the underscores of a text that continues `previous`; none if one of them does not
stand between two digits. -/
def joinDigits (previous : Char) : List Char → Option (List Char)
  | [] => if previous = '_' then none else some []
  | c :: rest =>
    if c = '_' then
      if Text.isAsciiDigit previous then joinDigits c rest else none
    else if previous = '_' && !Text.isAsciiDigit c then none
    else (joinDigits c rest).map (c :: ·)

/-- A numeral without its margins and underscores, in ASCII digits. -/
def bare (s : List Char) : Option (List Char) :=
  joinDigits ' ' ((Text.dropEnd isMargin (s.dropWhile isMargin)).map plainDigit)

/-- Whether a numeral is negative, and what follows its sign. -/
def sign : List Char → Bool × List Char
  | '-' :: rest => (true, rest)
  | '+' :: rest => (false, rest)
  | s => (false, s)

/-- The value of ASCII digits that continue the number `start`. -/
def valueFrom (start : Nat) (digits : List Char) : Nat :=
  digits.foldl (fun n c => 10 * n + (c.toNat - 48)) start

/-- The value of ASCII digits. -/
def value (digits : List Char) : Nat :=
  valueFrom 0 digits

/-- The numeral of an integer: its digits, after a minus sign if it is negative. -/
def ofInt (n : Int) : List Char :=
  if n < 0 then '-' :: Nat.toDigits 10 n.natAbs else Nat.toDigits 10 n.natAbs

/-- Most digits an integer may have. -/
def maxDigits : Nat := 4300

/-- The integer that a text spells. -/
def integer? (s : List Char) : Option Int := do
  let (negative, digits) := sign (← bare s)
  if digits.isEmpty || !digits.all Text.isAsciiDigit || digits.length > maxDigits then none
  else some (if negative then -(value digits : Int) else value digits)

/-- The exponent part of a decimal; zero if there is none. -/
def exponent? : List Char → Option Int
  | [] => some 0
  | c :: rest =>
    let (negative, digits) := sign rest
    if (c = 'e' || c = 'E') && !digits.isEmpty && digits.all Text.isAsciiDigit then
      some (if negative then -(value digits : Int) else value digits)
    else none

/-- Digits with an optional point among them and an optional exponent, with the given sign. -/
def decimal? (negative : Bool) (s : List Char) : Option Binary64 := do
  let whole := s.takeWhile Text.isAsciiDigit
  let rest := s.dropWhile Text.isAsciiDigit
  let (part, rest) := match rest with
    | '.' :: rest => (rest.takeWhile Text.isAsciiDigit, rest.dropWhile Text.isAsciiDigit)
    | rest => ([], rest)
  let exponent ← exponent? rest
  if whole.isEmpty && part.isEmpty then none
  else some (.ofDecimal negative (valueFrom (value whole) part) (exponent - part.length))

/-- The binary64 number nearest to what a text spells; infinities and "not a number" may be
spelled in letters of either case. -/
def binary64? (s : List Char) : Option Binary64 := do
  let (negative, body) := sign (← bare s)
  let name := String.ofList (body.map Text.asciiLower)
  if name = "inf" || name = "infinity" then some (.infinite negative)
  else if name = "nan" then some .nan
  else decimal? negative body

end Enrolment.Numeral
