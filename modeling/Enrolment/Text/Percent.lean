/-
Percent coding of a text's UTF-8 bytes.

A byte that stands for an unreserved character is written as that character, and
every other byte as a percent sign and two capital hexadecimal digits.  `decode`
reads the written form back to bytes.
-/
import Enrolment.Text.Digit

namespace Enrolment.Text.Percent

/-- Letters, digits and the marks that need no escape in a component. -/
def isUnreserved (c : Char) : Bool :=
  isAsciiLetter c || isAsciiDigit c || ['-', '_', '.', '!', '~', '*', '\'', '(', ')'].contains c

/-- The capital hexadecimal digit of a value below sixteen. -/
def capitalHexDigit (n : Nat) : Char :=
  Char.ofNat (if n < 10 then 48 + n else 55 + n)

/-- The written form of one byte. -/
def encodeByte (b : UInt8) : List Char :=
  let c := Char.ofNat b.toNat
  if isUnreserved c then [c]
  else ['%', capitalHexDigit (b.toNat / 16), capitalHexDigit (b.toNat % 16)]

/-- The written form of a string. -/
def encode (s : String) : List Char :=
  s.toUTF8.data.toList.flatMap encodeByte

/-- The bytes of a written form; none if a percent sign is not followed by two hexadecimal
digits or a character is not ASCII. -/
def decode : List Char → Option (List UInt8)
  | [] => some []
  | '%' :: high :: low :: rest =>
    match hexDigit? high, hexDigit? low, decode rest with
    | some h, some l, some bytes => some (UInt8.ofNat (16 * h + l) :: bytes)
    | _, _, _ => none
  | c :: rest =>
    if c = '%' || 128 ≤ c.toNat then none
    else (decode rest).map (UInt8.ofNat c.toNat :: ·)

end Enrolment.Text.Percent
