/-
Numbers of the binary64 format, held exactly.

A finite number is `± mantissa · 2 ^ exponent`.  Nothing here computes with such
numbers: they are read, compared, cut to an integer and written, so rationals of
natural numbers are all that is needed and no step rounds but `ofRatio`, which
rounds once, to the nearest number and a tie to the even mantissa.
-/

namespace Enrolment

/-- Not a number, an infinity, or `± mantissa · 2 ^ exponent`. -/
inductive Binary64 where
  | nan
  | infinite (negative : Bool)
  | finite (negative : Bool) (mantissa : Nat) (exponent : Int)
deriving DecidableEq

namespace Binary64

/-- `num / den` rounded to an integer, a tie to the even one. -/
def divideToEven (num den : Nat) : Nat :=
  let q := num / den
  let r := num % den
  if 2 * r < den then q
  else if 2 * r > den then q + 1
  else q + q % 2

/-- The power of a base for an exponent that is not negative; one for any other. -/
def power (base : Nat) (e : Int) : Nat :=
  Nat.pow base e.toNat

/-- Numerator and denominator of `num / (den · 2 ^ e)`. -/
def scaled (num den : Nat) (e : Int) : Nat × Nat :=
  (num * power 2 (-e), den * power 2 e)

/-- The exponent at which `num / den` has 53 binary digits, but at least the smallest one. -/
def exponentFor (num den : Nat) : Int :=
  let low : Int := (Nat.log2 num : Int) - Nat.log2 den - 53
  let (n, d) := scaled num den low
  max (if n < d * power 2 53 then low else low + 1) (-1074)

/-- The number nearest to `± num / den`; infinite beyond the largest finite one. -/
def ofRatio (negative : Bool) (num den : Nat) : Binary64 :=
  if num = 0 then finite negative 0 0
  else
    let e := exponentFor num den
    let (n, d) := scaled num den e
    let m := divideToEven n d
    if m = 0 then finite negative 0 0
    else
      let (m, e) := if m = power 2 53 then (power 2 52, e + 1) else (m, e)
      if e > 971 then infinite negative else finite negative m e

/-- The number nearest to `± digits · 10 ^ exponent`.  Exponents that put every nonzero digit
beyond the format's range are decided without raising ten to them. -/
def ofDecimal (negative : Bool) (digits : Nat) (exponent : Int) : Binary64 :=
  let width : Int := (Nat.toDigits 10 digits).length
  if digits = 0 || exponent + width < -400 then finite negative 0 0
  else if exponent > 400 then infinite negative
  else ofRatio negative (digits * power 10 exponent) (power 10 (-exponent))

/-- The number nearest to an integer, if that is finite. -/
def ofInt? (n : Int) : Option Binary64 :=
  match ofRatio (n < 0) n.natAbs 1 with
  | infinite _ => none
  | x => some x

/-- Whether the number is a zero of either sign. -/
def isZero : Binary64 → Bool
  | finite _ m _ => m == 0
  | _ => false

/-- Whether the number is an integer. -/
def isWhole : Binary64 → Bool
  | finite _ m e => m % power 2 (-e) == 0
  | _ => false

/-- The integer next to a finite number in the direction of zero. -/
def truncate? : Binary64 → Option Int
  | finite negative m e =>
    let size := m * power 2 e / power 2 (-e)
    some (if negative then -(size : Int) else size)
  | _ => none

/-- Whether the number is at least `low` and at most `high`. -/
def isBetween (low high : Int) : Binary64 → Bool
  | finite negative m e =>
    let signed : Int := if negative then -(m : Int) else m
    low * power 2 (-e) ≤ signed * power 2 e && signed * power 2 e ≤ high * power 2 (-e)
  | _ => false

end Binary64

end Enrolment
