/-
Decimals `digits · 10 ^ exponent`, compared with rational numbers and written out.

The layout is positional when the exponent of the first digit is from -4 to 15 and
scientific beyond; an integer keeps one zero after its point.
-/
import Enrolment.Number.Binary64

namespace Enrolment

/-- The number `digits · 10 ^ exponent`. -/
structure Decimal where
  digits : Nat
  exponent : Int

namespace Decimal

/-- Whether a decimal is below `num / den`. -/
def isBelow (d : Decimal) (num den : Nat) : Bool :=
  d.digits * Binary64.power 10 d.exponent * den < num * Binary64.power 10 (-d.exponent)

/-- Whether a decimal equals `num / den`. -/
def isEqual (d : Decimal) (num den : Nat) : Bool :=
  d.digits * Binary64.power 10 d.exponent * den == num * Binary64.power 10 (-d.exponent)

/-- A decimal without zeros at the end of its digits. -/
def normal (d : Decimal) : Decimal :=
  let digits := Nat.toDigits 10 d.digits
  let zeros := (digits.reverse.takeWhile (· = '0')).length
  if d.digits = 0 then ⟨0, 0⟩ else ⟨d.digits / Binary64.power 10 zeros, d.exponent + zeros⟩

/-- The text of a positive decimal: positional when the exponent of its first digit is from -4 to
15, else scientific with at least two digits of exponent. -/
def layout (d : Decimal) : List Char :=
  let digits := Nat.toDigits 10 d.digits
  let point : Int := digits.length + d.exponent
  if -3 ≤ point && point ≤ 16 then
    if point ≤ 0 then '0' :: '.' :: (List.replicate (-point).toNat '0' ++ digits)
    else
      let whole := digits.take point.toNat ++ List.replicate (point.toNat - digits.length) '0'
      let part := digits.drop point.toNat
      whole ++ '.' :: (if part.isEmpty then ['0'] else part)
  else
    let exponent := point - 1
    let size := Nat.toDigits 10 exponent.natAbs
    let part := digits.drop 1
    digits.take 1 ++ (if part.isEmpty then [] else '.' :: part) ++
      'e' :: (if exponent < 0 then '-' else '+') ::
        (List.replicate (2 - size.length) '0' ++ size)

end Decimal

end Enrolment
