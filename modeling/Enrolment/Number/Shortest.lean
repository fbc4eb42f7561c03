/-
The shortest decimal text of a binary64 number.

Every number of the format is the nearest one for a whole interval of reals.  Its
text has the fewest digits that still lie in that interval and, of those, stands
for the decimal nearest to the number.  For one, two, … seventeen digits the two
neighbours of the number on the decimal grid of that width are tried.
-/
import Enrolment.Number.Binary64
import Enrolment.Number.Decimal

namespace Enrolment

namespace Binary64

/-- How many digits a positive number has in front of its point; for one below one, minus the
count of zeros behind it. -/
def magnitude (num den : Nat) : Int :=
  if den ≤ num then (Nat.toDigits 10 (num / den)).length
  else 1 - ((Nat.toDigits 10 ((den - 1) / num)).length : Int)

/-- The interval of reals that round to `m · 2 ^ e`, in quarters of `2 ^ e`: below a power of two
the neighbour is half as far away. -/
def quarters (m : Nat) (e : Int) : Nat × Nat :=
  (if m = power 2 52 && e > -1074 then 4 * m - 1 else 4 * m - 2, 4 * m + 2)

/-- `q · 2 ^ (e - 2)` as a rational number. -/
def ofQuarters (q : Nat) (e : Int) : Nat × Nat :=
  (q * power 2 (e - 2), power 2 (2 - e))

/-- Whether a decimal rounds to `m · 2 ^ e`; the ends of the interval do so iff `m` is even. -/
def roundsTo (d : Decimal) (m : Nat) (e : Int) : Bool :=
  let (low, high) := quarters m e
  let (ln, ld) := ofQuarters low e
  let (hn, hd) := ofQuarters high e
  let inside := !d.isBelow ln ld && !d.isEqual ln ld && d.isBelow hn hd
  inside || (m % 2 == 0 && (d.isEqual ln ld || d.isEqual hn hd))

/-- The decimal of a given number of digits next to `num / den`, from below. -/
def below (num den : Nat) (width : Nat) : Decimal :=
  let exponent := magnitude num den - width
  ⟨num * power 10 (-exponent) / (den * power 10 exponent), exponent⟩

/-- Of two neighbouring decimals with the number between them, whether the upper one is nearer; of
two at the same distance the even one is taken. -/
def upperIsNearer (low : Decimal) (num den : Nat) : Bool :=
  let middle : Decimal := ⟨10 * low.digits + 5, low.exponent - 1⟩
  middle.isBelow num den || (middle.isEqual num den && low.digits % 2 == 1)

/-- The nearer of the two decimals of a given width that round to `m · 2 ^ e`, if one does. -/
def shortestOfWidth? (m : Nat) (e : Int) (width : Nat) : Option Decimal :=
  let (num, den) := scaled m 1 (-e)
  let low := below num den width
  let high : Decimal := ⟨low.digits + 1, low.exponent⟩
  match roundsTo low m e, roundsTo high m e with
  | true, true => some (if upperIsNearer low num den then high else low)
  | true, false => some low
  | false, true => some high
  | false, false => none

/-- The shortest decimal that rounds to `m · 2 ^ e`, for positive `m`. -/
def shortest (m : Nat) (e : Int) : Decimal :=
  ((List.range 17).findSome? fun i => shortestOfWidth? m e (i + 1)).getD ⟨m, 0⟩

/-- The text of a number. -/
def text : Binary64 → String
  | nan => "nan"
  | infinite negative => if negative then "-inf" else "inf"
  | finite negative m e =>
    let body := if m = 0 then ['0', '.', '0'] else (shortest m e).normal.layout
    String.ofList (if negative then '-' :: body else body)

end Binary64

end Enrolment
