/-
The shape of an email address.
-/
import Enrolment.Text.Blank

namespace Enrolment.Text

/-- Whether a point stands in a text with something before and behind it. -/
def hasInnerPoint (s : List Char) : Bool :=
  (s.drop 1).dropLast.contains '.'

/-- Whether a text is one at sign with something before it and a name with an inner point behind
it, all without blanks of the given kind. -/
def isEmail (blank : Char → Bool) (s : List Char) : Bool :=
  !s.any blank && match s.takeWhile (· ≠ '@'), s.dropWhile (· ≠ '@') with
    | _ :: _, _ :: domain => !domain.contains '@' && hasInnerPoint domain
    | _, _ => false

end Enrolment.Text
