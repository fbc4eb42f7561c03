/-
The keys of submitted answers.

A key is the label that a field had when the form was filled in.  `normal` is what
is left of it for comparison, `spoken` is how it is shown when no field explains it,
and the hints are words that give a field's role away.
-/
import Enrolment.Form.Field

namespace Enrolment.Key

/-- Whether a character counts when keys are compared. -/
def isSignificant (c : Char) : Bool :=
  ('a' ≤ c && c ≤ 'z') || ('0' ≤ c && c ≤ '9')

/-- The small letters and digits of a key. -/
def normal (key : String) : List Char :=
  (Text.lowerChars key.toList).filter isSignificant

/-- Makes room in front of a capital, and for an underscore. -/
def spaced (c : Char) : List Char :=
  if c = '_' then [' ']
  else if 'A' ≤ c && c ≤ 'Z' then [' ', c]
  else [c]

/-- A key as words: `company_size` becomes `company size`, and `jobTitle` becomes `job Title`. -/
def spoken (key : String) : String :=
  Text.squeeze (String.ofList (key.toList.flatMap spaced))

/-- Whether a character may stand between the words of a hint. -/
def isJoint (c : Char) : Bool :=
  Text.isBlank c || c = '_' || c = '-'

/-- Whether a text begins with two words that have at most one joint between them. -/
def startsWithPair (first second : List Char) (s : List Char) : Bool :=
  first.isPrefixOf s &&
    match s.drop first.length with
    | [] => second.isEmpty
    | c :: rest => second.isPrefixOf (c :: rest) || (isJoint c && second.isPrefixOf rest)

/-- Whether a key mentions two words that have at most one joint between them, case ignored. -/
def mentionsPair (key : String) (first second : String) : Bool :=
  Text.anyTail (startsWithPair first.toList second.toList) (key.toList.map Text.caseless)

/-- Whether a key mentions a role. -/
def hintsAt (key : String) : Role → Bool
  | .firstName => mentionsPair key "first" "name"
  | .lastName => mentionsPair key "last" "name"
  | .email => Text.mentions key "email"
  | .country => Text.mentions key "country"
  | .state => Text.mentions key "state" || Text.mentions key "province"
  | .password => false

end Enrolment.Key
