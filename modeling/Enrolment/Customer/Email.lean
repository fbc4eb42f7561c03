/-
The email address of a customer.

The address given beside the answers comes first, then the answers under keys that
are names for an email address, then those under keys that contain `mail`, and at
last any text that has the shape of an address.
-/
import Enrolment.Customer.Clue
import Enrolment.Submission.Key
import Enrolment.Text.Email

namespace Enrolment.Customer

/-- The normal forms of keys for an email address, in order of trust. -/
def emailKeys : List String :=
  ["email", "emailaddress", "useremail", "contactemail", "primaryemail", "workemail"]

/-- Parts of keys that ask about an email address rather than for it. -/
def emailKeyExcludes : List String :=
  ["verif", "opt", "subscri", "confirm"]

/-- Whether a text stands in the normal form of a key. -/
def normalContains (key part : String) : Bool :=
  Text.anyTail part.toList.isPrefixOf (Key.normal key)

/-- An address in small letters, if the text has the shape of one. -/
def address? (s : String) : Option String :=
  let text := Text.trim s
  if Text.isEmail Text.isBlank text.toList then some (Text.lower text) else none

/-- Whether a key asks for an email address in some way. -/
def suggestsEmail (key : String) : Bool :=
  normalContains key "mail" && !emailKeyExcludes.any (normalContains key)

/-- The address in an answer, if it is a text. -/
def textAddress? : Json → Option String
  | .str s => address? s
  | _ => none

/-- The email address of a customer. -/
def email? (given : Option String) (data : Members) : Option String :=
  (given.bind address?).or <|
  (emailKeys.findSome? fun name => data.findSome? fun (key, value) =>
    if Key.normal key = name.toList then address? value.entry else none).or <|
  (data.findSome? fun (key, value) =>
    if suggestsEmail key then address? value.entry else none).or <|
  data.findSome? fun (_, value) => textAddress? value

end Enrolment.Customer
