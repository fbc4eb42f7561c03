/-
The name of a customer.

A full name is taken from a key that names one, or put together from a first and a
last name, or taken from any key that speaks of a name and of nothing else.
Splitting it takes the last word as the last name, but keys for first and last name
have the say where there are any.
-/
import Enrolment.Customer.Email

namespace Enrolment.Customer

/-- The normal forms of keys for a full name, in order of trust. -/
def fullNameKeys : List String :=
  ["fullname", "name", "customername", "applicantname", "contactname", "displayname"]

/-- Parts of keys that name something other than a person. -/
def nameKeyExcludes : List String :=
  ["company", "business", "organiz", "firm", "brand", "email", "user"]

/-- The first name of a customer who gives none. -/
def fallbackFirstName : String := "Customer"

/-- The last name of a customer who gives none. -/
def fallbackLastName : String := "User"

/-- Whether the normal form of a key is one of several. -/
def normalIsOneOf (key : String) (names : List String) : Bool :=
  names.any fun name => Key.normal key = name.toList

/-- Whether a key is for a first name. -/
def isFirstNameKey (key : String) : Bool :=
  normalIsOneOf key ["firstname", "first", "givenname"] ||
    (normalContains key "first" && normalContains key "name")

/-- Whether a key is for a last name. -/
def isLastNameKey (key : String) : Bool :=
  normalIsOneOf key ["lastname", "last", "surname", "familyname"] ||
    (normalContains key "name" && ["last", "sur", "family"].any (normalContains key))

/-- The text under the first key of a kind; empty if there is none. -/
def firstText (isKey : String → Bool) (data : Members) : String :=
  match data.find? fun (key, _) => isKey key with
  | some (_, value) => Clue.valueText value
  | none => ""

/-- The first and last name under keys of their own. -/
def explicitNames (data : Members) : String × String :=
  (firstText isFirstNameKey data, firstText isLastNameKey data)

/-- A text that is not empty. -/
def nonempty? (s : String) : Option String :=
  if s = "" then none else some s

/-- Whether a key speaks of a name, and not of something else's. -/
def suggestsName (key : String) : Bool :=
  normalContains key "name" && !nameKeyExcludes.any (normalContains key)

/-- The first text that is not empty under a key of a kind. -/
def firstNonempty? (isKey : String → Bool) (data : Members) : Option String :=
  data.findSome? fun (key, value) =>
    if isKey key then nonempty? (Clue.valueText value) else none

/-- The full name of a customer; empty if there is none. -/
def fullName (data : Members) : String :=
  let joined :=
    " ".intercalate ([(explicitNames data).1, (explicitNames data).2].filter (· ≠ ""))
  ((fullNameKeys.findSome? fun name =>
      firstNonempty? (fun key => Key.normal key = name.toList) data).or <|
    (nonempty? joined).or <|
    firstNonempty? suggestsName data).getD ""

/-- A text, or another one if it is empty. -/
def orElse (s other : String) : String :=
  if s = "" then other else s

/-- First and last name from a full name alone: the last word is the last name. -/
def splitWords (full : String) : String × String :=
  match Text.words full.toList with
  | [] => (fallbackFirstName, fallbackLastName)
  | [word] => (String.ofList word, fallbackLastName)
  | words => (String.ofList ([' '].intercalate words.dropLast),
      String.ofList (words.getLast?.getD []))

/-- First and last name: from keys of their own if there is one, else from the full name. -/
def splitName (full : String) (data : Members) : String × String :=
  let (first, last) := explicitNames data
  if first = "" && last = "" then splitWords full
  else
    let firstWord := match Text.words full.toList with
      | [] => fallbackFirstName
      | word :: _ => String.ofList word
    (orElse first firstWord, orElse last fallbackLastName)

end Enrolment.Customer
