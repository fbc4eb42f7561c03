/-
The draft of a customer account, made from a signup request.

Without an email address there is no draft.  An address is part of it only if its
street, city and country can all be found.
-/
import Enrolment.Customer.Name
import Enrolment.Place.Table
import Enrolment.Submission.Request

namespace Enrolment.Customer

/-! ### Country -/

/-- The codes of countries under names that are often typed. -/
def countryCodes : List (String × String) :=
  [("united states", "US"), ("united states of america", "US"), ("usa", "US"), ("us", "US"),
    ("united kingdom", "GB"), ("uk", "GB"), ("great britain", "GB"), ("canada", "CA"),
    ("australia", "AU"), ("india", "IN"), ("pakistan", "PK"), ("germany", "DE"),
    ("france", "FR"), ("spain", "ES"), ("italy", "IT"), ("united arab emirates", "AE"),
    ("uae", "AE")]

/-- Whether a text is two ASCII letters. -/
def isCode (s : List Char) : Bool :=
  s.length = 2 && s.all Text.isAsciiLetter

/-- The code of a country by its name or code; empty if there is none. -/
def countryCode (raw : String) (table : Option Place.Table) : String :=
  let text := Text.trim raw
  if text = "" then ""
  else match countryCodes.lookup (Text.lower text) with
    | some code => code
    | none =>
      if isCode text.toList then Text.upper text
      else match table.bind (·.countryNamed? text) with
        | some country => Text.upper country.code
        | none => ""

/-- The code of the country among the answers; empty if there is none. -/
def findCountryCode (data : Members) (table : Option Place.Table) : String :=
  countryCode (Clue.country.guess data) table

/-! ### Address -/

/-- A postal address. -/
structure Address where
  firstName : String
  lastName : String
  address1 : String
  city : String
  countryCode : String
  address2 : Option String
  stateOrProvince : Option String
  postalCode : Option String
  phone : Option String
  company : Option String

/-- The kind of all addresses in a draft. -/
def Address.kind : String := "residential"

/-- What an address takes over from the customer. -/
structure Contact where
  firstName : String
  lastName : String
  phone : String
  company : String

/-- The address among the answers, if all that it needs is there. -/
def address (data : Members) (contact : Contact) (table : Option Place.Table) :
    Option Address :=
  let address1 := Clue.addressLine1.guess data
  let city := Clue.city.guess data
  let countryCode := findCountryCode data table
  let firstName := orElse (Clue.addressFirstName.guess data) contact.firstName
  let lastName := orElse (Clue.addressLastName.guess data) contact.lastName
  if [firstName, lastName, address1, city, countryCode].any (· = "") then none
  else some {
    firstName, lastName, address1, city, countryCode
    address2 := nonempty? (Clue.addressLine2.guess data)
    stateOrProvince := nonempty? (Clue.state.guess data)
    postalCode := nonempty? (Clue.postalCode.guess data)
    phone := nonempty? contact.phone
    company := nonempty? contact.company }

/-! ### Draft -/

/-- The phone number among the answers; empty if there is none. -/
def findPhone (data : Members) : String :=
  Clue.phone.guess data

/-- The company among the answers; empty if there is none.  Its name is preferred to other things
about it. -/
def findCompany (data : Members) : String :=
  Clue.company.find Clue.documentPhrases "name" data

/-- The password among the answers; empty if there is none. -/
def findPassword (data : Members) : String :=
  Clue.password.guess data

/-- An account to be created. -/
structure Draft where
  email : String
  firstName : String
  lastName : String
  phone : Option String
  company : Option String
  password : Option String
  addresses : List Address

/-- Why there is no draft. -/
inductive DraftError where
  | noEmail
  | unreadable (cause : ReadError)

/-- The message of a request that has no email address. -/
def noEmailMessage : String :=
  "Cannot create customer: email is missing in request"

/-- The draft of an account for a request, if an email address can be found. -/
def draft? (request : Request) (table : Option Place.Table) : Option Draft :=
  (email? request.email request.data).map fun email =>
    let data := request.data
    let (firstName, lastName) := splitName (fullName data) data
    let phone := findPhone data
    let company := findCompany data
    { email, firstName, lastName
      phone := nonempty? phone
      company := nonempty? company
      password := nonempty? (findPassword data)
      addresses := (address data ⟨firstName, lastName, phone, company⟩ table).toList }

/-- The draft of an account for whatever was submitted. -/
def draftOf (request : Json) (table : Option Place.Table) : Except DraftError Draft :=
  match Request.readAny request with
  | .error cause => .error (.unreadable cause)
  | .ok request =>
    match draft? request table with
    | some draft => .ok draft
    | none => .error .noEmail

end Enrolment.Customer
