/-
Guessing which answer holds a detail of the customer.

Keys are whatever labels the shop chose, so every detail has a clue: keys that name
it exactly, in order of trust, and phrases that suggest it.  An exact key decides;
failing that a suggestive one does, the shortest if no preferred word settles it.
Keys that suggest an upload or a document never count, nor do values that look like
one.
-/
import Enrolment.Json.Text
import Enrolment.Text.Case

namespace Enrolment

/-- Words that follow one another, with any blanks between them. -/
abbrev Phrase := List String

namespace Phrase

/-- Whether a text in caseless form begins with words that have only blanks between them. -/
def startsWith : List (List Char) → List Char → Bool
  | [], _ => true
  | word :: words, s =>
    word.isPrefixOf s && startsWith words ((s.drop word.length).dropWhile Text.isBlank)

/-- Whether a phrase stands in a key, case ignored. -/
def isIn (phrase : Phrase) (key : String) : Bool :=
  Text.anyTail (startsWith (phrase.map fun word => word.toList.map Text.caseless))
    (key.toList.map Text.caseless)

/-- Whether one of several phrases stands in a key. -/
def anyIn (phrases : List Phrase) (key : String) : Bool :=
  phrases.any (·.isIn key)

end Phrase

/-- How a detail is recognised among submitted keys. -/
structure Clue where
  exact : List String
  phrases : List Phrase

namespace Clue

/-- Phrases of keys under which files and documents are submitted. -/
def documentPhrases : List Phrase :=
  [["doc"], ["document"], ["file"], ["upload"], ["picture"], ["image"], ["photo"],
    ["attachment"], ["form"], ["certificate"], ["license"], ["id"], ["proof"], ["registration"],
    ["tax"]]

/-- The endings of file names. -/
def fileEndings : List String :=
  [".png", ".jpg", ".jpeg", ".gif", ".webp", ".pdf", ".doc", ".docx", ".xls", ".xlsx", ".zip",
    ".rar"]

/-- The characters that a typed value may have at most. -/
def maxLength : Nat := 512

/-- The text of a submitted value without the blanks around it. -/
def valueText (value : Json) : String :=
  Text.trim value.entry

/-- Whether a text looks typed: it is neither empty nor very long, has no slash of either kind (so
it is no link and no path), and is no file name. -/
def looksTyped (s : List Char) : Bool :=
  !s.isEmpty && s.length ≤ maxLength && !s.contains '/' && !s.contains '\\' &&
    !fileEndings.any fun ending => Text.endsWith ending.toList s

/-- Whether a value looks typed, which no list or object does. -/
def isPlausible : Json → Bool
  | .arr _ | .obj _ => false
  | value => looksTyped (valueText value).toList

/-- The form in which exact keys are compared. -/
def fold (key : String) : String :=
  Text.lower (Text.squeeze key)

/-- Whether an answer counts: its key is not excluded, and it looks typed. -/
def isAdmitted (excludes : String → Bool) (answer : String × Json) : Bool :=
  !excludes answer.1 && isPlausible answer.2

/-- The answers that count. -/
def admitted (excludes : String → Bool) (data : Members) : Members :=
  data.filter (isAdmitted excludes)

/-- The first answer under one of the exact keys, of which earlier ones take precedence. -/
def exactMatch? (exact : List String) (answers : Members) : Option Json :=
  exact.findSome? fun name =>
    (answers.find? fun (key, _) => fold key = fold name).map (·.2)

/-- The first of the shortest keys' answers. -/
def shortest? : Members → Option (String × Json)
  | [] => none
  | first :: rest => some (rest.foldl
      (fun best entry => if entry.1.length < best.1.length then entry else best) first)

/-- The answer under a key with a preferred word, or else under the shortest key. -/
def suggested? (preferred : String) (matching : Members) : Option Json :=
  let favourite := if preferred = "" then none
    else matching.find? fun (key, _) => Text.mentions key preferred
  (favourite.or (shortest? matching)).map (·.2)

/-- The text of the answer that is picked among those that count: the one under an exact key, or
else the one that is suggested; empty if there is none. -/
def pick (exact : List String) (suggests excludes : String → Bool) (preferred : String)
    (data : Members) : String :=
  let answers := admitted excludes data
  let matching := answers.filter fun (key, _) => suggests key
  (((exactMatch? exact answers).or (suggested? preferred matching)).map valueText).getD ""

/-- The text of the answer that a clue points to, under keys that no excluded phrase stands in. -/
def find (clue : Clue) (excluded : List Phrase) (preferred : String) (data : Members) : String :=
  pick clue.exact (Phrase.anyIn clue.phrases) (Phrase.anyIn excluded) preferred data

/-- The text of the answer that a clue points to, documents excluded. -/
def guess (clue : Clue) (data : Members) : String :=
  clue.find documentPhrases "" data

/-! ### The details of a customer -/

/-- The first line of the address. -/
def addressLine1 : Clue where
  exact := ["address1", "address 1", "address_line_1", "address line 1", "address",
    "street address", "street_address", "street", "street1", "street 1", "line1", "line 1"]
  phrases := [["address", "1"], ["street"], ["line", "1"]]

/-- The second line of the address. -/
def addressLine2 : Clue where
  exact := ["address2", "address 2", "address_line_2", "address line 2", "street2", "street 2",
    "line2", "line 2", "suite", "apt", "apartment", "unit"]
  phrases := [["address", "2"], ["street", "2"], ["line", "2"], ["suite"], ["apt"],
    ["apartment"], ["unit"]]

/-- The city. -/
def city : Clue where
  exact := ["city", "town"]
  phrases := [["city"], ["town"]]

/-- The state or province. -/
def state : Clue where
  exact := ["state_or_province", "state", "province", "region"]
  phrases := [["state"], ["province"], ["region"]]

/-- The postal code. -/
def postalCode : Clue where
  exact := ["postal_code", "postal code", "zip", "zip_code"]
  phrases := [["postal"], ["zip"]]

/-- The country. -/
def country : Clue where
  exact := ["country_code", "country code", "country"]
  phrases := [["country"]]

/-- The first name in an address. -/
def addressFirstName : Clue where
  exact := ["address_first_name", "address first name", "shipping_first_name",
    "billing_first_name"]
  phrases := [["first"]]

/-- The last name in an address. -/
def addressLastName : Clue where
  exact := ["address_last_name", "address last name", "shipping_last_name", "billing_last_name"]
  phrases := [["last"]]

/-- The phone number. -/
def phone : Clue where
  exact := ["phone", "phone_number", "mobile", "mobile_number", "contact_number"]
  phrases := [["phone"], ["mobile"], ["contact"]]

/-- The company. -/
def company : Clue where
  exact := ["company", "company_name", "company name", "business", "business_name",
    "business name", "organization", "organisation", "brand", "firm"]
  phrases := [["company"], ["business"], ["organiza"], ["brand"], ["firm"]]

/-- The password. -/
def password : Clue where
  exact := ["password", "pwd"]
  phrases := [["pass"], ["pwd"]]

end Clue

end Enrolment
