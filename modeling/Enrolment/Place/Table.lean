/-
Looking up countries and regions.

Keys are compared without the blanks around them and in small letters.  Of several
countries with one key the last counts.  A region is found by its short code before
it is found by its name, and within a country the first one counts.
-/
import Enrolment.Place.Country
import Enrolment.Text.Case
import Enrolment.Text.Blank

namespace Enrolment.Place

/-- The form in which keys are compared. -/
def fold (key : String) : String :=
  Text.lower (Text.trim key)

/-- The countries to choose from, in order. -/
structure Table where
  countries : List Country
deriving DecidableEq

namespace Table

/-- The country of a code. -/
def country? (table : Table) (code : String) : Option Country :=
  table.countries.reverse.find? fun country => fold country.code = fold code

/-- The country of a name. -/
def countryNamed? (table : Table) (name : String) : Option Country :=
  table.countries.reverse.find? fun country => fold country.name = fold name

/-- The regions of the country of a code. -/
def regions (table : Table) (code : String) : List Region :=
  match table.country? code with
  | some country => country.regions
  | none => []

/-- Whether a region has a short code, and it is the folded key. -/
def hasShortCode (key : String) (region : Region) : Bool :=
  match region.shortCode with
  | some code => code ≠ "" && fold code = key
  | none => false

/-- The region of a folded key in a list. -/
def regionIn? (regions : List Region) (key : String) : Option Region :=
  (regions.find? (hasShortCode key)).or (regions.find? fun region => fold region.name = key)

/-- The region of a country by its short code or name. -/
def region? (table : Table) (code key : String) : Option Region :=
  if fold key = "" then none else regionIn? (table.regions code) (fold key)

/-- The region of any country by its short code or name; the first country with one counts. -/
def regionAnywhere? (table : Table) (key : String) : Option Region :=
  table.countries.findSome? fun country => table.region? country.code key

/-- The wire form of a table. -/
def toWire (table : Table) : Json :=
  .arr (table.countries.map Country.toWire)

end Table

end Enrolment.Place
