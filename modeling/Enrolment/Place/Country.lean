/-
Countries and their regions, and how they are read from country data.

Reading is strict entry by entry: names and codes have to be texts, and one bad
region spoils its country.  Entries that are spoilt, or have no name or no code,
are left out, and data without a single good entry are of no use.
-/
import Enrolment.Json.Basic

namespace Enrolment

/-- A part of a country. -/
structure Region where
  name : String
  shortCode : Option String
deriving DecidableEq

/-- A country and its regions. -/
structure Country where
  name : String
  code : String
  regions : List Region
deriving DecidableEq

namespace Region

/-- What is submitted for a region: its short code, or else its name. -/
def optionValue (region : Region) : String :=
  match region.shortCode with
  | some code => if code = "" then region.name else code
  | none => region.name

/-- Reads a short code, which may be null or missing. -/
def readShortCode? : Option Json → Option (Option String)
  | none | some .null => some none
  | some (.str code) => some (some code)
  | some _ => none

/-- Reads a region from the members of an object. -/
def ofMembers? (members : Members) : Option Region :=
  match members.get? "name", readShortCode? (members.either? "shortCode" "short_code") with
  | some (.str name), some shortCode => some { name, shortCode }
  | _, _ => none

/-- Reads a region. -/
def read? : Json → Option Region
  | .obj members => ofMembers? members
  | _ => none

/-- The wire form of a region: a short code that is not set is left out. -/
def toWire (region : Region) : Json :=
  .obj (Json.present [("name", .str region.name), ("shortCode", .ofText? region.shortCode)])

end Region

namespace Country

/-- Reads a list of which every item has to be a region. -/
def readRegions? : List Json → Option (List Region)
  | [] => some []
  | item :: rest =>
    match Region.read? item, readRegions? rest with
    | some region, some regions => some (region :: regions)
    | _, _ => none

/-- Reads the regions of a country, which may be missing but not null. -/
def readRegionList? : Option Json → Option (List Region)
  | none => some []
  | some (.arr items) => readRegions? items
  | some _ => none

/-- Reads a country from the members of an object. -/
def ofMembers? (members : Members) : Option Country :=
  match members.either? "countryName" "country_name",
    members.either? "countryShortCode" "country_short_code",
    readRegionList? (members.get? "regions") with
  | some (.str name), some (.str code), some regions => some { name, code, regions }
  | _, _, _ => none

/-- Reads a country. -/
def read? : Json → Option Country
  | .obj members => ofMembers? members
  | _ => none

/-- Whether a country has a name and a code. -/
def isNamed (country : Country) : Bool :=
  country.code ≠ "" && country.name ≠ ""

/-- The wire form of a country. -/
def toWire (country : Country) : Json :=
  .obj [("countryName", .str country.name), ("countryShortCode", .str country.code),
    ("regions", .arr (country.regions.map Region.toWire))]

/-- Reads country data: the good entries of a list, if there are any. -/
def readList? : Json → Option (List Country)
  | .arr items =>
    let countries := (items.filterMap read?).filter isNamed
    if countries.isEmpty then none else some countries
  | _ => none

end Country

end Enrolment
