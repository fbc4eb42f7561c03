/-
The countries that are there without any country data.
-/
import Enrolment.Place.Table

namespace Enrolment.Place

/-- A region with a short code. -/
def coded (name code : String) : Region :=
  ⟨name, some code⟩

/-- A region without a short code. -/
def uncoded (name : String) : Region :=
  ⟨name, none⟩

/-- The countries that are always known. -/
def builtInCountries : List Country :=
  [⟨"United States", "US",
      [coded "Alabama" "AL", coded "Alaska" "AK", coded "Arizona" "AZ", coded "California" "CA",
        coded "New York" "NY"]⟩,
    ⟨"Canada", "CA",
      [coded "Alberta" "AB", coded "British Columbia" "BC", coded "Ontario" "ON",
        coded "Quebec" "QC"]⟩,
    ⟨"United Kingdom", "GB",
      [uncoded "England", uncoded "Scotland", uncoded "Wales", uncoded "Northern Ireland"]⟩,
    ⟨"Australia", "AU",
      [coded "New South Wales" "NSW", coded "Victoria" "VIC", coded "Queensland" "QLD"]⟩,
    ⟨"India", "IN", [uncoded "Maharashtra", uncoded "Karnataka", uncoded "Delhi"]⟩,
    ⟨"Pakistan", "PK", [uncoded "Punjab", uncoded "Sindh", uncoded "Khyber Pakhtunkhwa"]⟩]

/-- The table that stands in when no country data can be had. -/
def builtIn : Table :=
  ⟨builtInCountries⟩

end Enrolment.Place
