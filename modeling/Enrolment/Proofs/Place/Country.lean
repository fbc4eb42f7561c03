/-
What country data come to.

Country data are of use if they are a list with a good entry in it: one that reads as a country
and has a code and a name.  Then the good entries are what is read, and nothing else is.
-/
import Enrolment.Place.Country

namespace Enrolment.Country

theorem isNamed_iff {country : Country} :
    country.isNamed = true ↔ country.code ≠ "" ∧ country.name ≠ "" := by
  simp [isNamed]

/-- **Country data give the good entries of a list, if there are any.** -/
theorem readList?_eq_some_iff {data : Json} {countries : List Country} :
    readList? data = some countries ↔
      ∃ items, data = .arr items ∧ countries = (items.filterMap read?).filter isNamed ∧
        countries ≠ [] := by
  cases data with
  | arr items =>
      simp only [readList?, Json.arr.injEq, exists_eq_left']
      by_cases hempty : (items.filterMap read?).filter isNamed = []
      · rw [hempty]
        simp
      · rw [if_neg (by simpa using hempty), Option.some_inj]
        constructor
        · rintro rfl
          exact ⟨rfl, hempty⟩
        · rintro ⟨rfl, -⟩
          rfl
  | null | bool _ | int _ | num _ | str _ | obj _ => simp [readList?]

/-- Every country that is read has a code and a name. -/
theorem named_of_readList? {data : Json} {countries : List Country}
    (h : readList? data = some countries) {country : Country} (hcountry : country ∈ countries) :
    country.code ≠ "" ∧ country.name ≠ "" := by
  obtain ⟨items, -, rfl, -⟩ := readList?_eq_some_iff.1 h
  exact isNamed_iff.1 (List.mem_filter.1 hcountry).2

theorem name_ne_empty_of_readList? {data : Json} {countries : List Country}
    (h : readList? data = some countries) {country : Country} (hcountry : country ∈ countries) :
    country.name ≠ "" :=
  (named_of_readList? h hcountry).2

end Enrolment.Country
