/-
What was chosen from a table is displayed by its name.

A country field submits the code of a country, and a state field the value of a region, beside
which stands the country that it was chosen in.  Read against the table that the choices came
from, the code gives the name of the country.  For the region the country is found first: if
only one of the answers is a country (`Context.HasOnlyCountry`), the others are passed over
wherever they stand, so regions of other countries do not matter even if they share the value.
-/
import Enrolment.Proofs.Place.Choices
import Enrolment.Submission.Resolve

namespace Enrolment.Resolve

namespace Context

/-- Whether an answer is submitted for a country and no other answer is. -/
def HasOnlyCountry (context : Context) (answer : Json) : Prop :=
  ∃ key, (key, answer) ∈ context.siblings ∧ context.isCountryKey key = true ∧
    ∀ other ∈ context.siblings, context.isCountryKey other.1 = true → other = (key, answer)

variable {context : Context} {country : Country}

/-- A country is found by its code among the answers. -/
theorem countryOf?_code (h : context.table.IsUnambiguous)
    (hcountry : country ∈ context.table.countries) :
    context.countryOf? (.str country.code) = some country := by
  change (context.table.country? (Text.trim country.code)).or _ = some country
  rw [Place.Table.country?_trim, Place.Table.country?_code h hcountry, Option.some_or]

/-- A region is looked for in the only country among the answers. -/
theorem siblingCode?_of_hasOnlyCountry {answer : Json} (h : context.HasOnlyCountry answer)
    (hcountry : context.countryOf? answer = some country) :
    context.siblingCode? = some country.code := by
  obtain ⟨key, hmem, hkey, honly⟩ := h
  have hsome : context.siblingCode? ≠ none := by
    intro hnone
    have hskipped := List.findSome?_eq_none_iff.1 hnone (key, answer) hmem
    simp [hkey, hcountry] at hskipped
  obtain ⟨code, hcode⟩ := Option.ne_none_iff_exists'.1 hsome
  obtain ⟨other, hother, hfound⟩ := List.exists_of_findSome?_eq_some hcode
  dsimp only at hfound
  split at hfound
  · rename_i hotherKey
    rw [honly other hother hotherKey, hcountry] at hfound
    rw [hcode, ← hfound]
    rfl
  · cases hfound

end Context

/-! ### Codes of countries and values of regions -/

section

variable {context : Context} {country : Country} (h : context.table.IsUnambiguous)
  (hcountry : country ∈ context.table.countries)
include h hcountry

theorem country_code (hname : country.name ≠ "") :
    Resolve.country context country.code = country.name := by
  unfold Resolve.country
  rw [Place.Table.country?_trim, Place.Table.country?_code h hcountry]
  exact if_neg hname

theorem exists_state_optionValue (honly : context.HasOnlyCountry (.str country.code))
    {region : Region} (hregion : region ∈ country.regions) :
    ∃ shown ∈ country.regions, state context region.optionValue = shown.name ∧
      Place.fold shown.name = Place.fold region.name := by
  obtain ⟨shown, hshown, hfound, hname⟩ := Place.Table.exists_region? h hcountry hregion
  have hcode := Context.siblingCode?_of_hasOnlyCountry honly (Context.countryOf?_code h hcountry)
  refine ⟨shown, hshown, ?_, hname⟩
  unfold state
  rw [hcode]
  dsimp only
  rw [hfound]

end

/-- **What was chosen from a table whose choices can be told apart is displayed by its name: a
country by its own, and a region beside the country that it was chosen in by that of a region of
this country which has the same name but for case and the blanks around it.** -/
theorem value_of_choice {data : Json} {countries : List Country}
    (hread : Country.readList? data = some countries)
    (hchoices : (⟨countries⟩ : Place.Table).IsUnambiguous) {country : Country}
    (hcountry : country ∈ countries) (siblings : Members) (fields : Option (List Field))
    (field : Field) :
    (field.role = some .country →
      value ⟨⟨countries⟩, siblings, fields⟩ field (.str country.code) = country.name) ∧
    (field.role = some .state →
      Context.HasOnlyCountry ⟨⟨countries⟩, siblings, fields⟩ (.str country.code) →
      ∀ region ∈ country.regions, ∃ shown ∈ country.regions,
        value ⟨⟨countries⟩, siblings, fields⟩ field (.str region.optionValue) = shown.name ∧
          Place.fold shown.name = Place.fold region.name) := by
  constructor
  · intro hrole
    change scalar _ field (.str country.code) = country.name
    unfold scalar
    rw [if_pos hrole]
    exact country_code hchoices hcountry (Country.name_ne_empty_of_readList? hread hcountry)
  · intro hrole honly region hregion
    obtain ⟨shown, hshown, hstate, hname⟩ :=
      exists_state_optionValue hchoices hcountry honly hregion
    refine ⟨shown, hshown, ?_, hname⟩
    change scalar _ field (.str region.optionValue) = shown.name
    unfold scalar
    have hother : field.role ≠ some .country := by
      rw [hrole]
      exact nofun
    rw [if_neg hother, if_pos hrole]
    exact hstate

/-- A country that has the short code of a region in common with the next one. -/
def westmark : Country :=
  ⟨"Westmark", "WM", [⟨"Haven", some "HV"⟩]⟩

/-- A country of which one region has another's short code for its name, and two have names that
differ in case and blanks only. -/
def eastmark : Country :=
  ⟨"Eastmark", "EM", [⟨"HV", some "SP"⟩, ⟨"High Vale", some "HV"⟩, ⟨"LOWMOOR", some "LM"⟩,
    ⟨"Lowmoor ", none⟩]⟩

/-- The two countries as data. -/
def marks : Json :=
  .arr [.obj [("countryName", .str "Westmark"), ("countryShortCode", .str "WM"),
      ("regions", .arr [.obj [("name", .str "Haven"), ("shortCode", .str "HV")]])],
    .obj [("countryName", .str "Eastmark"), ("countryShortCode", .str "EM"),
      ("regions", .arr [.obj [("name", .str "HV"), ("shortCode", .str "SP")],
        .obj [("name", .str "High Vale"), ("shortCode", .str "HV")],
        .obj [("name", .str "LOWMOOR"), ("shortCode", .str "LM")],
        .obj [("name", .str "Lowmoor ")]])]]

theorem isUnambiguous_marks : (⟨[westmark, eastmark]⟩ : Place.Table).IsUnambiguous where
  codes := by decide
  values := by decide
  named := by decide

/-- The field in which a region is chosen. -/
def regionField : Field :=
  ⟨none, .text, "Region", "", false, .plain, some .state, false, [], none⟩

/-- The field in which its country is chosen, with a label that does not speak of countries. -/
def homeField : Field :=
  ⟨none, .select, "Home", "", false, .plain, some .country, false, [], none⟩

/-- What was submitted for a region and its country. -/
def eastmarkAnswers : Members :=
  [("Region", .str "HV"), ("Home", .str "EM")]

theorem hasOnlyCountry_eastmarkAnswers :
    Context.HasOnlyCountry ⟨⟨[westmark, eastmark]⟩, eastmarkAnswers, some [regionField, homeField]⟩
      (.str "EM") := by
  refine ⟨"Home", .tail _ (.head _), rfl, ?_⟩
  intro other hother hcountry
  rcases List.mem_pair.1 hother with rfl | rfl
  · cases hcountry
  · rfl

/-- The shared short code is taken for a region of the chosen country, and for the one that has it
as short code; of the two names that differ in case the first is displayed. -/
theorem eastmark_displayed :
    let context : Context :=
      ⟨⟨[westmark, eastmark]⟩, eastmarkAnswers, some [regionField, homeField]⟩
    Country.readList? marks = some [westmark, eastmark] ∧ context.table.IsUnambiguous ∧
      context.HasOnlyCountry (.str "EM") ∧
      value context homeField (.str "EM") = "Eastmark" ∧
      (∀ region ∈ eastmark.regions, ∃ shown ∈ eastmark.regions,
        value context regionField (.str region.optionValue) = shown.name ∧
          Place.fold shown.name = Place.fold region.name) ∧
      value context regionField (.str "HV") = "High Vale" ∧
      value context regionField (.str "Lowmoor ") = "LOWMOOR" := by
  have hread : Country.readList? marks = some [westmark, eastmark] := rfl
  obtain ⟨hhome, -⟩ := value_of_choice hread isUnambiguous_marks (.tail _ (.head _))
    eastmarkAnswers (some [regionField, homeField]) homeField
  obtain ⟨-, hregion⟩ := value_of_choice hread isUnambiguous_marks (.tail _ (.head _))
    eastmarkAnswers (some [regionField, homeField]) regionField
  exact ⟨hread, isUnambiguous_marks, hasOnlyCountry_eastmarkAnswers, hhome rfl,
    hregion rfl hasOnlyCountry_eastmarkAnswers, rfl, rfl⟩

end Enrolment.Resolve
