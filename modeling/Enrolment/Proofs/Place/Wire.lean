/-
Country data on the wire and back.

Which values are good entries is told here by their members (`Country.IsEnteredAs`): the name
and the code of the country are texts that are not empty, and each of its regions has a text
for its name and a text, null or nothing for its short code.  No value is turned into a text
on the way, so one region that is not written like this spoils its country.  A list is read as
what its good entries say, in their order, and the other items of the list do not matter.

The wire form of a country is such an entry for it.  So what was read and is written again is
read as it was, with its regions and the short codes that are missing or empty.
-/
import Enrolment.Place.Table
import Enrolment.Proofs.Place.Country
import Mathlib.Data.List.Forall2

namespace Enrolment

/-! ### How regions and countries are written -/

/-- Whether a value is an object with the name of a region, and with its short code; if it has
none, null may stand for it. -/
def Region.IsWrittenAs (region : Region) (value : Json) : Prop :=
  ∃ members : Members, value = .obj members ∧ members.get? "name" = some (.str region.name) ∧
    (members.either? "shortCode" "short_code" = region.shortCode.map .str ∨
      members.either? "shortCode" "short_code" = some .null ∧ region.shortCode = none)

/-- Whether members tell the name of a country, its code and its regions, which may be missing if
there are none. -/
structure Country.IsWrittenIn (country : Country) (members : Members) : Prop where
  name : members.either? "countryName" "country_name" = some (.str country.name)
  code : members.either? "countryShortCode" "country_short_code" = some (.str country.code)
  regions : members.get? "regions" = none ∧ country.regions = [] ∨
    ∃ items, members.get? "regions" = some (.arr items) ∧
      List.Forall₂ Region.IsWrittenAs country.regions items

/-- Whether a value is a good entry for a country: an object that tells of the country, which has a
code and a name. -/
def Country.IsEnteredAs (country : Country) (value : Json) : Prop :=
  (∃ members : Members, value = .obj members ∧ country.IsWrittenIn members) ∧
    country.code ≠ "" ∧ country.name ≠ ""

/-- Whether a value is a good entry for some country. -/
def Json.IsCountryEntry (value : Json) : Prop :=
  ∃ country : Country, country.IsEnteredAs value

/-! ### Reading them -/

namespace Region

theorem readShortCode?_eq_some_iff {member : Option Json} {code : Option String} :
    readShortCode? member = some code ↔
      member = code.map .str ∨ member = some .null ∧ code = none := by
  cases member with
  | none => cases code <;> simp [readShortCode?]
  | some value => cases value <;> cases code <;> simp [readShortCode?, eq_comm]

theorem read?_eq_some_iff {value : Json} {region : Region} :
    read? value = some region ↔ region.IsWrittenAs value := by
  unfold IsWrittenAs
  cases value with
  | obj members =>
      simp only [read?, Json.obj.injEq, exists_eq_left', ← readShortCode?_eq_some_iff]
      unfold ofMembers?
      constructor
      · intro h
        split at h
        · rename_i name shortCode hname hcode
          obtain rfl := Option.some.inj h
          exact ⟨hname, hcode⟩
        · cases h
      · intro h
        rw [h.1, h.2]
  | null | bool _ | int _ | num _ | str _ | arr _ => simp [read?]

end Region

namespace Country

/-- Regions are read one by one. -/
theorem readRegions?_eq_some_iff {items : List Json} {regions : List Region} :
    readRegions? items = some regions ↔ List.Forall₂ Region.IsWrittenAs regions items := by
  induction items generalizing regions with
  | nil => cases regions <;> simp [readRegions?]
  | cons item rest ih =>
      rw [readRegions?]
      constructor
      · intro h
        split at h
        · rename_i region others hregion hothers
          obtain rfl := Option.some.inj h
          exact .cons (Region.read?_eq_some_iff.1 hregion) (ih.1 hothers)
        · cases h
      · intro h
        cases h with
        | cons hregion hothers => rw [Region.read?_eq_some_iff.2 hregion, ih.2 hothers]

theorem readRegionList?_eq_some_iff {member : Option Json} {regions : List Region} :
    readRegionList? member = some regions ↔ member = none ∧ regions = [] ∨
      ∃ items, member = some (.arr items) ∧ List.Forall₂ Region.IsWrittenAs regions items := by
  cases member with
  | none => simp [readRegionList?, eq_comm]
  | some value =>
      cases value with
      | arr items => simp [readRegionList?, readRegions?_eq_some_iff]
      | null | bool _ | int _ | num _ | str _ | obj _ => simp [readRegionList?]

theorem ofMembers?_eq_some_iff {members : Members} {country : Country} :
    ofMembers? members = some country ↔ country.IsWrittenIn members := by
  unfold ofMembers?
  constructor
  · intro h
    split at h
    · rename_i name code regions hname hcode hregions
      obtain rfl := Option.some.inj h
      exact ⟨hname, hcode, readRegionList?_eq_some_iff.1 hregions⟩
    · cases h
  · intro h
    rw [h.name, h.code, readRegionList?_eq_some_iff.2 h.regions]

/-- The country that an item of country data is a good entry for. -/
def entered? (item : Json) : Option Country :=
  (read? item).filter isNamed

/-- **What is taken from an item is the country that it is a good entry for.** -/
theorem entered?_eq_some_iff {item : Json} {country : Country} :
    entered? item = some country ↔ country.IsEnteredAs item := by
  unfold entered? IsEnteredAs
  rw [Option.filter_eq_some_iff, isNamed_iff]
  refine and_congr_left fun _ => ?_
  cases item with
  | obj members => simp [read?, ofMembers?_eq_some_iff]
  | null | bool _ | int _ | num _ | str _ | arr _ => simp [read?]

theorem isSome_entered?_iff {item : Json} : (entered? item).isSome ↔ item.IsCountryEntry := by
  unfold Json.IsCountryEntry
  rw [Option.isSome_iff_exists]
  simp only [entered?_eq_some_iff]

end Country

instance (value : Json) : Decidable value.IsCountryEntry :=
  decidable_of_iff _ Country.isSome_entered?_iff

/-! ### Reading a list -/

/-- What a search takes from a list is taken from the elements that it takes something from, in
their order. -/
theorem forall₂_filterMap {α β : Type} {f : α → Option β} (l : List α) :
    List.Forall₂ (fun b a => f a = some b) (l.filterMap f) (l.filter fun a => (f a).isSome) := by
  induction l with
  | nil => exact .nil
  | cons a rest ih =>
      cases h : f a with
      | none =>
          rw [List.filterMap_cons_none h, List.filter_cons_of_neg (by simp [h])]
          exact ih
      | some b =>
          rw [List.filterMap_cons_some h, List.filter_cons_of_pos (by simp [h])]
          exact .cons h ih

namespace Country

theorem filter_isNamed_filterMap (items : List Json) :
    (items.filterMap read?).filter isNamed = items.filterMap entered? := by
  rw [List.filter_filterMap]
  rfl

/-- The good entries of a list say which countries are read. -/
theorem isEnteredAs_filterMap (items : List Json) :
    List.Forall₂ IsEnteredAs (items.filterMap entered?)
      (items.filter fun item => item.IsCountryEntry) := by
  have hentries := forall₂_filterMap (f := entered?) items
  simp only [entered?_eq_some_iff] at hentries
  simpa only [← isSome_entered?_iff, Bool.decide_eq_true] using hentries

theorem filterMap_entered?_eq_nil_iff {items : List Json} :
    items.filterMap entered? = [] ↔ ∀ item ∈ items, ¬item.IsCountryEntry := by
  simp [List.filterMap_eq_nil_iff, ← isSome_entered?_iff]

/-- The other items do not matter. -/
theorem filterMap_entered?_filter (items : List Json) :
    (items.filter fun item => item.IsCountryEntry).filterMap entered? =
      items.filterMap entered? := by
  rw [List.filterMap_filter]
  refine List.filterMap_congr fun item _ => ?_
  by_cases hentry : item.IsCountryEntry
  · simp [hentry]
  · have hnone : entered? item = none := by
      rwa [← isSome_entered?_iff, Bool.not_eq_true, Option.isSome_eq_false_iff,
        Option.isNone_iff_eq_none] at hentry
    simp [hentry, hnone]

theorem readList?_arr (items : List Json) :
    readList? (.arr items) =
      if items.filterMap entered? = [] then none else some (items.filterMap entered?) := by
  rw [readList?, filter_isNamed_filterMap]
  simp only [List.isEmpty_iff]

theorem readList?_arr_eq_none_iff {items : List Json} :
    readList? (.arr items) = none ↔ ∀ item ∈ items, ¬item.IsCountryEntry := by
  rw [readList?_arr, ← filterMap_entered?_eq_nil_iff]
  by_cases hnone : items.filterMap entered? = []
  · rw [if_pos hnone]
    simp only [hnone]
  · rw [if_neg hnone]
    simp only [hnone, reduceCtorEq]

end Country

/-! ### The wire form -/

theorem Region.read?_toWire (region : Region) : read? region.toWire = some region := by
  obtain ⟨name, shortCode⟩ := region
  cases shortCode <;> rfl

namespace Country

theorem readRegions?_map (regions : List Region) :
    readRegions? (regions.map Region.toWire) = some regions := by
  induction regions with
  | nil => rfl
  | cons region rest ih => rw [List.map_cons, readRegions?, Region.read?_toWire, ih]

/-- The wire form of a country is read as the country. -/
theorem read?_toWire (country : Country) : read? country.toWire = some country := by
  have hregions := readRegions?_map country.regions
  simp [read?, toWire, ofMembers?, Members.either?, Members.get?, List.lookup_cons, readRegionList?,
    hregions]

/-- A table of countries with codes and names comes back from the wire. -/
theorem readList?_toWire {countries : List Country} (hsome : countries ≠ [])
    (hnamed : ∀ country ∈ countries, country.code ≠ "" ∧ country.name ≠ "") :
    readList? (Place.Table.toWire ⟨countries⟩) = some countries := by
  have hread : (countries.map toWire).filterMap read? = countries := by
    rw [List.filterMap_map]
    simp [read?_toWire]
  have hkept : countries.filter isNamed = countries :=
    List.filter_eq_self.2 fun country hcountry => isNamed_iff.2 (hnamed country hcountry)
  refine readList?_eq_some_iff.2 ⟨countries.map toWire, rfl, ?_, hsome⟩
  rw [hread, hkept]

/-- **Country data survive the wire.**  Nothing is read just if the data are no list or have no good
entry.  Else the good entries are read in their order, and so they are from any list that has the
same ones, whatever stands between them; and the wire form of a table of these countries is read as
the same countries again. -/
theorem readList?_survives_wire (data : Json) :
    (readList? data = none ↔
      (∀ items, data ≠ .arr items) ∨
        ∃ items, data = .arr items ∧ ∀ item ∈ items, ¬item.IsCountryEntry) ∧
    ∀ countries, readList? data = some countries →
      (∃ items, data = .arr items ∧
        List.Forall₂ IsEnteredAs countries (items.filter fun item => item.IsCountryEntry) ∧
        ∀ others : List Json, (others.filter fun item => item.IsCountryEntry) =
            (items.filter fun item => item.IsCountryEntry) →
          readList? (.arr others) = some countries) ∧
      readList? (Place.Table.toWire ⟨countries⟩) = some countries := by
  constructor
  · cases data with
    | arr items =>
        rw [readList?_arr_eq_none_iff]
        simp
    | null | bool _ | int _ | num _ | str _ | obj _ => simp [readList?]
  · intro countries hread
    obtain ⟨items, rfl, hcountries, hsome⟩ := readList?_eq_some_iff.1 hread
    rw [filter_isNamed_filterMap] at hcountries
    refine ⟨⟨items, rfl, ?_, ?_⟩, ?_⟩
    · rw [hcountries]
      exact isEnteredAs_filterMap items
    · intro others hsame
      rw [← hread, readList?_arr, readList?_arr, ← filterMap_entered?_filter, hsame,
        filterMap_entered?_filter]
    · exact readList?_toWire hsome fun country hcountry => named_of_readList? hread hcountry

/-- Country data with good entries between other items: a region without a short code and one with
an empty one, a country without regions, and entries that are spoilt in different ways. -/
def patchyData : Json :=
  .arr [.null,
    .obj [("country_short_code", .str "CA"), ("countryName", .str "Canada"),
      ("regions", .arr [.obj [("name", .str "Ontario"), ("shortCode", .null)],
        .obj [("name", .str ""), ("short_code", .str "")]])],
    .obj [("countryName", .str "Mali"), ("countryShortCode", .str "ML"), ("regions", .null)],
    .obj [("countryName", .str "Chad"), ("countryShortCode", .int 5)],
    .obj [("countryName", .str ""), ("countryShortCode", .str "NO")],
    .obj [("countryName", .str "Malta"), ("countryShortCode", .str "MT")]]

/-- The countries in it. -/
def patchyCountries : List Country :=
  [⟨"Canada", "CA", [⟨"Ontario", none⟩, ⟨"", some ""⟩]⟩, ⟨"Malta", "MT", []⟩]

/-- They are read, and read again from the wire. -/
theorem patchyData_survives_wire :
    readList? patchyData = some patchyCountries ∧
      readList? (Place.Table.toWire ⟨patchyCountries⟩) = some patchyCountries := by
  have hread : readList? patchyData = some patchyCountries := by decide
  exact ⟨hread, ((readList?_survives_wire patchyData).2 patchyCountries hread).2⟩

end Country

end Enrolment
