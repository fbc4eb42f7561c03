/-
Finding a choice of a table again by what is submitted for it.

A country is submitted by its code, and a region by its short code or else by its name.  The
last country of a code counts, and of the regions of a country the first one that has the
value for its short code, or else the first one that has it for its name.  In a table whose
choices can be told apart (`Table.IsUnambiguous`) a country is found again.  So is a region
with a short code; one without may be found in another of the same name, but in none of
another name, since a region that has the value for its short code would be submitted by it.
-/
import Enrolment.Place.Table
import Enrolment.Proofs.Place.Country
import Enrolment.Proofs.Text.Basic
import Mathlib.Data.List.Nodup

namespace Enrolment

namespace Place

/-! ### Keys -/

theorem fold_trim (key : String) : fold (Text.trim key) = fold key := by
  unfold fold
  rw [Text.trim_trim]

theorem fold_ne_empty {key : String} (h : Text.isBlankText key = false) : fold key ≠ "" :=
  Text.lower_ne_empty (Text.trim_ne_empty h)

/-- By a key that no other has, that is found which the key belongs to. -/
theorem find?_of_nodup_map {α β : Type} [DecidableEq β] {keyOf : α → β} {l : List α}
    (h : (l.map keyOf).Nodup) {a : α} (ha : a ∈ l) :
    (l.find? fun b => keyOf b = keyOf a) = some a := by
  cases hfound : l.find? fun b => keyOf b = keyOf a with
  | none => exact absurd (decide_eq_true rfl) (List.find?_eq_none.1 hfound a ha)
  | some b =>
      have hkey := List.find?_some hfound
      rw [List.inj_on_of_nodup_map h (List.mem_of_find?_eq_some hfound) ha (of_decide_eq_true hkey)]

namespace Table

/-! ### Regions of one country -/

/-- A region with a short code is submitted by it. -/
theorem fold_optionValue_of_hasShortCode {key : String} {region : Region}
    (h : hasShortCode key region = true) : fold region.optionValue = key := by
  unfold hasShortCode at h
  unfold Region.optionValue
  cases hcode : region.shortCode with
  | none =>
      rw [hcode] at h
      cases h
  | some code =>
      rw [hcode] at h
      dsimp only at h ⊢
      rw [Bool.and_eq_true] at h
      rw [if_neg (of_decide_eq_true h.1)]
      exact of_decide_eq_true h.2

/-- A region is submitted by its short code, or else by its name. -/
theorem hasShortCode_or_optionValue_eq (region : Region) :
    hasShortCode (fold region.optionValue) region = true ∨ region.optionValue = region.name := by
  unfold hasShortCode Region.optionValue
  cases region.shortCode with
  | none => exact .inr rfl
  | some code =>
      dsimp only
      by_cases hempty : code = ""
      · exact .inr (if_pos hempty)
      · left
        simp [hempty]

/-- Among regions with values of their own, a value finds one with the name of the region that it
belongs to. -/
theorem exists_regionIn? {regions : List Region}
    (h : (regions.map (fold ·.optionValue)).Nodup) {region : Region} (hregion : region ∈ regions) :
    ∃ found ∈ regions, regionIn? regions (fold region.optionValue) = some found ∧
      fold found.name = fold region.name := by
  unfold regionIn?
  cases hcoded : regions.find? (hasShortCode (fold region.optionValue)) with
  | some found =>
      have hvalue := fold_optionValue_of_hasShortCode (List.find?_some hcoded)
      obtain rfl := List.inj_on_of_nodup_map h (List.mem_of_find?_eq_some hcoded) hregion hvalue
      exact ⟨found, hregion, rfl, rfl⟩
  | none =>
      -- the region has no short code either, so the value is its name
      have huncoded := List.find?_eq_none.1 hcoded region hregion
      rw [(hasShortCode_or_optionValue_eq region).resolve_left huncoded, Option.none_or]
      cases hnamed : regions.find? fun other => fold other.name = fold region.name with
      | none => exact absurd (decide_eq_true rfl) (List.find?_eq_none.1 hnamed region hregion)
      | some found =>
          have hname := List.find?_some hnamed
          exact ⟨found, List.mem_of_find?_eq_some hnamed, rfl, of_decide_eq_true hname⟩

/-! ### Tables -/

/-- Blanks around a code do not matter. -/
theorem country?_trim (table : Table) (code : String) :
    table.country? (Text.trim code) = table.country? code := by
  unfold country?
  rw [fold_trim]

/-- Whether the choices of a table can be told apart: no two countries have one code, and in each
country no two regions have one value and none has a blank one. -/
structure IsUnambiguous (table : Table) : Prop where
  codes : (table.countries.map (fold ·.code)).Nodup
  values : ∀ country ∈ table.countries, (country.regions.map (fold ·.optionValue)).Nodup
  named : ∀ country ∈ table.countries, ∀ region ∈ country.regions,
    Text.isBlankText region.optionValue = false

variable {table : Table} {country : Country}

/-- A country is found by its code. -/
theorem country?_code (h : table.IsUnambiguous) (hcountry : country ∈ table.countries) :
    table.country? country.code = some country := by
  have hcodes : (table.countries.reverse.map (fold ·.code)).Nodup := by
    rw [List.map_reverse, List.nodup_reverse]
    exact h.codes
  exact find?_of_nodup_map hcodes (List.mem_reverse.2 hcountry)

/-- **By the code of a country and the value of one of its regions, a region of this country is
found that has the same name.** -/
theorem exists_region? (h : table.IsUnambiguous) (hcountry : country ∈ table.countries)
    {region : Region} (hregion : region ∈ country.regions) :
    ∃ found ∈ country.regions, table.region? country.code region.optionValue = some found ∧
      fold found.name = fold region.name := by
  unfold region? regions
  rw [if_neg (fold_ne_empty (h.named country hcountry region hregion)), country?_code h hcountry]
  exact exists_regionIn? (h.values country hcountry) hregion

end Table

end Place

end Enrolment
