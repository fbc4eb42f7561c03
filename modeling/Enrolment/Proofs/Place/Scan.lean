/-
Looking for a region in all countries.

The scan goes through the countries in order, but it looks up each of them again by its code.
Of several countries with one code the last one is found, so that one is looked through in the
place of all of them, and the regions of the others are never seen.  What is found is therefore
a region of a country that is the last one of its code (`Table.IsCurrent`), and a region that
stands only in other countries is hidden (`Table.Hides`).
-/
import Enrolment.Proofs.Place.Choices
import Enrolment.Proofs.Place.Regions

namespace Enrolment

/-- Whether a country has a region that is called by a text. -/
def Country.HasCalled (country : Country) (text : String) : Prop :=
  ∃ region ∈ country.regions, region.IsCalled text

instance (country : Country) (text : String) : Decidable (country.HasCalled text) :=
  inferInstanceAs (Decidable (∃ region ∈ country.regions, region.IsCalled text))

namespace Place

theorem fold_eq_empty_iff {key : String} : fold key = "" ↔ Text.isBlankText key = true := by
  constructor
  · intro h
    by_contra hblank
    exact fold_ne_empty (by simpa using hblank) h
  · intro h
    have htrim : Text.trim key = "" := by
      rw [← String.toList_eq_nil_iff, Text.toList_trim]
      exact Text.strip_eq_nil_iff.2 h
    rw [fold, htrim]
    rfl

namespace Table

/-! ### The last country of a code -/

/-- Whether a country is the last one of its code. -/
def IsCurrent (table : Table) (country : Country) : Prop :=
  ∃ before after, table.countries = before ++ country :: after ∧
    ∀ later ∈ after, fold later.code ≠ fold country.code

variable {table : Table} {country : Country} {code text : String}

theorem IsCurrent.mem (h : table.IsCurrent country) : country ∈ table.countries := by
  obtain ⟨before, after, hsplit, -⟩ := h
  rw [hsplit]
  exact List.mem_append_right before List.mem_cons_self

/-- **The country of a code is the last one that has it.** -/
theorem country?_eq_some_iff :
    table.country? code = some country ↔
      fold country.code = fold code ∧ table.IsCurrent country := by
  unfold country? IsCurrent
  rw [List.find?_eq_some_iff_append, decide_eq_true_eq]
  refine and_congr_right fun hcode => ?_
  constructor
  · rintro ⟨after, before, hsplit, hafter⟩
    refine ⟨before.reverse, after.reverse, ?_, ?_⟩
    · rw [← List.reverse_reverse table.countries, hsplit, List.reverse_append, List.reverse_cons,
        List.append_assoc, List.singleton_append]
    · intro later hlater
      rw [hcode]
      simpa using hafter later (List.mem_reverse.1 hlater)
  · rintro ⟨before, after, hsplit, hafter⟩
    refine ⟨after.reverse, before.reverse, ?_, ?_⟩
    · rw [hsplit, List.reverse_append, List.reverse_cons, List.append_assoc,
        List.singleton_append]
    · intro later hlater
      have hother := hafter later (List.mem_reverse.1 hlater)
      rw [hcode] at hother
      simpa using hother

/-- Where no two countries have one code, each of them is the last one of its code. -/
theorem isCurrent_of_nodup (h : (table.countries.map (fold ·.code)).Nodup)
    (hcountry : country ∈ table.countries) : table.IsCurrent country := by
  obtain ⟨before, after, hsplit⟩ := List.append_of_mem hcountry
  refine ⟨before, after, hsplit, ?_⟩
  rw [hsplit, List.map_append, List.nodup_append, List.map_cons, List.nodup_cons] at h
  intro later hlater hcode
  exact h.2.1.1 (List.mem_map.2 ⟨later, hlater, hcode⟩)

/-! ### The scan -/

theorem exists_region?_iff :
    (∃ region, table.region? code text = some region) ↔
      Text.isBlankText text = false ∧
        ∃ country, table.country? code = some country ∧ country.HasCalled text := by
  rw [← Option.isSome_iff_exists, Option.isSome_iff_ne_none, ne_eq, region?_eq_none_iff,
    fold_eq_empty_iff, not_or, Bool.not_eq_true]
  refine and_congr_right fun _ => ?_
  unfold regions Country.HasCalled
  cases table.country? code <;> simp

/-- **A region is found just if the last country of some code has one that is called by the
text.** -/
theorem exists_regionAnywhere?_iff :
    (∃ region, table.regionAnywhere? text = some region) ↔
      Text.isBlankText text = false ∧
        ∃ country, table.IsCurrent country ∧ country.HasCalled text := by
  rw [← Option.isSome_iff_exists, regionAnywhere?, List.findSome?_isSome_iff]
  simp only [Option.isSome_iff_exists, exists_region?_iff]
  constructor
  · rintro ⟨country, -, hblank, current, hfound, hcalled⟩
    exact ⟨hblank, current, (country?_eq_some_iff.1 hfound).2, hcalled⟩
  · rintro ⟨hblank, country, hcurrent, hcalled⟩
    exact ⟨country, hcurrent.mem, hblank, country, country?_eq_some_iff.2 ⟨rfl, hcurrent⟩, hcalled⟩

/-- What is found is called by the text, and a region of such a country. -/
theorem of_regionAnywhere?_eq_some {region : Region}
    (h : table.regionAnywhere? text = some region) :
    region.IsCalled text ∧ ∃ country, table.IsCurrent country ∧ region ∈ country.regions := by
  obtain ⟨country, -, hfound⟩ := List.exists_of_findSome?_eq_some h
  obtain ⟨hregion, hcalled⟩ := of_region?_eq_some hfound
  refine ⟨hcalled, ?_⟩
  unfold regions at hregion
  split at hregion
  · rename_i current hcurrent
    exact ⟨current, (country?_eq_some_iff.1 hcurrent).2, hregion⟩
  · cases hregion

/-- Whether a table has regions that are called by a text, but only in countries behind which
another one of the same code stands. -/
def Hides (table : Table) (text : String) : Prop :=
  (∃ country ∈ table.countries, country.HasCalled text) ∧
    ∀ country, table.IsCurrent country → ¬country.HasCalled text

theorem not_hides_of_nodup (h : (table.countries.map (fold ·.code)).Nodup) (text : String) :
    ¬table.Hides text := by
  rintro ⟨⟨country, hcountry, hcalled⟩, hnone⟩
  exact hnone country (isCurrent_of_nodup h hcountry) hcalled

/-- **The scan finds a region just if one is called by the text in a country that is the last one
of its code, and what it finds is such a region.  So it misses a region that is there just for the
texts that the table hides, and for none if no two countries have one code.** -/
theorem regionAnywhere?_outcome (table : Table) (text : String) :
    ((∃ region, table.regionAnywhere? text = some region) ↔
      Text.isBlankText text = false ∧
        ∃ country, table.IsCurrent country ∧ country.HasCalled text) ∧
    (∀ region, table.regionAnywhere? text = some region →
      region.IsCalled text ∧ ∃ country, table.IsCurrent country ∧ region ∈ country.regions) ∧
    (Text.isBlankText text = false →
      (((∃ region, table.regionAnywhere? text = some region) ↔
        ∃ country ∈ table.countries, country.HasCalled text) ↔ ¬table.Hides text)) ∧
    ((table.countries.map (fold ·.code)).Nodup → ¬table.Hides text) := by
  refine ⟨exists_regionAnywhere?_iff, fun region => of_regionAnywhere?_eq_some, ?_,
    fun hcodes => not_hides_of_nodup hcodes text⟩
  intro hblank
  rw [exists_regionAnywhere?_iff, Hides]
  constructor
  · rintro hall ⟨hsome, hnone⟩
    obtain ⟨-, country, hcurrent, hcalled⟩ := hall.2 hsome
    exact hnone country hcurrent hcalled
  · intro hshown
    constructor
    · rintro ⟨-, country, hcurrent, hcalled⟩
      exact ⟨country, hcurrent.mem, hcalled⟩
    · intro hsome
      refine ⟨hblank, ?_⟩
      by_contra hnone
      exact hshown ⟨hsome, fun country hcurrent hcalled => hnone ⟨country, hcurrent, hcalled⟩⟩

/-- Two countries that had one code, one after the other. -/
def codeTwice : Table :=
  ⟨[⟨"Czechoslovakia", "CS", [⟨"Bohemia", none⟩, ⟨"Moravia", some "MOR"⟩]⟩,
    ⟨"Serbia and Montenegro", "cs", [⟨"Kosovo", some "KM"⟩]⟩]⟩

/-- A region of the later one is found. -/
theorem kosovo_found :
    Text.isBlankText " km " = false ∧ ¬codeTwice.Hides " km " ∧
      ∃ region, codeTwice.regionAnywhere? " km " = some region := by
  have hblank : Text.isBlankText " km " = false := rfl
  have hcalled : ∃ country ∈ codeTwice.countries, country.HasCalled " km " := by decide
  have hcurrent : ∃ country, codeTwice.IsCurrent country ∧ country.HasCalled " km " :=
    ⟨⟨"Serbia and Montenegro", "cs", [⟨"Kosovo", some "KM"⟩]⟩,
      ⟨[⟨"Czechoslovakia", "CS", [⟨"Bohemia", none⟩, ⟨"Moravia", some "MOR"⟩]⟩], [], rfl, by simp⟩,
      by decide⟩
  obtain ⟨hfound, -, hall, -⟩ := regionAnywhere?_outcome codeTwice " km "
  have hregion := hfound.2 ⟨hblank, hcurrent⟩
  exact ⟨hblank, (hall hblank).1 ⟨fun _ => hcalled, fun _ => hregion⟩, hregion⟩

/-- A region of the earlier one is not found, although it is there. -/
theorem bohemia_not_found :
    Text.isBlankText "Bohemia" = false ∧
      ¬((∃ region, codeTwice.regionAnywhere? "Bohemia" = some region) ↔
        ∃ country ∈ codeTwice.countries, ∃ region ∈ country.regions,
          region.IsCalled "Bohemia") := by
  have hthere : ∃ country ∈ codeTwice.countries, country.HasCalled "Bohemia" := by decide
  have hnone : codeTwice.regionAnywhere? "Bohemia" = none := rfl
  refine ⟨rfl, fun hclaim => ?_⟩
  obtain ⟨region, hfound⟩ := hclaim.2 hthere
  rw [hnone] at hfound
  cases hfound

end Table

end Place

end Enrolment
