/-
Regions by the country that they are looked for in.

A region is found in a country just if one of the country's regions is called by the text,
which means that the text is its short code or its name.  Nothing else of a table matters
than its countries, in order, and the regions of those with the code: tables that agree on
these (`Table.AgreesOn`) find the same.
-/
import Mathlib.Data.List.Forall2
import Enrolment.Proofs.Text.Basic
import Enrolment.Place.Table

namespace Enrolment

/-! ### What a region is called by -/

/-- Whether a text is the short code or the name of a region, but for case and the blanks around
it. -/
def Region.IsCalled (region : Region) (text : String) : Prop :=
  (∃ code, region.shortCode = some code ∧ code ≠ "" ∧ Place.fold code = Place.fold text) ∨
    Place.fold region.name = Place.fold text

namespace Place.Table

theorem hasShortCode_iff {region : Region} {key : String} :
    hasShortCode key region = true ↔
      ∃ code, region.shortCode = some code ∧ code ≠ "" ∧ fold code = key := by
  unfold hasShortCode
  cases region.shortCode with
  | none => simp
  | some code => simp

instance (region : Region) (text : String) : Decidable (region.IsCalled text) :=
  decidable_of_iff (hasShortCode (fold text) region = true ∨ fold region.name = fold text) <| by
    rw [Region.IsCalled, hasShortCode_iff]

/-- No region is found just if none is called by the text. -/
theorem regionIn?_eq_none_iff {regions : List Region} {text : String} :
    regionIn? regions (fold text) = none ↔ ∀ region ∈ regions, ¬region.IsCalled text := by
  unfold regionIn? Region.IsCalled
  rw [Option.or_eq_none_iff, List.find?_eq_none, List.find?_eq_none]
  simp only [hasShortCode_iff, decide_eq_true_eq, not_or]
  constructor
  · intro h region hregion
    exact ⟨h.1 region hregion, h.2 region hregion⟩
  · intro h
    exact ⟨fun region hregion => (h region hregion).1, fun region hregion => (h region hregion).2⟩

/-- A region that is found is called by the text. -/
theorem of_regionIn?_eq_some {regions : List Region} {text : String} {region : Region}
    (h : regionIn? regions (fold text) = some region) : region ∈ regions ∧ region.IsCalled text := by
  unfold regionIn? at h
  rcases Option.or_eq_some_iff.1 h with hcode | ⟨-, hname⟩
  · exact ⟨List.mem_of_find?_eq_some hcode, .inl (hasShortCode_iff.1 (List.find?_some hcode))⟩
  · have hcalled := List.find?_some hname
    exact ⟨List.mem_of_find?_eq_some hname, .inr (of_decide_eq_true hcalled)⟩

theorem region?_eq_none_iff {table : Table} {code text : String} :
    table.region? code text = none ↔
      fold text = "" ∨ ∀ region ∈ table.regions code, ¬region.IsCalled text := by
  unfold region?
  by_cases hblank : fold text = ""
  · simp [hblank]
  · rw [if_neg hblank, regionIn?_eq_none_iff]
    simp [hblank]

theorem of_region?_eq_some {table : Table} {code text : String} {region : Region}
    (h : table.region? code text = some region) :
    region ∈ table.regions code ∧ region.IsCalled text := by
  unfold region? at h
  by_cases hblank : fold text = ""
  · rw [if_pos hblank] at h
    cases h
  · rw [if_neg hblank] at h
    exact of_regionIn?_eq_some h

end Place.Table

/-! ### Tables that agree on a code -/

/-- Whether two countries have the same name and code, and the same regions if the code is the
given one. -/
def Country.AgreesOn (code : String) (country other : Country) : Prop :=
  country.name = other.name ∧ country.code = other.code ∧
    (Place.fold country.code = Place.fold code → country.regions = other.regions)

instance (code : String) (country other : Country) : Decidable (country.AgreesOn code other) :=
  inferInstanceAs (Decidable (_ ∧ _ ∧ (_ → _)))

/-- Searches of two lists for related elements come to related elements, or both to none. -/
theorem rel_find?_of_forall₂ {α β : Type} {r : α → β → Prop} {p : α → Bool} {q : β → Bool}
    {l : List α} {m : List β} (h : List.Forall₂ r l m) (hsame : ∀ a b, r a b → p a = q b) :
    Option.Rel r (l.find? p) (m.find? q) := by
  induction h with
  | nil => exact .none
  | @cons a b l m hab _ ih =>
      rw [List.find?_cons, List.find?_cons, ← hsame a b hab]
      cases p a with
      | true => exact .some hab
      | false => exact ih

/-- What is the same for related elements is the same for what was found. -/
theorem map_eq_of_rel {α β γ : Type} {r : α → β → Prop} {f : α → γ} {g : β → γ}
    {a : Option α} {b : Option β} (h : Option.Rel r a b) (hsame : ∀ a b, r a b → f a = g b) :
    a.map f = b.map g := by
  cases h with
  | none => rfl
  | some hab => exact congrArg some (hsame _ _ hab)

namespace Place.Table

/-- Whether two tables have the same countries in the same order, as far as names and codes go, and
the same regions for each country with the given code. -/
def AgreesOn (code : String) (table other : Table) : Prop :=
  List.Forall₂ (Country.AgreesOn code) table.countries other.countries

namespace AgreesOn

variable {code : String} {table other : Table} (h : table.AgreesOn code other)
include h

/-- A country is found by its code in both tables. -/
theorem country? (key : String) :
    Option.Rel (Country.AgreesOn code) (table.country? key) (other.country? key) := by
  refine rel_find?_of_forall₂ (List.forall₂_reverse_iff.2 h) ?_
  intro country found hagree
  rw [hagree.2.1]

/-- And so is one by its name. -/
theorem countryNamed? (key : String) :
    Option.Rel (Country.AgreesOn code) (table.countryNamed? key) (other.countryNamed? key) := by
  refine rel_find?_of_forall₂ (List.forall₂_reverse_iff.2 h) ?_
  intro country found hagree
  rw [hagree.1]

theorem regions : table.regions code = other.regions code := by
  have hrel := h.country? code
  unfold Table.regions
  cases hfound : table.country? code with
  | none =>
      rw [hfound] at hrel
      generalize other.country? code = found at hrel ⊢
      cases hrel
      rfl
  | some country =>
      -- The countries that are found need not be the same, but both have the code.
      have hcode := List.find?_some hfound
      rw [hfound] at hrel
      generalize other.country? code = found at hrel ⊢
      cases hrel with
      | some hagree => exact hagree.2.2 (of_decide_eq_true hcode)

/-- **The regions of a country are found in both tables alike.** -/
theorem region? (text : String) : table.region? code text = other.region? code text := by
  unfold Table.region?
  rw [h.regions]

end AgreesOn

end Place.Table

end Enrolment
