/-
A state is resolved in the country that was submitted beside it, and in no other.

Once a country is found among the answers, a value for a state is looked for among the
regions of its code only.  So it is displayed by the name of one of these or as it was
submitted, and every table that agrees on the code displays it alike, whatever regions the
other countries have.  The country itself is found by names and codes, which such a table
has in common too.
-/
import Enrolment.Proofs.Place.Regions
import Enrolment.Submission.Row

namespace Enrolment.Resolve

/-- What is resolved one by one: the items of a list, or else the value itself. -/
def parts : Json → List Json
  | .arr items => items
  | value => [value]

theorem value_eq (context : Context) (field : Field) (answer : Json) :
    value context field answer =
      ", ".intercalate ((parts answer).map (scalar context field)) := by
  cases answer with
  | arr items => rfl
  | null | bool _ | int _ | num _ | str _ | obj _ => rfl

theorem plainValue_eq (answer : Json) :
    Row.plainValue answer = ", ".intercalate ((parts answer).map Json.display) := by
  cases answer with
  | arr items => rfl
  | null | bool _ | int _ | num _ | str _ | obj _ => rfl

/-! ### Another table -/

namespace Context

variable {context : Context} {code : String} {table : Place.Table}
  (h : context.table.AgreesOn code table)
include h

theorem rel_countryOf? (answer : Json) :
    Option.Rel (Country.AgreesOn code) (context.countryOf? answer)
      ({ context with table }.countryOf? answer) := by
  have hcode := h.country? (Text.trim answer.display)
  have hname := h.countryNamed? (Text.trim answer.display)
  unfold countryOf?
  dsimp only
  generalize context.table.country? (Text.trim answer.display) = found at hcode ⊢
  generalize table.country? (Text.trim answer.display) = other at hcode ⊢
  cases hcode with
  | none =>
      rw [Option.none_or, Option.none_or]
      exact hname
  | some hagree =>
      rw [Option.some_or, Option.some_or]
      exact .some hagree

/-- The search for a country among the answers comes to the same code. -/
theorem siblingCode?_of_agreesOn :
    { context with table }.siblingCode? = context.siblingCode? := by
  have hcode (answer : Json) : (Context.countryOf? { context with table } answer).map (·.code) =
      (context.countryOf? answer).map (·.code) :=
    (map_eq_of_rel (rel_countryOf? h answer) fun _ _ hagree => hagree.2.1).symm
  unfold siblingCode?
  simp only [hcode]
  rfl

end Context

/-! ### States -/

section

variable {context : Context} {code : String} (hcode : context.siblingCode? = some code)
include hcode

theorem state_of_siblingCode (raw : String) :
    state context raw = ((context.table.region? code raw).map (·.name)).getD raw := by
  unfold state
  rw [hcode]
  dsimp only
  cases context.table.region? code raw <;> rfl

/-- A state is displayed by the name of a region of the country that is called so, or as it was
submitted. -/
theorem state_cases (raw : String) :
    (∃ region ∈ context.table.regions code, region.IsCalled raw ∧
        state context raw = region.name) ∨
      (Place.fold raw = "" ∨ ∀ region ∈ context.table.regions code, ¬region.IsCalled raw) ∧
        state context raw = raw := by
  rw [state_of_siblingCode hcode]
  cases hfound : context.table.region? code raw with
  | some region =>
      obtain ⟨hregion, hcalled⟩ := Place.Table.of_region?_eq_some hfound
      exact .inl ⟨region, hregion, hcalled, rfl⟩
  | none => exact .inr ⟨Place.Table.region?_eq_none_iff.1 hfound, rfl⟩

theorem state_of_agreesOn {table : Place.Table} (h : context.table.AgreesOn code table)
    (raw : String) : state { context with table } raw = state context raw := by
  have hother := (Context.siblingCode?_of_agreesOn h).trans hcode
  rw [state_of_siblingCode hcode, state_of_siblingCode hother, h.region?]

end

theorem scalar_of_state {field : Field} (hrole : field.role = some .state) (context : Context)
    (item : Json) : scalar context field item = state context item.display := by
  unfold scalar
  rw [hrole]
  rfl

/-- **Beside a country that was found, an answer for a state is displayed the same by all tables
that have the same countries and the same regions for the code of this one.  Each part of it is
displayed by the name of a region of this code that is called so, or as it was submitted; if none
is called like any part, the whole answer is displayed as it was submitted.** -/
theorem value_of_siblingCode {context : Context} {code : String}
    (hcode : context.siblingCode? = some code) {field : Field} (hrole : field.role = some .state)
    (answer : Json) :
    (∀ table, context.table.AgreesOn code table →
      value { context with table } field answer = value context field answer) ∧
    (∀ part ∈ parts answer,
      (∃ region ∈ context.table.regions code, region.IsCalled part.display ∧
        scalar context field part = region.name) ∨
      (Place.fold part.display = "" ∨
          ∀ region ∈ context.table.regions code, ¬region.IsCalled part.display) ∧
        scalar context field part = part.display) ∧
    ((∀ part ∈ parts answer, ∀ region ∈ context.table.regions code,
        ¬region.IsCalled part.display) →
      value context field answer = Row.plainValue answer) := by
  refine ⟨?_, ?_, ?_⟩
  · intro table hagree
    rw [value_eq, value_eq]
    congr 2
    funext part
    rw [scalar_of_state hrole, scalar_of_state hrole, state_of_agreesOn hcode hagree]
  · intro part _
    rw [scalar_of_state hrole]
    exact state_cases hcode part.display
  · intro hnone
    rw [value_eq, plainValue_eq]
    congr 1
    refine List.map_congr_left ?_
    intro part hpart
    rw [scalar_of_state hrole]
    rcases state_cases hcode part.display with ⟨region, hregion, hcalled, -⟩ | ⟨-, hshown⟩
    · exact absurd hcalled (hnone part hpart region hregion)
    · exact hshown

/-- Two neighbours, of which one has for its code what the other has for the code of a region. -/
def neighbours (provinces : List Region) : Place.Table :=
  ⟨[⟨"United States", "US", [⟨"California", some "CA"⟩]⟩, ⟨"Canada", "CA", provinces⟩]⟩

/-- The field in which a state is typed. -/
def stateField : Field :=
  ⟨none, .text, "State", "", false, .plain, some .state, false, [], none⟩

/-- Beside the United States, the code of Canada is that of California, and the code of Quebec is
left alone, whether Canada has this province in the table or not. -/
theorem quebec_unknown_beside_us :
    let context : Context :=
      ⟨neighbours [⟨"Quebec", some "QC"⟩], [("State", .str "CA"), ("Country", .str " us ")], none⟩
    context.siblingCode? = some "US" ∧ context.table.AgreesOn "US" (neighbours []) ∧
      value { context with table := neighbours [] } stateField (.arr [.str "CA", .str "QC"]) =
        value context stateField (.arr [.str "CA", .str "QC"]) ∧
      value context stateField (.arr [.str "CA", .str "QC"]) = "California, QC" ∧
      value context stateField (.str "QC") = "QC" := by
  intro context
  have hcode : context.siblingCode? = some "US" := rfl
  have hrole : stateField.role = some .state := rfl
  have hagree : context.table.AgreesOn "US" (neighbours []) :=
    .cons (by decide) (.cons (by decide) .nil)
  obtain ⟨hsame, -, -⟩ := value_of_siblingCode hcode hrole (.arr [.str "CA", .str "QC"])
  obtain ⟨-, -, hunknown⟩ := value_of_siblingCode hcode hrole (.str "QC")
  refine ⟨hcode, hagree, hsame _ hagree, rfl, hunknown ?_⟩
  intro part hpart region hregion
  have hquebec : part = .str "QC" := by simpa [parts] using hpart
  have hcalifornia : region = ⟨"California", some "CA"⟩ := List.mem_singleton.1 hregion
  rw [hquebec, hcalifornia]
  decide

end Enrolment.Resolve
