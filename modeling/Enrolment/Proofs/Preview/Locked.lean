/-
When a preview shows a state field as locked, and what then unlocks it.

A state field is locked as long as no country is chosen in a form that asks for one.  Then the
form has a field with a list of countries, which stands in the same document and is not locked
itself; and since every table has countries, whatever was fetched for it, there is one to choose.
The widget knows which fields may have to be unlocked, as their plans say that they need a country.

No other control can be disabled: of the attributes that are drawn, only those of a locked state
field have that name (`elementsWith_control`).
-/
import Enrolment.Proofs.Json.RoundTrip
import Enrolment.Proofs.Place.Cache
import Enrolment.Proofs.Preview.Blocks
import Enrolment.Proofs.Text.Basic

namespace Enrolment.Preview

open Markup (elementsWith hasName)

/-! ### What a document shows -/

/-- What it means that a document shows the field at a position as a disabled input: the block
that has this position has such an input in it. -/
def ShowsDisabled (document : Markup) (position : Nat) : Prop :=
  ∃ tag attributes children own,
    (Markup.element tag attributes children).IsIn document ∧
    .pair positionAttribute (toString position) ∈ attributes ∧
    (Markup.void "input" own).IsIn (.element tag attributes children) ∧ .flag "disabled" ∈ own

/-- What it means that a document has a country of a table to choose: there is a list of countries
in it, which is not disabled, and one of its entries is for this country. -/
def OffersCountry (document : Markup) (table : Place.Table) : Prop :=
  ∃ attributes entries,
    (Markup.element "select" attributes (blankOption Wording.countryPlaceholder :: entries)).IsIn
      document ∧
    .flag "disabled" ∉ attributes ∧
    ∃ country ∈ table.countries, country.code ≠ "" ∧ country.name ≠ "" ∧
      ∃ selected, option country.code country.name selected ∈ entries

/-- What it takes for a field to be locked: it is a state field of a form with a country field, and
no country is chosen. -/
structure IsLocked (field : Field) (fields : List Field) (view : View) : Prop where
  control : field.control = .stateControl
  country_field : ∃ other ∈ fields, other.control = .countrySelect
  not_chosen : Text.trim view.chosen = ""

theorem anyCountry_iff {fields : List Field} :
    Field.anyCountry fields = true ↔ ∃ other ∈ fields, other.control = .countrySelect := by
  rw [Field.anyCountry, List.any_eq_true]
  simp

/-- A plan says that its field needs a country if it is a state field of a form with a country
field. -/
theorem needsCountry_plan_iff {field : Field} {fields : List Field} {index : Int} :
    (field.plan index (Field.anyCountry fields)).needsCountry = true ↔
      field.control = .stateControl ∧ ∃ other ∈ fields, other.control = .countrySelect := by
  rw [Field.plan, Bool.and_eq_true, decide_eq_true_eq, anyCountry_iff]

theorem View.country_eq_empty_iff {view : View} :
    view.country = "" ↔ Text.trim view.chosen = "" :=
  Text.upper_eq_empty_iff

variable {fields : List Field} {theme : Theme} {table : Place.Table} {view : View}

theorem isLocked_iff {field : Field} :
    IsLocked field fields view ↔
      field.control = .stateControl ∧ view.country = "" ∧ Field.anyCountry fields = true := by
  rw [anyCountry_iff, View.country_eq_empty_iff]
  constructor
  · intro h
    exact ⟨h.control, h.not_chosen, h.country_field⟩
  · rintro ⟨hcontrol, hchosen, hcountry⟩
    exact ⟨hcontrol, hcountry, hchosen⟩

/-! ### One block -/

/-- The block of the field at a position of a form. -/
def blockAt (fields : List Field) (theme : Theme) (table : Place.Table) (view : View)
    (position : Nat) (field : Field) : Markup :=
  fieldBlock table view.country (Field.anyCountry fields) (Style.frame theme.look).error
    ⟨position, field⟩

theorem mem_blocks_document_iff {block : Markup} :
    block ∈ blocks (document fields theme table view) ↔
      ∃ position field, fields[position]? = some field ∧
        block = blockAt fields theme table view position field := by
  rw [(blocks_document_perm fields theme table view).mem_iff, Form.mem_mapIdx_iff]
  rfl

/-- Each field has its block in the document. -/
theorem blockAt_isIn {position : Nat} {field : Field} (h : fields[position]? = some field) :
    (blockAt fields theme table view position field).IsIn (document fields theme table view) :=
  (Markup.mem_elementsWith_iff.1 (mem_blocks_document_iff.2 ⟨position, field, h, rfl⟩)).1

/-- A block has no position but that of its field. -/
theorem eq_of_position_mem_blockAt {position other : Nat} {field : Field}
    (h : .pair positionAttribute (toString position) ∈
      (blockAt fields theme table view other field).attributes) : position = other := by
  have hpair := List.mem_singleton.1 h
  rw [Attribute.pair.injEq, ← Json.toString_eq_ofInt] at hpair
  exact Json.eq_of_toString_eq hpair.2

/-- What has a position in a document is the block of the field there. -/
theorem eq_blockAt_of_isIn {tag : String} {attributes : List Attribute} {children : List Markup}
    {position : Nat}
    (hblock : (Markup.element tag attributes children).IsIn (document fields theme table view))
    (hposition : .pair positionAttribute (toString position) ∈ attributes) :
    ∃ field, fields[position]? = some field ∧
      .element tag attributes children = blockAt fields theme table view position field := by
  have hnamed : hasName positionAttribute attributes = true :=
    List.any_eq_true.2 ⟨_, hposition, decide_eq_true rfl⟩
  obtain ⟨other, field, hfield, heq⟩ :=
    mem_blocks_document_iff.1 (Markup.mem_elementsWith_iff.2 ⟨hblock, hnamed⟩)
  have hpair : .pair positionAttribute (toString position) ∈
      (Markup.element tag attributes children).attributes := hposition
  rw [heq] at hpair
  obtain rfl := eq_of_position_mem_blockAt hpair
  exact ⟨field, hfield, heq⟩

/-- A block has the position of its field. -/
theorem position_mem_blockAt (fields : List Field) (theme : Theme) (table : Place.Table)
    (view : View) (position : Nat) (field : Field) :
    .pair positionAttribute (toString position) ∈
      (blockAt fields theme table view position field).attributes := by
  rw [Json.toString_eq_ofInt]
  exact List.mem_singleton_self _

/-- The control of a field is in its block. -/
theorem control_isIn_blockAt (fields : List Field) (theme : Theme) (table : Place.Table)
    (view : View) (position : Nat) (field : Field) :
    (control field position table view.country (Field.anyCountry fields)).IsIn
      (blockAt fields theme table view position field) :=
  .child (List.mem_cons_of_mem _ List.mem_cons_self) .self

/-- What is disabled in a block is the control of a locked field. -/
theorem isLocked_of_mem_elementsWith {position : Nat} {field : Field} {piece : Markup}
    (h : piece ∈ elementsWith "disabled" (blockAt fields theme table view position field)) :
    IsLocked field fields view := by
  rw [isLocked_iff]
  by_contra hlocked
  have hcontrol : elementsWith "disabled"
      (control field position table view.country (Field.anyCountry fields)) = [] := by
    refine elementsWith_control (by decide) field position table ?_
    rintro ⟨-, hall⟩
    exact hlocked hall
  rw [blockAt, fieldBlock, Markup.elementsWith_element rfl, List.flatMap_cons, List.flatMap_cons,
    hcontrol, Markup.elementsWith_element rfl, List.flatMap_singleton, List.flatMap_singleton,
    Markup.elementsWith_element rfl, Markup.elementsWith] at h
  cases h

/-- The control of a locked field is a disabled input. -/
theorem control_of_isLocked {field : Field} (h : IsLocked field fields view) (position : Nat)
    (table : Place.Table) :
    ∃ own, control field position table view.country (Field.anyCountry fields) =
      .void "input" own ∧ .flag "disabled" ∈ own := by
  obtain ⟨hcontrol, hchosen, hcountry⟩ := isLocked_iff.1 h
  rw [control, hcontrol, hchosen, hcountry]
  exact ⟨_, rfl, by simp⟩

/-! ### Whole documents -/

/-- **A preview shows those fields as disabled inputs that are locked.** -/
theorem showsDisabled_iff {position : Nat} :
    ShowsDisabled (document fields theme table view) position ↔
      ∃ field, fields[position]? = some field ∧ IsLocked field fields view := by
  constructor
  · rintro ⟨tag, attributes, children, own, hblock, hposition, hinput, hdisabled⟩
    obtain ⟨field, hfield, heq⟩ := eq_blockAt_of_isIn hblock hposition
    have hfound : Markup.void "input" own ∈
        elementsWith "disabled" (blockAt fields theme table view position field) := by
      rw [← heq, Markup.mem_elementsWith_iff]
      exact ⟨hinput, List.any_eq_true.2 ⟨_, hdisabled, decide_eq_true rfl⟩⟩
    exact ⟨field, hfield, isLocked_of_mem_elementsWith hfound⟩
  · rintro ⟨field, hfield, hlocked⟩
    obtain ⟨own, hcontrol, hdisabled⟩ := control_of_isLocked hlocked position table
    have hinput := control_isIn_blockAt fields theme table view position field
    rw [hcontrol] at hinput
    have hposition := position_mem_blockAt fields theme table view position field
    exact ⟨_, _, _, own, blockAt_isIn hfield, hposition, hinput, hdisabled⟩

/-- **A form with a country field offers a country, if its table has any.** -/
theorem offersCountry_document (hfield : ∃ other ∈ fields, other.control = .countrySelect)
    (hstocked : table.IsStocked) (theme : Theme) (view : View) :
    OffersCountry (document fields theme table view) table := by
  obtain ⟨field, hmem, hcontrol⟩ := hfield
  obtain ⟨position, hposition⟩ := List.mem_iff_getElem?.1 hmem
  have hlist := (control_isIn_blockAt fields theme table view position field).trans
    (blockAt_isIn hposition)
  rw [control, hcontrol] at hlist
  obtain ⟨country, hcountry⟩ := List.exists_mem_of_ne_nil _ hstocked.countries_ne_nil
  obtain ⟨hcode, hname⟩ := hstocked.named country hcountry
  refine ⟨_, _, hlist, by simp [commonAttributes], country, hcountry, hcode, hname, ?_⟩
  exact ⟨country.code = view.country, List.mem_map_of_mem hcountry⟩

/-- **Whatever was fetched, a preview shows just those fields as disabled inputs that are state
fields of a form with a country field while no country is chosen.  Then a country can be chosen in
the same document, and the plans of these fields say that they need one; without a country field
no plan says so.  It is this document whose text is the preview of a list from which these fields
are read, and these are the plans that the list is compiled to.** -/
theorem locked_with_way_out {cache : Place.Cache} (h : cache.Reachable) (container : Json)
    (fields : List Field) (theme : Theme) (view : View) :
    let table := cache.get.1.table
    let shown := document fields theme table view
    let plans := (Widget.Config.ofForm container fields theme table).plans
    (∀ position, ShowsDisabled shown position ↔
      ∃ field, fields[position]? = some field ∧ IsLocked field fields view) ∧
    (∀ position, ShowsDisabled shown position →
      OffersCountry shown table ∧ (∃ plan ∈ plans, plan.index = position) ∧
        ∀ plan ∈ plans, plan.index = position → plan.needsCountry = true) ∧
    ((∀ field ∈ fields, field.control ≠ .countrySelect) →
      ∀ plan ∈ plans, plan.needsCountry = false) ∧
    ∀ (items : List Json) (value : Json), Field.ofItems items = .ok fields →
      Theme.read value = .ok theme →
      ofValues (.arr items) value table view = .ok (Markup.renderDocument shown) ∧
      Widget.compileValues container (.arr items) value table =
        .ok (.ofConfig (.ofForm container fields theme table)) := by
  intro table shown plans
  refine ⟨fun position => showsDisabled_iff, ?_, ?_, ?_⟩
  · intro position hshown
    obtain ⟨field, hfield, hlocked⟩ := showsDisabled_iff.1 hshown
    refine ⟨offersCountry_document hlocked.country_field h.isStocked_get theme view,
      ⟨_, Widget.Config.mem_plans_iff.2 ⟨position, field, hfield, rfl⟩, rfl⟩, ?_⟩
    intro plan hplan hindex
    obtain ⟨other, found, hfound, rfl⟩ := Widget.Config.mem_plans_iff.1 hplan
    obtain rfl : other = position := Int.ofNat_inj.1 hindex
    obtain rfl : field = found := Option.some_inj.1 (hfield.symm.trans hfound)
    exact needsCountry_plan_iff.2 ⟨hlocked.control, hlocked.country_field⟩
  · intro hnone plan hplan
    obtain ⟨position, field, -, rfl⟩ := Widget.Config.mem_plans_iff.1 hplan
    rw [← Bool.not_eq_true, needsCountry_plan_iff]
    rintro ⟨-, other, hother, hcountry⟩
    exact hnone other hother hcountry
  · intro items value hfields htheme
    exact ⟨ofValues_arr hfields htheme table view,
      Widget.compileValues_eq hfields htheme container table⟩

/-- A country field. -/
def countryField : Field :=
  ⟨some 1, .select, "Country", "", true, .plain, some .country, false, [], none⟩

/-- A state field. -/
def stateField : Field :=
  ⟨some 2, .text, "State", "", true, .plain, some .state, false, [], none⟩

/-- A list from which these two are read. -/
def addressItems : List Json :=
  [.obj [("id", .int 1), ("type", .str "select"), ("label", .str "Country"),
      ("required", .bool true), ("role", .str "country")],
    .obj [("id", .int 2), ("label", .str "State"), ("required", .bool true),
      ("role", .str "state")]]

/-- In front of a network that is down, a state field is locked until a country is chosen, and so
it is shown in the preview; on its own it is never locked. -/
theorem stateField_locked_with_way_out :
    let cache := Place.Cache.empty []
    let shown := document [countryField, stateField] .plain cache.get.1.table ⟨"mobile", " "⟩
    let plans fields := (Widget.Config.ofForm .null fields .plain cache.get.1.table).plans
    cache.Reachable ∧ IsLocked stateField [countryField, stateField] ⟨"mobile", " "⟩ ∧
      ShowsDisabled shown 1 ∧ OffersCountry shown cache.get.1.table ∧
      (∃ plan ∈ plans [countryField, stateField], plan.index = 1 ∧ plan.needsCountry = true) ∧
      (∀ plan ∈ plans [stateField], plan.needsCountry = false) ∧
      Field.ofItems addressItems = .ok [countryField, stateField] ∧
      ofValues (.arr addressItems) .null cache.get.1.table ⟨"mobile", " "⟩ =
        .ok (Markup.renderDocument shown) := by
  intro cache shown plans
  have hreachable : cache.Reachable := .empty []
  have hlocked : IsLocked stateField [countryField, stateField] ⟨"mobile", " "⟩ :=
    ⟨rfl, ⟨countryField, List.mem_cons_self, rfl⟩, rfl⟩
  have hfields : Field.ofItems addressItems = .ok [countryField, stateField] := rfl
  obtain ⟨hiff, hway, -, htexts⟩ := locked_with_way_out hreachable .null [countryField, stateField]
    .plain ⟨"mobile", " "⟩
  obtain ⟨-, -, halone, -⟩ := locked_with_way_out hreachable .null [stateField] .plain
    ⟨"mobile", " "⟩
  have hshown : ShowsDisabled shown 1 := (hiff 1).2 ⟨stateField, rfl, hlocked⟩
  obtain ⟨hoffers, ⟨plan, hplan, hindex⟩, hneeds⟩ := hway 1 hshown
  obtain ⟨htext, -⟩ := htexts addressItems .null hfields rfl
  refine ⟨hreachable, hlocked, hshown, hoffers, ⟨plan, hplan, hindex, hneeds plan hplan hindex⟩,
    ?_, hfields, htext⟩
  exact halone (by simp [stateField, Field.control])

end Enrolment.Preview
