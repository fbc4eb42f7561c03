/-
Each object of a raw list of fields has one plan and one block.

The widget's plans and the blocks of a preview are both made row by row, and the rows
arrange the fields (`Form.arranges_groups`), so that much is a matter of mapping over
rows.  For the preview it remains to say what counts as a block in a document: an
element with the attribute that holds a field's position.  The document is searched for
them in full, and whatever else is drawn turns out to have no such element in it.
-/
import Enrolment.Preview.Page
import Enrolment.Proofs.Markup.Search
import Enrolment.Proofs.Widget.Plans

namespace Enrolment

theorem StateMode.of_eq_locked_iff {hasRegions countryChosen needsCountry : Bool} :
    StateMode.of hasRegions countryChosen needsCountry = .locked ↔
      hasRegions = false ∧ needsCountry = true ∧ countryChosen = false := by
  revert hasRegions countryChosen needsCountry
  decide

namespace Preview

open Markup (elementsWith hasName)

/-! ### What is no block -/

/-- The name of the attribute that holds the position of a block's field. -/
def positionAttribute : String :=
  "data-field-index"

/-- The blocks of fields in a piece of markup. -/
def blocks (piece : Markup) : List Markup :=
  elementsWith positionAttribute piece

variable {tag : String} {attributes : List Attribute} {children : List Markup}

theorem blocks_text (content : String) : blocks (.text content) = [] := by
  rw [blocks, elementsWith]

/-- The blocks of an element without a position are those in it. -/
theorem blocks_element (h : hasName positionAttribute attributes = false) :
    blocks (.element tag attributes children) = children.flatMap blocks :=
  Markup.elementsWith_element h

theorem blocks_textElement (h : hasName positionAttribute attributes = false) (content : String) :
    blocks (.element tag attributes [.text content]) = [] := by
  rw [blocks_element h, List.flatMap_singleton, blocks_text]

/-! ### What is in a control -/

/-- The names of the attributes of controls, but for the one of those that are locked. -/
def controlNames : List String :=
  ["name", "aria-label", "style", "type", "placeholder", "rows", "role", "class", "value",
    "selected"]

section Controls

variable {name : String}

theorem hasName_eq_false {others : List String} (hname : name ∉ others) (names : List String)
    (hnames : attributes.map Markup.attributeName = names) (hothers : ∀ n ∈ names, n ∈ others) :
    hasName name attributes = false := by
  rw [hasName, List.any_eq_false]
  intro a hmem heq
  have hmapped : Markup.attributeName a ∈ names := hnames ▸ List.mem_map_of_mem hmem
  exact hname (of_decide_eq_true heq ▸ hothers _ hmapped)

/-- Nothing is found in pieces none of which has anything. -/
theorem flatMap_elementsWith_map {α : Type} {make : α → Markup}
    (h : ∀ a, elementsWith name (make a) = []) (items : List α) :
    (items.map make).flatMap (elementsWith name) = [] := by
  rw [List.flatMap_eq_nil_iff]
  intro piece hmem
  obtain ⟨a, -, rfl⟩ := List.mem_map.1 hmem
  exact h a

variable (hname : name ∉ controlNames)
include hname

theorem elementsWith_option (value text : String) (selected : Bool) :
    elementsWith name (option value text selected) = [] := by
  have hnone : hasName name
      (.pair "value" value :: if selected then [.flag "selected"] else []) = false := by
    cases selected with
    | false => exact hasName_eq_false hname ["value"] rfl (by decide)
    | true => exact hasName_eq_false hname ["value", "selected"] rfl (by decide)
  rw [option, Markup.elementsWith_element hnone, List.flatMap_singleton, elementsWith]

theorem hasName_commonAttributes (field : Field) (index : Int) :
    hasName name (commonAttributes field index) = false :=
  hasName_eq_false hname ["name", "aria-label", "style"] rfl (by decide)

theorem elementsWith_list {α : Type} (field : Field) (index : Int) (blank : String)
    {make : α → Markup} (h : ∀ a, elementsWith name (make a) = []) (items : List α) :
    elementsWith name (.element "select" (commonAttributes field index)
      (blankOption blank :: items.map make)) = [] := by
  rw [Markup.elementsWith_element (hasName_commonAttributes hname field index), List.flatMap_cons,
    flatMap_elementsWith_map h, List.append_nil]
  exact elementsWith_option hname "" blank false

theorem elementsWith_choiceLine (type : String) (index : Int) (choice : Choice) :
    elementsWith name (choiceLine type index choice) = [] := by
  rw [choiceLine, Markup.elementsWith_element (hasName_eq_false hname ["class"] rfl (by decide)),
    List.flatMap_cons, List.flatMap_singleton,
    Markup.elementsWith_void (hasName_eq_false hname ["type", "name", "value"] rfl (by decide)),
    Markup.elementsWith_element rfl, List.flatMap_singleton, elementsWith, List.append_nil]

theorem elementsWith_choiceLines (field : Field) (index : Int) (role type : String) :
    elementsWith name (choiceLines field index role type) = [] := by
  rw [choiceLines,
    Markup.elementsWith_element (hasName_eq_false hname ["role", "aria-label"] rfl (by decide))]
  exact flatMap_elementsWith_map (elementsWith_choiceLine hname type index) field.choices

/-- A state field is locked only while no country is chosen. -/
theorem elementsWith_stateControl (field : Field) (index : Int) (table : Place.Table)
    {chosen : String} {needsCountry : Bool}
    (h : ¬(name = "disabled" ∧ chosen = "" ∧ needsCountry = true)) :
    elementsWith name (stateControl field index table chosen needsCountry) = [] := by
  unfold stateControl
  dsimp only
  generalize (if chosen = "" then [] else table.regions chosen) = regions
  cases hmode : StateMode.of (!regions.isEmpty) (chosen ≠ "") needsCountry with
  | select =>
      exact elementsWith_list hname field index _ (fun _ => elementsWith_option hname _ _ _) regions
  | freeText =>
      exact Markup.elementsWith_void
        (hasName_eq_false hname ["type", "placeholder", "name", "aria-label", "style"] rfl
          (by decide))
  | locked =>
      obtain ⟨-, hneeded, hnone⟩ := StateMode.of_eq_locked_iff.1 hmode
      have hother : name ≠ "disabled" := by
        intro hdisabled
        exact h ⟨hdisabled, by simpa using hnone, hneeded⟩
      exact Markup.elementsWith_void
        (hasName_eq_false (List.not_mem_cons_of_ne_of_not_mem hother hname)
          ["type", "placeholder", "disabled", "name", "aria-label", "style"] rfl (by decide))

/-- Of the elements whose attributes have another name, the only one in a control is a locked
state field. -/
theorem elementsWith_control (field : Field) (index : Int) (table : Place.Table) {chosen : String}
    {needsCountry : Bool}
    (h : ¬(name = "disabled" ∧ field.control = .stateControl ∧ chosen = "" ∧
      needsCountry = true)) :
    elementsWith name (control field index table chosen needsCountry) = [] := by
  have hoption := elementsWith_option hname
  unfold control
  cases hcontrol : field.control with
  | countrySelect =>
      exact elementsWith_list hname field index _ (fun _ => hoption _ _ _) table.countries
  | stateControl =>
      exact elementsWith_stateControl hname field index table fun hlocked =>
        h ⟨hlocked.1, hcontrol, hlocked.2⟩
  | textarea =>
      exact Markup.elementsWith_element (hasName_eq_false hname
        ["rows", "placeholder", "name", "aria-label", "style"] rfl (by decide))
  | select => exact elementsWith_list hname field index _ (fun _ => hoption _ _ _) field.choices
  | radio => exact elementsWith_choiceLines hname field index "radiogroup" "radio"
  | checkboxGroup => exact elementsWith_choiceLines hname field index "group" "checkbox"
  | checkbox =>
      exact Markup.elementsWith_void
        (hasName_eq_false hname ["type", "name", "aria-label"] rfl (by decide))
  | file =>
      exact Markup.elementsWith_void
        (hasName_eq_false hname ["type", "name", "aria-label", "style"] rfl (by decide))
  | input =>
      exact Markup.elementsWith_void (hasName_eq_false hname
        ["type", "placeholder", "name", "aria-label", "style"] rfl (by decide))

end Controls

/-- There is no block within a control. -/
theorem blocks_control (field : Field) (index : Int) (table : Place.Table) (chosen : String)
    (needsCountry : Bool) : blocks (control field index table chosen needsCountry) = [] := by
  refine elementsWith_control (by decide) field index table ?_
  rintro ⟨hdisabled, -⟩
  exact absurd hdisabled (by decide)

/-! ### The blocks of a document -/

/-- A block is found, and there is no other within it. -/
theorem blocks_fieldBlock (table : Place.Table) (country : String) (needsCountry : Bool)
    (errorStyle : String) (placed : Placed) :
    blocks (fieldBlock table country needsCountry errorStyle placed) =
      [fieldBlock table country needsCountry errorStyle placed] := by
  have hlabel : blocks (.element "label" [.pair "style" placed.field.labelStyle]
      [.text placed.field.shownLabel]) = [] :=
    blocks_textElement rfl _
  have hcontrol := blocks_control placed.field placed.position table country needsCountry
  have herror : blocks (.element "div" [.pair "class" "cs-error", .pair "style" errorStyle] []) =
      [] :=
    blocks_element rfl
  unfold blocks at hlabel hcontrol herror ⊢
  rw [fieldBlock, Markup.elementsWith_element_of_name rfl, List.flatMap_cons, List.flatMap_cons,
    List.flatMap_singleton, hlabel, hcontrol, herror]
  rfl

theorem blocks_row {block : Placed → Markup} (h : ∀ placed, blocks (block placed) = [block placed])
    (stacked : Bool) (group : Group) :
    (row block stacked group).flatMap blocks = group.members.map block := by
  have hmembers : (group.members.map block).flatMap blocks = group.members.map block := by
    rw [List.flatMap_map, List.map_eq_flatMap]
    simp only [h]
  unfold row
  dsimp only
  by_cases hbox : (group.isPaired && !stacked) = true
  · rw [if_pos hbox, List.flatMap_singleton, blocks_element rfl]
    exact hmembers
  · rw [if_neg hbox]
    exact hmembers

/-- What is drawn around the fields has no block in it. -/
theorem blocks_formBody (fields : List Field) (table : Place.Table) (view : View) (look : Look)
    (frame : Style.Frame) :
    (formBody fields table view look frame).flatMap blocks =
      ((Form.groups fields).flatMap Group.members).map
        (fieldBlock table view.country (Field.anyCountry fields) frame.error) := by
  have hrows : ((Form.groups fields).flatMap (row (fieldBlock table view.country
      (Field.anyCountry fields) frame.error) view.isStacked)).flatMap blocks =
        ((Form.groups fields).flatMap Group.members).map
          (fieldBlock table view.country (Field.anyCountry fields) frame.error) := by
    rw [List.flatMap_assoc, List.map_flatMap]
    simp only [blocks_row (blocks_fieldBlock table view.country (Field.anyCountry fields)
      frame.error)]
  have hend : (if fields.isEmpty then [] else [Markup.element "button"
      [.pair "type" "submit", .pair "style" frame.button] [.text look.buttonText]]).flatMap
        blocks = [] := by
    by_cases hempty : fields.isEmpty = true
    · rw [if_pos hempty, List.flatMap_nil]
    · rw [if_neg hempty, List.flatMap_singleton, blocks_textElement rfl]
  unfold formBody
  rw [List.flatMap_append, List.flatMap_append, hrows, List.flatMap_singleton, blocks_element rfl,
    List.flatMap_nil, hend, List.append_nil, List.append_nil]

theorem blocks_card (fields : List Field) (table : Place.Table) (view : View) (look : Look)
    (frame : Style.Frame) :
    blocks (card fields table view look frame) =
      (formBody fields table view look frame).flatMap blocks := by
  rw [card, blocks_element rfl, List.flatMap_cons, List.flatMap_cons, List.flatMap_singleton,
    blocks_textElement rfl, blocks_textElement rfl, blocks_element rfl]
  rfl

theorem blocks_aside (look : Look) (frame : Style.Frame) :
    (aside look frame).flatMap blocks = [] := by
  unfold aside
  by_cases hsplit : look.layout = .split
  · rw [if_pos hsplit, List.flatMap_singleton, blocks_element rfl, List.flatMap_singleton,
      blocks_element rfl, List.flatMap_nil]
  · rw [if_neg hsplit, List.flatMap_nil]

/-- **The blocks of a document are those of its fields, row by row.** -/
theorem blocks_document (fields : List Field) (theme : Theme) (table : Place.Table) (view : View) :
    blocks (document fields theme table view) =
      ((Form.groups fields).flatMap Group.members).map (fieldBlock table view.country
        (Field.anyCountry fields) (Style.frame theme.look).error) := by
  have hhead : blocks (.element "head" [] [.styleSheet (Style.sheet theme.look)]) = [] := by
    rw [blocks_element rfl, List.flatMap_singleton, blocks, elementsWith]
  unfold document
  dsimp only
  rw [blocks_element rfl, List.flatMap_cons, hhead, List.nil_append, List.flatMap_singleton,
    blocks_element rfl, List.flatMap_singleton, blocks_element rfl, List.flatMap_append,
    blocks_aside, List.nil_append, List.flatMap_singleton, blocks_element rfl,
    List.flatMap_singleton, blocks_card, blocks_formBody]

/-- What has a preview: a list whose fields can be read, with a theme that can be. -/
theorem ofValues_arr {items : List Json} {fields : List Field} {theme : Json} {look : Theme}
    (hfields : Field.ofItems items = .ok fields) (hlook : Theme.read theme = .ok look)
    (table : Place.Table) (view : View) :
    ofValues (.arr items) theme table view =
      .ok (Markup.renderDocument (document fields look table view)) := by
  simp only [ofValues, Field.readList, hfields, hlook]
  rfl

theorem blocks_document_perm (fields : List Field) (theme : Theme) (table : Place.Table)
    (view : View) :
    (blocks (document fields theme table view)).Perm (fields.mapIdx fun index field =>
      fieldBlock table view.country (Field.anyCountry fields) (Style.frame theme.look).error
        ⟨index, field⟩) := by
  rw [blocks_document, ← Form.map_placed]
  exact (Group.flatMap_members_perm _).map _

end Preview

/-! ### From the raw list to plans and blocks -/

/-- **The rows of a form arrange its fields; so each object of a raw list, which gives one field,
has one plan in the configuration and one block in the preview.** -/
theorem Form.groups_arrange_plans_and_blocks (fields : List Field) :
    Arranges (groups fields) fields ∧
    ∀ items, Field.ofItems items = .ok fields →
      List.Forall₂ (fun members field => Field.ofMembers members = .ok field)
        (Json.objects items) fields ∧
      ∀ (container theme : Json) (look : Theme) (table : Place.Table) (view : Preview.View),
        Theme.read theme = .ok look →
        Widget.compileValues container (.arr items) theme table =
          .ok (.ofConfig (.ofForm container fields look table)) ∧
        (Widget.Config.ofForm container fields look table).plans.Perm
          (fields.mapIdx fun index field => field.plan index (Field.anyCountry fields)) ∧
        Preview.ofValues (.arr items) theme table view =
          .ok (Markup.renderDocument (Preview.document fields look table view)) ∧
        (Preview.blocks (Preview.document fields look table view)).Perm
          (fields.mapIdx fun index field => Preview.fieldBlock table view.country
            (Field.anyCountry fields) (Style.frame look.look).error ⟨index, field⟩) := by
  refine ⟨arranges_groups fields, ?_⟩
  intro items hfields
  refine ⟨Field.forall₂_ofItems hfields, ?_⟩
  intro container theme look table view hlook
  exact ⟨Widget.compileValues_eq hfields hlook container table,
    Widget.Config.plans_perm container fields look table,
    Preview.ofValues_arr hfields hlook table view,
    Preview.blocks_document_perm fields look table view⟩

/-- A list with a row around another field, two fields that are alike, and items that are no
objects. -/
def Form.interleavedItems : List Json :=
  [.obj [("label", .str "A"), ("rowGroup", .int 1)], .null, .obj [("rowGroup", .int 2)],
    .obj [("label", .str "A"), ("rowGroup", .int 1)], .str "B", .obj []]

/-- The fields that are read from it. -/
def Form.interleavedFields : List Field :=
  [⟨none, .text, "A", "", false, .plain, none, false, [], some 1⟩,
    ⟨none, .text, "", "", false, .plain, none, false, [], some 2⟩,
    ⟨none, .text, "A", "", false, .plain, none, false, [], some 1⟩,
    ⟨none, .text, "", "", false, .plain, none, false, [], none⟩]

/-- Its four fields are in three rows, and each has its plan and its block. -/
theorem Form.interleaved_rows_arranged :
    Field.ofItems interleavedItems = .ok interleavedFields ∧
      Theme.read .null = .ok .plain ∧
      (groups interleavedFields).map Group.positions = [[0, 2], [1], [3]] ∧
      Arranges (groups interleavedFields) interleavedFields ∧
      (Widget.Config.ofForm .null interleavedFields .plain ⟨[]⟩).plans.Perm
        (interleavedFields.mapIdx fun index field => field.plan index false) ∧
      (Preview.blocks (Preview.document interleavedFields .plain ⟨[]⟩ ⟨"desktop", ""⟩)).length =
        4 := by
  obtain ⟨harranges, hitems⟩ := groups_arrange_plans_and_blocks interleavedFields
  obtain ⟨-, hmade⟩ := hitems interleavedItems rfl
  obtain ⟨-, hplans, -, hblocks⟩ := hmade .null .null .plain ⟨[]⟩ ⟨"desktop", ""⟩ rfl
  refine ⟨rfl, rfl, ?_, harranges, hplans, ?_⟩
  · simp [groups, interleavedFields, placeFrom, Group.ofPlaced, Group.positions, Group.inRow,
      Group.outsideRow]
  · rw [hblocks.length_eq, List.length_mapIdx]
    rfl

end Enrolment
