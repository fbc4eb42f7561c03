/-
What can put a `<` into a preview.
-/
import Enrolment.Preview.Page
import Enrolment.Proofs.Style.Sheet

namespace Enrolment.Preview

open Markup (CleanNames Sized SizedAll)

/-! ### The shape of a preview -/

/-- How a field's control is drawn, its texts aside. -/
inductive Drawn where
  | list (entries : Nat)
  | lines (choices : Nat)
  | area
  | box
deriving DecidableEq

/-- How the control of a field is drawn for a table of countries and a chosen one. -/
def Drawn.of (field : Field) (table : Place.Table) (chosen : String) (needsCountry : Bool) :
    Drawn :=
  match field.control with
  | .countrySelect => list table.countries.length
  | .stateControl =>
    let regions := if chosen = "" then [] else table.regions chosen
    match StateMode.of (!regions.isEmpty) (chosen ≠ "") needsCountry with
    | .select => list regions.length
    | .locked | .freeText => box
  | .textarea => area
  | .select => list field.choices.length
  | .radio | .checkboxGroup => lines field.choices.length
  | .checkbox | .file | .input => box

/-- How many tags a control is written with: a list has an entry more than there are choices, and
each choice to tick is a label, an input and a text. -/
def Drawn.tags : Drawn → Nat
  | list entries => 2 + 2 * (entries + 1)
  | lines choices => 2 + 5 * choices
  | area => 2
  | box => 1

/-- A row of a preview: whether it stands in a box of its own, and its controls. -/
structure RowShape where
  boxed : Bool
  controls : List Drawn
deriving DecidableEq

/-- What a preview looks like when all texts are left out. -/
structure Shape where
  rows : List RowShape
  layout : Layout
  isEmpty : Bool
deriving DecidableEq

/-- The shape of the preview of a form. -/
def Shape.of (fields : List Field) (theme : Theme) (table : Place.Table) (view : View) : Shape where
  rows := (Form.groups fields).map fun group =>
    ⟨group.isPaired && !view.isStacked,
      group.members.map fun placed =>
        Drawn.of placed.field table view.country (Field.anyCountry fields)⟩
  layout := theme.shownLayout
  isEmpty := fields.isEmpty

/-- How many tags a row is written with: around each control stand a block, a label and the place
for an error. -/
def RowShape.tags (row : RowShape) : Nat :=
  (if row.boxed then 2 else 0) + (row.controls.map fun drawn => 6 + drawn.tags).sum

/-- How many tags a preview is written with, the mark of its document type among them. -/
def Shape.tags (shape : Shape) : Nat :=
  23 + (shape.rows.map RowShape.tags).sum + (if shape.layout = .split then 4 else 0) +
    (if shape.isEmpty then 0 else 2)

/-! ### The tags of a control -/

theorem cleanNames_common (field : Field) (index : Int) :
    CleanNames (commonAttributes field index) :=
  .pair rfl (.pair rfl (.pair rfl .nil))

/-- An entry of a list has two tags, whatever it says. -/
theorem sized_option (value text : String) (selected : Bool) :
    Sized 2 (option value text selected) := by
  refine .element rfl ?_ (.singleton (.text text))
  cases selected with
  | true => exact .pair rfl (.flag rfl .nil)
  | false => exact .pair rfl .nil

/-- A list has its own two tags, two for its first entry and two for each other one. -/
theorem sized_list {α : Type} {field : Field} {index : Int} {blank : String} {make : α → Markup}
    (h : ∀ a, Sized 2 (make a)) (items : List α) :
    Sized (Drawn.list items.length).tags
      (.element "select" (commonAttributes field index)
        (blankOption blank :: items.map make)) := by
  have hall := SizedAll.cons (sized_option "" blank false) (SizedAll.map h items)
  rw [show 2 + 2 * items.length = 2 * (items.length + 1) from by omega] at hall
  exact .element rfl (cleanNames_common field index) hall

theorem sized_choiceLine (type : String) (index : Int) (choice : Choice) :
    Sized 5 (choiceLine type index choice) := by
  have hinput : Sized 1 (.void "input" [.pair "type" type,
      .pair "name" ("cs-field-" ++ String.ofList (Numeral.ofInt index)),
      .pair "value" choice.value]) :=
    .void rfl (.pair rfl (.pair rfl (.pair rfl .nil)))
  have hspan : Sized 2 (.element "span" [] [.text choice.label]) :=
    .element rfl .nil (.singleton (.text _))
  exact .element rfl (.pair rfl .nil) (.cons hinput (.singleton hspan))

theorem sized_choiceLines (field : Field) (index : Int) (role type : String) :
    Sized (Drawn.lines field.choices.length).tags (choiceLines field index role type) :=
  .element rfl (.pair rfl (.pair rfl .nil)) (.map (sized_choiceLine type index) field.choices)

theorem sized_stateControl (field : Field) (index : Int) (table : Place.Table) (chosen : String)
    (needsCountry : Bool) (h : field.control = .stateControl) :
    Sized (Drawn.of field table chosen needsCountry).tags
      (stateControl field index table chosen needsCountry) := by
  unfold Drawn.of stateControl
  rw [h]
  dsimp only
  generalize (if chosen = "" then [] else table.regions chosen) = regions
  generalize StateMode.of (!regions.isEmpty) (chosen ≠ "") needsCountry = mode
  have hcommon := cleanNames_common field index
  cases mode with
  | select => exact sized_list (fun _ => sized_option _ _ _) regions
  | locked => exact .void rfl (.pair rfl (.pair rfl (.flag rfl hcommon)))
  | freeText => exact .void rfl (.pair rfl (.pair rfl hcommon))

/-- **The control of a field is written with the tags of its drawing.** -/
theorem sized_control (field : Field) (index : Int) (table : Place.Table) (chosen : String)
    (needsCountry : Bool) :
    Sized (Drawn.of field table chosen needsCountry).tags
      (control field index table chosen needsCountry) := by
  have hcommon := cleanNames_common field index
  have hstate := sized_stateControl field index table chosen needsCountry
  unfold control Drawn.of
  unfold Drawn.of at hstate
  cases h : field.control with
  | countrySelect =>
      exact sized_list (fun _ => sized_option _ _ _) table.countries
  | stateControl =>
      rw [h] at hstate
      exact hstate rfl
  | textarea =>
      exact .element rfl (.pair rfl (.pair rfl hcommon)) .nil
  | select =>
      exact sized_list (fun _ => sized_option _ _ _) field.choices
  | radio =>
      exact sized_choiceLines field index "radiogroup" "radio"
  | checkboxGroup =>
      exact sized_choiceLines field index "group" "checkbox"
  | checkbox =>
      exact .void rfl (.pair rfl (.pair rfl (.pair rfl .nil)))
  | file =>
      exact .void rfl (.pair rfl hcommon)
  | input =>
      exact .void rfl (.pair rfl (.pair rfl hcommon))

/-! ### The tags of a page -/

theorem sized_fieldBlock (table : Place.Table) (country : String) (needsCountry : Bool)
    (errorStyle : String) (placed : Placed) :
    Sized (6 + (Drawn.of placed.field table country needsCountry).tags)
      (fieldBlock table country needsCountry errorStyle placed) := by
  have hlabel : Sized 2 (.element "label" [.pair "style" placed.field.labelStyle]
      [.text placed.field.shownLabel]) :=
    .element rfl (.pair rfl .nil) (.singleton (.text _))
  have herror : Sized 2 (.element "div" [.pair "class" "cs-error", .pair "style" errorStyle]
      []) :=
    .element rfl (.pair rfl (.pair rfl .nil)) .nil
  have hcontrol := sized_control placed.field placed.position table country needsCountry
  have hblock : Sized _ (fieldBlock table country needsCountry errorStyle placed) :=
    .element rfl (.pair rfl .nil) (.cons hlabel (.cons hcontrol (.singleton herror)))
  refine hblock.cast ?_
  omega

/-- A row has the tags of its blocks, and two more if it stands in a box. -/
theorem sizedAll_row {block : Placed → Markup} {drawn : Placed → Drawn}
    (h : ∀ placed, Sized (6 + (drawn placed).tags) (block placed)) (stacked : Bool)
    (group : Group) :
    SizedAll (RowShape.tags ⟨group.isPaired && !stacked, group.members.map drawn⟩)
      (row block stacked group) := by
  have hblocks := SizedAll.map_sum h group.members
  unfold RowShape.tags row
  rw [List.map_map]
  by_cases hbox : (group.isPaired && !stacked) = true
  · rw [hbox, if_pos rfl, if_pos rfl]
    exact .singleton (.element rfl (.pair rfl .nil) hblocks)
  · rw [if_neg hbox, if_neg hbox, Nat.zero_add]
    exact hblocks

theorem sizedAll_formBody (fields : List Field) (theme : Theme) (table : Place.Table) (view : View)
    (look : Look) (frame : Style.Frame) :
    SizedAll
      (((Shape.of fields theme table view).rows.map RowShape.tags).sum + 2 +
        (if fields.isEmpty then 0 else 2))
      (formBody fields table view look frame) := by
  have hrows := SizedAll.flatMap_sum
    (sizedAll_row (sized_fieldBlock table view.country (Field.anyCountry fields) frame.error)
      view.isStacked) (Form.groups fields)
  have herror : Sized 2 (.element "div" [.pair "class" "cs-form-error",
      .pair "role" "alert", .pair "style" frame.error] []) :=
    .element rfl (.pair rfl (.pair rfl (.pair rfl .nil))) .nil
  have hbutton : Sized 2 (.element "button" [.pair "type" "submit",
      .pair "style" frame.button] [.text look.buttonText]) :=
    .element rfl (.pair rfl (.pair rfl .nil)) (.singleton (.text _))
  unfold formBody Shape.of
  rw [List.map_map]
  refine .append (.append hrows (.singleton herror)) ?_
  by_cases hempty : fields.isEmpty = true
  · rw [if_pos hempty, if_pos hempty]
    exact .nil
  · rw [if_neg hempty, if_neg hempty]
    exact .singleton hbutton

theorem sized_card (fields : List Field) (theme : Theme) (table : Place.Table) (view : View)
    (look : Look) (frame : Style.Frame) :
    Sized
      (((Shape.of fields theme table view).rows.map RowShape.tags).sum + 10 +
        (if fields.isEmpty then 0 else 2))
      (card fields table view look frame) := by
  have htitle : Sized 2 (.element "h1" [.pair "style" frame.title] [.text look.title]) :=
    .element rfl (.pair rfl .nil) (.singleton (.text _))
  have hsubtitle : Sized 2
      (.element "p" [.pair "style" frame.subtitle] [.text look.subtitle]) :=
    .element rfl (.pair rfl .nil) (.singleton (.text _))
  have hform : Sized _ (.element "form" [.flag "novalidate", .pair "style" frame.form]
      (formBody fields table view look frame)) :=
    .element rfl (.flag rfl (.pair rfl .nil))
      (sizedAll_formBody fields theme table view look frame)
  have hcard : Sized _ (card fields table view look frame) :=
    .element rfl (.pair rfl .nil) (.cons htitle (.cons hsubtitle (.singleton hform)))
  refine hcard.cast ?_
  omega

/-- The picture beside the form is two elements, and only in the split layout. -/
theorem sizedAll_aside (look : Look) (frame : Style.Frame) :
    SizedAll (if look.layout = .split then 4 else 0) (aside look frame) := by
  unfold aside
  by_cases h : look.layout = .split
  · rw [if_pos h, if_pos h]
    exact .singleton (.element rfl (.pair rfl .nil) (.singleton (.element rfl (.pair rfl .nil) .nil)))
  · rw [if_neg h, if_neg h]
    exact .nil

/-! ### The whole document -/

theorem tags_of (fields : List Field) (theme : Theme) (table : Place.Table) (view : View) :
    (Shape.of fields theme table view).tags =
      23 + ((Shape.of fields theme table view).rows.map RowShape.tags).sum +
        (if theme.look.layout = .split then 4 else 0) + (if fields.isEmpty then 0 else 2) :=
  rfl

/-- The body of a document, with all that is drawn in it. -/
def body (fields : List Field) (theme : Theme) (table : Place.Table) (view : View) : Markup :=
  let frame := Style.frame theme.look
  .element "body" [.pair "style" frame.body] [
    .element "div" [.pair "style" frame.page] (
      aside theme.look frame ++
      [.element "div" [.pair "id" ("preview-" ++ view.mode), .pair "style" frame.root]
        [card fields table view theme.look frame]])]

theorem document_eq (fields : List Field) (theme : Theme) (table : Place.Table) (view : View) :
    document fields theme table view =
      .element "html" [] [.element "head" [] [.styleSheet (Style.sheet theme.look)],
        body fields theme table view] :=
  rfl

/-- The body has all tags of a preview but those of the document, its head and its sheet. -/
theorem sized_body (fields : List Field) (theme : Theme) (table : Place.Table) (view : View) :
    Sized ((Shape.of fields theme table view).tags - 7) (body fields theme table view) := by
  have haside := sizedAll_aside theme.look (Style.frame theme.look)
  have hcard := sized_card fields theme table view theme.look (Style.frame theme.look)
  have hroot : Sized _ (.element "div" [.pair "id" ("preview-" ++ view.mode),
      .pair "style" (Style.frame theme.look).root]
      [card fields table view theme.look (Style.frame theme.look)]) :=
    .element rfl (.pair rfl (.pair rfl .nil)) (.singleton hcard)
  have hpage : Sized _ (.element "div" [.pair "style" (Style.frame theme.look).page] _) :=
    .element rfl (.pair rfl .nil) (.append haside (.singleton hroot))
  have hbody : Sized _ (body fields theme table view) :=
    .element rfl (.pair rfl .nil) (.singleton hpage)
  refine hbody.cast ?_
  rw [tags_of]
  omega

theorem isClean_document (fields : List Field) (theme : Theme) (table : Place.Table)
    (view : View) : Markup.IsClean (document fields theme table view) := by
  have hbody := (sized_body fields theme table view).clean
  rw [document_eq]
  simp only [Markup.IsClean, Markup.AllClean, and_true] at hbody ⊢
  exact ⟨rfl, .nil, ⟨rfl, .nil⟩, hbody⟩

/-- **A preview has the `<` of its tags, which its shape tells, and those of its primary colour.** -/
theorem angles_html (fields : List Field) (theme : Theme) (table : Place.Table) (view : View) :
    angles (html fields theme table view) =
      (Shape.of fields theme table view).tags + angles theme.look.primaryColor := by
  have hbody := sized_body fields theme table view
  have hdocument := Markup.angles_render _ (isClean_document fields theme table view)
  simp only [document_eq, Markup.tagCount, Markup.tagCountAll, Markup.sheetAngles,
    Markup.sheetAnglesAll, hbody.tags, hbody.sheets, Style.angles_sheet] at hdocument
  show angles ("<!DOCTYPE html>" ++ Markup.render (document fields theme table view)) = _
  rw [angles_append, document_eq, hdocument, tags_of, show angles "<!DOCTYPE html>" = 1 from rfl]
  omega

/-! ### Which previews have the same number of `<` -/

theorem ofValues_eq {fields theme : Json} {table : Place.Table} {view : View} {page : String}
    (h : ofValues fields theme table view = .ok page) :
    ∃ (form : List Field) (look : Theme),
      Field.readList fields = .ok form ∧ Theme.read theme = .ok look ∧
        page = html form look table view := by
  simp only [ofValues] at h
  cases hform : Field.readList fields with
  | error cause =>
      rw [hform] at h
      cases h
  | ok form =>
      cases hlook : Theme.read theme with
      | error cause =>
          rw [hform, hlook] at h
          cases h
      | ok look =>
          rw [hform, hlook] at h
          exact ⟨form, look, rfl, rfl, (Except.ok.inj h).symm⟩

/-- **Of all the texts that a preview is drawn from, only the primary colour brings a `<` of its
own, and it brings all it has.** So two previews of one shape have the same number of `<` just if
their primary colours have. -/
theorem angles_eq_iff_primaryColor {fields fields' theme theme' : Json} {table table' : Place.Table}
    {view view' : View} {page page' : String} (h : ofValues fields theme table view = .ok page)
    (h' : ofValues fields' theme' table' view' = .ok page') :
    ∃ (form form' : List Field) (look look' : Theme),
      Field.readList fields = .ok form ∧ Theme.read theme = .ok look ∧
      Field.readList fields' = .ok form' ∧ Theme.read theme' = .ok look' ∧
      angles page = (Shape.of form look table view).tags + angles look.look.primaryColor ∧
      angles page' = (Shape.of form' look' table' view').tags + angles look'.look.primaryColor ∧
      (Shape.of form look table view = Shape.of form' look' table' view' →
        (angles page = angles page' ↔
          angles look.look.primaryColor = angles look'.look.primaryColor)) := by
  obtain ⟨form, look, hform, hlook, rfl⟩ := ofValues_eq h
  obtain ⟨form', look', hform', hlook', rfl⟩ := ofValues_eq h'
  have hcount := angles_html form look table view
  have hcount' := angles_html form' look' table' view'
  refine ⟨form, form', look, look', hform, hlook, hform', hlook', hcount, hcount', ?_⟩
  intro hshape
  rw [hcount, hcount', hshape]
  omega

/-- The form with one field of a given label. -/
def labelled (label : String) : Json :=
  .arr [.obj [("label", .str label)]]

/-- The theme that sets a primary colour. -/
def coloured (color : String) : Json :=
  .obj [("primaryColor", .str color)]

/-- How a preview is drawn for a wide screen before a country is chosen. -/
def wide : View :=
  ⟨"desktop", ""⟩

/-- A label with a `<` does not change the count. -/
theorem angles_eq_of_labels :
    ∃ page page', ofValues (labelled "<b>Name") (coloured "red") ⟨[]⟩ wide = .ok page ∧
      ofValues (labelled "Name") (coloured "red") ⟨[]⟩ wide = .ok page' ∧
      angles page = angles page' := by
  have hpage : ofValues (labelled "<b>Name") (coloured "red") ⟨[]⟩ wide = .ok _ := rfl
  have hpage' : ofValues (labelled "Name") (coloured "red") ⟨[]⟩ wide = .ok _ := rfl
  obtain ⟨form, form', look, look', hform, hlook, hform', hlook', -, -, hiff⟩ :=
    angles_eq_iff_primaryColor hpage hpage'
  cases hform
  cases hform'
  cases hlook
  cases hlook'
  exact ⟨_, _, rfl, rfl, (hiff (by decide +kernel)).2 rfl⟩

/-- A primary colour with a `<` does change it. -/
theorem angles_ne_of_primaryColor :
    ∃ page page', ofValues (.arr []) (coloured "red") ⟨[]⟩ wide = .ok page ∧
      ofValues (.arr []) (coloured "</style><script>alert(1)</script>") ⟨[]⟩ wide = .ok page' ∧
      angles page = 23 ∧ angles page' = 26 := by
  have hread : ∀ color, ofValues (.arr []) (coloured color) ⟨[]⟩ wide =
      .ok (html [] { Theme.plain with primaryColor := some color } ⟨[]⟩ wide) := fun _ => rfl
  refine ⟨_, _, hread "red", hread _, ?_, ?_⟩
  · rw [angles_html]
    decide +kernel
  · rw [angles_html]
    decide +kernel

end Enrolment.Preview
