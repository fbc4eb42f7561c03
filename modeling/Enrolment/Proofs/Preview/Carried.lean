/-
A preview shows nothing that the widget is not told.

The preview is drawn from the fields and the theme themselves and the widget from its
configuration, so a preview could show what no widget will.  It does not: forms with one
configuration have one preview, on every screen and for every country.

The argument follows the drawing.  What is drawn for a field depends on its plan alone,
since each control looks only at what its plan holds; whether the form has a country field
is in the plan of a state field and matters to no other.  What is drawn for a row depends
on the row of plans, and everything around the rows on the texts and styles of the
configuration.  That a configuration determines all of these is that it can be read back
(`Reading.ofWire?_toWire`).
-/
import Enrolment.Place.BuiltIn
import Enrolment.Preview.Page
import Enrolment.Proofs.Widget.Reading

namespace Enrolment

/-- Lists that agree in one respect agree in every other that depends on it. -/
theorem map_eq_of_map_eq {α β γ : Type} {f g : α → β} {f' g' : α → γ} {xs ys : List α}
    (h : xs.map f = ys.map g) (hstep : ∀ x y, f x = g y → f' x = g' y) :
    xs.map f' = ys.map g' := by
  induction xs generalizing ys with
  | nil =>
      obtain rfl := List.map_eq_nil_iff.1 h.symm
      rfl
  | cons x xs ih =>
      cases ys with
      | nil => cases h
      | cons y ys =>
          rw [List.map_cons, List.map_cons, List.cons.injEq] at h
          rw [List.map_cons, List.map_cons, hstep x y h.1, ih h.2]

theorem Form.isEmpty_groups (fields : List Field) : (groups fields).isEmpty = fields.isEmpty := by
  cases fields with
  | nil => simp [groups, placeFrom, Group.ofPlaced]
  | cons field rest =>
      rw [groups, placeFrom, Group.ofPlaced]
      cases hrow : field.rowGroup <;> simp

namespace Preview

variable {field field' : Field} {position position' : Nat} {needsCountry needsCountry' : Bool}

/-! ### Fields with one plan -/

theorem key_congr (h : field.plan position needsCountry = field'.plan position' needsCountry') :
    field.key position = field'.key position' := by
  simpa only [Field.plan] using congrArg Plan.key h

theorem commonAttributes_congr
    (h : field.plan position needsCountry = field'.plan position' needsCountry') :
    commonAttributes field position = commonAttributes field' position' := by
  have hkey : field.key position = field'.key position' := key_congr h
  have hlabel : field.label = field'.label := congrArg Plan.label h
  have hstyle : field.controlStyle = field'.controlStyle := by
    simpa only [Field.plan] using congrArg Plan.controlStyle h
  rw [commonAttributes, commonAttributes, hkey, hlabel, hstyle]

theorem choiceLines_congr
    (h : field.plan position needsCountry = field'.plan position' needsCountry')
    (role type : String) :
    choiceLines field position role type = choiceLines field' position' role type := by
  have hindex : (position : Int) = position' := congrArg Plan.index h
  have hlabel : field.label = field'.label := congrArg Plan.label h
  have hchoices : field.choices = field'.choices := congrArg Plan.choices h
  rw [choiceLines, choiceLines, hindex, hlabel, hchoices]

/-- A control shows what is in its field's plan. -/
theorem control_congr
    (h : field.plan position needsCountry = field'.plan position' needsCountry')
    (table : Place.Table) (chosen : String) :
    control field position table chosen needsCountry =
      control field' position' table chosen needsCountry' := by
  have hcommon := commonAttributes_congr h
  have hcontrol : field.control = field'.control := congrArg Plan.control h
  have hplaceholder : field.placeholder = field'.placeholder := congrArg Plan.placeholder h
  rw [control, control, ← hcontrol, hcommon, hplaceholder]
  cases hkind : field.control with
  | countrySelect => simp only [countrySelect, hcommon]
  | stateControl =>
      have hneeds : needsCountry = needsCountry' := by
        have hneeds := congrArg Plan.needsCountry h
        simpa [Field.plan, ← hcontrol, hkind] using hneeds
      simp only [stateControl, hcommon, hneeds]
  | textarea => rfl
  | select =>
      have hchoices : field.choices = field'.choices := congrArg Plan.choices h
      simp only [choiceSelect, hcommon, hchoices]
  | radio => exact choiceLines_congr h "radiogroup" "radio"
  | checkboxGroup => exact choiceLines_congr h "group" "checkbox"
  | checkbox =>
      have hkey : field.key position = field'.key position' := key_congr h
      have hlabel : field.label = field'.label := congrArg Plan.label h
      simp only [hkey, hlabel]
  | file => rfl
  | input =>
      have htype : field.inputType = field'.inputType := by
        have htype := congrArg Plan.inputType h
        simpa [Field.plan, ← hcontrol, hkind] using htype
      simp only [htype]

/-- A block shows what is in its field's plan. -/
theorem fieldBlock_congr {placed placed' : Placed}
    (h : placed.field.plan placed.position needsCountry =
      placed'.field.plan placed'.position needsCountry')
    (table : Place.Table) (country errorStyle : String) :
    fieldBlock table country needsCountry errorStyle placed =
      fieldBlock table country needsCountry' errorStyle placed' := by
  have hindex : (placed.position : Int) = placed'.position := congrArg Plan.index h
  have hstyle : placed.field.labelStyle = placed'.field.labelStyle := congrArg Plan.labelStyle h
  have hlabel : placed.field.shownLabel = placed'.field.shownLabel := congrArg Plan.shownLabel h
  have hcontrol := control_congr h table country
  rw [fieldBlock, fieldBlock, hcontrol, hindex, hstyle, hlabel]

/-! ### Rows with one row of plans -/

/-- A row shows what is in its plans. -/
theorem row_congr {group group' : Group}
    (h : Widget.PlanRow.ofGroup needsCountry group = Widget.PlanRow.ofGroup needsCountry' group')
    (table : Place.Table) (country errorStyle : String) (stacked : Bool) :
    row (fieldBlock table country needsCountry errorStyle) stacked group =
      row (fieldBlock table country needsCountry' errorStyle) stacked group' := by
  have hpaired : group.isPaired = group'.isPaired := congrArg Widget.PlanRow.paired h
  have hblocks : group.members.map (fieldBlock table country needsCountry errorStyle) =
      group'.members.map (fieldBlock table country needsCountry' errorStyle) :=
    map_eq_of_map_eq (congrArg Widget.PlanRow.plans h) fun placed placed' hplan =>
      fieldBlock_congr hplan table country errorStyle
  rw [row, row, hpaired, hblocks]

theorem rows_congr {groups groups' : List Group}
    (h : groups.map (Widget.PlanRow.ofGroup needsCountry) =
      groups'.map (Widget.PlanRow.ofGroup needsCountry'))
    (table : Place.Table) (country errorStyle : String) (stacked : Bool) :
    groups.flatMap (row (fieldBlock table country needsCountry errorStyle) stacked) =
      groups'.flatMap (row (fieldBlock table country needsCountry' errorStyle) stacked) := by
  rw [List.flatMap_def, List.flatMap_def, map_eq_of_map_eq h fun group group' hrow =>
    row_congr hrow table country errorStyle stacked]

/-! ### Forms with one configuration -/

variable {container container' : Json} {fields fields' : List Field} {theme theme' : Theme}
  {table table' : Place.Table}

/-- A document shows what can be read from the configuration. -/
theorem document_congr
    (h : (Widget.Config.ofForm container fields theme table).reading =
      (Widget.Config.ofForm container' fields' theme' table').reading) (view : View) :
    document fields theme table view = document fields' theme' table' view := by
  have htitle : theme.look.title = theme'.look.title := congrArg Widget.Reading.title h
  have hsubtitle : theme.look.subtitle = theme'.look.subtitle :=
    congrArg Widget.Reading.subtitle h
  have hlayout : theme.look.layout = theme'.look.layout := congrArg Widget.Reading.layout h
  have himage : theme.look.splitImageUrl = theme'.look.splitImageUrl :=
    congrArg Widget.Reading.splitImageUrl h
  have hbutton : theme.look.buttonText = theme'.look.buttonText :=
    congrArg Widget.Reading.buttonText h
  have hsheet : Style.sheet theme.look = Style.sheet theme'.look :=
    congrArg Widget.Reading.sheet h
  have hframe : Style.frame theme.look = Style.frame theme'.look :=
    congrArg Widget.Reading.frame h
  obtain rfl : table = table' := congrArg Widget.Reading.table h
  have hplans : (Form.groups fields).map (Widget.PlanRow.ofGroup (Field.anyCountry fields)) =
      (Form.groups fields').map (Widget.PlanRow.ofGroup (Field.anyCountry fields')) :=
    congrArg Widget.Reading.rows h
  have hempty : fields.isEmpty = fields'.isEmpty := by
    have hlength := congrArg List.isEmpty hplans
    rwa [List.isEmpty_map, List.isEmpty_map, Form.isEmpty_groups, Form.isEmpty_groups] at hlength
  have hrows := rows_congr hplans table view.country (Style.frame theme'.look).error view.isStacked
  have hbody : formBody fields table view theme.look (Style.frame theme'.look) =
      formBody fields' table view theme'.look (Style.frame theme'.look) := by
    simp only [formBody, hrows, hempty, hbutton]
  simp only [document, aside, card, htitle, hsubtitle, hlayout, himage, hsheet, hframe, hbody]

/-- **Forms with one configuration have one preview, on every screen and for every country.** -/
theorem html_eq_of_toWire_eq
    (h : (Widget.Config.ofForm container fields theme table).toWire =
      (Widget.Config.ofForm container fields' theme' table').toWire) (view : View) :
    html fields theme table view = html fields' theme' table' view := by
  have hread := congrArg Widget.Reading.ofWire? h
  rw [Widget.Reading.ofWire?_toWire, Widget.Reading.ofWire?_toWire, Option.some_inj] at hread
  rw [html, html, document_congr hread view]

/-- Two fields side by side. -/
def pairedFields : List Field :=
  [⟨some 1, .text, "Name", "", true, .plain, some .firstName, true, [], some 1⟩,
    ⟨some 2, .phone, "Mobile", "", false, .plain, none, false, [], some 1⟩]

/-- The same two with other ids, another number for their row, no role, and a default spelt out. -/
def respeltFields : List Field :=
  [⟨none, .text, "Name", "", true, { Presentation.plain with borderWidth := some "1px" }, none,
      false, [], some 9⟩,
    ⟨some 8, .phone, "Mobile", "", false, .plain, none, false, [], some 9⟩]

/-- A theme that spells out a default and asks for a split layout without an image. -/
def respeltTheme : Theme :=
  { Theme.plain with title := some "Create your account", layout := some .split }

/-- What tells the two forms apart is carried by no widget, so no preview shows it. -/
theorem html_respelt :
    pairedFields ≠ respeltFields ∧
    (Widget.Config.ofForm .null pairedFields .plain Place.builtIn).toWire =
      (Widget.Config.ofForm .null respeltFields respeltTheme Place.builtIn).toWire ∧
    ∀ view, html pairedFields .plain Place.builtIn view =
      html respeltFields respeltTheme Place.builtIn view := by
  have hgroups : Form.groups pairedFields = [⟨Form.placeFrom 0 pairedFields, some 1⟩] := by
    simp [Form.groups, pairedFields, Form.placeFrom, Group.ofPlaced, Group.inRow, Group.outsideRow]
  have hgroups' : Form.groups respeltFields = [⟨Form.placeFrom 0 respeltFields, some 9⟩] := by
    simp [Form.groups, respeltFields, Form.placeFrom, Group.ofPlaced, Group.inRow,
      Group.outsideRow]
  have hrows : (Form.groups pairedFields).map (Widget.PlanRow.ofGroup false) =
      (Form.groups respeltFields).map (Widget.PlanRow.ofGroup false) := by
    rw [hgroups, hgroups']
    rfl
  have hlook : Theme.plain.look = respeltTheme.look := by
    decide +kernel
  have hwire : (Widget.Config.ofForm .null pairedFields .plain Place.builtIn).toWire =
      (Widget.Config.ofForm .null respeltFields respeltTheme Place.builtIn).toWire := by
    have hneeds : Field.anyCountry pairedFields = false := rfl
    have hneeds' : Field.anyCountry respeltFields = false := rfl
    rw [Widget.Config.ofForm, Widget.Config.ofForm, hneeds, hneeds', hrows, hlook]
  exact ⟨by decide, hwire, html_eq_of_toWire_eq hwire⟩

end Preview

end Enrolment
