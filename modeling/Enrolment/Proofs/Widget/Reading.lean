/-
What can be read from a configuration.

A configuration is written for a program that knows nothing else of the form.  Here it is
read back, part by part, from the wire alone: the texts and styles, the plans in their
rows, the countries, and the messages of the rules.  `Reading.ofWire?_toWire` says that
nothing of this is lost on the way, so two forms with one configuration have one reading,
and whatever is computed from a reading depends on the configuration only.

What a form knows beyond that, such as the ids of its fields or the colours that its styles
were made from, is not in its configuration.
-/
import Enrolment.Proofs.Place.Wire
import Enrolment.Widget.Config

namespace Enrolment

namespace Json

/-- The value of an object's member. -/
def member? (key : String) : Json → Option Json
  | obj members => Members.get? members key
  | _ => none

/-- The text of a string. -/
def asText? : Json → Option String
  | str s => some s
  | _ => none

/-- The value of a switch. -/
def asFlag? : Json → Option Bool
  | bool value => some value
  | _ => none

/-- The value of an integer. -/
def asInt? : Json → Option Int
  | int value => some value
  | _ => none

/-- What is read from a value that may be null. -/
def orNull? {α : Type} (read : Json → Option α) : Json → Option (Option α)
  | null => some none
  | value => (read value).map some

/-- What is read from the items of a list, all of which have to be readable. -/
def asList? {α : Type} (read : Json → Option α) : Json → Option (List α)
  | arr items => items.mapM read
  | _ => none

/-- The text of an object's member. -/
def textAt? (key : String) (value : Json) : Option String :=
  (value.member? key).bind asText?

/-- The value of an object's switch. -/
def flagAt? (key : String) (value : Json) : Option Bool :=
  (value.member? key).bind asFlag?

/-- A list that is written item by item is read back if its items are. -/
theorem asList?_map {α : Type} {read : Json → Option α} {wire : α → Json}
    (h : ∀ a, read (wire a) = some a) (items : List α) :
    asList? read (arr (items.map wire)) = some items := by
  rw [asList?]
  induction items with
  | nil => rfl
  | cons a items ih =>
      rw [List.map_cons, List.mapM_cons, h, ih]
      rfl

theorem orNull?_ofText? (text : Option String) :
    orNull? asText? (ofText? text) = some text := by
  cases text <;> rfl

end Json

/-! ### Names -/

/-- All controls. -/
def Control.all : List Control :=
  [countrySelect, stateControl, textarea, select, radio, checkboxGroup, checkbox, file, input]

/-- The control of a name. -/
def Control.ofName? (s : String) : Option Control :=
  all.find? (·.name = s)

theorem Control.ofName?_name (control : Control) : ofName? control.name = some control := by
  cases control <;> rfl

theorem Rule.ofName?_name (rule : Rule) : ofName? rule.name = some rule := by
  cases rule <;> rfl

/-- The layout of a name. -/
def Layout.ofName? (s : String) : Option Layout :=
  [center, split].find? (·.name = s)

theorem Layout.ofName?_name (layout : Layout) : ofName? layout.name = some layout := by
  cases layout <;> rfl

/-! ### Parts -/

/-- Reads a choice. -/
def Choice.ofWire? (wire : Json) : Option Choice := do
  return { label := ← wire.textAt? "label", value := ← wire.textAt? "value" }

theorem Choice.ofWire?_toWire (choice : Choice) : ofWire? choice.toWire = some choice :=
  rfl

/-- Reads the rule of a name, or that there is none. -/
def Rule.ofWire? : Json → Option (Option Rule) :=
  Json.orNull? fun wire => wire.asText?.bind ofName?

theorem Rule.ofWire?_name (rule : Option Rule) :
    ofWire? (.ofText? (rule.map name)) = some rule := by
  cases rule with
  | none => rfl
  | some rule =>
      simp [ofWire?, Json.ofText?, Json.orNull?, Json.asText?, ofName?_name]

/-- Reads a plan. -/
def Plan.ofWire? (wire : Json) : Option Plan := do
  return {
    index := ← (← wire.member? "index").asInt?
    control := ← Control.ofName? (← wire.textAt? "kind")
    inputType := ← (← wire.member? "inputType").orNull? Json.asText?
    label := ← wire.textAt? "label"
    shownLabel := ← wire.textAt? "labelText"
    key := ← wire.textAt? "key"
    filePart := ← (← wire.member? "filePart").orNull? Json.asText?
    placeholder := ← wire.textAt? "placeholder"
    required := ← wire.flagAt? "required"
    isEmail := ← wire.flagAt? "isEmail"
    needsCountry := ← wire.flagAt? "needsCountry"
    typeRule := ← Rule.ofWire? (← wire.member? "typeCheck")
    labelRule := ← Rule.ofWire? (← wire.member? "labelCheck")
    choices := ← (← wire.member? "options").asList? Choice.ofWire?
    labelStyle := ← wire.textAt? "labelCss"
    controlStyle := ← wire.textAt? "inputCss" }

theorem Plan.ofWire?_toWire (plan : Plan) : ofWire? plan.toWire = some plan := by
  have hkind := Control.ofName?_name plan.control
  have hinput := Json.orNull?_ofText? plan.inputType
  have hfile := Json.orNull?_ofText? plan.filePart
  have htype := Rule.ofWire?_name plan.typeRule
  have hlabel := Rule.ofWire?_name plan.labelRule
  have hchoices := Json.asList?_map Choice.ofWire?_toWire plan.choices
  simp [ofWire?, toWire, Json.textAt?, Json.flagAt?, Json.member?, Members.get?, List.lookup_cons,
    Json.asText?, Json.asFlag?, Json.asInt?, hkind, hinput, hfile, htype, hlabel, hchoices]

/-- Reads a row. -/
def Widget.PlanRow.ofWire? (wire : Json) : Option PlanRow := do
  return {
    paired := ← wire.flagAt? "paired"
    plans := ← (← wire.member? "fields").asList? Plan.ofWire? }

theorem Widget.PlanRow.ofWire?_toWire (row : PlanRow) : ofWire? row.toWire = some row := by
  have hplans := Json.asList?_map Plan.ofWire?_toWire row.plans
  simp [ofWire?, toWire, Json.flagAt?, Json.member?, Members.get?, List.lookup_cons, Json.asFlag?,
    hplans]

/-! ### Countries

They are written so that what reads country data reads them too. -/

/-- Reads a table. -/
def Place.Table.ofWire? (wire : Json) : Option Table :=
  (wire.asList? Country.read?).map Table.mk

theorem Place.Table.ofWire?_toWire (table : Table) : ofWire? table.toWire = some table := by
  rw [ofWire?, toWire, Json.asList?_map Country.read?_toWire]
  rfl

/-! ### Styles -/

/-- Reads the inline styles around the fields. -/
def Style.Frame.ofWire? (wire : Json) : Option Frame := do
  return {
    body := ← wire.textAt? "body"
    loader := ← wire.textAt? "loader"
    spinner := ← wire.textAt? "spinner"
    page := ← wire.textAt? "page"
    aside := ← wire.textAt? "aside"
    overlay := ← wire.textAt? "overlay"
    orb := ← wire.textAt? "orb"
    root := ← wire.textAt? "root"
    card := ← wire.textAt? "card"
    title := ← wire.textAt? "title"
    subtitle := ← wire.textAt? "subtitle"
    form := ← wire.textAt? "form"
    error := ← wire.textAt? "error"
    button := ← wire.textAt? "button" }

theorem Style.Frame.ofWire?_toMembers (frame : Frame) :
    ofWire? (.obj frame.toMembers) = some frame :=
  rfl

/-! ### The whole configuration -/

namespace Widget

/-- What a configuration tells of a form. -/
structure Reading where
  title : String
  subtitle : String
  layout : Layout
  splitImageUrl : String
  buttonText : String
  sheet : String
  frame : Style.Frame
  rows : List PlanRow
  table : Place.Table
  messages : List (String × String)
  required : String

/-- The messages of the rules by their names. -/
def ruleMessages : List (String × String) :=
  Rule.all.map fun rule => (rule.name, rule.message)

/-- What the configuration of a form tells of it. -/
def Config.reading (config : Config) : Reading where
  title := config.look.title
  subtitle := config.look.subtitle
  layout := config.look.layout
  splitImageUrl := config.look.splitImageUrl
  buttonText := config.look.buttonText
  sheet := Style.sheet config.look
  frame := Style.frame config.look
  rows := config.rows
  table := config.table
  messages := ruleMessages
  required := Wording.required

/-- Reads the message of a rule that stands under its name. -/
def ruleMessage? (member : String × Json) : Option (String × String) :=
  (member.2.textAt? "message").map (member.1, ·)

/-- Reads a configuration. -/
def Reading.ofWire? (wire : Json) : Option Reading := do
  let theme ← wire.member? "theme"
  return {
    title := ← theme.textAt? "title"
    subtitle := ← theme.textAt? "subtitle"
    layout := ← Layout.ofName? (← theme.textAt? "layout")
    splitImageUrl := ← theme.textAt? "splitImageUrl"
    buttonText := ← theme.textAt? "buttonText"
    sheet := ← wire.textAt? "baseCss"
    frame := ← Style.Frame.ofWire? (← wire.member? "css")
    rows := ← (← wire.member? "groups").asList? PlanRow.ofWire?
    table := ← Place.Table.ofWire? (← wire.member? "geography")
    messages := ← (← wire.member? "rules").members.mapM ruleMessage?
    required := ← (← wire.member? "text").textAt? "required" }

/-- **A configuration reads back from the wire.** -/
theorem Reading.ofWire?_toWire (config : Config) :
    ofWire? config.toWire = some config.reading := by
  have hlayout := Layout.ofName?_name config.look.layout
  have hframe := Style.Frame.ofWire?_toMembers (Style.frame config.look)
  have hrows := Json.asList?_map PlanRow.ofWire?_toWire config.rows
  have htable := Place.Table.ofWire?_toWire config.table
  have hmessages : (Rule.all.map fun rule => (rule.name, rule.toWire)).mapM ruleMessage? =
      some ruleMessages := rfl
  simp [ofWire?, Config.toWire, Config.reading, Json.textAt?, Json.member?, Members.get?,
    List.lookup_cons, Json.asText?, Json.members, Wording.toMembers, hlayout, hframe, hrows, htable,
    hmessages]

end Widget

end Enrolment
