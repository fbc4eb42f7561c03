/-
A compiled script carries its configuration whole.

The script is a fixed program with one line in the place of a marker, and that line is
the written form of a configuration.  Two things make the line readable whatever the
form says.  The configuration is plain: it is built from texts, switches and positions,
under keys that the program looks up by name, so `read?_write` applies.  And the
marker is replaced once, at its first place, which lies in the program's own second
line; a marker in somebody's label comes later and stays.
-/
import Enrolment.Place.BuiltIn
import Enrolment.Proofs.Json.Inert
import Enrolment.Widget.Script

namespace Enrolment

namespace Json

/-- A list is plain if what it is made from is written plainly. -/
theorem plain_arr_map {α : Type} {wire : α → Json} (h : ∀ a, Plain (wire a)) (items : List α) :
    Plain (arr (items.map wire)) := by
  refine .arr (fun item hitem => ?_)
  obtain ⟨a, -, rfl⟩ := List.mem_map.mp hitem
  exact h a

theorem plain_ofText? (text : Option String) : Plain (ofText? text) := by
  cases text with
  | none => exact .null
  | some s => exact .str s

/-- Leaving out what is null keeps an object plain. -/
theorem plain_present {members : Members} (h : Plain (obj members)) :
    Plain (obj (present members)) := by
  cases h with
  | obj hkeys hall =>
      refine .obj (hkeys.sublist ?_) (fun member hmem => hall member ?_)
      · exact (List.filter_sublist).map _
      · exact (List.mem_filter.mp hmem).1

end Json

open Json (Plain)

/-! ### The parts of a configuration -/

theorem Choice.plain_toWire (choice : Choice) : Plain choice.toWire := by
  refine .obj (by simp) ?_
  simp only [List.forall_mem_cons]
  exact ⟨.str _, .str _, by simp⟩

theorem Region.plain_toWire (region : Region) : Plain region.toWire := by
  refine Json.plain_present (.obj (by simp) ?_)
  simp only [List.forall_mem_cons]
  exact ⟨.str _, Json.plain_ofText? _, by simp⟩

theorem Country.plain_toWire (country : Country) : Plain country.toWire := by
  refine .obj (by simp) ?_
  simp only [List.forall_mem_cons]
  exact ⟨.str _, .str _, Json.plain_arr_map Region.plain_toWire _, by simp⟩

theorem Rule.plain_toWire (rule : Rule) : Plain rule.toWire := by
  refine .obj (by simp) ?_
  simp only [List.forall_mem_cons]
  exact ⟨Json.plain_ofText? _, .str _, .bool _, by simp⟩

theorem Plan.plain_toWire (plan : Plan) : Plain plan.toWire := by
  refine .obj (by simp) ?_
  simp only [List.forall_mem_cons]
  exact ⟨.int _, .str _, Json.plain_ofText? _, .str _, .str _, .str _, Json.plain_ofText? _, .str _,
    .bool _, .bool _, .bool _, Json.plain_ofText? _, Json.plain_ofText? _,
    Json.plain_arr_map Choice.plain_toWire _, .str _, .str _, by simp⟩

theorem Style.Frame.plain_toMembers (frame : Style.Frame) : Plain (.obj frame.toMembers) := by
  refine .obj (by simp [toMembers]) ?_
  simp only [Style.Frame.toMembers, List.forall_mem_cons]
  exact ⟨.str _, .str _, .str _, .str _, .str _, .str _, .str _, .str _, .str _, .str _, .str _,
    .str _, .str _, .str _, by simp⟩

theorem Wording.plain_toMembers : Plain (.obj toMembers) := by
  refine .obj (by simp [toMembers]) ?_
  simp only [toMembers, List.forall_mem_cons]
  exact ⟨.str _, .str _, .str _, .str _, .str _, .str _, .str _, .str _, .str _, .str _, by simp⟩

theorem Rule.plain_wires : Plain (.obj (all.map fun rule => (rule.name, rule.toWire))) := by
  refine .obj (by simp [all, name]) (fun member hmem => ?_)
  obtain ⟨rule, -, rfl⟩ := List.mem_map.mp hmem
  exact rule.plain_toWire

theorem Widget.PlanRow.plain_toWire (row : PlanRow) : Plain row.toWire := by
  refine .obj (by simp) ?_
  simp only [List.forall_mem_cons]
  exact ⟨.bool _, Json.plain_arr_map Plan.plain_toWire _, by simp⟩

namespace Widget

/-- Whatever a form says, its configuration is plain. -/
theorem Config.plain_toWire {config : Config} (h : Plain config.container) :
    Plain config.toWire := by
  have hgate : Plain (.obj [("path", .str gatePath), ("query", .str gateQuery)]) := by
    refine .obj (by simp) ?_
    simp only [List.forall_mem_cons]
    exact ⟨.str _, .str _, by simp⟩
  have hlook : ∀ look : Look, Plain (.obj [
      ("title", .str look.title),
      ("subtitle", .str look.subtitle),
      ("layout", .str look.layout.name),
      ("splitImageUrl", .str look.splitImageUrl),
      ("buttonText", .str look.buttonText)]) := by
    intro look
    refine .obj (by simp) ?_
    simp only [List.forall_mem_cons]
    exact ⟨.str _, .str _, .str _, .str _, .str _, by simp⟩
  refine .obj (by simp) ?_
  simp only [List.forall_mem_cons]
  exact ⟨h, .str _, .str _, hgate, hlook _, .str _, Style.Frame.plain_toMembers _,
    Json.plain_arr_map PlanRow.plain_toWire _, Json.plain_arr_map Country.plain_toWire _,
    Rule.plain_wires, Wording.plain_toMembers, by simp⟩

theorem Config.plain_container (container : Option String) (fields : List Field) (theme : Theme)
    (table : Place.Table) :
    Plain (ofForm (Json.ofText? container) fields theme table).container := by
  unfold ofForm
  by_cases h : (Json.ofText? container).isTruthy = true
  · simp only [if_pos h]
    exact Json.plain_ofText? container
  · simp only [if_neg h]
    exact .str _

/-! ### The template -/

/-- The word that stands in the template for the configuration. -/
def marker : String :=
  "__WIDGET_CONFIG__"

/-- The program with the marker in the place of its configuration. -/
def template : String :=
  opening ++ marker ++ closing

/-- A text with a word replaced where it first stands. -/
def replaceFirst (word new : List Char) : List Char → List Char
  | [] => []
  | c :: rest =>
    if word.isPrefixOf (c :: rest) then new ++ rest.drop (word.length - 1)
    else c :: replaceFirst word new rest

/-- A word is found behind a piece that does not hold its first character. -/
theorem replaceFirst_append {piece : List Char} {d : Char} (h : d ∉ piece)
    (word new rest : List Char) :
    replaceFirst (d :: word) new (piece ++ (d :: word ++ rest)) = piece ++ (new ++ rest) := by
  induction piece with
  | nil =>
      rw [List.nil_append, List.nil_append, List.cons_append, replaceFirst, if_pos (by simp)]
      simp
  | cons c piece ih =>
      rw [List.mem_cons, not_or] at h
      have hno := Json.isPrefixOf_cons_of_ne h.1 word (piece ++ (d :: word ++ rest))
      rw [List.cons_append, replaceFirst, if_neg (by rw [hno]; exact Bool.false_ne_true), ih h.2,
        List.cons_append]

/-- The marker stands nowhere before its place. -/
theorem not_mem_opening : '_' ∉ opening.toList := by
  decide +kernel

theorem replaceFirst_template (payload : List Char) :
    replaceFirst marker.toList payload template.toList =
      opening.toList ++ payload ++ closing.toList := by
  have hmarker : marker.toList = '_' :: "_WIDGET_CONFIG__".toList := by decide +kernel
  rw [template, String.toList_append, String.toList_append, hmarker, List.append_assoc,
    replaceFirst_append not_mem_opening, List.append_assoc]

/-! ### The whole script -/

/-- What a list of items compiles to, once its fields and the theme are read. -/
theorem compileValues_arr {container : Json} {items : List Json} {theme : Json}
    {table : Place.Table} {script : Script}
    (h : compileValues container (.arr items) theme table = .ok script) :
    ∃ (fields : List Field) (look : Theme),
      Field.ofItems items = .ok fields ∧ Theme.read theme = .ok look ∧
      script = compile container fields look table := by
  simp only [compileValues] at h
  cases hfields : Field.ofItems items with
  | error cause =>
      rw [hfields] at h
      cases h
  | ok fields =>
      cases htheme : Theme.read theme with
      | error cause =>
          rw [hfields, htheme] at h
          cases h
      | ok look =>
          rw [hfields, htheme] at h
          exact ⟨fields, look, rfl, rfl, (Except.ok.inj h).symm⟩

/-- **A compiled script is the template with one printable line in place of its marker, and that
line reads back as the configuration of the form.** -/
theorem compileValues_carries_config (container : Option String) (items : List Json)
    (theme : Json) (table : Place.Table) {script : Script}
    (h : compileValues (Json.ofText? container) (.arr items) theme table = .ok script) :
    ∃ (fields : List Field) (look : Theme) (config : Config),
      Field.ofItems items = .ok fields ∧ Theme.read theme = .ok look ∧
      config = Config.ofForm (Json.ofText? container) fields look table ∧
      script.chars = opening.toList ++ script.payload ++ closing.toList ∧
      script.chars = replaceFirst marker.toList script.payload template.toList ∧
      script.payload = Json.inert (Json.ascii config.toWire) ∧
      (∀ c ∈ script.payload, Json.IsPrintable c) ∧
      Json.read? script.payload = some config.toWire := by
  obtain ⟨fields, look, hfields, hlook, rfl⟩ := compileValues_arr h
  have hplain : Plain (Config.ofForm (Json.ofText? container) fields look table).toWire :=
    Config.plain_toWire (Config.plain_container container fields look table)
  refine ⟨fields, look, _, hfields, hlook, rfl, rfl, ?_, ?_, ?_, ?_⟩
  · rw [replaceFirst_template]
    rfl
  · exact Json.write_eq_inert_ascii hplain
  · exact Json.isPrintable_write hplain
  · exact Json.read?_write hplain

/-- A field whose label closes the script, opens a comment and names the marker. -/
def hostileItems : List Json :=
  [.obj [("label", .str "</script><!--\\\"\n__WIDGET_CONFIG__😀")]]

/-- Such a label is carried like any other. -/
theorem hostile_label_carried :
    ∃ (script : Script) (fields : List Field),
      compileValues (Json.ofText? (some "root")) (.arr hostileItems) .null Place.builtIn =
        .ok script ∧
      fields.map (·.label) = ["</script><!--\\\"\n__WIDGET_CONFIG__😀"] ∧
      Json.read? script.payload =
        some (Config.ofForm (.str "root") fields .plain Place.builtIn).toWire := by
  obtain ⟨fields, look, config, hfields, hlook, rfl, -, -, -, -, hread⟩ :=
    compileValues_carries_config (some "root") hostileItems .null Place.builtIn rfl
  cases hfields
  cases hlook
  exact ⟨_, _, rfl, rfl, hread⟩

end Widget

end Enrolment
