/-
Fields on the wire and back.

The wire form of a field leaves out what is not set, and it is read by the readers that take
any value.  Two things would not come back: a style that is set to nothing, and a choice that
has a label and no value.  No field that was read has either, and a field that has neither
comes back as it was (`Field.ofMembers_toWire`).
-/
import Enrolment.Proofs.Form.Overflow
import Enrolment.Proofs.Json.Members

namespace Enrolment

/-! ### Settings -/

theorem Json.display_str (s : String) : display (.str s) = s :=
  rfl

namespace Setting

theorem style?_ofText? {text : Option String} (h : Json.ofText? text ≠ .str "") :
    (Json.ofText? text).known?.bind style? = text := by
  cases text with
  | none => rfl
  | some s =>
      have hs : s ≠ "" := by
        rintro rfl
        exact h rfl
      change (some s).filter (· ≠ "") = some s
      exact Option.filter_eq_some_iff.2 ⟨rfl, decide_eq_true hs⟩

/-- A style that was read is not empty. -/
theorem ofText?_style? (member : Option Json) :
    Json.ofText? (member.bind style?) ≠ .str "" := by
  cases hstyle : member.bind style? with
  | none => exact nofun
  | some s =>
      obtain ⟨value, -, hvalue⟩ := Option.bind_eq_some_iff.1 hstyle
      intro hempty
      obtain rfl := Json.str.inj hempty
      exact of_decide_eq_true (Option.filter_eq_some_iff.1 hvalue).2 rfl

theorem flag_bool (value : Bool) : flag (.bool value) = value :=
  rfl

theorem integer?_ofInt? (n : Option Int) :
    optional integer? (Json.ofInt? n).known? = .ok n := by
  cases n <;> rfl

end Setting

theorem InputType.read_name (type : InputType) : read (.str type.name) = type := by
  cases type <;> rfl

theorem Role.read?_name (role : Option Role) :
    (Json.ofText? (role.map name)).known?.bind read? = role := by
  cases role with
  | none => rfl
  | some role => cases role <;> rfl

/-! ### Choices -/

/-- Whether a choice without a value has no label either. -/
def Choice.IsCanonical (choice : Choice) : Prop :=
  choice.value = "" → choice.label = ""

namespace Choice

theorem isCanonical_of_read? {value : Json} {choice : Choice} (h : read? value = some choice) :
    choice.IsCanonical := by
  unfold IsCanonical
  intro hvalue
  cases value with
  | str s =>
      obtain rfl := Option.some.inj h
      exact hvalue
  | obj members =>
      obtain rfl := Option.some.inj h
      dsimp only [ofMembers] at hvalue ⊢
      split at hvalue
      · exact hvalue
      · contradiction
  | null | bool _ | int _ | num _ | arr _ => cases h

theorem isCanonical_of_mem_readList {value : Json} {choice : Choice}
    (h : choice ∈ readList value) : choice.IsCanonical := by
  cases value with
  | arr items =>
      obtain ⟨item, -, hread⟩ := List.mem_filterMap.1 h
      exact isCanonical_of_read? hread
  | null | bool _ | int _ | num _ | str _ | obj _ => cases h

theorem read?_toWire {choice : Choice} (h : choice.IsCanonical) :
    read? choice.toWire = some choice := by
  obtain ⟨label, value⟩ := choice
  change some (⟨label, if value = "" then label else value⟩ : Choice) = _
  split
  · rename_i hvalue
    obtain rfl : label = value := (h hvalue).trans hvalue.symm
    rfl
  · rfl

theorem readList_map_toWire {choices : List Choice} (h : ∀ choice ∈ choices, choice.IsCanonical) :
    readList (.arr (choices.map toWire)) = choices := by
  rw [readList]
  induction choices with
  | nil => rfl
  | cons choice rest ih =>
      rw [List.map_cons, List.filterMap_cons_some (read?_toWire (h choice (.head _))),
        ih fun other hother => h other (.tail _ hother)]

end Choice

/-! ### Fields -/

namespace Field

/-- Whether a field comes back from its wire form: no style is set to nothing, and no choice has a
label without a value. -/
structure IsCanonical (field : Field) : Prop where
  styles : ∀ entry ∈ field.style.toMembers, entry.2 ≠ .str ""
  choices : ∀ choice ∈ field.choices, choice.IsCanonical

/-- What a field is set to, null for what is not set. -/
def settings (field : Field) : Members :=
  [("id", .ofInt? field.id), ("type", .str field.type.name), ("label", .str field.label),
    ("placeholder", .str field.placeholder), ("required", .bool field.required)] ++
  field.style.toMembers ++
  [("role", .ofText? (field.role.map Role.name)), ("locked", .bool field.locked),
    ("options", .arr (field.choices.map Choice.toWire)),
    ("rowGroup", .ofInt? field.rowGroup)]

theorem nodup_settings (field : Field) : (field.settings.map (·.1)).Nodup := by
  simp [settings, Presentation.toMembers]

/-- The member of a wire form that has a key. -/
theorem get?_toWire (field : Field) (key : String) :
    field.toWire.members.get? key = (field.settings.get? key).bind Json.known? :=
  Members.get?_present field.nodup_settings key

theorem style_toWire {field : Field} (h : field.IsCanonical) :
    Presentation.ofMembers field.toWire.members = field.style := by
  have hstyles := h.styles
  simp only [Presentation.toMembers, List.forall_mem_cons] at hstyles
  simp [Presentation.ofMembers, Members.either?, get?_toWire, settings, Presentation.toMembers,
    Members.get?_cons, Members.get?_nil, Setting.style?_ofText?, hstyles]

/-- **A field comes back from its wire form.** -/
theorem ofMembers_toWire {field : Field} (h : field.IsCanonical) :
    ofMembers field.toWire.members = .ok field := by
  have hget (key : String) (value : Json) (hkey : field.settings.get? key = some value) :
      field.toWire.members.get? key = value.known? := by
    rw [get?_toWire, hkey]
    rfl
  have hrow : field.toWire.members.either? "rowGroup" "row_group" =
      (Json.ofInt? field.rowGroup).known? := by
    unfold Members.either?
    rw [hget "rowGroup" _ rfl, get?_toWire]
    exact Option.or_none
  unfold ofMembers
  dsimp only
  rw [style_toWire h, hrow, hget "id" _ rfl, hget "type" _ rfl, hget "label" _ rfl,
    hget "placeholder" _ rfl, hget "required" _ rfl, hget "role" _ rfl, hget "locked" _ rfl,
    hget "options" _ rfl, Setting.integer?_ofInt?, Setting.integer?_ofInt?, Role.read?_name]
  simp only [Json.known?, Option.map_some, Option.getD_some, Json.display_str, Setting.flag_bool,
    InputType.read_name, Choice.readList_map_toWire h.choices]
  rfl

/-- Fields come back from a list of their wire forms. -/
theorem ofItems_map_toWire {fields : List Field} (h : ∀ field ∈ fields, field.IsCanonical) :
    ofItems (fields.map toWire) = .ok fields := by
  induction fields with
  | nil => rfl
  | cons field rest ih =>
      rw [List.map_cons]
      change (ofMembers field.toWire.members >>= fun first =>
        ofItems (rest.map toWire) >>= fun others => .ok (first :: others)) = _
      rw [ofMembers_toWire (h field (.head _)), ih fun other hother => h other (.tail _ hother)]
      rfl

/-! ### What was read -/

theorem isCanonical_of_ofMembers {members : Members} {field : Field}
    (h : ofMembers members = .ok field) : field.IsCanonical := by
  obtain ⟨id, -, h⟩ := ok_of_bind h
  obtain ⟨rowGroup, -, h⟩ := ok_of_bind h
  obtain rfl := Except.ok.inj h
  constructor
  · simp [Presentation.toMembers, Presentation.ofMembers, Setting.ofText?_style?]
  · intro choice hchoice
    dsimp only at hchoice
    cases hoptions : members.get? "options" with
    | none =>
        rw [hoptions] at hchoice
        cases hchoice
    | some value =>
        rw [hoptions] at hchoice
        exact Choice.isCanonical_of_mem_readList hchoice

theorem isCanonical_of_ofItems {items : List Json} {fields : List Field}
    (h : ofItems items = .ok fields) : ∀ field ∈ fields, field.IsCanonical := by
  induction items generalizing fields with
  | nil =>
      obtain rfl := Except.ok.inj h
      exact List.forall_mem_nil _
  | cons item rest ih =>
      cases item with
      | obj members =>
          obtain ⟨field, hfield, h⟩ := ok_of_bind h
          obtain ⟨others, hothers, h⟩ := ok_of_bind h
          obtain rfl := Except.ok.inj h
          exact List.forall_mem_cons.2 ⟨isCanonical_of_ofMembers hfield, ih hothers⟩
      | null | bool _ | int _ | num _ | str _ | arr _ => exact ih h

/-- **Whatever object a field was read from, its wire form is an object that gives the same
field.** -/
theorem exists_wire_of_ofMembers {members : Members} {field : Field}
    (h : ofMembers members = .ok field) :
    ∃ wire, field.toWire = .obj wire ∧ ofMembers wire = .ok field :=
  ⟨_, rfl, ofMembers_toWire (isCanonical_of_ofMembers h)⟩

/-- An object of which nothing is of the type that a field has in its place. -/
def oddMembers : Members :=
  [("id", .str " 1_0 "), ("type", .str " CheckBox "), ("label", .num (.finite false 3 2)),
    ("placeholder", .bool true), ("required", .str "Yes"), ("label_color", .str ""),
    ("labelSize", .num (.finite false 5 (-1))), ("padding", .arr [.int 1, .null]),
    ("role", .str "EMAIL"), ("locked", .obj []), ("row_group", .num (.finite true 7 (-1))),
    ("options", .arr [.str "", .null, .obj [("label", .int 7), ("value", .str "")],
      .obj [("value", .bool false)]])]

/-- The field that is read from it. -/
def oddField : Field :=
  ⟨some 10, .checkbox, "12", "true", true,
    { Presentation.plain with labelSize := some "2.5", padding := some "[1, None]" },
    some .email, false, [⟨"", ""⟩, ⟨"7", "7"⟩, ⟨"", "false"⟩], some (-3)⟩

/-- What was made of the odd values stays as it is. -/
theorem oddField_comes_back :
    ofMembers oddMembers = .ok oddField ∧
      ∃ wire, oddField.toWire = .obj wire ∧ ofMembers wire = .ok oddField := by
  have hread : ofMembers oddMembers = .ok oddField := by
    rfl
  exact ⟨hread, exists_wire_of_ofMembers hread⟩

end Field

end Enrolment
