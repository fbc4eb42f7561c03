/-
Choices are displayed by their labels.

A choice is submitted as the text of its value, or as the value that it was declared with,
which need not be a text: a number or a truth value is displayed by the same rule by which
it was read (`Choice.Submits`).  So whatever is submitted for a choice leads to the text of
its value, and if no two choices have one value, to this choice and to no other, since labels
are compared only where no value fits.
-/
import Enrolment.Proofs.Json.Text
import Enrolment.Proofs.Place.Choices
import Enrolment.Submission.Resolve

namespace Enrolment

/-! ### What is submitted for a choice -/

/-- Whether a value says something: null and the empty text do not. -/
def Json.IsStated (value : Json) : Prop :=
  value ≠ .null ∧ value ≠ .str ""

namespace Choice

/-- The value that an entry of a list declares for its choice: its own if it says something, or
else the one of its label. -/
inductive Declares : Json → Json → Prop
  | text (s : String) : Declares (.str s) (.str s)
  | value {members : Members} {value : Json} (h : members.get? "value" = some value) :
      Declares (.obj members) value
  | label {members : Members} {value : Json}
      (hunstated : ∀ own, members.get? "value" = some own → ¬own.IsStated)
      (h : members.get? "label" = some value) : Declares (.obj members) value

/-- What is submitted for the choice of an entry: the text of its value, or the value that was
declared, if it says something and is no list. -/
inductive Submits (entry : Json) (choice : Choice) : Json → Prop
  | text : Submits entry choice (.str choice.value)
  | declared {value : Json} (h : Declares entry value) (hstated : value.IsStated)
      (hlist : ∀ items, value ≠ .arr items) : Submits entry choice value

theorem display_eq_empty_of_not_isStated {value : Json} (h : ¬value.IsStated) :
    value.display = "" := by
  unfold Json.IsStated at h
  rw [Json.display_eq_empty_iff]
  by_cases hnull : value = .null
  · exact .inl hnull
  · right
    by_contra hempty
    exact h ⟨hnull, hempty⟩

/-- **Whatever is submitted for a choice is displayed as the text of its value.** -/
theorem display_of_submits {entry : Json} {choice : Choice} (hread : read? entry = some choice)
    {value : Json} (h : Submits entry choice value) : value.display = choice.value := by
  cases h with
  | text => rfl
  | declared hdeclared hstated _ =>
      have hshown : value.display ≠ "" := by
        rw [ne_eq, Json.display_eq_empty_iff, not_or]
        exact hstated
      cases hdeclared with
      | text s =>
          obtain rfl := Option.some.inj hread
          rfl
      | value hvalue =>
          obtain rfl := Option.some.inj hread
          unfold ofMembers
          dsimp only
          rw [hvalue, Option.getD_some, if_neg hshown]
      | @label members value hunstated hlabel =>
          obtain rfl := Option.some.inj hread
          have hown : ((members.get? "value").getD .null).display = "" := by
            cases hmember : members.get? "value" with
            | none => rfl
            | some own => exact display_eq_empty_of_not_isStated (hunstated own hmember)
          unfold ofMembers
          dsimp only
          rw [hown, if_pos rfl, hlabel, Option.getD_some]

end Choice

namespace Resolve

/-! ### The choice of a value -/

/-- The form in which values of choices are compared. -/
def folded (choice : Choice) : String :=
  Text.lower (Text.trim choice.value)

/-- By its value a choice is found before any label is looked at. -/
theorem choiceLabel?_value {choices : List Choice} (h : (choices.map folded).Nodup)
    {choice : Choice} (hchoice : choice ∈ choices) :
    choiceLabel? choices choice.value = some choice.label := by
  have hfound : (choices.find? fun other => sameText other.value choice.value) = some choice :=
    Place.find?_of_nodup_map h hchoice
  unfold choiceLabel?
  rw [hfound]
  rfl

/-- A field of this kind offers choices, and its role leaves them to be looked at. -/
structure IsChoiceField (field : Field) : Prop where
  type : field.type = .select ∨ field.type = .radio ∨ field.type = .checkbox
  not_country : field.role ≠ some .country
  not_state : field.role ≠ some .state

theorem scalar_of_display {field : Field} (hfield : IsChoiceField field)
    (h : (field.choices.map folded).Nodup) {choice : Choice} (hchoice : choice ∈ field.choices)
    (context : Context) {value : Json} (hvalue : value.display = choice.value) :
    scalar context field value = choice.label := by
  have htype : (decide (field.type = .select) || decide (field.type = .radio) ||
      decide (field.type = .checkbox)) = true := by
    rcases hfield.type with htype | htype | htype <;> simp [htype]
  unfold scalar ordinary
  rw [if_neg hfield.not_country, if_neg hfield.not_state, hvalue]
  dsimp only
  rw [htype, if_pos rfl, choiceLabel?_value h hchoice]

/-- Whether a value is submitted for a choice that is read from one of several entries. -/
def IsPick (entries : List Json) (choice : Choice) (value : Json) : Prop :=
  ∃ entry ∈ entries, Choice.read? entry = some choice ∧ Choice.Submits entry choice value

/-- **If no two of the choices have one value but for case and blanks, each value that is submitted
for a choice is displayed by its label, and so are the values of a list, in their order.** -/
theorem value_of_pick {entries : List Json} {field : Field} (hfield : IsChoiceField field)
    (hchoices : field.choices = Choice.readList (.arr entries))
    (hdistinct : (field.choices.map folded).Nodup) (context : Context) :
    (∀ choice submitted, IsPick entries choice submitted →
      value context field submitted = choice.label) ∧
    ∀ picks : List (Choice × Json), (∀ pick ∈ picks, IsPick entries pick.1 pick.2) →
      value context field (.arr (picks.map (·.2))) = ", ".intercalate (picks.map (·.1.label)) := by
  have hscalar : ∀ choice submitted, IsPick entries choice submitted →
      scalar context field submitted = choice.label := by
    intro choice submitted hpick
    obtain ⟨entry, hentry, hread, hsubmits⟩ := hpick
    have hmem : choice ∈ field.choices := by
      rw [hchoices]
      exact List.mem_filterMap.2 ⟨entry, hentry, hread⟩
    exact scalar_of_display hfield hdistinct hmem context (Choice.display_of_submits hread hsubmits)
  refine ⟨?_, ?_⟩
  · intro choice submitted hpick
    rw [← hscalar choice submitted hpick]
    obtain ⟨entry, -, -, hsubmits⟩ := hpick
    cases hsubmits with
    | text => rfl
    | declared _ _ hlist =>
        -- A list would be resolved item by item.
        cases submitted with
        | arr items => exact absurd rfl (hlist items)
        | null | bool _ | int _ | num _ | str _ | obj _ => rfl
  · intro picks hpicks
    show ", ".intercalate ((picks.map (·.2)).map (scalar context field)) = _
    rw [List.map_map]
    congr 1
    refine List.map_congr_left ?_
    intro pick hmem
    exact hscalar pick.1 pick.2 (hpicks pick hmem)

/-- The number two, as it is read from `2.0`. -/
def two : Json :=
  .num (.ofDecimal false 20 (-1))

/-- Entries of which one has the number two for its value and another for its label, and one the
text that ticked boxes submit. -/
def planEntries : List Json :=
  [.obj [("label", .str "2"), ("value", .bool true)],
    .obj [("label", .str "Basic plan"), ("value", two)],
    .obj [("label", .str "Newsletter"), ("value", .str "on")],
    .obj [("value", .null), ("label", .int 7)]]

/-- A field with their choices. -/
def planField : Field :=
  ⟨none, .checkbox, "Plan", "", false, .plain, none, false,
    [⟨"2", "true"⟩, ⟨"Basic plan", "2"⟩, ⟨"Newsletter", "on"⟩, ⟨"7", "7"⟩], none⟩

/-- The number is displayed by the label of the choice that it was declared for, and so are the
others. -/
theorem plans_displayed :
    IsChoiceField planField ∧ planField.choices = Choice.readList (.arr planEntries) ∧
      (planField.choices.map folded).Nodup ∧ IsPick planEntries ⟨"Basic plan", "2"⟩ two ∧
      value ⟨⟨[]⟩, [], none⟩ planField two = "Basic plan" ∧
      value ⟨⟨[]⟩, [], none⟩ planField (.arr [.int 7, .str "on", two, .bool true]) =
        "7, Newsletter, Basic plan, 2" := by
  have hfield : IsChoiceField planField := ⟨.inr (.inr rfl), nofun, nofun⟩
  have hchoices : planField.choices = Choice.readList (.arr planEntries) := by decide +kernel
  have hdistinct : (planField.choices.map folded).Nodup := by decide
  have hbasic : IsPick planEntries ⟨"Basic plan", "2"⟩ two :=
    ⟨_, .tail _ (.head _), by decide +kernel,
      .declared (.value rfl) ⟨nofun, nofun⟩ nofun⟩
  have htrue : IsPick planEntries ⟨"2", "true"⟩ (.bool true) :=
    ⟨_, .head _, rfl, .declared (.value rfl) ⟨nofun, nofun⟩ nofun⟩
  have hon : IsPick planEntries ⟨"Newsletter", "on"⟩ (.str "on") :=
    ⟨_, .tail _ (.tail _ (.head _)), rfl, .text⟩
  have hseven : IsPick planEntries ⟨"7", "7"⟩ (.int 7) := by
    refine ⟨_, .tail _ (.tail _ (.tail _ (.head _))), rfl, ?_⟩
    refine .declared (.label ?_ rfl) ⟨nofun, nofun⟩ nofun
    intro own hown hstated
    exact hstated.1 (Option.some.inj hown).symm
  obtain ⟨hone, hlist⟩ := value_of_pick hfield hchoices hdistinct ⟨⟨[]⟩, [], none⟩
  refine ⟨hfield, hchoices, hdistinct, hbasic, hone _ _ hbasic, ?_⟩
  exact hlist [(⟨"7", "7"⟩, .int 7), (⟨"Newsletter", "on"⟩, .str "on"), (⟨"Basic plan", "2"⟩, two),
    (⟨"2", "true"⟩, .bool true)] (by simp [hseven, hon, hbasic, htrue])

end Resolve

end Enrolment
