/-
The controls of a preview are read as their plans say.

A control is written text, and much of the text is the operator's: labels, placeholders, values and
the wording of choices.  None of it can end a value or begin a tag, because a written tree has one
reading (`Markup.isReading_render_iff`).  So what a control shows is what is read off its tags and
its text, and that is what the plan of its field says (`control_read_as_plan`).
-/
import Enrolment.Form.Plan
import Enrolment.Preview.Control
import Enrolment.Proofs.Markup.Reading

namespace Enrolment

/-! ### What is read off tags and text -/

namespace Markup

/-- The value of the first attribute of a name that has one. -/
def value? (name : String) (attributes : List Attribute) : Option String :=
  attributes.findSome? fun a => match a with
    | .pair other value => if other = name then some value else none
    | .flag _ => none

/-- The value of an attribute of the tag in front. -/
def ownValue? (name : String) : List Token → Option String
  | .start _ attributes _ :: _ => value? name attributes
  | _ => none

/-- The text in front of the end of the next element that ends. -/
def leadingText : List Token → List Char
  | .char c :: rest => c :: leadingText rest
  | .start _ _ _ :: rest => leadingText rest
  | .stop _ :: _ | [] => []

/-- What the elements of a kind offer: their values, and the texts behind. -/
def offers (kind : String) : List Token → List (String × String)
  | .start tag attributes _ :: rest =>
    match if tag = kind then value? "value" attributes else none with
    | some value => (value, String.ofList (leadingText rest)) :: offers kind rest
    | none => offers kind rest
  | .stop _ :: rest | .char _ :: rest => offers kind rest
  | [] => []

theorem ownValue?_element (name tag : String) (attributes : List Attribute)
    (children : List Markup) :
    ownValue? name (tokens (.element tag attributes children)) = value? name attributes := by
  rw [tokens, ownValue?]

theorem leadingText_chars (content : List Char) (tag : String) (rest : List Token) :
    leadingText (content.map .char ++ .stop tag :: rest) = content := by
  induction content with
  | nil => rfl
  | cons c content ih => exact congrArg (c :: ·) ih

variable {kind : String}

theorem offers_chars (content : List Char) (rest : List Token) :
    offers kind (content.map .char ++ rest) = offers kind rest := by
  induction content with
  | nil => rfl
  | cons c content ih => exact ih

/-- Pieces that offer one entry each offer them in order. -/
theorem offers_map {α : Type} {make : α → Markup} {entry : α → String × String}
    (h : ∀ a rest, offers kind (tokens (make a) ++ rest) = entry a :: offers kind rest)
    (items : List α) (rest : List Token) :
    offers kind (tokensAll (items.map make) ++ rest) = items.map entry ++ offers kind rest := by
  induction items with
  | nil => rw [List.map_nil, List.map_nil, tokensAll, List.nil_append, List.nil_append]
  | cons a items ih =>
      rw [List.map_cons, List.map_cons, tokensAll, List.append_assoc, h, ih, List.cons_append]

/-- An element of another kind, or without a value, offers what is in it. -/
theorem offers_element {tag : String} {attributes : List Attribute} {children : List Markup}
    (h : (if tag = kind then value? "value" attributes else none) = none) :
    offers kind (tokens (.element tag attributes children)) =
      offers kind (tokensAll children ++ [.stop tag]) := by
  rw [tokens, offers, h]

end Markup

namespace Preview

open Markup (IsName IsNamed IsReading Token attributeName offers ownValue? tokens tokensAll value?)

/-! ### What a plan says -/

/-- The regions that a state field may list. -/
def regionsFor (table : Place.Table) (chosen : String) : List Region :=
  if chosen = "" then [] else table.regions chosen

/-- How the control of a state field is shown. -/
def stateMode (plan : Plan) (table : Place.Table) (chosen : String) : StateMode :=
  .of (!(regionsFor table chosen).isEmpty) (chosen ≠ "") plan.needsCountry

/-- Whether a control is a group of buttons or boxes, one for each choice. -/
def isGroup : Control → Bool
  | .radio | .checkboxGroup => true
  | _ => false

/-- Whether a control has a style of its own, which groups and single boxes do not. -/
def isStyled (control : Control) : Bool :=
  !isGroup control && control ≠ .checkbox

/-- The placeholder that is shown: the field's own in a text input, and a fixed wording where the
regions of a state field are typed in. -/
def shownPlaceholder? (plan : Plan) (table : Place.Table) (chosen : String) : Option String :=
  match plan.control with
  | .textarea | .input => some plan.placeholder
  | .stateControl =>
    match stateMode plan table chosen with
    | .select => none
    | .locked => some Wording.stateNeedsCountry
    | .freeText => some Wording.stateFreeText
  | _ => none

/-- The values and texts that are offered, in order: a list begins with the entry for no choice. -/
def shownEntries (plan : Plan) (table : Place.Table) (chosen : String) : List (String × String) :=
  let choices := plan.choices.map fun choice => (choice.value, choice.label)
  match plan.control with
  | .radio | .checkboxGroup => choices
  | .select => ("", Wording.optionPlaceholder) :: choices
  | .countrySelect =>
    ("", Wording.countryPlaceholder) :: table.countries.map fun country =>
      (country.code, country.name)
  | .stateControl =>
    match stateMode plan table chosen with
    | .select =>
      ("", Wording.statePlaceholder) :: (regionsFor table chosen).map fun region =>
        (region.optionValue, region.name)
    | .locked | .freeText => []
  | _ => []

/-- What it takes for a reading of a control to show a plan. -/
structure ShowsPlan (plan : Plan) (table : Place.Table) (chosen : String)
    (reading : List Token) : Prop where
  /-- The name is the key of the field; the parts of a group are named, and not the group. -/
  name : ownValue? "name" reading = if isGroup plan.control then none else some plan.key
  label : ownValue? "aria-label" reading = some plan.label
  style : ownValue? "style" reading = if isStyled plan.control then some plan.controlStyle else none
  placeholder : ownValue? "placeholder" reading = shownPlaceholder? plan table chosen
  /-- What is offered stands in the entries of a list, or beside the buttons or boxes of a group. -/
  entries : offers (if isGroup plan.control then "input" else "option") reading =
    shownEntries plan table chosen

/-! ### Names -/

theorem isName_of_map {attributes : List Attribute} {names : List String}
    (hmap : attributes.map attributeName = names) (hnames : ∀ n ∈ names, IsName n.toList) :
    ∀ a ∈ attributes, IsName (attributeName a).toList := by
  intro a ha
  exact hnames _ (hmap ▸ List.mem_map_of_mem ha)

theorem isName_commonAttributes (field : Field) (index : Int) :
    ∀ a ∈ commonAttributes field index, IsName (attributeName a).toList :=
  isName_of_map (rfl : _ = ["name", "aria-label", "style"]) (by decide)

theorem isNamed_option (value text : String) (selected : Bool) :
    IsNamed (option value text selected) := by
  refine .element (by decide) ?_ (List.forall_mem_singleton.2 (.text text))
  cases selected with
  | false => exact isName_of_map (rfl : _ = ["value"]) (by decide)
  | true => exact isName_of_map (rfl : _ = ["value", "selected"]) (by decide)

theorem isNamed_list {α : Type} {make : α → Markup} (hmake : ∀ a, IsNamed (make a)) (field : Field)
    (index : Int) (blank : String) (items : List α) :
    IsNamed (.element "select" (commonAttributes field index)
      (blankOption blank :: items.map make)) := by
  refine .element (by decide) (isName_commonAttributes field index) ?_
  refine List.forall_mem_cons.2 ⟨isNamed_option "" blank false, List.forall_mem_map.2 ?_⟩
  exact fun a _ => hmake a

theorem isNamed_choiceLines (field : Field) (index : Int) (role type : String) :
    IsNamed (choiceLines field index role type) := by
  refine .element (by decide) (isName_of_map (rfl : _ = ["role", "aria-label"]) (by decide)) ?_
  refine List.forall_mem_map.2 fun choice _ => ?_
  refine .element (by decide) (isName_of_map (rfl : _ = ["class"]) (by decide)) ?_
  refine List.forall_mem_cons.2 ⟨?_, List.forall_mem_singleton.2 ?_⟩
  · exact .void (by decide) (isName_of_map (rfl : _ = ["type", "name", "value"]) (by decide))
  · exact .element (by decide) (List.forall_mem_nil _) (List.forall_mem_singleton.2 (.text _))

theorem isNamed_stateControl (field : Field) (index : Int) (table : Place.Table) (chosen : String)
    (needsCountry : Bool) : IsNamed (stateControl field index table chosen needsCountry) := by
  dsimp only [stateControl]
  generalize (if chosen = "" then [] else table.regions chosen) = regions
  cases StateMode.of (!regions.isEmpty) (chosen ≠ "") needsCountry with
  | select => exact isNamed_list (fun _ => isNamed_option _ _ _) field index _ regions
  | locked =>
      exact .void (by decide) (isName_of_map
        (rfl : _ = ["type", "placeholder", "disabled", "name", "aria-label", "style"]) (by decide))
  | freeText =>
      exact .void (by decide) (isName_of_map
        (rfl : _ = ["type", "placeholder", "name", "aria-label", "style"]) (by decide))

theorem isNamed_control (field : Field) (index : Int) (table : Place.Table) (chosen : String)
    (needsCountry : Bool) : IsNamed (control field index table chosen needsCountry) := by
  unfold control
  cases field.control with
  | countrySelect => exact isNamed_list (fun _ => isNamed_option _ _ _) field index _ _
  | stateControl => exact isNamed_stateControl field index table chosen needsCountry
  | textarea =>
      exact .element (by decide) (isName_of_map
        (rfl : _ = ["rows", "placeholder", "name", "aria-label", "style"]) (by decide))
        (List.forall_mem_nil _)
  | select => exact isNamed_list (fun _ => isNamed_option _ _ _) field index _ _
  | radio | checkboxGroup => exact isNamed_choiceLines field index _ _
  | checkbox =>
      exact .void (by decide) (isName_of_map (rfl : _ = ["type", "name", "aria-label"]) (by decide))
  | file =>
      exact .void (by decide)
        (isName_of_map (rfl : _ = ["type", "name", "aria-label", "style"]) (by decide))
  | input =>
      exact .void (by decide) (isName_of_map
        (rfl : _ = ["type", "placeholder", "name", "aria-label", "style"]) (by decide))

/-! ### What is offered -/

theorem offers_option (value text : String) (selected : Bool) (rest : List Token) :
    offers "option" (tokens (option value text selected) ++ rest) =
      (value, text) :: offers "option" rest := by
  have htokens : tokens (option value text selected) ++ rest =
      .start "option" (.pair "value" value :: if selected then [.flag "selected"] else []) false ::
        (text.toList.map .char ++ .stop "option" :: rest) := by
    simp [option, tokens, tokensAll]
  have hvalue : value? "value" (.pair "value" value :: if selected then [.flag "selected"] else []) =
      some value := rfl
  rw [htokens, offers, if_pos rfl, hvalue]
  dsimp only
  rw [Markup.leadingText_chars, String.ofList_toList, Markup.offers_chars, offers]

theorem offers_choiceLine (type : String) (index : Int) (choice : Choice) (rest : List Token) :
    offers "input" (tokens (choiceLine type index choice) ++ rest) =
      (choice.value, choice.label) :: offers "input" rest := by
  have htokens : tokens (choiceLine type index choice) ++ rest =
      .start "label" [.pair "class" "cs-choice"] false ::
        .start "input" [.pair "type" type,
          .pair "name" ("cs-field-" ++ String.ofList (Numeral.ofInt index)),
          .pair "value" choice.value] true ::
        .start "span" [] false ::
        (choice.label.toList.map .char ++ .stop "span" :: .stop "label" :: rest) := by
    simp [choiceLine, tokens, tokensAll]
  rw [htokens, offers, if_neg (by decide)]
  dsimp only
  rw [offers, if_pos rfl, show value? "value" _ = some choice.value from rfl]
  dsimp only
  rw [Markup.leadingText, Markup.leadingText_chars, String.ofList_toList, offers,
    if_neg (by decide)]
  dsimp only
  rw [Markup.offers_chars, offers, offers]

/-- What a list offers: the entry for no choice, and its other entries in order. -/
theorem offers_list {α : Type} {make : α → Markup} {entry : α → String × String}
    (hmake : ∀ a, ∃ selected, make a = option (entry a).1 (entry a).2 selected)
    (attributes : List Attribute) (blank : String) (items : List α) :
    offers "option" (tokens (.element "select" attributes (blankOption blank :: items.map make))) =
      ("", blank) :: items.map entry := by
  have hentry : ∀ a rest, offers "option" (tokens (make a) ++ rest) =
      entry a :: offers "option" rest := by
    intro a rest
    obtain ⟨selected, heq⟩ := hmake a
    rw [heq, offers_option]
  rw [Markup.offers_element (if_neg (by decide)), tokensAll, List.append_assoc, blankOption,
    offers_option, Markup.offers_map hentry, offers, offers, List.append_nil]

/-! ### Readings of controls -/

/-- The attributes of most controls, by a plan. -/
def planAttributes (plan : Plan) : List Attribute :=
  [.pair "name" plan.key, .pair "aria-label" plan.label, .pair "style" plan.controlStyle]

section Readings

variable {plan : Plan} {table : Place.Table} {chosen : String}

/-- A control with a name, a label and a style behind its other attributes. -/
theorem showsPlan_of_common (front : List Attribute) {tag : String} {void : Bool}
    {rest : List Token} (hgroup : isGroup plan.control = false)
    (hstyled : isStyled plan.control = true)
    (hfront : ∀ name ∈ ["name", "aria-label", "style"], value? name front = none)
    (hplaceholder : value? "placeholder" front = shownPlaceholder? plan table chosen)
    (hentries : offers "option" (.start tag (front ++ planAttributes plan) void :: rest) =
      shownEntries plan table chosen) :
    ShowsPlan plan table chosen (.start tag (front ++ planAttributes plan) void :: rest) := by
  have hown : ∀ name, ownValue? name (.start tag (front ++ planAttributes plan) void :: rest) =
      (value? name front).or (value? name (planAttributes plan)) :=
    fun _ => List.findSome?_append
  refine ⟨?_, ?_, ?_, ?_, ?_⟩
  · rw [hown, hfront _ (by decide), hgroup]
    rfl
  · rw [hown, hfront _ (by decide)]
    rfl
  · rw [hown, hfront _ (by decide), hstyled]
    rfl
  · rw [hown, hplaceholder]
    exact Option.or_none
  · rw [hgroup, if_neg Bool.false_ne_true, hentries]

/-- A list has no placeholder, and its entries behind the one for no choice. -/
theorem showsPlan_list {α : Type} {make : α → Markup} {entry : α → String × String}
    {blank : String} {items : List α} (hgroup : isGroup plan.control = false)
    (hstyled : isStyled plan.control = true)
    (hplaceholder : shownPlaceholder? plan table chosen = none)
    (hentries : shownEntries plan table chosen = ("", blank) :: items.map entry)
    (hmake : ∀ a, ∃ selected, make a = option (entry a).1 (entry a).2 selected) :
    ShowsPlan plan table chosen
      (tokens (.element "select" (planAttributes plan) (blankOption blank :: items.map make))) := by
  have hoffers := offers_list hmake (planAttributes plan) blank items
  rw [tokens] at hoffers ⊢
  exact showsPlan_of_common [] hgroup hstyled (fun _ _ => rfl) hplaceholder.symm
    (hoffers.trans hentries.symm)

/-- A group of buttons or boxes has a label, and its choices beside its parts. -/
theorem showsPlan_group {role type : String} {index : Int} (hgroup : isGroup plan.control = true)
    (hplaceholder : shownPlaceholder? plan table chosen = none)
    (hentries : shownEntries plan table chosen =
      plan.choices.map fun choice => (choice.value, choice.label)) :
    ShowsPlan plan table chosen (tokens (.element "div"
      [.pair "role" role, .pair "aria-label" plan.label]
      (plan.choices.map (choiceLine type index)))) := by
  refine ⟨?_, ?_, ?_, ?_, ?_⟩
  · rw [Markup.ownValue?_element, hgroup]
    rfl
  · rw [Markup.ownValue?_element]
    rfl
  · rw [Markup.ownValue?_element, isStyled, hgroup]
    rfl
  · rw [Markup.ownValue?_element, hplaceholder]
    rfl
  · rw [hgroup, if_pos rfl, hentries, Markup.offers_element (if_neg (by decide)),
      Markup.offers_map (offers_choiceLine type index), offers, offers, List.append_nil]

theorem showsPlan_stateControl {field : Field} {index : Int}
    (hcommon : commonAttributes field index = planAttributes plan)
    (hcontrol : plan.control = .stateControl) :
    ShowsPlan plan table chosen
      (tokens (stateControl field index table chosen plan.needsCountry)) := by
  have hgroup : isGroup plan.control = false := by rw [hcontrol]; rfl
  have hstyled : isStyled plan.control = true := by rw [hcontrol]; rfl
  have hmode : stateControl field index table chosen plan.needsCountry =
      match stateMode plan table chosen with
      | .select => .element "select" (planAttributes plan) (blankOption Wording.statePlaceholder ::
        (regionsFor table chosen).map fun region => option region.optionValue region.name false)
      | .locked => .void "input" ([.pair "type" "text",
        .pair "placeholder" Wording.stateNeedsCountry, .flag "disabled"] ++ planAttributes plan)
      | .freeText => .void "input" ([.pair "type" "text",
        .pair "placeholder" Wording.stateFreeText] ++ planAttributes plan) := by
    rw [← hcommon]
    rfl
  rw [hmode]
  cases hshown : stateMode plan table chosen with
  | select =>
      have hentries : shownEntries plan table chosen = ("", Wording.statePlaceholder) ::
          (regionsFor table chosen).map fun region => (region.optionValue, region.name) := by
        rw [shownEntries, hcontrol]
        dsimp only
        rw [hshown]
      refine showsPlan_list hgroup hstyled ?_ hentries fun _ => ⟨false, rfl⟩
      rw [shownPlaceholder?, hcontrol]
      dsimp only
      rw [hshown]
  | locked | freeText =>
      dsimp only
      rw [tokens]
      refine showsPlan_of_common _ hgroup hstyled (by simp [value?]) ?_ ?_
      · rw [shownPlaceholder?, hcontrol]
        dsimp only
        rw [hshown]
        rfl
      · rw [shownEntries, hcontrol]
        dsimp only
        rw [hshown]
        rfl

end Readings

theorem showsPlan_control (field : Field) (index : Int) (table : Place.Table) (chosen : String)
    (needsCountry : Bool) :
    ShowsPlan (field.plan index needsCountry) table chosen
      (tokens (control field index table chosen needsCountry)) := by
  unfold control Field.plan
  generalize field.control = kind
  cases kind with
  | countrySelect =>
      exact showsPlan_list rfl rfl rfl rfl fun country => ⟨country.code = chosen, rfl⟩
  | select => exact showsPlan_list rfl rfl rfl rfl fun _ => ⟨false, rfl⟩
  | stateControl => exact showsPlan_stateControl rfl rfl
  | radio | checkboxGroup => exact showsPlan_group rfl rfl rfl
  | checkbox =>
      dsimp only
      rw [tokens]
      exact ⟨rfl, rfl, rfl, rfl, rfl⟩
  | textarea =>
      dsimp only
      rw [tokens, tokensAll]
      exact showsPlan_of_common [.pair "rows" "3", .pair "placeholder" field.placeholder] rfl rfl
        (by simp [value?]) rfl rfl
  | file =>
      dsimp only
      rw [tokens]
      exact showsPlan_of_common [.pair "type" "file"] rfl rfl (by simp [value?]) rfl rfl
  | input =>
      dsimp only
      rw [tokens]
      exact showsPlan_of_common
        [.pair "type" field.inputType, .pair "placeholder" field.placeholder] rfl rfl
        (by simp [value?]) rfl rfl

/-- **A control is read in one way, and as the plan of its field says.** -/
theorem control_read_as_plan (field : Field) (index : Int) (table : Place.Table) (chosen : String)
    (needsCountry : Bool) :
    ∃ reading, (∀ other, IsReading other
        (Markup.render (control field index table chosen needsCountry)).toList ↔ other = reading) ∧
      ShowsPlan (field.plan index needsCountry) table chosen reading := by
  have hnamed := isNamed_control field index table chosen needsCountry
  exact ⟨tokens (control field index table chosen needsCountry),
    fun _ => Markup.isReading_render_iff hnamed,
    showsPlan_control field index table chosen needsCountry⟩

end Preview

end Enrolment
