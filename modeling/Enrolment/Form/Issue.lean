/-
What is wrong with a form, in the strict view.

A form is read leniently and works as it is; the strict view is for its author.
Every limit that is not kept gives one issue, and the issues come in the order of
the fields, those of the theme last.  The fields are looked at once, and what they
take is remembered: an id or a role that was taken before is a problem of the later
field, which is told who had it first.  The address of the image cannot be judged
if it is malformed as a URL.
-/
import Enrolment.Form.Basic
import Enrolment.Url.Split

namespace Enrolment

/-- What may be wrong with a field. -/
inductive FieldProblem where
  | duplicateId (id : Int) (first : Nat)
  | longCheckboxLabel
  | emptyCheckbox
  | noLabel
  | longLabel
  | longPlaceholder
  | longChoiceLabel (choice : Nat) (limit : Nat)
  | longChoiceValue (choice : Nat)
  | duplicateRole (role : Role) (first : Nat)

/-- What may be wrong with a theme. -/
inductive ThemeProblem where
  | longTitle
  | longSubtitle
  | longButtonText
  | titleSize
  | subtitleSize
  | buttonRadius
  | imageUrl

/-- A limit that a form does not keep. -/
inductive Issue where
  | tooManyFields
  | field (index : Nat) (problem : FieldProblem)
  | theme (problem : ThemeProblem)

namespace Limit

/-- Fields of a form. -/
def fields : Nat := 100

/-- Characters of a label. -/
def label : Nat := 50

/-- Characters of a checkbox's label, and of the labels of its choices. -/
def checkboxLabel : Nat := 250

/-- Characters of a placeholder. -/
def placeholder : Nat := 50

/-- Characters of the label of a choice, checkboxes apart. -/
def choiceLabel : Nat := 200

/-- Characters of the value of a choice. -/
def choiceValue : Nat := 200

/-- Characters of the title. -/
def title : Nat := 200

/-- Characters of the subtitle. -/
def subtitle : Nat := 500

/-- Characters of the button's text. -/
def buttonText : Nat := 100

end Limit

/-! ### Wording -/

namespace FieldProblem

/-- The member of the field that is wrong. -/
def place : FieldProblem → String
  | duplicateId .. => "id"
  | longCheckboxLabel | noLabel | longLabel => "label"
  | emptyCheckbox => "options"
  | longPlaceholder => "placeholder"
  | longChoiceLabel choice _ => "options[" ++ toString choice ++ "].label"
  | longChoiceValue choice => "options[" ++ toString choice ++ "].value"
  | duplicateRole .. => "role"

/-- What is wrong with a field, in words. -/
def message : FieldProblem → String
  | duplicateId id first =>
    "Duplicate field id " ++ String.ofList (Numeral.ofInt id) ++ " (also used by fields[" ++
      toString first ++ "])"
  | longCheckboxLabel =>
    "Checkbox label must be " ++ toString Limit.checkboxLabel ++ " characters or less"
  | emptyCheckbox => "Checkbox fields without a label must have at least one option"
  | noLabel => "Label must have at least 1 character"
  | longLabel => "Label must be " ++ toString Limit.label ++ " characters or less"
  | longPlaceholder =>
    "Placeholder must be " ++ toString Limit.placeholder ++ " characters or less"
  | longChoiceLabel _ limit => "Option label must be " ++ toString limit ++ " characters or less"
  | longChoiceValue _ =>
    "Option value must be " ++ toString Limit.choiceValue ++ " characters or less"
  | duplicateRole role first =>
    "Role '" ++ role.name ++ "' is already used by fields[" ++ toString first ++ "]"

end FieldProblem

namespace ThemeProblem

/-- The member of the theme that is wrong. -/
def place : ThemeProblem → String
  | longTitle => "title"
  | longSubtitle => "subtitle"
  | longButtonText => "buttonText"
  | titleSize => "titleFontSize"
  | subtitleSize => "subtitleFontSize"
  | buttonRadius => "buttonRadius"
  | imageUrl => "splitImageUrl"

/-- What is wrong with a theme, in words. -/
def message : ThemeProblem → String
  | longTitle => "Title must be " ++ toString Limit.title ++ " characters or less"
  | longSubtitle => "Subtitle must be " ++ toString Limit.subtitle ++ " characters or less"
  | longButtonText => "Button text must be " ++ toString Limit.buttonText ++ " characters or less"
  | titleSize => "Title font size must be between 10 and 100"
  | subtitleSize => "Subtitle font size must be between 8 and 50"
  | buttonRadius => "Button radius must be between 0 and 50"
  | imageUrl => "Invalid URL"

end ThemeProblem

namespace Issue

/-- Where an issue is. -/
def path : Issue → String
  | tooManyFields => "fields"
  | field index problem => "fields[" ++ toString index ++ "]." ++ problem.place
  | theme problem => "theme." ++ problem.place

/-- What an issue is, in words. -/
def message : Issue → String
  | tooManyFields => "A form can have at most " ++ toString Limit.fields ++ " fields"
  | field _ problem => problem.message
  | theme problem => problem.message

/-- An issue on one line. -/
def summary (issue : Issue) : String :=
  issue.path ++ ": " ++ issue.message

/-- The wire form of an issue. -/
def toWire (issue : Issue) : Json :=
  .obj [("path", .str issue.path), ("message", .str issue.message)]

end Issue

/-! ### Finding -/

/-- One problem if a condition holds. -/
def problemIf {α : Type} (condition : Bool) (problem : α) : List α :=
  if condition then [problem] else []

/-- Keys that must not come twice, each with the position of the first field that has it. -/
abbrev Owners (α : Type) := List (α × Nat)

namespace Owners

variable {α : Type} [DecidableEq α]

/-- The owners after one more field, which owns its key if no field before it does. -/
def claim (owners : Owners α) (index : Nat) (key : Option α) : Owners α :=
  match key with
  | none => owners
  | some key => if (owners.lookup key).isSome then owners else (key, index) :: owners

/-- The problem of a key that has an owner already. -/
def problems (owners : Owners α) (problem : α → Nat → FieldProblem) (key : Option α) :
    List FieldProblem :=
  (key.bind fun key => (owners.lookup key).map (problem key)).toList

end Owners

/-- The ids and the roles of the fields looked at so far. -/
structure Taken where
  ids : Owners Int
  roles : Owners Role

namespace Taken

/-- Before any field is looked at. -/
def nothing : Taken :=
  ⟨[], []⟩

/-- What is taken after one more field. -/
def after (taken : Taken) (index : Nat) (field : Field) : Taken :=
  ⟨taken.ids.claim index field.id, taken.roles.claim index field.role⟩

end Taken

namespace Choice

/-- The problems of choices that are numbered from `index` on. -/
def problemsFrom (labelLimit : Nat) (index : Nat) : List Choice → List FieldProblem
  | [] => []
  | choice :: rest =>
    problemIf (choice.label.length > labelLimit) (.longChoiceLabel index labelLimit) ++
    problemIf (choice.value.length > Limit.choiceValue) (.longChoiceValue index) ++
    problemsFrom labelLimit (index + 1) rest

end Choice

namespace Field

/-- The problems of a field's texts. -/
def textProblems (field : Field) : List FieldProblem :=
  if field.type = .checkbox then
    problemIf (field.label.length > Limit.checkboxLabel) .longCheckboxLabel ++
    problemIf (field.label = "" && field.choices.isEmpty) .emptyCheckbox ++
    Choice.problemsFrom Limit.checkboxLabel 0 field.choices
  else
    problemIf (field.label = "") .noLabel ++
    problemIf (field.label.length > Limit.label) .longLabel ++
    problemIf (field.placeholder.length > Limit.placeholder) .longPlaceholder ++
    Choice.problemsFrom Limit.choiceLabel 0 field.choices

/-- The problems of a field after others. -/
def problems (taken : Taken) (field : Field) : List FieldProblem :=
  taken.ids.problems .duplicateId field.id ++ field.textProblems ++
    taken.roles.problems .duplicateRole field.role

/-- The issues of fields that are numbered from `index` on, after others. -/
def issuesFrom (taken : Taken) (index : Nat) : List Field → List Issue
  | [] => []
  | field :: rest =>
    (field.problems taken).map (.field index) ++
      issuesFrom (taken.after index field) (index + 1) rest

end Field

namespace Theme

/-- Whether a text is set and too long. -/
def isLong (text : Option String) (limit : Nat) : Bool :=
  text.any (·.length > limit)

/-- Whether a number is set and out of bounds. -/
def isOutside (number : Option Binary64) (low high : Int) : Bool :=
  number.any (!·.isBetween low high)

/-- The problem of the image's address. -/
def imageProblem (theme : Theme) : Except Url.Malformed (List ThemeProblem) :=
  let address := Text.trim (theme.splitImageUrl.getD "")
  if address = "" then .ok []
  else (Url.isWeb address).map fun web => problemIf (!web) .imageUrl

/-- The problems of a theme. -/
def problems (theme : Theme) : Except Url.Malformed (List ThemeProblem) :=
  theme.imageProblem.map fun imageProblem =>
    problemIf (isLong theme.title Limit.title) .longTitle ++
    problemIf (isLong theme.subtitle Limit.subtitle) .longSubtitle ++
    problemIf (isLong theme.buttonText Limit.buttonText) .longButtonText ++
    problemIf (isOutside theme.titleFontSize 10 100) .titleSize ++
    problemIf (isOutside theme.subtitleFontSize 8 50) .subtitleSize ++
    problemIf (isOutside theme.buttonRadius 0 50) .buttonRadius ++
    imageProblem

end Theme

namespace Form

/-- All issues of a form. -/
def issues (form : Form) : Except Url.Malformed (List Issue) :=
  form.theme.problems.map fun themeProblems =>
    problemIf (form.fields.length > Limit.fields) .tooManyFields ++
    Field.issuesFrom .nothing 0 form.fields ++
    themeProblems.map .theme

end Form

/-- Why a form is refused in the strict view. -/
inductive Refusal where
  | issues (all : List Issue)
  | malformed (cause : Url.Malformed)

/-- The message of a refusal. -/
def Refusal.message : Refusal → String
  | issues all => "; ".intercalate (all.map Issue.summary)
  | malformed cause => cause.message

/-- Accepts a form that has no issue. -/
def Form.ensureValid (form : Form) : Except Refusal Unit :=
  match form.issues with
  | .ok [] => .ok ()
  | .ok all => .error (.issues all)
  | .error cause => .error (.malformed cause)

end Enrolment
