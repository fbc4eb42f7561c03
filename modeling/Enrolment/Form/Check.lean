/-
Checking submitted answers.

An empty answer is rejected exactly when the field is required, and no other check
is made on it.  Switches and lists need only be there.  Everything else has to pass
the rule of the field's type and the rule that its label suggests; if both reject
it, the latter is reported.
-/
import Enrolment.Form.Control
import Enrolment.Form.Wording

namespace Enrolment

/-- Why an answer is rejected. -/
inductive Rejection where
  | missing
  | byRule (rule : Rule)
deriving DecidableEq

/-- The message of a rejection. -/
def Rejection.message : Rejection → String
  | missing => Wording.required
  | byRule rule => rule.message

namespace Answer

/-- Whether an answer is empty: null, `false`, a blank text or an empty list. -/
def isEmpty : Json → Bool
  | .null => true
  | .bool value => !value
  | .str s => Text.isBlankText s
  | .arr items => items.isEmpty
  | _ => false

/-- Whether an answer is one that rules do not apply to. -/
def isExempt : Json → Bool
  | .bool _ | .arr _ => true
  | _ => false

/-- Rejects an answer by a rule, if there is one and it does not accept the answer. -/
def rejectedBy (rule : Option Rule) (answer : Json) : Except Url.Malformed (Option Rejection) :=
  match rule with
  | none => .ok none
  | some rule => (rule.passes answer).map fun passed => if passed then none else some (.byRule rule)

end Answer

namespace Field

/-- Checks the answer for a field. -/
def check (field : Field) (answer : Json) : Except Url.Malformed (Option Rejection) :=
  if Answer.isEmpty answer then .ok (if field.required then some .missing else none)
  else if Answer.isExempt answer then .ok none
  else do
    let byType ← Answer.rejectedBy field.typeRule? answer
    let byLabel ← Answer.rejectedBy field.labelRule? answer
    return byLabel.or byType

end Field

/-- Rejections by key, in the order in which the keys were first rejected. -/
abbrev Rejections := List (String × Rejection)

/-- Records a rejection: in place of an earlier one for the same key, else at the end. -/
def Rejections.put (rejections : Rejections) (key : String) (rejection : Rejection) :
    Rejections :=
  match rejections with
  | [] => [(key, rejection)]
  | (k, r) :: rest =>
    if k = key then (k, rejection) :: rest else (k, r) :: put rest key rejection

namespace Form

/-- Checks the answers of fields that are numbered from `index` on, and records the rejections. -/
def checkFrom (answers : Members) (index : Nat) (rejections : Rejections) :
    List Field → Except Url.Malformed Rejections
  | [] => .ok rejections
  | field :: rest =>
    if field.control = .file then checkFrom answers (index + 1) rejections rest
    else do
      let key := field.key index
      match ← field.check ((answers.get? key).getD .null) with
      | none => checkFrom answers (index + 1) rejections rest
      | some rejection => checkFrom answers (index + 1) (rejections.put key rejection) rest

/-- Checks submitted answers, which are keyed as the widget keys them; files are not checked. -/
def checkAnswers (fields : List Field) (answers : Members) : Except Url.Malformed Rejections :=
  checkFrom answers 0 [] fields

end Form

end Enrolment
