/-
Which `<` stand in a style sheet.

A sheet is written from the texts of its rules, with marks between them that are no
`<`.  Of all those texts only the primary colour is not part of the program, and it
stands in the sheet just as it was given, so a sheet has the `<` of its colour and no
other.
-/
import Enrolment.Proofs.Markup.Tags
import Enrolment.Style.Sheet

namespace Enrolment

theorem angles_join (pieces : List String) :
    angles (String.join pieces) = (pieces.map angles).sum := by
  induction pieces with
  | nil => rfl
  | cons piece rest ih =>
      rw [String.join_cons, angles_append, ih, List.map_cons, List.sum_cons]

theorem angles_intercalate {separator : String} (hsep : angles separator = 0)
    (pieces : List String) :
    angles (separator.intercalate pieces) = (pieces.map angles).sum := by
  induction pieces with
  | nil => rfl
  | cons piece rest ih =>
      cases rest with
      | nil => rw [String.intercalate_singleton, List.map_singleton, List.sum_singleton]
      | cons next rest =>
          rw [String.intercalate_cons_cons, angles_append, angles_append, hsep, Nat.add_zero, ih]
          rfl

namespace Style

/-! ### The texts that a sheet is written from -/

/-- The texts of some declarations. -/
def declarationTexts (declarations : List Declaration) : List String :=
  declarations.flatMap fun declaration => [declaration.1, declaration.2]

/-- The texts of a rule set. -/
def Ruleset.texts (ruleset : Ruleset) : List String :=
  ruleset.selector :: declarationTexts ruleset.declarations

/-- The texts of a part of a sheet. -/
def Block.texts : Block → List String
  | plain ruleset => ruleset.texts
  | under head rulesets => head :: rulesets.flatMap Ruleset.texts

/-- How often `<` stands in some texts. -/
def anglesIn (texts : List String) : Nat :=
  (texts.map angles).sum

theorem anglesIn_cons (text : String) (rest : List String) :
    anglesIn (text :: rest) = angles text + anglesIn rest := by
  rw [anglesIn, List.map_cons, List.sum_cons, anglesIn]

/-- What is made piece by piece has the `<` of the texts of its pieces. -/
theorem sum_angles_eq {α : Type} {write : α → String} {texts : α → List String}
    (h : ∀ a, angles (write a) = anglesIn (texts a)) (items : List α) :
    ((items.map write).map angles).sum = anglesIn (items.flatMap texts) := by
  induction items with
  | nil => rfl
  | cons a rest ih =>
      rw [List.map_cons, List.map_cons, List.sum_cons, ih, h, anglesIn, anglesIn, anglesIn,
        List.flatMap_cons, List.map_append, List.sum_append]

/-! ### Nothing else in a sheet is a `<` -/

theorem angles_inline (declarations : List Declaration) :
    angles (inline declarations) = anglesIn (declarationTexts declarations) := by
  have hone : ∀ declaration : Declaration,
      angles (declaration.1 ++ ":" ++ declaration.2) = anglesIn [declaration.1, declaration.2] := by
    intro declaration
    rw [angles_append, angles_append, show angles ":" = 0 from rfl, anglesIn_cons, anglesIn_cons,
      Nat.add_zero]
    rfl
  unfold inline
  rw [angles_intercalate rfl]
  exact sum_angles_eq hone declarations

theorem angles_ruleset (ruleset : Ruleset) : angles ruleset.render = anglesIn ruleset.texts := by
  unfold Ruleset.render Ruleset.texts
  rw [anglesIn_cons, angles_append, angles_append, angles_append, angles_inline,
    show angles "\x7b" = 0 from rfl, show angles "\x7d" = 0 from rfl, Nat.add_zero, Nat.add_zero]

theorem angles_block (block : Block) : angles block.render = anglesIn block.texts := by
  cases block with
  | plain ruleset => exact angles_ruleset ruleset
  | under head rulesets =>
      unfold Block.render Block.texts
      rw [anglesIn_cons, angles_append, angles_append, angles_append, angles_join,
        sum_angles_eq angles_ruleset, show angles "\x7b" = 0 from rfl,
        show angles "\x7d" = 0 from rfl, Nat.add_zero, Nat.add_zero]

/-- The texts of a sheet behind its primary colour. -/
def fixedTexts : List String :=
  (blocks "").tail.flatMap Block.texts

theorem anglesIn_fixedTexts : anglesIn fixedTexts = 0 := by
  decide +kernel

/-- **A sheet has the `<` of its primary colour and no other.** -/
theorem angles_sheet (look : Look) : angles (sheet look) = angles look.primaryColor := by
  have htexts : (blocks look.primaryColor).flatMap Block.texts =
      ":root" :: "--p" :: look.primaryColor :: fixedTexts := rfl
  unfold sheet
  rw [angles_join, sum_angles_eq angles_block, htexts, anglesIn_cons, anglesIn_cons, anglesIn_cons,
    anglesIn_fixedTexts, show angles ":root" = 0 from rfl, show angles "--p" = 0 from rfl]
  omega

end Style

end Enrolment
