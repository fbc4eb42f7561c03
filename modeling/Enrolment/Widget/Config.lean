/-
The configuration that a widget's script carries.

It holds everything that the script shows or decides by: texts, styles, the plans of
all fields in their rows, the countries and the rules.  `toWire` fixes the order in
which the parts are written.
-/
import Enrolment.Form.Group
import Enrolment.Form.Plan
import Enrolment.Form.Wording
import Enrolment.Place.Table
import Enrolment.Style.Sheet

namespace Enrolment.Widget

/-- The plans of a row. -/
structure PlanRow where
  paired : Bool
  plans : List Plan

namespace PlanRow

/-- The plans of the fields that stand together. -/
def ofGroup (needsCountry : Bool) (group : Group) : PlanRow where
  paired := group.isPaired
  plans := group.members.map fun placed => placed.field.plan placed.position needsCountry

/-- The wire form of a row. -/
def toWire (row : PlanRow) : Json :=
  .obj [("paired", .bool row.paired), ("fields", .arr (row.plans.map Plan.toWire))]

end PlanRow

/-- What a script is configured with. -/
structure Config where
  container : Json
  look : Look
  rows : List PlanRow
  table : Place.Table

namespace Config

/-- The page element that a widget is put into if no other is named. -/
def defaultContainer : Json :=
  .str "custom-signup-container"

/-- The file name of the script. -/
def scriptName : String :=
  "custom-signup.min.js"

/-- Where the script sends its answers. -/
def endpoint : String :=
  "/api/public/signup-requests"

/-- The path of the page on which accounts are created, as a pattern. -/
def gatePath : String :=
  "/login\\.php$"

/-- The query of the page on which accounts are created, as a pattern. -/
def gateQuery : String :=
  "(^|[?&])action=create_account(&|$)"

/-- The configuration for a form. -/
def ofForm (container : Json) (fields : List Field) (theme : Theme) (table : Place.Table) :
    Config where
  container := if container.isTruthy then container else defaultContainer
  look := theme.look
  rows := (Form.groups fields).map (PlanRow.ofGroup (Field.anyCountry fields))
  table

/-- The wire form of a configuration. -/
def toWire (config : Config) : Json :=
  let look := config.look
  .obj [
    ("containerId", config.container),
    ("scriptName", .str scriptName),
    ("endpoint", .str endpoint),
    ("gate", .obj [("path", .str gatePath), ("query", .str gateQuery)]),
    ("theme", .obj [
      ("title", .str look.title),
      ("subtitle", .str look.subtitle),
      ("layout", .str look.layout.name),
      ("splitImageUrl", .str look.splitImageUrl),
      ("buttonText", .str look.buttonText)]),
    ("baseCss", .str (Style.sheet look)),
    ("css", .obj (Style.frame look).toMembers),
    ("groups", .arr (config.rows.map PlanRow.toWire)),
    ("geography", config.table.toWire),
    ("rules", .obj (Rule.all.map fun rule => (rule.name, rule.toWire))),
    ("text", .obj Wording.toMembers)]

end Config

end Enrolment.Widget
