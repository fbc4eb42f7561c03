/-
The plans of a configuration are those of the fields, each once.

They stand in the order of the rows.  Every plan has the position of its field as its
index, so putting them in the order of their indices gives back the order of the form.
-/
import Enrolment.Proofs.Form.Rows
import Enrolment.Widget.Script

namespace Enrolment

namespace Widget

/-- The plans of all rows. -/
def Config.plans (config : Config) : List Plan :=
  config.rows.flatMap PlanRow.plans

/-- The plans of fields, in the order of the form. -/
def plansInOrder (fields : List Field) : List Plan :=
  fields.mapIdx fun index field => field.plan index (Field.anyCountry fields)

theorem plansInOrder_eq_map_placed (fields : List Field) :
    plansInOrder fields = (Form.placeFrom 0 fields).map fun placed =>
      placed.field.plan placed.position (Field.anyCountry fields) := by
  rw [plansInOrder, Form.map_placed]

/-- **Every field of a form has one plan in its configuration.** -/
theorem Config.plans_perm (container : Json) (fields : List Field) (theme : Theme)
    (table : Place.Table) :
    (ofForm container fields theme table).plans.Perm (plansInOrder fields) := by
  have hplans : (ofForm container fields theme table).plans =
      ((Form.groups fields).flatMap Group.members).map fun placed =>
        placed.field.plan placed.position (Field.anyCountry fields) := by
    rw [plans, ofForm, List.flatMap_map, List.map_flatMap]
    rfl
  rw [hplans, plansInOrder_eq_map_placed]
  exact (Group.flatMap_members_perm _).map _

/-- What the plans of a configuration are. -/
theorem Config.mem_plans_iff {container : Json} {fields : List Field} {theme : Theme}
    {table : Place.Table} {plan : Plan} :
    plan ∈ (ofForm container fields theme table).plans ↔
      ∃ (position : Nat) (field : Field), fields[position]? = some field ∧
        plan = field.plan position (Field.anyCountry fields) := by
  rw [(plans_perm container fields theme table).mem_iff, plansInOrder, Form.mem_mapIdx_iff]

/-- In the order of the form indices ascend. -/
theorem pairwise_plansInOrder (fields : List Field) :
    (plansInOrder fields).Pairwise fun plan later => plan.index < later.index := by
  rw [plansInOrder_eq_map_placed, List.pairwise_map]
  refine (Form.pairwise_placeFrom 0 fields).imp ?_
  intro p q h
  exact Int.ofNat_lt.2 h

/-- What compiles: a list whose fields can be read, with a theme that can be. -/
theorem compileValues_eq {items : List Json} {fields : List Field} {theme : Json} {look : Theme}
    (hfields : Field.ofItems items = .ok fields) (hlook : Theme.read theme = .ok look)
    (container : Json) (table : Place.Table) :
    compileValues container (.arr items) theme table =
      .ok (.ofConfig (.ofForm container fields look table)) := by
  simp only [compileValues, hfields, hlook]
  rfl

end Widget

end Enrolment
