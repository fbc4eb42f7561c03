/-
Where and how a value does not have the shape asked for.
-/
import Enrolment.Json.Basic

namespace Enrolment

/-- One step into a value: to a member or to an item. -/
inductive Step where
  | member (key : String)
  | item (index : Nat)

/-- The shapes that are asked for. -/
inductive Shape where
  | object
  | list
  | text

/-- A place in a value, and the shape that was expected there. -/
structure Misfit where
  place : List Step
  expected : Shape

end Enrolment
