/-
Running calls one after another.

The calls share the kept table of countries and nothing else.
-/
import Enrolment.Service.Handler

namespace Enrolment.Service

/-- The routes of the service. -/
inductive Route where
  | health | generate | preview | validateSchema | geography | reconcile | validateSubmission
  | customerDraft | geographyRefresh
deriving DecidableEq

/-- A call: its route, what is sent with it, and what the environment says about routes for
developers. -/
structure Call where
  route : Route
  payload : Json
  devRoutes : Option String

/-- What the handler of a call does. -/
def Call.action (call : Call) : Action :=
  match call.route with
  | .health => .answer (.ok .healthy)
  | .generate => generate call.payload
  | .preview => preview call.payload
  | .validateSchema => validateSchema call.payload
  | .geography => geography
  | .reconcile => reconcile call.payload
  | .validateSubmission => validateSubmission call.payload
  | .customerDraft => customerDraft call.payload
  | .geographyRefresh => geographyRefresh call.devRoutes

/-- The outcome of a call, and how many requests for country data it made. -/
structure Answer where
  outcome : Outcome
  requests : Nat

/-- Carries out an action with the kept table. -/
def Action.perform (cache : Place.Cache) : Action → Answer × Place.Cache
  | .answer outcome => (⟨outcome, 0⟩, cache)
  | .withTable next =>
    let (given, cache) := cache.get
    (⟨next given.table, given.requests⟩, cache)
  | .withFreshTable next =>
    let (given, cache) := cache.reset.get
    (⟨next given.table, given.requests⟩, cache)

/-- Answers calls in turn. -/
def run (cache : Place.Cache) : List Call → List Answer
  | [] => []
  | call :: rest =>
    let (answer, cache) := call.action.perform cache
    answer :: run cache rest

end Enrolment.Service
