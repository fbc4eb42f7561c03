/-
The calls of the service.

A handler decides from the payload alone whether it needs the table of countries,
and only then is the table asked for.  So it has one of three shapes: it answers at
once, it goes on with the table, or it has the table fetched anew.  Everything that
a payload can be rejected for before the table matters is decided in the first
shape.
-/
import Enrolment.Form.Core
import Enrolment.Place.Cache
import Enrolment.Preview.Page
import Enrolment.Service.Reply

namespace Enrolment.Service

/-- A reply or a failure. -/
abbrev Outcome := Except Failure Reply

/-- What a handler does. -/
inductive Action where
  | answer (outcome : Outcome)
  | withTable (next : Place.Table → Outcome)
  | withFreshTable (next : Place.Table → Outcome)

/-- Goes on with a value that was read from the payload, or fails at once. -/
def Action.after {α : Type} (reading : Except Failure α) (next : α → Action) : Action :=
  match reading with
  | .ok value => next value
  | .error failure => .answer (.error failure)

/-- A member of a payload; null if it is missing, or the payload is no object. -/
def member (payload : Json) (key : String) : Json :=
  (payload.members.get? key).getD .null

/-- The list under a key of a payload. -/
def list (payload : Json) (key : String) : Except Failure (List Json) :=
  match member payload key with
  | .arr items => .ok items
  | _ => .error (.rejected (.noList key))

/-! ### Forms -/

/-- Whether a payload asks for the core fields to be put first. -/
def wantsCore (payload : Json) : Bool :=
  (member payload "ensureCoreFields").isTruthy

/-- What the form of a payload is read from: the objects among its fields, its theme and its
container. -/
def formMembers (payload : Json) (items : List Json) : Members :=
  [("fields", .arr (items.filter Json.isObject)), ("theme", member payload "theme"),
    ("containerId", member payload "containerId")]

/-- The form of a payload, whose fields stand under a key. -/
def form (payload : Json) (key : String) : Except Failure Form := do
  let items ← list payload key
  let form ← (Form.ofMembers (formMembers payload items)).mapError .ofForm
  return if wantsCore payload then { form with fields := Form.withCore form.fields } else form

/-- Refuses a form with issues, if the payload asks for the strict view. -/
def strictly (payload : Json) (form : Form) : Except Failure Unit :=
  if (member payload "strict").isTruthy then
    match form.ensureValid with
    | .ok () => .ok ()
    | .error (.issues all) => .error (.rejected (.issues all))
    | .error (.malformed cause) => .error (.malformed cause)
  else .ok ()

/-- The script for a payload with a form.  The fields of the form are compiled if the core fields
were put first, else those of the payload as they stand there; the theme is always that of the
payload. -/
def compiled (payload : Json) (form : Form) (table : Place.Table) :
    Except Failure Widget.Script :=
  let container := (form.container.map Json.str).getD .null
  let theme := member payload "theme"
  if wantsCore payload then do
    let theme ← (Theme.read theme).mapError .overflow
    return Widget.compile container form.fields theme table
  else
    (Widget.compileValues container (member payload "formFields") theme table).mapError .ofCompile

/-- The script for a payload, with the issues of its form as warnings. -/
def scriptOf (payload : Json) (form : Form) (table : Place.Table) : Outcome := do
  let script ← compiled payload form table
  let warnings ← form.issues.mapError .malformed
  return .script script warnings

/-- Compiles the form of a payload. -/
def generate (payload : Json) : Action :=
  .after (do
      let form ← form payload "formFields"
      strictly payload form
      return form)
    fun form => .withTable (scriptOf payload form)

/-- The width of the screen that a payload names. -/
def viewMode (payload : Json) : String :=
  if Text.lower (member payload "viewMode").textIfTruthy = "mobile" then "mobile" else "desktop"

/-- Previews the form of a payload. -/
def preview (payload : Json) : Action :=
  .after (list payload "formFields") fun items => .withTable fun table => do
    let fields ← (Field.ofItems items).mapError .overflow
    let theme ← (Theme.read (member payload "theme")).mapError .overflow
    let view : Preview.View :=
      ⟨viewMode payload, (member payload "selectedCountry").textIfTruthy⟩
    return .preview (Preview.html fields theme table view)

/-- Reports the issues of the form of a payload, and its fields if the core fields were put
first. -/
def validateSchema (payload : Json) : Action :=
  .answer do
    let form ← form payload "fields"
    let issues ← form.issues.mapError .malformed
    return .review issues (if wantsCore payload then some form.fields else none)

/-! ### Requests -/

/-- The fields under the usual key of a payload. -/
def fields (payload : Json) : Except Failure (List Field) := do
  let items ← list payload "formFields"
  (Field.ofItems items).mapError .overflow

/-- The signup request of a payload. -/
def request (payload : Json) : Except Failure Request :=
  match member payload "request" with
  | .obj members => (Request.ofMembers members).mapError Failure.ofRead
  | _ => .error (.rejected .noRequest)

/-- Displays the request of a payload in the rows of its form. -/
def reconcile (payload : Json) : Action :=
  .after (do return (← fields payload, ← request payload)) fun (fields, request) =>
    .withTable fun table =>
      .ok (.rows (request.rows fields table (member payload "includeSensitive").isTruthy))

/-- Checks the answers of a payload. -/
def validateSubmission (payload : Json) : Action :=
  .answer do
    let fields ← fields payload
    match member payload "data" with
    | .obj answers =>
      let rejections ← (Form.checkAnswers fields answers).mapError .malformed
      return .checked rejections
    | _ => throw (.rejected .noAnswers)

/-- Drafts a customer account for the request of a payload. -/
def customerDraft (payload : Json) : Action :=
  .after (request payload) fun request => .withTable fun table =>
    match Customer.draft? request (some table) with
    | some draft => .ok (.draft draft)
    | none => .error (.rejected .noEmail)

/-! ### Countries -/

/-- Lists the countries. -/
def geography : Action :=
  .withTable fun table => .ok (.countries table)

/-- Fetches the countries anew, where routes for developers are enabled. -/
def geographyRefresh (devRoutes : Option String) : Action :=
  if Text.lower (devRoutes.getD "false") = "true" then
    .withFreshTable fun table => .ok (.refreshed table.countries.length)
  else .answer (.error (.rejected .notEnabled))

end Enrolment.Service
