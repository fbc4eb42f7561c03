/-
What the service answers.

A call succeeds with a reply, or fails: it is rejected with a status, or reading its
payload or a URL in it stops.  `Reply.toWire` is the body of a reply.
-/
import Enrolment.Customer.Draft
import Enrolment.Form.Check
import Enrolment.Form.Issue
import Enrolment.Submission.Row
import Enrolment.Widget.Script

namespace Enrolment.Service

/-- Why a call is rejected. -/
inductive Rejected where
  | noList (key : String)
  | noRequest
  | noAnswers
  | unusable
  | issues (all : List Issue)
  | noEmail
  | notEnabled

namespace Rejected

/-- The status of a rejected call. -/
def status : Rejected → Nat
  | noList _ | noRequest | noAnswers => 400
  | unusable | issues _ | noEmail => 422
  | notEnabled => 404

/-- What the caller is told. -/
def detail : Rejected → Json
  | noList key => .str ("Invalid " ++ key)
  | noRequest => .str "Invalid request"
  | noAnswers => .str "Invalid data"
  | unusable => .str "Invalid form schema"
  | issues all => .arr (all.map Issue.toWire)
  | noEmail => .str Customer.noEmailMessage
  | notEnabled => .str "Not found"

end Rejected

/-- Why a call fails. -/
inductive Failure where
  | rejected (cause : Rejected)
  | overflow (cause : Overflow)
  | misfits (places : List Misfit)
  | malformed (cause : Url.Malformed)

namespace Failure

/-- A value that could not be read, as a failure. -/
def ofRead : ReadError → Failure
  | .overflow cause => overflow cause
  | .misfits places => misfits places

/-- A form that could not be read, as a failure. -/
def ofForm : ReadError → Failure
  | .overflow cause => overflow cause
  | .misfits _ => rejected .unusable

/-- Fields that could not be compiled, as a failure. -/
def ofCompile : Widget.CompileError → Failure
  | .notList _ => rejected (.noList "formFields")
  | .overflow cause => overflow cause

end Failure

/-- What a call succeeds with. -/
inductive Reply where
  | healthy
  | script (script : Widget.Script) (warnings : List Issue)
  | preview (html : String)
  | review (issues : List Issue) (fields : Option (List Field))
  | countries (table : Place.Table)
  | rows (rows : List Row)
  | checked (rejections : Rejections)
  | draft (draft : Customer.Draft)
  | refreshed (countries : Nat)

/-! ### Bodies -/

/-- The body of an address. -/
def addressToWire (address : Customer.Address) : Json :=
  .obj (Json.present [
    ("first_name", .str address.firstName),
    ("last_name", .str address.lastName),
    ("address1", .str address.address1),
    ("city", .str address.city),
    ("country_code", .str address.countryCode),
    ("address2", .ofText? address.address2),
    ("state_or_province", .ofText? address.stateOrProvince),
    ("postal_code", .ofText? address.postalCode),
    ("phone", .ofText? address.phone),
    ("company", .ofText? address.company),
    ("address_type", .str Customer.Address.kind)])

/-- The body of a draft, in which the password is not shown but that there is one. -/
def draftToWire (draft : Customer.Draft) : Json :=
  .obj (Json.present [
    ("email", .str draft.email),
    ("first_name", .str draft.firstName),
    ("last_name", .str draft.lastName),
    ("phone", .ofText? draft.phone),
    ("company", .ofText? draft.company),
    ("addresses", .arr (draft.addresses.map addressToWire)),
    ("hasPassword", .bool draft.password.isSome)])

/-- The body of a script and its warnings, with a text in the place of the script. -/
def scriptToWire (content : String) (warnings : List Issue) : Json :=
  .obj [("ok", .bool true), ("path", .str ("/" ++ Widget.Config.scriptName)),
    ("content", .str content), ("warnings", .arr (warnings.map (.str ·.summary)))]

/-- The body of a reply. -/
def Reply.toWire : Reply → Json
  | .healthy => .obj [("ok", .bool true), ("service", .str "signup-service")]
  | .script content warnings => scriptToWire content.text warnings
  | .preview html => .obj [("html", .str html)]
  | .review issues fields =>
    .obj ([("ok", .bool issues.isEmpty), ("issues", .arr (issues.map Issue.toWire))] ++
      match fields with
      | some fields => [("fields", .arr (fields.map Field.toWire))]
      | none => [])
  | .countries table => .obj [("countries", table.toWire)]
  | .rows all => .obj [("rows", .arr (all.map Row.toWire))]
  | .checked rejections =>
    .obj [("ok", .bool rejections.isEmpty),
      ("errors", .obj (rejections.map fun (key, rejection) => (key, .str rejection.message)))]
  | .draft account => draftToWire account
  | .refreshed count => .obj [("ok", .bool true), ("countries", .int count)]

end Enrolment.Service
