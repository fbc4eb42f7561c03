/-
What the caller of a draft learns of a password.

Two calls are compared that differ in the text of one answer only, under a key for a password.
Both read the same request but for that answer, ask for the same table of countries, and have
the same body but for the email address.  So they are told apart just if the email address is
taken from the answers by its shape alone, and the search comes to the password.
-/
import Enrolment.Proofs.Customer.Password
import Enrolment.Proofs.Submission.Readable
import Enrolment.Service.Run

namespace Enrolment

open Customer (Draft draftWith emailAhead? emailBehind? emailWith? address?)

theorem or_eq_or_iff {α : Type} {first second other : Option α} :
    first.or second = first.or other ↔ first.isSome = true ∨ second = other := by
  cases first <;> simp

namespace Service

/-! ### Calls that differ in one answer -/

/-- The members of the request in a payload. -/
def requestMembers (payload : Json) : Members :=
  (member payload "request").members

/-- The answers of the request in a payload. -/
def answers (payload : Json) : Members :=
  (((requestMembers payload).get? "data").getD .null).members

/-- A payload with a text for one of the answers. -/
def withAnswer (payload : Json) (key text : String) : Json :=
  .obj (payload.members.put "request"
    (.obj ((requestMembers payload).put "data" (.obj ((answers payload).put key (.str text))))))

theorem request_withAnswer (payload : Json) (key text : String) :
    request (withAnswer payload key text) =
      ((Request.ofMembers (requestMembers payload)).map fun request =>
        { request with data := request.data.put key (.str text) }).mapError Failure.ofRead := by
  have hmember : member (withAnswer payload key text) "request" =
      .obj ((requestMembers payload).put "data"
        (.obj ((answers payload).put key (.str text)))) := by
    unfold member withAnswer
    rw [Json.members, Members.get?_put_self]
    rfl
  unfold request
  rw [hmember]
  dsimp only
  rw [Request.ofMembers_put_data]
  cases hread : Request.ofMembers (requestMembers payload) with
  | error cause => rfl
  | ok request =>
      have hdata : request.data = answers payload := Request.data_of_ofMembers hread
      rw [Except.map, Except.map, hdata]

/-! ### What is seen of a draft -/

/-- What the caller of a draft is answered, with how many requests for country data, and what is
kept of them. -/
def seen (cache : Place.Cache) (payload : Json) : Except Failure Json × Nat × Place.Cache :=
  let (answer, cache) := (customerDraft payload).perform cache
  (answer.outcome.map Reply.toWire, answer.requests, cache)

/-- What is answered if an email address is found or not, there being a password; all else is found
among the answers. -/
def bodyWith (table : Place.Table) (data : Members) : Option String → Except Failure Json
  | some email => .ok (draftToWire (draftWith (some table) email (some "") data))
  | none => .error (.rejected .noEmail)

theorem email_eq_of_draftToWire_eq {draft other : Draft}
    (h : draftToWire draft = draftToWire other) : draft.email = other.email := by
  unfold draftToWire Json.present at h
  have hmembers := Json.obj.inj h
  rw [List.filter_cons_of_pos rfl, List.filter_cons_of_pos rfl] at hmembers
  obtain ⟨hfirst, -⟩ := List.cons.inj hmembers
  exact Json.str.inj (Prod.mk.inj hfirst).2

/-- The email address can be told from the answer. -/
theorem bodyWith_inj {table : Place.Table} {data : Members} {email other : Option String} :
    bodyWith table data email = bodyWith table data other ↔ email = other := by
  constructor
  · intro h
    cases email with
    | none =>
        cases other with
        | none => rfl
        | some other => cases h
    | some email =>
        cases other with
        | none => cases h
        | some other => exact congrArg some (email_eq_of_draftToWire_eq (Except.ok.inj h))
  · rintro rfl
    rfl

variable {key : String} (hkey : IsPasswordKey key) {payload : Json} {text : String}

theorem seen_of_error (cache : Place.Cache) {cause : ReadError}
    (h : Request.ofMembers (requestMembers payload) = .error cause) :
    seen cache (withAnswer payload key text) = (.error (.ofRead cause), 0, cache) := by
  unfold seen customerDraft
  rw [request_withAnswer, h]
  rfl

include hkey in
/-- A call whose request can be read shows of the password no more than what there is of it in the
email address. -/
theorem seen_of_ok (cache : Place.Cache) {request : Request}
    (h : Request.ofMembers (requestMembers payload) = .ok request)
    (htyped : Clue.isPlausible (.str text) = true) :
    seen cache (withAnswer payload key text) =
      (bodyWith cache.get.1.table (request.data.before key ++ request.data.after key)
        (emailWith? request.email request.data key text), cache.get.1.requests, cache.get.2) := by
  obtain ⟨password, hdraft⟩ := hkey.draft?_put request htyped (some cache.get.1.table)
  unfold seen customerDraft
  rw [request_withAnswer, h]
  dsimp only [Except.map, Except.mapError, Action.after, Action.perform]
  rw [hdraft]
  cases emailWith? request.email request.data key text <;> rfl

include hkey in
/-- **Two texts for a password are told apart just if the request can be read, no email address is
found before the search comes to the password, and the first addresses in or behind the two texts
differ; and nothing but the answer to the caller depends on them.** -/
theorem seen_withAnswer_password {other : String} (cache : Place.Cache) (payload : Json)
    (htext : Clue.isPlausible (.str text) = true) (hother : Clue.isPlausible (.str other) = true) :
    ((seen cache (withAnswer payload key text)).1 = (seen cache (withAnswer payload key other)).1 ↔
      ∀ request, Request.ofMembers (requestMembers payload) = .ok request →
        (emailAhead? request.email request.data key).isSome = true ∨
          (address? text).or (emailBehind? request.data key) =
            (address? other).or (emailBehind? request.data key)) ∧
      (seen cache (withAnswer payload key text)).2 =
        (seen cache (withAnswer payload key other)).2 := by
  cases hread : Request.ofMembers (requestMembers payload) with
  | error cause =>
      rw [seen_of_error cache hread, seen_of_error cache hread]
      refine ⟨iff_of_true rfl ?_, rfl⟩
      rintro request ⟨⟩
  | ok request =>
      rw [seen_of_ok hkey cache hread htext, seen_of_ok hkey cache hread hother]
      refine ⟨?_, rfl⟩
      dsimp only
      rw [bodyWith_inj]
      unfold emailWith?
      rw [or_eq_or_iff]
      constructor
      · rintro h _ ⟨⟩
        exact h
      · intro h
        exact h request rfl

/-- A cache that keeps an empty table. -/
def stocked : Place.Cache :=
  ⟨some (0, ⟨[]⟩), 0, []⟩

/-- Beside an address of its own, a password does not show even if it looks like one. -/
theorem password_beside_email_not_seen :
    (seen stocked (withAnswer (.obj [("request", .obj [("email", .str "ada@example.com")])])
        " Password" "grace@example.com")).1 =
      (seen stocked (withAnswer (.obj [("request", .obj [("email", .str "ada@example.com")])])
        " Password" "abc12345")).1 := by
  refine (seen_withAnswer_password ?_ stocked _ ?_ ?_).1.2 ?_
  · decide
  · decide
  · decide
  · intro request h
    obtain rfl := Except.ok.inj h
    left
    decide

/-- Without one, it is shown as the email address. -/
theorem password_seen_as_email :
    seen stocked (withAnswer (.obj [("request", .obj [])]) "password" "ada@example.com") =
        (.ok (.obj [("email", .str "ada@example.com"), ("first_name", .str "Customer"),
          ("last_name", .str "User"), ("addresses", .arr []), ("hasPassword", .bool true)]), 0,
          stocked) ∧
      seen stocked (withAnswer (.obj [("request", .obj [])]) "password" "abc12345") =
        (.error (.rejected .noEmail), 0, stocked) := by
  have hkey : IsPasswordKey "password" := by decide
  have hread : Request.ofMembers (requestMembers (.obj [("request", .obj [])])) =
      .ok ⟨none, [], none, []⟩ := rfl
  refine ⟨?_, ?_⟩
  · rw [seen_of_ok hkey stocked hread (by decide)]
    rfl
  · rw [seen_of_ok hkey stocked hread (by decide)]
    rfl

end Service

end Enrolment
