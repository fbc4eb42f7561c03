/-
What the strict view of a payload changes.

The compiler judges the form that it compiles, and the strict view is no more than a gate in
front of it: a form without an issue passes and gets the answer that it gets anyway, and one
with issues is rejected with all of them.  That there is one form to judge and to compile is
shown in `Forms`; here it is followed to what the caller is told.
-/
import Enrolment.Proofs.Json.Members
import Enrolment.Proofs.Place.Cache
import Enrolment.Proofs.Service.Forms
import Enrolment.Service.Run

namespace Enrolment.Service

/-- What the caller is told of an action that is carried out with a cache. -/
def Action.told (action : Action) (cache : Place.Cache) : Except Failure Json :=
  (action.perform cache).1.outcome.map Reply.toWire

/-! ### Payloads that differ in one member -/

/-- A payload with another value for a member. -/
def withMember (payload : Json) (key : String) (value : Json) : Json :=
  .obj (payload.members.put key value)

@[simp] theorem member_withMember_self (payload : Json) (key : String) (value : Json) :
    member (withMember payload key value) key = value := by
  unfold member withMember
  rw [Json.members, Members.get?_put_self]
  rfl

theorem member_withMember_of_ne (payload : Json) {key other : String} (h : other ≠ key)
    (value : Json) : member (withMember payload key value) other = member payload other := by
  unfold member withMember
  rw [Json.members, Members.get?_put_of_ne _ h]

/-- The strict view is not part of the form. -/
theorem form_withMember_strict (payload strict : Json) :
    form (withMember payload "strict" strict) "formFields" = form payload "formFields" := by
  have hother {key : String} (h : key ≠ "strict") :
      member (withMember payload "strict" strict) key = member payload key :=
    member_withMember_of_ne payload h strict
  unfold form list formMembers wantsCore
  rw [hother (by decide), hother (by decide), hother (by decide), hother (by decide)]

/-! ### The gate -/

theorem strictly_of_issues {payload : Json} {form : Form} {issues : List Issue}
    (h : form.issues = .ok issues) :
    strictly payload form =
      if (member payload "strict").isTruthy = true ∧ issues ≠ [] then
        .error (.rejected (.issues issues))
      else .ok () := by
  unfold strictly Form.ensureValid
  rw [h]
  cases (member payload "strict").isTruthy <;> cases issues <;> simp

/-- What is told of a form that was let through: its script, and its issues as warnings. -/
def scriptWire (form : Form) (issues : List Issue) (table : Place.Table) : Json :=
  scriptToWire (scriptFor form table).text issues

variable {payload : Json} {cache : Place.Cache} {form : Form} {issues : List Issue}

/-- The answer to a payload with a form: what the gate says, or else the reply for the form. -/
theorem told_generate (hform : Service.form payload "formFields" = .ok form) :
    (generate payload).told cache =
      (strictly payload form >>= fun _ => (replyFor form cache.get.1.table).map Reply.toWire) := by
  unfold generate
  rw [hform]
  change (Action.after (strictly payload form >>= fun _ => .ok form) _).told cache = _
  cases strictly payload form with
  | error failure => rfl
  | ok =>
      change (scriptOf payload form cache.get.1.table).map Reply.toWire = _
      rw [scriptOf_eq hform]
      rfl

theorem told_generate_of_issues (hform : Service.form payload "formFields" = .ok form)
    (hissues : form.issues = .ok issues) :
    (generate payload).told cache =
      if (member payload "strict").isTruthy = true ∧ issues ≠ [] then
        .error (.rejected (.issues issues))
      else .ok (scriptWire form issues cache.get.1.table) := by
  rw [told_generate hform, strictly_of_issues hissues, replyFor, hissues]
  split <;> rfl

/-- A payload that is compiled has a form whose issues can be told. -/
theorem exists_form_of_told {body : Json} (h : (generate payload).told cache = .ok body) :
    ∃ form issues, Service.form payload "formFields" = .ok form ∧ form.issues = .ok issues := by
  cases hform : Service.form payload "formFields" with
  | error failure =>
      unfold generate at h
      rw [hform] at h
      cases h
  | ok form =>
      rw [told_generate hform] at h
      obtain ⟨-, -, h⟩ := ok_of_bind h
      cases hissues : form.issues with
      | ok issues => exact ⟨form, issues, rfl, hissues⟩
      | error cause =>
          rw [replyFor, hissues] at h
          cases h

/-- **What is compiled for a payload is the form that is judged: the script is that of the form, and
the warnings are its issues.  In the strict view the answer is the same if there is no issue, and
else a rejection with all of them.** -/
theorem generate_gated_by_issues {body : Json} (h : (generate payload).told cache = .ok body) :
    ∃ form issues, Service.form payload "formFields" = .ok form ∧ form.issues = .ok issues ∧
      body.members.get? "content" = some (.str (Widget.compile
        ((form.container.map Json.str).getD .null) form.fields form.theme cache.get.1.table).text) ∧
      body.members.get? "warnings" =
        some (.arr (issues.map fun issue => .str (issue.path ++ ": " ++ issue.message))) ∧
      ∀ strict : Json,
        (strict.isTruthy = false ∨ issues = [] →
          (generate (withMember payload "strict" strict)).told cache = .ok body) ∧
        (strict.isTruthy = true → issues ≠ [] → ∃ cause : Rejected,
          (generate (withMember payload "strict" strict)).told cache = .error (.rejected cause) ∧
            cause.status = 422 ∧ cause.detail = .arr (issues.map Issue.toWire)) := by
  obtain ⟨form, issues, hform, hissues⟩ := exists_form_of_told h
  obtain rfl : scriptWire form issues cache.get.1.table = body := by
    rw [told_generate_of_issues hform hissues] at h
    split at h
    · cases h
    · exact Except.ok.inj h
  refine ⟨form, issues, hform, hissues, rfl, rfl, ?_⟩
  intro strict
  rw [told_generate_of_issues ((form_withMember_strict payload strict).trans hform) hissues,
    member_withMember_self]
  constructor
  · intro hpass
    rw [if_neg]
    rintro ⟨hstrict, hsome⟩
    rcases hpass with hlax | hnone
    · rw [hlax] at hstrict
      cases hstrict
    · exact hsome hnone
  · intro hstrict hsome
    rw [if_pos ⟨hstrict, hsome⟩]
    exact ⟨.issues issues, rfl, rfl, rfl⟩

/-- A payload with an item that is no object, a field without a label and a theme that is none. -/
def unlabelledPayload : Json :=
  .obj [("formFields", .arr [.null, .obj [("type", .str "select")]]), ("theme", .int 5),
    ("containerId", .str " signup ")]

/-- It is compiled with a warning, and rejected in the strict view. -/
theorem unlabelled_gated :
    (∃ body, (generate unlabelledPayload).told (.keeping Place.builtIn []) = .ok body ∧
      body.members.get? "warnings" =
        some (.arr [.str "fields[0].label: Label must have at least 1 character"])) ∧
    ∃ cause : Rejected,
      (generate (withMember unlabelledPayload "strict" (.bool true))).told
          (.keeping Place.builtIn []) = .error (.rejected cause) ∧
        cause.status = 422 ∧
        cause.detail = .arr [.obj [("path", .str "fields[0].label"),
          ("message", .str "Label must have at least 1 character")]] := by
  have hform : form unlabelledPayload "formFields" =
      .ok ⟨[⟨none, .select, "", "", false, .plain, none, false, [], none⟩], .plain,
        some "signup"⟩ := rfl
  have htold : (generate unlabelledPayload).told (.keeping Place.builtIn []) =
      .ok (scriptWire _ [.field 0 .noLabel] Place.builtIn) := told_generate_of_issues hform rfl
  obtain ⟨form, issues, hsame, hissues, -, hwarnings, hstrict⟩ := generate_gated_by_issues htold
  obtain rfl := Except.ok.inj (hform.symm.trans hsame)
  obtain rfl : [Issue.field 0 .noLabel] = issues := Except.ok.inj hissues
  exact ⟨⟨_, htold, hwarnings⟩, (hstrict (.bool true)).2 rfl (List.cons_ne_nil _ _)⟩

end Enrolment.Service
