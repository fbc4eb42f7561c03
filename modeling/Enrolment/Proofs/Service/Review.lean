/-
What a review gives back.

A review with the core fields put first tells the fields in their wire form.  Sent to the
compiler in the place of those that were reviewed, they make up the form that was reviewed:
each of them comes back from the wire, and the core fields stand first already.  So whoever
keeps the fields of a review may forget what they were made from, and need not ask for the
core fields again.
-/
import Enrolment.Proofs.Form.Core
import Enrolment.Proofs.Service.Strict

namespace Enrolment.Service

/-- Whether two payloads have the same theme, the same container and the same view of issues. -/
structure Alike (payload other : Json) : Prop where
  theme : member payload "theme" = member other "theme"
  container : member payload "containerId" = member other "containerId"
  strict : member payload "strict" = member other "strict"

variable {payload review first body : Json} {cache : Place.Cache}

theorem strictly_of_alike (h : Alike payload review) (form : Form) :
    strictly payload form = strictly review form := by
  unfold strictly
  rw [h.strict]

/-- The form of a payload, with the theme and the container of another one. -/
theorem form_of_alike (h : Alike payload review) {items : List Json} {fields : List Field}
    {theme : Theme} (hitems : member payload "formFields" = .arr items)
    (hfields : Field.ofItems items = .ok fields)
    (htheme : Theme.read (member review "theme") = .ok theme) :
    form payload "formFields" =
      .ok ⟨if wantsCore payload then Form.withCore fields else fields, theme,
        Form.readContainer (member review "containerId")⟩ := by
  have hsame : Theme.read (member payload "theme") = .ok theme := by
    rw [h.theme, htheme]
  rw [form_of_read hitems hfields hsame, formOf, h.container]

/-! ### The review -/

theorem told_validateSchema {form : Form} (h : Service.form payload "fields" = .ok form) :
    (validateSchema payload).told cache =
      (form.issues.mapError .malformed).map fun issues =>
        (Reply.review issues (if wantsCore payload then some form.fields else none)).toWire := by
  unfold validateSchema
  rw [h]
  dsimp only [Bind.bind, Except.bind]
  cases form.issues <;> rfl

/-- A review that wants the core fields has a form whose issues can be told, and tells its
fields. -/
theorem exists_form_of_review (h : (validateSchema review).told cache = .ok body)
    (hcore : wantsCore review = true) :
    ∃ form issues, Service.form review "fields" = .ok form ∧ form.issues = .ok issues ∧
      body.members.get? "fields" = some (.arr (form.fields.map Field.toWire)) := by
  cases hform : Service.form review "fields" with
  | error failure =>
      unfold validateSchema at h
      rw [hform] at h
      cases h
  | ok form =>
      rw [told_validateSchema hform, hcore] at h
      cases hissues : form.issues with
      | error cause =>
          rw [hissues] at h
          cases h
      | ok issues =>
          rw [hissues] at h
          obtain rfl := Except.ok.inj h
          exact ⟨form, issues, rfl, hissues, rfl⟩

/-! ### Compiling what was reviewed -/

/-- The fields of a review make up its form again, with the core fields put first once more or
not. -/
theorem form_of_reviewed {items : List Json} {fields : List Field} {theme : Theme}
    (h : Alike payload review) (hfields : Field.ofItems items = .ok fields)
    (htheme : Theme.read (member review "theme") = .ok theme)
    (hitems : member payload "formFields" = .arr ((Form.withCore fields).map Field.toWire)) :
    form payload "formFields" = .ok ⟨Form.withCore fields, theme,
      Form.readContainer (member review "containerId")⟩ := by
  have hcanonical := Form.isCanonical_withCore (Field.isCanonical_of_ofItems hfields)
  rw [form_of_alike h hitems (Field.ofItems_map_toWire hcanonical) htheme,
    Form.withCore_withCore, ite_self]

/-- **The fields that a review tells compile as those that were reviewed do with the core fields put
first, whether the core fields are asked for again or not.** -/
theorem generate_reviewed (hreview : (validateSchema review).told cache = .ok body)
    (hcore : wantsCore review = true) (hfirst : Alike first review)
    (hsame : member first "formFields" = member review "fields") (hasks : wantsCore first = true) :
    ∃ wires, body.members.get? "fields" = some (.arr wires) ∧ ∀ cache : Place.Cache,
      ((member review "strict").isTruthy = false → ∃ content warnings,
        (generate first).told cache = .ok (scriptToWire content warnings)) ∧
      ∀ again, Alike again review → member again "formFields" = .arr wires →
        (generate again).told cache = (generate first).told cache := by
  obtain ⟨form, issues, hform, hissues, htold⟩ := exists_form_of_review hreview hcore
  obtain ⟨items, fields, theme, hitems, hfields, htheme, rfl⟩ := form_eq_ok hform
  have hreviewed : formOf review fields theme = ⟨Form.withCore fields, theme,
      Form.readContainer (member review "containerId")⟩ := by
    rw [formOf, if_pos hcore]
  rw [hreviewed] at hissues htold
  have hformFirst := form_of_alike hfirst (hsame.trans hitems) hfields htheme
  rw [if_pos hasks] at hformFirst
  refine ⟨_, htold, ?_⟩
  intro cache
  constructor
  · intro hlax
    rw [told_generate_of_issues hformFirst hissues, hfirst.strict,
      hlax, if_neg (by simp)]
    exact ⟨_, _, rfl⟩
  · intro again hagain hwires
    rw [told_generate hformFirst, told_generate (form_of_reviewed hagain hfields htheme hwires),
      strictly_of_alike hagain, strictly_of_alike hfirst]

/-- A payload that wants the core fields, with a field that plays the part of the email address and
an item that is no object. -/
def mailPayload (key : String) : Json :=
  .obj [(key, .arr [.obj [("label", .str "Mail"), ("role", .str "email"), ("padding", .str "")],
    .int 3]), ("ensureCoreFields", .bool true)]

/-- Its fields compile to one script, as they are and as a review tells them. -/
theorem mail_reviewed :
    ∃ body wires content warnings,
      (validateSchema (mailPayload "fields")).told (.keeping Place.builtIn []) = .ok body ∧
      body.members.get? "fields" = some (.arr wires) ∧
      (generate (mailPayload "formFields")).told (.keeping Place.builtIn []) =
        .ok (scriptToWire content warnings) ∧
      (generate (.obj [("formFields", .arr wires)])).told (.keeping Place.builtIn []) =
        .ok (scriptToWire content warnings) := by
  have hform : form (mailPayload "fields") "fields" = .ok (formOf (mailPayload "fields")
      [⟨none, .text, "Mail", "", false, .plain, some .email, false, [], none⟩] .plain) :=
    form_of_read rfl rfl rfl
  have hreview : (validateSchema (mailPayload "fields")).told (.keeping Place.builtIn []) = .ok _ :=
    told_validateSchema hform
  have hfirst : Alike (mailPayload "formFields") (mailPayload "fields") := ⟨rfl, rfl, rfl⟩
  obtain ⟨wires, hwires, hcompiled⟩ := generate_reviewed hreview rfl hfirst rfl rfl
  obtain ⟨hlax, hagain⟩ := hcompiled (.keeping Place.builtIn [])
  obtain ⟨content, warnings, htold⟩ := hlax rfl
  have hsent := hagain (.obj [("formFields", .arr wires)]) ⟨rfl, rfl, rfl⟩ rfl
  exact ⟨_, wires, content, warnings, hreview, hwires, htold, hsent.trans htold⟩

end Enrolment.Service
