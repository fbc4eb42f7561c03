/-
What a payload is compiled from.

A payload is read twice.  Its form is made of the objects among its fields, and that form is
what is judged; what is compiled are the fields and the theme as they stand in the payload,
unless the core fields were put first.  Neither reading is strict: items that are no objects
are left out before the one and passed over by the other.  So the two agree, no form is
unusable, and no list is refused when it is compiled.
-/
import Enrolment.Proofs.Form.Overflow
import Enrolment.Proofs.Widget.Plans
import Enrolment.Service.Handler

namespace Enrolment

/-- Among objects alone there are no misfits, and the fields are those of the whole list. -/
theorem Form.readItems_filter_isObject (index : Nat) (items : List Json) :
    readItems index (items.filter Json.isObject) =
      (Field.ofItems items).map fun fields => (fields, []) := by
  induction items generalizing index with
  | nil => rfl
  | cons item rest ih =>
      cases item with
      | obj members =>
          rw [List.filter_cons_of_pos rfl, readItems, ih, Field.ofItems]
          cases Field.ofMembers members with
          | error cause => rfl
          | ok field => cases Field.ofItems rest <;> rfl
      | null | bool _ | int _ | num _ | str _ | arr _ =>
          rw [List.filter_cons_of_neg (by simp [Json.isObject]), ih, Field.ofItems]
          intro members h
          cases h

namespace Service

/-! ### The form of a payload -/

/-- The form of fields and a theme that were read from a payload. -/
def formOf (payload : Json) (fields : List Field) (theme : Theme) : Form where
  fields := if wantsCore payload then Form.withCore fields else fields
  theme
  container := Form.readContainer (member payload "containerId")

/-- **The form of a payload is made of its fields and its theme, read leniently.** -/
theorem form_eq (payload : Json) (key : String) :
    form payload key = do
      let items ← list payload key
      let fields ← (Field.ofItems items).mapError .overflow
      let theme ← (Theme.read (member payload "theme")).mapError .overflow
      return formOf payload fields theme := by
  have hread (items : List Json) : Form.ofMembers (formMembers payload items) = do
      let fields ← (Field.ofItems items).mapError .overflow
      let theme ← (Theme.read (member payload "theme")).mapError .overflow
      return ⟨fields, theme, Form.readContainer (member payload "containerId")⟩ := by
    have hfields : Form.readFields ((formMembers payload items).get? "fields") =
        (Field.ofItems items).map fun fields => (fields, []) :=
      Form.readItems_filter_isObject 0 items
    have htheme : ((formMembers payload items).get? "theme").getD .null = member payload "theme" :=
      rfl
    have hcontainer : ((formMembers payload items).either? "containerId" "container_id").bind
        Form.readContainer = Form.readContainer (member payload "containerId") := rfl
    unfold Form.ofMembers
    rw [hfields, htheme, hcontainer]
    cases Field.ofItems items with
    | error cause => rfl
    | ok fields => cases Theme.read (member payload "theme") <;> rfl
  unfold form
  cases list payload key with
  | error failure => rfl
  | ok items =>
      change (Form.ofMembers (formMembers payload items)).mapError Failure.ofForm >>= _ = _
      rw [hread]
      change _ = (Field.ofItems items).mapError Failure.overflow >>= _
      cases Field.ofItems items with
      | error cause => rfl
      | ok fields =>
          cases Theme.read (member payload "theme") with
          | error cause => rfl
          | ok theme =>
              unfold formOf
              cases h : wantsCore payload <;> rfl

theorem list_eq_ok {payload : Json} {key : String} {items : List Json}
    (h : list payload key = .ok items) : member payload key = .arr items := by
  unfold list at h
  cases hmember : member payload key with
  | arr found =>
      rw [hmember] at h
      obtain rfl := Except.ok.inj h
      rfl
  | null | bool _ | int _ | num _ | str _ | obj _ =>
      rw [hmember] at h
      cases h

/-- Where there is a form, its fields and its theme can be read from the payload. -/
theorem form_eq_ok {payload : Json} {key : String} {form : Form}
    (h : Service.form payload key = .ok form) :
    ∃ items fields theme, member payload key = .arr items ∧ Field.ofItems items = .ok fields ∧
      Theme.read (member payload "theme") = .ok theme ∧ form = formOf payload fields theme := by
  rw [form_eq] at h
  obtain ⟨items, hitems, h⟩ := ok_of_bind h
  obtain ⟨fields, hfields, h⟩ := ok_of_bind h
  obtain ⟨theme, htheme, h⟩ := ok_of_bind h
  obtain rfl := Except.ok.inj h
  exact ⟨items, fields, theme, list_eq_ok hitems, ok_of_mapError hfields, ok_of_mapError htheme, rfl⟩

theorem form_of_read {payload : Json} {key : String} {items : List Json} {fields : List Field}
    {theme : Theme} (hitems : member payload key = .arr items)
    (hfields : Field.ofItems items = .ok fields)
    (htheme : Theme.read (member payload "theme") = .ok theme) :
    form payload key = .ok (formOf payload fields theme) := by
  have hlist : list payload key = .ok items := by
    rw [list, hitems]
  rw [form_eq, hlist, htheme]
  change (Field.ofItems items).mapError Failure.overflow >>= _ = _
  rw [hfields]
  rfl

/-! ### The script of a form -/

/-- The script that a form compiles to. -/
def scriptFor (form : Form) (table : Place.Table) : Widget.Script :=
  Widget.compile ((form.container.map Json.str).getD .null) form.fields form.theme table

/-- **What is compiled for a payload is its form.** -/
theorem compiled_eq {payload : Json} {form : Form}
    (h : Service.form payload "formFields" = .ok form) (table : Place.Table) :
    compiled payload form table = .ok (scriptFor form table) := by
  obtain ⟨items, fields, theme, hitems, hfields, htheme, rfl⟩ := form_eq_ok h
  unfold compiled scriptFor formOf
  dsimp only
  cases hcore : wantsCore payload with
  | true =>
      rw [if_pos rfl, if_pos rfl, htheme]
      rfl
  | false =>
      rw [if_neg (by decide), if_neg (by decide), hitems, Widget.compileValues_eq hfields htheme]
      rfl

/-- What the compiler replies for a form that is let through. -/
def replyFor (form : Form) (table : Place.Table) : Outcome :=
  (form.issues.mapError .malformed).map (.script (scriptFor form table))

theorem scriptOf_eq {payload : Json} {form : Form}
    (h : Service.form payload "formFields" = .ok form) (table : Place.Table) :
    scriptOf payload form table = replyFor form table := by
  unfold scriptOf replyFor
  rw [compiled_eq h]
  cases form.issues <;> rfl

end Service

end Enrolment
