/-
Which fields of a form share a key.

An answer is submitted under the label of its field, or under the field's number if it has no
label.  The strict view of a form asks for labels but not for different ones, so two fields of a
form without an issue may still share a key, and then the answer to one of them takes the place
of the other's.  All ways to share one are told by the labels (`SharesKey`): two fields have the
same label, or one has none and the other is labelled with its number.  In a form without an issue
only a choice of checkboxes has no label.
-/
import Mathlib.Data.List.Nodup
import Enrolment.Proofs.Form.Refusals
import Enrolment.Proofs.Json.Members
import Enrolment.Proofs.Submission.Match

namespace Enrolment

/-- The key under which a field at its position submits its answer. -/
def Placed.key (placed : Placed) : String :=
  placed.field.key placed.position

namespace Form

/-- The fields whose answers are submitted under keys: all but those for files. -/
def answered (fields : List Field) : List Placed :=
  (placeFrom 0 fields).filter (·.field.control ≠ .file)

/-- The keys under which the answers of a form are submitted. -/
def answerKeys (fields : List Field) : List String :=
  (answered fields).map Placed.key

/-- What it means that a choice of checkboxes without a label has a number by which another field
is labelled. -/
structure IsNumberedLike (boxes other : Placed) : Prop where
  type : boxes.field.type = .checkbox
  choices : boxes.field.choices ≠ []
  no_label : boxes.field.label = ""
  number : other.field.label = "Field " ++ toString (boxes.position + 1)

/-- What it means for two fields to share a key. -/
inductive SharesKey (p q : Placed) : Prop
  | label (some_label : p.field.label ≠ "") (same : p.field.label = q.field.label)
  | number (like : IsNumberedLike p q)
  | numbered (like : IsNumberedLike q p)

/-! ### Keys -/

/-- A field without a label submits its answer under its number. -/
theorem key_of_no_label {p : Placed} (h : p.field.label = "") :
    p.key = "Field " ++ toString (p.position + 1) := by
  rw [Placed.key, Field.key, Field.labelOr, if_pos h, Json.toString_eq_ofInt]
  rfl

theorem key_of_label {p : Placed} (h : p.field.label ≠ "") : p.key = p.field.label :=
  Match.key_of_label h p.position

variable {fields : List Field} {p q : Placed}

theorem mem_answered :
    p ∈ answered fields ↔ fields[p.position]? = some p.field ∧ p.field.control ≠ .file := by
  rw [answered, List.mem_filter, mem_placed, decide_eq_true_eq]

/-- No two fields without a label share a key. -/
theorem eq_of_no_label (hp : p ∈ answered fields) (hq : q ∈ answered fields)
    (hpempty : p.field.label = "") (hqempty : q.field.label = "") (h : p.key = q.key) : p = q := by
  rw [key_of_no_label hpempty, key_of_no_label hqempty, ← String.toList_inj, String.toList_append,
    String.toList_append, List.append_cancel_left_eq, String.toList_inj] at h
  have hposition := Json.eq_of_toString_eq h
  exact eq_of_position_eq (List.mem_of_mem_filter hp) (List.mem_of_mem_filter hq) (by omega)

theorem IsNumberedLike.label_ne_empty (h : IsNumberedLike p q) : q.field.label ≠ "" := by
  rw [h.number, ne_eq, ← String.toList_eq_nil_iff, String.toList_append]
  simp

theorem IsNumberedLike.key_eq (h : IsNumberedLike p q) : p.key = q.key := by
  rw [key_of_no_label h.no_label, key_of_label h.label_ne_empty, h.number]

/-- Two fields share a key just as their labels tell, if only choices of checkboxes have none. -/
theorem key_eq_iff
    (hboxes : ∀ p ∈ answered fields, p.field.label = "" →
      p.field.type = .checkbox ∧ p.field.choices ≠ [])
    (hp : p ∈ answered fields) (hq : q ∈ answered fields) (hne : p ≠ q) :
    p.key = q.key ↔ SharesKey p q := by
  constructor
  · intro h
    by_cases hpempty : p.field.label = ""
    · by_cases hqempty : q.field.label = ""
      · exact absurd (eq_of_no_label hp hq hpempty hqempty h) hne
      · obtain ⟨htype, hchoices⟩ := hboxes p hp hpempty
        rw [key_of_no_label hpempty, key_of_label hqempty] at h
        exact .number ⟨htype, hchoices, hpempty, h.symm⟩
    · by_cases hqempty : q.field.label = ""
      · obtain ⟨htype, hchoices⟩ := hboxes q hq hqempty
        rw [key_of_label hpempty, key_of_no_label hqempty] at h
        exact .numbered ⟨htype, hchoices, hqempty, h⟩
      · rw [key_of_label hpempty, key_of_label hqempty] at h
        exact .label hpempty h
  · intro h
    cases h with
    | label hsome hsame => rw [key_of_label hsome, key_of_label (hsame ▸ hsome), hsame]
    | number hlike => exact hlike.key_eq
    | numbered hlike => exact hlike.key_eq.symm

/-! ### Distinct keys -/

theorem nodup_answered (fields : List Field) : (answered fields).Nodup := by
  have hplaced : (placeFrom 0 fields).Nodup := by
    refine (pairwise_placeFrom 0 fields).imp ?_
    rintro p q hlt rfl
    exact Nat.lt_irrefl _ hlt
  exact hplaced.filter _

theorem answerKeys_nodup_iff_inj : (answerKeys fields).Nodup ↔
    ∀ p ∈ answered fields, ∀ q ∈ answered fields, p.key = q.key → p = q :=
  List.nodup_map_iff_inj_on (nodup_answered fields)

/-- What it means that an object has every answer under the key of its field. -/
def HoldsAll (values : Members) (fields : List Field) (answers : Nat → Json) : Prop :=
  ∀ p ∈ answered fields, values.get? p.key = some (answers p.position)

/-- Keys are distinct just if whatever is answered can be held by one object. -/
theorem answerKeys_nodup_iff_holdsAll : (answerKeys fields).Nodup ↔
    ∀ answers, ∃ values, HoldsAll values fields answers := by
  constructor
  · intro h answers
    exact ⟨(answered fields).map fun p => (p.key, answers p.position),
      fun p hp => Members.get?_map h hp⟩
  · intro h
    obtain ⟨values, hvalues⟩ := h fun position => .int position
    rw [answerKeys_nodup_iff_inj]
    intro p hp q hq hkey
    have hanswer := hvalues q hq
    rw [← hkey, hvalues p hp, Option.some_inj, Json.int.injEq, Int.natCast_inj] at hanswer
    exact eq_of_position_eq (List.mem_of_mem_filter hp) (List.mem_of_mem_filter hq) hanswer

/-- In a form without an issue only choices of checkboxes have no label. -/
theorem checkbox_of_no_label {form : Form} (h : form.issues = .ok []) (hp : p ∈ answered form.fields)
    (hempty : p.field.label = "") : p.field.type = .checkbox ∧ p.field.choices ≠ [] := by
  have hlimits := (issues_eq_nil_iff.1 h).fields p.field (List.mem_of_getElem? (mem_answered.1 hp).1)
  by_cases htype : p.field.type = .checkbox
  · exact ⟨htype, (hlimits.checkbox htype).2.resolve_left fun hsome => hsome hempty⟩
  · have hlength := (hlimits.ordinary htype).1
    rw [hempty] at hlength
    cases hlength

/-- **In a form without an issue the answers are submitted under distinct keys just if no two
fields with an answer have the same label, and none is labelled with the number of a choice of
checkboxes without a label.  Just then no answer takes the place of another: whatever the answers
are, one object has them all.** -/
theorem answerKeys_nodup_iff {form : Form} (h : form.issues = .ok []) :
    ((answerKeys form.fields).Nodup ↔
      ∀ p ∈ answered form.fields, ∀ q ∈ answered form.fields, p ≠ q → ¬SharesKey p q) ∧
    ((answerKeys form.fields).Nodup ↔
      ∀ answers, ∃ values, HoldsAll values form.fields answers) := by
  refine ⟨?_, answerKeys_nodup_iff_holdsAll⟩
  have hboxes := fun p (hp : p ∈ answered form.fields) => checkbox_of_no_label h hp
  rw [answerKeys_nodup_iff_inj]
  constructor
  · intro hinj p hp q hq hne hshares
    exact hne (hinj p hp q hq ((key_eq_iff hboxes hp hq hne).2 hshares))
  · intro hnone p hp q hq hkey
    by_contra hne
    exact hnone p hp q hq hne ((key_eq_iff hboxes hp hq hne).1 hkey)

/-- A form with a choice of checkboxes between a name and a file of the same label. -/
def boxesBetween : Form where
  fields := [⟨some 1, .text, "Name", "", true, .plain, none, false, [], none⟩,
    ⟨some 2, .checkbox, "", "", false, .plain, none, false, [⟨"News", "news"⟩], none⟩,
    ⟨some 3, .file, "Name", "", false, .plain, none, false, [], none⟩]
  theme := .plain
  container := none

/-- Its answers are kept apart. -/
theorem boxesBetween_keys_nodup :
    boxesBetween.issues = .ok [] ∧ answerKeys boxesBetween.fields = ["Name", "Field 2"] ∧
      (∀ p ∈ answered boxesBetween.fields, ∀ q ∈ answered boxesBetween.fields, p ≠ q →
        ¬SharesKey p q) ∧
      ∀ answers, ∃ values, HoldsAll values boxesBetween.fields answers := by
  have hissues : boxesBetween.issues = .ok [] := rfl
  have hkeys : (answerKeys boxesBetween.fields).Nodup := by decide
  obtain ⟨hapart, hheld⟩ := answerKeys_nodup_iff hissues
  exact ⟨hissues, by decide, hapart.1 hkeys, hheld.1 hkeys⟩

/-- A form with two fields of one label. -/
def namesakes : Form where
  fields := [⟨some 1, .text, "Name", "", true, .plain, none, false, [], none⟩,
    ⟨some 2, .text, "Name", "", true, .plain, none, false, [], none⟩]
  theme := .plain
  container := none

/-- It has no issue, and yet one answer takes the place of the other. -/
theorem namesakes_share_key :
    namesakes.issues = .ok [] ∧ ¬(answerKeys namesakes.fields).Nodup := by
  exact ⟨rfl, by decide⟩

end Form

end Enrolment
