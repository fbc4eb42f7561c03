/-
Roles that come twice when the core fields are put first.

A slot takes the first field with its role or its label, whichever that is.  So a field that has
no more than the label may be taken in front of the one that has the role, and is given the role
(`CoreSlot.Supplants`).  The other one keeps it as well: it is among the fields that are kept,
unless another slot takes it for its label.  That is the only way in which a role comes twice in a
form where it did not before.  If the fields with the roles do not have each other's labels, the
form itself tells whether it happens.
-/
import Mathlib.Data.List.Nodup
import Enrolment.Proofs.Form.Completion
import Enrolment.Proofs.Form.Issues

namespace Enrolment

namespace CoreSlot

/-- Whether a field has the label of a core field. -/
def HasLabel (slot : CoreSlot) (field : Field) : Prop :=
  Text.lower (Text.trim field.label) = Text.lower slot.label

/-- What it means that a field without the role of a slot is taken for its label, although another
field has the role. -/
structure Supplants (slot : CoreSlot) (taken holder : Placed) : Prop where
  label : slot.HasLabel taken.field
  no_role : taken.field.role ≠ some slot.role
  holds_role : holder.field.role = some slot.role
  before : taken.position < holder.position

variable {slot other : CoreSlot} {field : Field}

theorem fits_iff : slot.fits field = true ↔ field.role = some slot.role ∨ slot.HasLabel field := by
  unfold fits HasLabel
  rw [Bool.or_eq_true, decide_eq_true_eq, decide_eq_true_eq]

/-- No two slots have one role. -/
theorem eq_of_role_eq (hslot : slot ∈ all) (hother : other ∈ all) (h : slot.role = other.role) :
    slot = other := by
  have hroles : (all.map (·.role)).Nodup := by decide
  exact List.inj_on_of_nodup_map hroles hslot hother h

/-- No field has the labels of two slots. -/
theorem eq_of_hasLabel (hslot : slot ∈ all) (hother : other ∈ all) (h : slot.HasLabel field)
    (hfield : other.HasLabel field) : slot = other := by
  have hlabels : (all.map fun slot => Text.lower slot.label).Nodup := by decide
  exact List.inj_on_of_nodup_map hlabels hslot hother (h.symm.trans hfield)

end CoreSlot

/-! ### Roles of a form -/

namespace Field

theorem mem_duplicateRole_iff {fields : List Field} {index first : Nat} {role : Role} :
    .field index (.duplicateRole role first) ∈ issuesFrom .nothing 0 fields ↔
      Repeats (fields.map (·.role)) index role first := by
  constructor
  · intro h
    obtain ⟨_, _, hrepeats, hissue, -⟩ := (reported_at_key_iff .role).1 ⟨h, rfl⟩
    obtain ⟨-, hproblem⟩ := Issue.field.inj hissue
    obtain ⟨rfl, rfl⟩ := FieldProblem.duplicateRole.inj hproblem
    exact hrepeats
  · intro hrepeats
    exact ((reported_at_key_iff .role).2 ⟨role, first, hrepeats, rfl, rfl⟩).1

/-- A role is reported just if one comes twice. -/
theorem exists_duplicateRole_iff {fields : List Field} :
    (∃ index role first,
        .field index (.duplicateRole role first) ∈ issuesFrom .nothing 0 fields) ↔
      ¬(fields.filterMap (·.role)).Nodup := by
  rw [filterMap_eq_reduceOption, nodup_iff_forall_not_repeats]
  simp only [mem_duplicateRole_iff, not_forall, not_not]

end Field

namespace Form

/-- Whether no field with the role of a core field has the label of another one. -/
def HasClearLabels (fields : List Field) : Prop :=
  ∀ field ∈ fields, ∀ slot ∈ CoreSlot.all, ∀ other ∈ CoreSlot.all,
    field.role = some slot.role → other.HasLabel field → other = slot

variable {fields : List Field} {core : List Filled} {kept : List Placed} {filled : Filled}
  {p q holder taken : Placed} {role : Role}

theorem role_getElem? (hp : p ∈ placeFrom 0 fields) (hrole : p.field.role = some role) :
    (fields.map (·.role))[p.position]? = some (some role) := by
  rw [List.getElem?_map, mem_placed.1 hp, ← hrole]
  rfl

/-- If no role comes twice, a role tells the field that has it. -/
theorem eq_of_role_eq (h : (fields.filterMap (·.role)).Nodup) (hp : p ∈ placeFrom 0 fields)
    (hq : q ∈ placeFrom 0 fields) (hprole : p.field.role = some role)
    (hqrole : q.field.role = some role) : p = q := by
  rw [Field.filterMap_eq_reduceOption, nodup_iff_forall_not_repeats] at h
  have hnot {index k : Nat} (hk : (fields.map (·.role))[k]? = some (some role))
      (hindex : (fields.map (·.role))[index]? = some (some role)) : ¬k < index := by
    intro hlt
    obtain ⟨first, hrepeats⟩ := exists_repeats_iff.2 ⟨hindex, k, hlt, hk⟩
    exact h _ _ _ hrepeats
  have hpq := hnot (role_getElem? hp hprole) (role_getElem? hq hqrole)
  have hqp := hnot (role_getElem? hq hqrole) (role_getElem? hp hprole)
  exact eq_of_position_eq hp hq (by omega)

end Form

/-! ### Roles of a form with the core fields -/

namespace CoreSlot.Fills

open Form

variable {fields : List Field} {start : Int} {core : List Filled} {kept : List Placed}
  {filled : Filled} {p taken holder : Placed} {slot : CoreSlot}
  (h : Fills start (placeFrom 0 fields) all core kept)
include h

theorem slot_mem_all (hfilled : filled ∈ core) : filled.slot ∈ all := by
  rw [← h.map_slot]
  exact List.mem_map_of_mem hfilled

theorem eq_of_slot_eq {other : Filled} (hfilled : filled ∈ core) (hother : other ∈ core)
    (heq : filled.slot = other.slot) : filled = other := by
  have hroles : (core.map (·.slot.role)).Nodup := by
    have hall : (all.map (·.role)).Nodup := by decide
    rwa [← h.map_slot, List.map_map] at hall
  exact List.inj_on_of_nodup_map hroles hfilled hother (congrArg role heq)

theorem claimed_mem_placed (hfilled : filled ∈ core) (hclaimed : filled.claimed = some p) :
    p ∈ placeFrom 0 fields :=
  h.perm.subset (List.mem_append_left kept (List.mem_filterMap.2 ⟨filled, hfilled, hclaimed⟩))

theorem claimed_or_kept (hp : p ∈ placeFrom 0 fields) :
    (∃ filled ∈ core, filled.claimed = some p) ∨ p ∈ kept := by
  have hmem := h.perm.symm.subset hp
  rw [List.mem_append, List.mem_filterMap] at hmem
  exact hmem

theorem nodup_roles_core : ((core.map (·.field)).filterMap (·.role)).Nodup := by
  have hroles : (core.map (·.field)).filterMap (·.role) =
      [.firstName, .lastName, .email, .password] := by
    have hall := congrArg (List.filterMap id) h.roles
    rwa [List.filterMap_map] at hall ⊢
  rw [hroles]
  decide

theorem nodup_roles_kept (hroles : (fields.filterMap (·.role)).Nodup) :
    ((kept.map (·.field)).filterMap (·.role)).Nodup := by
  have hsublist := (h.sublist.map (·.field)).filterMap (·.role)
  rw [map_field_placeFrom] at hsublist
  exact hroles.sublist hsublist

/-- A role comes twice just if a field that is kept has the role of a slot. -/
theorem not_nodup_roles_iff (hroles : (fields.filterMap (·.role)).Nodup) :
    ¬((core.map (·.field) ++ kept.map (·.field)).filterMap (·.role)).Nodup ↔
      ∃ filled ∈ core, ∃ holder ∈ kept, holder.field.role = some filled.slot.role := by
  rw [List.filterMap_append, List.nodup_append, and_iff_right h.nodup_roles_core,
    and_iff_right (h.nodup_roles_kept hroles)]
  push Not
  simp only [List.mem_filterMap, List.mem_map, exists_exists_and_eq_and]
  constructor
  · rintro ⟨role, ⟨filled, hfilled, hrole⟩, _, ⟨holder, hholder, hsame⟩, rfl⟩
    rw [(h.isHeldBy hfilled).role] at hrole
    exact ⟨filled, hfilled, holder, hholder, hsame.trans hrole.symm⟩
  · rintro ⟨filled, hfilled, holder, hholder, hrole⟩
    exact ⟨_, ⟨filled, hfilled, (h.isHeldBy hfilled).role⟩, _, ⟨holder, hholder, hrole⟩, rfl⟩

/-- A field that is kept although it has the role of a slot has been supplanted. -/
theorem exists_supplants (hroles : (fields.filterMap (·.role)).Nodup) (hfilled : filled ∈ core)
    (hholder : holder ∈ kept) (hrole : holder.field.role = some filled.slot.role) :
    ∃ taken, filled.claimed = some taken ∧ filled.slot.Supplants taken holder := by
  have hfits : filled.slot.fits holder.field = true := fits_iff.2 (.inl hrole)
  obtain ⟨taken, hclaimed, hbefore⟩ :=
    h.claimed_first (pairwise_placeFrom 0 fields) hfilled hholder hfits
  have hno : taken.field.role ≠ some filled.slot.role := by
    intro htaken
    have hsame := Form.eq_of_role_eq hroles (h.claimed_mem_placed hfilled hclaimed)
      (h.sublist.subset hholder) htaken hrole
    rw [hsame] at hbefore
    exact Nat.lt_irrefl _ hbefore
  have hlabel := (fits_iff.1 (h.field_of_claimed hfilled hclaimed).1).resolve_left hno
  exact ⟨taken, hclaimed, hlabel, hno, hrole, hbefore⟩

/-- So it comes twice just if one of them has been supplanted. -/
theorem not_nodup_roles_iff_supplants (hroles : (fields.filterMap (·.role)).Nodup) :
    ¬((core.map (·.field) ++ kept.map (·.field)).filterMap (·.role)).Nodup ↔
      ∃ filled ∈ core, ∃ taken, filled.claimed = some taken ∧
        ∃ holder ∈ kept, filled.slot.Supplants taken holder := by
  rw [h.not_nodup_roles_iff hroles]
  constructor
  · rintro ⟨filled, hfilled, holder, hholder, hrole⟩
    obtain ⟨taken, hclaimed, hsupplants⟩ := h.exists_supplants hroles hfilled hholder hrole
    exact ⟨filled, hfilled, taken, hclaimed, holder, hholder, hsupplants⟩
  · rintro ⟨filled, hfilled, taken, -, holder, hholder, hsupplants⟩
    exact ⟨filled, hfilled, holder, hholder, hsupplants.holds_role⟩

/-! ### Clear labels -/

variable (hclear : HasClearLabels fields) (hslot : slot ∈ all) (hfilled : filled ∈ core)
include hclear hslot hfilled

theorem slot_eq_of_role (hclaimed : filled.claimed = some p)
    (hrole : p.field.role = some slot.role) : filled.slot = slot := by
  have hmem := List.mem_of_getElem? (mem_placed.1 (h.claimed_mem_placed hfilled hclaimed))
  rcases fits_iff.1 (h.field_of_claimed hfilled hclaimed).1 with hother | hlabel
  · exact CoreSlot.eq_of_role_eq (h.slot_mem_all hfilled) hslot
      (Option.some.inj (hother.symm.trans hrole))
  · exact hclear p.field hmem slot hslot _ (h.slot_mem_all hfilled) hrole hlabel

theorem slot_eq_of_label (hclaimed : filled.claimed = some p) (hlabel : slot.HasLabel p.field) :
    filled.slot = slot := by
  have hmem := List.mem_of_getElem? (mem_placed.1 (h.claimed_mem_placed hfilled hclaimed))
  have hall := h.slot_mem_all hfilled
  rcases fits_iff.1 (h.field_of_claimed hfilled hclaimed).1 with hrole | hother
  · exact (hclear p.field hmem _ hall slot hslot hrole hlabel).symm
  · exact eq_of_hasLabel hall hslot hother hlabel

omit hfilled

/-- With clear labels a field that is supplanted is kept. -/
theorem kept_of_supplants (htaken : taken ∈ placeFrom 0 fields)
    (hholder : holder ∈ placeFrom 0 fields) (hsupplants : slot.Supplants taken holder) :
    holder ∈ kept := by
  have hbefore := hsupplants.before
  refine (h.claimed_or_kept hholder).resolve_left ?_
  rintro ⟨filled, hfilled, hclaimed⟩
  have heq := h.slot_eq_of_role hclear hslot hfilled hclaimed hsupplants.holds_role
  -- the slot would have come to the field with its label first
  rcases h.claimed_or_kept htaken with ⟨other, hother, hotherClaimed⟩ | hkept
  · have hsame := h.slot_eq_of_label hclear hslot hother hotherClaimed hsupplants.label
    obtain rfl := h.eq_of_slot_eq hother hfilled (hsame.trans heq.symm)
    obtain rfl : taken = holder := Option.some.inj (hotherClaimed.symm.trans hclaimed)
    exact Nat.lt_irrefl _ hbefore
  · have hfits : filled.slot.fits taken.field = true := fits_iff.2 (.inr (heq ▸ hsupplants.label))
    obtain ⟨first, hfirst, hlt⟩ :=
      h.claimed_first (pairwise_placeFrom 0 fields) hfilled hkept hfits
    obtain rfl : first = holder := Option.some.inj (hfirst.symm.trans hclaimed)
    omega

omit hslot

/-- With clear labels the form tells whether a role comes twice. -/
theorem not_nodup_roles_iff_of_hasClearLabels (hroles : (fields.filterMap (·.role)).Nodup) :
    ¬((core.map (·.field) ++ kept.map (·.field)).filterMap (·.role)).Nodup ↔
      ∃ slot ∈ all, ∃ taken ∈ placeFrom 0 fields, ∃ holder ∈ placeFrom 0 fields,
        slot.Supplants taken holder := by
  constructor
  · rw [h.not_nodup_roles_iff_supplants hroles]
    rintro ⟨filled, hfilled, taken, hclaimed, holder, hholder, hsupplants⟩
    exact ⟨_, h.slot_mem_all hfilled, taken, h.claimed_mem_placed hfilled hclaimed, holder,
      h.sublist.subset hholder, hsupplants⟩
  · rintro ⟨slot, hslot, taken, htaken, holder, hholder, hsupplants⟩
    rw [h.not_nodup_roles_iff hroles]
    have hkept := h.kept_of_supplants hclear hslot htaken hholder hsupplants
    rw [← h.map_slot] at hslot
    obtain ⟨filled, hfilled, rfl⟩ := List.mem_map.1 hslot
    exact ⟨filled, hfilled, holder, hkept, hsupplants.holds_role⟩

end CoreSlot.Fills

namespace Form

/-- **If no role comes twice in a form, one comes twice with the core fields, and is reported, just
if a slot takes a field for its label in front of the one that has its role, and no other slot
takes that one.  If no field with the role of a core field has the label of another one, it does
just if a field with no more than the label stands in front of the one that has the role.** -/
theorem withCore_repeats_role_iff {fields : List Field}
    (hroles : (fields.filterMap (·.role)).Nodup) :
    ((∃ index role first,
        .field index (.duplicateRole role first) ∈ Field.issuesFrom .nothing 0 (withCore fields)) ↔
      ¬((withCore fields).filterMap (·.role)).Nodup) ∧
    (∃ core kept, CoreSlot.Fills (nextId fields) (placeFrom 0 fields) CoreSlot.all core kept ∧
      withCore fields = core.map (·.field) ++ kept.map (·.field) ∧
      (¬((withCore fields).filterMap (·.role)).Nodup ↔
        ∃ filled ∈ core, ∃ taken, filled.claimed = some taken ∧
          ∃ holder ∈ kept, filled.slot.Supplants taken holder)) ∧
    (HasClearLabels fields →
      (¬((withCore fields).filterMap (·.role)).Nodup ↔
        ∃ slot ∈ CoreSlot.all, ∃ taken ∈ placeFrom 0 fields, ∃ holder ∈ placeFrom 0 fields,
          slot.Supplants taken holder)) := by
  obtain ⟨core, kept, hfills, hfill⟩ :=
    CoreSlot.exists_fills (nextId fields) (placeFrom 0 fields) CoreSlot.all
  have hcompleted : withCore fields = core.map (·.field) ++ kept.map (·.field) := by
    rw [map_field_placeFrom] at hfill
    rw [withCore_eq, hfill]
  refine ⟨Field.exists_duplicateRole_iff, ⟨core, kept, hfills, hcompleted, ?_⟩, ?_⟩
  · rw [hcompleted]
    exact hfills.not_nodup_roles_iff_supplants hroles
  · intro hclear
    rw [hcompleted]
    exact hfills.not_nodup_roles_iff_of_hasClearLabels hclear hroles

/-- A field for the email address that has the role, before one that has the label. -/
def mailFields : List Field :=
  [⟨some 2, .email, "Work email", "", true, .plain, some .email, false, [], none⟩,
    ⟨some 1, .text, "Email", "", false, .plain, none, false, [], none⟩]

/-- None supplants the other, and no role comes twice. -/
theorem mailFields_keep_roles :
    ((withCore mailFields).filterMap (·.role)).Nodup ∧
      ∀ slot ∈ CoreSlot.all, ∀ taken ∈ placeFrom 0 mailFields, ∀ holder ∈ placeFrom 0 mailFields,
        ¬slot.Supplants taken holder := by
  have hclear : HasClearLabels mailFields := by
    intro field hfield slot _ other hother hrole hlabel
    have hplain : ∀ field ∈ mailFields, ∀ other ∈ CoreSlot.all,
        field.role = none ∨ Text.lower (Text.trim field.label) ≠ Text.lower other.label := by
      decide
    rcases hplain field hfield other hother with hnone | hother
    · rw [hnone] at hrole
      cases hrole
    · exact absurd hlabel hother
  have hroles : (mailFields.filterMap (·.role)).Nodup := by decide
  obtain ⟨-, -, htold⟩ := withCore_repeats_role_iff hroles
  have hnodup : ((withCore mailFields).filterMap (·.role)).Nodup := by decide
  refine ⟨hnodup, ?_⟩
  intro slot hslot taken htaken holder hholder hsupplants
  exact (htold hclear).2 ⟨slot, hslot, taken, htaken, holder, hholder, hsupplants⟩ hnodup

/-- A form in which they stand the other way round. -/
def mailForm : Form where
  fields := mailFields.reverse
  theme := .plain
  container := none

/-- It has no issue, and with the core fields the role comes twice and is reported. -/
theorem mailForm_repeats_role :
    mailForm.issues = .ok [] ∧ (mailForm.fields.filterMap (·.role)).Nodup ∧
      ¬((withCore mailForm.fields).filterMap (·.role)).Nodup ∧
      { mailForm with fields := withCore mailForm.fields }.issues =
        .ok [.field 4 (.duplicateRole .email 2)] := by
  exact ⟨rfl, by decide, by decide, rfl⟩

end Form

end Enrolment
