/-
A form with the core fields loses none of its own.

Filling the slots goes through them one by one: a slot takes the first field that fits out of
those that are left, or else a new field is created for it.  `Fills` tells how each slot came to
its field, and every fact is one induction along it.  Nothing is lost because what a slot does not
take is left for the others; the ids of new fields count upwards from beyond all that are in use,
so they are new indeed.
-/
import Mathlib.Data.List.Nodup
import Mathlib.Data.List.Perm.Basic
import Enrolment.Proofs.Form.Core
import Enrolment.Proofs.Form.Placed

namespace Enrolment

/-- A slot that was filled: the field that was claimed for it, if there was one, and what came of
that, or of its creation. -/
structure Filled where
  slot : CoreSlot
  claimed : Option Placed
  field : Field

namespace Filled

/-- The id of a field that was created. -/
def createdId? (filled : Filled) : Option Int :=
  if filled.claimed.isNone then filled.field.id else none

end Filled

namespace CoreSlot

/-- How slots are filled from placed fields: what became of them, and the fields that are kept. -/
inductive Fills : Int → List Placed → List CoreSlot → List Filled → List Placed → Prop
  | done (nextId : Int) (placed : List Placed) : Fills nextId placed [] [] placed
  | claim {nextId : Int} {front back kept : List Placed} {first : Placed} {slot : CoreSlot}
      {slots : List CoreSlot} {core : List Filled} (fits : slot.fits first.field = true)
      (front_misfits : ∀ p ∈ front, slot.fits p.field = false)
      (rest : Fills nextId (front ++ back) slots core kept) :
      Fills nextId (front ++ first :: back) (slot :: slots)
        (⟨slot, some first, slot.claim first.field⟩ :: core) kept
  | create {nextId : Int} {placed kept : List Placed} {slot : CoreSlot} {slots : List CoreSlot}
      {core : List Filled} (misfits : ∀ p ∈ placed, slot.fits p.field = false)
      (rest : Fills (nextId + 1) placed slots core kept) :
      Fills nextId placed (slot :: slots) (⟨slot, none, slot.create nextId⟩ :: core) kept

@[simp] theorem claim_id (slot : CoreSlot) (field : Field) : (slot.claim field).id = field.id :=
  rfl

@[simp] theorem create_id (slot : CoreSlot) (id : Int) : (slot.create id).id = some id :=
  rfl

/-- A slot takes no field just if none fits. -/
theorem take?_eq_none_iff {slot : CoreSlot} {fields : List Field} :
    slot.take? fields = none ↔ ∀ field ∈ fields, slot.fits field = false := by
  induction fields with
  | nil => simp [take?]
  | cons field rest ih =>
      rw [take?, List.forall_mem_cons, ← ih]
      by_cases hfits : slot.fits field = true
      · simp [hfits]
      · simp [hfits]

theorem exists_fills (nextId : Int) (placed : List Placed) (slots : List CoreSlot) :
    ∃ core kept, Fills nextId placed slots core kept ∧
      fill nextId (placed.map (·.field)) slots =
        (core.map (·.field), kept.map (·.field)) := by
  induction slots generalizing nextId placed with
  | nil => exact ⟨[], placed, .done nextId placed, rfl⟩
  | cons slot slots ih =>
      cases htake : slot.take? (placed.map (·.field)) with
      | none =>
          obtain ⟨core, kept, hfills, hfill⟩ := ih (nextId + 1) placed
          have hmisfits : ∀ p ∈ placed, slot.fits p.field = false := by
            intro p hp
            exact take?_eq_none_iff.1 htake p.field (List.mem_map_of_mem hp)
          refine ⟨_, kept, .create hmisfits hfills, ?_⟩
          rw [fill_of_take?_eq_none htake, hfill, List.map_cons]
      | some taken =>
          obtain ⟨field, others⟩ := taken
          obtain ⟨front, back, hplaced, rfl, hfits, hfront⟩ := exists_cut_of_take? htake
          obtain ⟨before, behind, rfl, rfl, hbehind⟩ := List.map_eq_append_iff.1 hplaced
          obtain ⟨first, after, rfl, rfl, rfl⟩ := List.map_eq_cons_iff.1 hbehind
          obtain ⟨core, kept, hfills, hfill⟩ := ih nextId (before ++ after)
          have hmisfits : ∀ p ∈ before, slot.fits p.field = false := by
            intro p hp
            exact hfront p.field (List.mem_map_of_mem hp)
          refine ⟨_, kept, .claim hfits hmisfits hfills, ?_⟩
          rw [fill_of_take?_eq_some htake, ← List.map_append, hfill, List.map_cons]

namespace Fills

variable {nextId : Int} {placed kept : List Placed} {slots : List CoreSlot} {core : List Filled}

/-! ### The fields that were there -/

theorem map_slot (h : Fills nextId placed slots core kept) : core.map (·.slot) = slots := by
  induction h with
  | done => rfl
  | claim _ _ _ ih => rw [List.map_cons, ih]
  | create _ _ ih => rw [List.map_cons, ih]

/-- **Every field is claimed by one slot or kept.** -/
theorem perm (h : Fills nextId placed slots core kept) :
    (core.filterMap (·.claimed) ++ kept).Perm placed := by
  induction h with
  | done => exact .refl _
  | claim _ _ _ ih => exact (ih.cons _).trans List.perm_middle.symm
  | create _ _ ih => exact ih

/-- The fields that are kept stay in their order. -/
theorem sublist (h : Fills nextId placed slots core kept) : kept.Sublist placed := by
  induction h with
  | done => exact .refl _
  | claim _ _ _ ih => exact ih.trans ((List.sublist_cons_self _ _).append_left _)
  | create _ _ ih => exact ih

/-! ### The fields in the slots -/

/-- A slot is filled with a field of the form that fits, or with a new one. -/
theorem filled_cases (h : Fills nextId placed slots core kept) {filled : Filled}
    (hfilled : filled ∈ core) :
    (∃ p, filled.claimed = some p ∧ filled.slot.fits p.field = true ∧
      filled.field = filled.slot.claim p.field) ∨
    ∃ id, nextId ≤ id ∧ filled.claimed = none ∧ filled.field = filled.slot.create id := by
  induction h with
  | done => cases hfilled
  | claim hfits _ _ ih =>
      rcases List.mem_cons.1 hfilled with rfl | hlater
      · exact .inl ⟨_, rfl, hfits, rfl⟩
      · exact ih hlater
  | create _ _ ih =>
      rcases List.mem_cons.1 hfilled with rfl | hlater
      · exact .inr ⟨_, Int.le_refl _, rfl, rfl⟩
      · refine (ih hlater).imp_right ?_
        rintro ⟨id, hid, hcreated⟩
        exact ⟨id, by omega, hcreated⟩

/-- The core fields have what a signup form asks of them. -/
theorem isHeldBy (h : Fills nextId placed all core kept) {filled : Filled}
    (hfilled : filled ∈ core) : filled.slot.IsHeldBy filled.field := by
  have hslot : filled.slot ∈ all := by
    rw [← h.map_slot]
    exact List.mem_map_of_mem hfilled
  have hplaceholder := placeholder_ne_empty filled.slot hslot
  rcases h.filled_cases hfilled with ⟨p, -, -, hfield⟩ | ⟨id, -, -, hfield⟩
  · rw [hfield]
    exact claim_isHeldBy hplaceholder p.field
  · rw [hfield]
    exact create_isHeldBy hplaceholder id

theorem roles (h : Fills nextId placed all core kept) : core.map (·.field.role) =
    [some .firstName, some .lastName, some .email, some .password] := by
  have hroles : core.map (·.field.role) = (core.map (·.slot)).map fun slot => some slot.role := by
    rw [List.map_map]
    exact List.map_congr_left fun filled hfilled => (h.isHeldBy hfilled).role
  rw [hroles, h.map_slot]
  rfl

theorem field_of_claimed (h : Fills nextId placed slots core kept) {filled : Filled}
    (hfilled : filled ∈ core) {p : Placed} (hclaimed : filled.claimed = some p) :
    filled.slot.fits p.field = true ∧ filled.field = filled.slot.claim p.field := by
  rcases h.filled_cases hfilled with ⟨q, hq, hfits, hfield⟩ | ⟨id, -, hnone, -⟩
  · obtain rfl : q = p := Option.some.inj (hq.symm.trans hclaimed)
    exact ⟨hfits, hfield⟩
  · rw [hnone] at hclaimed
    cases hclaimed

theorem field_of_not_claimed (h : Fills nextId placed slots core kept) {filled : Filled}
    (hfilled : filled ∈ core) (hnone : filled.claimed = none) :
    ∃ id, nextId ≤ id ∧ filled.field = filled.slot.create id := by
  rcases h.filled_cases hfilled with ⟨p, hp, -, -⟩ | ⟨id, hid, -, hfield⟩
  · rw [hp] at hnone
    cases hnone
  · exact ⟨id, hid, hfield⟩

/-- No field that is kept would have come before the one that was claimed. -/
theorem claimed_first (h : Fills nextId placed slots core kept)
    (hplaced : placed.Pairwise fun p q => p.position < q.position) {filled : Filled}
    (hfilled : filled ∈ core) {q : Placed} (hq : q ∈ kept)
    (hfits : filled.slot.fits q.field = true) :
    ∃ p, filled.claimed = some p ∧ p.position < q.position := by
  induction h with
  | done => cases hfilled
  | @claim _ front back _ first _ _ _ _ hfront hrest ih =>
      rcases List.mem_cons.1 hfilled with rfl | hlater
      · refine ⟨first, rfl, ?_⟩
        -- what is kept and fits does not stand in front of the first that fits
        rcases List.mem_append.1 (hrest.sublist.subset hq) with hbefore | hbehind
        · rw [hfront q hbefore] at hfits
          cases hfits
        · exact (List.pairwise_cons.1 (List.pairwise_append.1 hplaced).2.1).1 q hbehind
      · have hleft := hplaced.sublist ((List.sublist_cons_self first back).append_left front)
        exact ih hleft hlater hq
  | create hmisfits hrest ih =>
      rcases List.mem_cons.1 hfilled with rfl | hlater
      · rw [hmisfits q (hrest.sublist.subset hq)] at hfits
        cases hfits
      · exact ih hplaced hlater hq

/-! ### Ids -/

theorem nextId_le (h : Fills nextId placed slots core kept) {id : Int}
    (hid : id ∈ core.filterMap Filled.createdId?) : nextId ≤ id := by
  obtain ⟨filled, hfilled, hcreated⟩ := List.mem_filterMap.1 hid
  rcases h.filled_cases hfilled with ⟨p, hclaimed, -, -⟩ | ⟨other, hother, hclaimed, hfield⟩
  · simp [Filled.createdId?, hclaimed] at hcreated
  · obtain rfl : other = id := by simpa [Filled.createdId?, hclaimed, hfield] using hcreated
    exact hother

/-- The ids of new fields count upwards. -/
theorem pairwise_createdId? (h : Fills nextId placed slots core kept) :
    (core.filterMap Filled.createdId?).Pairwise (· < ·) := by
  induction h with
  | done => exact .nil
  | claim _ _ _ ih =>
      rw [List.filterMap_cons_none (by simp [Filled.createdId?])]
      exact ih
  | @create nextId _ _ _ _ _ _ hrest ih =>
      rw [List.filterMap_cons_some (b := nextId) (by simp [Filled.createdId?])]
      refine .cons ?_ ih
      intro id hid
      have hlater := hrest.nextId_le hid
      omega

/-- The ids of all fields are those of the form and those of the new fields. -/
theorem ids_perm (h : Fills nextId placed slots core kept) :
    ((core.map (·.field) ++ kept.map (·.field)).filterMap (·.id)).Perm
      (core.filterMap Filled.createdId? ++ (placed.map (·.field)).filterMap (·.id)) := by
  induction h with
  | done => exact .refl _
  | @claim _ front back _ first _ _ _ _ _ _ ih =>
      rw [List.filterMap_cons_none (by simp [Filled.createdId?])]
      simp only [List.filterMap_eq_flatMap_toList, List.map_append, List.map_cons,
        List.flatMap_append, List.flatMap_cons, claim_id, List.append_assoc] at ih ⊢
      -- the id of the field that was claimed goes to the front
      refine (ih.append_left first.field.id.toList).trans ?_
      exact (List.perm_append_comm_assoc _ _ _).trans
        ((List.perm_append_comm_assoc _ _ _).append_left _)
  | @create nextId _ _ _ _ _ _ _ ih =>
      rw [List.filterMap_cons_some (b := nextId) (by simp [Filled.createdId?]), List.map_cons,
        List.cons_append, List.filterMap_cons_some (b := nextId) (by simp)]
      exact ih.cons nextId

/-- New ids are no ids of the form, so ids stay distinct. -/
theorem nodup_ids (h : Fills nextId placed slots core kept)
    (hbelow : ∀ id ∈ (placed.map (·.field)).filterMap (·.id), id < nextId)
    (hnodup : ((placed.map (·.field)).filterMap (·.id)).Nodup) :
    ((core.map (·.field) ++ kept.map (·.field)).filterMap (·.id)).Nodup := by
  rw [h.ids_perm.nodup_iff, List.nodup_append]
  refine ⟨h.pairwise_createdId?.imp fun hlt => Int.ne_of_lt hlt, hnodup, ?_⟩
  intro id hid other hother heq
  have hle := h.nextId_le hid
  have hlt := hbelow other hother
  omega

end Fills

end CoreSlot

namespace Form

/-- All ids that are in use are smaller than the next one. -/
theorem lt_nextId {fields : List Field} {id : Int} (h : id ∈ fields.filterMap (·.id)) :
    id < nextId fields := by
  unfold nextId
  cases hmax : (fields.filterMap (·.id)).max? with
  | none =>
      rw [List.max?_eq_none_iff.1 hmax] at h
      cases h
  | some largest =>
      have hle := (List.max?_eq_some_iff.1 hmax).2 id h
      exact Int.lt_add_one_of_le hle

/-- What it means that a form is completed by core fields and goes on with those of its own that
are kept. -/
structure IsCompletedBy (fields : List Field) (core : List Filled) (kept : List Placed) : Prop where
  /-- The core fields are those of a signup form, in order. -/
  roles : core.map (·.field.role) =
    [some .firstName, some .lastName, some .email, some .password]
  slots : core.map (·.slot) = CoreSlot.all
  /-- Each has the role and the type of its slot, is required and locked, and has a placeholder. -/
  held : ∀ filled ∈ core, filled.slot.IsHeldBy filled.field
  /-- Every field of the form is claimed by one slot or kept. -/
  perm : (core.filterMap (·.claimed) ++ kept).Perm (placeFrom 0 fields)
  /-- What is kept stays in its order. -/
  sublist : kept.Sublist (placeFrom 0 fields)
  /-- A field that is claimed fits its slot and keeps what the slot does not settle. -/
  keeps : ∀ filled ∈ core, ∀ placed ∈ filled.claimed, filled.slot.fits placed.field = true ∧
    filled.field.id = placed.field.id ∧ filled.field.label = placed.field.label ∧
    filled.field.choices = placed.field.choices ∧
    filled.field.rowGroup = placed.field.rowGroup ∧ filled.field.style = placed.field.style
  /-- A field that fits a slot is kept only behind the one that was claimed for it. -/
  claimed_first : ∀ filled ∈ core, ∀ other ∈ kept, filled.slot.fits other.field = true →
    ∃ placed, filled.claimed = some placed ∧ placed.position < other.position
  /-- A field that was not claimed is new, with an id beyond all that are in use. -/
  created : ∀ filled ∈ core, filled.claimed = none →
    ∃ id, filled.field = filled.slot.create id ∧ ∀ other ∈ fields.filterMap (·.id), other < id
  /-- No two new fields have one id. -/
  created_ids_nodup : (core.filterMap Filled.createdId?).Nodup
  /-- If no two fields had one id, no two have one now. -/
  ids_nodup : (fields.filterMap (·.id)).Nodup →
    ((core.map (·.field) ++ kept.map (·.field)).filterMap (·.id)).Nodup

/-- **Putting the core fields first completes a form and loses none of its fields.** -/
theorem withCore_isCompletedBy (fields : List Field) :
    ∃ core kept, withCore fields = core.map (·.field) ++ kept.map (·.field) ∧
      IsCompletedBy fields core kept := by
  obtain ⟨core, kept, hfills, hfill⟩ :=
    CoreSlot.exists_fills (nextId fields) (placeFrom 0 fields) CoreSlot.all
  have hbelow : ∀ id ∈ ((placeFrom 0 fields).map (·.field)).filterMap (·.id),
      id < nextId fields := by
    rw [map_field_placeFrom]
    exact fun id => lt_nextId
  have hids := hfills.nodup_ids hbelow
  rw [map_field_placeFrom] at hfill hids
  refine ⟨core, kept, ?_, hfills.roles, hfills.map_slot, fun _ => hfills.isHeldBy, hfills.perm,
    hfills.sublist, ?_, ?_, ?_, ?_, hids⟩
  · rw [withCore_eq, hfill]
  · intro filled hfilled placed hclaimed
    obtain ⟨hfits, hfield⟩ := hfills.field_of_claimed hfilled hclaimed
    rw [hfield]
    exact ⟨hfits, rfl, rfl, rfl, rfl, rfl⟩
  · intro filled hfilled other hother hfits
    exact hfills.claimed_first (pairwise_placeFrom 0 fields) hfilled hother hfits
  · intro filled hfilled hnone
    obtain ⟨id, hid, hfield⟩ := hfills.field_of_not_claimed hfilled hnone
    exact ⟨id, hfield, fun other hother => Int.lt_of_lt_of_le (lt_nextId hother) hid⟩
  · exact hfills.pairwise_createdId?.imp fun hlt => Int.ne_of_lt hlt

end Form

end Enrolment
