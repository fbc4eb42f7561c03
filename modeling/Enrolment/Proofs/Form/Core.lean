/-
What putting the core fields first does to a form.

Each slot is filled with a field that holds it: one with its role and type, required, locked
and with a placeholder.  A slot takes the first field that fits, and a field that holds a slot
fits it and is not changed when it is claimed.  So in a form that starts with the core fields
they are found where they stand, and putting them first once more changes nothing.
-/
import Enrolment.Form.Core
import Enrolment.Proofs.Form.Wire

namespace Enrolment

namespace CoreSlot

/-- What it takes for a field to hold a slot. -/
structure IsHeldBy (slot : CoreSlot) (field : Field) : Prop where
  role : field.role = some slot.role
  type : field.type = slot.type
  required : field.required = true
  locked : field.locked = true
  placeholder : field.placeholder ≠ ""

variable {slot : CoreSlot} {field : Field}

theorem claim_isHeldBy (h : slot.placeholder ≠ "") (field : Field) :
    slot.IsHeldBy (slot.claim field) where
  role := rfl
  type := rfl
  required := rfl
  locked := rfl
  placeholder := by
    unfold claim
    dsimp only
    split
    · exact h
    · assumption

theorem create_isHeldBy (h : slot.placeholder ≠ "") (id : Int) :
    slot.IsHeldBy (slot.create id) where
  role := rfl
  type := rfl
  required := rfl
  locked := rfl
  placeholder := h

/-- A field that holds a slot is claimed as it is. -/
theorem claim_of_isHeldBy (h : slot.IsHeldBy field) : slot.claim field = field := by
  obtain ⟨id, type, label, placeholder, required, style, role, locked, choices, rowGroup⟩ := field
  obtain ⟨rfl, rfl, rfl, rfl, hplaceholder⟩ := h
  rw [claim, if_neg hplaceholder]

theorem fits_of_isHeldBy (h : slot.IsHeldBy field) : slot.fits field = true := by
  unfold fits
  rw [h.role]
  simp

/-! ### One slot -/

theorem take?_of_isHeldBy (h : slot.IsHeldBy field) (rest : List Field) :
    slot.take? (field :: rest) = some (field, rest) := by
  rw [take?, if_pos (fits_of_isHeldBy h)]

/-- A slot takes the first field that fits, and leaves all others in their order. -/
theorem exists_cut_of_take? {fields others : List Field} (h : slot.take? fields = some (field, others)) :
    ∃ front back, fields = front ++ field :: back ∧ others = front ++ back ∧
      slot.fits field = true ∧ ∀ other ∈ front, slot.fits other = false := by
  induction fields generalizing others with
  | nil => cases h
  | cons first rest ih =>
      rw [take?] at h
      split at h
      · rename_i hfits
        obtain ⟨rfl, rfl⟩ := Prod.mk.inj (Option.some.inj h)
        exact ⟨[], rest, rfl, rfl, hfits, List.forall_mem_nil _⟩
      · rename_i hmisfit
        obtain ⟨⟨found, left⟩, htake, hpair⟩ := Option.map_eq_some_iff.1 h
        obtain ⟨rfl, rfl⟩ := Prod.mk.inj hpair
        obtain ⟨front, back, rfl, rfl, hfits, hfront⟩ := ih htake
        refine ⟨first :: front, back, rfl, rfl, hfits, ?_⟩
        exact List.forall_mem_cons.2 ⟨Bool.eq_false_iff.2 hmisfit, hfront⟩

/-! ### All slots -/

variable {slots : List CoreSlot} {fields : List Field}

theorem fill_of_take?_eq_some {found : Field} {others : List Field}
    (h : slot.take? fields = some (found, others)) (nextId : Int) :
    fill nextId fields (slot :: slots) =
      (slot.claim found :: (fill nextId others slots).1, (fill nextId others slots).2) := by
  rw [fill, h]

theorem fill_of_take?_eq_none (h : slot.take? fields = none) (nextId : Int) :
    fill nextId fields (slot :: slots) =
      (slot.create nextId :: (fill (nextId + 1) fields slots).1,
        (fill (nextId + 1) fields slots).2) := by
  rw [fill, h]

/-- Every slot is filled with a field that holds it. -/
theorem forall₂_fill (h : ∀ slot ∈ slots, slot.placeholder ≠ "") (nextId : Int)
    (fields : List Field) : List.Forall₂ IsHeldBy slots (fill nextId fields slots).1 := by
  induction slots generalizing nextId fields with
  | nil => exact .nil
  | cons slot slots ih =>
      obtain ⟨hslot, hslots⟩ := List.forall_mem_cons.1 h
      cases htake : slot.take? fields with
      | some taken =>
          rw [fill_of_take?_eq_some htake]
          exact .cons (claim_isHeldBy hslot taken.1) (ih hslots nextId taken.2)
      | none =>
          rw [fill_of_take?_eq_none htake]
          exact .cons (create_isHeldBy hslot nextId) (ih hslots (nextId + 1) fields)

/-- Slots that are held by the first fields are filled with these. -/
theorem fill_of_forall₂ {core : List Field} (h : List.Forall₂ IsHeldBy slots core) (nextId : Int)
    (rest : List Field) : fill nextId (core ++ rest) slots = (core, rest) := by
  induction h with
  | nil => rfl
  | cons hheld _ ih =>
      rw [List.cons_append, fill_of_take?_eq_some (take?_of_isHeldBy hheld _), ih,
        claim_of_isHeldBy hheld]

/-- What holds of all fields still holds of them when the slots are filled, if claimed and created
fields have it. -/
theorem forall_fill {P : Field → Prop} (hclaim : ∀ slot field, P field → P (claim slot field))
    (hcreate : ∀ slot id, P (create slot id)) (h : ∀ field ∈ fields, P field) (nextId : Int) :
    (∀ field ∈ (fill nextId fields slots).1, P field) ∧
      ∀ field ∈ (fill nextId fields slots).2, P field := by
  induction slots generalizing nextId fields with
  | nil => exact ⟨List.forall_mem_nil _, h⟩
  | cons slot slots ih =>
      cases htake : slot.take? fields with
      | some taken =>
          rw [fill_of_take?_eq_some htake]
          obtain ⟨front, back, rfl, hothers, -, -⟩ := exists_cut_of_take? htake
          rw [List.forall_mem_append, List.forall_mem_cons] at h
          obtain ⟨hfront, hfound, hback⟩ := h
          rw [hothers]
          obtain ⟨hcore, hrest⟩ := ih (List.forall_mem_append.2 ⟨hfront, hback⟩) nextId
          exact ⟨List.forall_mem_cons.2 ⟨hclaim slot taken.1 hfound, hcore⟩, hrest⟩
      | none =>
          rw [fill_of_take?_eq_none htake]
          obtain ⟨hcore, hrest⟩ := ih h (nextId + 1)
          exact ⟨List.forall_mem_cons.2 ⟨hcreate slot nextId, hcore⟩, hrest⟩

theorem placeholder_ne_empty : ∀ slot ∈ all, slot.placeholder ≠ "" := by
  decide

end CoreSlot

namespace Form

theorem withCore_eq (fields : List Field) :
    withCore fields = (CoreSlot.fill (nextId fields) fields CoreSlot.all).1 ++
      (CoreSlot.fill (nextId fields) fields CoreSlot.all).2 :=
  rfl

/-- What it means that a form begins with the core fields. -/
def BeginsWithCore (fields : List Field) : Prop :=
  ∃ core rest, fields = core ++ rest ∧ List.Forall₂ CoreSlot.IsHeldBy CoreSlot.all core

theorem beginsWithCore_withCore (fields : List Field) : BeginsWithCore (withCore fields) :=
  ⟨_, _, withCore_eq fields, CoreSlot.forall₂_fill CoreSlot.placeholder_ne_empty _ fields⟩

/-- A form that begins with the core fields is left as it is. -/
theorem withCore_of_beginsWithCore {fields : List Field} (h : BeginsWithCore fields) :
    withCore fields = fields := by
  obtain ⟨core, rest, rfl, hheld⟩ := h
  rw [withCore_eq, CoreSlot.fill_of_forall₂ hheld]

/-- Putting the core fields first once more changes nothing. -/
theorem withCore_withCore (fields : List Field) :
    withCore (withCore fields) = withCore fields :=
  withCore_of_beginsWithCore (beginsWithCore_withCore fields)

/-- **Putting the core fields first settles a form: once more changes nothing, and the forms that it
leaves as they are, are those that begin with the core fields.** -/
theorem withCore_settles (fields : List Field) :
    withCore (withCore fields) = withCore fields ∧
      (withCore fields = fields ↔ BeginsWithCore fields) := by
  refine ⟨withCore_withCore fields, ?_, withCore_of_beginsWithCore⟩
  intro h
  rw [← h]
  exact beginsWithCore_withCore fields

/-- The fields come back from the wire with the core fields if they do without. -/
theorem isCanonical_withCore {fields : List Field} (h : ∀ field ∈ fields, field.IsCanonical) :
    ∀ field ∈ withCore fields, field.IsCanonical := by
  have hclaim (slot : CoreSlot) (field : Field) (hfield : field.IsCanonical) :
      (slot.claim field).IsCanonical := ⟨hfield.styles, hfield.choices⟩
  have hcreate (slot : CoreSlot) (id : Int) : (slot.create id).IsCanonical := by
    refine ⟨?_, List.forall_mem_nil _⟩
    simp [CoreSlot.create, CoreSlot.style, Presentation.toMembers, Json.ofText?]
  rw [withCore_eq, List.forall_mem_append]
  exact CoreSlot.forall_fill hclaim hcreate h (nextId fields)

end Form

end Enrolment
