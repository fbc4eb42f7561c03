/-
The fields of a form with their positions.

A form is read from a list of items, one field from each object and in their order.  A
position is where a field stands in the form, counted from zero.  Each field has one and
no two have the same, so a placed field is told by its position alone, and what is done
for every placed field is done once for every field.
-/
import Mathlib.Data.List.Forall2
import Enrolment.Form.Group

namespace Enrolment

/-- The objects among the items of a list, by their members. -/
def Json.objects (items : List Json) : List Members :=
  items.filterMap fun item => match item with
    | .obj members => some members
    | _ => none

@[simp] theorem Json.objects_nil : Json.objects [] = [] := rfl

@[simp] theorem Json.objects_cons_obj (members : Members) (rest : List Json) :
    Json.objects (.obj members :: rest) = members :: Json.objects rest := rfl

/-- **Each object of a list gives one field, and nothing else does.** -/
theorem Field.forall₂_ofItems {items : List Json} {fields : List Field}
    (h : ofItems items = .ok fields) :
    List.Forall₂ (fun members field => ofMembers members = .ok field) (Json.objects items)
      fields := by
  induction items generalizing fields with
  | nil =>
      obtain rfl : [] = fields := Except.ok.inj h
      exact .nil
  | cons item rest ih =>
      cases item with
      | obj members =>
          simp only [ofItems] at h
          cases hfield : ofMembers members with
          | error cause =>
              rw [hfield] at h
              cases h
          | ok field =>
              cases hrest : ofItems rest with
              | error cause =>
                  rw [hfield, hrest] at h
                  cases h
              | ok others =>
                  rw [hfield, hrest] at h
                  obtain rfl : field :: others = fields := Except.ok.inj h
                  exact .cons hfield (ih hrest)
      | null | bool _ | int _ | num _ | str _ | arr _ => exact ih h

namespace Form

theorem mem_placeFrom {fields : List Field} {start : Nat} {placed : Placed} :
    placed ∈ placeFrom start fields ↔
      start ≤ placed.position ∧ fields[placed.position - start]? = some placed.field := by
  induction fields generalizing start with
  | nil => simp [placeFrom]
  | cons field rest ih =>
      obtain ⟨position, chosen⟩ := placed
      rw [placeFrom, List.mem_cons, ih, Placed.mk.injEq]
      dsimp only
      rcases Nat.lt_trichotomy position start with hlt | rfl | hgt
      · constructor
        · rintro (⟨rfl, -⟩ | ⟨hle, -⟩) <;> omega
        · rintro ⟨hle, -⟩
          omega
      · rw [Nat.sub_self, List.getElem?_cons_zero, Option.some_inj]
        constructor
        · rintro (⟨-, rfl⟩ | ⟨hle, -⟩)
          · exact ⟨Nat.le_refl _, rfl⟩
          · omega
        · rintro ⟨-, rfl⟩
          exact .inl ⟨rfl, rfl⟩
      · have hstep : position - start = position - (start + 1) + 1 := by omega
        rw [hstep, List.getElem?_cons_succ]
        constructor
        · rintro (⟨rfl, -⟩ | ⟨hle, hat⟩)
          · omega
          · exact ⟨by omega, hat⟩
        · rintro ⟨-, hat⟩
          exact .inr ⟨by omega, hat⟩

/-- A field stands in the form where the form has it. -/
theorem mem_placed {fields : List Field} {placed : Placed} :
    placed ∈ placeFrom 0 fields ↔ fields[placed.position]? = some placed.field := by
  rw [mem_placeFrom, Nat.sub_zero]
  exact ⟨fun h => h.2, fun h => ⟨Nat.zero_le _, h⟩⟩

/-- No two fields of a form have one position. -/
theorem eq_of_position_eq {fields : List Field} {p q : Placed} (hp : p ∈ placeFrom 0 fields)
    (hq : q ∈ placeFrom 0 fields) (h : p.position = q.position) : p = q := by
  obtain ⟨position, field⟩ := p
  obtain ⟨position', field'⟩ := q
  rw [mem_placed] at hp hq
  obtain rfl : position = position' := h
  rw [hp, Option.some_inj] at hq
  obtain rfl : field = field' := hq
  rfl

theorem pairwise_placeFrom (start : Nat) (fields : List Field) :
    (placeFrom start fields).Pairwise fun p q => p.position < q.position := by
  induction fields generalizing start with
  | nil => exact .nil
  | cons field rest ih =>
      rw [placeFrom, List.pairwise_cons]
      refine ⟨?_, ih (start + 1)⟩
      intro q hq
      exact (mem_placeFrom.1 hq).1

theorem map_placeFrom {α : Type} (make : Placed → α) (start : Nat) (fields : List Field) :
    (placeFrom start fields).map make =
      fields.mapIdx fun index field => make ⟨start + index, field⟩ := by
  induction fields generalizing start with
  | nil => rfl
  | cons field rest ih =>
      have hshift : ∀ index, start + 1 + index = start + (index + 1) := by
        intro index
        omega
      rw [placeFrom, List.map_cons, ih, List.mapIdx_cons]
      simp only [hshift, Nat.add_zero]

/-- What is done for every placed field is done for every field and its position. -/
theorem map_placed {α : Type} (make : Placed → α) (fields : List Field) :
    (placeFrom 0 fields).map make = fields.mapIdx fun index field => make ⟨index, field⟩ := by
  simp only [map_placeFrom, Nat.zero_add]

/-- What is made of the fields of a form in order is made of one at its position. -/
theorem mem_mapIdx_iff {α : Type} {make : Nat → Field → α} {fields : List Field} {a : α} :
    a ∈ fields.mapIdx make ↔
      ∃ position field, fields[position]? = some field ∧ a = make position field := by
  rw [List.mem_mapIdx]
  constructor
  · rintro ⟨position, hposition, rfl⟩
    exact ⟨position, fields[position], List.getElem?_eq_getElem hposition, rfl⟩
  · rintro ⟨position, field, hfield, rfl⟩
    obtain ⟨hposition, rfl⟩ := List.getElem?_eq_some_iff.1 hfield
    exact ⟨position, hposition, rfl⟩

theorem map_field_placeFrom (fields : List Field) :
    (placeFrom 0 fields).map (·.field) = fields := by
  rw [map_placed]
  exact List.mapIdx_eq_iff.2 fun index => by simp

theorem map_position_placeFrom (start : Nat) (fields : List Field) :
    (placeFrom start fields).map (·.position) = List.range' start fields.length := by
  induction fields generalizing start with
  | nil => rfl
  | cons field rest ih =>
      rw [placeFrom, List.map_cons, ih, List.length_cons, List.range'_succ]

end Form

end Enrolment
