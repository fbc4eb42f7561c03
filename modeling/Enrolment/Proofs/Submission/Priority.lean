/-
The order in which fields are looked at, and the form in another order.

The list that is searched has every field of the form once, class after class, and each class in
the order of the form (`IsPriorityOrder`).  So it is told by the classes alone: a form whose fields
stand in another order, but those of each class as before (`KeepsTiers`), gives the same list, and
a key belongs to the same field.  A field is known in both forms by the position that it has in
the first one; in the second, positions are only the places where it is found (`Placed.moved`).
-/
import Mathlib.Data.List.Nodup
import Enrolment.Proofs.Submission.Match

namespace Enrolment

/-- A field with its position given another number. -/
def Placed.moved (number : Nat → Nat) (placed : Placed) : Placed :=
  ⟨number placed.position, placed.field⟩

namespace Match

/-- Whether fields are the same in another order that keeps the order of each class. -/
def KeepsTiers (fields order : List Placed) : Prop :=
  ∀ n, order.filter (tier · = n) = fields.filter (tier · = n)

/-- What it takes for fields to be in the order in which they are looked at. -/
structure IsPriorityOrder (fields order : List Placed) : Prop where
  /-- No field is lost, doubled or added. -/
  perm : order.Perm fields
  /-- First names come first, then last names, then emails, then all others. -/
  ascending : order.Pairwise fun p q => tier p ≤ tier q
  /-- Each class stays in its order. -/
  stable : KeepsTiers fields order

/-! ### The list that is searched -/

theorem prioritized_perm (fields : List Field) :
    (prioritized (Form.placeFrom 0 fields)).Perm (Form.placeFrom 0 fields) := by
  have hsearched : (prioritized (Form.placeFrom 0 fields)).Nodup := by
    refine (pairwise_prioritized fields).imp ?_
    rintro p q h rfl
    exact h.asymm h
  have hplaced : (Form.placeFrom 0 fields).Nodup := by
    refine (Form.pairwise_placeFrom 0 fields).imp ?_
    rintro p q hlt rfl
    exact Nat.lt_irrefl _ hlt
  exact (List.perm_ext_iff_of_nodup hsearched hplaced).2 fun p => mem_prioritized

/-- The fields of a class are looked at in the order of the form. -/
theorem keepsTiers_prioritized (fields : List Field) :
    KeepsTiers (Form.placeFrom 0 fields) (prioritized (Form.placeFrom 0 fields)) := by
  intro n
  have hperm := (prioritized_perm fields).filter (tier · = n)
  have hsearched : ((prioritized (Form.placeFrom 0 fields)).filter (tier · = n)).Pairwise
      fun p q => p.position < q.position := by
    refine ((pairwise_prioritized fields).filter _).imp_of_mem ?_
    intro p q hp hq hprecedes
    have hptier := of_decide_eq_true (List.mem_filter.1 hp).2
    have hqtier := of_decide_eq_true (List.mem_filter.1 hq).2
    unfold Precedes at hprecedes
    omega
  have hplaced := (Form.pairwise_placeFrom 0 fields).filter (tier · = n)
  refine hperm.eq_of_pairwise ?_ hsearched hplaced
  intro p q _ _ hpq hqp
  omega

theorem isPriorityOrder_prioritized (fields : List Field) :
    IsPriorityOrder (Form.placeFrom 0 fields) (prioritized (Form.placeFrom 0 fields)) where
  perm := prioritized_perm fields
  ascending := by
    refine (pairwise_prioritized fields).imp ?_
    intro p q hprecedes
    unfold Precedes at hprecedes
    omega
  stable := keepsTiers_prioritized fields

/-! ### Another order -/

theorem prioritized_of_keepsTiers {fields order : List Placed} (h : KeepsTiers fields order) :
    prioritized order = prioritized fields := by
  rw [prioritized_eq, prioritized_eq]
  exact congrArg (List.range 4).flatMap (funext h)

/-- Fields are looked at by their roles, whatever the numbers of their positions are. -/
theorem prioritized_map_moved (number : Nat → Nat) (fields : List Placed) :
    prioritized (fields.map (Placed.moved number)) =
      (prioritized fields).map (Placed.moved number) := by
  rw [prioritized_eq, prioritized_eq, List.map_flatMap]
  simp only [List.filter_map]
  rfl

/-- The position in the first form of the field at a place. -/
def numberAt (order : List Placed) (place : Nat) : Nat :=
  (order[place]?.map (·.position)).getD 0

theorem map_moved_numberAt (order : List Placed) :
    (Form.placeFrom 0 (order.map (·.field))).map (Placed.moved (numberAt order)) = order := by
  rw [Form.map_placed]
  refine List.mapIdx_eq_iff.2 fun place => ?_
  rw [List.getElem?_map]
  cases hplace : order[place]? with
  | none => rfl
  | some p =>
      have hnumber : numberAt order place = p.position := by
        rw [numberAt, hplace]
        rfl
      simp [Placed.moved, hnumber]

theorem getElem?_of_mem_placeFrom {order : List Placed} {p : Placed}
    (h : p ∈ Form.placeFrom 0 (order.map (·.field))) :
    order[p.position]? = some (p.moved (numberAt order)) := by
  rw [Form.mem_placed, List.getElem?_map] at h
  obtain ⟨q, hq, hfield⟩ := Option.map_eq_some_iff.1 h
  rw [Placed.moved, numberAt, hq, ← hfield]
  rfl

/-- A search of the second form comes to the field that a search of the first one comes to. -/
theorem find?_of_keepsTiers {fields : List Field} {order : List Placed}
    (h : KeepsTiers (Form.placeFrom 0 fields) order) (key : String) :
    (prioritized (Form.placeFrom 0 fields)).find? (fun placed => explains placed.field key) =
      ((prioritized (Form.placeFrom 0 (order.map (·.field)))).find?
        fun placed => explains placed.field key).map (Placed.moved (numberAt order)) := by
  calc (prioritized (Form.placeFrom 0 fields)).find? (fun placed => explains placed.field key)
      = (prioritized ((Form.placeFrom 0 (order.map (·.field))).map
          (Placed.moved (numberAt order)))).find? fun placed => explains placed.field key := by
        rw [map_moved_numberAt, prioritized_of_keepsTiers h]
    _ = ((prioritized (Form.placeFrom 0 (order.map (·.field)))).map
          (Placed.moved (numberAt order))).find? fun placed => explains placed.field key := by
        rw [prioritized_map_moved]
    _ = _ := List.find?_map

/-- A key belongs to the same field in both orders. -/
theorem field?_of_keepsTiers {fields : List Field} {order : List Placed}
    (h : KeepsTiers (Form.placeFrom 0 fields) order) (key : String) :
    (field? key (order.map (·.field))).bind (order[·.position]?) = field? key fields := by
  unfold field?
  split
  · rfl
  · rw [find?_of_keepsTiers h key]
    cases hfound : (prioritized (Form.placeFrom 0 (order.map (·.field)))).find?
        fun placed => explains placed.field key with
    | none => rfl
    | some p =>
        have hmem := mem_prioritized.1 (List.mem_of_find?_eq_some hfound)
        exact getElem?_of_mem_placeFrom hmem

/-! ### The field that a key belongs to -/

theorem forall_placed_iff {fields : List Field} {P : Field → Prop} :
    (∀ p ∈ Form.placeFrom 0 fields, P p.field) ↔ ∀ field ∈ fields, P field := by
  conv_rhs => rw [← Form.map_field_placeFrom fields]
  rw [List.forall_mem_map]

/-- **Fields are looked at class after class, each in the order of the form, and none is lost or
doubled.  A key belongs to no field if it is blank or no field explains it, and otherwise to the
first that does in this order; so it belongs to the same field in every order of the form that
keeps the order of each class.** -/
theorem field?_isFirst (key : String) (fields : List Field) :
    IsPriorityOrder (Form.placeFrom 0 fields) (prioritized (Form.placeFrom 0 fields)) ∧
    (field? key fields = none ↔
      Text.isBlankText key = true ∨ ∀ field ∈ fields, explains field key = false) ∧
    (∀ p, field? key fields = some p ↔ Text.isBlankText key = false ∧
      IsFirst (fun q => explains q.field key = true) (prioritized (Form.placeFrom 0 fields)) p) ∧
    ∀ order, KeepsTiers (Form.placeFrom 0 fields) order →
      (field? key (order.map (·.field))).bind (order[·.position]?) = field? key fields := by
  refine ⟨isPriorityOrder_prioritized fields, ?_, ?_, fun order h => field?_of_keepsTiers h key⟩
  · rw [field?_eq_none_iff, forall_placed_iff (P := fun field => explains field key = false)]
  · intro p
    unfold field?
    cases hblank : Text.isBlankText key with
    | true => simp
    | false => rw [if_neg Bool.false_ne_true, find?_eq_some_iff_isFirst, and_iff_right rfl]

/-- A form in which the first name stands behind a field whose label the key contains. -/
def nameForm : List Field :=
  [⟨none, .text, "Name", "", false, .plain, none, false, [], none⟩,
    ⟨none, .text, "First", "", false, .plain, some .firstName, false, [], none⟩,
    ⟨none, .text, "Company", "", false, .plain, none, false, [], none⟩]

/-- The key for the first name belongs to it there, and also if it stands in front of the others. -/
theorem firstName_first :
    (field? "First Name" nameForm).map (·.position) = some 1 ∧
      ∃ order, order.map (·.position) = [1, 0, 2] ∧ KeepsTiers (Form.placeFrom 0 nameForm) order ∧
        (field? "First Name" (order.map (·.field))).bind (order[·.position]?) =
          field? "First Name" nameForm := by
  obtain ⟨-, -, -, hsame⟩ := field?_isFirst "First Name" nameForm
  have hkeeps : KeepsTiers (Form.placeFrom 0 nameForm)
      [⟨1, nameForm[1]⟩, ⟨0, nameForm[0]⟩, ⟨2, nameForm[2]⟩] := by
    intro n
    match n with
    | 0 | 1 | 2 | 3 => rfl
    | n + 4 => rfl
  exact ⟨by decide, _, rfl, hkeeps, hsame _ hkeeps⟩

end Match

end Enrolment
