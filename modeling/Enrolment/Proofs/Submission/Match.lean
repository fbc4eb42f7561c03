/-
The field that a key belongs to is the first one that explains it.

First means: in the order of roles that `tier` gives, and in the order of the form
among fields of one tier.  `field?` finds that field by searching a list that was put
in this order; what is proved here says which field it is without the list, so that
nothing else has to look at how the list is made.
-/
import Enrolment.Form.Control
import Enrolment.Proofs.Form.Placed
import Enrolment.Proofs.Search.First
import Enrolment.Submission.Match

namespace Enrolment

namespace Match

/-! ### The order in which fields are looked at -/

/-- The class that a field is looked at with: first names, last names, emails and then all
others. -/
def tier (placed : Placed) : Nat :=
  match placed.field.role with
  | some .firstName => 0
  | some .lastName => 1
  | some .email => 2
  | some .password | some .country | some .state | none => 3

/-- Whether a field is looked at before another. -/
def Precedes (p q : Placed) : Prop :=
  tier p < tier q ∨ tier p = tier q ∧ p.position < q.position

instance (p q : Placed) : Decidable (Precedes p q) :=
  inferInstanceAs (Decidable (_ ∨ _))

theorem Precedes.asymm {p q : Placed} (h : Precedes p q) : ¬Precedes q p := by
  unfold Precedes at h ⊢
  omega

/-- Of two fields of a form one is looked at first. -/
theorem precedes_total {fields : List Field} {p q : Placed} (hp : p ∈ Form.placeFrom 0 fields)
    (hq : q ∈ Form.placeFrom 0 fields) : p = q ∨ Precedes p q ∨ Precedes q p := by
  by_cases h : p.position = q.position
  · exact .inl (Form.eq_of_position_eq hp hq h)
  · unfold Precedes
    omega

theorem tier_lt (placed : Placed) : tier placed < 4 := by
  unfold tier
  split <;> omega

/-- A field is taken into the list for its role just if it is for its tier. -/
theorem decide_tier (placed : Placed) :
    decide (placed.field.role = some .firstName) = decide (tier placed = 0) ∧
      decide (placed.field.role = some .lastName) = decide (tier placed = 1) ∧
      decide (placed.field.role = some .email) = decide (tier placed = 2) ∧
      isOrdinary placed = decide (tier placed = 3) := by
  unfold isOrdinary tier
  cases placed.field.role with
  | none => exact ⟨rfl, rfl, rfl, rfl⟩
  | some role => cases role <;> exact ⟨rfl, rfl, rfl, rfl⟩

/-- The list to search takes the tiers one after another. -/
theorem prioritized_eq (fields : List Placed) :
    prioritized fields = (List.range 4).flatMap fun n => fields.filter (tier · = n) := by
  have hfirst := funext fun placed => (decide_tier placed).1
  have hlast := funext fun placed => (decide_tier placed).2.1
  have hemail := funext fun placed => (decide_tier placed).2.2.1
  have hothers := funext fun placed => (decide_tier placed).2.2.2
  unfold prioritized firstRoles
  rw [hothers]
  show List.flatMap _ [Role.firstName, Role.lastName, Role.email] ++ _ =
    List.flatMap _ [0, 1, 2, 3]
  simp only [List.flatMap_cons, List.flatMap_nil, hfirst, hlast, hemail, List.append_nil,
    List.append_assoc]

theorem mem_prioritized {fields : List Placed} {p : Placed} :
    p ∈ prioritized fields ↔ p ∈ fields := by
  rw [prioritized_eq, List.mem_flatMap]
  constructor
  · rintro ⟨n, -, hp⟩
    exact (List.mem_filter.1 hp).1
  · intro hp
    exact ⟨tier p, List.mem_range.2 (tier_lt p), List.mem_filter.2 ⟨hp, decide_eq_true rfl⟩⟩

/-- Each field of the list to search is looked at before those behind it. -/
theorem pairwise_prioritized (fields : List Field) :
    (prioritized (Form.placeFrom 0 fields)).Pairwise Precedes := by
  rw [prioritized_eq, List.pairwise_flatMap]
  refine ⟨?_, ?_⟩
  · intro n _
    have hordered := (Form.pairwise_placeFrom 0 fields).filter (tier · = n)
    refine hordered.imp_of_mem ?_
    intro p q hp hq hlt
    have hptier := of_decide_eq_true (List.mem_filter.1 hp).2
    have hqtier := of_decide_eq_true (List.mem_filter.1 hq).2
    exact .inr ⟨hptier.trans hqtier.symm, hlt⟩
  · refine List.pairwise_lt_range.imp ?_
    intro n k hlt p hp q hq
    have hptier := of_decide_eq_true (List.mem_filter.1 hp).2
    have hqtier := of_decide_eq_true (List.mem_filter.1 hq).2
    exact .inl (by omega)

/-! ### A field and its own key -/

/-- A label is submitted as the key of its field. -/
theorem key_of_label {field : Field} (h : field.label ≠ "") (index : Int) :
    field.key index = field.label :=
  Field.labelOr_of_label h "Field" index

/-- And the field explains it. -/
theorem explains_own_label {field : Field} (h : field.label ≠ "") :
    explains field field.label = true := by
  unfold explains
  rw [decide_eq_true h, decide_eq_true rfl]
  rfl

/-! ### The field that is found -/

/-- **A key belongs to the field that is looked at first of those that explain it.** -/
theorem field?_eq_some_iff {key : String} {fields : List Field} {p : Placed} :
    field? key fields = some p ↔
      Text.isBlankText key = false ∧ p ∈ Form.placeFrom 0 fields ∧
        explains p.field key = true ∧
        ∀ q ∈ Form.placeFrom 0 fields, explains q.field key = true → q = p ∨ Precedes p q := by
  unfold field?
  cases hblank : Text.isBlankText key with
  | true => simp
  | false =>
      rw [if_neg Bool.false_ne_true, find?_eq_some_iff_isFirst,
        isFirst_iff_of_pairwise Precedes.asymm (pairwise_prioritized fields)]
      simp only [mem_prioritized, true_and]

theorem field?_eq_none_iff {key : String} {fields : List Field} :
    field? key fields = none ↔
      Text.isBlankText key = true ∨
        ∀ p ∈ Form.placeFrom 0 fields, explains p.field key = false := by
  unfold field?
  cases hblank : Text.isBlankText key with
  | true => simp
  | false =>
      rw [if_neg Bool.false_ne_true, List.find?_eq_none]
      simp only [mem_prioritized, Bool.not_eq_true, Bool.false_eq_true, false_or]

end Match

end Enrolment
