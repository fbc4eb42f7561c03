/-
The first element of a list that has a property.

A search and a fold pick an element of a list in ways of their own.  `IsFirst` tells it by the
list alone: it has the property, and no element in front of it does.  There is one such element
at most, so what is picked can be told by saying of what it is the first.
-/
namespace Enrolment

variable {α : Type} {p q : α → Prop} {l : List α} {a b : α}

/-- Whether an element is the first of a list that has a property. -/
def IsFirst (p : α → Prop) (l : List α) (a : α) : Prop :=
  ∃ front back, l = front ++ a :: back ∧ p a ∧ ∀ b ∈ front, ¬p b

/-- A search finds the first element that it looks for. -/
theorem find?_eq_some_iff_isFirst {f : α → Bool} :
    l.find? f = some a ↔ IsFirst (fun a => f a = true) l a := by
  rw [List.find?_eq_some_iff_append]
  constructor
  · rintro ⟨ha, front, back, hl, hfront⟩
    refine ⟨front, back, hl, ha, ?_⟩
    intro b hb
    simpa using hfront b hb
  · rintro ⟨front, back, hl, ha, hfront⟩
    refine ⟨ha, front, back, hl, ?_⟩
    intro b hb
    simpa using hfront b hb

open Classical in
theorem isFirst_iff_find? : IsFirst p l a ↔ l.find? (fun a => decide (p a)) = some a := by
  rw [find?_eq_some_iff_isFirst]
  simp only [decide_eq_true_eq]

namespace IsFirst

theorem holds (h : IsFirst p l a) : p a := by
  obtain ⟨-, -, -, ha, -⟩ := h
  exact ha

theorem mem (h : IsFirst p l a) : a ∈ l := by
  obtain ⟨front, back, rfl, -, -⟩ := h
  exact List.mem_append_right front List.mem_cons_self

/-- Only one element is the first. -/
theorem unique (h : IsFirst p l a) (hother : IsFirst p l b) : a = b := by
  rw [isFirst_iff_find?] at h hother
  exact Option.some.inj (h.symm.trans hother)

end IsFirst

theorem exists_isFirst_iff : (∃ a, IsFirst p l a) ↔ ∃ a ∈ l, p a := by
  classical
  simp only [isFirst_iff_find?, ← Option.isSome_iff_exists, List.find?_isSome, decide_eq_true_eq]

/-- The first element of an ordered list is before all others that have the property. -/
theorem isFirst_iff_of_pairwise {r : α → α → Prop} (hasymm : ∀ {a b}, r a b → ¬r b a)
    (hordered : l.Pairwise r) :
    IsFirst p l a ↔ a ∈ l ∧ p a ∧ ∀ b ∈ l, p b → b = a ∨ r a b := by
  constructor
  · intro h
    refine ⟨h.mem, h.holds, fun b hb hpb => ?_⟩
    obtain ⟨front, back, rfl, -, hfront⟩ := h
    rw [List.pairwise_append, List.pairwise_cons] at hordered
    rcases List.mem_append.1 hb with hbefore | hbehind
    · exact absurd hpb (hfront b hbefore)
    · exact (List.mem_cons.1 hbehind).imp id (hordered.2.1.1 b)
  · rintro ⟨hmem, ha, hfirst⟩
    obtain ⟨front, back, rfl⟩ := List.append_of_mem hmem
    refine ⟨front, back, rfl, ha, fun b hb hpb => ?_⟩
    have hba : r b a := (List.pairwise_append.1 hordered).2.2 b hb a List.mem_cons_self
    rcases hfirst b (List.mem_append_left _ hb) hpb with rfl | hab
    · exact hasymm hba hba
    · exact hasymm hba hab

theorem isFirst_congr (h : ∀ a ∈ l, p a ↔ q a) : IsFirst p l a ↔ IsFirst q l a := by
  constructor
  · rintro ⟨front, back, rfl, ha, hfront⟩
    rw [List.forall_mem_append, List.forall_mem_cons] at h
    exact ⟨front, back, rfl, h.2.1.1 ha, fun b hb hq => hfront b hb ((h.1 b hb).2 hq)⟩
  · rintro ⟨front, back, rfl, ha, hfront⟩
    rw [List.forall_mem_append, List.forall_mem_cons] at h
    exact ⟨front, back, rfl, h.2.1.2 ha, fun b hb hp => hfront b hb ((h.1 b hb).1 hp)⟩

/-- The first of those that a filter leaves is the first that passes it too. -/
theorem isFirst_filter_iff {f : α → Bool} :
    IsFirst p (l.filter f) a ↔ IsFirst (fun a => f a = true ∧ p a) l a := by
  classical
  rw [isFirst_iff_find?, isFirst_iff_find?, List.find?_filter]
  simp only [Bool.decide_and, Bool.decide_eq_true]

end Enrolment
