/-
Members by their keys.

A member that is put replaces the first one of its key, or else comes last.  What stands in
front of it and behind it does not depend on its value, and no other key is affected.  A
member that is null can as well be left out.
-/
import Enrolment.Json.Basic

namespace Enrolment

/-- A value, unless it is null. -/
def Json.known? : Json → Option Json
  | .null => none
  | value => some value

namespace Members

/-! ### Looking up a key -/

theorem get?_nil (key : String) : get? [] key = none :=
  rfl

theorem get?_cons (name : String) (value : Json) (rest : Members) (key : String) :
    get? ((name, value) :: rest) key = if key = name then some value else rest.get? key := by
  unfold get?
  rw [List.lookup_cons]
  by_cases h : key = name
  · rw [if_pos h, beq_iff_eq.2 h]
  · rw [if_neg h, beq_false_of_ne h]

theorem get?_eq_none_of_not_mem {members : Members} {key : String}
    (h : key ∉ members.map (·.1)) : members.get? key = none := by
  induction members with
  | nil => rfl
  | cons entry rest ih =>
      rw [List.map_cons, List.mem_cons, not_or] at h
      rw [get?_cons, if_neg h.1, ih h.2]

/-- Among members that are made from a list under different keys, each is found by its own. -/
theorem get?_map {α : Type} {keyOf : α → String} {value : α → Json} {l : List α}
    (h : (l.map keyOf).Nodup) {a : α} (ha : a ∈ l) :
    get? (l.map fun a => (keyOf a, value a)) (keyOf a) = some (value a) := by
  induction l with
  | nil => cases ha
  | cons first rest ih =>
      rw [List.map_cons, List.nodup_cons] at h
      rw [List.map_cons, get?_cons]
      rcases List.mem_cons.1 ha with rfl | hlater
      · rw [if_pos rfl]
      · have hother : keyOf a ≠ keyOf first := by
          intro heq
          exact h.1 (heq ▸ List.mem_map_of_mem hlater)
        rw [if_neg hother, ih h.2 hlater]

/-! ### Putting a member in its place -/

/-- The members in front of the first one of a key. -/
def before (members : Members) (key : String) : Members :=
  members.takeWhile (·.1 ≠ key)

/-- The members behind the first one of a key. -/
def after (members : Members) (key : String) : Members :=
  (members.dropWhile (·.1 ≠ key)).drop 1

theorem put_eq (members : Members) (key : String) (value : Json) :
    members.put key value = members.before key ++ (key, value) :: members.after key := by
  induction members with
  | nil => rfl
  | cons entry rest ih =>
      obtain ⟨other, old⟩ := entry
      unfold before after
      by_cases h : other = key
      · subst h
        simp [put]
      · rw [put, if_neg h, ih, List.takeWhile_cons_of_pos (by simpa using h),
          List.dropWhile_cons_of_pos (by simpa using h), List.cons_append]
        rfl

theorem get?_put_self (members : Members) (key : String) (value : Json) :
    (members.put key value).get? key = some value := by
  induction members with
  | nil => rw [put, get?_cons, if_pos rfl]
  | cons entry rest ih =>
      obtain ⟨other, old⟩ := entry
      rw [put]
      split
      · rename_i h
        rw [get?_cons, if_pos h.symm]
      · rename_i h
        rw [get?_cons, if_neg (Ne.symm h), ih]

theorem get?_put_of_ne (members : Members) {key other : String} (h : other ≠ key) (value : Json) :
    (members.put key value).get? other = members.get? other := by
  induction members with
  | nil => rw [put, get?_cons, if_neg h]
  | cons entry rest ih =>
      obtain ⟨found, old⟩ := entry
      rw [put]
      split
      · rename_i heq
        subst heq
        rw [get?_cons, get?_cons, if_neg h, if_neg h]
      · rw [get?_cons, get?_cons, ih]

/-! ### Leaving out what is null -/

/-- A member that is null is left out, and then there is none. -/
theorem get?_present {members : Members} (h : (members.map (·.1)).Nodup) (key : String) :
    get? (Json.present members) key = (members.get? key).bind Json.known? := by
  induction members with
  | nil => rfl
  | cons entry rest ih =>
      obtain ⟨name, value⟩ := entry
      rw [List.map_cons, List.nodup_cons] at h
      have hrest := ih h.2
      rw [get?_cons]
      cases value with
      | null =>
          change get? (Json.present rest) key = _
          rw [hrest]
          split
          · rename_i hkey
            rw [hkey, get?_eq_none_of_not_mem h.1]
            rfl
          · rfl
      | bool _ | int _ | num _ | str _ | arr _ | obj _ =>
          change get? ((name, _) :: Json.present rest) key = _
          rw [get?_cons, hrest]
          split <;> rfl

end Members

end Enrolment
