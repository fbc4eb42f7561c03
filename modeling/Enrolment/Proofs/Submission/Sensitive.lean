/-
Keeping passwords from display changes nothing else.

Sensitive answers are left out first, and what remains is put in order.  It could as well be
the other way round: the order of display with some things left out is the order of display
of the rest, and there is only one.  The rows themselves are made from all answers of the
request, so it does not matter to them either what is displayed beside them.
-/
import Enrolment.Proofs.Submission.Display

namespace Enrolment

namespace Submitted

/-- Whether something submitted is sensitive: an answer whose key speaks of a password, or belongs
to a password field.  Uploads never are. -/
def IsSensitive (fields : List Field) : Submitted → Prop
  | answer key _ => Text.mentions key "password" = true ∨
      ∃ p, Match.field? key fields = some p ∧ p.field.role = some .password
  | upload _ => False

theorem isSensitive_answer_iff {fields : List Field} {key : String} {value : Json} :
    (answer key value).IsSensitive fields ↔ IsHidden fields key := by
  rw [← isSensitive_iff_isHidden, IsSensitive, Row.isSensitive, Row.hasRole, Bool.or_eq_true,
    Option.any_eq_true]
  simp only [decide_eq_true_eq]

instance (fields : List Field) : (submitted : Submitted) → Decidable (submitted.IsSensitive fields)
  | answer _ _ => decidable_of_iff _ isSensitive_answer_iff.symm
  | upload _ => inferInstanceAs (Decidable False)

/-- What is left out of an order of display does not disturb the rest. -/
theorem InDisplayOrder.filter {fields : List Field} {submitted order : List Submitted}
    (h : InDisplayOrder fields submitted order) (keep : Submitted → Bool) :
    InDisplayOrder fields (submitted.filter keep) (order.filter keep) where
  perm := h.perm.filter keep
  ascending := h.ascending.filter keep
  stable n := by
    rw [List.filter_comm, h.stable n, List.filter_comm]

end Submitted

namespace Request

open Submitted (InDisplayOrder)

variable (request : Request) (fields : List Field) (table : Place.Table)

/-- All that was submitted: the answers in their order, and then the uploads. -/
def submitted : List Submitted :=
  request.data.map (fun entry => .answer entry.1 entry.2) ++ request.files.map .upload

theorem displayed_true : request.displayed fields true = request.submitted := by
  unfold displayed submitted
  simp only [Bool.true_or, List.filter_true]

theorem displayed_false : request.displayed fields false =
    request.submitted.filter fun s => ¬s.IsSensitive fields := by
  have hanswers : (fun s : Submitted => decide (¬s.IsSensitive fields)) ∘
      (fun entry : String × Json => .answer entry.1 entry.2) =
        fun entry => false || !decide (IsHidden fields entry.1) := by
    funext entry
    simp [Submitted.isSensitive_answer_iff]
  have huploads : ∀ s ∈ request.files.map Submitted.upload,
      decide (¬s.IsSensitive fields) = true := by
    intro s hs
    obtain ⟨file, -, rfl⟩ := List.mem_map.1 hs
    exact decide_eq_true not_false
  unfold displayed submitted
  rw [List.filter_append, List.filter_map, hanswers, List.filter_eq_self.2 huploads]

/-- The rows of a request are those of what is displayed of it, in the order of display. -/
theorem rows_eq_map {fields : List Field} {includeSensitive : Bool} {order : List Submitted}
    (h : InDisplayOrder fields (request.displayed fields includeSensitive) order) :
    request.rows fields table includeSensitive =
      order.map (Submitted.row ⟨table, request.data, some fields⟩ fields) := by
  have hsorted := h.unique (Submitted.inDisplayOrder_mergeSort fields _)
  rw [← hsorted, List.map_mergeSort (s := fun a b => decide (a.rank ≤ b.rank)), rows,
    submittedRows_eq_map_displayed]
  intro s _ later _
  rw [Submitted.rank_row, Submitted.rank_row]

/-- **The rows without sensitive answers are the rows with them, but for those of the sensitive
answers; all others are the same and stay in their order.** -/
theorem rows_false_eq_rows_true_without :
    ∃ order, InDisplayOrder fields request.submitted order ∧
      request.rows fields table true =
        order.map (Submitted.row ⟨table, request.data, some fields⟩ fields) ∧
      request.rows fields table false =
        (order.filter fun s => ¬s.IsSensitive fields).map
          (Submitted.row ⟨table, request.data, some fields⟩ fields) := by
  have hall := Submitted.inDisplayOrder_mergeSort fields request.submitted
  have hrest := hall.filter fun s => ¬s.IsSensitive fields
  rw [← displayed_false] at hrest
  refine ⟨_, hall, ?_, request.rows_eq_map table hrest⟩
  rw [← request.displayed_true fields] at hall
  rw [request.rows_eq_map table hall, displayed_true]

end Request

end Enrolment
