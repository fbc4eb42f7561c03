/-
The rows of a request are what was submitted, put in order.

Every answer that is not hidden has one row, so has every upload, and there are no other
rows.  The rank of a row is told by its key alone.  So the order of the rows is an order of
what was submitted (`InDisplayOrder`): ranks do not decrease, and things of one rank stay
in the order of submission, answers before uploads.  Lists that ascend by rank and have the
same things of every rank are equal, which leaves one such order only.
-/
import Enrolment.Proofs.Submission.Hiding

namespace Enrolment

/-- What a row is made from: an answer under its key, or an upload. -/
inductive Submitted where
  | answer (key : String) (value : Json)
  | upload (file : Upload)

namespace Submitted

/-- The key of an answer, or the name of an upload. -/
def key : Submitted → String
  | answer key _ => key
  | upload file => file.name

/-- The value of an answer, or the address of an upload. -/
def value : Submitted → Json
  | answer _ value => value
  | upload file => .str file.url

/-- The rank that a key has in a form. -/
def rank (fields : List Field) (submitted : Submitted) : Nat :=
  Row.rankOf submitted.key (Match.field? submitted.key fields)

/-- The row of what was submitted. -/
def row (context : Resolve.Context) (fields : List Field) : Submitted → Row
  | answer key value => Row.ofAnswer context fields key value
  | upload file => Row.ofUpload fields file

variable (context : Resolve.Context) (fields : List Field) (submitted : Submitted)

@[simp] theorem rank_row : (submitted.row context fields).rank = submitted.rank fields := by
  cases submitted <;> rfl

@[simp] theorem rawKey_row : (submitted.row context fields).rawKey = submitted.key := by
  cases submitted <;> rfl

@[simp] theorem rawValue_row : (submitted.row context fields).rawValue = submitted.value := by
  cases submitted <;> rfl

/-! ### Lists in the order of a rank -/

section Ranked

variable {α : Type} {rank : α → Nat}

theorem rank_trans (a b c : α) (hab : decide (rank a ≤ rank b) = true)
    (hbc : decide (rank b ≤ rank c) = true) : decide (rank a ≤ rank c) = true :=
  decide_eq_true (Nat.le_trans (of_decide_eq_true hab) (of_decide_eq_true hbc))

theorem rank_total (a b : α) : (decide (rank a ≤ rank b) || decide (rank b ≤ rank a)) = true := by
  rw [Bool.or_eq_true, decide_eq_true_eq, decide_eq_true_eq]
  exact Nat.le_total (rank a) (rank b)

/-- Sorting by rank leaves things of one rank in their order. -/
theorem filter_mergeSort (items : List α) (n : Nat) :
    (items.mergeSort fun a b => rank a ≤ rank b).filter (rank · = n) =
      items.filter (rank · = n) := by
  have hordered : (items.filter (rank · = n)).Pairwise fun a b =>
      decide (rank a ≤ rank b) = true := by
    refine List.pairwise_of_forall_mem_list ?_
    intro a ha b hb
    have harank := of_decide_eq_true (List.mem_filter.1 ha).2
    have hbrank := of_decide_eq_true (List.mem_filter.1 hb).2
    exact decide_eq_true (by omega)
  have hsublist := List.sublist_mergeSort rank_trans rank_total hordered List.filter_sublist
  have hkept := hsublist.filter (rank · = n)
  rw [List.filter_filter] at hkept
  simp only [Bool.and_self] at hkept
  exact (hkept.eq_of_length ((List.mergeSort_perm items _).filter _).length_eq.symm).symm

/-- A list that ascends by rank is told by what it has of every rank. -/
theorem eq_of_filter_eq {items others : List α}
    (hitems : items.Pairwise fun a b => rank a ≤ rank b)
    (hothers : others.Pairwise fun a b => rank a ≤ rank b)
    (h : ∀ n, items.filter (rank · = n) = others.filter (rank · = n)) : items = others := by
  induction items generalizing others with
  | nil =>
      cases others with
      | nil => rfl
      | cons b _ => simpa using h (rank b)
  | cons a items ih =>
      cases others with
      | nil => simpa using h (rank a)
      | cons b others =>
          rw [List.pairwise_cons] at hitems hothers
          -- each of the two heads is in the other list, where no rank is below the head's
          have hmem : ∀ n x, x ∈ (a :: items).filter (rank · = n) ↔
              x ∈ (b :: others).filter (rank · = n) := fun n x => by rw [h n]
          have hba : rank b ≤ rank a := by
            have ha := (hmem (rank a) a).1 (by simp)
            rcases List.mem_cons.1 (List.mem_filter.1 ha).1 with rfl | hlater
            · exact Nat.le_refl _
            · exact hothers.1 a hlater
          have hab : rank a ≤ rank b := by
            have hb := (hmem (rank b) b).2 (by simp)
            rcases List.mem_cons.1 (List.mem_filter.1 hb).1 with rfl | hlater
            · exact Nat.le_refl _
            · exact hitems.1 b hlater
          have hrank : rank b = rank a := Nat.le_antisymm hba hab
          have hheads := h (rank a)
          rw [List.filter_cons_of_pos (by simp), List.filter_cons_of_pos (by simp [hrank])]
            at hheads
          obtain ⟨rfl, -⟩ := List.cons.inj hheads
          refine congrArg (a :: ·) (ih hitems.2 hothers.2 ?_)
          intro n
          have hn := h n
          by_cases han : rank a = n
          · rw [List.filter_cons_of_pos (by simp [han]), List.filter_cons_of_pos (by simp [han])]
              at hn
            exact (List.cons.inj hn).2
          · rw [List.filter_cons_of_neg (by simp [han]), List.filter_cons_of_neg (by simp [han])]
              at hn
            exact hn

end Ranked

/-- What it takes for a list to be in the order of display: it has what was submitted, its ranks
do not decrease, and things of one rank stay as they were submitted. -/
structure InDisplayOrder (fields : List Field) (submitted order : List Submitted) : Prop where
  /-- Nothing is lost, doubled or added. -/
  perm : order.Perm submitted
  ascending : order.Pairwise fun s later => s.rank fields ≤ later.rank fields
  stable : ∀ n, order.filter (·.rank fields = n) = submitted.filter (·.rank fields = n)

theorem inDisplayOrder_mergeSort (fields : List Field) (submitted : List Submitted) :
    InDisplayOrder fields submitted
      (submitted.mergeSort fun s later => s.rank fields ≤ later.rank fields) where
  perm := List.mergeSort_perm _ _
  ascending := (List.pairwise_mergeSort rank_trans rank_total submitted).imp of_decide_eq_true
  stable := filter_mergeSort submitted

/-- There is one order of display. -/
theorem InDisplayOrder.unique {fields : List Field} {submitted order other : List Submitted}
    (h : InDisplayOrder fields submitted order) (hother : InDisplayOrder fields submitted other) :
    other = order :=
  eq_of_filter_eq hother.ascending h.ascending fun n => (hother.stable n).trans (h.stable n).symm

end Submitted

namespace Request

open Submitted (InDisplayOrder)

variable (request : Request) (fields : List Field) (table : Place.Table) (includeSensitive : Bool)

/-- What is displayed of a request, in the order of submission: the answers that are not hidden,
or all of them if hidden ones are asked for, and then the uploads. -/
def displayed : List Submitted :=
  (request.data.filter fun entry => includeSensitive || !decide (IsHidden fields entry.1)).map
      (fun entry => .answer entry.1 entry.2) ++
    request.files.map .upload

theorem shownAnswers_eq : request.shownAnswers fields includeSensitive =
    request.data.filter fun entry => includeSensitive || !decide (IsHidden fields entry.1) := by
  unfold shownAnswers
  refine List.filter_congr ?_
  rintro ⟨key, answer⟩ -
  have hhidden : Row.isSensitive key (Match.field? key fields) =
      decide (IsHidden fields key) := by
    rw [Bool.eq_iff_iff, isSensitive_iff_isHidden, decide_eq_true_eq]
  dsimp only
  rw [hhidden]

theorem submittedRows_eq_map_displayed :
    request.submittedRows fields table includeSensitive =
      (request.displayed fields includeSensitive).map
        (Submitted.row ⟨table, request.data, some fields⟩ fields) := by
  unfold submittedRows displayed
  rw [shownAnswers_eq, List.map_append, List.map_map, List.map_map]
  rfl

/-- **The rows of a request are those of what is displayed of it, each once, in the one order of
display; a row has the key and the value of what it was made from, and its rank.** -/
theorem rows_inDisplayOrder :
    ∃ order, InDisplayOrder fields (request.displayed fields includeSensitive) order ∧
      (∀ other, InDisplayOrder fields (request.displayed fields includeSensitive) other →
        other = order) ∧
      request.rows fields table includeSensitive =
        order.map (Submitted.row ⟨table, request.data, some fields⟩ fields) ∧
      (request.rows fields table includeSensitive).map
          (fun row => (row.rawKey, row.rawValue, row.rank)) =
        order.map fun s => (s.key, s.value, s.rank fields) := by
  have horder := Submitted.inDisplayOrder_mergeSort fields
    (request.displayed fields includeSensitive)
  have hrows : request.rows fields table includeSensitive =
      ((request.displayed fields includeSensitive).mergeSort
        fun s later => s.rank fields ≤ later.rank fields).map
          (Submitted.row ⟨table, request.data, some fields⟩ fields) := by
    rw [List.map_mergeSort (s := fun a b => decide (a.rank ≤ b.rank)), rows,
      submittedRows_eq_map_displayed]
    intro s _ later _
    rw [Submitted.rank_row, Submitted.rank_row]
  refine ⟨_, horder, fun other => horder.unique, hrows, ?_⟩
  rw [hrows, List.map_map]
  refine List.map_congr_left ?_
  intro s _
  simp

end Request

end Enrolment
