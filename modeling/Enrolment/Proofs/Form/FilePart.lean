/-
The names of the parts in which files are submitted.

The name of a part is a fixed beginning and the percent code of the field's label, or of its
number behind a word if it has none.  The code of a label is no other label's, so whoever gets a
part can tell the label of the field from its name (`filePart_read_back`).  A field without a label
may share its part's name with one that is labelled like its number.
-/
import Enrolment.Form.Control
import Enrolment.Proofs.Text.Percent

namespace Enrolment.Field

open Text.Percent

variable {field : Field}

theorem toList_filePart (field : Field) (index : Int) :
    (field.filePart index).toList = "file__".toList ++ encode (field.labelOr "File" index) := by
  simp only [filePart, String.toList_append, String.toList_ofList]

/-- Parts have one name just if they are named for the same label, or the same number. -/
theorem filePart_eq_iff {other : Field} {index position : Int} :
    field.filePart index = other.filePart position ↔
      field.labelOr "File" index = other.labelOr "File" position := by
  rw [← String.toList_inj, toList_filePart, toList_filePart, List.append_cancel_left_eq, encode_inj]

/-- **The name of a labelled field's part is `file__` and a component that reads back as the label,
and no other component does.  So two labelled fields, wherever they stand, have parts of one name
just if they have one label.** -/
theorem filePart_read_back (h : field.label ≠ "") (index : Int) :
    (∃ written, (field.filePart index).toList = "file__".toList ++ written ∧
      IsComponent written ∧ text? written = some field.label ∧
      ∀ other, IsComponent other → text? other = some field.label → other = written) ∧
    ∀ (other : Field) (position : Int), other.label ≠ "" →
      (field.filePart index = other.filePart position ↔ field.label = other.label) := by
  constructor
  · obtain ⟨hcomponent, hread⟩ := isComponent_and_text?_iff.2 (Eq.refl (encode field.label))
    refine ⟨encode field.label, ?_, hcomponent, hread, ?_⟩
    · rw [toList_filePart, labelOr_of_label h]
    · intro other hother hsame
      exact isComponent_and_text?_iff.1 ⟨hother, hsame⟩
  · intro other position hother
    rw [filePart_eq_iff, labelOr_of_label h, labelOr_of_label hother]

/-- A field for a file whose label has blanks, a percent sign and letters beyond ASCII. -/
def licence : Field :=
  ⟨some 1, .file, "Führerschein (100%) 🚗", "", true, .plain, none, false, [], none⟩

/-- A field whose label is this one with an escape in place of a letter. -/
def licenceLike : Field :=
  ⟨some 2, .file, "F%C3%BChrerschein (100%) 🚗", "", true, .plain, none, false, [], none⟩

/-- The label comes back, and the part is not taken for that of the other field. -/
theorem licence_read_back :
    licence.label ≠ "" ∧ licenceLike.label ≠ "" ∧
      licence.filePart 2 = "file__" ++ "F%C3%BChrerschein%20(100%25)%20%F0%9F%9A%97" ∧
      IsComponent "F%C3%BChrerschein%20(100%25)%20%F0%9F%9A%97".toList ∧
      text? "F%C3%BChrerschein%20(100%25)%20%F0%9F%9A%97".toList = some "Führerschein (100%) 🚗" ∧
      licence.filePart 2 ≠ licenceLike.filePart 2 := by
  have hlabel : licence.label ≠ "" := by decide
  have hother : licenceLike.label ≠ "" := by decide
  have hname : licence.filePart 2 = "file__" ++ "F%C3%BChrerschein%20(100%25)%20%F0%9F%9A%97" := by
    decide +kernel
  obtain ⟨⟨written, hwritten, hcomponent, hread, -⟩, hiff⟩ := filePart_read_back hlabel 2
  have hcode : "F%C3%BChrerschein%20(100%25)%20%F0%9F%9A%97".toList = written := by
    rw [hname, String.toList_append] at hwritten
    exact List.append_cancel_left hwritten
  refine ⟨hlabel, hother, hname, ?_, ?_, ?_⟩
  · rw [hcode]
    exact hcomponent
  · rw [hcode]
    exact hread
  · rw [ne_eq, hiff licenceLike 2 hother]
    decide

end Enrolment.Field
