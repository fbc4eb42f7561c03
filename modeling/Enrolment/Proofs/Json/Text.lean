/-
What the text of a value is made of.

Nothing but null and the empty string leaves an empty text.  Numbers and truth values are
written in letters, digits and marks, without an at sign.  Lists and objects are written
between brackets, with a blank after each comma and colon; so a blank stands in the text of
every list of several items and of every object that has members.
-/
import Enrolment.Proofs.Number.Layout
import Enrolment.Proofs.Text.Padding
import Enrolment.Json.Text

namespace Enrolment

/-! ### Numbers -/

theorem Numeral.ofInt_ne_nil (n : Int) : ofInt n ≠ [] := by
  obtain ⟨c, rest, hcons, -⟩ := Json.ofInt_eq_cons n
  rw [hcons]
  exact List.cons_ne_nil c rest

theorem Decimal.layout_ne_nil (d : Decimal) : d.layout ≠ [] := by
  unfold layout
  dsimp only
  split
  · split <;> simp
  · simp

theorem Binary64.text_ne_empty (x : Binary64) : x.text ≠ "" := by
  rw [ne_eq, ← String.toList_eq_nil_iff]
  cases x with
  | nan => decide
  | infinite negative => cases negative <;> decide
  | finite negative m e =>
      have hbody : (if m = 0 then ['0', '.', '0'] else (shortest m e).normal.layout) ≠ [] := by
        split
        · simp
        · exact Decimal.layout_ne_nil _
      rw [text, String.toList_ofList]
      cases negative with
      | true => exact List.cons_ne_nil _ _
      | false => exact hbody

namespace Json

theorem plain_num (x : Binary64) : plain (num x) =
    if x.isWhole then String.ofList (Numeral.ofInt (x.truncate?.getD 0)) else x.text :=
  rfl

theorem plain_num_ne_empty (x : Binary64) : plain (num x) ≠ "" := by
  rw [plain_num]
  split
  · simp [Numeral.ofInt_ne_nil]
  · exact x.text_ne_empty

/-- A number that is not finite is written as a word, and all others in digits and marks. -/
theorem plain_num_cases (x : Binary64) :
    plain (num x) ∈ ["nan", "inf", "-inf"] ∨
      ∀ c ∈ (plain (num x)).toList, Numeral.isWritten c = true := by
  cases x with
  | nan => exact .inl (by decide)
  | infinite negative => cases negative <;> exact .inl (by decide)
  | finite negative m e =>
      right
      rw [plain_num]
      split
      · intro c hc
        rw [String.toList_ofList] at hc
        exact Numeral.isWritten_of_mem_ofInt hc
      · exact Binary64.isWritten_of_mem_text

/-! ### Lists and objects -/

theorem toList_text_arr (items : List Json) :
    (text (arr items)).toList =
      '[' :: (", ".intercalate (quotedItems items)).toList ++ [']'] := by
  rw [text, quoted, String.toList_append, String.toList_append]
  · rfl
  · exact nofun

theorem toList_text_obj (members : Members) :
    (text (obj members)).toList =
      '\x7b' :: (", ".intercalate (quotedMembers members)).toList ++ ['\x7d'] := by
  rw [text, quoted, String.toList_append, String.toList_append]
  · rfl
  · exact nofun

theorem isFirm_text_arr (items : List Json) : Text.IsFirm (text (arr items)).toList := by
  rw [toList_text_arr]
  exact ⟨⟨'[', _, rfl, by decide⟩, ⟨_, ']', rfl, by decide⟩⟩

theorem isFirm_text_obj (members : Members) : Text.IsFirm (text (obj members)).toList := by
  rw [toList_text_obj]
  exact ⟨⟨'\x7b', _, rfl, by decide⟩, ⟨_, '\x7d', rfl, by decide⟩⟩

/-- A blank stands behind each comma of a list. -/
theorem blank_mem_text_arr (first second : Json) (rest : List Json) :
    ' ' ∈ (text (arr (first :: second :: rest))).toList := by
  rw [toList_text_arr, quotedItems, quotedItems, String.intercalate_cons_cons]
  simp

/-- A blank stands behind each colon of an object. -/
theorem blank_mem_text_obj (member : String × Json) (rest : Members) :
    ' ' ∈ (text (obj (member :: rest))).toList := by
  rw [toList_text_obj, quotedMembers]
  cases quotedMembers rest with
  | nil =>
      rw [String.intercalate_singleton]
      simp
  | cons next others =>
      rw [String.intercalate_cons_cons]
      simp

/-! ### Empty texts -/

theorem text_ne_empty_of_isFirm {value : Json} (h : Text.IsFirm (text value).toList) :
    text value ≠ "" := by
  obtain ⟨c, rest, hcons, -⟩ := h.begins
  intro hempty
  rw [hempty, String.toList_empty] at hcons
  cases hcons

/-- **Only null and the empty string are displayed as nothing.** -/
theorem display_eq_empty_iff {value : Json} :
    display value = "" ↔ value = null ∨ value = str "" := by
  cases value with
  | null => exact iff_of_true rfl (.inl rfl)
  | bool value => cases value <;> simp [display, caption?]
  | int n =>
      have htext : display (int n) = String.ofList (Numeral.ofInt n) := rfl
      simp [htext, Numeral.ofInt_ne_nil]
  | num x =>
      have htext : display (num x) ≠ "" := plain_num_ne_empty x
      simp [htext]
  | str s =>
      have htext : display (str s) = s := rfl
      simp [htext]
  | arr items =>
      have htext : display (arr items) ≠ "" := text_ne_empty_of_isFirm (isFirm_text_arr items)
      simp [htext]
  | obj members =>
      have htext : display (obj members) ≠ "" := text_ne_empty_of_isFirm (isFirm_text_obj members)
      simp [htext]

end Json

end Enrolment
