/-
What the capitals of ASCII do not change.

A capital and its small letter are told apart by no class of characters and by no small or
caseless form, so nothing that is put together from these tells two texts apart that differ
in such letters only.  The small form of a text is the delicate one, since it looks at what
stands around a sigma; but a capital has a case just as its small letter has, and neither is
passed over.  Every form of a text is shown to be that of `smallAscii`, the text with small
letters for its capitals, which is the same for both.
-/
import Enrolment.Customer.Clue
import Enrolment.Proofs.Submission.Key
import Enrolment.Proofs.Text.Words

namespace Enrolment

namespace Text

/-- Whether a character is a capital of ASCII. -/
def IsCapital (c : Char) : Prop :=
  'A' ≤ c ∧ c ≤ 'Z'

instance (c : Char) : Decidable (IsCapital c) :=
  inferInstanceAs (Decidable (_ ∧ _))

/-- A text with small letters for the capitals of ASCII. -/
def smallAscii (s : String) : String :=
  String.ofList (s.toList.map asciiLower)

@[simp] theorem toList_smallAscii (s : String) :
    (smallAscii s).toList = s.toList.map asciiLower := by
  simp [smallAscii]

theorem length_smallAscii (s : String) : (smallAscii s).length = s.length := by
  rw [← String.length_toList, toList_smallAscii, List.length_map, String.length_toList]

/-! ### One character -/

/-- What is the same for each capital and its small letter is the same for all characters and
their small letters. -/
theorem comp_asciiLower {α : Type} {f : Char → α}
    (h : ∀ n < 26, f (Char.ofNat (65 + n + 32)) = f (Char.ofNat (65 + n))) (c : Char) :
    f (asciiLower c) = f c := by
  unfold asciiLower
  split
  · rename_i hcapital
    simp only [Bool.and_eq_true, decide_eq_true_eq, toNat_le] at hcapital
    have hbounds : 65 ≤ c.toNat ∧ c.toNat ≤ 90 := hcapital
    have hn := h (c.toNat - 65) (by omega)
    rwa [Nat.add_sub_cancel' hbounds.1, Char.ofNat_toNat] at hn
  · rfl

theorem isBlank_asciiLower (c : Char) : isBlank (asciiLower c) = isBlank c :=
  comp_asciiLower (by decide) c

theorem isCased_asciiLower (c : Char) : isCased (asciiLower c) = isCased c :=
  comp_asciiLower (by decide) c

/-- No letter of ASCII lies in one of the ranges of what is passed over. -/
theorem caseIgnorableRanges_beside_letters : ∀ range ∈ caseIgnorableRanges,
    range.2 < 65 ∨ 90 < range.1 ∧ range.2 < 97 ∨ 122 < range.1 := by
  decide +kernel

theorem not_inRanges_caseIgnorable {n : Nat} (h : 65 ≤ n ∧ n ≤ 90 ∨ 97 ≤ n ∧ n ≤ 122) :
    inRanges caseIgnorableRanges n = false := by
  unfold inRanges
  rw [List.any_eq_false]
  intro range hrange hwithin
  have hbeside := caseIgnorableRanges_beside_letters range hrange
  simp only [Bool.and_eq_true, decide_eq_true_eq] at hwithin
  omega

theorem isCaseIgnorable_asciiLower (c : Char) :
    isCaseIgnorable (asciiLower c) = isCaseIgnorable c := by
  have hcodes : ∀ n < 26, (Char.ofNat (65 + n)).toNat = 65 + n ∧
      (Char.ofNat (65 + n + 32)).toNat = 65 + n + 32 := by decide
  refine comp_asciiLower ?_ c
  intro n hn
  obtain ⟨hcapital, hsmall⟩ := hcodes n hn
  unfold isCaseIgnorable
  rw [hcapital, hsmall, not_inRanges_caseIgnorable (by omega),
    not_inRanges_caseIgnorable (by omega)]

theorem lowerChar_asciiLower (c : Char) : lowerChar (asciiLower c) = lowerChar c :=
  comp_asciiLower (by decide) c

theorem caseless_asciiLower (c : Char) : caseless (asciiLower c) = caseless c := by
  unfold caseless
  rw [lowerChar_asciiLower]

/-- No letter of ASCII is one of the two whose small form is special. -/
theorem isSpecial_asciiLower (c : Char) :
    (decide (asciiLower c = 'Σ'), decide (asciiLower c = 'İ')) =
      (decide (c = 'Σ'), decide (c = 'İ')) :=
  comp_asciiLower (f := fun c => (decide (c = 'Σ'), decide (c = 'İ'))) (by decide) c

/-! ### The small form -/

theorem meetsCased_map (s : List Char) : meetsCased (s.map asciiLower) = meetsCased s := by
  have hpassed : isCaseIgnorable ∘ asciiLower = isCaseIgnorable := funext isCaseIgnorable_asciiLower
  unfold meetsCased
  rw [List.dropWhile_map, hpassed]
  cases s.dropWhile isCaseIgnorable with
  | nil => rfl
  | cons c rest => exact isCased_asciiLower c

theorem lowerAt_map (before : List Char) (c : Char) (after : List Char) :
    lowerAt (before.map asciiLower) (asciiLower c) (after.map asciiLower) =
      lowerAt before c after := by
  obtain ⟨hsigma, hdotted⟩ := Prod.mk.inj (isSpecial_asciiLower c)
  unfold lowerAt
  simp only [decide_eq_decide.1 hsigma, decide_eq_decide.1 hdotted, meetsCased_map,
    lowerChar_asciiLower]

theorem lowerFrom_map (before s : List Char) :
    lowerFrom (before.map asciiLower) (s.map asciiLower) = lowerFrom before s := by
  induction s generalizing before with
  | nil => rfl
  | cons c rest ih =>
      have hrest := ih (c :: before)
      rw [List.map_cons] at hrest
      rw [List.map_cons, lowerFrom, lowerFrom, lowerAt_map, hrest]

theorem lowerChars_map (s : List Char) : lowerChars (s.map asciiLower) = lowerChars s :=
  lowerFrom_map [] s

/-! ### Words -/

theorem words_map (s : List Char) :
    words (s.map asciiLower) = (words s).map (·.map asciiLower) := by
  have hnonempty : (fun word : List Char => decide (word ≠ [])) ∘ (·.map asciiLower) =
      fun word => decide (word ≠ []) := by
    funext word
    cases word <;> rfl
  unfold words
  rw [cut_map isBlank_asciiLower, List.filter_map, hnonempty]

theorem map_intercalate {α β : Type} (f : α → β) (separator : List α) (pieces : List (List α)) :
    (separator.intercalate pieces).map f =
      (separator.map f).intercalate (pieces.map (·.map f)) := by
  induction pieces with
  | nil => rfl
  | cons piece others ih =>
      cases others with
      | nil => simp
      | cons next rest =>
          rw [List.intercalate_cons_cons, List.map_append, List.map_append, ih]
          simp only [List.map_cons, List.intercalate_cons_cons]

end Text

/-! ### The forms in which keys are compared -/

open Text

variable (key : String)

theorem Key.normal_smallAscii : Key.normal (smallAscii key) = Key.normal key := by
  unfold Key.normal
  rw [toList_smallAscii, lowerChars_map]

theorem Clue.fold_smallAscii : Clue.fold (smallAscii key) = Clue.fold key := by
  have hspace : [' '].map asciiLower = [' '] := rfl
  unfold Clue.fold
  rw [← String.toList_inj, toList_lower, toList_lower, toList_squeeze, toList_squeeze,
    toList_smallAscii, words_map, ← hspace, ← map_intercalate, lowerChars_map, hspace]

theorem caseless_smallAscii :
    (smallAscii key).toList.map caseless = key.toList.map caseless := by
  rw [toList_smallAscii, List.map_map]
  exact congrArg (key.toList.map ·) (funext caseless_asciiLower)

theorem Phrase.anyIn_smallAscii (phrases : List Phrase) :
    Phrase.anyIn phrases (smallAscii key) = Phrase.anyIn phrases key := by
  unfold Phrase.anyIn Phrase.isIn
  rw [caseless_smallAscii]

theorem Text.mentions_smallAscii (word : String) :
    mentions (smallAscii key) word = mentions key word := by
  unfold mentions occurs
  rw [caseless_smallAscii]

end Enrolment
