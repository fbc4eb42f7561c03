/-
Texts that spell a word but for case and the blanks around them.

Such a text is blanks, the letters of the word, small or capital, and blanks.  Small letters
of ASCII come from single characters only, so letter by letter the small form, the caseless
form and the word are the same.  The forms in which keys are compared drop or cut at blanks,
and all that is left of the text there is the word.
-/
import Enrolment.Customer.Clue
import Enrolment.Proofs.Submission.Key
import Enrolment.Proofs.Text.Words

namespace Enrolment

namespace Text

/-- Whether a character is a small letter of ASCII. -/
def IsSmallLetter (c : Char) : Prop :=
  97 ≤ c.toNat ∧ c.toNat ≤ 122

instance (c : Char) : Decidable (IsSmallLetter c) :=
  inferInstanceAs (Decidable (_ ∧ _))

/-- Whether a text is a word but for case and the blanks around it. -/
def Spells (s word : String) : Prop :=
  lower (trim s) = word

instance (s word : String) : Decidable (Spells s word) :=
  inferInstanceAs (Decidable (lower (trim s) = word))

/-! ### Letter by letter -/

theorem isBlank_of_isSmallLetter {c : Char} (h : IsSmallLetter c) : isBlank c = false := by
  unfold IsSmallLetter at h
  unfold isBlank
  simp only [Bool.or_eq_false_iff, Bool.and_eq_false_iff, decide_eq_false_iff_not,
    beq_eq_false_iff_ne]
  omega

theorem isSignificant_of_isSmallLetter {c : Char} (h : IsSmallLetter c) :
    Key.isSignificant c = true := by
  unfold IsSmallLetter at h
  simp only [Key.isSignificant, toNat_le, Bool.or_eq_true, Bool.and_eq_true, decide_eq_true_eq]
  exact .inl h

/-- A character whose small form is small letters is neither a sigma nor a dotted capital I. -/
theorem lowerAt_of_isSmallLetter {before after : List Char} {c : Char}
    (h : ∀ d ∈ lowerAt before c after, IsSmallLetter d) :
    lowerAt before c after = [lowerChar c] := by
  unfold lowerAt at h ⊢
  by_cases hsigma : c = 'Σ'
  · rw [if_pos hsigma] at h
    split at h
    · exact absurd (h 'ς' (.head _)) (by decide)
    · exact absurd (h 'σ' (.head _)) (by decide)
  · rw [if_neg hsigma] at h ⊢
    by_cases hdotted : c = 'İ'
    · rw [if_pos hdotted] at h
      exact absurd (h '\u0307' (.tail _ (.head _))) (by decide)
    · rw [if_neg hdotted]

/-- So small letters were made character by character. -/
theorem map_lowerChar_of_lowerFrom {before s word : List Char} (h : lowerFrom before s = word)
    (hword : ∀ c ∈ word, IsSmallLetter c) : s.map lowerChar = word := by
  induction s generalizing before word with
  | nil => exact h
  | cons c rest ih =>
      subst h
      rw [lowerFrom] at hword ⊢
      have hsmall := lowerAt_of_isSmallLetter fun d hd => hword d (List.mem_append_left _ hd)
      have hrest := ih rfl fun d hd => hword d (List.mem_append_right _ hd)
      rw [hsmall, List.map_cons, hrest, List.singleton_append]

theorem caseless_of_lowerChar {c : Char} (h : IsSmallLetter (lowerChar c)) :
    caseless c = lowerChar c := by
  unfold IsSmallLetter at h
  unfold caseless
  exact if_pos (by omega)

/-- The blanks outside ASCII have no case variants. -/
theorem lookup_caseVariants_blank : ∀ n ∈ wideBlanks, caseVariants.lookup n = none := by
  decide

theorem caseless_of_isBlank {c : Char} (h : isBlank c = true) : caseless c = c := by
  unfold caseless
  rw [lowerChar_of_isBlank h]
  by_cases hascii : c.toNat < 128
  · exact if_pos hascii
  · have hnone := lookup_caseVariants_blank c.toNat (toNat_mem_wideBlanks h hascii)
    simp only [if_neg hascii, hnone]

/-! ### What is left of a spelt word -/

namespace Spells

variable {s word : String}

/-- A text that spells a word is blanks, its letters, and blanks. -/
theorem anatomy (h : Spells s word) (hword : ∀ c ∈ word.toList, IsSmallLetter c) :
    ∃ before core after, s.toList = before ++ core ++ after ∧
      (∀ c ∈ before, isBlank c = true) ∧ (∀ c ∈ after, isBlank c = true) ∧
      core = (trim s).toList ∧ core.map lowerChar = word.toList := by
  obtain ⟨before, after, hsplit, hbefore, hafter⟩ := strip_between_blanks s.toList
  refine ⟨before, _, after, hsplit, hbefore, hafter, (toList_trim s).symm, ?_⟩
  have hlower : lowerFrom [] (strip s.toList) = word.toList := by
    rw [← h, toList_lower, toList_trim, lowerChars]
  exact map_lowerChar_of_lowerFrom hlower hword

theorem normal (h : Spells s word) (hword : ∀ c ∈ word.toList, IsSmallLetter c) :
    Key.normal s = word.toList := by
  have hlower : lowerChars (trim s).toList = word.toList := by
    rw [← toList_lower, h]
  rw [← Key.normal_trim, Key.normal, hlower, List.filter_eq_self]
  exact fun c hc => isSignificant_of_isSmallLetter (hword c hc)

/-- The letters of the text, case ignored, are those of the word. -/
theorem filter_caseless (h : Spells s word) (hword : ∀ c ∈ word.toList, IsSmallLetter c) :
    (s.toList.map caseless).filter (!isBlank ·) = word.toList := by
  obtain ⟨before, core, after, hsplit, hbefore, hafter, -, hcore⟩ := h.anatomy hword
  have hnone : ∀ blanks : List Char, (∀ c ∈ blanks, isBlank c = true) →
      (blanks.map caseless).filter (!isBlank ·) = [] := by
    intro blanks hblanks
    rw [List.filter_eq_nil_iff, List.forall_mem_map]
    intro c hc
    rw [caseless_of_isBlank (hblanks c hc), hblanks c hc]
    decide
  have hkept : core.map caseless = word.toList := by
    rw [← hcore]
    refine List.map_congr_left ?_
    intro c hc
    refine caseless_of_lowerChar (hword _ ?_)
    rw [← hcore]
    exact List.mem_map_of_mem hc
  rw [hsplit, List.map_append, List.map_append, List.filter_append, List.filter_append,
    hnone before hbefore, hnone after hafter, hkept, List.nil_append, List.append_nil,
    List.filter_eq_self]
  intro c hc
  rw [isBlank_of_isSmallLetter (hword c hc)]
  rfl

theorem fold (h : Spells s word) (hword : ∀ c ∈ word.toList, IsSmallLetter c) (hne : word ≠ "") :
    Clue.fold s = word := by
  obtain ⟨before, core, after, hsplit, hbefore, hafter, htrim, hcore⟩ := h.anatomy hword
  have hsome : core ≠ [] := by
    rintro rfl
    exact hne (String.toList_eq_nil_iff.1 hcore.symm)
  have hnone : ∀ c ∈ core, isBlank c = false := by
    intro c hc
    have hletter : IsSmallLetter (lowerChar c) := by
      refine hword _ ?_
      rw [← hcore]
      exact List.mem_map_of_mem hc
    cases hblank : isBlank c with
    | false => rfl
    | true =>
        rw [lowerChar_of_isBlank hblank, IsSmallLetter] at hletter
        rw [← hblank, isBlank_of_isSmallLetter hletter]
  have hsqueeze : squeeze s = trim s := by
    rw [← String.toList_inj, toList_squeeze, hsplit,
      words_between_blanks hsome hbefore hnone hafter, ← htrim]
    exact List.append_nil core
  rw [Clue.fold, hsqueeze, h]

end Spells

end Text

end Enrolment
