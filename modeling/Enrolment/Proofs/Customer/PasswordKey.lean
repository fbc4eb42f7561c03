/-
A key for a password asks for nothing else.

Such a key is `password` or `pwd` but for case and the blanks around it.  Every detail of a
customer is found by exact keys and by phrases, or by parts of a key's normal form, and none
of them stands in these words.  The words are finitely many and so are the details, so the
words are checked against all details at once, and the keys are reduced to the words.
-/
import Enrolment.Customer.Draft
import Enrolment.Proofs.Text.Spelling

namespace Enrolment

open Text (Spells IsSmallLetter)

/-! ### Words that a clue does not point to -/

/-- Whether a phrase begins with a word that does not stand in a given one. -/
def Phrase.isForeignTo (word : String) : Phrase → Bool
  | [] => false
  | first :: _ =>
    let first := first.toList.map Text.caseless
    first.all (!Text.isBlank ·) && !Match.isWithin first word.toList

/-- The characters of a folded key. -/
def Clue.foldChars (s : List Char) : List Char :=
  Text.lowerChars ([' '].intercalate (Text.words s))

theorem Clue.toList_fold (key : String) : (fold key).toList = foldChars key.toList := by
  rw [fold, Text.toList_lower, Text.toList_squeeze, foldChars]

/-- Whether no exact key of a clue is a given word, and none of its phrases stands in it. -/
def Clue.isForeignTo (word : String) (clue : Clue) : Bool :=
  clue.exact.all (fun name => foldChars name.toList ≠ word.toList) &&
    clue.phrases.all (Phrase.isForeignTo word)

section Foreign

variable {key word : String} (hkey : Spells key word) (hword : ∀ c ∈ word.toList, IsSmallLetter c)
include hkey hword

/-- The blanks of a key do not help: a phrase in it has its first word in the word it spells. -/
theorem Phrase.isIn_eq_false {phrase : Phrase} (h : phrase.isForeignTo word = true) :
    phrase.isIn key = false := by
  cases phrase with
  | nil => cases h
  | cons first rest =>
      rw [Phrase.isForeignTo, Bool.and_eq_true, Bool.not_eq_true', List.all_eq_true] at h
      obtain ⟨hblank, hwithin⟩ := h
      cases hin : Phrase.isIn (first :: rest) key with
      | false => rfl
      | true =>
          obtain ⟨tail, htail, hstarts⟩ := Text.anyTail_iff.1 hin
          rw [List.map_cons, Phrase.startsWith, Bool.and_eq_true] at hstarts
          have hinfix : first.toList.map Text.caseless <:+: key.toList.map Text.caseless :=
            (List.isPrefixOf_iff_prefix.1 hstarts.1).isInfix.trans htail.isInfix
          have hkept := hinfix.filter (!Text.isBlank ·)
          rw [hkey.filter_caseless hword, List.filter_eq_self.2 hblank, ← Match.isWithin_iff,
            hwithin] at hkept
          cases hkept

theorem Phrase.anyIn_eq_false {phrases : List Phrase}
    (h : phrases.all (Phrase.isForeignTo word) = true) : Phrase.anyIn phrases key = false := by
  rw [Phrase.anyIn, List.any_eq_false]
  intro phrase hmem
  rw [Phrase.isIn_eq_false hkey hword (List.all_eq_true.1 h phrase hmem)]
  decide

end Foreign

/-! ### Keys for a password -/

/-- Whether a key is one for a password. -/
def IsPasswordKey (key : String) : Prop :=
  Spells key "password" ∨ Spells key "pwd"

instance (key : String) : Decidable (IsPasswordKey key) :=
  inferInstanceAs (Decidable (_ ∨ _))

namespace IsPasswordKey

variable {key : String}

/-- The clues to all other details. -/
def otherClues : List Clue :=
  [Clue.addressLine1, Clue.addressLine2, Clue.city, Clue.state, Clue.postalCode, Clue.country,
    Clue.addressFirstName, Clue.addressLastName, Clue.phone, Clue.company]

theorem isForeignTo_otherClues : ∀ word ∈ Clue.password.exact, ∀ clue ∈ otherClues,
    clue.isForeignTo word = true := by
  decide +kernel

theorem isForeignTo_documentPhrases : ∀ word ∈ Clue.password.exact,
    Clue.documentPhrases.all (Phrase.isForeignTo word) = true := by
  decide +kernel

theorem isSmallLetter_exact : ∀ word ∈ Clue.password.exact, ∀ c ∈ word.toList,
    IsSmallLetter c := by
  have hall : (Clue.password.exact.all fun word =>
      word.toList.all fun c => decide (IsSmallLetter c)) = true := by decide
  simpa only [List.all_eq_true, decide_eq_true_eq] using hall

theorem spells (h : IsPasswordKey key) : ∃ word ∈ Clue.password.exact, Spells key word := by
  rcases h with h | h
  · exact ⟨"password", .head _, h⟩
  · exact ⟨"pwd", .tail _ (.head _), h⟩

theorem fold_mem (h : IsPasswordKey key) : Clue.fold key ∈ Clue.password.exact := by
  obtain ⟨word, hmem, hspells⟩ := h.spells
  have hne : word ≠ "" := by
    rintro rfl
    revert hmem
    decide
  rw [hspells.fold (isSmallLetter_exact word hmem) hne]
  exact hmem

theorem normal_eq (h : IsPasswordKey key) :
    Key.normal key = "password".toList ∨ Key.normal key = "pwd".toList := by
  rcases h with h | h
  · exact .inl (h.normal (isSmallLetter_exact _ (.head _)))
  · exact .inr (h.normal (isSmallLetter_exact _ (.tail _ (.head _))))

theorem anyIn_documentPhrases (h : IsPasswordKey key) :
    Phrase.anyIn Clue.documentPhrases key = false := by
  obtain ⟨word, hmem, hspells⟩ := h.spells
  exact Phrase.anyIn_eq_false hspells (isSmallLetter_exact word hmem)
    (isForeignTo_documentPhrases word hmem)

theorem anyIn_phrases (h : IsPasswordKey key) {clue : Clue} (hclue : clue ∈ otherClues) :
    Phrase.anyIn clue.phrases key = false := by
  obtain ⟨word, hmem, hspells⟩ := h.spells
  have hforeign := isForeignTo_otherClues word hmem clue hclue
  rw [Clue.isForeignTo, Bool.and_eq_true] at hforeign
  exact Phrase.anyIn_eq_false hspells (isSmallLetter_exact word hmem) hforeign.2

theorem fold_ne_exact (h : IsPasswordKey key) {clue : Clue} (hclue : clue ∈ otherClues) :
    ∀ name ∈ clue.exact, Clue.fold key ≠ Clue.fold name := by
  intro name hname heq
  have hforeign := isForeignTo_otherClues _ h.fold_mem clue hclue
  rw [Clue.isForeignTo, Bool.and_eq_true, List.all_eq_true] at hforeign
  have hne := of_decide_eq_true (hforeign.1 name hname)
  rw [← Clue.toList_fold, ← heq] at hne
  exact hne rfl

/-! ### Names and email addresses -/

open Customer

/-- A key for a password is none for a name or an email address. -/
theorem asks_for_no_name (h : IsPasswordKey key) :
    isFirstNameKey key = false ∧ isLastNameKey key = false ∧ suggestsName key = false ∧
      suggestsEmail key = false := by
  have hcontains : ∀ {word : List Char}, Key.normal key = word →
      normalContains key = fun part => Text.anyTail part.toList.isPrefixOf word := by
    rintro word rfl
    rfl
  unfold isFirstNameKey isLastNameKey suggestsName suggestsEmail normalIsOneOf
  rcases h.normal_eq with hnormal | hnormal
  · rw [hcontains hnormal, hnormal]
    decide
  · rw [hcontains hnormal, hnormal]
    decide

/-- Nor is it one of the keys that name them exactly. -/
theorem normal_ne (h : IsPasswordKey key) :
    (∀ name ∈ fullNameKeys, Key.normal key ≠ name.toList) ∧
      ∀ name ∈ emailKeys, Key.normal key ≠ name.toList := by
  rcases h.normal_eq with hnormal | hnormal
  · rw [hnormal]
    decide
  · rw [hnormal]
    decide

end IsPasswordKey

end Enrolment
