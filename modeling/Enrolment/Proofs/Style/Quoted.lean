/-
Reading the URL of a style back.

In a style a text stands between double quotes, and is read up to the first of them that has no
backslash in front of it; a backslash makes the next character count as it is.  Only a line break
cannot stand between the quotes: the text is bad from there on, and what follows is read like
any other part of the style.

A URL is written with backslashes in front of its quotes and backslashes, and line breaks are
written as they are.  So it reads back, and its declaration goes on behind it, just if it has no
line break (`url_read_back_iff`).
-/
import Enrolment.Proofs.Search.First
import Enrolment.Proofs.Style.Frame

namespace Enrolment.Style

/-- Whether a character ends a line in a style. -/
def isLineBreak (c : Char) : Bool :=
  c = '\n' || c = '\r' || c = '\x0c'

/-- What comes of reading a text in double quotes: the text and what follows its closing quote; or
a bad text, with what is left from the line break on; or a text without an end. -/
inductive Quoted where
  | closed (said rest : List Char)
  | bad (rest : List Char)
  | endless

/-- A text in quotes with one more character in front. -/
def Quoted.cons (c : Char) : Quoted → Quoted
  | closed said rest => closed (c :: said) rest
  | bad rest => bad rest
  | endless => endless

/-- Reads a text in double quotes from behind its opening quote on. -/
def readQuoted : List Char → Quoted
  | [] => .endless
  | '"' :: rest => .closed [] rest
  | '\\' :: c :: rest => (readQuoted rest).cons c
  | c :: rest => if isLineBreak c then .bad (c :: rest) else (readQuoted rest).cons c

/-- Reads a URL in double quotes: what it says, and what follows its closing bracket. -/
def readUrl? : List Char → Option (List Char × List Char)
  | 'u' :: 'r' :: 'l' :: '(' :: '"' :: rest =>
    match readQuoted rest with
    | .closed said (')' :: behind) => some (said, behind)
    | _ => none
  | _ => none

/-! ### Between the quotes -/

/-- A character that neither ends a text nor escapes nor breaks the line stands for itself. -/
theorem readQuoted_cons {c : Char} (hquote : c ≠ '"') (hescape : c ≠ '\\')
    (hbreak : isLineBreak c = false) (rest : List Char) :
    readQuoted (c :: rest) = (readQuoted rest).cons c := by
  rw [readQuoted]
  · rw [hbreak, if_neg Bool.false_ne_true]
  · intro hc
    exact absurd hc hquote
  · intro _ _ hc
    exact absurd hc hescape

theorem readQuoted_of_isLineBreak {c : Char} (h : isLineBreak c = true) (rest : List Char) :
    readQuoted (c :: rest) = .bad (c :: rest) := by
  rw [readQuoted]
  · rw [if_pos h]
  · rintro rfl
    exact absurd h (by decide)
  · rintro _ _ rfl
    exact absurd h (by decide)

/-- What a text of a URL without line breaks is read as. -/
theorem readQuoted_quoteUrl {s : List Char} (h : ∀ c ∈ s, isLineBreak c = false)
    (rest : List Char) :
    readQuoted (quoteUrl s ++ rest) = s.foldr Quoted.cons (readQuoted rest) := by
  induction s with
  | nil => rfl
  | cons c more ih =>
      rw [List.forall_mem_cons] at h
      have hmore := ih h.2
      unfold quoteUrl at hmore ⊢
      rw [List.flatMap_cons, List.append_assoc, List.foldr_cons, ← hmore]
      by_cases hescaped : (c = '"' || c = '\\') = true
      · rw [if_pos hescaped]
        rfl
      · rw [if_neg hescaped]
        simp only [Bool.or_eq_true, decide_eq_true_eq, not_or] at hescaped
        exact readQuoted_cons hescaped.1 hescaped.2 h.1 _

theorem foldr_cons_closed (s said rest : List Char) :
    s.foldr Quoted.cons (.closed said rest) = .closed (s ++ said) rest := by
  induction s with
  | nil => rfl
  | cons c more ih => rw [List.foldr_cons, ih, Quoted.cons, List.cons_append]

theorem foldr_cons_bad (s rest : List Char) : s.foldr Quoted.cons (.bad rest) = .bad rest := by
  induction s with
  | nil => rfl
  | cons c more ih => rw [List.foldr_cons, ih, Quoted.cons]

/-- A line break is written as it is. -/
theorem quoteUrl_break {front back : List Char} {mark : Char} (h : isLineBreak mark = true) :
    quoteUrl (front ++ mark :: back) = quoteUrl front ++ mark :: quoteUrl back := by
  have hplain : ¬(mark = '"' || mark = '\\') = true := by
    intro hescaped
    rcases (by simpa using hescaped : mark = '"' ∨ mark = '\\') with rfl | rfl
    · exact absurd h (by decide)
    · exact absurd h (by decide)
  unfold quoteUrl
  rw [List.flatMap_append, List.flatMap_cons, if_neg hplain, List.singleton_append]

/-! ### URLs -/

theorem toList_url (address : String) :
    (url address).toList = "url(\"".toList ++ quoteUrl address.toList ++ "\")".toList := by
  simp only [url, String.toList_append, String.toList_ofList]

/-- What a URL is read as depends on what its text is read as. -/
theorem readUrl?_url (address : String) (rest : List Char) :
    readUrl? ((url address).toList ++ rest) =
      match readQuoted (quoteUrl address.toList ++ '"' :: ')' :: rest) with
      | .closed said (')' :: behind) => some (said, behind)
      | _ => none := by
  rw [toList_url, List.append_assoc, List.append_assoc]
  rfl

/-- A URL without line breaks reads back, and nothing of it is left over. -/
theorem readUrl?_of_no_break {address : String}
    (h : ∀ c ∈ address.toList, isLineBreak c = false) (rest : List Char) :
    readUrl? ((url address).toList ++ rest) = some (address.toList, rest) := by
  rw [readUrl?_url, readQuoted_quoteUrl h, readQuoted, foldr_cons_closed, List.append_nil]
  rfl

/-- The text of a URL is bad from its first line break on. -/
theorem readQuoted_of_break {front back : List Char} {mark : Char}
    (hfront : ∀ c ∈ front, isLineBreak c = false) (hmark : isLineBreak mark = true)
    (rest : List Char) :
    readQuoted (quoteUrl (front ++ mark :: back) ++ rest) =
      .bad (mark :: (quoteUrl back ++ rest)) := by
  rw [quoteUrl_break hmark, List.append_assoc, List.cons_append, readQuoted_quoteUrl hfront,
    readQuoted_of_isLineBreak hmark, foldr_cons_bad]

theorem readUrl?_of_break {address : String} (h : ∃ c ∈ address.toList, isLineBreak c = true)
    (rest : List Char) : readUrl? ((url address).toList ++ rest) = none := by
  obtain ⟨mark, front, back, haddress, hmark, hfront⟩ := exists_isFirst_iff.2 h
  have hplain : ∀ c ∈ front, isLineBreak c = false := fun c hc => Bool.eq_false_iff.2 (hfront c hc)
  rw [readUrl?_url, haddress, readQuoted_of_break hplain hmark]

/-- **A URL that is written into a style reads back, up to its closing bracket, just if it has no
line break; otherwise its text is bad from the first line break on.  In the style of the picture
beside a form, what follows an image that reads back are the declarations behind it.** -/
theorem url_read_back_iff (address : String) (rest : List Char) :
    (readUrl? ((url address).toList ++ rest) = some (address.toList, rest) ↔
      ∀ c ∈ address.toList, isLineBreak c = false) ∧
    (∀ front mark back, address.toList = front ++ mark :: back →
      (∀ c ∈ front, isLineBreak c = false) → isLineBreak mark = true →
      readUrl? ((url address).toList ++ rest) = none ∧
      readQuoted (quoteUrl address.toList ++ '"' :: ')' :: rest) =
        .bad (mark :: (quoteUrl back ++ '"' :: ')' :: rest))) ∧
    ∀ look : Look, look.splitImageUrl = address → address ≠ "" →
      ∃ value, (frame look).aside.toList = beforeImage.toList ++ value ∧
        (readUrl? value = some (address.toList, afterImage.toList) ↔
          ∀ c ∈ address.toList, isLineBreak c = false) := by
  have hiff : ∀ behind, readUrl? ((url address).toList ++ behind) = some (address.toList, behind) ↔
      ∀ c ∈ address.toList, isLineBreak c = false := by
    intro behind
    constructor
    · intro hread c hc
      rw [Bool.eq_false_iff]
      intro hbreak
      rw [readUrl?_of_break ⟨c, hc, hbreak⟩] at hread
      cases hread
    · intro h
      exact readUrl?_of_no_break h behind
  refine ⟨hiff rest, ?_, ?_⟩
  · intro front mark back haddress hfront hmark
    have hmem : mark ∈ address.toList := by
      rw [haddress]
      exact List.mem_append_right front List.mem_cons_self
    refine ⟨readUrl?_of_break ⟨mark, hmem, hmark⟩ rest, ?_⟩
    rw [haddress, readQuoted_of_break hfront hmark]
  · rintro look rfl himage
    refine ⟨(url look.splitImageUrl).toList ++ afterImage.toList, ?_, hiff _⟩
    rw [aside_eq look himage, picture, String.toList_append, String.toList_append,
      List.append_assoc]

/-- Quotes, brackets and backslashes in a URL do not end it, neither in front of another
declaration nor as the picture beside a form. -/
theorem quoted_url_read_back :
    readUrl? ((url "a\");b\\").toList ++ ";color:red".toList) =
      some ("a\");b\\".toList, ";color:red".toList) ∧
    ∃ value, (frame { Theme.plain.look with splitImageUrl := "a\");b\\" }).aside.toList =
        beforeImage.toList ++ value ∧
      readUrl? value = some ("a\");b\\".toList, afterImage.toList) := by
  have hplain : ∀ c ∈ "a\");b\\".toList, isLineBreak c = false := by simp [isLineBreak]
  obtain ⟨hread, -, hpicture⟩ := url_read_back_iff "a\");b\\" ";color:red".toList
  obtain ⟨value, haside, hvalue⟩ :=
    hpicture { Theme.plain.look with splitImageUrl := "a\");b\\" } rfl (by decide)
  exact ⟨hread.2 hplain, value, haside, hvalue.2 hplain⟩

/-- What follows a line break in a URL stands in the style as it is: here it closes the bracket and
ends the declaration. -/
theorem broken_url_not_read_back :
    readUrl? (url "a\n);color:red").toList = none ∧
      readQuoted ((url "a\n);color:red").toList.drop 5) = .bad "\n);color:red\")".toList := by
  exact ⟨rfl, rfl⟩

end Enrolment.Style
