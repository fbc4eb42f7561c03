/-
The words of a text.

A text is cut at its blanks, and the pieces that are left are its words.  So its words are what is
left of it without the blanks (`flatten_words`), each stands in it as it is, and the words on both
sides of a blank are found apart (`words_append_blank`).  A text with nothing but a space between
its words and no blank elsewhere is put together from them again (`intercalate_words_iff`).
-/
import Enrolment.Text.Blank
import Mathlib.Data.List.Chain

namespace Enrolment.Text

/-! ### Pieces -/

/-- There is a first piece, and the text begins with it; the others stand in the text. -/
theorem exists_cut (p : Char → Bool) (s : List Char) :
    ∃ piece pieces, cut p s = piece :: pieces ∧ piece <+: s ∧ ∀ other ∈ pieces, other <:+: s := by
  induction s with
  | nil => exact ⟨[], [], rfl, List.prefix_rfl, List.forall_mem_nil _⟩
  | cons c rest ih =>
      obtain ⟨piece, pieces, hcut, hpiece, hpieces⟩ := ih
      have hothers : ∀ other ∈ pieces, other <:+: c :: rest :=
        fun other hother => List.infix_cons (hpieces other hother)
      by_cases hc : p c = true
      · refine ⟨[], piece :: pieces, ?_, List.nil_prefix, ?_⟩
        · rw [cut, if_pos hc, hcut]
        · rw [List.forall_mem_cons]
          exact ⟨List.infix_cons hpiece.isInfix, hothers⟩
      · refine ⟨c :: piece, pieces, ?_, List.cons_prefix_cons.2 ⟨rfl, hpiece⟩, hothers⟩
        rw [cut, if_neg hc, hcut]

theorem cut_append_cons {p : Char → Bool} {b : Char} (hb : p b = true) (s t : List Char) :
    cut p (s ++ b :: t) = cut p s ++ cut p t := by
  induction s with
  | nil =>
      show cut p (b :: t) = [] :: cut p t
      rw [cut, if_pos hb]
  | cons c rest ih =>
      obtain ⟨piece, pieces, hcut, -⟩ := exists_cut p rest
      rw [List.cons_append, cut, cut, ih, hcut]
      cases p c <;> rfl

theorem cut_of_not {p : Char → Bool} {s : List Char} (h : ∀ c ∈ s, p c = false) :
    cut p s = [s] := by
  induction s with
  | nil => rfl
  | cons c rest ih =>
      rw [List.forall_mem_cons] at h
      rw [cut, if_neg (by simp [h.1]), ih h.2]

/-- A text is cut at the same places if its characters are changed within their classes. -/
theorem cut_map {p : Char → Bool} {f : Char → Char} (h : ∀ c, p (f c) = p c) (s : List Char) :
    cut p (s.map f) = (cut p s).map (·.map f) := by
  induction s with
  | nil => rfl
  | cons c rest ih =>
      rw [List.map_cons, cut, cut, h c, ih]
      cases p c with
      | true => rfl
      | false => cases cut p rest <;> rfl

/-- Nothing but what was cut at is lost. -/
theorem flatten_cut (p : Char → Bool) (s : List Char) : (cut p s).flatten = s.filter (!p ·) := by
  induction s with
  | nil => rfl
  | cons c rest ih =>
      obtain ⟨piece, pieces, hcut, -⟩ := exists_cut p rest
      rw [cut, List.filter_cons, ← ih, hcut]
      cases p c <;> rfl

/-! ### Words -/

theorem ne_nil_of_mem_words {s word : List Char} (h : word ∈ words s) : word ≠ [] :=
  of_decide_eq_true (List.mem_filter.1 h).2

/-- A word stands in its text as it is. -/
theorem infix_of_mem_words {s word : List Char} (h : word ∈ words s) : word <:+: s := by
  obtain ⟨piece, pieces, hcut, hpiece, hpieces⟩ := exists_cut isBlank s
  have hmem := (List.mem_filter.1 h).1
  rw [hcut, List.mem_cons] at hmem
  rcases hmem with rfl | hother
  · exact hpiece.isInfix
  · exact hpieces word hother

/-- So neighbours in a word are neighbours in the text. -/
theorem isChain_of_mem_words {R : Char → Char → Prop} {s word : List Char} (h : s.IsChain R)
    (hword : word ∈ words s) : word.IsChain R := by
  obtain ⟨front, back, hs⟩ := infix_of_mem_words hword
  rw [← hs] at h
  exact h.left_of_append.right_of_append

/-- The words of a text are the text without its blanks. -/
theorem flatten_words (s : List Char) : (words s).flatten = s.filter (!isBlank ·) := by
  rw [words, List.flatten_filter_ne_nil, flatten_cut]

theorem not_isBlank_of_mem_words {s word : List Char} (h : word ∈ words s) {c : Char}
    (hc : c ∈ word) : isBlank c = false := by
  have hmem : c ∈ (words s).flatten := List.mem_flatten.2 ⟨word, h, hc⟩
  rw [flatten_words] at hmem
  simpa using (List.mem_filter.1 hmem).2

/-- A text has a word just if it is not all blanks. -/
theorem words_eq_nil_iff {s : List Char} : words s = [] ↔ s.all isBlank = true := by
  have hflatten : words s = [] ↔ (words s).flatten = [] := by
    constructor
    · intro h
      rw [h, List.flatten_nil]
    · intro h
      rw [List.eq_nil_iff_forall_not_mem]
      intro word hword
      exact ne_nil_of_mem_words hword (List.flatten_eq_nil_iff.1 h word hword)
  rw [hflatten, flatten_words, List.filter_eq_nil_iff]
  simp

/-- **The words on both sides of a blank are found apart.** -/
theorem words_append_blank {b : Char} (hb : isBlank b = true) (s t : List Char) :
    words (s ++ b :: t) = words s ++ words t := by
  unfold words
  rw [cut_append_cons hb, List.filter_append]

/-- What has no blank is one word. -/
theorem words_of_not_blank {s : List Char} (hne : s ≠ []) (h : ∀ c ∈ s, isBlank c = false) :
    words s = [s] := by
  unfold words
  rw [cut_of_not h, List.filter_cons_of_pos (by simpa using hne), List.filter_nil]

theorem words_of_blanks_append {before : List Char} (h : ∀ c ∈ before, isBlank c = true)
    (s : List Char) : words (before ++ s) = words s := by
  induction before with
  | nil => rfl
  | cons b rest ih =>
      rw [List.forall_mem_cons] at h
      have hfront : words (b :: (rest ++ s)) = words [] ++ words (rest ++ s) :=
        words_append_blank h.1 [] (rest ++ s)
      rw [List.cons_append, hfront, ih h.2]
      rfl

/-- What has no blank and stands among blanks is the only word. -/
theorem words_between_blanks {before core after : List Char} (hcore : core ≠ [])
    (hbefore : ∀ c ∈ before, isBlank c = true) (hnone : ∀ c ∈ core, isBlank c = false)
    (hafter : ∀ c ∈ after, isBlank c = true) : words (before ++ core ++ after) = [core] := by
  rw [List.append_assoc, words_of_blanks_append hbefore]
  cases after with
  | nil => rw [List.append_nil, words_of_not_blank hcore hnone]
  | cons b rest =>
      rw [List.forall_mem_cons] at hafter
      rw [words_append_blank hafter.1, words_of_not_blank hcore hnone,
        words_eq_nil_iff.2 (List.all_eq_true.2 hafter.2), List.append_nil]

/-! ### Words with a space between them -/

/-- Whether the blanks of a text are single spaces between its words. -/
structure IsSqueezed (s : List Char) : Prop where
  spaces : ∀ c ∈ s, isBlank c = true → c = ' '
  begins : ∀ c ∈ s.head?, isBlank c = false
  ends : ∀ c ∈ s.getLast?, isBlank c = false
  apart : s.IsChain fun c d => isBlank c = true → isBlank d = false

theorem isSqueezed_nil : IsSqueezed [] :=
  ⟨List.forall_mem_nil _, by simp, by simp, .nil⟩

theorem isSqueezed_of_not_blank {word : List Char} (h : ∀ c ∈ word, isBlank c = false) :
    IsSqueezed word where
  spaces c hc hblank := by
    rw [h c hc] at hblank
    cases hblank
  begins c hc := h c (List.mem_of_mem_head? hc)
  ends c hc := h c (List.mem_of_getLast? hc)
  apart := by
    rw [List.isChain_iff_forall_rel_of_append_cons_cons]
    rintro c d front back rfl -
    exact h d (by simp)

/-- One more word may be put in front. -/
theorem IsSqueezed.word_append {s : List Char} (h : IsSqueezed s) {word : List Char}
    (hne : word ≠ []) (hword : ∀ c ∈ word, isBlank c = false) (hs : s ≠ []) :
    IsSqueezed (word ++ ' ' :: s) := by
  have hfront := isSqueezed_of_not_blank hword
  refine ⟨?_, ?_, ?_, ?_⟩
  · intro c hc hblank
    rcases List.mem_append.1 hc with hc | hc
    · exact hfront.spaces c hc hblank
    · rcases List.mem_cons.1 hc with rfl | hc
      · rfl
      · exact h.spaces c hc hblank
  · rw [List.head?_append_of_ne_nil word hne]
    exact hfront.begins
  · obtain ⟨d, rest, rfl⟩ := List.exists_cons_of_ne_nil hs
    rw [List.getLast?_append_cons, List.getLast?_cons_cons]
    exact h.ends
  · rw [List.isChain_append, List.isChain_cons]
    refine ⟨hfront.apart, ⟨fun d hd _ => h.begins d hd, h.apart⟩, ?_⟩
    intro c hc _ _ hblank
    rw [hfront.ends c hc] at hblank
    cases hblank

/-- What holds of each piece, and still holds when a piece is put in front, holds of the pieces with
a space between them. -/
theorem intercalate_induction {P : List Char → Prop} {pieces : List (List Char)}
    (hne : ∀ piece ∈ pieces, piece ≠ []) (hnil : P []) (hone : ∀ piece ∈ pieces, P piece)
    (hmore : ∀ piece ∈ pieces, ∀ s, s ≠ [] → P s → P (piece ++ ' ' :: s)) :
    P ([' '].intercalate pieces) := by
  induction pieces with
  | nil => exact hnil
  | cons piece others ih =>
      rw [List.forall_mem_cons] at hne hone hmore
      cases others with
      | nil =>
          rw [List.intercalate_singleton]
          exact hone.1
      | cons next rest =>
          have hrest : [' '].intercalate (next :: rest) ≠ [] := by
            have hnext := hne.2 next List.mem_cons_self
            cases rest <;> simp [List.intercalate_cons_cons, hnext]
          rw [List.intercalate_cons_cons, List.append_assoc, List.singleton_append]
          exact hmore.1 _ hrest (ih hne.2 hone.2 hmore.2)

theorem isSqueezed_intercalate {pieces : List (List Char)}
    (h : ∀ piece ∈ pieces, piece ≠ [] ∧ ∀ c ∈ piece, isBlank c = false) :
    IsSqueezed ([' '].intercalate pieces) := by
  refine intercalate_induction (fun piece hpiece => (h piece hpiece).1) isSqueezed_nil ?_ ?_
  · intro piece hpiece
    exact isSqueezed_of_not_blank (h piece hpiece).2
  · intro piece hpiece s hs hsqueezed
    exact hsqueezed.word_append (h piece hpiece).1 (h piece hpiece).2 hs

/-- A text whose blanks are spaces is its pieces with a space between them. -/
theorem intercalate_cut {s : List Char} (h : ∀ c ∈ s, isBlank c = true → c = ' ') :
    [' '].intercalate (cut isBlank s) = s := by
  induction s with
  | nil => rfl
  | cons c rest ih =>
      rw [List.forall_mem_cons] at h
      obtain ⟨piece, pieces, hcut, -⟩ := exists_cut isBlank rest
      have hrest := ih h.2
      rw [hcut] at hrest
      rw [cut, hcut]
      by_cases hc : isBlank c = true
      · rw [if_pos hc, List.intercalate_cons_cons, hrest, h.1 hc]
        rfl
      · rw [if_neg hc, ← hrest]
        cases pieces with
        | nil => simp
        | cons next others => simp [List.intercalate_cons_cons]

/-- No piece is empty but the first of a text that begins with a blank, if the text neither ends
with a blank nor has two in a row. -/
theorem nil_not_mem_tail_cut {s : List Char} (hne : s ≠ [])
    (hends : ∀ c ∈ s.getLast?, isBlank c = false)
    (hapart : s.IsChain fun c d => isBlank c = true → isBlank d = false) :
    ∃ piece pieces, cut isBlank s = piece :: pieces ∧ [] ∉ pieces ∧
      ((∀ c ∈ s.head?, isBlank c = false) → piece ≠ []) := by
  induction s with
  | nil => exact absurd rfl hne
  | cons c rest ih =>
      cases rest with
      | nil =>
          have hc : isBlank c = false := hends c rfl
          exact ⟨[c], [], by simp [cut, hc], by simp, by simp⟩
      | cons d more =>
          rw [List.getLast?_cons_cons] at hends
          rw [List.isChain_cons_cons] at hapart
          obtain ⟨piece, pieces, hcut, hpieces, hpiece⟩ :=
            ih (List.cons_ne_nil d more) hends hapart.2
          rw [cut, hcut]
          by_cases hc : isBlank c = true
          · -- The piece behind this blank begins with a character that is none.
            have hnext : piece ≠ [] := hpiece (by simpa using hapart.1 hc)
            refine ⟨[], piece :: pieces, if_pos hc, ?_, ?_⟩
            · rw [List.mem_cons, not_or]
              exact ⟨hnext.symm, hpieces⟩
            · intro hbegins
              rw [hbegins c rfl] at hc
              cases hc
          · exact ⟨c :: piece, pieces, if_neg hc, hpieces, fun _ => List.cons_ne_nil c piece⟩

/-- **A text is its words with a space between them just if its blanks are single spaces between
them.** -/
theorem intercalate_words_iff {s : List Char} : [' '].intercalate (words s) = s ↔ IsSqueezed s := by
  constructor
  · intro h
    rw [← h]
    exact isSqueezed_intercalate fun word hword =>
      ⟨ne_nil_of_mem_words hword, fun c hc => not_isBlank_of_mem_words hword hc⟩
  · intro h
    rcases eq_or_ne s [] with rfl | hne
    · rfl
    · obtain ⟨piece, pieces, hcut, hpieces, hpiece⟩ := nil_not_mem_tail_cut hne h.ends h.apart
      have hall : words s = cut isBlank s := by
        rw [words, hcut, List.filter_eq_self]
        intro other hother
        rcases List.mem_cons.1 hother with rfl | hother
        · simpa using hpiece h.begins
        · rw [decide_eq_true_eq]
          rintro rfl
          exact hpieces hother
      rw [hall, intercalate_cut h.spaces]

theorem filter_intercalate (pieces : List (List Char)) :
    ([' '].intercalate pieces).filter (!isBlank ·) = pieces.flatten.filter (!isBlank ·) := by
  have hspace : [' '].filter (!isBlank ·) = [] := by decide
  induction pieces with
  | nil => rfl
  | cons piece others ih =>
      cases others with
      | nil => simp
      | cons next rest =>
          rw [List.intercalate_cons_cons, List.flatten_cons, List.filter_append,
            List.filter_append, List.filter_append, hspace, ih, List.append_nil]

/-- Nothing but blanks is lost when a text is squeezed. -/
theorem filter_squeeze (s : String) :
    (squeeze s).toList.filter (!isBlank ·) = s.toList.filter (!isBlank ·) := by
  rw [toList_squeeze, filter_intercalate, flatten_words, List.filter_filter]
  simp only [Bool.and_self]

end Enrolment.Text
