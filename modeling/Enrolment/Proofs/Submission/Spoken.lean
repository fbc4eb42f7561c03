/-
Keys as words.

The key of an answer that no field explains is shown as words: an underscore is a blank there,
room is made in front of each capital, and the words that come of it have one space between them.
So no word has a capital but in front (`IsWord`), and the words have nothing between them but the
spaces (`IsSpoken`).

In front of a capital of such a text there is room already, so a key that is one is shown as it is,
and no other key is (`spoken_eq_self_iff`).
-/
import Enrolment.Proofs.Text.Capitals
import Enrolment.Proofs.Text.Words

namespace Enrolment.Key

open Text

/-- Whether a text reads as words: its blanks are single spaces between its words, it has no
underscore, and a capital either begins it or has a blank in front. -/
structure IsSpoken (s : List Char) : Prop extends IsSqueezed s where
  no_underscore : '_' ∉ s
  capitals : s.IsChain fun c d => IsCapital d → isBlank c = true

/-- Whether a text is one of its words. -/
structure IsWord (word : List Char) : Prop where
  ne_nil : word ≠ []
  not_blank : ∀ c ∈ word, isBlank c = false
  no_underscore : '_' ∉ word
  capitals : word.IsChain fun c d => IsCapital d → isBlank c = true

/-! ### Room -/

theorem ne_underscore_of_isCapital {c : Char} (h : IsCapital c) : c ≠ '_' := by
  rintro rfl
  revert h
  decide

theorem spaced_of_capital {c : Char} (h : IsCapital c) : spaced c = [' ', c] := by
  unfold spaced
  rw [if_neg (ne_underscore_of_isCapital h), if_pos (by simpa [IsCapital] using h)]

theorem spaced_of_plain {c : Char} (hne : c ≠ '_') (h : ¬IsCapital c) : spaced c = [c] := by
  unfold spaced
  rw [if_neg hne, if_neg (by simpa [IsCapital] using h)]

/-- A character becomes a space, gets a space in front, or stays as it is. -/
theorem spaced_cases (c : Char) :
    (c = '_' ∧ spaced c = [' ']) ∨ (IsCapital c ∧ spaced c = [' ', c]) ∨
      (c ≠ '_' ∧ ¬IsCapital c ∧ spaced c = [c]) := by
  by_cases hunderscore : c = '_'
  · exact .inl ⟨hunderscore, if_pos hunderscore⟩
  · by_cases hcapital : IsCapital c
    · exact .inr (.inl ⟨hcapital, spaced_of_capital hcapital⟩)
    · exact .inr (.inr ⟨hunderscore, hcapital, spaced_of_plain hunderscore hcapital⟩)

theorem underscore_not_mem_spaced (c : Char) : '_' ∉ spaced c := by
  rcases spaced_cases c with ⟨-, hc⟩ | ⟨hcapital, hc⟩ | ⟨hne, -, hc⟩
  · rw [hc]
    decide
  · rw [hc, List.mem_cons, List.mem_singleton, not_or]
    exact ⟨by decide, (ne_underscore_of_isCapital hcapital).symm⟩
  · rw [hc, List.mem_singleton]
    exact hne.symm

/-- No text with room in it begins with a capital. -/
theorem not_isCapital_head (s : List Char) : ∀ c ∈ (s.flatMap spaced).head?, ¬IsCapital c := by
  intro c hc
  cases s with
  | nil => cases hc
  | cons d rest =>
      rw [List.flatMap_cons] at hc
      rcases spaced_cases d with ⟨-, hd⟩ | ⟨-, hd⟩ | ⟨-, hplain, hd⟩
      · rw [hd] at hc
        obtain rfl : ' ' = c := Option.some.inj hc
        decide
      · rw [hd] at hc
        obtain rfl : ' ' = c := Option.some.inj hc
        decide
      · rw [hd] at hc
        obtain rfl : d = c := Option.some.inj hc
        exact hplain

/-- There is a blank in front of each capital. -/
theorem isChain_flatMap_spaced (s : List Char) :
    (s.flatMap spaced).IsChain fun c d => IsCapital d → isBlank c = true := by
  induction s with
  | nil => exact .nil
  | cons c rest ih =>
      rw [List.flatMap_cons, List.isChain_append]
      refine ⟨?_, ih, ?_⟩
      · rcases spaced_cases c with ⟨-, hc⟩ | ⟨-, hc⟩ | ⟨-, -, hc⟩
        · rw [hc]
          exact .singleton _
        · rw [hc, List.isChain_cons_cons]
          exact ⟨fun _ => rfl, .singleton _⟩
        · rw [hc]
          exact .singleton _
      · intro _ _ d hd hcapital
        exact absurd hcapital (not_isCapital_head rest d hd)

/-- Nothing is lost but underscores, and nothing is put in but blanks. -/
theorem filter_flatMap_spaced (s : List Char) :
    (s.flatMap spaced).filter (!isBlank ·) = s.filter fun c => !isBlank c && c ≠ '_' := by
  induction s with
  | nil => rfl
  | cons c rest ih =>
      rw [List.flatMap_cons, List.filter_append, ih, List.filter_cons]
      rcases spaced_cases c with ⟨rfl, hc⟩ | ⟨hcapital, hc⟩ | ⟨hne, -, hc⟩
      · rw [hc]
        rfl
      · have hne := ne_underscore_of_isCapital hcapital
        rw [hc, List.filter_cons_of_neg (by decide)]
        cases hblank : isBlank c <;> simp [hblank, hne]
      · rw [hc]
        cases hblank : isBlank c <;> simp [hblank, hne]

/-! ### Words -/

/-- The words of a text with room in it. -/
theorem isWord_of_mem_words {s word : List Char} (h : word ∈ words (s.flatMap spaced)) :
    IsWord word where
  ne_nil := ne_nil_of_mem_words h
  not_blank _ hc := not_isBlank_of_mem_words h hc
  no_underscore hmem := by
    obtain ⟨c, -, hc⟩ := List.mem_flatMap.1 ((infix_of_mem_words h).subset hmem)
    exact underscore_not_mem_spaced c hc
  capitals := isChain_of_mem_words (isChain_flatMap_spaced s) h

/-- No room is made behind the first character of a word. -/
theorem flatMap_spaced_of_isChain {c : Char} {rest : List Char}
    (hchain : (c :: rest).IsChain fun c d => IsCapital d → isBlank c = true)
    (hblank : ∀ d ∈ c :: rest, isBlank d = false) (hunderscore : '_' ∉ rest) :
    rest.flatMap spaced = rest := by
  induction rest generalizing c with
  | nil => rfl
  | cons d more ih =>
      rw [List.isChain_cons_cons] at hchain
      rw [List.forall_mem_cons] at hblank
      rw [List.mem_cons, not_or] at hunderscore
      have hplain : ¬IsCapital d := by
        intro hcapital
        rw [hchain.1 hcapital] at hblank
        cases hblank.1
      rw [List.flatMap_cons, spaced_of_plain (Ne.symm hunderscore.1) hplain,
        ih hchain.2 hblank.2 hunderscore.2, List.singleton_append]

/-- So a word with room made in it is the word. -/
theorem IsWord.words_flatMap_spaced {word : List Char} (h : IsWord word) :
    words (word.flatMap spaced) = [word] := by
  obtain ⟨c, rest, rfl⟩ := List.exists_cons_of_ne_nil h.ne_nil
  have hunderscore := h.no_underscore
  rw [List.mem_cons, not_or] at hunderscore
  rw [List.flatMap_cons, flatMap_spaced_of_isChain h.capitals h.not_blank hunderscore.2]
  -- A capital in front gets room there, which belongs to no word.
  by_cases hcapital : IsCapital c
  · rw [spaced_of_capital hcapital]
    show words ([' '] ++ c :: rest) = _
    rw [words_of_blanks_append (List.forall_mem_singleton.2 rfl),
      words_of_not_blank h.ne_nil h.not_blank]
  · rw [spaced_of_plain (Ne.symm hunderscore.1) hcapital, List.singleton_append,
      words_of_not_blank h.ne_nil h.not_blank]

/-- Words are found again when room is made in what is put together from them. -/
theorem words_flatMap_spaced {pieces : List (List Char)} (h : ∀ word ∈ pieces, IsWord word) :
    words (([' '].intercalate pieces).flatMap spaced) = pieces := by
  induction pieces with
  | nil => rfl
  | cons word others ih =>
      rw [List.forall_mem_cons] at h
      cases others with
      | nil => rw [List.intercalate_singleton, h.1.words_flatMap_spaced]
      | cons next rest =>
          have hspace : [' '].flatMap spaced = [' '] := rfl
          rw [List.intercalate_cons_cons, List.flatMap_append, List.flatMap_append, hspace,
            List.append_assoc, List.singleton_append, words_append_blank rfl,
            h.1.words_flatMap_spaced, ih h.2, List.singleton_append]

theorem IsWord.isSpoken {word : List Char} (h : IsWord word) : IsSpoken word where
  toIsSqueezed := isSqueezed_of_not_blank h.not_blank
  no_underscore := h.no_underscore
  capitals := h.capitals

/-- One more word may be put in front. -/
theorem IsSpoken.word_append {s : List Char} (h : IsSpoken s) {word : List Char}
    (hword : IsWord word) (hs : s ≠ []) : IsSpoken (word ++ ' ' :: s) where
  toIsSqueezed := h.toIsSqueezed.word_append hword.ne_nil hword.not_blank hs
  no_underscore := by
    rw [List.mem_append, List.mem_cons, not_or, not_or]
    exact ⟨hword.no_underscore, by decide, h.no_underscore⟩
  capitals := by
    rw [List.isChain_append, List.isChain_cons]
    refine ⟨hword.capitals, ⟨fun _ _ _ => rfl, h.capitals⟩, ?_⟩
    intro _ _ d hd hcapital
    obtain rfl : ' ' = d := Option.some.inj hd
    exact absurd hcapital (by decide)

/-- Words with a space between them read as words. -/
theorem isSpoken_intercalate {pieces : List (List Char)} (h : ∀ word ∈ pieces, IsWord word) :
    IsSpoken ([' '].intercalate pieces) := by
  refine intercalate_induction (fun word hword => (h word hword).ne_nil) ?_ ?_ ?_
  · exact ⟨isSqueezed_nil, List.not_mem_nil, .nil⟩
  · intro word hword
    exact (h word hword).isSpoken
  · intro word hword s hs hspoken
    exact hspoken.word_append (h word hword) hs

/-- And what reads as words is made of words. -/
theorem IsSpoken.isWord {s word : List Char} (h : IsSpoken s) (hword : word ∈ words s) :
    IsWord word where
  ne_nil := ne_nil_of_mem_words hword
  not_blank _ hc := not_isBlank_of_mem_words hword hc
  no_underscore hmem := h.no_underscore ((infix_of_mem_words hword).subset hmem)
  capitals := isChain_of_mem_words h.capitals hword

/-! ### Keys -/

theorem toList_spoken (key : String) :
    (spoken key).toList = [' '].intercalate (words (key.toList.flatMap spaced)) := by
  rw [spoken, toList_squeeze, String.toList_ofList]

theorem isSpoken_spoken (key : String) : IsSpoken (spoken key).toList := by
  rw [toList_spoken]
  exact isSpoken_intercalate fun _ hword => isWord_of_mem_words hword

/-- The keys that are shown as they are. -/
theorem spoken_eq_self_iff {key : String} : spoken key = key ↔ IsSpoken key.toList := by
  constructor
  · intro h
    rw [← h]
    exact isSpoken_spoken key
  · intro h
    -- The key is made of its words, and these are still the words when room is made among them.
    have hparts := intercalate_words_iff.2 h.toIsSqueezed
    have hwords := words_flatMap_spaced fun _ hword => h.isWord hword
    rw [hparts] at hwords
    rw [← String.toList_inj, toList_spoken, hwords, hparts]

/-- **Speaking a key a second time changes nothing.  What comes out reads as words, and has all
characters of the key in their order, blanks and underscores apart; and a key that reads as words
is left as it is.** -/
theorem spoken_isStable (key : String) :
    spoken (spoken key) = spoken key ∧ IsSpoken (spoken key).toList ∧
      ((spoken key).toList.filter fun c => !isBlank c) =
        (key.toList.filter fun c => !isBlank c && c ≠ '_') ∧
      (spoken key = key ↔ IsSpoken key.toList) := by
  refine ⟨spoken_eq_self_iff.2 (isSpoken_spoken key), isSpoken_spoken key, ?_, spoken_eq_self_iff⟩
  rw [spoken, filter_squeeze, String.toList_ofList, filter_flatMap_spaced]

example : spoken "\u2003HTMLCode__ofConduct " = "H T M L Code of Conduct" := by decide +kernel

end Enrolment.Key
