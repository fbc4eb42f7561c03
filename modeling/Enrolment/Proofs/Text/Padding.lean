/-
Blanks around a text.

They are cut off together with those that the text has there itself, and they do not
matter to what stands in the text, as long as it neither begins nor ends with a blank
(`IsFirm`).  The caseless form of a blank is the blank, so the same holds of what stands
in a text when case is ignored.
-/
import Enrolment.Proofs.Text.Spelling

namespace Enrolment.Text

/-! ### What is cut off -/

/-- A text may be padded before its ends are cut. -/
theorem strip_between {before after : List Char} (hbefore : ∀ c ∈ before, isBlank c = true)
    (s : List Char) (hafter : ∀ c ∈ after, isBlank c = true) :
    strip (before ++ s ++ after) = strip s := by
  unfold strip
  rw [List.append_assoc, List.dropWhile_append_of_pos hbefore, List.dropWhile_append]
  -- A blank text goes with what is in front of it; of any other the last character stops the cut.
  by_cases hall : (s.dropWhile isBlank).isEmpty
  · rw [if_pos hall, List.dropWhile_eq_nil_iff.2 hafter, List.isEmpty_iff.1 hall]
  · have hreversed : ∀ c ∈ after.reverse, isBlank c = true := by simpa using hafter
    rw [if_neg hall]
    show ((s.dropWhile isBlank ++ after).reverse.dropWhile isBlank).reverse = _
    rw [List.reverse_append, List.dropWhile_append_of_pos hreversed]
    rfl

/-- A change of characters that keeps the blanks does not change what is cut off. -/
theorem strip_map {f : Char → Char} (h : ∀ c, isBlank (f c) = isBlank c) (s : List Char) :
    strip (s.map f) = (strip s).map f := by
  have hcomp : isBlank ∘ f = isBlank := funext h
  show (((s.map f).dropWhile isBlank).reverse.dropWhile isBlank).reverse = _
  rw [List.dropWhile_map, hcomp, ← List.map_reverse, List.dropWhile_map, hcomp, ← List.map_reverse]
  rfl

theorem isBlankText_trim (s : String) : isBlankText (trim s) = isBlankText s := by
  unfold isBlankText
  rw [toList_trim, Bool.eq_iff_iff, ← strip_eq_nil_iff, ← strip_eq_nil_iff, strip_strip]

/-! ### What stands in a text -/

/-- Whether a text neither begins nor ends with a blank, and is not empty. -/
structure IsFirm (word : List Char) : Prop where
  begins : ∃ c rest, word = c :: rest ∧ isBlank c = false
  ends : ∃ front c, word = front ++ [c] ∧ isBlank c = false

namespace IsFirm

variable {word other : List Char}

/-- Two such words may have anything between them. -/
theorem join (h : IsFirm word) (middle : List Char) (hother : IsFirm other) :
    IsFirm (word ++ middle ++ other) := by
  obtain ⟨c, rest, rfl, hc⟩ := h.begins
  obtain ⟨front, d, rfl, hd⟩ := hother.ends
  refine ⟨⟨c, rest ++ middle ++ (front ++ [d]), by simp, hc⟩, ?_⟩
  exact ⟨c :: rest ++ middle ++ front, d, by simp, hd⟩

theorem reverse (h : IsFirm word) : IsFirm word.reverse := by
  obtain ⟨c, rest, hbegins, hc⟩ := h.begins
  obtain ⟨front, d, hends, hd⟩ := h.ends
  refine ⟨⟨d, front.reverse, by simp [hends], hd⟩, ?_⟩
  exact ⟨rest.reverse, c, by simp [hbegins], hc⟩

theorem of_letters (hne : word ≠ []) (h : ∀ c ∈ word, IsSmallLetter c) : IsFirm word := by
  refine ⟨?_, ?_⟩
  · obtain ⟨c, rest, rfl⟩ := List.exists_cons_of_ne_nil hne
    exact ⟨c, rest, rfl, isBlank_of_isSmallLetter (h c (by simp))⟩
  · refine ⟨word.dropLast, word.getLast hne, (List.dropLast_append_getLast hne).symm, ?_⟩
    exact isBlank_of_isSmallLetter (h _ (List.getLast_mem hne))

/-- Nothing is cut off. -/
theorem strip_eq (h : IsFirm word) : strip word = word := by
  obtain ⟨c, rest, hbegins, hc⟩ := h.begins
  obtain ⟨d, front, hreversed, hd⟩ := h.reverse.begins
  have hfront : word.dropWhile isBlank = word := by
    rw [hbegins, List.dropWhile_cons_of_neg (by simp [hc])]
  show ((word.dropWhile isBlank).reverse.dropWhile isBlank).reverse = word
  rw [hfront, hreversed, List.dropWhile_cons_of_neg (by simp [hd]), ← hreversed,
    List.reverse_reverse]

/-- The word cannot begin in blanks in front of a text. -/
theorem infix_blanks_append (h : IsFirm word) {blanks : List Char}
    (hblanks : ∀ c ∈ blanks, isBlank c = true) (s : List Char) :
    word <:+: blanks ++ s ↔ word <:+: s := by
  induction blanks with
  | nil => rfl
  | cons b rest ih =>
      have hrest := ih fun c hc => hblanks c (by simp [hc])
      have hnone : ¬ word <+: b :: (rest ++ s) := by
        intro hprefix
        obtain ⟨c, more, rfl, hc⟩ := h.begins
        obtain ⟨rfl, -⟩ := List.cons_prefix_cons.1 hprefix
        rw [hblanks c (by simp)] at hc
        cases hc
      rw [List.cons_append, List.infix_cons_iff, hrest]
      simp [hnone]

/-- **It stands in a padded text just if it stands in the text.** -/
theorem infix_between_iff (h : IsFirm word) {before after : List Char}
    (hbefore : ∀ c ∈ before, isBlank c = true) (s : List Char)
    (hafter : ∀ c ∈ after, isBlank c = true) :
    word <:+: before ++ s ++ after ↔ word <:+: s := by
  have hreversed : ∀ c ∈ after.reverse, isBlank c = true := by simpa using hafter
  rw [List.append_assoc, h.infix_blanks_append hbefore, ← List.reverse_infix, List.reverse_append,
    h.reverse.infix_blanks_append hreversed, List.reverse_infix]

/-- So the blanks around a text do not matter to the words in it, case ignored. -/
theorem infix_caseless_strip_iff (h : IsFirm word) (s : List Char) :
    word <:+: (strip s).map caseless ↔ word <:+: s.map caseless := by
  have hblank : ∀ blanks : List Char, (∀ c ∈ blanks, isBlank c = true) →
      ∀ c ∈ blanks.map caseless, isBlank c = true := by
    intro blanks hblanks c hc
    obtain ⟨b, hb, rfl⟩ := List.mem_map.1 hc
    rw [caseless_of_isBlank (hblanks b hb)]
    exact hblanks b hb
  obtain ⟨before, after, hsplit, hbefore, hafter⟩ := strip_between_blanks s
  conv => rhs; rw [hsplit]
  rw [List.map_append, List.map_append,
    h.infix_between_iff (hblank before hbefore) _ (hblank after hafter)]

end IsFirm

end Enrolment.Text
