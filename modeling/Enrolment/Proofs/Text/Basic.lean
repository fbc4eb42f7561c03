/-
Blanks and searches in a text.

No blank is a capital letter, so putting a text in small letters leaves its blanks
alone; what was stripped of blanks has none left to strip; and `anyTail` looks at every
end of a text.
-/
import Enrolment.Text.Blank
import Enrolment.Text.Case
import Mathlib.Data.List.DropRight
import Mathlib.Data.List.TakeWhile

namespace Enrolment.Text

/-! ### Code points -/

theorem toNat_le {a b : Char} : a ≤ b ↔ a.toNat ≤ b.toNat :=
  Iff.rfl

theorem toNat_ofNat {n : Nat} (h : n.isValidChar) : (Char.ofNat n).toNat = n := by
  rw [Char.ofNat, dif_pos h]
  rfl

/-! ### Cuts -/

/-- A text is cut at the first character that is not of a class. -/
theorem takeWhile_dropWhile_append {p : Char → Bool} {front rest : List Char}
    (hfront : ∀ c ∈ front, p c = true) (hrest : ∀ c ∈ rest.head?, p c = false) :
    (front ++ rest).takeWhile p = front ∧ (front ++ rest).dropWhile p = rest := by
  rw [List.takeWhile_append_of_pos hfront, List.dropWhile_append_of_pos hfront]
  cases rest with
  | nil => simp
  | cons c more =>
      have hc : p c = false := hrest c rfl
      simp [hc]

/-- A text has something of a class at both ends of what is left without its ends. -/
theorem exists_ends (p : Char → Bool) (s : List Char) :
    ∃ before after, s = before ++ dropEnd p (s.dropWhile p) ++ after ∧
      (∀ c ∈ before, p c = true) ∧ ∀ c ∈ after, p c = true := by
  refine ⟨s.takeWhile p, ((s.dropWhile p).reverse.takeWhile p).reverse, ?_, ?_, ?_⟩
  · unfold dropEnd
    rw [List.append_assoc, ← List.reverse_append, List.takeWhile_append_dropWhile,
      List.reverse_reverse, List.takeWhile_append_dropWhile]
  · intro c hc
    exact List.all_eq_true.1 List.all_takeWhile c hc
  · intro c hc
    exact List.all_eq_true.1 List.all_takeWhile c (List.mem_reverse.1 hc)

/-- No more is cut off at the ends than what is of the class. -/
theorem dropEnd_between {p : Char → Bool} {before core after : List Char}
    (hbefore : ∀ c ∈ before, p c = true) (hne : core ≠ []) (hcore : ∀ c ∈ core, p c = false)
    (hafter : ∀ c ∈ after, p c = true) :
    dropEnd p ((before ++ core ++ after).dropWhile p) = core := by
  have hhead : ∀ part : List Char, part ≠ [] → (∀ c ∈ part, p c = false) →
      ∀ rest, ∀ c ∈ (part ++ rest).head?, p c = false := by
    intro part hpart hnot rest c hc
    obtain ⟨first, more, rfl⟩ := List.exists_cons_of_ne_nil hpart
    obtain rfl : first = c := by simpa using hc
    exact hnot first List.mem_cons_self
  have hreversed : ∀ c ∈ after.reverse, p c = true := fun c hc => hafter c (List.mem_reverse.1 hc)
  have hfront := (takeWhile_dropWhile_append hbefore (hhead core hne hcore after)).2
  have hback := (takeWhile_dropWhile_append hreversed (hhead core.reverse
    (by rwa [ne_eq, List.reverse_eq_nil_iff]) (fun c hc => hcore c (List.mem_reverse.1 hc)) [])).2
  unfold dropEnd
  rw [List.append_assoc, hfront, List.reverse_append, ← List.append_nil core.reverse, hback,
    List.append_nil, List.reverse_reverse]

/-! ### Blanks -/

/-- The blanks outside ASCII. -/
def wideBlanks : List Nat :=
  [0x85, 0xA0, 0x1680, 0x2000, 0x2001, 0x2002, 0x2003, 0x2004, 0x2005, 0x2006, 0x2007, 0x2008,
    0x2009, 0x200A, 0x2028, 0x2029, 0x202F, 0x205F, 0x3000]

theorem toNat_mem_wideBlanks {c : Char} (h : isBlank c = true) (hwide : ¬c.toNat < 128) :
    c.toNat ∈ wideBlanks := by
  unfold isBlank at h
  simp only [Bool.or_eq_true, Bool.and_eq_true, decide_eq_true_eq, beq_iff_eq] at h
  simp [wideBlanks]
  omega

/-- They are no capitals. -/
theorem find?_smallRuns_blank : ∀ n ∈ wideBlanks, (smallRuns.find? (·.covers n)).isNone := by
  decide

theorem lowerChar_of_isBlank {c : Char} (h : isBlank c = true) : lowerChar c = c := by
  unfold lowerChar
  by_cases hascii : c.toNat < 128
  · unfold isBlank at h
    simp only [Bool.or_eq_true, Bool.and_eq_true, decide_eq_true_eq, beq_iff_eq] at h
    rw [if_pos hascii, asciiLower, if_neg]
    simp only [Bool.and_eq_true, decide_eq_true_eq, toNat_le]
    simp
    omega
  · have hnone := find?_smallRuns_blank c.toNat (toNat_mem_wideBlanks h hascii)
    rw [Option.isNone_iff_eq_none] at hnone
    rw [if_neg hascii, partner, hnone]

/-- A text is blanks, what is left without them, and blanks. -/
theorem strip_between_blanks (s : List Char) :
    ∃ before after, s = before ++ strip s ++ after ∧
      (∀ c ∈ before, isBlank c = true) ∧ ∀ c ∈ after, isBlank c = true :=
  exists_ends isBlank s

theorem mem_of_mem_strip {s : List Char} {c : Char} (h : c ∈ strip s) : c ∈ s := by
  obtain ⟨before, after, hsplit, -⟩ := strip_between_blanks s
  rw [hsplit]
  exact List.mem_append_left after (List.mem_append_right before h)

/-- What is left without blanks at its ends has none there. -/
theorem strip_strip (s : List Char) : strip (strip s) = strip s := by
  have hdropped : (strip s).dropWhile isBlank = strip s := by
    rw [List.dropWhile_eq_self_iff]
    intro hpos
    have hfront : strip s <+: s.dropWhile isBlank :=
      List.rdropWhile_prefix isBlank (s.dropWhile isBlank)
    rw [hfront.getElem hpos]
    exact List.dropWhile_get_zero_not isBlank s _
  change List.rdropWhile isBlank ((strip s).dropWhile isBlank) = strip s
  rw [hdropped]
  exact List.rdropWhile_idempotent isBlank _

/-- Nothing is cut off a text without blanks. -/
theorem strip_of_not_blank {s : List Char} (h : ∀ c ∈ s, isBlank c = false) : strip s = s := by
  rcases eq_or_ne s [] with rfl | hne
  · rfl
  · have hcut := dropEnd_between (List.forall_mem_nil _) hne h (List.forall_mem_nil _)
    rwa [List.nil_append, List.append_nil] at hcut

theorem trim_trim (s : String) : trim (trim s) = trim s := by
  rw [← String.toList_inj, toList_trim, toList_trim, strip_strip]

/-- Nothing is left of a text just if it is all blanks. -/
theorem strip_eq_nil_iff {s : List Char} : strip s = [] ↔ s.all isBlank = true := by
  constructor
  · intro hnil
    obtain ⟨before, after, hsplit, hbefore, hafter⟩ := strip_between_blanks s
    rw [hnil, List.append_nil] at hsplit
    rw [hsplit, List.all_append, Bool.and_eq_true, List.all_eq_true, List.all_eq_true]
    exact ⟨hbefore, hafter⟩
  · intro hall
    unfold strip
    rw [List.dropWhile_eq_nil_iff.2 (List.all_eq_true.1 hall)]
    rfl

theorem trim_ne_empty {s : String} (h : isBlankText s = false) : trim s ≠ "" := by
  intro hempty
  have hnil : strip s.toList = [] := by
    rw [← toList_trim, hempty, String.toList_empty]
  rw [isBlankText, strip_eq_nil_iff.1 hnil] at h
  cases h

/-- A character in front that is no blank stays there. -/
theorem exists_strip_cons {c : Char} (h : isBlank c = false) (rest : List Char) :
    ∃ more, strip (c :: rest) = c :: more := by
  obtain ⟨before, after, hsplit, hbefore, hafter⟩ := strip_between_blanks (c :: rest)
  cases before with
  | cons d others =>
      have hhead : c = d := (List.cons.inj hsplit).1
      rw [hhead, hbefore d List.mem_cons_self] at h
      cases h
  | nil =>
      rw [List.nil_append] at hsplit
      cases hstrip : strip (c :: rest) with
      | cons d more =>
          rw [hstrip, List.cons_append] at hsplit
          exact ⟨more, by rw [(List.cons.inj hsplit).1]⟩
      | nil =>
          rw [hstrip, List.nil_append] at hsplit
          subst hsplit
          rw [hafter c List.mem_cons_self] at h
          cases h

/-! ### Small letters -/

theorem lowerAt_ne_nil (before : List Char) (c : Char) (after : List Char) :
    lowerAt before c after ≠ [] := by
  unfold lowerAt
  split
  · split <;> exact List.cons_ne_nil _ _
  · split <;> exact List.cons_ne_nil _ _

/-- Some letter is left of a text in small letters. -/
theorem lower_ne_empty {s : String} (h : s ≠ "") : lower s ≠ "" := by
  intro hlower
  have hnil : lowerFrom [] s.toList = [] := by
    rw [← lowerChars, ← toList_lower, hlower, String.toList_empty]
  cases hs : s.toList with
  | nil => exact h (String.toList_eq_nil_iff.1 hs)
  | cons c rest =>
      rw [hs, lowerFrom, List.append_eq_nil_iff] at hnil
      exact lowerAt_ne_nil _ _ _ hnil.1

/-! ### Capitals -/

/-- What stands for several capitals is no empty text. -/
theorem capitalExpansions_ne_nil : ∀ expansion ∈ capitalExpansions, expansion.2 ≠ [] := by
  decide

theorem upperChars_ne_nil (c : Char) : upperChars c ≠ [] := by
  unfold upperChars
  by_cases hascii : c.toNat < 128
  · rw [if_pos hascii]
    exact List.cons_ne_nil _ _
  · rw [if_neg hascii]
    cases hexpansion : capitalExpansions.lookup c.toNat with
    | none => exact List.cons_ne_nil _ _
    | some expansion =>
        obtain ⟨before, after, hsplit, -⟩ := List.lookup_eq_some_iff.1 hexpansion
        have hmem : (c.toNat, expansion) ∈ capitalExpansions := by
          rw [hsplit]
          exact List.mem_append_right before List.mem_cons_self
        intro hnil
        exact capitalExpansions_ne_nil _ hmem (List.map_eq_nil_iff.1 hnil)

/-- Nothing is left of a text in capitals just if it was empty. -/
theorem upper_eq_empty_iff {s : String} : upper s = "" ↔ s = "" := by
  rw [← String.toList_eq_nil_iff, toList_upper, List.flatMap_eq_nil_iff, ← String.toList_eq_nil_iff]
  constructor
  · intro hall
    rw [List.eq_nil_iff_forall_not_mem]
    intro c hc
    exact upperChars_ne_nil c (hall c hc)
  · intro hnil c hc
    rw [hnil] at hc
    cases hc

/-! ### Searches -/

theorem anyTail_iff {p : List Char → Bool} {s : List Char} :
    anyTail p s = true ↔ ∃ t, t <:+ s ∧ p t = true := by
  induction s with
  | nil =>
      rw [anyTail]
      constructor
      · intro h
        exact ⟨[], List.suffix_refl [], h⟩
      · rintro ⟨t, ht, h⟩
        rw [List.suffix_nil.1 ht] at h
        exact h
  | cons c rest ih =>
      rw [anyTail, Bool.or_eq_true, ih]
      constructor
      · rintro (h | ⟨t, ht, h⟩)
        · exact ⟨c :: rest, List.suffix_refl _, h⟩
        · exact ⟨t, ht.trans (List.suffix_cons c rest), h⟩
      · rintro ⟨t, ht, h⟩
        rcases List.suffix_cons_iff.1 ht with rfl | hrest
        · exact .inl h
        · exact .inr ⟨t, hrest, h⟩

end Enrolment.Text
