/-
Texts that have parts as a URL.

Cutting a text into parts never fails; what can fail is the check of the authority that was cut
out.  It looks for square brackets and for characters whose compatibility form has a delimiter
in it, and finds them only if the text has them (`exists_isDelicate_of_split`).  And it finds
nothing in a text that begins like no scheme and no authority, since that is all path.
-/
import Enrolment.Url.Split
import Mathlib.Tactic.ByContra

namespace Enrolment.Url

/-- Whether a character can make an authority malformed: a square bracket, or one whose
compatibility form has a delimiter in it. -/
def isDelicate (c : Char) : Bool :=
  c = '[' || c = ']' || delimiterForms.contains c.toNat

/-! ### Where an authority comes from -/

theorem mem_of_mem_clean {s : List Char} {c : Char} (h : c ∈ clean s) : c ∈ s :=
  (List.dropWhile_sublist _).mem (List.mem_filter.1 h).1

theorem mem_of_mem_splitScheme {s : List Char} {c : Char} (h : c ∈ (splitScheme s).2) : c ∈ s := by
  unfold splitScheme at h
  split at h
  · rename_i first more rest _ hcolon
    split at h
    · have hbehind : c ∈ s.dropWhile (· ≠ ':') := by
        rw [hcolon]
        exact List.mem_cons_of_mem _ h
      exact (List.dropWhile_sublist _).mem hbehind
    · exact h
  · exact h

theorem mem_of_mem_splitAuthority {s : List Char} {c : Char} (h : c ∈ (splitAuthority s).1) :
    c ∈ s := by
  unfold splitAuthority at h
  split at h
  · exact .tail _ (.tail _ ((List.takeWhile_sublist _).mem h))
  · cases h

/-! ### When it is refused -/

theorem split_eq_ok {s : List Char} {authority rest : List Char}
    (h : splitAuthority (splitScheme (clean s)).2 = (authority, rest))
    (hbrackets : checkBrackets authority = .ok ()) (hcharacters : checkCharacters authority = .ok ()) :
    ∃ parts, split s = .ok parts := by
  unfold split
  simp only [h, hbrackets, hcharacters]
  exact ⟨_, rfl⟩

theorem checkBrackets_of_plain {authority : List Char}
    (h : ∀ c ∈ authority, isDelicate c = false) : checkBrackets authority = .ok () := by
  have hopen : '[' ∉ authority := fun hmem => absurd (h _ hmem) (by decide)
  have hclose : ']' ∉ authority := fun hmem => absurd (h _ hmem) (by decide)
  unfold checkBrackets
  simp [hopen, hclose]

theorem checkCharacters_of_plain {authority : List Char}
    (h : ∀ c ∈ authority, isDelicate c = false) : checkCharacters authority = .ok () := by
  unfold checkCharacters
  rw [if_neg]
  intro hany
  obtain ⟨c, hmem, hform⟩ := List.any_eq_true.1 hany
  have hplain := h c hmem
  unfold isDelicate at hplain
  rw [hform, Bool.or_true] at hplain
  cases hplain

/-- A text without delicate characters has parts. -/
theorem exists_split_of_plain {s : List Char} (h : ∀ c ∈ s, isDelicate c = false) :
    ∃ parts, split s = .ok parts := by
  have hplain : ∀ c ∈ (splitAuthority (splitScheme (clean s)).2).1, isDelicate c = false := by
    intro c hc
    exact h c (mem_of_mem_clean (mem_of_mem_splitScheme (mem_of_mem_splitAuthority hc)))
  exact split_eq_ok rfl (checkBrackets_of_plain hplain) (checkCharacters_of_plain hplain)

/-- **A text is malformed for one of its delicate characters.** -/
theorem exists_isDelicate_of_split {s : List Char} {cause : Malformed}
    (h : split s = .error cause) : ∃ c ∈ s, isDelicate c = true := by
  by_contra hnone
  simp only [not_exists, not_and, Bool.not_eq_true] at hnone
  obtain ⟨parts, hparts⟩ := exists_split_of_plain hnone
  rw [h] at hparts
  cases hparts

/-! ### Texts that are all path -/

section

variable {c : Char} (rest : List Char)

theorem exists_clean_cons (h : 32 < c.toNat) : ∃ more, clean (c :: rest) = c :: more := by
  have hwhite : (c ≠ '\t' ∧ c ≠ '\r') ∧ c ≠ '\n' := by
    refine ⟨⟨?_, ?_⟩, ?_⟩ <;>
    · rintro rfl
      revert h
      decide
  unfold clean
  rw [List.dropWhile_cons_of_neg (by simpa using h), List.filter_cons_of_pos (by simpa using hwhite)]
  exact ⟨_, rfl⟩

theorem splitScheme_cons (h : Text.isAsciiLetter c = false) :
    splitScheme (c :: rest) = ([], c :: rest) := by
  unfold splitScheme
  split
  · rename_i first more behind hfront _
    have hfirst : first = c := by
      rw [List.takeWhile_cons] at hfront
      split at hfront
      · exact (List.cons.inj hfront).1.symm
      · cases hfront
    rw [hfirst, h, Bool.false_and, if_neg Bool.false_ne_true]
  · rfl

theorem splitAuthority_cons (h : c ≠ '/') : splitAuthority (c :: rest) = ([], c :: rest) := by
  unfold splitAuthority
  split
  · rename_i heq
    exact absurd (List.cons.inj heq).1 h
  · rfl

/-- A text that begins with neither a letter nor a slash has no authority. -/
theorem exists_split_cons (hgraphic : 32 < c.toNat) (hletter : Text.isAsciiLetter c = false)
    (hslash : c ≠ '/') : ∃ parts, split (c :: rest) = .ok parts := by
  obtain ⟨more, hclean⟩ := exists_clean_cons rest hgraphic
  have hcut : splitAuthority (splitScheme (clean (c :: rest))).2 = ([], c :: more) := by
    rw [hclean, splitScheme_cons more hletter, splitAuthority_cons more hslash]
  exact split_eq_ok hcut rfl rfl

end

end Enrolment.Url
