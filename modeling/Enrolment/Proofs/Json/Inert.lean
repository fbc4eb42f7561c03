/-
The inert form is the ASCII form with two words replaced.

`write` puts the escapes of `</` and `<!--` in place while it writes a string.  The
same text is got by writing plain ASCII first and replacing `</` by `<\/` and then
`<!--` by `<\u0021--` in all of it.  That is a statement about a whole text, in which
a replacement could also meet brackets, commas and numerals, or the middle of an
escape.  It does not: both words begin with `<`, which is written only as itself
inside a string, and a string's last character is followed by a quote, so no word
reaches out of the string it begins in.

The second pass sees the text that the first one left.  It finds no word there that
the first one made, since what the first pass inserts behind `<` is a backslash.
-/
import Enrolment.Proofs.Json.RoundTrip

namespace Enrolment.Json

open Text (hexDigit)

/-- A text with a word replaced at every place, from left to right. -/
def replaceAll (word new : List Char) : List Char → List Char
  | [] => []
  | c :: rest =>
    if word.isPrefixOf (c :: rest) then new ++ replaceAll word new (rest.drop (word.length - 1))
    else c :: replaceAll word new rest
termination_by s => s.length

/-- The form of a string in ASCII: every character in its written form. -/
def asciiText (s : String) : List Char :=
  '"' :: (s.toList.flatMap writeChar ++ ['"'])

/-- The compact ASCII form of a value. -/
def ascii (value : Json) : List Char :=
  writeWith asciiText value

/-- First `</` and then `<!--` replaced by spellings that mean nothing to markup. -/
def inert (s : List Char) : List Char :=
  replaceAll "<!--".toList "<\\u0021--".toList (replaceAll "</".toList "<\\/".toList s)

/-! ### One pass -/

theorem replaceAll_nil (word new : List Char) : replaceAll word new [] = [] := by
  rw [replaceAll]

theorem replaceAll_of_match (c : Char) (word new s : List Char) :
    replaceAll (c :: word) new (c :: word ++ s) = new ++ replaceAll (c :: word) new s := by
  rw [List.cons_append, replaceAll, if_pos (by simp)]
  simp

theorem replaceAll_of_no_match {word : List Char} {c : Char} {s : List Char} (new : List Char)
    (h : word.isPrefixOf (c :: s) = false) :
    replaceAll word new (c :: s) = c :: replaceAll word new s := by
  rw [replaceAll, if_neg (by rw [h]; exact Bool.false_ne_true)]

theorem isPrefixOf_cons_of_ne {c d : Char} (h : d ≠ c) (word s : List Char) :
    (d :: word).isPrefixOf (c :: s) = false := by
  rw [List.isPrefixOf, beq_false_of_ne h, Bool.false_and]

/-- A pass keeps a piece that does not hold the first character of its word. -/
theorem replaceAll_append_of_not_mem {word piece : List Char} {d : Char} (h : d ∉ piece)
    (new s : List Char) :
    replaceAll (d :: word) new (piece ++ s) = piece ++ replaceAll (d :: word) new s := by
  induction piece with
  | nil => rfl
  | cons c piece ih =>
      rw [List.mem_cons, not_or] at h
      have hno := isPrefixOf_cons_of_ne h.1 word (piece ++ s)
      rw [List.cons_append, replaceAll_of_no_match new hno, ih h.2, List.cons_append]

/-- A pass makes no new front of a text: what it inserts begins as its word does. -/
theorem prefix_of_prefix_replaceAll {word new front : List Char} {d : Char} (h : d ∉ front)
    {s : List Char} (hfront : front <+: replaceAll (d :: word) (d :: new) s) : front <+: s := by
  induction front generalizing s with
  | nil => exact List.nil_prefix
  | cons c front ih =>
      rw [List.mem_cons, not_or] at h
      cases s with
      | nil =>
          rw [replaceAll_nil] at hfront
          exact hfront
      | cons e s =>
          rw [replaceAll] at hfront
          by_cases hword : (d :: word).isPrefixOf (e :: s) = true
          · rw [if_pos hword, List.cons_append, List.cons_prefix_cons] at hfront
            exact absurd hfront.1.symm h.1
          · rw [if_neg hword, List.cons_prefix_cons] at hfront
            exact List.cons_prefix_cons.mpr ⟨hfront.1, ih h.2 hfront.2⟩

/-! ### Both passes -/

/-- The passes, with their words as lists. -/
theorem inert_eq (s : List Char) :
    inert s = replaceAll ['<', '!', '-', '-'] ('<' :: (writeUnit 0x21 ++ ['-', '-']))
      (replaceAll ['<', '/'] ['<', '\\', '/'] s) :=
  rfl

theorem inert_append_of_not_mem {piece : List Char} (h : '<' ∉ piece) (s : List Char) :
    inert (piece ++ s) = piece ++ inert s := by
  rw [inert_eq, replaceAll_append_of_not_mem h, replaceAll_append_of_not_mem h, inert_eq]

theorem inert_cons_of_ne {c : Char} (h : c ≠ '<') (s : List Char) :
    inert (c :: s) = c :: inert s := by
  have hmem : '<' ∉ [c] := fun hmem => h (List.mem_singleton.mp hmem).symm
  exact inert_append_of_not_mem hmem s

theorem inert_closing (s : List Char) :
    inert ('<' :: '/' :: s) = '<' :: '\\' :: '/' :: inert s := by
  have hfirst := replaceAll_of_match '<' ['/'] ['<', '\\', '/'] s
  have hmem : '<' ∉ ['\\', '/'] := by decide
  rw [inert_eq, show '<' :: '/' :: s = ['<', '/'] ++ s from rfl, hfirst]
  rw [List.cons_append, replaceAll_of_no_match _ rfl, replaceAll_append_of_not_mem hmem,
    inert_eq]
  rfl

theorem inert_comment (s : List Char) :
    inert ('<' :: '!' :: '-' :: '-' :: s) = '<' :: (writeUnit 0x21 ++ '-' :: '-' :: inert s) := by
  have hmem : '<' ∉ ['!', '-', '-'] := by decide
  have hfirst : replaceAll ['<', '/'] ['<', '\\', '/'] ('<' :: '!' :: '-' :: '-' :: s) =
      ['<', '!', '-', '-'] ++ replaceAll ['<', '/'] ['<', '\\', '/'] s := by
    rw [replaceAll_of_no_match _ rfl,
      show '!' :: '-' :: '-' :: s = ['!', '-', '-'] ++ s from rfl,
      replaceAll_append_of_not_mem hmem]
    rfl
  rw [inert_eq, hfirst, replaceAll_of_match, inert_eq]
  simp

/-- A `<` that begins neither word stays. -/
theorem inert_of_no_word {s : List Char} (hclosing : ¬ ['/'] <+: s)
    (hcomment : ¬ ['!', '-', '-'] <+: s) : inert ('<' :: s) = '<' :: inert s := by
  have hfirst : ['<', '/'].isPrefixOf ('<' :: s) = false := by
    rw [← Bool.not_eq_true, List.isPrefixOf_iff_prefix, List.cons_prefix_cons]
    exact fun h => hclosing h.2
  have hsecond : ['<', '!', '-', '-'].isPrefixOf
      ('<' :: replaceAll ['<', '/'] ['<', '\\', '/'] s) = false := by
    rw [← Bool.not_eq_true, List.isPrefixOf_iff_prefix, List.cons_prefix_cons]
    exact fun h => hcomment (prefix_of_prefix_replaceAll (by decide) h.2)
  rw [inert_eq, replaceAll_of_no_match _ hfirst, replaceAll_of_no_match _ hsecond, inert_eq]

/-! ### Strings -/

theorem not_mem_hexDigit {n : Nat} (h : n < 16) : hexDigit n ≠ '<' := by
  have key : ∀ m : Fin 16, hexDigit m ≠ '<' := by decide
  exact key ⟨n, h⟩

theorem not_mem_writeUnit (unit : Nat) : '<' ∉ writeUnit unit := by
  have hmod : ∀ m : Nat, m % 16 < 16 := fun m => Nat.mod_lt m (by decide)
  simp only [writeUnit, hexDigits_four, List.mem_cons, List.not_mem_nil, or_false, not_or]
  exact ⟨by decide, by decide, (not_mem_hexDigit (hmod _)).symm, (not_mem_hexDigit (hmod _)).symm,
    (not_mem_hexDigit (hmod _)).symm, (not_mem_hexDigit (hmod _)).symm⟩

/-- Only `<` itself is written with a `<`. -/
theorem not_mem_written {c : Char} {form : List Char} (h : Written c form) (hc : c ≠ '<') :
    '<' ∉ form := by
  have hmarks : ∀ m ∈ marks, m ≠ '<' := by simp [marks]
  cases h with
  | mark hm _ => simp [(hmarks _ hm).symm]
  | plain _ _ _ => simp [hc.symm]
  | unit _ => exact not_mem_writeUnit _
  | pair _ =>
      rw [List.mem_append, not_or]
      exact ⟨not_mem_writeUnit _, not_mem_writeUnit _⟩

/-- A character is written by an escape or as itself. -/
theorem written_front {c : Char} {form : List Char} (h : Written c form) :
    (∃ t, form = '\\' :: t) ∨ form = [c] := by
  cases h with
  | mark _ _ => exact Or.inl ⟨_, rfl⟩
  | plain _ _ _ => exact Or.inr rfl
  | unit _ => exact Or.inl ⟨_, by rw [writeUnit]⟩
  | pair _ => exact Or.inl ⟨_, by rw [writeUnit, List.cons_append]⟩

/-- A word of plain characters in front of a written string is in front of the string. -/
theorem prefix_of_prefix_flatMap {word s t : List Char} (hslash : '\\' ∉ word)
    (hquote : '"' ∉ word) (h : word <+: s.flatMap writeChar ++ '"' :: t) : word <+: s := by
  induction word generalizing s with
  | nil => exact List.nil_prefix
  | cons d word ih =>
      rw [List.mem_cons, not_or] at hslash hquote
      cases s with
      | nil =>
          rw [List.flatMap_nil, List.nil_append, List.cons_prefix_cons] at h
          exact absurd h.1.symm hquote.1
      | cons c s =>
          rw [List.flatMap_cons, List.append_assoc] at h
          rcases written_front (written_writeChar c) with ⟨u, hform⟩ | hform
          · rw [hform, List.cons_append, List.cons_prefix_cons] at h
            exact absurd h.1.symm hslash.1
          · rw [hform, List.cons_append, List.nil_append, List.cons_prefix_cons] at h
            exact List.cons_prefix_cons.mpr ⟨h.1, ih hslash.2 hquote.2 h.2⟩

/-- **Both passes turn the ASCII body of a string into its written body, and go on behind its
closing quote.** -/
theorem inert_flatMap (s t : List Char) :
    inert (s.flatMap writeChar ++ '"' :: t) = writeChars s ++ '"' :: inert t := by
  fun_induction writeChars s with
  | case1 s ih =>
      rw [List.flatMap_cons, List.flatMap_cons, show writeChar '<' = ['<'] from rfl,
        show writeChar '/' = ['/'] from rfl]
      simp only [List.cons_append, List.nil_append]
      rw [inert_closing, ih]
  | case2 s ih =>
      rw [List.flatMap_cons, List.flatMap_cons, List.flatMap_cons, List.flatMap_cons,
        show writeChar '<' = ['<'] from rfl, show writeChar '!' = ['!'] from rfl,
        show writeChar '-' = ['-'] from rfl]
      simp only [List.cons_append, List.nil_append, List.append_assoc]
      rw [inert_comment, ih]
  | case3 c s hclosing hcomment ih =>
      rw [List.flatMap_cons, List.append_assoc, List.append_assoc, ← ih]
      by_cases hc : c = '<'
      · rw [hc, show writeChar '<' = ['<'] from rfl]
        refine inert_of_no_word (fun h => ?_) (fun h => ?_)
        · obtain ⟨u, rfl⟩ := prefix_of_prefix_flatMap (by decide) (by decide) h
          exact hclosing u hc rfl
        · obtain ⟨u, rfl⟩ := prefix_of_prefix_flatMap (by decide) (by decide) h
          exact hcomment u hc rfl
      · exact inert_append_of_not_mem (not_mem_written (written_writeChar c) hc) _
  | case4 =>
      rw [List.flatMap_nil, List.nil_append, List.nil_append]
      exact inert_cons_of_ne (by decide) t

theorem inert_asciiText (s : String) (t : List Char) :
    inert (asciiText s ++ t) = writeText s ++ inert t := by
  simp only [asciiText, writeText, List.cons_append, List.append_assoc, List.nil_append]
  rw [inert_cons_of_ne (by decide), inert_flatMap]

/-! ### Values -/

/-- Both passes turn the ASCII form of a value into its written form, and go on behind it. -/
def MadeInert (value : Json) : Prop :=
  ∀ t, inert (writeWith asciiText value ++ t) = write value ++ inert t

theorem inert_writeItems {items : List Json} (h : ∀ item ∈ items, MadeInert item)
    (t : List Char) :
    inert (writeItemsWith asciiText items ++ t) = writeItems items ++ inert t := by
  induction items with
  | nil => rfl
  | cons item items ih =>
      rw [List.forall_mem_cons] at h
      cases items with
      | nil =>
          rw [writeItemsWith_singleton, writeItems_singleton]
          exact h.1 t
      | cons next items =>
          rw [writeItems_cons_cons, writeItemsWith_cons_cons, List.append_assoc, h.1,
            List.cons_append, inert_cons_of_ne (by decide), ih h.2, List.append_assoc,
            List.cons_append]

theorem inert_writeMembers {members : Members} (h : ∀ member ∈ members, MadeInert member.2)
    (t : List Char) :
    inert (writeMembersWith asciiText members ++ t) = writeMembers members ++ inert t := by
  induction members with
  | nil => rfl
  | cons member members ih =>
      obtain ⟨key, value⟩ := member
      rw [List.forall_mem_cons] at h
      have hvalue : MadeInert value := h.1
      cases members with
      | nil =>
          rw [writeMembersWith_singleton, writeMembers_singleton, List.append_assoc, inert_asciiText,
            List.cons_append, inert_cons_of_ne (by decide), hvalue, List.append_assoc,
            List.cons_append]
      | cons next members =>
          rw [writeMembers_cons_cons, writeMembersWith_cons_cons]
          simp only [List.append_assoc, List.cons_append]
          rw [inert_asciiText, inert_cons_of_ne (by decide), hvalue, inert_cons_of_ne (by decide),
            ih h.2]

theorem madeInert {value : Json} (h : Plain value) : MadeInert value := by
  induction h with
  | null =>
      intro t
      rw [write, writeWith_null, writeWith_null]
      exact inert_append_of_not_mem (by decide) t
  | bool value =>
      intro t
      cases value with
      | true =>
          rw [write, writeWith_true, writeWith_true]
          exact inert_append_of_not_mem (by decide) t
      | false =>
          rw [write, writeWith_false, writeWith_false]
          exact inert_append_of_not_mem (by decide) t
  | int n =>
      intro t
      rw [write, writeWith_int, writeWith_int]
      refine inert_append_of_not_mem (fun hmem => ?_) t
      rcases mem_ofInt hmem with hdigit | hminus
      · exact ne_of_isAsciiDigit hdigit (d := '<') rfl rfl
      · exact absurd hminus (by decide)
  | str s =>
      intro t
      rw [write, writeWith_str, writeWith_str]
      exact inert_asciiText s t
  | @arr items _ ih =>
      intro t
      rw [write_arr, writeWith_arr]
      simp only [List.cons_append, List.append_assoc, List.nil_append]
      rw [inert_cons_of_ne (by decide), inert_writeItems ih, inert_cons_of_ne (by decide)]
  | @obj members _ _ ih =>
      intro t
      rw [write_obj, writeWith_obj]
      simp only [List.cons_append, List.append_assoc, List.nil_append]
      rw [inert_cons_of_ne (by decide), inert_writeMembers ih, inert_cons_of_ne (by decide)]

/-- **The written form of a plain value is its ASCII form after both passes.** -/
theorem write_eq_inert_ascii {value : Json} (h : Plain value) :
    write value = inert (ascii value) := by
  have hmade := madeInert h []
  rw [List.append_nil, show inert [] = [] from by rw [inert_eq, replaceAll_nil, replaceAll_nil],
    List.append_nil] at hmade
  exact hmade.symm

end Enrolment.Json
