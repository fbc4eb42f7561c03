/-
A key belongs to the same field however it is spelt.

Changing the case of ASCII letters in a key, and adding blanks to its ends or removing
them, are the steps of `Respells`.  A key is compared with a label in small letters and
without blanks, by normal forms, and by words that it mentions.  All of these are kept by
each step: the first two by what is known of the forms, and the words because each is firm,
so that blanks at the ends of a key are no part of it.  What is true of one field is then
true of the search through all fields, and of any number of steps.
-/
import Mathlib.Logic.Relation
import Enrolment.Proofs.Text.Capitals
import Enrolment.Proofs.Text.Padding

namespace Enrolment

open Text (smallAscii IsFirm)

/-! ### Words that hint at a role -/

namespace Key

/-- What may stand between two words of a hint: one joint or nothing. -/
def IsJoining (middle : List Char) : Prop :=
  middle = [] ∨ ∃ c, middle = [c] ∧ isJoint c = true

/-- A text begins with two words just if it begins with both and what may join them. -/
theorem startsWithPair_iff {first second s : List Char} :
    startsWithPair first second s = true ↔
      ∃ middle, IsJoining middle ∧ first ++ middle ++ second <+: s := by
  unfold startsWithPair
  rw [Bool.and_eq_true, List.isPrefixOf_iff_prefix]
  constructor
  · intro h
    obtain ⟨⟨rest, rfl⟩, hrest⟩ := h
    rw [List.drop_left] at hrest
    cases rest with
    | nil =>
        refine ⟨[], .inl rfl, ?_⟩
        rw [List.isEmpty_iff.1 hrest]
        simp
    | cons c more =>
        simp only [Bool.or_eq_true, Bool.and_eq_true, List.isPrefixOf_iff_prefix] at hrest
        rcases hrest with hnext | ⟨hjoint, hnext⟩
        · refine ⟨[], .inl rfl, ?_⟩
          rw [List.append_nil]
          exact (List.prefix_append_right_inj first).2 hnext
        · refine ⟨[c], .inr ⟨c, rfl, hjoint⟩, ?_⟩
          rw [List.append_assoc]
          refine (List.prefix_append_right_inj first).2 ?_
          exact List.cons_prefix_cons.2 ⟨rfl, hnext⟩
  · intro h
    obtain ⟨middle, hmiddle, rest, rfl⟩ := h
    refine ⟨⟨middle ++ second ++ rest, by simp⟩, ?_⟩
    have hdrop : (first ++ middle ++ second ++ rest).drop first.length =
        middle ++ second ++ rest := by simp
    rw [hdrop]
    rcases hmiddle with rfl | ⟨c, rfl, hjoint⟩
    · cases hnext : [] ++ second ++ rest with
      | nil => simp_all
      | cons d more =>
          have hprefix : second <+: d :: more := by
            rw [← hnext]
            exact List.prefix_append second rest
          simp [List.isPrefixOf_iff_prefix.2 hprefix]
    · simp [hjoint]

/-- The words of which a role is hinted at by any one, in small letters. -/
def IsHint : Role → List Char → Prop
  | .firstName, word => ∃ middle, IsJoining middle ∧ word = "first".toList ++ middle ++ "name".toList
  | .lastName, word => ∃ middle, IsJoining middle ∧ word = "last".toList ++ middle ++ "name".toList
  | .email, word => word = "email".toList
  | .country, word => word = "country".toList
  | .state, word => word = "state".toList ∨ word = "province".toList
  | .password, _ => False

/-- The words that hints are made of. -/
def hintWords : List String :=
  ["first", "last", "name", "email", "country", "state", "province"]

theorem isFirm_hintWords : ∀ word ∈ hintWords, IsFirm word.toList := by
  have hall : (hintWords.all fun word =>
      !word.toList.isEmpty && word.toList.all fun c => decide (Text.IsSmallLetter c)) = true := by
    decide
  intro word hmem
  have hword := List.all_eq_true.1 hall word hmem
  rw [Bool.and_eq_true, List.all_eq_true] at hword
  refine .of_letters (by simpa using hword.1) ?_
  intro c hc
  exact of_decide_eq_true (hword.2 c hc)

theorem isFirm_of_isHint {role : Role} {word : List Char} (h : IsHint role word) : IsFirm word := by
  have hall := isFirm_hintWords
  simp only [hintWords, List.forall_mem_cons] at hall
  obtain ⟨hfirst, hlast, hname, hemail, hcountry, hstate, hprovince, -⟩ := hall
  cases role with
  | firstName =>
      obtain ⟨middle, -, rfl⟩ := h
      exact hfirst.join middle hname
  | lastName =>
      obtain ⟨middle, -, rfl⟩ := h
      exact hlast.join middle hname
  | email =>
      subst h
      exact hemail
  | country =>
      subst h
      exact hcountry
  | state =>
      rcases h with rfl | rfl
      · exact hstate
      · exact hprovince
  | password => cases h

theorem mentionsPair_iff {key first second : String} :
    mentionsPair key first second = true ↔
      ∃ middle, IsJoining middle ∧
        first.toList ++ middle ++ second.toList <:+: key.toList.map Text.caseless := by
  unfold mentionsPair
  rw [Text.anyTail_iff]
  simp only [startsWithPair_iff, List.infix_iff_prefix_suffix]
  constructor
  · intro h
    obtain ⟨tail, hsuffix, middle, hmiddle, hprefix⟩ := h
    exact ⟨middle, hmiddle, tail, hprefix, hsuffix⟩
  · intro h
    obtain ⟨middle, hmiddle, tail, hprefix, hsuffix⟩ := h
    exact ⟨tail, hsuffix, middle, hmiddle, hprefix⟩

/-- A key mentions a role just if one of its hints stands in the key, case ignored. -/
theorem hintsAt_iff {key : String} {role : Role} :
    hintsAt key role = true ↔
      ∃ word, IsHint role word ∧ word <:+: key.toList.map Text.caseless := by
  have hmentions (word : String) (hword : word.toList.map Text.caseless = word.toList) :
      Text.mentions key word = true ↔ word.toList <:+: key.toList.map Text.caseless := by
    unfold Text.mentions Text.occurs
    rw [hword]
    exact Match.isWithin_iff
  cases role with
  | firstName => simp [hintsAt, IsHint, mentionsPair_iff]
  | lastName => simp [hintsAt, IsHint, mentionsPair_iff]
  | email => simp [hintsAt, IsHint, hmentions "email" rfl]
  | country => simp [hintsAt, IsHint, hmentions "country" rfl]
  | state => simp [hintsAt, IsHint, hmentions "state" rfl, hmentions "province" rfl]
  | password => simp [hintsAt, IsHint]

theorem hintsAt_trim (key : String) (role : Role) :
    hintsAt (Text.trim key) role = hintsAt key role := by
  rw [Bool.eq_iff_iff, hintsAt_iff, hintsAt_iff, Text.toList_trim]
  refine exists_congr fun word => and_congr_right fun hword => ?_
  exact (isFirm_of_isHint hword).infix_caseless_strip_iff key.toList

theorem hintsAt_smallAscii (key : String) (role : Role) :
    hintsAt (smallAscii key) role = hintsAt key role := by
  rw [Bool.eq_iff_iff, hintsAt_iff, hintsAt_iff, caseless_smallAscii]

end Key

/-! ### The field of a key -/

namespace Text

theorem trim_smallAscii (s : String) : trim (smallAscii s) = smallAscii (trim s) := by
  rw [← String.toList_inj, toList_trim, toList_smallAscii, toList_smallAscii, toList_trim,
    strip_map isBlank_asciiLower]

theorem lower_smallAscii (s : String) : lower (smallAscii s) = lower s := by
  rw [← String.toList_inj, toList_lower, toList_lower, toList_smallAscii, lowerChars_map]

theorem isBlankText_smallAscii (s : String) : isBlankText (smallAscii s) = isBlankText s := by
  have hcomp : isBlank ∘ asciiLower = isBlank := funext isBlank_asciiLower
  unfold isBlankText
  rw [toList_smallAscii, List.all_map, hcomp]

end Text

namespace Match

variable (fields : List Field) (key : String)

theorem explains_trim (field : Field) : explains field (Text.trim key) = explains field key := by
  have hhints : Key.hintsAt (Text.trim key) = Key.hintsAt key := funext (Key.hintsAt_trim key)
  unfold explains
  rw [Text.trim_trim, Key.normal_trim, hhints]

theorem explains_smallAscii (field : Field) :
    explains field (smallAscii key) = explains field key := by
  have hhints : Key.hintsAt (smallAscii key) = Key.hintsAt key :=
    funext (Key.hintsAt_smallAscii key)
  unfold explains
  rw [Text.trim_smallAscii, Text.lower_smallAscii, Key.normal_smallAscii, hhints]

/-- Blanks at the ends of a key do not change its field. -/
theorem field?_trim : field? (Text.trim key) fields = field? key fields := by
  unfold field?
  simp only [Text.isBlankText_trim, explains_trim]

/-- Nor do capitals. -/
theorem field?_smallAscii : field? (smallAscii key) fields = field? key fields := by
  unfold field?
  simp only [Text.isBlankText_smallAscii, explains_smallAscii]

end Match

/-! ### Spellings of a key -/

/-- A step from one spelling of a key to another. -/
inductive Key.Respells : String → String → Prop
  /-- ASCII letters are changed in case. -/
  | recase {key other : String} (h : smallAscii key = smallAscii other) : Respells key other
  /-- Blanks are put in front of the key and behind it. -/
  | pad (before : List Char) (key : String) (after : List Char)
      (hbefore : ∀ c ∈ before, Text.isBlank c = true)
      (hafter : ∀ c ∈ after, Text.isBlank c = true) :
      Respells key (String.ofList (before ++ key.toList ++ after))

namespace Key

variable {α : Type} {f : String → α} {key other : String}
  (htrim : ∀ s, f (Text.trim s) = f s) (hsmall : ∀ s, f (smallAscii s) = f s)
include htrim hsmall

/-- A step leaves alone whatever depends neither on blanks at the ends of a text nor on capitals. -/
theorem eq_of_respells (h : Respells key other) : f other = f key := by
  cases h with
  | recase h => rw [← hsmall key, h, hsmall]
  | pad before _ after hbefore hafter =>
      have hcut : Text.trim (String.ofList (before ++ key.toList ++ after)) = Text.trim key := by
        rw [← String.toList_inj, Text.toList_trim, Text.toList_trim, String.toList_ofList,
          Text.strip_between hbefore key.toList hafter]
      rw [← htrim, hcut, htrim]

/-- And so does any number of steps. -/
theorem eq_of_eqvGen (h : Relation.EqvGen Respells key other) : f other = f key := by
  have hstep : ∀ s t, Respells s t → f s = f t := fun s t hs =>
    (eq_of_respells htrim hsmall hs).symm
  exact ((eq_equivalence.comap f).eqvGen_iff.1 (h.mono hstep)).symm

end Key

namespace Match

/-- A step leaves the field of a key alone. -/
theorem field?_of_respells {key other : String} (h : Key.Respells key other)
    (fields : List Field) : field? other fields = field? key fields :=
  Key.eq_of_respells (f := fun key => field? key fields) (field?_trim fields)
    (field?_smallAscii fields) h

/-- **A key belongs to the same field, or to none, however it is spelt:** ASCII letters may change
their case, and blanks may be added to the ends of the key or removed, any number of times. -/
theorem field?_of_eqvGen {key other : String} (h : Relation.EqvGen Key.Respells key other)
    (fields : List Field) : field? other fields = field? key fields := by
  induction h with
  | rel key other hstep => exact field?_of_respells hstep fields
  | refl key => rfl
  | symm key other _ ih => exact ih.symm
  | trans key between other _ _ ihfirst ihsecond => exact ihsecond.trans ihfirst

/-- A form whose only field is found by a hint at its role. -/
def areaForm : List Field :=
  [⟨none, .text, "Area", "", false, .plain, some .state, false, [], none⟩]

/-- The hint is seen in a padded key in capitals, from which blanks were removed as well. -/
theorem province_respelt :
    Relation.EqvGen Key.Respells "province  " "\t PROVINCE\n" ∧
      field? "\t PROVINCE\n" areaForm = field? "province  " areaForm ∧
      (field? "\t PROVINCE\n" areaForm).map (·.position) = some 0 := by
  have hshort : Key.Respells "province" "province  " :=
    .pad [] "province" [' ', ' '] (List.forall_mem_nil _) (List.all_eq_true.1 (by decide))
  have hlong : Key.Respells "PROVINCE" "\t PROVINCE\n" :=
    .pad ['\t', ' '] "PROVINCE" ['\n'] (List.all_eq_true.1 (by decide))
      (List.all_eq_true.1 (by decide))
  have hrespelt : Relation.EqvGen Key.Respells "province  " "\t PROVINCE\n" :=
    (Relation.EqvGen.rel _ _ hshort).symm.trans _ _ _
      ((Relation.EqvGen.rel _ _ (.recase (by decide))).trans _ _ _ (.rel _ _ hlong))
  refine ⟨hrespelt, field?_of_eqvGen hrespelt areaForm, ?_⟩
  decide

end Match

end Enrolment
