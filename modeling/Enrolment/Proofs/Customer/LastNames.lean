/-
The first name of a customer who is asked for a last name only.

If all keys that speak of a name are keys for a last name (`HasOnlyLastNames`), no key of its own
gives a full name, so it is made of what there is: of the answer under the first key for a last
name, or if that is blank, of the first answer that is not (`familyName?`).  It is then split for
want of a first name, and its words stand in for one.  So the fallback is the first name of this
customer just if there is no such answer, or one that begins with the fallback itself.
-/
import Enrolment.Proofs.Customer.Names
import Enrolment.Proofs.Customer.Shape
import Enrolment.Proofs.Text.Words

namespace Enrolment

namespace Customer

variable {data : Members} {name : String}

/-- What is left of an answer that is not blank has a word. -/
theorem words_valueText_ne_nil {value : Json} (h : Clue.valueText value ≠ "") :
    Text.words (Clue.valueText value).toList ≠ [] := by
  intro hnil
  rw [Text.words_eq_nil_iff, Clue.valueText, ← Text.strip_eq_nil_iff, Text.toList_trim,
    Text.strip_strip, ← Text.toList_trim, String.toList_eq_nil_iff] at hnil
  exact h hnil

/-! ### Keys for a last name -/

/-- Whether all answers whose keys speak of a name are for a last name, and none for a first. -/
structure HasOnlyLastNames (data : Members) : Prop where
  last : ∀ answer ∈ data, (normalContains answer.1 "name" = true ∨
    normalContains answer.1 "first" = true ∨ normalContains answer.1 "last" = true) →
    isLastNameKey answer.1 = true
  not_first : ∀ answer ∈ data, isFirstNameKey answer.1 = false

/-- The names of keys for a full name speak of a name, and not of a last name. -/
theorem not_isLastNameKey_of_mem {key : String} (hname : name ∈ fullNameKeys)
    (hkey : Key.normal key = name.toList) :
    normalContains key "name" = true ∧ isLastNameKey key = false := by
  have hnames : ∀ name ∈ fullNameKeys, Text.anyTail "name".toList.isPrefixOf name.toList = true ∧
      ((["lastname", "last", "surname", "familyname"].any fun other =>
          name.toList = other.toList) ||
        (Text.anyTail "name".toList.isPrefixOf name.toList &&
          ["last", "sur", "family"].any fun part =>
            Text.anyTail part.toList.isPrefixOf name.toList)) = false := by
    decide
  have hfull := hnames name hname
  rw [← hkey] at hfull
  exact hfull

/-- The name of a customer who gives a last name only: the answer under the first key for one, or
else the first that is not blank. -/
def familyName? (data : Members) : Option String :=
  (nonempty? (firstText isLastNameKey data)).or (firstNonempty? suggestsName data)

theorem nonempty?_eq_some_iff {s : String} : nonempty? s = some name ↔ s = name ∧ name ≠ "" := by
  unfold nonempty?
  by_cases hempty : s = ""
  · rw [if_pos hempty]
    refine iff_of_false nofun ?_
    intro h
    exact h.2 (h.1.symm.trans hempty)
  · rw [if_neg hempty, Option.some_inj]
    constructor
    · intro h
      exact ⟨h, h ▸ hempty⟩
    · intro h
      exact h.1

theorem exists_of_firstText_ne {isKey : String → Bool} (h : firstText isKey data ≠ "") :
    ∃ answer ∈ data, isKey answer.1 = true ∧ Clue.valueText answer.2 = firstText isKey data := by
  rw [firstText_eq] at h ⊢
  cases hfind : data.find? fun answer => isKey answer.1 with
  | none =>
      rw [hfind] at h
      exact absurd rfl h
  | some answer =>
      have hkey := List.find?_some hfind
      exact ⟨answer, List.mem_of_find?_eq_some hfind, hkey, rfl⟩

namespace HasOnlyLastNames

variable (h : HasOnlyLastNames data)
include h

theorem firstText_first : firstText isFirstNameKey data = "" := by
  have hnone := firstText_append_of_not h.not_first []
  rwa [List.append_nil] at hnone

theorem keyedName?_eq_none : keyedName? data = none := by
  unfold keyedName? firstNonempty?
  rw [List.findSome?_eq_none_iff]
  intro name hname
  rw [List.findSome?_eq_none_iff]
  intro answer hanswer
  refine if_neg ?_
  intro hkey
  obtain ⟨hspeaks, hnot⟩ := not_isLastNameKey_of_mem hname (of_decide_eq_true hkey)
  rw [h.last answer hanswer (.inl hspeaks)] at hnot
  cases hnot

theorem fullName_eq_familyName : fullName data = (familyName? data).getD "" := by
  have hexplicit : explicitNames data = ("", firstText isLastNameKey data) := by
    rw [explicitNames, h.firstText_first]
  rw [fullName_eq, h.keyedName?_eq_none, hexplicit, joinedName_of_last]
  rfl

/-- What stands for the name was given for a last name. -/
theorem exists_of_familyName? (hname : familyName? data = some name) :
    ∃ answer ∈ data, isLastNameKey answer.1 = true ∧ Clue.valueText answer.2 = name ∧ name ≠ "" := by
  rcases Option.or_eq_some_iff.1 hname with hlast | ⟨-, hsuggested⟩
  · obtain ⟨hlast, hne⟩ := nonempty?_eq_some_iff.1 hlast
    have hsome : firstText isLastNameKey data ≠ "" := hlast ▸ hne
    obtain ⟨answer, hmem, hkey, hvalue⟩ := exists_of_firstText_ne hsome
    exact ⟨answer, hmem, hkey, hvalue.trans hlast, hne⟩
  · obtain ⟨answer, hmem, hanswer⟩ := List.exists_of_findSome?_eq_some hsuggested
    obtain ⟨hkey, hvalue⟩ := Option.ite_none_right_eq_some.1 hanswer
    obtain ⟨hvalue, hne⟩ := nonempty?_eq_some_iff.1 hvalue
    have hspeaks : normalContains answer.1 "name" = true := by
      unfold suggestsName at hkey
      rw [Bool.and_eq_true] at hkey
      exact hkey.1
    exact ⟨answer, hmem, h.last answer hmem (.inl hspeaks), hvalue, hne⟩

end HasOnlyLastNames

/-! ### The first name -/

theorem ofList_eq_fallback_iff {word : List Char} :
    String.ofList word = fallbackFirstName ↔ word = fallbackFirstName.toList := by
  rw [← String.toList_inj, String.toList_ofList]

/-- A full name is split into the fallback and something else just if it is the fallback, perhaps
with one more word. -/
theorem splitWords_fst_eq_iff {full : String} (hwords : Text.words full.toList ≠ []) :
    (splitWords full).1 = fallbackFirstName ↔
      ∃ others, Text.words full.toList = fallbackFirstName.toList :: others ∧ others.length ≤ 1 := by
  unfold splitWords
  generalize Text.words full.toList = words at hwords ⊢
  match words with
  | [] => exact absurd rfl hwords
  | [word] =>
      rw [ofList_eq_fallback_iff]
      simp
  | [word, last] =>
      show String.ofList ([' '].intercalate [word]) = fallbackFirstName ↔ _
      rw [List.intercalate_singleton, ofList_eq_fallback_iff]
      simp
  | word :: second :: third :: others =>
      refine iff_of_false ?_ ?_
      · -- There is a space between the first two words, and none in the fallback.
        intro h
        rw [ofList_eq_fallback_iff, List.dropLast_cons_cons, List.dropLast_cons_cons] at h
        have hspace : ' ' ∈ fallbackFirstName.toList := by
          rw [← h, List.intercalate_cons_cons]
          simp
        revert hspace
        decide
      · intro h
        obtain ⟨rest, hrest, hlength⟩ := h
        rw [List.cons.injEq] at hrest
        rw [← hrest.2] at hlength
        simp at hlength

/-- Whether a first name that is made of the words of another name is the fallback: its first word
is, and if all but the last word are taken, there is at most one more. -/
def BeginsWithFallback (data : Members) (name : String) : Prop :=
  ∃ others, Text.words name.toList = fallbackFirstName.toList :: others ∧
    (firstText isLastNameKey data = "" → others.length ≤ 1)

theorem HasOnlyLastNames.names_fst_eq_iff (h : HasOnlyLastNames data) :
    (names data).1 = fallbackFirstName ↔
      ∀ name ∈ familyName? data, BeginsWithFallback data name := by
  have hfull := h.fullName_eq_familyName
  unfold names
  cases hname : familyName? data with
  | none =>
      have hlast : firstText isLastNameKey data = "" := by
        by_contra hne
        rw [familyName?, nonempty?, if_neg hne, Option.some_or] at hname
        cases hname
      rw [hname, Option.getD_none] at hfull
      rw [hfull, splitName_of_none _ h.firstText_first hlast]
      refine iff_of_true rfl ?_
      intro name hname
      cases hname
  | some name =>
      obtain ⟨answer, -, -, rfl, hne⟩ := h.exists_of_familyName? hname
      have hwords := words_valueText_ne_nil hne
      rw [hname, Option.getD_some] at hfull
      rw [hfull]
      simp only [Option.mem_some_iff, forall_eq']
      unfold BeginsWithFallback
      by_cases hlast : firstText isLastNameKey data = ""
      · rw [splitName_of_none _ h.firstText_first hlast, splitWords_fst_eq_iff hwords]
        simp [hlast]
      · rw [splitName_of_last _ h.firstText_first hlast]
        obtain ⟨word, others, hsplit⟩ := List.exists_cons_of_ne_nil hwords
        rw [hsplit]
        show String.ofList word = fallbackFirstName ↔ _
        rw [ofList_eq_fallback_iff]
        simp [hlast]

theorem names_of_draft? {request : Request} {draft : Draft} {table : Option Place.Table}
    (h : draft? request table = some draft) :
    draft.firstName = (names request.data).1 ∧ draft.lastName = (names request.data).2 := by
  rw [draft?_eq] at h
  obtain ⟨email, -, rfl⟩ := Option.map_eq_some_iff.1 h
  exact ⟨rfl, rfl⟩

/-- **A customer who is asked for a last name only has the fallback for a first name just if no
last name is given, or one that begins with the fallback.**  Any other last name stands in for the
first name too. -/
theorem draft?_firstName_of_onlyLastNames {request : Request} {draft : Draft}
    {table : Option Place.Table} (h : HasOnlyLastNames request.data)
    (hdraft : draft? request table = some draft) :
    (draft.firstName = fallbackFirstName ↔
      ∀ name ∈ familyName? request.data, BeginsWithFallback request.data name) ∧
    ∀ name ∈ familyName? request.data, ∃ answer ∈ request.data,
      isLastNameKey answer.1 = true ∧ Clue.valueText answer.2 = name ∧ name ≠ "" := by
  rw [(names_of_draft? hdraft).1]
  exact ⟨h.names_fst_eq_iff, fun name hname => h.exists_of_familyName? hname⟩

/-- A request with an answer for a last name only. -/
def lastNameRequest (answer : String) : Request where
  id := none
  data := [("Last Name", .str answer)]
  email := some "ada@x.org"
  files := []

theorem exists_draft?_lastNameRequest (answer : String) :
    ∃ draft, draft? (lastNameRequest answer) none = some draft ∧
      draft.firstName = (names (lastNameRequest answer).data).1 ∧
      draft.lastName = (names (lastNameRequest answer).data).2 := by
  have hemail : email? (lastNameRequest answer).email (lastNameRequest answer).data =
      some "ada@x.org" := rfl
  have hdraft := draft?_of_email hemail none
  exact ⟨_, hdraft, names_of_draft? hdraft⟩

/-- A last name that begins with the fallback leaves it in place. -/
theorem customer_king_keeps_fallback :
    HasOnlyLastNames (lastNameRequest " Customer King").data ∧
      ∃ draft, draft? (lastNameRequest " Customer King") none = some draft ∧
        draft.firstName = "Customer" := by
  have honly : HasOnlyLastNames (lastNameRequest " Customer King").data :=
    ⟨by decide, by decide⟩
  have hname : familyName? (lastNameRequest " Customer King").data = some "Customer King" := by
    decide
  have hbegins : BeginsWithFallback (lastNameRequest " Customer King").data "Customer King" :=
    ⟨["King".toList], by decide, by decide⟩
  obtain ⟨draft, hdraft, -⟩ := exists_draft?_lastNameRequest " Customer King"
  refine ⟨honly, draft, hdraft, (draft?_firstName_of_onlyLastNames honly hdraft).1.2 ?_⟩
  intro name hmem
  rw [hname] at hmem
  rwa [← Option.some.inj hmem]

/-- Any other last name is taken for both. -/
theorem last_name_taken_for_both :
    HasOnlyLastNames (lastNameRequest "King").data ∧
      ∃ draft, draft? (lastNameRequest "King") none = some draft ∧
        draft.firstName = "King" ∧ draft.lastName = "King" := by
  have hnames : names (lastNameRequest "King").data = ("King", "King") := by decide
  obtain ⟨draft, hdraft, hfirst, hlast⟩ := exists_draft?_lastNameRequest "King"
  rw [hnames] at hfirst hlast
  exact ⟨⟨by decide, by decide⟩, draft, hdraft, hfirst, hlast⟩

end Customer

end Enrolment
