/-
Where the names of a customer come from.

A full name under a key of its own comes first, then a first and a last name under theirs, then
any key that speaks of a name.  Two of these searches pass over blank answers and the one in
between does not: the first key for a first name decides, and the first for a last name, whatever
the answers are.  So a blank answer hides the name behind it (`Hides`), and that is the only
difference it makes.

The full name is put together from the last name if there is nothing else, and then split again:
so the words of the last name stand in for the first name that is not there.
-/
import Enrolment.Proofs.Customer.Ignored
import Enrolment.Proofs.Text.Basic

namespace Enrolment.Customer

/-! ### The three searches -/

/-- The full name under a key of its own. -/
def keyedName? (data : Members) : Option String :=
  fullNameKeys.findSome? fun name => firstNonempty? (fun key => Key.normal key = name.toList) data

/-- A first and a last name with a space between them, or the one that is not empty. -/
def joinedName (names : String × String) : String :=
  " ".intercalate ([names.1, names.2].filter (· ≠ ""))

theorem fullName_eq (data : Members) :
    fullName data = ((keyedName? data).or <| (nonempty? (joinedName (explicitNames data))).or <|
      firstNonempty? suggestsName data).getD "" :=
  rfl

variable {isKey : String → Bool} {front back data : Members} {key : String} {value : Json}

theorem firstText_cons (isKey : String → Bool) (key : String) (value : Json) (rest : Members) :
    firstText isKey ((key, value) :: rest) =
      if isKey key = true then Clue.valueText value else firstText isKey rest := by
  unfold firstText
  by_cases hkey : isKey key = true
  · simp [hkey]
  · simp [hkey]

theorem firstText_eq (isKey : String → Bool) (data : Members) :
    firstText isKey data = (data.find? fun answer => isKey answer.1).elim "" fun answer =>
      Clue.valueText answer.2 := by
  induction data with
  | nil => rfl
  | cons answer rest ih =>
      rw [firstText_cons, ih, List.find?_cons]
      by_cases hkey : isKey answer.1 = true
      · simp [hkey]
      · simp [hkey]

theorem firstText_append_of_not (h : ∀ answer ∈ front, isKey answer.1 = false) (back : Members) :
    firstText isKey (front ++ back) = firstText isKey back := by
  have hnone : front.find? (fun answer => isKey answer.1) = none := by
    rw [List.find?_eq_none]
    intro answer hanswer
    simp [h answer hanswer]
  rw [firstText_eq, firstText_eq, List.find?_append, hnone, Option.none_or]

theorem firstText_append_of_mem {answer : String × Json} (hmem : answer ∈ front)
    (h : isKey answer.1 = true) (back : Members) :
    firstText isKey (front ++ back) = firstText isKey front := by
  have hsome : (front.find? fun answer => isKey answer.1).isSome = true := by
    rw [List.find?_isSome]
    exact ⟨answer, hmem, h⟩
  obtain ⟨found, hfound⟩ := Option.isSome_iff_exists.1 hsome
  rw [firstText_eq, firstText_eq, List.find?_append, hfound, Option.some_or]

/-! ### Blank answers -/

/-- Whether an answer is blank: null, or a text without anything but blanks. -/
inductive IsBlankAnswer : Json → Prop
  | null : IsBlankAnswer .null
  | text {s : String} (h : Text.isBlankText s = true) : IsBlankAnswer (.str s)

theorem IsBlankAnswer.valueText_eq (h : IsBlankAnswer value) : Clue.valueText value = "" := by
  cases h with
  | null => rfl
  | text hblank =>
      show Text.trim _ = ""
      rw [← String.toList_eq_nil_iff, Text.toList_trim, Text.strip_eq_nil_iff]
      exact hblank

/-- Whether a blank answer under a key, put between others, takes the place of an answer of that
kind that is not blank. -/
def Hides (isKey : String → Bool) (front : Members) (key : String) (back : Members) : Prop :=
  isKey key = true ∧ (∀ answer ∈ front, isKey answer.1 = false) ∧ firstText isKey back ≠ ""

theorem firstText_of_hides (h : Hides isKey front key back) (hblank : IsBlankAnswer value) :
    firstText isKey (front ++ (key, value) :: back) = "" ∧ firstText isKey (front ++ back) ≠ "" := by
  obtain ⟨hkey, hfront, hback⟩ := h
  rw [firstText_append_of_not hfront, firstText_append_of_not hfront, firstText_cons, if_pos hkey]
  exact ⟨hblank.valueText_eq, hback⟩

theorem firstText_of_not_hides (h : ¬Hides isKey front key back) (hblank : IsBlankAnswer value) :
    firstText isKey (front ++ (key, value) :: back) = firstText isKey (front ++ back) := by
  by_cases hfront : ∀ answer ∈ front, isKey answer.1 = false
  · rw [firstText_append_of_not hfront, firstText_append_of_not hfront, firstText_cons]
    by_cases hkey : isKey key = true
    · have hback : firstText isKey back = "" := by
        by_contra hne
        exact h ⟨hkey, hfront, hne⟩
      rw [if_pos hkey, hblank.valueText_eq, hback]
    · rw [if_neg hkey]
  · simp only [not_forall, Bool.not_eq_false] at hfront
    obtain ⟨answer, hmem, hanswer⟩ := hfront
    rw [firstText_append_of_mem hmem hanswer, firstText_append_of_mem hmem hanswer]

/-- A search for what is not blank passes over a blank answer. -/
theorem firstNonempty?_blank (isKey : String → Bool) (front : Members) (key : String)
    (hblank : IsBlankAnswer value) (back : Members) :
    firstNonempty? isKey (front ++ (key, value) :: back) = firstNonempty? isKey (front ++ back) := by
  have hnone : (if isKey key = true then nonempty? (Clue.valueText value) else none) = none := by
    rw [hblank.valueText_eq]
    exact ite_self none
  unfold firstNonempty?
  rw [List.findSome?_append, List.findSome?_append, List.findSome?_cons_of_isNone]
  exact Option.isNone_iff_eq_none.2 hnone

theorem keyedName?_blank (front : Members) (key : String) (hblank : IsBlankAnswer value)
    (back : Members) : keyedName? (front ++ (key, value) :: back) = keyedName? (front ++ back) := by
  unfold keyedName?
  simp only [firstNonempty?_blank _ front key hblank back]

/-! ### What a blank answer hides -/

theorem explicitNames_of_not_hides (hfirst : ¬Hides isFirstNameKey front key back)
    (hlast : ¬Hides isLastNameKey front key back) (hblank : IsBlankAnswer value) :
    explicitNames (front ++ (key, value) :: back) = explicitNames (front ++ back) := by
  unfold explicitNames
  rw [firstText_of_not_hides hfirst hblank, firstText_of_not_hides hlast hblank]

/-- The names under keys of their own have the say in how a full name is split. -/
theorem splitName_of_first (full : String) (h : firstText isFirstNameKey data ≠ "") :
    splitName full data = (firstText isFirstNameKey data,
      orElse (firstText isLastNameKey data) fallbackLastName) := by
  unfold splitName explicitNames
  dsimp only
  rw [if_neg (by simp [h]), orElse, if_neg h]

theorem splitName_of_last (full : String) (hfirst : firstText isFirstNameKey data = "")
    (hlast : firstText isLastNameKey data ≠ "") :
    splitName full data = ((Text.words full.toList).head?.elim fallbackFirstName String.ofList,
      firstText isLastNameKey data) := by
  unfold splitName explicitNames
  dsimp only
  rw [if_neg (by simp [hlast]), hfirst, orElse, if_pos rfl, orElse, if_neg hlast]
  cases Text.words full.toList with
  | nil => rfl
  | cons word others => rfl

theorem splitName_of_none (full : String) (hfirst : firstText isFirstNameKey data = "")
    (hlast : firstText isLastNameKey data = "") : splitName full data = splitWords full := by
  simp [splitName, explicitNames, hfirst, hlast]

/-- A single word is the first name of a customer who gives none. -/
theorem splitName_word_fst {word : String} (hword : Text.words word.toList = [word.toList])
    (hfirst : firstText isFirstNameKey data = "") : (splitName word data).1 = word := by
  by_cases hlast : firstText isLastNameKey data = ""
  · rw [splitName_of_none word hfirst hlast]
    simp [splitWords, hword]
  · rw [splitName_of_last word hfirst hlast]
    simp [hword]

/-- A hidden first name is missed: some full name is split otherwise. -/
theorem exists_splitName_ne_of_hides (h : Hides isFirstNameKey front key back)
    (hblank : IsBlankAnswer value) :
    ∃ full, splitName full (front ++ (key, value) :: back) ≠ splitName full (front ++ back) := by
  obtain ⟨hwith, hwithout⟩ := firstText_of_hides h hblank
  obtain ⟨word, hword, hne⟩ : ∃ word : String, Text.words word.toList = [word.toList] ∧
      word ≠ firstText isFirstNameKey (front ++ back) := by
    by_cases hada : firstText isFirstNameKey (front ++ back) = "Ada"
    · exact ⟨"Eve", rfl, by rw [hada]; decide⟩
    · exact ⟨"Ada", rfl, fun heq => hada heq.symm⟩
  refine ⟨word, ?_⟩
  intro heq
  have hfst := congrArg Prod.fst heq
  rw [splitName_word_fst hword hwith, splitName_of_first word hwithout] at hfst
  exact hne hfst

/-- A hidden last name is missed, unless it is the one that stands for a missing one and there is
a first name. -/
theorem forall_splitName_eq_iff_of_hides (hfirst : ¬Hides isFirstNameKey front key back)
    (h : Hides isLastNameKey front key back) (hblank : IsBlankAnswer value) :
    (∀ full, splitName full (front ++ (key, value) :: back) = splitName full (front ++ back)) ↔
      firstText isFirstNameKey (front ++ back) ≠ "" ∧
        firstText isLastNameKey (front ++ back) = fallbackLastName := by
  obtain ⟨hwith, hwithout⟩ := firstText_of_hides h hblank
  have hsame := firstText_of_not_hides hfirst hblank
  by_cases hempty : firstText isFirstNameKey (front ++ back) = ""
  · rw [hempty] at hsame
    refine iff_of_false ?_ fun hboth => hboth.1 hempty
    -- Without a first name the full name is split into two, and its last word may be any.
    intro hall
    have hnone := congrArg Prod.snd (hall "")
    have htwo := congrArg Prod.snd (hall "Ada King")
    rw [splitName_of_none _ hsame hwith, splitName_of_last _ hempty hwithout] at hnone htwo
    have hking : (splitWords "").2 = (splitWords "Ada King").2 := hnone.trans htwo.symm
    revert hking
    decide
  · have hsome := hsame ▸ hempty
    constructor
    · intro hall
      have hsnd := congrArg Prod.snd (hall "")
      rw [splitName_of_first _ hsome, splitName_of_first _ hempty, hwith] at hsnd
      refine ⟨hempty, ?_⟩
      simpa [orElse, hwithout] using hsnd.symm
    · intro hboth full
      rw [splitName_of_first _ hsome, splitName_of_first _ hempty, hwith, hsame, hboth.2]
      rfl

theorem joinedName_of_first {first : String} (h : first ≠ "") : joinedName (first, "") = first := by
  simp [joinedName, h]

theorem joinedName_of_last (last : String) : joinedName ("", last) = last := by
  by_cases hlast : last = ""
  · simp [joinedName, hlast]
  · simp [joinedName, hlast]

theorem joinedName_of_both {first last : String} (hfirst : first ≠ "") (hlast : last ≠ "") :
    joinedName (first, last) = first ++ " " ++ last := by
  simp [joinedName, hfirst, hlast]

/-- A full name that is put together is what the names under keys of their own make. -/
theorem fullName_of_joined (hkeyed : keyedName? data = none)
    (hjoined : joinedName (explicitNames data) ≠ "") :
    fullName data = joinedName (explicitNames data) := by
  rw [fullName_eq, hkeyed, Option.none_or, nonempty?, if_neg hjoined, Option.some_or,
    Option.getD_some]

/-- Beside a first name, a hidden last name is missed in the full name unless this has a key of its
own. -/
theorem fullName_eq_iff_of_hides (hfirst : ¬Hides isFirstNameKey front key back)
    (h : Hides isLastNameKey front key back) (hblank : IsBlankAnswer value)
    (hsome : firstText isFirstNameKey (front ++ back) ≠ "") :
    fullName (front ++ (key, value) :: back) = fullName (front ++ back) ↔
      keyedName? (front ++ back) ≠ none := by
  obtain ⟨hwith, hwithout⟩ := firstText_of_hides h hblank
  have hsame := firstText_of_not_hides hfirst hblank
  have hkeyed := keyedName?_blank front key hblank back
  by_cases hnone : keyedName? (front ++ back) = none
  · refine iff_of_false ?_ (not_not.2 hnone)
    have hshort : joinedName (explicitNames (front ++ (key, value) :: back)) =
        firstText isFirstNameKey (front ++ back) := by
      rw [explicitNames, hwith, hsame, joinedName_of_first hsome]
    have hlong : joinedName (explicitNames (front ++ back)) =
        firstText isFirstNameKey (front ++ back) ++ " " ++ firstText isLastNameKey (front ++ back) :=
      joinedName_of_both hsome hwithout
    rw [fullName_of_joined (hkeyed.trans hnone) (by rw [hshort]; exact hsome),
      fullName_of_joined hnone (by rw [hlong]; simp), hshort, hlong]
    intro heq
    have hlength := congrArg String.length heq
    rw [String.length_append, String.length_append] at hlength
    have hspace : " ".length = 1 := rfl
    omega
  · obtain ⟨name, hname⟩ := Option.ne_none_iff_exists'.1 hnone
    rw [fullName_eq, fullName_eq, hkeyed, hname]
    simp

/-- **A blank answer leaves the names of a customer as they are unless it hides one.**  A hidden
first name is always missed.  A hidden last name is not if it is the one that stands for a missing
last name, a first name is there, and the full name has a key of its own.  That is so wherever the
answer is put, and whatever its key is. -/
theorem names_blank_iff (front : Members) (key : String) (hblank : IsBlankAnswer value)
    (back : Members) :
    (fullName (front ++ (key, value) :: back) = fullName (front ++ back) ∧
      ∀ full, splitName full (front ++ (key, value) :: back) = splitName full (front ++ back)) ↔
    ¬Hides isFirstNameKey front key back ∧
      (Hides isLastNameKey front key back →
        keyedName? (front ++ back) ≠ none ∧ firstText isFirstNameKey (front ++ back) ≠ "" ∧
          firstText isLastNameKey (front ++ back) = fallbackLastName) := by
  by_cases hfirst : Hides isFirstNameKey front key back
  · obtain ⟨full, hne⟩ := exists_splitName_ne_of_hides hfirst hblank
    exact iff_of_false (fun hsame => hne (hsame.2 full)) fun hneither => hneither.1 hfirst
  by_cases hlast : Hides isLastNameKey front key back
  · rw [forall_splitName_eq_iff_of_hides hfirst hlast hblank]
    constructor
    · intro hsame
      obtain ⟨hfull, hsome, hfallback⟩ := hsame
      exact ⟨hfirst, fun _ =>
        ⟨(fullName_eq_iff_of_hides hfirst hlast hblank hsome).1 hfull, hsome, hfallback⟩⟩
    · intro hkept
      obtain ⟨hkeyed, hsome, hfallback⟩ := hkept.2 hlast
      exact ⟨(fullName_eq_iff_of_hides hfirst hlast hblank hsome).2 hkeyed, hsome, hfallback⟩
  · have hexplicit := explicitNames_of_not_hides hfirst hlast hblank
    refine iff_of_true ⟨?_, ?_⟩ ⟨hfirst, fun h => absurd h hlast⟩
    · rw [fullName_eq, fullName_eq, keyedName?_blank front key hblank back, hexplicit,
        firstNonempty?_blank suggestsName front key hblank back]
    · intro full
      unfold splitName
      rw [hexplicit]

/-- A blank answer for a last name in front of another one for a first name, behind a last name. -/
theorem surname_kept :
    fullName [("Surname", .str "King"), ("Last name", .str " \t"), ("First", .str "Ada")] =
        fullName [("Surname", .str "King"), ("First", .str "Ada")] ∧
      splitName "Eve" [("Surname", .str "King"), ("Last name", .str " \t"), ("First", .str "Ada")] =
        ("Ada", "King") := by
  have hblank : IsBlankAnswer (.str " \t") := .text (by decide)
  have hfirst : ¬Hides isFirstNameKey [("Surname", .str "King")] "Last name"
      [("First", .str "Ada")] := by
    intro h
    exact absurd h.1 (by decide)
  have hlast : ¬Hides isLastNameKey [("Surname", .str "King")] "Last name"
      [("First", .str "Ada")] := by
    intro h
    exact absurd (h.2.1 _ (.head _)) (by decide)
  obtain ⟨hfull, hsplit⟩ := (names_blank_iff [("Surname", .str "King")] "Last name" hblank
    [("First", .str "Ada")]).2 ⟨hfirst, fun h => absurd h hlast⟩
  exact ⟨hfull, (hsplit "Eve").trans (by decide)⟩

/-- A blank answer in front of a first name hides it. -/
theorem blank_hides_first_name :
    IsBlankAnswer .null ∧
      fullName [("first", .str "Ada")] = "Ada" ∧
      fullName [("First", .null), ("first", .str "Ada")] = "" ∧
      splitName "" [("first", .str "Ada")] = ("Ada", "User") ∧
      splitName "" [("First", .null), ("first", .str "Ada")] = ("Customer", "User") := by
  exact ⟨.null, by decide, by decide, by decide, by decide⟩

end Enrolment.Customer
