/-
A draft does not depend on the capitals in keys.

`smallKeys` puts small letters for the capitals of ASCII in every key and leaves the answers
alone.  Keys are looked at in four ways: by their normal form, by their folded form, for a
phrase or a word in them, and by their length.  None of these sees a capital, so a search
finds the entry at the same place, and what is computed from the answer found there is the
same.  Answers whose keys differ in the case of letters only have the same `smallKeys`.
-/
import Enrolment.Proofs.Customer.Shape
import Enrolment.Proofs.Submission.Readable
import Enrolment.Proofs.Text.Capitals

namespace Enrolment

open Text

/-- An answer under its key in small letters. -/
def smallKey (entry : String × Json) : String × Json :=
  (smallAscii entry.1, entry.2)

/-- Answers under their keys in small letters. -/
def smallKeys (data : Members) : Members :=
  data.map smallKey

theorem smallKeys_cons (entry : String × Json) (rest : Members) :
    smallKeys (entry :: rest) = smallKey entry :: smallKeys rest :=
  rfl

/-! ### Searches -/

section Searches

variable (data : Members)

theorem find?_smallKeys {p : String × Json → Bool} (h : ∀ entry, p (smallKey entry) = p entry) :
    (smallKeys data).find? p = (data.find? p).map smallKey := by
  have hp : p ∘ smallKey = p := funext h
  unfold smallKeys
  rw [List.find?_map, hp]

theorem filter_smallKeys {p : String × Json → Bool} (h : ∀ entry, p (smallKey entry) = p entry) :
    (smallKeys data).filter p = smallKeys (data.filter p) := by
  have hp : p ∘ smallKey = p := funext h
  unfold smallKeys
  rw [List.filter_map, hp]

theorem findSome?_smallKeys {α : Type} {g : String × Json → Option α}
    (h : ∀ entry, g (smallKey entry) = g entry) :
    (smallKeys data).findSome? g = data.findSome? g := by
  have hg : g ∘ smallKey = g := funext h
  unfold smallKeys
  rw [List.findSome?_map, hg]

/-- The answer that a search comes to is the same. -/
theorem answer_find?_smallKeys {p : String × Json → Bool}
    (h : ∀ entry, p (smallKey entry) = p entry) :
    ((smallKeys data).find? p).map (·.2) = (data.find? p).map (·.2) := by
  rw [find?_smallKeys data h, Option.map_map]
  rfl

end Searches

/-! ### Clues -/

namespace Clue

variable (data : Members)

theorem admitted_smallKeys (excluded : List Phrase) :
    admitted (Phrase.anyIn excluded) (smallKeys data) =
      smallKeys (admitted (Phrase.anyIn excluded) data) := by
  refine filter_smallKeys data ?_
  rintro ⟨key, value⟩
  show (!Phrase.anyIn excluded (smallAscii key) && isPlausible value) = _
  rw [Phrase.anyIn_smallAscii]
  rfl

theorem exactMatch?_smallKeys (exact : List String) :
    exactMatch? exact (smallKeys data) = exactMatch? exact data := by
  unfold exactMatch?
  congr 1
  funext name
  refine answer_find?_smallKeys data ?_
  rintro ⟨key, value⟩
  show decide (fold (smallAscii key) = fold name) = _
  rw [fold_smallAscii]

/-- The shorter of two keys stays the shorter one. -/
theorem shorter_smallKey (best entry : String × Json) :
    shorter (smallKey best) (smallKey entry) = smallKey (shorter best entry) := by
  unfold shorter
  rw [apply_ite smallKey]
  simp only [smallKey, length_smallAscii]

theorem foldl_shorter_smallKeys (rest : Members) (first : String × Json) :
    (smallKeys rest).foldl shorter (smallKey first) = smallKey (rest.foldl shorter first) := by
  induction rest generalizing first with
  | nil => rfl
  | cons next others ih =>
      rw [smallKeys_cons, List.foldl_cons, List.foldl_cons, shorter_smallKey, ih]

theorem shortest?_smallKeys : shortest? (smallKeys data) = (shortest? data).map smallKey := by
  cases data with
  | nil => rfl
  | cons first rest => exact congrArg some (foldl_shorter_smallKeys rest first)

theorem suggested?_smallKeys (preferred : String) :
    suggested? preferred (smallKeys data) = suggested? preferred data := by
  have hfavourite := find?_smallKeys data (p := fun entry => mentions entry.1 preferred)
    fun entry => mentions_smallAscii entry.1 preferred
  have hanswer : ∀ found : Option (String × Json), (found.map smallKey).map (·.2) =
      found.map (·.2) := fun found => by rw [Option.map_map]; rfl
  unfold suggested?
  dsimp only
  split
  · rw [Option.none_or, Option.none_or, shortest?_smallKeys, hanswer]
  · rw [hfavourite, shortest?_smallKeys, ← Option.map_or, hanswer]

theorem find_smallKeys (clue : Clue) (excluded : List Phrase) (preferred : String) :
    clue.find excluded preferred (smallKeys data) = clue.find excluded preferred data := by
  have hmatching := filter_smallKeys (admitted (Phrase.anyIn excluded) data)
    (p := fun entry => Phrase.anyIn clue.phrases entry.1)
    fun entry => Phrase.anyIn_smallAscii entry.1 clue.phrases
  unfold find pick
  dsimp only
  rw [admitted_smallKeys, exactMatch?_smallKeys, hmatching, suggested?_smallKeys]

theorem guess_smallKeys (clue : Clue) : clue.guess (smallKeys data) = clue.guess data :=
  find_smallKeys data clue documentPhrases ""

end Clue

/-! ### Names and the email address -/

namespace Customer

variable (data : Members)

section Keys

variable (key : String)

theorem normalContains_smallAscii : normalContains (smallAscii key) = normalContains key := by
  funext part
  unfold normalContains
  rw [Key.normal_smallAscii]

theorem isFirstNameKey_smallAscii : isFirstNameKey (smallAscii key) = isFirstNameKey key := by
  unfold isFirstNameKey normalIsOneOf
  rw [Key.normal_smallAscii, normalContains_smallAscii]

theorem isLastNameKey_smallAscii : isLastNameKey (smallAscii key) = isLastNameKey key := by
  unfold isLastNameKey normalIsOneOf
  rw [Key.normal_smallAscii, normalContains_smallAscii]

theorem suggestsName_smallAscii : suggestsName (smallAscii key) = suggestsName key := by
  unfold suggestsName
  rw [normalContains_smallAscii]

theorem suggestsEmail_smallAscii : suggestsEmail (smallAscii key) = suggestsEmail key := by
  unfold suggestsEmail
  rw [normalContains_smallAscii]

end Keys

theorem firstText_smallKeys {isKey : String → Bool}
    (h : ∀ key, isKey (smallAscii key) = isKey key) :
    firstText isKey (smallKeys data) = firstText isKey data := by
  unfold firstText
  rw [find?_smallKeys data fun entry => h entry.1]
  cases data.find? fun entry => isKey entry.1 <;> rfl

theorem firstNonempty?_smallKeys {isKey : String → Bool}
    (h : ∀ key, isKey (smallAscii key) = isKey key) :
    firstNonempty? isKey (smallKeys data) = firstNonempty? isKey data := by
  refine findSome?_smallKeys data ?_
  rintro ⟨key, value⟩
  show (if isKey (smallAscii key) then _ else _) = _
  rw [h]

theorem explicitNames_smallKeys : explicitNames (smallKeys data) = explicitNames data := by
  unfold explicitNames
  rw [firstText_smallKeys data isFirstNameKey_smallAscii,
    firstText_smallKeys data isLastNameKey_smallAscii]

theorem fullName_smallKeys : fullName (smallKeys data) = fullName data := by
  have hfull : (fun name : String => firstNonempty? (fun key => Key.normal key = name.toList)
      (smallKeys data)) =
        fun name => firstNonempty? (fun key => Key.normal key = name.toList) data := by
    funext name
    refine firstNonempty?_smallKeys data ?_
    intro key
    rw [Key.normal_smallAscii]
  unfold fullName
  rw [hfull, explicitNames_smallKeys, firstNonempty?_smallKeys data suggestsName_smallAscii]

theorem names_smallKeys : names (smallKeys data) = names data := by
  unfold names splitName
  rw [fullName_smallKeys, explicitNames_smallKeys]

theorem email?_smallKeys (given : Option String) :
    email? given (smallKeys data) = email? given data := by
  have hexact : (fun name : String => (smallKeys data).findSome? fun entry =>
      if Key.normal entry.1 = name.toList then address? entry.2.entry else none) =
        fun name => data.findSome? fun entry =>
          if Key.normal entry.1 = name.toList then address? entry.2.entry else none := by
    funext name
    refine findSome?_smallKeys data ?_
    intro entry
    simp only [smallKey, Key.normal_smallAscii]
  have hsuggested := findSome?_smallKeys data
    (g := fun entry => if suggestsEmail entry.1 then address? entry.2.entry else none)
    fun entry => by simp only [smallKey, suggestsEmail_smallAscii]
  have hany := findSome?_smallKeys data (g := fun entry => textAddress? entry.2) fun _ => rfl
  unfold email?
  rw [hexact, hsuggested, hany]

/-! ### The draft -/

theorem address_smallKeys (contact : Contact) (table : Option Place.Table) :
    address (smallKeys data) contact table = address data contact table := by
  unfold address findCountryCode
  simp only [Clue.guess_smallKeys]

theorem draft?_smallKeys (request : Request) (table : Option Place.Table) :
    draft? { request with data := smallKeys data } table =
      draft? { request with data } table := by
  rw [draft?_eq, draft?_eq]
  unfold draftWith findPassword findPhone findCompany
  simp only [email?_smallKeys, names_smallKeys, Clue.guess_smallKeys, Clue.find_smallKeys,
    address_smallKeys]

end Customer

/-! ### Answers whose keys differ in case -/

/-- Whether two answers are the same, under keys that are equal but for the case of ASCII
letters. -/
def IsRecased (entry other : String × Json) : Prop :=
  smallAscii entry.1 = smallAscii other.1 ∧ entry.2 = other.2

theorem smallKeys_eq_of_isRecased {data renamed : Members}
    (h : List.Forall₂ IsRecased data renamed) : smallKeys data = smallKeys renamed := by
  induction h with
  | nil => rfl
  | cons hentry _ ih =>
      obtain ⟨hkey, hvalue⟩ := hentry
      rw [smallKeys_cons, smallKeys_cons, ih, smallKey, smallKey, hkey, hvalue]

namespace Customer

theorem draft?_eq_of_isRecased {data renamed : Members} (h : List.Forall₂ IsRecased data renamed)
    (request : Request) (table : Option Place.Table) :
    draft? { request with data := renamed } table = draft? { request with data } table := by
  rw [← draft?_smallKeys renamed, ← draft?_smallKeys data, smallKeys_eq_of_isRecased h]

/-- **Renaming keys in the case of ASCII letters changes neither the draft nor the error**, of a
request or of whatever was submitted with these answers. -/
theorem draftOf_eq_of_isRecased {data renamed : Members}
    (h : List.Forall₂ IsRecased data renamed) (table : Option Place.Table) :
    (∀ request : Request,
      draft? { request with data := renamed } table = draft? { request with data } table) ∧
    ∀ submission : Members,
      draftOf (.obj (submission.put "data" (.obj renamed))) table =
        draftOf (.obj (submission.put "data" (.obj data))) table := by
  refine ⟨fun request => draft?_eq_of_isRecased h request table, ?_⟩
  intro submission
  unfold draftOf Request.readAny
  dsimp only
  rw [Request.ofMembers_put_data, Request.ofMembers_put_data]
  cases Request.ofMembers submission with
  | error cause => rfl
  | ok request =>
      simp only [Except.map]
      rw [draft?_eq_of_isRecased h request table]

/-- The answers of a request for York under keys in other letters. -/
def shoutedAnswers : Members :=
  [("ADDRESS1", .str "1 Main"), ("cItY", .str "York"), ("Country", .str "uk")]

/-- There is the same draft for them. -/
theorem york_shouted_draft :
    List.Forall₂ IsRecased yorkRequest.data shoutedAnswers ∧
      draft? { yorkRequest with data := shoutedAnswers } none = draft? yorkRequest none ∧
      ∃ draft, draft? yorkRequest none = some draft ∧ draft.email = "ada@x.org" := by
  have hrecased : List.Forall₂ IsRecased yorkRequest.data shoutedAnswers :=
    .cons ⟨by decide, rfl⟩ (.cons ⟨by decide, rfl⟩ (.cons ⟨by decide, rfl⟩ .nil))
  have hemail : email? yorkRequest.email yorkRequest.data = some "ada@x.org" := rfl
  refine ⟨hrecased, (draftOf_eq_of_isRecased hrecased none).1 yorkRequest, ?_⟩
  rw [draft?_eq, hemail]
  exact ⟨_, rfl, rfl⟩

end Customer

end Enrolment
