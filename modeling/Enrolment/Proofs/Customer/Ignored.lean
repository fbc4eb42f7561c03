/-
What a draft takes no notice of.

What is computed from the answers ignores a key if leaving out an answer under it changes
nothing.  Searches ignore the keys that they do not look for, and what is put together from
what ignores a key ignores it too.  So all details of a draft but the password ignore the
keys for a password, and the email address does up to its last search, which looks at
values and not at keys.
-/
import Enrolment.Proofs.Customer.PasswordKey

namespace Enrolment

/-- Whether answers under a key make no difference to what is computed. -/
def Ignores {α : Type} (f : Members → α) (key : String) : Prop :=
  ∀ before value after, f (before ++ (key, value) :: after) = f (before ++ after)

namespace Ignores

variable {α β γ : Type} {key : String}

theorem map {f : Members → α} (h : Ignores f key) (g : α → β) :
    Ignores (fun data => g (f data)) key :=
  fun before value after => congrArg g (h before value after)

theorem both {f : Members → α} {g : Members → β} (hf : Ignores f key) (hg : Ignores g key)
    (join : α → β → γ) : Ignores (fun data => join (f data) (g data)) key := by
  intro before value after
  dsimp only
  rw [hf before value after, hg before value after]

theorem find? {p : String × Json → Bool} (h : ∀ value, p (key, value) = false) :
    Ignores (List.find? p) key := by
  intro before value after
  rw [List.find?_append, List.find?_append, List.find?_cons_of_neg (by simp [h value])]

theorem findSome? {g : String × Json → Option α} (h : ∀ value, g (key, value) = none) :
    Ignores (List.findSome? g) key := by
  intro before value after
  rw [List.findSome?_append, List.findSome?_append,
    List.findSome?_cons_of_isNone (by simp [h value])]

/-- A filter that drops a key leaves nothing of it. -/
theorem filter {p : String × Json → Bool} (h : ∀ value, p (key, value) = false) :
    Ignores (List.filter p) key := by
  intro before value after
  rw [List.filter_append, List.filter_append, List.filter_cons_of_neg (by simp [h value])]

/-- What ignores a key in all answers ignores it in those that are left by a filter. -/
theorem filtered {f : Members → α} (h : Ignores f key) (p : String × Json → Bool) :
    Ignores (fun data => f (data.filter p)) key := by
  intro before value after
  dsimp only
  rw [List.filter_append, List.filter_append, List.filter_cons]
  split
  · exact h _ value _
  · rfl

/-- A search by one name after another ignores what it ignores by each of them. -/
theorem findSome?_names {names : List String} {f : String → Members → Option α}
    (h : ∀ name ∈ names, Ignores (f name) key) :
    Ignores (fun data => names.findSome? fun name => f name data) key := by
  intro before value after
  dsimp only
  induction names with
  | nil => rfl
  | cons name others ih =>
      rw [List.findSome?_cons, List.findSome?_cons, h name (.head _) before value after,
        ih fun other hother => h other (.tail _ hother)]

/-- A clue that names a key in no way ignores it. -/
theorem clue {clue : Clue} (hexact : ∀ name ∈ clue.exact, Clue.fold key ≠ Clue.fold name)
    (hphrases : Phrase.anyIn clue.phrases key = false) (excluded : List Phrase)
    (preferred : String) : Ignores (clue.find excluded preferred) key := by
  have hdecided : Ignores (Clue.exactMatch? clue.exact) key := by
    unfold Clue.exactMatch?
    refine findSome?_names ?_
    intro name hname
    refine (find? ?_).map (·.map (·.2))
    intro value
    rw [decide_eq_false_iff_not]
    exact hexact name hname
  unfold Clue.find
  refine filtered (hdecided.both ((filter ?_).map (Clue.suggested? preferred))
    fun decided suggested => ((decided.or suggested).map Clue.valueText).getD "") _
  exact fun _ => hphrases

theorem firstText {isKey : String → Bool} (h : isKey key = false) :
    Ignores (Customer.firstText isKey) key := by
  intro before value after
  unfold Customer.firstText
  rw [find? (fun _ => h)]

theorem firstNonempty? {isKey : String → Bool} (h : isKey key = false) :
    Ignores (Customer.firstNonempty? isKey) key := by
  refine findSome? ?_
  intro value
  dsimp only
  rw [h]
  rfl

end Ignores

/-! ### A key for a password -/

/-- The first and the last name among the answers. -/
def Customer.names (data : Members) : String × String :=
  splitName (fullName data) data

open Customer

namespace IsPasswordKey

variable {key : String} (hkey : IsPasswordKey key)
include hkey

/-- All clues but the one to a password ignore a key for one. -/
theorem ignores_find {clue : Clue} (hclue : clue ∈ otherClues) (excluded : List Phrase)
    (preferred : String) : Ignores (clue.find excluded preferred) key :=
  .clue (hkey.fold_ne_exact hclue) (hkey.anyIn_phrases hclue) excluded preferred

theorem ignores_guess {clue : Clue} (hclue : clue ∈ otherClues) : Ignores clue.guess key :=
  hkey.ignores_find hclue Clue.documentPhrases ""

/-! ### Names -/

theorem ignores_explicitNames : Ignores explicitNames key :=
  (Ignores.firstText hkey.asks_for_no_name.1).both
    (Ignores.firstText hkey.asks_for_no_name.2.1) Prod.mk

theorem ignores_fullName : Ignores fullName key := by
  have hfull : Ignores (fun data => fullNameKeys.findSome? fun name =>
      firstNonempty? (fun key => Key.normal key = name.toList) data) key := by
    refine Ignores.findSome?_names ?_
    intro name hname
    exact .firstNonempty? (decide_eq_false (hkey.normal_ne.1 name hname))
  have hjoined := hkey.ignores_explicitNames.map fun names =>
    nonempty? (" ".intercalate ([names.1, names.2].filter (· ≠ "")))
  have hsuggested := Ignores.firstNonempty? hkey.asks_for_no_name.2.2.1
  exact hfull.both (hjoined.both hsuggested fun joined suggested => joined.or suggested)
    fun full others => (full.or others).getD ""

theorem ignores_names : Ignores names key := by
  intro before value after
  unfold names splitName
  rw [hkey.ignores_fullName before value after, hkey.ignores_explicitNames before value after]

/-! ### Everything but the email address and the password -/

theorem ignores_address (contact : Contact) (table : Option Place.Table) :
    Ignores (fun data => address data contact table) key := by
  intro before value after
  have hguess : ∀ clue ∈ otherClues, clue.guess (before ++ (key, value) :: after) =
      clue.guess (before ++ after) := fun clue hclue => hkey.ignores_guess hclue before value after
  simp only [otherClues, List.forall_mem_cons] at hguess
  obtain ⟨hline1, hline2, hcity, hstate, hpostal, hcountry, hfirst, hlast, -⟩ := hguess
  dsimp only
  unfold address findCountryCode
  rw [hline1, hline2, hcity, hstate, hpostal, hcountry, hfirst, hlast]

end IsPasswordKey

namespace Customer

/-- The draft with an email address and a password; all else is found among the answers. -/
def draftWith (table : Option Place.Table) (email : String) (password : Option String)
    (data : Members) : Draft :=
  let (firstName, lastName) := names data
  let phone := findPhone data
  let company := findCompany data
  { email, firstName, lastName
    phone := nonempty? phone
    company := nonempty? company
    password
    addresses := (address data ⟨firstName, lastName, phone, company⟩ table).toList }

theorem draft?_eq (request : Request) (table : Option Place.Table) :
    draft? request table = (email? request.email request.data).map fun email =>
      draftWith table email (nonempty? (findPassword request.data)) request.data :=
  rfl

theorem draft?_of_email {request : Request} {email : String}
    (h : email? request.email request.data = some email) (table : Option Place.Table) :
    draft? request table =
      some (draftWith table email (nonempty? (findPassword request.data)) request.data) := by
  rw [draft?_eq, h, Option.map_some]

theorem draftOf_eq_ok_iff {submission : Json} {request : Request} {draft : Draft}
    (h : Request.readAny submission = .ok request) (table : Option Place.Table) :
    draftOf submission table = .ok draft ↔ draft? request table = some draft := by
  unfold draftOf
  rw [h]
  dsimp only
  cases draft? request table with
  | none => simp
  | some found => simp

/-- The email address that is given beside the answers, or under a key that asks for one. -/
def keyedEmail? (given : Option String) (data : Members) : Option String :=
  (given.bind address?).or <|
  (emailKeys.findSome? fun name => data.findSome? fun (key, value) =>
    if Key.normal key = name.toList then address? value.entry else none).or <|
  data.findSome? fun (key, value) => if suggestsEmail key then address? value.entry else none

/-- The first text among the answers that has the shape of an email address. -/
def anyEmail? (data : Members) : Option String :=
  data.findSome? fun (_, value) => textAddress? value

theorem email?_eq (given : Option String) (data : Members) :
    email? given data = (keyedEmail? given data).or (anyEmail? data) := by
  unfold email? keyedEmail? anyEmail?
  rw [Option.or_assoc, Option.or_assoc]

end Customer

namespace IsPasswordKey

variable {key : String} (hkey : IsPasswordKey key)
include hkey

/-- All of a draft but the email address and the password ignores a key for a password. -/
theorem ignores_draftWith (table : Option Place.Table) (email : String)
    (password : Option String) : Ignores (draftWith table email password) key := by
  have hphone : Ignores findPhone key := hkey.ignores_guess (by simp [otherClues])
  have hcompany : Ignores findCompany key := hkey.ignores_find (by simp [otherClues]) _ _
  intro before value after
  have haddress : ∀ contact, address (before ++ (key, value) :: after) contact table =
      address (before ++ after) contact table :=
    fun contact => hkey.ignores_address contact table before value after
  unfold draftWith
  rw [hphone before value after, hcompany before value after,
    hkey.ignores_names before value after]
  dsimp only
  rw [haddress]

theorem ignores_keyedEmail? (given : Option String) : Ignores (keyedEmail? given) key := by
  have hexact : Ignores (fun data => emailKeys.findSome? fun name =>
      data.findSome? fun (key, value) =>
        if Key.normal key = name.toList then address? value.entry else none) key := by
    refine Ignores.findSome?_names ?_
    intro name hname
    refine Ignores.findSome? ?_
    intro value
    exact if_neg (hkey.normal_ne.2 name hname)
  have hsuggested : Ignores (List.findSome? fun (key, value) =>
      if suggestsEmail key then address? value.entry else none) key := by
    refine Ignores.findSome? ?_
    intro value
    exact if_neg (by simp [hkey.asks_for_no_name.2.2.2])
  exact hexact.both hsuggested fun exact suggested =>
    (given.bind address?).or (exact.or suggested)

end IsPasswordKey

end Enrolment
