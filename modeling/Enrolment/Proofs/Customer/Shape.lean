/-
The shape of every draft.

A customer always has an email address and both names, since what names are made of is never
empty and there is a fallback for each.  So whether there is an address depends on the street,
the city and the country alone.  All other details are what a clue found, and are left out or
look typed.
-/
import Enrolment.Proofs.Customer.Clue
import Enrolment.Proofs.Customer.Ignored
import Enrolment.Proofs.Text.Words

namespace Enrolment.Customer

/-! ### The email address -/

theorem ne_empty_of_address? {s email : String} (h : address? s = some email) : email ≠ "" := by
  unfold address? at h
  dsimp only at h
  split at h
  · rename_i hshape
    obtain rfl := Option.some.inj h
    refine Text.lower_ne_empty ?_
    intro hempty
    rw [hempty] at hshape
    cases hshape
  · cases h

/-- Wherever the email address of a customer is found, it has the shape of one. -/
theorem exists_address_of_email? {given : Option String} {data : Members} {email : String}
    (h : email? given data = some email) : ∃ s, address? s = some email := by
  rcases Option.or_eq_some_iff.1 h with hgiven | ⟨-, h⟩
  · obtain ⟨s, -, hs⟩ := Option.bind_eq_some_iff.1 hgiven
    exact ⟨s, hs⟩
  rcases Option.or_eq_some_iff.1 h with hexact | ⟨-, h⟩
  · obtain ⟨name, -, hname⟩ := List.exists_of_findSome?_eq_some hexact
    obtain ⟨⟨key, value⟩, -, hvalue⟩ := List.exists_of_findSome?_eq_some hname
    exact ⟨value.entry, (Option.ite_none_right_eq_some.1 hvalue).2⟩
  rcases Option.or_eq_some_iff.1 h with hsuggested | ⟨-, hany⟩
  · obtain ⟨⟨key, value⟩, -, hvalue⟩ := List.exists_of_findSome?_eq_some hsuggested
    exact ⟨value.entry, (Option.ite_none_right_eq_some.1 hvalue).2⟩
  obtain ⟨⟨key, value⟩, -, hvalue⟩ := List.exists_of_findSome?_eq_some hany
  cases value with
  | str s => exact ⟨s, hvalue⟩
  | null | bool _ | int _ | num _ | arr _ | obj _ => cases hvalue

/-! ### Names -/

theorem ofList_ne_empty {s : List Char} (h : s ≠ []) : String.ofList s ≠ "" := by
  intro hempty
  refine h ?_
  rw [← String.toList_ofList (l := s), hempty, String.toList_empty]

theorem orElse_ne_empty {other : String} (h : other ≠ "") (s : String) : orElse s other ≠ "" := by
  unfold orElse
  split
  · exact h
  · assumption

theorem fallbackFirstName_ne_empty : fallbackFirstName ≠ "" := by
  decide

theorem fallbackLastName_ne_empty : fallbackLastName ≠ "" := by
  decide

/-- A full name is split into two names. -/
theorem splitWords_ne_empty (full : String) :
    (splitWords full).1 ≠ "" ∧ (splitWords full).2 ≠ "" := by
  have hnonempty (word : List Char) (h : word ∈ Text.words full.toList) : word ≠ [] :=
    Text.ne_nil_of_mem_words h
  unfold splitWords
  generalize Text.words full.toList = words at hnonempty ⊢
  match words with
  | [] => exact ⟨fallbackFirstName_ne_empty, fallbackLastName_ne_empty⟩
  | [word] => exact ⟨ofList_ne_empty (hnonempty word (.head _)), fallbackLastName_ne_empty⟩
  | first :: second :: rest =>
      have hfirst := hnonempty first (.head _)
      have hlast := hnonempty _ (List.getLast_mem (List.cons_ne_nil first (second :: rest)))
      constructor
      · refine ofList_ne_empty ?_
        rw [List.dropLast_cons_cons]
        cases (second :: rest).dropLast with
        | nil => simpa using hfirst
        | cons next others => simp [hfirst]
      · refine ofList_ne_empty ?_
        rw [List.getLast?_eq_some_getLast (List.cons_ne_nil _ _)]
        exact hlast

theorem names_ne_empty (data : Members) : (names data).1 ≠ "" ∧ (names data).2 ≠ "" := by
  unfold names splitName
  dsimp only
  split
  · exact splitWords_ne_empty (fullName data)
  · refine ⟨orElse_ne_empty ?_ _, orElse_ne_empty fallbackLastName_ne_empty _⟩
    split
    · exact fallbackFirstName_ne_empty
    · rename_i word rest hwords
      refine ofList_ne_empty (Text.ne_nil_of_mem_words (s := (fullName data).toList) ?_)
      rw [hwords]
      exact .head _

/-! ### The address -/

/-- Whether a text looks typed, if there is one. -/
def IsPlausibleText (text : Option String) : Prop :=
  ∀ s ∈ text, Clue.isPlausible (.str s) = true

/-- What a clue found is left out or looks typed. -/
theorem isPlausibleText_find (clue : Clue) (excluded : List Phrase) (preferred : String)
    (data : Members) : IsPlausibleText (nonempty? (clue.find excluded preferred data)) := by
  intro s hs
  unfold nonempty? at hs
  split at hs
  · cases hs
  · rename_i hne
    obtain rfl := Option.some.inj hs
    exact Clue.isPlausible_find hne

/-- Whether the answers tell a place: a street, a city and a country. -/
def HasPlace (data : Members) (table : Option Place.Table) : Prop :=
  Clue.addressLine1.guess data ≠ "" ∧ Clue.city.guess data ≠ "" ∧ findCountryCode data table ≠ ""

/-- What holds of an address in a draft. -/
structure Address.Suits (address : Address) (data : Members) (draft : Draft) : Prop where
  required : ∀ part ∈ [address.firstName, address.lastName, address.address1, address.city,
    address.countryCode], part ≠ ""
  firstName : address.firstName = orElse (Clue.addressFirstName.guess data) draft.firstName
  lastName : address.lastName = orElse (Clue.addressLastName.guess data) draft.lastName
  phone : address.phone = draft.phone
  company : address.company = draft.company
  typed : ∀ text ∈ [address.address2, address.stateOrProvince, address.postalCode],
    IsPlausibleText text

variable {data : Members} {contact : Contact} {table : Option Place.Table}

/-- With both names there, only the place can be incomplete. -/
theorem isIncomplete_iff {first last : String} (hfirst : first ≠ "") (hlast : last ≠ "")
    (street city code : String) : [first, last, street, city, code].any (· = "") = true ↔
      ¬(street ≠ "" ∧ city ≠ "" ∧ code ≠ "") := by
  simp only [List.any_cons, List.any_nil, decide_eq_false hfirst, decide_eq_false hlast,
    Bool.false_or, Bool.or_false, Bool.or_eq_true, decide_eq_true_eq]
  tauto

/-- A customer with names has an address just if the answers tell a place. -/
theorem isSome_address_iff (hfirst : contact.firstName ≠ "") (hlast : contact.lastName ≠ "") :
    (address data contact table).isSome = true ↔ HasPlace data table := by
  have hincomplete := isIncomplete_iff
    (orElse_ne_empty hfirst (Clue.addressFirstName.guess data))
    (orElse_ne_empty hlast (Clue.addressLastName.guess data))
    (Clue.addressLine1.guess data) (Clue.city.guess data) (findCountryCode data table)
  unfold address HasPlace
  dsimp only
  split
  · rename_i hmissing
    exact iff_of_false nofun (hincomplete.1 hmissing)
  · rename_i hcomplete
    exact iff_of_true rfl (not_not.1 (mt hincomplete.2 hcomplete))

/-- The address of a draft is made of its parts and of what the customer tells of themselves. -/
theorem suits_of_address (contact : Contact) {draft : Draft} {found : Address}
    (hfirst : draft.firstName = contact.firstName) (hlast : draft.lastName = contact.lastName)
    (hphone : draft.phone = nonempty? contact.phone)
    (hcompany : draft.company = nonempty? contact.company)
    (h : address data contact table = some found) : found.Suits data draft := by
  unfold address at h
  dsimp only at h
  split at h
  · cases h
  · rename_i hcomplete
    obtain rfl := Option.some.inj h
    exact {
      required := by
        intro part hpart hempty
        dsimp only at hpart
        exact hcomplete (List.any_eq_true.2 ⟨part, hpart, decide_eq_true hempty⟩)
      firstName := by rw [hfirst]
      lastName := by rw [hlast]
      phone := hphone.symm
      company := hcompany.symm
      typed := by
        simp only [List.forall_mem_cons]
        exact ⟨isPlausibleText_find _ _ _ _, isPlausibleText_find _ _ _ _,
          isPlausibleText_find _ _ _ _, List.forall_mem_nil _⟩ }

/-! ### The draft -/

/-- What holds of a draft. -/
structure Draft.IsSound (draft : Draft) (data : Members) (table : Option Place.Table) : Prop where
  required : ∀ part ∈ [draft.email, draft.firstName, draft.lastName], part ≠ ""
  one_address_iff : (∃ address, draft.addresses = [address]) ↔ HasPlace data table
  no_address_iff : draft.addresses = [] ↔ ¬HasPlace data table
  suited : ∀ address ∈ draft.addresses, address.Suits data draft
  typed : ∀ text ∈ [draft.phone, draft.company, draft.password], IsPlausibleText text

theorem draftWith_isSound (table : Option Place.Table) {email : String} (hemail : email ≠ "")
    (data : Members) :
    (draftWith table email (nonempty? (findPassword data)) data).IsSound data table := by
  obtain ⟨hfirst, hlast⟩ := names_ne_empty data
  let contact : Contact :=
    ⟨(names data).1, (names data).2, findPhone data, findCompany data⟩
  have hplace : (address data contact table).isSome = true ↔ HasPlace data table :=
    isSome_address_iff hfirst hlast
  exact {
    required := by
      simp only [List.forall_mem_cons]
      exact ⟨hemail, hfirst, hlast, List.forall_mem_nil _⟩
    one_address_iff := by
      rw [← hplace, Option.isSome_iff_exists]
      exact exists_congr fun _ => Option.toList_eq_singleton_iff
    no_address_iff := by
      rw [← hplace, Option.not_isSome_iff_eq_none]
      exact Option.toList_eq_nil_iff
    suited := by
      intro found hfound
      exact suits_of_address contact rfl rfl rfl rfl (Option.mem_toList.1 hfound)
    typed := by
      simp only [List.forall_mem_cons]
      exact ⟨isPlausibleText_find _ _ _ _, isPlausibleText_find _ _ _ _,
        isPlausibleText_find _ _ _ _, List.forall_mem_nil _⟩ }

/-- **Every draft is sound.** -/
theorem draft?_isSound {request : Request} {draft : Draft} (h : draft? request table = some draft) :
    draft.IsSound request.data table := by
  rw [draft?_eq] at h
  obtain ⟨email, hemail, rfl⟩ := Option.map_eq_some_iff.1 h
  obtain ⟨s, hs⟩ := exists_address_of_email? hemail
  exact draftWith_isSound table (ne_empty_of_address? hs) request.data

/-- A request with an email address and a place. -/
def yorkRequest : Request where
  id := none
  data := [("address1", .str "1 Main"), ("city", .str "York"), ("country", .str "uk")]
  email := some " Ada@x.org "
  files := []

/-- There is a draft for it, with one address. -/
theorem york_isSound : ∃ draft, draft? yorkRequest none = some draft ∧
    draft.IsSound yorkRequest.data none ∧ ∃ address, draft.addresses = [address] := by
  have hemail : email? yorkRequest.email yorkRequest.data = some "ada@x.org" := rfl
  obtain ⟨draft, hdraft⟩ : ∃ draft, draft? yorkRequest none = some draft := by
    rw [draft?_eq, hemail]
    exact ⟨_, Option.map_some _ _⟩
  have hplace : HasPlace yorkRequest.data none := by
    unfold HasPlace
    decide +kernel
  have hsound := draft?_isSound hdraft
  exact ⟨draft, hdraft, hsound, hsound.one_address_iff.2 hplace⟩

end Enrolment.Customer
