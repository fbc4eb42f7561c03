/-
Where the email address of a customer comes from.

The four searches are one search through a list of candidates, in the order in which they are
trusted.  A candidate that has the shape of an address is the address given beside the answers
or an answer that is a text, with one exception: the searches by keys look at the text of any
answer, and the text of a list with a single item may have this shape, brackets and all.  The
text of no other value has it, since there is no at sign in numbers and truth values, and a
blank in all other lists and in objects.  So the address is one that was submitted
(`IsBySubmission`) unless the candidate that is found first is such a list.
-/
import Enrolment.Customer.Email
import Enrolment.Proofs.Json.Text
import Enrolment.Proofs.Search.First
import Enrolment.Proofs.Text.Email

namespace Enrolment.Customer

/-! ### Addresses -/

/-- Whether a text has the shape of an email address but for the blanks around it. -/
def IsAddress (s : String) : Prop :=
  Text.isEmail Text.isBlank (Text.trim s).toList = true

instance (s : String) : Decidable (IsAddress s) :=
  inferInstanceAs (Decidable (_ = true))

theorem address?_eq (s : String) :
    address? s = if IsAddress s then some (Text.lower (Text.trim s)) else none :=
  rfl

theorem address?_eq_some_iff {s email : String} :
    address? s = some email ↔ IsAddress s ∧ email = Text.lower (Text.trim s) := by
  rw [address?_eq]
  by_cases hshape : IsAddress s
  · rw [if_pos hshape, Option.some_inj]
    exact ⟨fun h => ⟨hshape, h.symm⟩, fun h => h.2.symm⟩
  · rw [if_neg hshape]
    exact iff_of_false nofun fun h => hshape h.1

theorem address?_eq_none_iff {s : String} : address? s = none ↔ ¬IsAddress s := by
  rw [Option.eq_none_iff_forall_ne_some]
  constructor
  · intro h hshape
    exact h _ (address?_eq_some_iff.2 ⟨hshape, rfl⟩)
  · intro h email hemail
    exact h (address?_eq_some_iff.1 hemail).1

/-- An address has an at sign and no blank. -/
theorem chars_of_isEmail {blank : Char → Bool} {s : List Char} (h : Text.isEmail blank s = true) :
    '@' ∈ s ∧ ∀ c ∈ s, blank c = false := by
  obtain ⟨hblank, account, host, domain, rfl, -⟩ := Text.isEmail_iff.1 h
  refine ⟨?_, hblank⟩
  simp

theorem IsAddress.at_mem {s : String} (h : IsAddress s) : '@' ∈ s.toList := by
  have hmem := (chars_of_isEmail h).1
  rw [Text.toList_trim] at hmem
  exact Text.mem_of_mem_strip hmem

/-- Nor is there a blank in a text that begins and ends with none. -/
theorem IsAddress.not_blank_mem {s : String} (h : IsAddress s) (hfirm : Text.IsFirm s.toList)
    {c : Char} (hblank : Text.isBlank c = true) : c ∉ s.toList := by
  intro hc
  have hnone := (chars_of_isEmail h).2 c
  rw [Text.toList_trim, hfirm.strip_eq] at hnone
  rw [hnone hc] at hblank
  cases hblank

/-! ### Values whose text is an address -/

/-- What is written in digits and marks has no at sign. -/
theorem at_not_mem_of_isWritten {s : List Char} (h : ∀ c ∈ s, Numeral.isWritten c = true) :
    '@' ∉ s := by
  intro hat
  have hnot : Numeral.isWritten '@' = false := by decide
  rw [h '@' hat] at hnot
  cases hnot

theorem at_not_mem_entry_int (n : Int) : '@' ∉ (Json.entry (.int n)).toList := by
  have htext : (Json.entry (.int n)).toList = Numeral.ofInt n := String.toList_ofList
  rw [htext]
  exact at_not_mem_of_isWritten fun c hc => Numeral.isWritten_of_mem_ofInt hc

theorem at_not_mem_entry_num (x : Binary64) : '@' ∉ (Json.entry (.num x)).toList := by
  show '@' ∉ (Json.plain (.num x)).toList
  rcases Json.plain_num_cases x with hword | hwritten
  · have hwords : ["nan", "inf", "-inf"].all (fun word => !word.toList.contains '@') = true := by
      decide
    simpa using List.all_eq_true.1 hwords _ hword
  · exact at_not_mem_of_isWritten hwritten

theorem isBlank_space : Text.isBlank ' ' = true := by
  decide

theorem eq_singleton_of_isAddress {items : List Json} (h : IsAddress (Json.text (.arr items))) :
    ∃ item, items = [item] := by
  -- The text of an empty list has no at sign, and that of a longer one has a blank.
  cases items with
  | nil =>
      have hat := h.at_mem
      rw [Json.toList_text_arr] at hat
      simp [Json.quotedItems] at hat
  | cons first rest =>
      cases rest with
      | nil => exact ⟨first, rfl⟩
      | cons second others =>
          have hblank := Json.blank_mem_text_arr first second others
          exact absurd hblank (h.not_blank_mem (Json.isFirm_text_arr _) isBlank_space)

theorem not_isAddress_obj (members : Members) : ¬IsAddress (Json.text (.obj members)) := by
  intro h
  cases members with
  | nil =>
      have hat := h.at_mem
      rw [Json.toList_text_obj] at hat
      simp [Json.quotedMembers] at hat
  | cons member rest =>
      have hblank := Json.blank_mem_text_obj member rest
      exact h.not_blank_mem (Json.isFirm_text_obj _) isBlank_space hblank

/-- **Only a text and a list of a single item may have a text with the shape of an address.** -/
theorem str_or_singleton_of_isAddress {value : Json} (h : IsAddress value.entry) :
    (∃ s, value = .str s) ∨ ∃ item, value = .arr [item] := by
  have hat := h.at_mem
  cases value with
  | str s => exact .inl ⟨s, rfl⟩
  | null => simp [Json.entry] at hat
  | bool value => cases value <;> simp [Json.entry, Json.plain, Json.text, Json.quoted] at hat
  | int n => exact absurd hat (at_not_mem_entry_int n)
  | num x => exact absurd hat (at_not_mem_entry_num x)
  | arr items =>
      obtain ⟨item, rfl⟩ := eq_singleton_of_isAddress h
      exact .inr ⟨item, rfl⟩
  | obj members => exact absurd h (not_isAddress_obj members)

/-! ### Candidates -/

/-- A value that is a text. -/
def typed? : Json → Option String
  | .str s => some s
  | _ => none

theorem typed?_eq_some_iff {value : Json} {s : String} :
    typed? value = some s ↔ value = .str s := by
  cases value <;> simp [typed?]

/-- The texts among which an email address is looked for, in the order in which they are trusted:
the one given beside the answers, those of the answers under keys that name an email address, of
those under keys that ask for one, and the answers that are texts. -/
def candidates (given : Option String) (data : Members) : List String :=
  given.toList ++
    ((emailKeys.flatMap fun name => data.flatMap fun (key, value) =>
        if Key.normal key = name.toList then [value.entry] else []) ++
      ((data.flatMap fun (key, value) => if suggestsEmail key then [value.entry] else []) ++
        data.flatMap fun (_, value) => (typed? value).toList))

theorem findSome?_flatMap {α β γ : Type} (l : List α) (g : α → List β) (f : β → Option γ) :
    (l.flatMap g).findSome? f = l.findSome? fun a => (g a).findSome? f := by
  induction l with
  | nil => rfl
  | cons a rest ih =>
      rw [List.flatMap_cons, List.findSome?_append, ih, List.findSome?_cons]
      cases (g a).findSome? f <;> rfl

theorem findSome?_toList {α β : Type} (a : Option α) (f : α → Option β) :
    a.toList.findSome? f = a.bind f := by
  cases a with
  | none => rfl
  | some a => rw [Option.toList_some, List.findSome?_singleton, Option.bind_some]

theorem findSome?_ite {α β : Type} (p : Prop) [Decidable p] (a : α) (f : α → Option β) :
    (if p then [a] else []).findSome? f = if p then f a else none := by
  by_cases hp : p
  · rw [if_pos hp, if_pos hp, List.findSome?_singleton]
  · rw [if_neg hp, if_neg hp, List.findSome?_nil]

theorem textAddress?_eq (value : Json) : textAddress? value = (typed? value).bind address? := by
  cases value with
  | str s => rw [typed?, Option.bind_some, textAddress?]
  | null | bool _ | int _ | num _ | arr _ | obj _ => exact (Option.bind_none address?).symm

/-- **The four searches are one search through the candidates.** -/
theorem email?_eq_findSome? (given : Option String) (data : Members) :
    email? given data = (candidates given data).findSome? address? := by
  unfold candidates email?
  simp only [List.findSome?_append, findSome?_flatMap, findSome?_toList, findSome?_ite,
    textAddress?_eq]

/-- The address is that of the first candidate that has the shape of one. -/
theorem email?_eq_some_iff {given : Option String} {data : Members} {email : String} :
    email? given data = some email ↔
      ∃ s, IsFirst IsAddress (candidates given data) s ∧ email = Text.lower (Text.trim s) := by
  rw [email?_eq_findSome?, List.findSome?_eq_some_iff]
  simp only [address?_eq_some_iff, address?_eq_none_iff]
  constructor
  · intro h
    obtain ⟨front, s, back, hsplit, ⟨hshape, hemail⟩, hfront⟩ := h
    exact ⟨s, ⟨front, back, hsplit, hshape, hfront⟩, hemail⟩
  · intro h
    obtain ⟨s, ⟨front, back, hsplit, hshape, hfront⟩, hemail⟩ := h
    exact ⟨front, s, back, hsplit, ⟨hshape, hemail⟩, hfront⟩

/-! ### What was submitted -/

/-- A key that names an email address also asks for one. -/
theorem suggestsEmail_of_mem {key name : String} (hname : name ∈ emailKeys)
    (h : Key.normal key = name.toList) : suggestsEmail key = true := by
  have hnames : emailKeys.all (fun name =>
      Text.anyTail "mail".toList.isPrefixOf name.toList && !emailKeyExcludes.any fun part =>
        Text.anyTail part.toList.isPrefixOf name.toList) = true := by
    decide
  have hsuggests := List.all_eq_true.1 hnames name hname
  rw [← h] at hsuggests
  exact hsuggests

/-- Whether a text was submitted, beside the answers or as one of them. -/
def IsSubmitted (given : Option String) (data : Members) (s : String) : Prop :=
  given = some s ∨ ∃ key, (key, Json.str s) ∈ data

/-- Whether a text is that of a list with a single item, under a key that asks for an email
address. -/
def IsPrinted (data : Members) (s : String) : Prop :=
  ∃ key item, (key, Json.arr [item]) ∈ data ∧ suggestsEmail key = true ∧
    s = (Json.arr [item]).text

variable {given : Option String} {data : Members}

theorem mem_candidates_iff {s : String} :
    s ∈ candidates given data ↔ IsSubmitted given data s ∨
      ∃ key value, (key, value) ∈ data ∧ suggestsEmail key = true ∧ s = value.entry := by
  unfold candidates IsSubmitted
  simp only [List.mem_append, Option.mem_toList, List.mem_flatMap, Prod.exists,
    List.mem_ite_nil_right, List.mem_singleton, typed?_eq_some_iff]
  constructor
  · intro h
    rcases h with hgiven | ⟨name, hname, key, value, hmem, hkey, hs⟩ | hsuggested |
      ⟨key, value, hmem, hstr⟩
    · exact .inl (.inl hgiven)
    · exact .inr ⟨key, value, hmem, suggestsEmail_of_mem hname hkey, hs⟩
    · exact .inr hsuggested
    · exact .inl (.inr ⟨key, hstr ▸ hmem⟩)
  · intro h
    rcases h with (hgiven | ⟨key, hmem⟩) | hsuggested
    · exact .inl hgiven
    · exact .inr (.inr (.inr ⟨key, .str s, hmem, rfl⟩))
    · exact .inr (.inr (.inl hsuggested))

/-- **A candidate with the shape of an address was submitted, or is the text of a list.** -/
theorem mem_candidates_iff_of_isAddress {s : String} (hshape : IsAddress s) :
    s ∈ candidates given data ↔ IsSubmitted given data s ∨ IsPrinted data s := by
  rw [mem_candidates_iff]
  constructor
  · intro h
    rcases h with hsubmitted | ⟨key, value, hmem, hkey, rfl⟩
    · exact .inl hsubmitted
    · rcases str_or_singleton_of_isAddress hshape with ⟨s, rfl⟩ | ⟨item, rfl⟩
      · exact .inl (.inr ⟨key, hmem⟩)
      · exact .inr ⟨key, item, hmem, hkey, rfl⟩
  · intro h
    rcases h with hsubmitted | ⟨key, item, hmem, hkey, hs⟩
    · exact .inl hsubmitted
    · exact .inr ⟨key, .arr [item], hmem, hkey, hs⟩

theorem exists_of_email?_eq_some {email : String} (h : email? given data = some email) :
    ∃ s, IsFirst IsAddress (candidates given data) s ∧
      (IsSubmitted given data s ∨ IsPrinted data s) ∧ IsAddress s ∧
      email = Text.lower (Text.trim s) := by
  obtain ⟨s, hfirst, hemail⟩ := email?_eq_some_iff.1 h
  have hshape := hfirst.holds
  exact ⟨s, hfirst, (mem_candidates_iff_of_isAddress hshape).1 hfirst.mem, hshape, hemail⟩

theorem email?_eq_none_iff :
    email? given data = none ↔
      ∀ s, IsSubmitted given data s ∨ IsPrinted data s → ¬IsAddress s := by
  rw [email?_eq_findSome?, List.findSome?_eq_none_iff]
  simp only [address?_eq_none_iff]
  constructor
  · intro h s hs hshape
    exact h s ((mem_candidates_iff_of_isAddress hshape).2 hs) hshape
  · intro h s hs hshape
    exact h s ((mem_candidates_iff_of_isAddress hshape).1 hs) hshape

/-- Whether the address of a customer is found just if a text with the shape of one was submitted,
and is then one that was. -/
structure IsBySubmission (given : Option String) (data : Members) : Prop where
  none_iff : email? given data = none ↔ ∀ s, IsSubmitted given data s → ¬IsAddress s
  of_some : ∀ email, email? given data = some email →
    ∃ s, IsSubmitted given data s ∧ IsAddress s ∧ email = Text.lower (Text.trim s)

/-- It is enough that what is found was submitted: the searches overlook no text. -/
theorem isBySubmission_iff :
    IsBySubmission given data ↔ ∀ email, email? given data = some email →
      ∃ s, IsSubmitted given data s ∧ address? s = some email := by
  simp only [address?_eq_some_iff]
  constructor
  · intro h
    exact h.of_some
  · intro h
    refine ⟨⟨?_, ?_⟩, h⟩
    · intro hnone s hsubmitted
      exact email?_eq_none_iff.1 hnone s (.inl hsubmitted)
    · intro hnone
      rw [Option.eq_none_iff_forall_ne_some]
      intro email hemail
      obtain ⟨s, hsubmitted, hshape, -⟩ := h email hemail
      exact hnone s hsubmitted hshape

/-- **The address of a customer was submitted unless the first candidate that has the shape of
one is the text of a list.**  Then it may have been submitted only if some text has the same
address.  In all cases there is an address just if one was submitted or is such a text. -/
theorem email?_outcome (given : Option String) (data : Members) :
    (IsBySubmission given data ↔
      ¬∃ s, IsFirst IsAddress (candidates given data) s ∧ IsPrinted data s ∧
        ∀ t, IsSubmitted given data t → address? t ≠ address? s) ∧
    (email? given data = none ↔
      ∀ s, IsSubmitted given data s ∨ IsPrinted data s → ¬IsAddress s) ∧
    ∀ email, email? given data = some email →
      ∃ s, (IsSubmitted given data s ∨ IsPrinted data s) ∧ IsAddress s ∧
        email = Text.lower (Text.trim s) := by
  refine ⟨?_, email?_eq_none_iff, ?_⟩
  · rw [isBySubmission_iff]
    constructor
    · intro h hlisted
      obtain ⟨s, hfirst, -, hother⟩ := hlisted
      have haddress := address?_eq_some_iff.2 ⟨hfirst.holds, rfl⟩
      obtain ⟨t, hsubmitted, ht⟩ := h _ (email?_eq_some_iff.2 ⟨s, hfirst, rfl⟩)
      exact hother t hsubmitted (ht.trans haddress.symm)
    · intro h email hemail
      obtain ⟨s, hfirst, hsource, hs⟩ := exists_of_email?_eq_some hemail
      have haddress := address?_eq_some_iff.2 hs
      rcases hsource with hsubmitted | hprinted
      · exact ⟨s, hsubmitted, haddress⟩
      · by_contra hnone
        refine h ⟨s, hfirst, hprinted, ?_⟩
        intro t hsubmitted ht
        exact hnone ⟨t, hsubmitted, ht.trans haddress⟩
  · intro email hemail
    obtain ⟨s, -, hsource, hs⟩ := exists_of_email?_eq_some hemail
    exact ⟨s, hsource, hs⟩

/-- An address in a list is taken with the brackets and quotes of the list. -/
theorem listed_address_taken :
    email? none [("email", .arr [.str "ada@example.com"])] = some "['ada@example.com']" ∧
      ¬IsBySubmission none [("email", .arr [.str "ada@example.com"])] := by
  have hfound :
      email? none [("email", .arr [.str "ada@example.com"])] = some "['ada@example.com']" := by
    decide
  refine ⟨hfound, ?_⟩
  intro h
  obtain ⟨s, hsubmitted, -⟩ := h.of_some _ hfound
  rcases hsubmitted with hgiven | ⟨key, hmem⟩
  · cases hgiven
  · simp at hmem

end Enrolment.Customer
