/-
What becomes of the answers that a rule accepts.

A rule checks what is typed into the form, and a draft is made of it afterwards.  Both have a
notion of an email address and of a password, and the notions are not the same.  The rule for
addresses knows the six blanks of ASCII only, while the search for an address turns away a text
with any blank in it; but for that they agree, since small letters change no address.  The rule
for passwords asks for length, a letter and a digit, while a draft takes what looks typed
(`IsModest`): so a password with a slash is accepted, and the customer gets none.
-/
import Enrolment.Form.Rule
import Enrolment.Proofs.Customer.Email
import Enrolment.Proofs.Customer.Password
import Enrolment.Proofs.Customer.Shape
import Enrolment.Proofs.Text.Email

namespace Enrolment

open Customer

/-! ### Email addresses -/

/-- Letters in capitals make no difference to the rule for addresses, which the widget applies to
small letters. -/
theorem Rule.accepts_email_lowerChars (s : List Char) :
    Rule.email.accepts (Text.lowerChars s) = Rule.email.accepts s := by
  have hkeeps : Text.KeepsMarks s (Text.lowerChars s) := Text.keepsMarks_lowerFrom [] s
  unfold Rule.accepts
  rw [hkeeps.isEmail_eq fun c hc => Text.isBlank_of_isAsciiBlank hc]

namespace Customer

variable {v : String}

/-- Whether a text has a blank that is none of the six of ASCII. -/
def HasRareBlank (s : String) : Prop :=
  ∃ c ∈ s.toList, Text.isBlank c = true ∧ Text.isAsciiBlank c = false

theorem passes_email_iff :
    Rule.email.passes (.str v) = .ok true ↔
      Text.isEmail Text.isAsciiBlank (Text.trim v).toList = true := by
  show Except.ok _ = Except.ok true ↔ _
  rw [Except.ok.injEq, Text.toList_trim]
  rfl

/-- A text has the shape of an address just if the rule accepts it and no other blank is in it. -/
theorem isAddress_iff :
    IsAddress v ↔ Rule.email.passes (.str v) = .ok true ∧ ¬HasRareBlank (Text.trim v) := by
  rw [passes_email_iff]
  unfold IsAddress HasRareBlank
  rw [Text.isEmail_iff, Text.isEmail_iff]
  constructor
  · intro h
    obtain ⟨hnone, hparts⟩ := h
    refine ⟨⟨?_, hparts⟩, ?_⟩
    · intro c hc
      by_contra hblank
      have hascii : Text.isAsciiBlank c = true := by simpa using hblank
      have hno := hnone c hc
      rw [Text.isBlank_of_isAsciiBlank hascii] at hno
      cases hno
    · intro hrare
      obtain ⟨c, hc, hblank, -⟩ := hrare
      rw [hnone c hc] at hblank
      cases hblank
  · intro h
    obtain ⟨⟨hascii, hparts⟩, hrare⟩ := h
    refine ⟨?_, hparts⟩
    intro c hc
    by_contra hblank
    exact hrare ⟨c, hc, by simpa using hblank, hascii c hc⟩

/-- Without answers only the address beside them can be taken. -/
theorem email?_given : email? (some v) [] = address? v := by
  have hcandidates : candidates (some v) [] = [v] := by simp [candidates]
  rw [email?_eq_findSome?, hcandidates, List.findSome?_singleton]

theorem email?_given_ne_none_iff : email? (some v) [] ≠ none ↔ IsAddress v := by
  rw [email?_given, ne_eq, address?_eq_none_iff, not_not]

/-- The rule accepts an address in small letters as it does the address. -/
theorem passes_email_lower_trim (h : IsAddress v) :
    Rule.email.passes (.str (Text.lower (Text.trim v))) = Rule.email.passes (.str v) := by
  have hnone : ∀ c ∈ Text.strip v.toList, Text.isBlank c = false := by
    rw [← Text.toList_trim]
    exact (chars_of_isEmail h).2
  have hlower := ((Text.keepsMarks_lowerFrom [] _).forall_not_blank_iff fun c hc => hc).2 hnone
  show Rule.email.accepts (Text.strip (Text.lower (Text.trim v)).toList) = _
  rw [Text.toList_lower, Text.toList_trim, Text.lowerChars, Text.strip_of_not_blank hlower,
    ← Text.lowerChars, Rule.accepts_email_lowerChars]
  rfl

/-- **The rule for addresses accepts a text just if it is taken as one, unless a blank that is none
of the six of ASCII is in it.**  Then the rule may accept it, and it is not taken.  What is taken
has been accepted, as it was typed and in small letters; and a request with nothing but an address
makes a draft just if it is taken. -/
theorem email_accepted_iff_taken (v : String) :
    ((Rule.email.passes (.str v) = .ok true ↔ email? (some v) [] ≠ none) ↔
      ¬(Rule.email.passes (.str v) = .ok true ∧ HasRareBlank (Text.trim v))) ∧
    (∀ email, email? (some v) [] = some email →
      Rule.email.passes (.str v) = .ok true ∧ Rule.email.passes (.str email) = .ok true) ∧
    ∀ table, (∃ draft, draftOf (.obj [("email", .str v)]) table = .ok draft) ↔
      email? (some v) [] ≠ none := by
  refine ⟨?_, ?_, ?_⟩
  · rw [email?_given_ne_none_iff, isAddress_iff]
    tauto
  · intro email hemail
    rw [email?_given] at hemail
    obtain ⟨hshape, rfl⟩ := address?_eq_some_iff.1 hemail
    have hpasses := (isAddress_iff.1 hshape).1
    exact ⟨hpasses, (passes_email_lower_trim hshape).trans hpasses⟩
  · intro table
    have hread : Request.readAny (.obj [("email", .str v)]) = .ok ⟨none, [], some v, []⟩ := rfl
    simp only [draftOf_eq_ok_iff hread, draft?_eq]
    cases hemail : email? (some v) [] with
    | none => simp
    | some email => simp

/-- An address with a no-break space in it is accepted, and not taken. -/
theorem no_break_space_accepted_not_taken :
    Rule.email.passes (.str "a\u00a0b@x.org") = .ok true ∧
      email? (some "a\u00a0b@x.org") [] = none := by
  exact ⟨rfl, rfl⟩

/-! ### Passwords -/

/-- Whether a text is not very long, has no slash of either kind, and does not end like the name
of a file. -/
structure IsModest (s : List Char) : Prop where
  short : s.length ≤ 512
  no_slash : '/' ∉ s
  no_backslash : '\\' ∉ s
  no_file : ∀ ending ∈ Clue.fileEndings, Text.endsWith ending.toList s = false

theorem looksTyped_iff {s : List Char} : Clue.looksTyped s = true ↔ s ≠ [] ∧ IsModest s := by
  unfold Clue.looksTyped
  simp only [Bool.and_eq_true, Bool.not_eq_true', List.isEmpty_eq_false_iff, decide_eq_true_eq,
    List.contains_eq_mem, decide_eq_false_iff_not, List.any_eq_false, Bool.not_eq_true]
  constructor
  · intro h
    obtain ⟨⟨⟨⟨hne, hshort⟩, hslash⟩, hbackslash⟩, hfile⟩ := h
    exact ⟨hne, hshort, hslash, hbackslash, hfile⟩
  · intro h
    obtain ⟨hne, hmodest⟩ := h
    exact ⟨⟨⟨⟨hne, hmodest.short⟩, hmodest.no_slash⟩, hmodest.no_backslash⟩, hmodest.no_file⟩

theorem isPlausible_str_iff {s : String} : Clue.isPlausible (.str s) = true ↔
    (Text.trim s).toList ≠ [] ∧ IsModest (Text.trim s).toList :=
  looksTyped_iff

/-- The rule for passwords accepts no empty text. -/
theorem trim_ne_nil_of_passes (h : Rule.password.passes (.str v) = .ok true) :
    (Text.trim v).toList ≠ [] := by
  have hpassword : Rule.isPassword (Text.strip v.toList) = true := Except.ok.inj h
  intro hnil
  rw [Text.toList_trim] at hnil
  rw [hnil] at hpassword
  cases hpassword

/-- The only text under a key for a password is found, if it looks typed. -/
theorem findPassword_of_only {data : Members} (hmem : ("Password", .str v) ∈ data)
    (honly : ∀ key value, (key, value) ∈ data → Clue.fold key = "password" → value = .str v)
    (htyped : Clue.isPlausible (.str v) = true) : findPassword data = Text.trim v := by
  have hfold : Clue.fold "Password" = "password" ∧ Clue.fold "password" = "password" := by decide
  have hkey : IsPasswordKey "Password" := by decide
  have hunder : Clue.IsUnder "password" ("Password", .str v) := hfold.1.trans hfold.2.symm
  have hadmitted : ("Password", .str v) ∈ Clue.admitted (Phrase.anyIn Clue.documentPhrases) data :=
    Clue.mem_admitted.2 ⟨hmem, hkey.anyIn_documentPhrases, htyped⟩
  obtain ⟨answer, hfirst⟩ := exists_isFirst_iff.2 ⟨_, hadmitted, hunder⟩
  have hanswer : answer.2 = .str v := by
    refine honly answer.1 answer.2 (Clue.mem_admitted.1 hfirst.mem).1 ?_
    exact hfirst.holds.trans hfold.2
  have hearliest : IsFirst (fun name => ∃ answer ∈ Clue.admitted _ data, Clue.IsUnder name answer)
      Clue.password.exact "password" :=
    ⟨[], ["pwd"], rfl, ⟨_, hadmitted, hunder⟩, nofun⟩
  calc findPassword data
      = Clue.valueText answer.2 := Clue.pick_of_isPicked (.exact hearliest hfirst)
    _ = Text.trim v := by rw [hanswer]; rfl

/-- What is found for a password looks typed. -/
theorem isModest_of_password {data : Members}
    (h : nonempty? (findPassword data) = some (Text.trim v)) : IsModest (Text.trim v).toList := by
  have htyped := isPlausibleText_find Clue.password Clue.documentPhrases "" data (Text.trim v) h
  have hmodest := (isPlausible_str_iff.1 htyped).2
  rwa [Text.trim_trim] at hmodest

/-- **A password that the rule accepts is that of the customer just if it looks typed**: if it has
at most 512 characters, no slash of either kind, and not the ending of a file.  There is a draft in
any case. -/
theorem draft?_password_of_accepted {request : Request} {email : String}
    (hgiven : request.email = some email) (hemail : IsAddress email)
    (hpasses : Rule.password.passes (.str v) = .ok true)
    (hmem : ("Password", .str v) ∈ request.data)
    (honly : ∀ key value, (key, value) ∈ request.data → Clue.fold key = "password" →
      value = .str v) (table : Option Place.Table) :
    ∃ draft, draft? request table = some draft ∧
      (∀ submission, Request.readAny submission = .ok request →
        draftOf submission table = .ok draft) ∧
      (draft.password = some (Text.trim v) ↔ IsModest (Text.trim v).toList) := by
  have hfound : email? request.email request.data = some (Text.lower (Text.trim email)) := by
    unfold email?
    rw [hgiven, Option.bind_some, address?_eq_some_iff.2 ⟨hemail, rfl⟩, Option.some_or]
  have hdraft := draft?_of_email hfound table
  refine ⟨_, hdraft, ?_, ?_⟩
  · intro submission hread
    exact (draftOf_eq_ok_iff hread table).2 hdraft
  · constructor
    · intro h
      exact isModest_of_password h
    · intro hmodest
      have htyped := isPlausible_str_iff.2 ⟨trim_ne_nil_of_passes hpasses, hmodest⟩
      show nonempty? (findPassword request.data) = _
      rw [findPassword_of_only hmem honly htyped, nonempty?, if_neg]
      intro hempty
      exact trim_ne_nil_of_passes hpasses (by rw [hempty, String.toList_empty])

/-- A request with a password between other answers. -/
def passwordRequest (password : String) : Request where
  id := none
  data := [("pwd", .str "other99x"), ("Password", .str password), ("Pass", .str "third77x")]
  email := some " Ada@x.org "
  files := []

/-- The password is found among them, without the blanks around it. -/
theorem typed_password_kept :
    IsModest (Text.trim " s3cret-pw\t").toList ∧
      ∃ draft, draft? (passwordRequest " s3cret-pw\t") none = some draft ∧
        draft.password = some "s3cret-pw" := by
  have hmodest : IsModest (Text.trim " s3cret-pw\t").toList :=
    ⟨by decide, by decide, by decide, by decide +kernel⟩
  have honly : ∀ key value, (key, value) ∈ (passwordRequest " s3cret-pw\t").data →
      Clue.fold key = "password" → value = .str " s3cret-pw\t" := by
    intro key value hmem hfold
    simp only [passwordRequest, List.mem_cons, Prod.mk.injEq, List.not_mem_nil, or_false] at hmem
    rcases hmem with ⟨rfl, -⟩ | ⟨-, rfl⟩ | ⟨rfl, -⟩
    · exact absurd hfold (by decide)
    · rfl
    · exact absurd hfold (by decide)
  have hgiven : (passwordRequest " s3cret-pw\t").email = some " Ada@x.org " := rfl
  obtain ⟨draft, hdraft, -, hpassword⟩ := draft?_password_of_accepted hgiven (by decide) rfl
    (.tail _ (.head _)) honly none
  exact ⟨hmodest, draft, hdraft, hpassword.2 hmodest⟩

/-- A password with a slash is accepted, and the customer has none. -/
theorem slashed_password_accepted_not_kept :
    Rule.password.passes (.str "abc/1234") = .ok true ∧
      ∃ draft, draft? ⟨none, [("Password", .str "abc/1234")], some "ada@x.org", []⟩ none =
        some draft ∧ draft.password = none := by
  have hemail : email? (some "ada@x.org") [("Password", .str "abc/1234")] = some "ada@x.org" := rfl
  have hpassword : findPassword [("Password", .str "abc/1234")] = "" := by decide
  refine ⟨rfl, _, draft?_of_email hemail none, ?_⟩
  show nonempty? (findPassword [("Password", .str "abc/1234")]) = none
  rw [hpassword]
  rfl

end Customer

end Enrolment
