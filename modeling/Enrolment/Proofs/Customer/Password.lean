/-
What a draft tells of a password.

The answer under a key for a password is put into the draft as its password, and it can get
into the draft as the email address, by the search for any text that has the shape of one.
That happens if no address is found before the search comes to it (`emailAhead?`); if it
has no such shape, the search goes on behind it (`emailBehind?`).
-/
import Enrolment.Proofs.Customer.Clue
import Enrolment.Proofs.Customer.Ignored
import Enrolment.Proofs.Json.Members

namespace Enrolment

open Customer

/-! ### The password -/

variable {key : String}

/-- Where something plausible is given for a password, there is a password. -/
theorem IsPasswordKey.findPassword_ne (hkey : IsPasswordKey key) {data : Members} {value : Json}
    (hmem : (key, value) ∈ data) (htyped : Clue.isPlausible value = true) :
    findPassword data ≠ "" := by
  have hfold : ∀ word ∈ Clue.password.exact, word = Clue.fold word := by decide
  have hadmitted : (key, value) ∈ Clue.admitted (Phrase.anyIn Clue.documentPhrases) data :=
    Clue.mem_admitted.2 ⟨hmem, hkey.anyIn_documentPhrases, htyped⟩
  exact Clue.pick_ne_empty hkey.fold_mem hadmitted (hfold _ hkey.fold_mem)

/-! ### The email address -/

namespace Customer

variable (given : Option String) (data : Members)

/-- The email address that is found before a search for texts comes to an answer. -/
def emailAhead? (key : String) : Option String :=
  (keyedEmail? given (data.before key ++ data.after key)).or (anyEmail? (data.before key))

/-- The email address that is found behind an answer. -/
def emailBehind? (key : String) : Option String :=
  anyEmail? (data.after key)

/-- The email address, if a text is given for a password. -/
def emailWith? (key text : String) : Option String :=
  (emailAhead? given data key).or ((address? text).or (emailBehind? data key))

end Customer

theorem Customer.anyEmail?_append (front back : Members) :
    anyEmail? (front ++ back) = (anyEmail? front).or (anyEmail? back) :=
  List.findSome?_append

theorem Customer.anyEmail?_cons_str (key text : String) (rest : Members) :
    anyEmail? ((key, .str text) :: rest) = (address? text).or (anyEmail? rest) := by
  unfold anyEmail?
  rw [List.findSome?_cons]
  dsimp only [textAddress?]
  cases address? text <;> rfl

namespace IsPasswordKey

variable (hkey : IsPasswordKey key)
include hkey

theorem email?_put (given : Option String) (data : Members) (text : String) :
    email? given (data.put key (.str text)) = emailWith? given data key text := by
  rw [Members.put_eq, email?_eq, hkey.ignores_keyedEmail? given, anyEmail?_append,
    anyEmail?_cons_str, ← Option.or_assoc]
  rfl

/-- **A draft made with a text for a password has the text nowhere but in the email address, and as
its password.** -/
theorem draft?_put (request : Request) {text : String}
    (htyped : Clue.isPlausible (.str text) = true) (table : Option Place.Table) :
    ∃ password : String,
      draft? { request with data := request.data.put key (.str text) } table =
        (emailWith? request.email request.data key text).map fun email =>
          draftWith table email (some password)
            (request.data.before key ++ request.data.after key) := by
  have hmem : (key, .str text) ∈ request.data.put key (.str text) := by
    rw [Members.put_eq]
    exact List.mem_append_right _ (.head _)
  refine ⟨findPassword (request.data.put key (.str text)), ?_⟩
  have hpassword : nonempty? (findPassword (request.data.put key (.str text))) =
      some (findPassword (request.data.put key (.str text))) :=
    if_neg (hkey.findPassword_ne hmem htyped)
  have hrest : ∀ email password, draftWith table email password (request.data.put key (.str text)) =
      draftWith table email password (request.data.before key ++ request.data.after key) := by
    intro email password
    rw [Members.put_eq, hkey.ignores_draftWith table email password]
  rw [draft?_eq]
  dsimp only
  rw [hkey.email?_put, hpassword]
  simp only [hrest]

end IsPasswordKey

end Enrolment
