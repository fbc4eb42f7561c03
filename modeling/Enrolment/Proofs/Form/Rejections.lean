/-
What is reported when fields share keys.

Answers are checked field by field, and rejections are recorded by key.  Fields that share a key
are all checked on the one answer under it, and they may judge it by different rules.  A rejection
takes the place of an earlier one for its key, and a field that is content with the answer leaves
what was recorded.  So a key is reported just if one of its fields rejects the answer, for the
reason that the last such field gives and at the place that the first one gave it (`Reports`).
-/
import Enrolment.Proofs.Form.Check
import Enrolment.Proofs.Submission.SharedKeys

namespace Enrolment

/-! ### One field -/

namespace Placed

/-- Checks the answer that was submitted under the key of a field. -/
def check (answers : Members) (p : Placed) : Except Url.Malformed (Option Rejection) :=
  p.field.check ((answers.get? p.key).getD .null)

/-- Whether a field rejects the answer that was submitted under its key. -/
def rejects (answers : Members) (p : Placed) : Bool :=
  match p.check answers with
  | .ok (some _) => true
  | _ => false

variable {answers : Members} {p : Placed}

theorem rejects_iff :
    p.rejects answers = true ↔ ∃ rejection, p.check answers = .ok (some rejection) := by
  unfold rejects
  split
  · rename_i rejection hcheck
    exact iff_of_true rfl ⟨rejection, hcheck⟩
  · rename_i hother
    refine iff_of_false nofun ?_
    rintro ⟨rejection, hcheck⟩
    exact hother rejection hcheck

theorem rejects_of_check_none (h : p.check answers = .ok none) : p.rejects answers = false := by
  rw [rejects, h]

theorem rejects_of_check_some {rejection : Rejection} (h : p.check answers = .ok (some rejection)) :
    p.rejects answers = true :=
  rejects_iff.2 ⟨rejection, h⟩

end Placed

namespace Rejections

/-- Records the outcome of a check. -/
def record (rejections : Rejections) (key : String) : Option Rejection → Rejections
  | none => rejections
  | some rejection => rejections.put key rejection

theorem lookup_cons (k other : String) (r : Rejection) (rest : Rejections) :
    List.lookup other ((k, r) :: rest) = if other = k then some r else List.lookup other rest := by
  by_cases h : other = k
  · rw [if_pos h, h, List.lookup_cons_self]
  · rw [if_neg h, List.lookup_cons, beq_eq_false_iff_ne.2 h]

theorem lookup_put (rejections : Rejections) (key other : String) (rejection : Rejection) :
    (rejections.put key rejection).lookup other =
      if other = key then some rejection else rejections.lookup other := by
  induction rejections with
  | nil => exact lookup_cons key other rejection []
  | cons head rest ih =>
      obtain ⟨k, r⟩ := head
      rw [put]
      by_cases hkey : k = key
      · rw [if_pos hkey, lookup_cons, lookup_cons, hkey]
        split <;> rfl
      · rw [if_neg hkey, lookup_cons, lookup_cons, ih]
        by_cases hother : other = k
        · rw [if_pos hother, if_pos hother, if_neg (hother ▸ hkey)]
        · rw [if_neg hother, if_neg hother]

/-- No outcome removes a key, and a new one goes behind the others. -/
theorem keys_isPrefix_record (rejections : Rejections) (key : String)
    (outcome : Option Rejection) :
    rejections.map (·.1) <+: (rejections.record key outcome).map (·.1) := by
  cases outcome with
  | none => exact List.prefix_refl _
  | some rejection =>
      rw [record, Form.map_fst_put]
      split
      · exact List.prefix_refl _
      · exact List.prefix_append _ _

end Rejections

namespace Form

variable {answers : Members} {checked : List Placed} {p : Placed} {key : String}
  {rejection : Rejection} {rejections result : Rejections} {fields : List Field} {index : Nat}

/-! ### The fields that were checked -/

/-- The keys of the fields that reject their answers, in the order of the fields. -/
def rejectedKeys (answers : Members) (checked : List Placed) : List String :=
  (checked.filter (·.rejects answers)).map Placed.key

/-- What it means that, of the fields that have a key and reject its answer, the last one gives a
reason. -/
def LastRejects (answers : Members) (checked : List Placed) (key : String)
    (rejection : Rejection) : Prop :=
  ∃ before p after, checked = before ++ p :: after ∧ p.key = key ∧
    p.check answers = .ok (some rejection) ∧
    ∀ later ∈ after, later.key = key → later.rejects answers = false

theorem mem_rejectedKeys :
    key ∈ rejectedKeys answers checked ↔ ∃ p ∈ checked, p.key = key ∧ p.rejects answers = true := by
  rw [rejectedKeys, List.mem_map]
  constructor
  · rintro ⟨p, hp, rfl⟩
    obtain ⟨hmem, hrejects⟩ := List.mem_filter.1 hp
    exact ⟨p, hmem, rfl, hrejects⟩
  · rintro ⟨p, hmem, rfl, hrejects⟩
    exact ⟨p, List.mem_filter.2 ⟨hmem, hrejects⟩, rfl⟩

theorem rejectedKeys_concat_of_not (h : p.rejects answers = false) :
    rejectedKeys answers (checked ++ [p]) = rejectedKeys answers checked := by
  simp [rejectedKeys, h]

theorem rejectedKeys_concat (h : p.rejects answers = true) :
    rejectedKeys answers (checked ++ [p]) = rejectedKeys answers checked ++ [p.key] := by
  simp [rejectedKeys, h]

theorem eraseDups_concat (keys : List String) (key : String) :
    (keys ++ [key]).eraseDups = if key ∈ keys then keys.eraseDups else keys.eraseDups ++ [key] := by
  rw [List.eraseDups_append]
  by_cases h : key ∈ keys <;> simp [List.removeAll, List.eraseDups_cons, h]

/-- Where a list that ends with an item can be cut: in front of that item, or before. -/
theorem concat_eq_cut_iff {α : Type} {items before after : List α} {last a : α} :
    items ++ [last] = before ++ a :: after ↔
      (before = items ∧ a = last ∧ after = []) ∨
        ∃ rest, items = before ++ a :: rest ∧ after = rest ++ [last] := by
  constructor
  · intro h
    rcases List.eq_nil_or_concat' after with rfl | ⟨rest, item, rfl⟩
    · obtain ⟨rfl, hlast⟩ := List.append_inj' h rfl
      exact .inl ⟨rfl, (List.singleton_inj.1 hlast).symm, rfl⟩
    · rw [← List.cons_append, ← List.append_assoc] at h
      obtain ⟨rfl, hlast⟩ := List.append_inj' h rfl
      obtain rfl := List.singleton_inj.1 hlast
      exact .inr ⟨rest, rfl, rfl⟩
  · rintro (⟨rfl, rfl, rfl⟩ | ⟨rest, rfl, rfl⟩)
    · rfl
    · rw [List.append_assoc, List.cons_append]

/-- A field that has another key or does not reject its answer is passed over. -/
theorem lastRejects_concat_of_not (h : p.key = key → p.rejects answers = false) :
    LastRejects answers (checked ++ [p]) key rejection ↔
      LastRejects answers checked key rejection := by
  constructor
  · rintro ⟨before, found, after, hcut, hkey, hcheck, hafter⟩
    rcases concat_eq_cut_iff.1 hcut with ⟨rfl, rfl, rfl⟩ | ⟨rest, rfl, rfl⟩
    · have hrejects := Placed.rejects_of_check_some hcheck
      rw [h hkey] at hrejects
      cases hrejects
    · exact ⟨before, found, rest, rfl, hkey, hcheck,
        fun later hlater => hafter later (List.mem_append_left _ hlater)⟩
  · rintro ⟨before, found, after, rfl, hkey, hcheck, hafter⟩
    refine ⟨before, found, after ++ [p], by simp, hkey, hcheck, ?_⟩
    intro later hlater
    rcases List.mem_append.1 hlater with hlater | hlater
    · exact hafter later hlater
    · obtain rfl := List.mem_singleton.1 hlater
      exact h

/-- A field that rejects its answer is the last one for its key. -/
theorem lastRejects_concat {reason : Rejection} (h : p.check answers = .ok (some reason)) :
    LastRejects answers (checked ++ [p]) p.key rejection ↔ reason = rejection := by
  constructor
  · rintro ⟨before, found, after, hcut, -, hcheck, hafter⟩
    rcases concat_eq_cut_iff.1 hcut with ⟨rfl, rfl, rfl⟩ | ⟨rest, rfl, rfl⟩
    · rw [h] at hcheck
      exact Option.some.inj (Except.ok.inj hcheck)
    · have hrejects := hafter p (List.mem_append_right _ List.mem_cons_self) rfl
      rw [Placed.rejects_of_check_some h] at hrejects
      cases hrejects
  · rintro rfl
    exact ⟨checked, p, [], rfl, rfl, h, List.forall_mem_nil _⟩

/-! ### One step, and all of them -/

/-- What it means that what was recorded tells how some fields were checked. -/
structure Reports (answers : Members) (checked : List Placed) (rejections : Rejections) :
    Prop where
  /-- The keys stand in the order in which they were first rejected, each once. -/
  keys : rejections.map (·.1) = (rejectedKeys answers checked).eraseDups
  /-- The reason for a key is the last one. -/
  lookup : ∀ key rejection, rejections.lookup key = some rejection ↔
    LastRejects answers checked key rejection

theorem reports_nil : Reports answers [] [] where
  keys := rfl
  lookup := by
    intro key rejection
    refine iff_of_false nofun ?_
    rintro ⟨before, p, after, hcut, -⟩
    cases before <;> cases hcut

/-- **Recording the outcome for one more field, whatever it is, keeps what is reported true.** -/
theorem Reports.concat {outcome : Option Rejection} (h : Reports answers checked rejections)
    (hcheck : p.check answers = .ok outcome) :
    Reports answers (checked ++ [p]) (rejections.record p.key outcome) := by
  cases outcome with
  | none =>
      have hnot := Placed.rejects_of_check_none hcheck
      refine ⟨?_, ?_⟩
      · rw [rejectedKeys_concat_of_not hnot]
        exact h.keys
      · intro key rejection
        rw [lastRejects_concat_of_not fun _ => hnot]
        exact h.lookup key rejection
  | some reason =>
      refine ⟨?_, ?_⟩
      · have hrejects := Placed.rejects_of_check_some hcheck
        rw [Rejections.record, map_fst_put, rejectedKeys_concat hrejects, eraseDups_concat, h.keys]
        simp only [List.mem_eraseDups]
      · intro key rejection
        rw [Rejections.record, Rejections.lookup_put]
        by_cases hkey : key = p.key
        · subst hkey
          rw [if_pos rfl, Option.some_inj, lastRejects_concat hcheck]
        · rw [if_neg hkey, lastRejects_concat_of_not fun hsame => absurd hsame.symm hkey]
          exact h.lookup key rejection

/-- A file is passed over. -/
theorem checkFrom_cons_file {field : Field} (h : field.control = .file) :
    checkFrom answers index rejections (field :: fields) =
      checkFrom answers (index + 1) rejections fields := by
  rw [checkFrom, if_pos h]

/-- Any other field is checked, and the outcome is recorded under its key. -/
theorem checkFrom_cons {field : Field} (h : field.control ≠ .file) :
    checkFrom answers index rejections (field :: fields) = (do
      let outcome ← (⟨index, field⟩ : Placed).check answers
      checkFrom answers (index + 1) (rejections.record (field.key index) outcome) fields) := by
  rw [checkFrom, if_neg h]
  refine bind_congr fun outcome => ?_
  cases outcome <;> rfl

/-- **What is recorded after a run over fields tells how all of them were checked.** -/
theorem Reports.of_checkFrom (h : Reports answers checked rejections)
    (hcheck : checkFrom answers index rejections fields = .ok result) :
    Reports answers (checked ++ (placeFrom index fields).filter (·.field.control ≠ .file))
      result := by
  induction fields generalizing index checked rejections with
  | nil =>
      obtain rfl := Except.ok.inj hcheck
      rw [placeFrom, List.filter_nil, List.append_nil]
      exact h
  | cons field rest ih =>
      rw [placeFrom]
      by_cases hfile : field.control = .file
      · rw [checkFrom_cons_file hfile] at hcheck
        rw [List.filter_cons_of_neg (by simpa using hfile)]
        exact ih h hcheck
      · rw [checkFrom_cons hfile] at hcheck
        obtain ⟨outcome, houtcome, hrest⟩ := ok_of_bind hcheck
        rw [List.filter_cons_of_pos (by simpa using hfile), List.append_cons]
        exact ih (h.concat houtcome) hrest

/-- No field removes a key that was recorded before, nor does one move it. -/
theorem keys_isPrefix_of_checkFrom
    (hcheck : checkFrom answers index rejections fields = .ok result) :
    rejections.map (·.1) <+: result.map (·.1) := by
  induction fields generalizing index rejections with
  | nil =>
      obtain rfl := Except.ok.inj hcheck
      exact List.prefix_refl _
  | cons field rest ih =>
      by_cases hfile : field.control = .file
      · rw [checkFrom_cons_file hfile] at hcheck
        exact ih hcheck
      · rw [checkFrom_cons hfile] at hcheck
        obtain ⟨outcome, -, hrest⟩ := ok_of_bind hcheck
        exact (Rejections.keys_isPrefix_record _ _ outcome).trans (ih hrest)

theorem checkFrom_append {front back : List Field} :
    checkFrom answers index rejections (front ++ back) = (do
      let earlier ← checkFrom answers index rejections front
      checkFrom answers (index + front.length) earlier back) := by
  induction front generalizing index rejections with
  | nil => rfl
  | cons field rest ih =>
      have hindex : index + (field :: rest).length = index + 1 + rest.length := by
        rw [List.length_cons]
        omega
      rw [List.cons_append, hindex]
      by_cases hfile : field.control = .file
      · rw [checkFrom_cons_file hfile, checkFrom_cons_file hfile, ih]
      · rw [checkFrom_cons hfile, checkFrom_cons hfile, bind_assoc]
        exact bind_congr fun outcome => ih

/-! ### All answers -/

/-- If the answers are decided about, each field that is no file has decided about its own. -/
theorem exists_check_of_checkAnswers (hcheck : checkAnswers fields answers = .ok result)
    (hp : p ∈ answered fields) : ∃ outcome, p.check answers = .ok outcome := by
  cases hfield : p.check answers with
  | ok outcome => exact ⟨outcome, rfl⟩
  | error cause =>
      obtain ⟨hplaced, hfile⟩ := List.mem_filter.1 hp
      have hmalformed : p.HasMalformed answers cause :=
        Placed.hasMalformed_iff.2 ⟨of_decide_eq_true hfile, hfield⟩
      obtain ⟨first, hfirst⟩ := exists_firstMalformed_iff.2 ⟨p, hplaced, cause, hmalformed⟩
      have herror : checkAnswers fields answers = .error first := checkFrom_eq_error_iff.2 hfirst
      rw [herror] at hcheck
      cases hcheck

/-- **Where the answers are decided about, a key is reported just if a field with that key rejects
the answer under it.  The keys stand in the order of the first such fields, and the reason for each
is that of the last one.  The fields of a part of the form report the first of the keys, so that no
later field removes one, and nothing is reported just if every field passes.** -/
theorem checkAnswers_reports (hcheck : checkAnswers fields answers = .ok result) :
    (∀ key, key ∈ result.map (·.1) ↔
      ∃ p ∈ answered fields, p.key = key ∧ p.rejects answers = true) ∧
    result.map (·.1) =
      (((answered fields).filter (·.rejects answers)).map Placed.key).eraseDups ∧
    (∀ key rejection, result.lookup key = some rejection ↔
      LastRejects answers (answered fields) key rejection) ∧
    (∀ front back, fields = front ++ back →
      ∃ earlier, checkAnswers front answers = .ok earlier ∧
        earlier.map (·.1) <+: result.map (·.1)) ∧
    (result = [] ↔ ∀ p ∈ answered fields, p.check answers = .ok none) := by
  have hreports : Reports answers (answered fields) result := reports_nil.of_checkFrom hcheck
  have hmem : ∀ key, key ∈ result.map (·.1) ↔
      ∃ p ∈ answered fields, p.key = key ∧ p.rejects answers = true := by
    intro key
    rw [hreports.keys, List.mem_eraseDups, mem_rejectedKeys]
  refine ⟨hmem, hreports.keys, hreports.lookup, ?_, ?_⟩
  · rintro front back rfl
    rw [checkAnswers, checkFrom_append] at hcheck
    obtain ⟨earlier, hearlier, hrest⟩ := ok_of_bind hcheck
    exact ⟨earlier, hearlier, keys_isPrefix_of_checkFrom hrest⟩
  · constructor
    · rintro rfl p hp
      obtain ⟨outcome, houtcome⟩ := exists_check_of_checkAnswers hcheck hp
      cases outcome with
      | none => exact houtcome
      | some rejection =>
          cases (hmem p.key).2 ⟨p, hp, rfl, Placed.rejects_of_check_some houtcome⟩
    · intro hpass
      rw [← List.map_eq_nil_iff, List.eq_nil_iff_forall_not_mem]
      intro key hkey
      obtain ⟨p, hp, -, hrejects⟩ := (hmem key).1 hkey
      rw [Placed.rejects_of_check_none (hpass p hp)] at hrejects
      cases hrejects

/-- Fields of which three submit under one key: a number, an email address without a label, and a
text. -/
def thirdFields : List Field :=
  [⟨none, .number, "Field 3", "", false, .plain, none, false, [], none⟩,
    ⟨none, .text, "Name", "", true, .plain, none, false, [], none⟩,
    ⟨none, .email, "", "", false, .plain, none, false, [], none⟩,
    ⟨none, .text, "Field 3", "", true, .plain, none, false, [], none⟩,
    ⟨none, .file, "Proof", "", true, .plain, none, false, [], none⟩]

/-- One answer for the three, and no name. -/
def thirdAnswers : Members :=
  [("Field 3", .str "soon")]

/-- The number and the address reject the answer, around a name that is missing.  The reason of
the address is reported at the place of the number, though the text passes. -/
theorem third_field_reported :
    checkAnswers thirdFields thirdAnswers =
        .ok [("Field 3", .byRule .email), ("Name", .missing)] ∧
      LastRejects thirdAnswers (answered thirdFields) "Field 3" (.byRule .email) ∧
      (∃ p ∈ answered thirdFields, p.key = "Name" ∧ p.rejects thirdAnswers = true) ∧
      ∃ earlier, checkAnswers (thirdFields.take 1) thirdAnswers = .ok earlier ∧
        earlier.map (·.1) <+: ["Field 3", "Name"] := by
  have hcheck : checkAnswers thirdFields thirdAnswers =
      .ok [("Field 3", .byRule .email), ("Name", .missing)] := by rfl
  obtain ⟨hmem, -, hlast, hparts, -⟩ := checkAnswers_reports hcheck
  refine ⟨hcheck, (hlast "Field 3" (.byRule .email)).1 rfl, (hmem "Name").1 (by decide), ?_⟩
  exact hparts (thirdFields.take 1) (thirdFields.drop 1) (List.take_append_drop 1 thirdFields).symm

end Form

end Enrolment
