/-
Which answers cannot be checked.

Of the rules only the one for URLs can come to no decision, and only on a text: all other
answers are written in a way that no authority can be found in, or one without brackets.  So
what stops the check of a form is a malformed address in the place of a URL
(`Placed.HasMalformed`).  Answers are checked field by field, and the first such field decides
what is reported; without one there is a rejection or none for every field.
-/
import Enrolment.Form.Check
import Enrolment.Proofs.Form.Overflow
import Enrolment.Proofs.Number.Layout
import Enrolment.Proofs.Text.Basic
import Enrolment.Proofs.Url.Parts

namespace Enrolment

/-! ### The rule for URLs -/

namespace Url

theorem isComplete_eq_error_iff {s : List Char} {cause : Malformed} :
    isComplete s = .error cause ↔ (∀ c ∈ s, Text.isBlank c = false) ∧ split s = .error cause := by
  unfold isComplete
  by_cases hblank : s.any Text.isBlank = true
  · rw [if_pos hblank]
    refine iff_of_false nofun ?_
    rintro ⟨hnone, -⟩
    obtain ⟨c, hc, hcblank⟩ := List.any_eq_true.1 hblank
    rw [hnone c hc] at hcblank
    cases hcblank
  · rw [if_neg hblank]
    have hnone : ∀ c ∈ s, Text.isBlank c = false := by
      intro c hc
      exact Bool.eq_false_iff.2 fun hcblank => hblank (List.any_eq_true.2 ⟨c, hc, hcblank⟩)
    rw [and_iff_right hnone]
    exact map_eq_error_iff

/-- What numbers are written with is not delicate. -/
theorem isDelicate_of_isWritten {c : Char} (h : Numeral.isWritten c = true) :
    isDelicate c = false := by
  have hmarks : ∀ d ∈ ['.', 'e', '+', '-'], isDelicate d = false := by
    simp only [List.forall_mem_cons]
    exact ⟨rfl, rfl, rfl, rfl, List.forall_mem_nil _⟩
  have hforms : ∀ n ∈ delimiterForms, 128 ≤ n := by
    decide
  unfold Numeral.isWritten at h
  rw [Bool.or_eq_true, List.contains_iff_mem] at h
  rcases h with hdigit | hmark
  · have hsmall : c.toNat ≤ 57 := by
      unfold Text.isAsciiDigit at hdigit
      rw [Bool.and_eq_true] at hdigit
      exact of_decide_eq_true hdigit.2
    unfold isDelicate
    simp only [Bool.or_eq_false_iff, decide_eq_false_iff_not]
    refine ⟨⟨?_, ?_⟩, ?_⟩
    · rintro rfl
      revert hsmall
      decide
    · rintro rfl
      revert hsmall
      decide
    · rw [← Bool.not_eq_true, List.contains_iff_mem]
      intro hmem
      have hlarge := hforms _ hmem
      omega
  · exact hmarks c hmark

end Url

namespace Answer

/-- Whether an answer is a text that is malformed as a URL; one with blanks inside is none. -/
def IsMalformed (answer : Json) (cause : Url.Malformed) : Prop :=
  ∃ typed, answer = .str typed ∧ (∀ c ∈ Text.strip typed.toList, Text.isBlank c = false) ∧
    Url.split (Text.strip typed.toList) = .error cause

/-- What is written like a number has parts. -/
theorem exists_split_of_isWritten {s : List Char} (h : ∀ c ∈ s, Numeral.isWritten c = true) :
    ∃ parts, Url.split (Text.strip s) = .ok parts := by
  refine Url.exists_split_of_plain ?_
  intro c hc
  exact Url.isDelicate_of_isWritten (h c (Text.mem_of_mem_strip hc))

/-- What is written between brackets has parts. -/
theorem exists_split_of_bracket {c : Char} (h : c = '[' ∨ c = '\x7b') (rest : List Char) :
    ∃ parts, Url.split (Text.strip (c :: rest)) = .ok parts := by
  have hblank : Text.isBlank c = false := by
    rcases h with rfl | rfl <;> rfl
  obtain ⟨more, hstrip⟩ := Text.exists_strip_cons hblank rest
  rw [hstrip]
  rcases h with rfl | rfl
  · exact Url.exists_split_cons more (by decide) (by decide) (by decide)
  · exact Url.exists_split_cons more (by decide) (by decide) (by decide)

/-- An answer that is no text has parts, whatever stands in it. -/
theorem exists_split_of_ne_str {answer : Json} (h : ∀ typed, answer ≠ .str typed) :
    ∃ parts, Url.split (Text.strip answer.textOrEmpty.toList) = .ok parts := by
  cases answer with
  | null => exact ⟨_, rfl⟩
  | bool value => cases value <;> exact ⟨_, rfl⟩
  | int n =>
      rw [Json.textOrEmpty, Json.text, Json.quoted, String.toList_ofList]
      · exact exists_split_of_isWritten fun c hc => Numeral.isWritten_of_mem_ofInt hc
      · exact nofun
      · exact nofun
  | num x =>
      cases x with
      | nan => exact ⟨_, rfl⟩
      | infinite negative => cases negative <;> exact ⟨_, rfl⟩
      | finite negative m e => exact exists_split_of_isWritten Binary64.isWritten_of_mem_text
  | str typed => exact absurd rfl (h typed)
  | arr items =>
      rw [Json.textOrEmpty, Json.text, Json.quoted, String.toList_append, String.toList_append]
      · exact exists_split_of_bracket (.inl rfl) _
      · exact nofun
      · exact nofun
  | obj members =>
      rw [Json.textOrEmpty, Json.text, Json.quoted, String.toList_append, String.toList_append]
      · exact exists_split_of_bracket (.inr rfl) _
      · exact nofun
      · exact nofun

end Answer

/-! ### One answer -/

/-- Only the rule for URLs can come to no decision, and only on a malformed text. -/
theorem Rule.passes_eq_error_iff {rule : Rule} {answer : Json} {cause : Url.Malformed} :
    rule.passes answer = .error cause ↔ rule = .url ∧ Answer.IsMalformed answer cause := by
  cases rule with
  | url =>
      have hpasses : Rule.url.passes answer =
          Url.isComplete (Text.strip answer.textOrEmpty.toList) := rfl
      rw [hpasses, Url.isComplete_eq_error_iff, and_iff_right rfl]
      unfold Answer.IsMalformed
      by_cases htext : ∃ typed, answer = .str typed
      · obtain ⟨typed, rfl⟩ := htext
        simp only [Json.str.injEq, exists_eq_left']
        rfl
      · obtain ⟨parts, hparts⟩ := Answer.exists_split_of_ne_str (not_exists.1 htext)
        rw [hparts]
        refine iff_of_false nofun ?_
        rintro ⟨typed, htyped, -⟩
        exact htext ⟨typed, htyped⟩
  | email | number | phone | password | postal => simp [passes, accepts]

theorem Answer.rejectedBy_eq_error_iff {rule : Option Rule} {answer : Json}
    {cause : Url.Malformed} :
    rejectedBy rule answer = .error cause ↔ rule = some .url ∧ IsMalformed answer cause := by
  cases rule with
  | none => simp [rejectedBy]
  | some rule =>
      rw [Option.some_inj, ← Rule.passes_eq_error_iff]
      exact map_eq_error_iff

namespace Field

theorem typeRule?_eq_url_iff {field : Field} : field.typeRule? = some .url ↔ field.type = .url := by
  unfold typeRule?
  cases field.type <;> simp

theorem labelRule?_ne_url (field : Field) : field.labelRule? ≠ some .url := by
  unfold labelRule?
  dsimp only
  split
  · exact nofun
  · split
    · exact nofun
    · split <;> exact nofun

/-- A malformed answer is not empty, and rules apply to it. -/
theorem isEmpty_of_isMalformed {answer : Json} {cause : Url.Malformed}
    (h : Answer.IsMalformed answer cause) :
    Answer.isEmpty answer = false ∧ Answer.isExempt answer = false := by
  obtain ⟨typed, rfl, -, hsplit⟩ := h
  refine ⟨?_, rfl⟩
  rw [← Bool.not_eq_true]
  intro hblank
  rw [Text.strip_eq_nil_iff.2 hblank] at hsplit
  cases hsplit

/-- The check of a field comes to no decision just if a malformed text stands for a URL. -/
theorem check_eq_error_iff {field : Field} {answer : Json} {cause : Url.Malformed} :
    field.check answer = .error cause ↔ field.type = .url ∧ Answer.IsMalformed answer cause := by
  unfold check
  by_cases hempty : Answer.isEmpty answer = true
  · rw [if_pos hempty]
    refine iff_of_false nofun ?_
    rintro ⟨-, hmalformed⟩
    rw [(isEmpty_of_isMalformed hmalformed).1] at hempty
    cases hempty
  rw [if_neg hempty]
  by_cases hexempt : Answer.isExempt answer = true
  · rw [if_pos hexempt]
    refine iff_of_false nofun ?_
    rintro ⟨-, hmalformed⟩
    rw [(isEmpty_of_isMalformed hmalformed).2] at hexempt
    cases hexempt
  rw [if_neg hexempt, ← typeRule?_eq_url_iff, ← Answer.rejectedBy_eq_error_iff]
  cases Answer.rejectedBy field.typeRule? answer with
  | error other => exact Iff.rfl
  | ok byType =>
      -- the rule that the label suggests is asked next, and it always decides
      cases hlabel : Answer.rejectedBy field.labelRule? answer with
      | error other =>
          exact absurd (Answer.rejectedBy_eq_error_iff.1 hlabel).1 (labelRule?_ne_url field)
      | ok byLabel => exact iff_of_false nofun nofun

end Field

/-! ### All answers -/

/-- Whether a URL is asked for in a field and a malformed text was submitted for it. -/
def Placed.HasMalformed (answers : Members) (placed : Placed) (cause : Url.Malformed) : Prop :=
  placed.field.type = .url ∧
    ∃ answer ∈ answers.get? (placed.field.key placed.position), Answer.IsMalformed answer cause

/-- Files are not checked, and no file is a URL. -/
theorem Field.control_ne_file {field : Field} (h : field.type = .url) : field.control ≠ .file := by
  unfold control
  rw [h]
  cases field.role with
  | none => exact nofun
  | some role => cases role <;> exact nofun

theorem Placed.hasMalformed_iff {answers : Members} {placed : Placed} {cause : Url.Malformed} :
    placed.HasMalformed answers cause ↔ placed.field.control ≠ .file ∧
      placed.field.check
        ((answers.get? (placed.field.key placed.position)).getD .null) = .error cause := by
  rw [Field.check_eq_error_iff]
  unfold HasMalformed
  constructor
  · rintro ⟨htype, answer, hanswer, hmalformed⟩
    rw [Option.mem_def] at hanswer
    rw [hanswer]
    exact ⟨Field.control_ne_file htype, htype, hmalformed⟩
  · rintro ⟨-, htype, hmalformed⟩
    refine ⟨htype, ?_⟩
    cases hanswer : answers.get? (placed.field.key placed.position) with
    | none =>
        rw [hanswer] at hmalformed
        obtain ⟨typed, htyped, -⟩ := hmalformed
        cases htyped
    | some answer =>
        rw [hanswer] at hmalformed
        exact ⟨answer, rfl, hmalformed⟩

namespace Form

/-- Whether the first malformed text among the answers for some fields has a cause. -/
def FirstMalformed (answers : Members) (fields : List Placed) (cause : Url.Malformed) : Prop :=
  ∃ before placed after, fields = before ++ placed :: after ∧ placed.HasMalformed answers cause ∧
    ∀ earlier ∈ before, ∀ other, ¬earlier.HasMalformed answers other

/-- A field without a malformed text is passed over. -/
theorem firstMalformed_cons_of_not {answers : Members} {placed : Placed} {rest : List Placed}
    {cause : Url.Malformed} (h : ∀ other, ¬placed.HasMalformed answers other) :
    FirstMalformed answers (placed :: rest) cause ↔ FirstMalformed answers rest cause := by
  constructor
  · rintro ⟨before, found, after, hcut, hfound, hbefore⟩
    cases before with
    | nil =>
        obtain ⟨rfl, -⟩ := List.cons.inj hcut
        exact absurd hfound (h cause)
    | cons first before =>
        obtain ⟨-, hrest⟩ := List.cons.inj hcut
        exact ⟨before, found, after, hrest, hfound, (List.forall_mem_cons.1 hbefore).2⟩
  · rintro ⟨before, found, after, rfl, hfound, hbefore⟩
    exact ⟨placed :: before, found, after, rfl, hfound, List.forall_mem_cons.2 ⟨h, hbefore⟩⟩

/-- At a field with a malformed text the search ends. -/
theorem firstMalformed_cons_of_hasMalformed {answers : Members} {placed : Placed}
    {rest : List Placed} {cause other : Url.Malformed} (h : placed.HasMalformed answers other) :
    FirstMalformed answers (placed :: rest) cause ↔ placed.HasMalformed answers cause := by
  constructor
  · rintro ⟨before, found, after, hcut, hfound, hbefore⟩
    cases before with
    | nil =>
        obtain ⟨rfl, -⟩ := List.cons.inj hcut
        exact hfound
    | cons first before =>
        obtain ⟨rfl, -⟩ := List.cons.inj hcut
        exact absurd h ((List.forall_mem_cons.1 hbefore).1 other)
  · intro hcause
    exact ⟨[], placed, rest, rfl, hcause, List.forall_mem_nil _⟩

/-- **The check of fields from one on comes to no decision just for the first malformed text.** -/
theorem checkFrom_eq_error_iff {answers : Members} {fields : List Field} {index : Nat}
    {rejections : Rejections} {cause : Url.Malformed} :
    checkFrom answers index rejections fields = .error cause ↔
      FirstMalformed answers (placeFrom index fields) cause := by
  induction fields generalizing index rejections with
  | nil =>
      refine iff_of_false nofun ?_
      rintro ⟨before, placed, after, hcut, -⟩
      cases before <;> cases hcut
  | cons field rest ih =>
      rw [checkFrom, placeFrom]
      by_cases hfile : field.control = .file
      · rw [if_pos hfile, ih, firstMalformed_cons_of_not]
        intro other hmalformed
        exact (Placed.hasMalformed_iff.1 hmalformed).1 hfile
      rw [if_neg hfile]
      cases hcheck : field.check ((answers.get? (field.key index)).getD .null) with
      | error other =>
          have hmalformed : ∀ found, (⟨index, field⟩ : Placed).HasMalformed answers found ↔
              Except.error other = (.error found : Except Url.Malformed (Option Rejection)) := by
            intro found
            rw [Placed.hasMalformed_iff, and_iff_right hfile, hcheck]
          rw [firstMalformed_cons_of_hasMalformed ((hmalformed other).2 rfl), hmalformed]
          simp [bind, Except.bind, hcheck]
      | ok outcome =>
          have hwell : ∀ other, ¬(⟨index, field⟩ : Placed).HasMalformed answers other := by
            intro other hmalformed
            have herror := (Placed.hasMalformed_iff.1 hmalformed).2
            rw [hcheck] at herror
            cases herror
          rw [firstMalformed_cons_of_not hwell]
          dsimp only
          rw [hcheck]
          cases outcome with
          | none => exact ih
          | some rejection => exact ih

theorem exists_firstMalformed_iff {answers : Members} {fields : List Placed} :
    (∃ cause, FirstMalformed answers fields cause) ↔
      ∃ placed ∈ fields, ∃ cause, placed.HasMalformed answers cause := by
  constructor
  · rintro ⟨cause, before, placed, after, rfl, hplaced, -⟩
    exact ⟨placed, List.mem_append_right before List.mem_cons_self, cause, hplaced⟩
  · intro hsome
    induction fields with
    | nil =>
        obtain ⟨placed, hmem, -⟩ := hsome
        cases hmem
    | cons first rest ih =>
        by_cases hfirst : ∃ cause, first.HasMalformed answers cause
        · obtain ⟨cause, hcause⟩ := hfirst
          exact ⟨cause, (firstMalformed_cons_of_hasMalformed hcause).2 hcause⟩
        · have hlater : ∃ placed ∈ rest, ∃ cause, placed.HasMalformed answers cause := by
            obtain ⟨placed, hmem, hplaced⟩ := hsome
            rcases List.mem_cons.1 hmem with rfl | hmem
            · exact absurd hplaced hfirst
            · exact ⟨placed, hmem, hplaced⟩
          obtain ⟨cause, hcause⟩ := ih hlater
          exact ⟨cause, (firstMalformed_cons_of_not (not_exists.1 hfirst)).2 hcause⟩

/-! ### What is reported -/

/-- A rejection takes the place of an earlier one for its key. -/
theorem map_fst_put (rejections : Rejections) (key : String) (rejection : Rejection) :
    (rejections.put key rejection).map (·.1) =
      if key ∈ rejections.map (·.1) then rejections.map (·.1)
      else rejections.map (·.1) ++ [key] := by
  induction rejections with
  | nil => rfl
  | cons head rest ih =>
      obtain ⟨k, r⟩ := head
      rw [Rejections.put]
      by_cases hkey : k = key
      · simp [hkey]
      · rw [if_neg hkey, List.map_cons, ih, List.map_cons]
        simp only [List.mem_cons, Ne.symm hkey, false_or]
        split <;> rfl

/-- No key is reported twice. -/
theorem nodup_of_checkFrom {answers : Members} {fields : List Field} {index : Nat}
    {rejections result : Rejections} (hkeys : (rejections.map (·.1)).Nodup)
    (h : checkFrom answers index rejections fields = .ok result) :
    (result.map (·.1)).Nodup := by
  induction fields generalizing index rejections with
  | nil =>
      obtain rfl := Except.ok.inj h
      exact hkeys
  | cons field rest ih =>
      rw [checkFrom] at h
      split at h
      · exact ih hkeys h
      · obtain ⟨outcome, -, h⟩ := ok_of_bind h
        cases outcome with
        | none => exact ih hkeys h
        | some rejection =>
            refine ih ?_ h
            rw [map_fst_put]
            split
            · exact hkeys
            · rename_i hnew
              refine List.nodup_append.2 ⟨hkeys, List.pairwise_singleton _ _, ?_⟩
              intro old hold new hnewest
              rw [List.mem_singleton.1 hnewest]
              rintro rfl
              exact hnew hold

/-- **Answers are checked, with at most one rejection for a key, just if no malformed text was
submitted for a URL; otherwise the first such text is reported.  No text is malformed without a
square bracket or a character that stands for a delimiter.** -/
theorem checkAnswers_outcome (fields : List Field) (answers : Members) :
    ((∃ rejections, checkAnswers fields answers = .ok rejections ∧
        (rejections.map (·.1)).Nodup) ↔
      ∀ placed ∈ placeFrom 0 fields, ∀ cause, ¬placed.HasMalformed answers cause) ∧
    (∀ cause, checkAnswers fields answers = .error cause ↔
      FirstMalformed answers (placeFrom 0 fields) cause) ∧
    ∀ placed cause, Placed.HasMalformed answers placed cause →
      ∃ typed, answers.get? (placed.field.key placed.position) = some (.str typed) ∧
        ∃ c ∈ typed.toList, Url.isDelicate c = true := by
  have herror : ∀ cause, checkAnswers fields answers = .error cause ↔
      FirstMalformed answers (placeFrom 0 fields) cause := fun cause => checkFrom_eq_error_iff
  refine ⟨?_, herror, ?_⟩
  · have hnone : (([] : Rejections).map (·.1)).Nodup := List.nodup_nil
    have hnodup : ∀ rejections, checkAnswers fields answers = .ok rejections →
        (rejections.map (·.1)).Nodup := fun rejections h => nodup_of_checkFrom hnone h
    simp only [and_iff_left_of_imp (hnodup _)]
    rw [exists_ok_iff_forall herror, ← not_exists, exists_firstMalformed_iff]
    simp only [not_exists, not_and]
  · rintro placed cause ⟨-, answer, hanswer, typed, rfl, -, hsplit⟩
    obtain ⟨c, hc, hdelicate⟩ := Url.exists_isDelicate_of_split hsplit
    exact ⟨typed, hanswer, c, Text.mem_of_mem_strip hc, hdelicate⟩

/-- A field that asks for a URL. -/
def siteField : Field :=
  ⟨none, .url, "Site", "", false, .plain, none, false, [], none⟩

/-- An address that stops before its host is not rejected: there is no decision about it. -/
theorem unclosed_address_undecided :
    checkAnswers [siteField] [("Site", .str "http://[")] = .error .brackets ∧
      ¬∃ rejections, checkAnswers [siteField] [("Site", .str "http://[")] = .ok rejections := by
  have herror : checkAnswers [siteField] [("Site", .str "http://[")] = .error .brackets := rfl
  refine ⟨herror, ?_⟩
  rintro ⟨rejections, hok⟩
  rw [herror] at hok
  cases hok

end Form

end Enrolment
