/-
Which answers are kept from display.

Passwords are left out of the rows of a request.  Whether an answer is one is told by
its key and by the field that the key belongs to, which is the first one that explains
it and need not be the one that it was submitted from.  `IsHidden` says when that is
enough, and `rows_of_key` that it is all there is to it: an answer that is not hidden
has its row like any other.
-/
import Enrolment.Proofs.Submission.Match
import Enrolment.Submission.Row

namespace Enrolment

open Match (Precedes explains field?)

/-! ### When a key gives a password away -/

/-- Whether a password field explains a key, and is looked at before all fields of other roles
that do. -/
def IsGuarded (fields : List Field) (key : String) : Prop :=
  Text.isBlankText key = false ∧
    ∃ p ∈ Form.placeFrom 0 fields, p.field.role = some .password ∧ explains p.field key = true ∧
      ∀ q ∈ Form.placeFrom 0 fields, explains q.field key = true →
        q.field.role ≠ some .password → Precedes p q

/-- Whether the answers under a key are kept from display: the key speaks of a password, or a
password field guards it. -/
def IsHidden (fields : List Field) (key : String) : Prop :=
  Text.mentions key "password" = true ∨ IsGuarded fields key

instance (fields : List Field) (key : String) : Decidable (IsGuarded fields key) :=
  inferInstanceAs (Decidable (_ ∧ _))

instance (fields : List Field) (key : String) : Decidable (IsHidden fields key) :=
  inferInstanceAs (Decidable (_ ∨ _))

theorem hasRole_some {p : Placed} {role : Role} :
    Row.hasRole (some p) role = true ↔ p.field.role = some role := by
  unfold Row.hasRole
  rw [Option.any_some, decide_eq_true_eq]

/-- A key belongs to a password field just if one guards it. -/
theorem hasRole_password_iff {fields : List Field} {key : String} :
    Row.hasRole (field? key fields) .password = true ↔ IsGuarded fields key := by
  cases hfound : field? key fields with
  | none =>
      constructor
      · intro h
        cases h
      · rintro ⟨hblank, p, hp, -, hexplains, -⟩
        rcases Match.field?_eq_none_iff.1 hfound with h | h
        · rw [h] at hblank
          cases hblank
        · rw [h p hp] at hexplains
          cases hexplains
  | some found =>
      obtain ⟨hblank, hmem, hexplains, hfirst⟩ := Match.field?_eq_some_iff.1 hfound
      rw [hasRole_some]
      constructor
      · intro hrole
        refine ⟨hblank, found, hmem, hrole, hexplains, ?_⟩
        intro q hq hqexplains hqrole
        refine (hfirst q hq hqexplains).resolve_left ?_
        rintro rfl
        exact hqrole hrole
      · rintro ⟨-, p, hp, hrole, hpexplains, hbefore⟩
        -- otherwise the password field and the field that was found stand before one another
        by_cases hother : found.field.role = some .password
        · exact hother
        · have hprecedes := hbefore found hmem hexplains hother
          rcases hfirst p hp hpexplains with rfl | hafter
          · exact absurd hrole hother
          · exact absurd hafter hprecedes.asymm

theorem isSensitive_iff_isHidden {fields : List Field} {key : String} :
    Row.isSensitive key (field? key fields) = true ↔ IsHidden fields key := by
  unfold Row.isSensitive IsHidden
  rw [Bool.or_eq_true, hasRole_password_iff]

/-- A password field with a label guards its own key, unless a field of another role that is
looked at before it explains that key. -/
theorem isGuarded_own_key {fields : List Field} {index : Nat} {field : Field}
    (hfield : fields[index]? = some field) (hrole : field.role = some .password)
    (hlabel : Text.isBlankText field.label = false)
    (hbefore : ∀ q ∈ Form.placeFrom 0 fields, Precedes q ⟨index, field⟩ →
      explains q.field (field.key index) = true → q.field.role = some .password) :
    IsGuarded fields (field.key index) := by
  have hown : (⟨index, field⟩ : Placed) ∈ Form.placeFrom 0 fields := Form.mem_placed.2 hfield
  have hne : field.label ≠ "" := by
    intro hempty
    rw [hempty] at hlabel
    cases hlabel
  rw [Match.key_of_label hne] at hbefore ⊢
  refine ⟨hlabel, ⟨index, field⟩, hown, hrole, Match.explains_own_label hne, ?_⟩
  intro q hq hexplains hother
  rcases Match.precedes_total hown hq with rfl | hafter | hprecedes
  · exact absurd hrole hother
  · exact hafter
  · exact absurd (hbefore q hq hprecedes hexplains) hother

/-! ### The rows of one key -/

namespace Request

variable (request : Request) (fields : List Field) (table : Place.Table)

/-- The rows of the answers under a key, were none of them hidden. -/
def answerRows (key : String) : List Row :=
  (request.data.filter fun entry => entry.1 = key).map fun entry =>
    Row.ofAnswer ⟨table, request.data, some fields⟩ fields entry.1 entry.2

/-- The rows of the uploads of a name. -/
def uploadRows (name : String) : List Row :=
  (request.files.filter fun upload => upload.name = name).map (Row.ofUpload fields)

theorem shownAnswers_of_key (key : String) :
    ((request.shownAnswers fields false).filter fun entry => entry.1 = key) =
      if IsHidden fields key then [] else request.data.filter fun entry => entry.1 = key := by
  unfold shownAnswers
  rw [List.filter_filter]
  by_cases hhidden : IsHidden fields key
  · rw [if_pos hhidden, List.filter_eq_nil_iff]
    rintro ⟨other, answer⟩ - h
    rw [Bool.and_eq_true] at h
    obtain rfl : other = key := of_decide_eq_true h.1
    have hshown : (false || !Row.isSensitive other (field? other fields)) = true := h.2
    rw [isSensitive_iff_isHidden.2 hhidden] at hshown
    cases hshown
  · rw [if_neg hhidden]
    refine List.filter_congr ?_
    rintro ⟨other, answer⟩ -
    by_cases hkey : other = key
    · obtain rfl := hkey
      have hshown : Row.isSensitive other (field? other fields) = false := by
        rw [← Bool.not_eq_true, isSensitive_iff_isHidden]
        exact hhidden
      dsimp only
      rw [hshown, Bool.false_or, Bool.not_false, Bool.and_true]
    · dsimp only
      rw [decide_eq_false hkey, Bool.false_and]

/-- What is submitted under a key is displayed but for hidden answers. -/
theorem submittedRows_of_key (key : String) :
    ((request.submittedRows fields table false).filter fun row => row.rawKey = key) =
      (if IsHidden fields key then [] else request.answerRows fields table key) ++
        request.uploadRows fields key := by
  have hanswers := request.shownAnswers_of_key fields key
  have hanswer : ((fun row : Row => decide (row.rawKey = key)) ∘ fun entry : String × Json =>
      Row.ofAnswer ⟨table, request.data, some fields⟩ fields entry.1 entry.2) =
        fun entry => decide (entry.1 = key) := rfl
  have hupload : ((fun row : Row => decide (row.rawKey = key)) ∘ Row.ofUpload fields) =
      fun upload => decide (upload.name = key) := rfl
  unfold submittedRows answerRows uploadRows
  dsimp only
  rw [List.filter_append, List.filter_map, List.filter_map, hanswer, hupload, hanswers]
  by_cases hhidden : IsHidden fields key
  · rw [if_pos hhidden, if_pos hhidden, List.map_nil]
  · rw [if_neg hhidden, if_neg hhidden]

/-- What is displayed is what was submitted, in another order. -/
theorem rows_of_key (key : String) :
    ((request.rows fields table false).filter fun row => row.rawKey = key).Perm
      ((if IsHidden fields key then [] else request.answerRows fields table key) ++
        request.uploadRows fields key) := by
  rw [← submittedRows_of_key]
  exact (List.mergeSort_perm _ _).filter _

/-- **The answers that were submitted from a password field are displayed just if its key is not
hidden.**  It is if the field has a label, and no field of another role that is looked at before
it explains that label. -/
theorem rows_of_password_key {index : Nat} {field : Field} (hfield : fields[index]? = some field)
    (hrole : field.role = some .password) :
    (IsHidden fields (field.key index) →
      ((request.rows fields table false).filter fun row => row.rawKey = field.key index).Perm
        (request.uploadRows fields (field.key index))) ∧
    (¬IsHidden fields (field.key index) →
      ((request.rows fields table false).filter fun row => row.rawKey = field.key index).Perm
        (request.answerRows fields table (field.key index) ++
          request.uploadRows fields (field.key index))) ∧
    (Text.isBlankText field.label = false →
      (∀ q ∈ Form.placeFrom 0 fields, Precedes q ⟨index, field⟩ →
        explains q.field (field.key index) = true → q.field.role = some .password) →
      IsHidden fields (field.key index)) := by
  have hrows := request.rows_of_key fields table (field.key index)
  refine ⟨?_, ?_, ?_⟩
  · intro hhidden
    rw [if_pos hhidden, List.nil_append] at hrows
    exact hrows
  · intro hshown
    rw [if_neg hshown] at hrows
    exact hrows
  · intro hlabel hbefore
    exact .inr (isGuarded_own_key hfield hrole hlabel hbefore)

/-- A password field with a label, which may be empty. -/
def passwordField (label : String) : Field :=
  ⟨none, .text, label, "", true, .plain, some .password, false, [], none⟩

/-- A request with one answer and no uploads. -/
def ofAnswer (key answer : String) : Request :=
  ⟨none, [(key, .str answer)], none, []⟩

/-- The answer of a password field with a label of its own is not displayed. -/
theorem labelled_password_is_hidden :
    ((ofAnswer "Secret" "s3cret-pass").rows [passwordField "Secret"] ⟨[]⟩ false).filter
      (fun row => row.rawKey = (passwordField "Secret").key 0) = [] := by
  have hfield : [passwordField "Secret"][0]? = some (passwordField "Secret") := rfl
  obtain ⟨hnone, -, hlabelled⟩ :=
    (ofAnswer "Secret" "s3cret-pass").rows_of_password_key _ ⟨[]⟩ hfield rfl
  have hhidden := hlabelled (by decide) (by decide +kernel)
  exact (hnone hhidden).eq_nil

/-- The answer of a password field without one is. -/
theorem unlabelled_password_is_displayed :
    [passwordField ""][0]? = some (passwordField "") ∧
      (passwordField "").role = some .password ∧
      ((ofAnswer ((passwordField "").key 0) "s3cret-pass").rows [passwordField ""] ⟨[]⟩ false).map
        (fun row => (row.rawKey, row.display)) =
          [((passwordField "").key 0, "s3cret-pass")] := by
  refine ⟨rfl, rfl, ?_⟩
  decide +kernel

end Request

end Enrolment
