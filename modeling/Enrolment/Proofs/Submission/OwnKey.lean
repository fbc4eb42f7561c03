/-
Whether an answer finds its own field again.

An answer is submitted under the label of its field.  That label explains its own key,
so some field is always found; but a field that is looked at first may explain it too,
because its label contains the other or is contained in it, or because its role is
mentioned.  With labels of different normal forms these are the only ways to lose an
answer to another field: no other label is equal to the key.
-/
import Enrolment.Proofs.Submission.Key
import Enrolment.Proofs.Submission.Match

namespace Enrolment

namespace Match

/-- Whether a field claims the key of another: by a label within the other's or around it, or by
a role that the other's label mentions. -/
def Claims (field other : Field) : Prop :=
  Key.normal field.label <:+: Key.normal other.label ∨
    Key.normal other.label <:+: Key.normal field.label ∨
    field.role.any (Key.hintsAt other.label) = true

instance (field other : Field) : Decidable (Claims field other) :=
  inferInstanceAs (Decidable (_ ∨ _ ∨ _))

theorem overlaps_iff {key label : List Char} (hkey : key ≠ []) (hlabel : label ≠ []) :
    overlaps key label = true ↔ label <:+: key ∨ key <:+: label := by
  unfold overlaps
  rw [List.isEmpty_eq_false_iff.2 hkey, List.isEmpty_eq_false_iff.2 hlabel]
  simp only [Bool.not_false, Bool.true_and, Bool.or_eq_true, isWithin_iff]

/-- A field explains the label of another that has a different normal form just if it claims
it. -/
theorem explains_iff_claims {field other : Field} (hfield : Key.normal field.label ≠ [])
    (hother : Key.normal other.label ≠ [])
    (hdistinct : Key.normal field.label ≠ Key.normal other.label) :
    explains field other.label = true ↔ Claims field other := by
  have hexact : ¬Text.lower (Text.trim field.label) = Text.lower (Text.trim other.label) :=
    fun heq => hdistinct (Key.normal_eq_of_lower_trim_eq heq)
  unfold explains Claims
  rw [decide_eq_false hexact, Bool.and_false, Bool.false_or, Bool.or_eq_true,
    overlaps_iff hother hfield, or_assoc]

/-- Fields of different labels have different normal forms wherever they stand. -/
theorem normal_ne_of_nodup {fields : List Field}
    (hdistinct : (fields.map fun field => Key.normal field.label).Nodup) {p q : Placed}
    (hp : p ∈ Form.placeFrom 0 fields) (hq : q ∈ Form.placeFrom 0 fields) (hne : p ≠ q) :
    Key.normal p.field.label ≠ Key.normal q.field.label := by
  intro heq
  refine hne (Form.eq_of_position_eq hp hq ?_)
  rw [Form.mem_placed] at hp hq
  have hlt : p.position < (fields.map fun field => Key.normal field.label).length := by
    rw [List.length_map]
    exact (List.getElem?_eq_some_iff.1 hp).1
  refine (List.getElem?_inj hlt hdistinct).1 ?_
  rw [List.getElem?_map, List.getElem?_map, hp, hq, Option.map_some, Option.map_some, heq]

/-- **An answer always belongs to a field, and to its own just if no field that is looked at
before it claims its key.**  Otherwise it belongs to the first field that does. -/
theorem field?_key_eq_own_iff {fields : List Field}
    (hlabels : ∀ field ∈ fields, Key.normal field.label ≠ [])
    (hdistinct : (fields.map fun field => Key.normal field.label).Nodup)
    {index : Nat} {field : Field} (hfield : fields[index]? = some field) :
    ∃ found, field? (field.key index) fields = some found ∧
      (found = ⟨index, field⟩ ↔
        ∀ p ∈ Form.placeFrom 0 fields, Precedes p ⟨index, field⟩ → ¬Claims p.field field) ∧
      (found = ⟨index, field⟩ ∨ Precedes found ⟨index, field⟩ ∧ Claims found.field field) := by
  have hown : (⟨index, field⟩ : Placed) ∈ Form.placeFrom 0 fields := Form.mem_placed.2 hfield
  have hlabel := hlabels field (List.mem_of_getElem? hfield)
  have hne := Key.ne_empty_of_normal hlabel
  have hself := explains_own_label hne
  -- another field explains the key just if it claims it
  have hother : ∀ p ∈ Form.placeFrom 0 fields, p ≠ ⟨index, field⟩ →
      (explains p.field field.label = true ↔ Claims p.field field) := by
    intro p hp hne
    have hlabel' := hlabels p.field (List.mem_of_getElem? (Form.mem_placed.1 hp))
    have hnormal := normal_ne_of_nodup hdistinct hp hown hne
    exact explains_iff_claims hlabel' hlabel hnormal
  rw [key_of_label hne]
  cases hfound : field? field.label fields with
  | none =>
      -- its own field explains the key
      rcases field?_eq_none_iff.1 hfound with hblank | hnone
      · exact absurd (Key.normal_of_isBlankText hblank) hlabel
      · rw [hnone _ hown] at hself
        cases hself
  | some found =>
      obtain ⟨-, hmem, hexplains, hfirst⟩ := field?_eq_some_iff.1 hfound
      have hbefore : found = ⟨index, field⟩ ∨ Precedes found ⟨index, field⟩ :=
        (hfirst _ hown hself).imp Eq.symm id
      refine ⟨found, rfl, ⟨?_, ?_⟩, ?_⟩
      · rintro rfl p hp hprecedes hclaims
        have hne : p ≠ ⟨index, field⟩ := by
          rintro rfl
          exact hprecedes.asymm hprecedes
        rcases hfirst p hp ((hother p hp hne).2 hclaims) with heq | hafter
        · exact hne heq
        · exact hprecedes.asymm hafter
      · intro hunclaimed
        refine hbefore.resolve_right ?_
        intro hprecedes
        have hne : found ≠ ⟨index, field⟩ := by
          rintro rfl
          exact hprecedes.asymm hprecedes
        exact hunclaimed found hmem hprecedes ((hother found hmem hne).1 hexplains)
      · by_cases heq : found = ⟨index, field⟩
        · exact .inl heq
        · exact .inr ⟨hbefore.resolve_left heq, (hother found hmem heq).1 hexplains⟩

/-- A field with a label and nothing else. -/
def ofLabel (label : String) : Field :=
  ⟨none, .text, label, "", false, .plain, none, false, [], none⟩

/-- A form in which one label contains another. -/
def contactForm : List Field :=
  [ofLabel "Email", ofLabel "Company Name", ofLabel "Name"]

theorem labels_contactForm : ∀ field ∈ contactForm, Key.normal field.label ≠ [] := by
  decide +kernel

theorem nodup_contactForm : (contactForm.map fun field => Key.normal field.label).Nodup := by
  decide +kernel

/-- The longer label comes first and keeps its answers. -/
theorem company_keeps_key :
    ∃ found, field? ((ofLabel "Company Name").key 1) contactForm = some found ∧
      found = ⟨1, ofLabel "Company Name"⟩ := by
  have hfield : contactForm[1]? = some (ofLabel "Company Name") := rfl
  obtain ⟨found, hfound, hown, -⟩ :=
    field?_key_eq_own_iff labels_contactForm nodup_contactForm hfield
  exact ⟨found, hfound, hown.2 (by decide +kernel)⟩

/-- The shorter label behind it loses its answers. -/
theorem name_loses_key :
    (∀ field ∈ contactForm, Key.normal field.label ≠ []) ∧
      (contactForm.map fun field => Key.normal field.label).Nodup ∧
      contactForm[2]? = some (ofLabel "Name") ∧
      field? ((ofLabel "Name").key 2) contactForm = some ⟨1, ofLabel "Company Name"⟩ :=
  ⟨labels_contactForm, nodup_contactForm, rfl, rfl⟩

end Match

end Enrolment
