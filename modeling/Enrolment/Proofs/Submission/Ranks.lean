/-
Which rows of a request come first.

One number orders the rows: small ones for names and the email address, from 100 on the
positions of the fields in the form, and 999 for what belongs to no field.  So what belongs to a
field comes before what belongs to none as long as the field's number stays below 999
(`HasRoom`).  A field behind that has its rows after them, whatever was submitted first.
Among the fields the order of the form is kept everywhere.
-/
import Enrolment.Proofs.Submission.OwnKey
import Enrolment.Proofs.Submission.Sensitive

namespace Enrolment

/-! ### The rank of a key -/

/-- Whether a key itself names a first name, a last name or the email address. -/
def Key.NamesContact (key : String) : Prop :=
  Key.hintsAt key .firstName = true ∨ Key.hintsAt key .lastName = true ∨
    Text.lower (Text.trim key) = "email"

instance (key : String) : Decidable (Key.NamesContact key) :=
  inferInstanceAs (Decidable (_ ∨ _ ∨ _))

/-- Whether the rank of a field stays below that of what belongs to no field. -/
def Placed.HasRoom (p : Placed) : Prop :=
  p.position + Row.firstFieldRank < Row.unmatchedRank

namespace Row

variable {key : String} {p : Placed}

/-- Without a name or an email address in its key, a row has its rank from its field alone. -/
theorem rankOf_of_not_namesContact (h : ¬Key.NamesContact key) (placed : Option Placed) :
    rankOf key placed =
      if hasRole placed .firstName then 0
      else if hasRole placed .lastName then 1
      else if hasRole placed .email then 2
      else placed.elim unmatchedRank (·.position + firstFieldRank) := by
  unfold Key.NamesContact at h
  rw [not_or, not_or, Bool.not_eq_true, Bool.not_eq_true] at h
  obtain ⟨hfirst, hlast, hemail⟩ := h
  unfold rankOf
  rw [hfirst, hlast, decide_eq_false hemail, Bool.false_or, Bool.false_or, Bool.false_or]
  cases placed <;> rfl

theorem rankOf_none (h : ¬Key.NamesContact key) : rankOf key none = unmatchedRank :=
  rankOf_of_not_namesContact h none

/-- A field has none of the contact roles, or one of them. -/
theorem isOrdinary_eq_false_iff : Match.isOrdinary p = false ↔
    hasRole (some p) .firstName = true ∨ hasRole (some p) .lastName = true ∨
      hasRole (some p) .email = true := by
  simp [Match.isOrdinary, Match.firstRoles, hasRole, or_iff_not_imp_left]

/-- A field without a contact role hands its position on. -/
theorem rankOf_of_isOrdinary (h : ¬Key.NamesContact key) (hp : Match.isOrdinary p = true) :
    rankOf key (some p) = p.position + firstFieldRank := by
  have hnone := mt isOrdinary_eq_false_iff.2 (Bool.not_eq_false _ ▸ hp)
  rw [not_or, not_or] at hnone
  rw [rankOf_of_not_namesContact h, if_neg hnone.1, if_neg hnone.2.1, if_neg hnone.2.2,
    Option.elim_some]

theorem front_le_two {first last email : Bool} (h : first = true ∨ last = true ∨ email = true)
    (other : Nat) : (if first then 0 else if last then 1 else if email then 2 else other) ≤ 2 := by
  cases first <;> cases last <;> cases email <;> simp_all

/-- Every other row of a field is among the first. -/
theorem rankOf_le_two (h : ¬(Match.isOrdinary p = true ∧ ¬Key.NamesContact key)) :
    rankOf key (some p) ≤ 2 := by
  have hcontact : Key.NamesContact key ∨ Match.isOrdinary p = false := by
    by_cases hkey : Key.NamesContact key
    · exact .inl hkey
    · exact .inr (Bool.eq_false_iff.2 fun hp => h ⟨hp, hkey⟩)
  rw [isOrdinary_eq_false_iff, Key.NamesContact] at hcontact
  refine front_le_two ?_ _
  simp only [Bool.or_eq_true, decide_eq_true_eq]
  rcases hcontact with (hfirst | hlast | hemail) | hfirst | hlast | hemail
  · exact .inl (.inl hfirst)
  · exact .inr (.inl (.inl hlast))
  · exact .inr (.inr (.inl hemail))
  · exact .inl (.inr hfirst)
  · exact .inr (.inl (.inr hlast))
  · exact .inr (.inr (.inr hemail))

end Row

/-! ### Rows of fields, and rows of no field -/

namespace Submitted

variable (fields : List Field)

/-- Whether something submitted belongs to no field and its key names no contact either. -/
def IsLeftOver (submitted : Submitted) : Prop :=
  Match.field? submitted.key fields = none ∧ ¬Key.NamesContact submitted.key

/-- Whether something submitted belongs to a field, and neither the field's role nor the key makes
it a contact. -/
def IsOrdinaryOf (p : Placed) (submitted : Submitted) : Prop :=
  Match.field? submitted.key fields = some p ∧ Match.isOrdinary p = true ∧
    ¬Key.NamesContact submitted.key

variable {fields} {submitted order : List Submitted} {s : Submitted} {p : Placed}

theorem IsLeftOver.rank (h : s.IsLeftOver fields) : s.rank fields = Row.unmatchedRank := by
  unfold Submitted.rank
  rw [h.1, Row.rankOf_none h.2]

theorem IsOrdinaryOf.rank (h : s.IsOrdinaryOf fields p) :
    s.rank fields = p.position + Row.firstFieldRank := by
  unfold Submitted.rank
  rw [h.1, Row.rankOf_of_isOrdinary h.2.2 h.2.1]

/-- What belongs to a field that has room, or is a contact, has a rank below what is left over. -/
theorem rank_lt_of_hasRoom (h : Match.field? s.key fields = some p)
    (hroom : s.IsOrdinaryOf fields p → p.HasRoom) : s.rank fields < Row.unmatchedRank := by
  by_cases hordinary : s.IsOrdinaryOf fields p
  · rw [hordinary.rank]
    exact hroom hordinary
  · have hle : s.rank fields ≤ 2 := by
      unfold Submitted.rank
      rw [h]
      exact Row.rankOf_le_two fun hp => hordinary ⟨h, hp⟩
    exact Nat.lt_of_le_of_lt hle (by decide)

/-- Nothing stands in front of what has a lower rank. -/
theorem InDisplayOrder.pairwise_not (h : InDisplayOrder fields submitted order)
    {r : Submitted → Submitted → Prop}
    (hr : ∀ s later, r s later → later.rank fields < s.rank fields) :
    order.Pairwise fun s later => ¬r s later :=
  h.ascending.imp fun hle hrel => Nat.not_lt.2 hle (hr _ _ hrel)

/-- How the fields of a form order what was submitted. -/
structure IsByField (fields : List Field) (order : List Submitted) : Prop where
  /-- What is left over stands behind contacts and behind all fields that have room. -/
  before_left_over : order.Pairwise fun s later =>
    ¬(s.IsLeftOver fields ∧ ∃ p, Match.field? later.key fields = some p ∧
      (later.IsOrdinaryOf fields p → p.HasRoom))
  /-- It stands in front of the fields whose rank is beyond its own. -/
  behind_left_over : order.Pairwise fun s later =>
    ¬((∃ p, s.IsOrdinaryOf fields p ∧ Row.unmatchedRank < p.position + Row.firstFieldRank) ∧
      later.IsLeftOver fields)
  /-- The fields themselves are in the order of the form. -/
  form_order : order.Pairwise fun s later =>
    ¬∃ p q, s.IsOrdinaryOf fields p ∧ later.IsOrdinaryOf fields q ∧ q.position < p.position

theorem InDisplayOrder.isByField (h : InDisplayOrder fields submitted order) :
    IsByField fields order where
  before_left_over := by
    refine h.pairwise_not ?_
    rintro s later ⟨hleft, p, hfield, hroom⟩
    rw [hleft.rank]
    exact rank_lt_of_hasRoom hfield hroom
  behind_left_over := by
    refine h.pairwise_not ?_
    rintro s later ⟨⟨p, hordinary, hbeyond⟩, hleft⟩
    rw [hleft.rank, hordinary.rank]
    exact hbeyond
  form_order := by
    refine h.pairwise_not ?_
    rintro s later ⟨p, q, hp, hq, hlt⟩
    rw [hp.rank, hq.rank]
    omega

/-- In a form of at most 899 fields all of them have room. -/
theorem hasRoom_of_length_le (h : fields.length + Row.firstFieldRank ≤ Row.unmatchedRank)
    (hfield : Match.field? s.key fields = some p) : p.HasRoom := by
  have hmem := Form.mem_placed.1 (Match.field?_eq_some_iff.1 hfield).2.1
  obtain ⟨hlt, -⟩ := List.getElem?_eq_some_iff.1 hmem
  unfold Placed.HasRoom
  omega

/-- Of two things submitted, a second one of a lower rank is displayed first. -/
theorem inDisplayOrder_swap {first second : Submitted}
    (h : second.rank fields < first.rank fields) :
    InDisplayOrder fields [first, second] [second, first] where
  perm := .swap first second []
  ascending := List.pairwise_pair.2 (Nat.le_of_lt h)
  stable n := by
    -- No rank is that of both.
    by_cases hfirst : first.rank fields = n
    · have hsecond : second.rank fields ≠ n := by omega
      simp [hfirst, hsecond]
    · simp [List.filter_cons, hfirst]

end Submitted

namespace Request

open Submitted (InDisplayOrder IsByField)

variable (request : Request) (fields : List Field) (table : Place.Table) (includeSensitive : Bool)

/-- **The rows of a request are ordered by the fields of the form: in a form of at most 899 fields,
whatever belongs to a field comes before what is left over.** -/
theorem rows_isByField :
    ∃ order, InDisplayOrder fields (request.displayed fields includeSensitive) order ∧
      request.rows fields table includeSensitive =
        order.map (Submitted.row ⟨table, request.data, some fields⟩ fields) ∧
      IsByField fields order ∧
      (fields.length + Row.firstFieldRank ≤ Row.unmatchedRank →
        order.Pairwise fun s later =>
          ¬(s.IsLeftOver fields ∧ (Match.field? later.key fields).isSome = true)) := by
  have horder := Submitted.inDisplayOrder_mergeSort fields
    (request.displayed fields includeSensitive)
  refine ⟨_, horder, request.rows_eq_map table horder, horder.isByField, ?_⟩
  intro hlength
  refine horder.isByField.before_left_over.imp ?_
  rintro s later hnot ⟨hleft, hsome⟩
  obtain ⟨p, hfield⟩ := Option.isSome_iff_exists.1 hsome
  exact hnot ⟨hleft, p, hfield, fun _ => Submitted.hasRoom_of_length_le hlength hfield⟩

variable {request fields}

/-- Of two rows the one with the lower rank comes first, also when it was submitted last. -/
theorem rowRanks_swap {first second : Submitted}
    (hdisplayed : request.displayed fields includeSensitive = [first, second])
    (h : second.rank fields < first.rank fields) :
    (request.rows fields table includeSensitive).map (fun row => (row.rawKey, row.rank)) =
      [(second.key, second.rank fields), (first.key, first.rank fields)] := by
  have horder := Submitted.inDisplayOrder_swap h
  rw [← hdisplayed] at horder
  rw [request.rows_eq_map table horder]
  simp

/-- A request with an answer to a field and one to none. -/
def orderRequest (first second : String) : Request :=
  ⟨none, [(first, .str "42"), (second, .str "7")], none, []⟩

theorem displayed_orderRequest {first second : String} (hfirst : ¬IsHidden fields first)
    (hsecond : ¬IsHidden fields second) : (orderRequest first second).displayed fields false =
      [.answer first (.str "42"), .answer second (.str "7")] := by
  simp [displayed, orderRequest, hfirst, hsecond]

/-- In a short form the field comes first, although its answer was submitted last. -/
theorem company_first :
    let request := orderRequest "Shoe size" "Company"
    let fields := [Match.ofLabel "Company"]
    fields.length + Row.firstFieldRank ≤ Row.unmatchedRank ∧
      (∃ order : List Submitted, request.rows fields ⟨[]⟩ false =
          order.map (Submitted.row ⟨⟨[]⟩, request.data, some fields⟩ fields) ∧
        order.Pairwise fun s later =>
          ¬(s.IsLeftOver fields ∧ (Match.field? later.key fields).isSome = true)) ∧
      (request.rows fields ⟨[]⟩ false).map (fun row => (row.rawKey, row.rank)) =
        [("Company", 100), ("Shoe size", 999)] := by
  intro request fields
  have hlength : fields.length + Row.firstFieldRank ≤ Row.unmatchedRank := by decide
  obtain ⟨order, -, hrows, -, hfirst⟩ := request.rows_isByField fields ⟨[]⟩ false
  refine ⟨hlength, ⟨order, hrows, hfirst hlength⟩, ?_⟩
  have hdisplayed : request.displayed fields false =
      [.answer "Shoe size" (.str "42"), .answer "Company" (.str "7")] :=
    displayed_orderRequest (by decide +kernel) (by decide +kernel)
  have hcompany : Submitted.rank fields (.answer "Company" (.str "7")) = 100 := by decide +kernel
  have hshoes : Submitted.rank fields (.answer "Shoe size" (.str "42")) = 999 := by decide +kernel
  have hrank : Submitted.rank fields (.answer "Company" (.str "7")) <
      Submitted.rank fields (.answer "Shoe size" (.str "42")) := by
    rw [hcompany, hshoes]
    decide
  rw [rowRanks_swap ⟨[]⟩ false hdisplayed hrank, hcompany, hshoes]
  rfl

/-! ### A form without room -/

/-- A form with 900 fields that explain nothing, and one behind them. -/
def longForm : List Field :=
  List.replicate 900 (Match.ofLabel "") ++ [Match.ofLabel "Company"]

theorem getElem?_longForm {index : Nat} {field : Field} (h : longForm[index]? = some field) :
    field = Match.ofLabel "" ∨ index = 900 ∧ field = Match.ofLabel "Company" := by
  unfold longForm at h
  rw [List.getElem?_append] at h
  split at h
  · rw [List.getElem?_replicate] at h
    split at h
    · exact .inl (Option.some.inj h).symm
    · cases h
  · rename_i hlength
    rw [List.length_replicate] at h hlength
    cases hindex : index - 900 with
    | zero =>
        rw [hindex] at h
        exact .inr ⟨by omega, (Option.some.inj h).symm⟩
    | succ n =>
        rw [hindex] at h
        cases h

theorem longForm_company :
    Match.field? "Company" longForm = some ⟨900, Match.ofLabel "Company"⟩ := by
  have hblank : Match.explains (Match.ofLabel "") "Company" = false := by decide +kernel
  have hlast : longForm[900]? = some (Match.ofLabel "Company") := by
    unfold longForm
    rw [List.getElem?_append_right (Nat.le_of_eq List.length_replicate), List.length_replicate]
    rfl
  refine Match.field?_eq_some_iff.2 ⟨by decide, Form.mem_placed.2 hlast, ?_, ?_⟩
  · exact Match.explains_own_label (by decide)
  · rintro ⟨index, field⟩ hmem hexplains
    rcases getElem?_longForm (Form.mem_placed.1 hmem) with rfl | ⟨rfl, rfl⟩
    · rw [hblank] at hexplains
      cases hexplains
    · exact .inl rfl

theorem longForm_left_over : Match.field? "Shoe size" longForm = none := by
  have hblank : Match.explains (Match.ofLabel "") "Shoe size" = false := by decide +kernel
  have hlast : Match.explains (Match.ofLabel "Company") "Shoe size" = false := by decide +kernel
  refine Match.field?_eq_none_iff.2 (.inr ?_)
  rintro ⟨index, field⟩ hmem
  rcases getElem?_longForm (Form.mem_placed.1 hmem) with rfl | ⟨-, rfl⟩
  · exact hblank
  · exact hlast

/-- The answer to the last field of a long form stands behind what belongs to no field, although it
was submitted first. -/
theorem left_over_before_company :
    Match.field? "Company" longForm = some ⟨900, Match.ofLabel "Company"⟩ ∧
      Match.field? "Shoe size" longForm = none ∧ ¬Key.NamesContact "Shoe size" ∧
      ((orderRequest "Company" "Shoe size").rows longForm ⟨[]⟩ false).map
        (fun row => (row.rawKey, row.rank)) = [("Shoe size", 999), ("Company", 1000)] := by
  have hcompanyKey : ¬Key.NamesContact "Company" := by decide +kernel
  have hshoesKey : ¬Key.NamesContact "Shoe size" := by decide +kernel
  refine ⟨longForm_company, longForm_left_over, hshoesKey, ?_⟩
  have hcompany : Submitted.rank longForm (.answer "Company" (.str "42")) = 1000 :=
    Submitted.IsOrdinaryOf.rank (p := ⟨900, Match.ofLabel "Company"⟩)
      ⟨longForm_company, by decide, hcompanyKey⟩
  have hshoes : Submitted.rank longForm (.answer "Shoe size" (.str "7")) = 999 :=
    Submitted.IsLeftOver.rank ⟨longForm_left_over, hshoesKey⟩
  have hrank : Submitted.rank longForm (.answer "Shoe size" (.str "7")) <
      Submitted.rank longForm (.answer "Company" (.str "42")) := by
    rw [hcompany, hshoes]
    decide
  have hcompanyShown : ¬IsHidden longForm "Company" := by
    rw [← isSensitive_iff_isHidden, longForm_company]
    decide +kernel
  have hshoesShown : ¬IsHidden longForm "Shoe size" := by
    rw [← isSensitive_iff_isHidden, longForm_left_over]
    decide +kernel
  have hdisplayed := displayed_orderRequest hcompanyShown hshoesShown
  rw [rowRanks_swap ⟨[]⟩ false hdisplayed hrank, hcompany, hshoes]
  rfl

end Request

end Enrolment
