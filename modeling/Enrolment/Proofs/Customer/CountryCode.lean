/-
The code of a country, whatever its name or code is typed like.

Three sources are asked in turn: the names that are often typed, two letters as they are, and
the names of a table.  The first knows capitals only, and the others put the letters that they
come to into capitals, so a code is two capital letters if those of the table are two letters.
All three look at the text without the blanks around it and do not tell a capital from its
small letter.  Without a table a code is the code of itself: one that is often typed for
another is never given, and the others pass as they are.
-/
import Enrolment.Customer.Draft
import Enrolment.Proofs.Submission.Respelt

namespace Enrolment

/-! ### Letters -/

namespace Text

/-- Whether a text is two letters of ASCII. -/
def IsTwoLetters (s : String) : Prop :=
  ∃ a b, s.toList = [a, b] ∧ isAsciiLetter a = true ∧ isAsciiLetter b = true

/-- Whether a text is two capitals of ASCII. -/
def IsTwoCapitals (s : String) : Prop :=
  ∃ a b, s.toList = [a, b] ∧ IsCapital a ∧ IsCapital b

theorem isAsciiLetter_asciiLower (c : Char) : isAsciiLetter (asciiLower c) = isAsciiLetter c :=
  comp_asciiLower (by decide) c

theorem upperChars_asciiLower (c : Char) : upperChars (asciiLower c) = upperChars c :=
  comp_asciiLower (by decide) c

/-- What is true of the first 128 characters is true of a character of ASCII. -/
theorem forall_ascii {P : Char → Prop} (h : ∀ n < 128, P (Char.ofNat n)) {c : Char}
    (hc : c.toNat < 128) : P c := by
  have hchar := h c.toNat hc
  rwa [Char.ofNat_toNat] at hchar

/-- A letter has one capital, which has the same small letter. -/
theorem capital_of_isAsciiLetter {c : Char} (h : isAsciiLetter c = true) :
    upperChars c = [asciiUpper c] ∧ IsCapital (asciiUpper c) ∧
      asciiLower (asciiUpper c) = asciiLower c := by
  have hascii : c.toNat < 128 := by
    simp only [isAsciiLetter, Bool.or_eq_true, Bool.and_eq_true, decide_eq_true_eq, toNat_le] at h
    have hbounds : c.toNat ≤ 90 ∨ c.toNat ≤ 122 := h.imp And.right And.right
    omega
  revert h
  exact forall_ascii (P := fun c => isAsciiLetter c = true → upperChars c = [asciiUpper c] ∧
    IsCapital (asciiUpper c) ∧ asciiLower (asciiUpper c) = asciiLower c) (by decide) hascii

theorem upper_smallAscii (s : String) : upper (smallAscii s) = upper s := by
  rw [← String.toList_inj, toList_upper, toList_upper, toList_smallAscii, List.flatMap_map]
  simp only [upperChars_asciiLower]

theorem smallAscii_eq_empty_iff {s : String} : smallAscii s = "" ↔ s = "" := by
  rw [← String.toList_eq_nil_iff, toList_smallAscii, List.map_eq_nil_iff, String.toList_eq_nil_iff]

namespace IsTwoLetters

variable {s : String}

/-- Two letters have two capitals. -/
theorem isTwoCapitals_upper (h : IsTwoLetters s) : IsTwoCapitals (upper s) := by
  obtain ⟨a, b, hs, ha, hb⟩ := h
  obtain ⟨hfirst, hcapital, -⟩ := capital_of_isAsciiLetter ha
  obtain ⟨hsecond, hother, -⟩ := capital_of_isAsciiLetter hb
  exact ⟨_, _, by simp [hs, hfirst, hsecond], hcapital, hother⟩

/-- And the capitals have the same small letters. -/
theorem smallAscii_upper (h : IsTwoLetters s) : smallAscii (upper s) = smallAscii s := by
  obtain ⟨a, b, hs, ha, hb⟩ := h
  obtain ⟨hfirst, -, hsmall⟩ := capital_of_isAsciiLetter ha
  obtain ⟨hsecond, -, hother⟩ := capital_of_isAsciiLetter hb
  rw [← String.toList_inj, toList_smallAscii, toList_smallAscii, toList_upper, hs]
  simp [hfirst, hsecond, hsmall, hother]

end IsTwoLetters

end Text

open Text

/-! ### Names in a table -/

namespace Place

theorem fold_smallAscii (key : String) : fold (smallAscii key) = fold key := by
  unfold fold
  rw [trim_smallAscii, lower_smallAscii]

theorem Table.countryNamed?_smallAscii (table : Table) (name : String) :
    table.countryNamed? (smallAscii name) = table.countryNamed? name := by
  unfold countryNamed?
  rw [fold_smallAscii]

end Place

/-! ### The code of a country -/

namespace Customer

variable (raw : String) (table : Option Place.Table)

theorem isCode_iff {s : String} : isCode s.toList = true ↔ IsTwoLetters s := by
  unfold isCode IsTwoLetters
  rw [Bool.and_eq_true, decide_eq_true_eq, List.length_eq_two]
  constructor
  · intro h
    obtain ⟨⟨a, b, hs⟩, hall⟩ := h
    rw [hs] at hall
    simp only [List.all_cons, List.all_nil, Bool.and_true, Bool.and_eq_true] at hall
    exact ⟨a, b, hs, hall⟩
  · intro h
    obtain ⟨a, b, hs, ha, hb⟩ := h
    exact ⟨⟨a, b, hs⟩, by simp [hs, ha, hb]⟩

theorem isCode_smallAscii (s : String) : isCode (smallAscii s).toList = isCode s.toList := by
  have hletter : isAsciiLetter ∘ asciiLower = isAsciiLetter := funext isAsciiLetter_asciiLower
  unfold isCode
  rw [toList_smallAscii, List.length_map, List.all_map, hletter]

/-- Blanks around a text do not change its code. -/
theorem countryCode_trim : countryCode (trim raw) table = countryCode raw table := by
  unfold countryCode
  rw [trim_trim]

/-- Nor do capitals. -/
theorem countryCode_smallAscii : countryCode (smallAscii raw) table = countryCode raw table := by
  unfold countryCode
  simp only [trim_smallAscii, smallAscii_eq_empty_iff, lower_smallAscii, isCode_smallAscii,
    upper_smallAscii, Place.Table.countryNamed?_smallAscii]

/-- Where a code comes from. -/
inductive IsCodeFrom (raw : String) (table : Option Place.Table) : String → Prop
  /-- There is none. -/
  | nowhere : IsCodeFrom raw table ""
  /-- It is that of a name which is often typed. -/
  | name {name code : String} (h : (name, code) ∈ countryCodes) : IsCodeFrom raw table code
  /-- It was typed itself. -/
  | letters (h : IsTwoLetters (trim raw)) : IsCodeFrom raw table (upper (trim raw))
  /-- It is that of a country of the table. -/
  | table {known : Place.Table} {country : Country} (hknown : table = some known)
      (hcountry : country ∈ known.countries) : IsCodeFrom raw table (upper country.code)

theorem isCodeFrom_countryCode : IsCodeFrom raw table (countryCode raw table) := by
  unfold countryCode
  dsimp only
  by_cases hempty : trim raw = ""
  · rw [if_pos hempty]
    exact .nowhere
  · rw [if_neg hempty]
    cases hlookup : countryCodes.lookup (lower (trim raw)) with
    | some code =>
        obtain ⟨before, after, hsplit, -⟩ := List.lookup_eq_some_iff.1 hlookup
        have hmem : (lower (trim raw), code) ∈ countryCodes := by
          rw [hsplit]
          exact List.mem_append_right before List.mem_cons_self
        exact .name hmem
    | none =>
        dsimp only
        by_cases hletters : isCode (trim raw).toList = true
        · rw [if_pos hletters]
          exact .letters (isCode_iff.1 hletters)
        · rw [if_neg hletters]
          cases hfound : table.bind (·.countryNamed? (trim raw)) with
          | none => exact .nowhere
          | some country =>
              obtain ⟨known, hknown, hnamed⟩ := Option.bind_eq_some_iff.1 hfound
              exact .table hknown (List.mem_reverse.1 (List.mem_of_find?_eq_some hnamed))

/-- The codes under names that are often typed are two capitals, and each is the code of itself. -/
theorem countryCodes_settled : ∀ entry ∈ countryCodes,
    isCode entry.2.toList = true ∧ upper entry.2 = entry.2 ∧
      countryCode entry.2 none = entry.2 := by
  decide

/-- Without a table, a code is the code of itself. -/
theorem countryCode_countryCode :
    countryCode (countryCode raw none) none = countryCode raw none := by
  generalize hcode : countryCode raw none = code
  have hfrom := isCodeFrom_countryCode raw none
  rw [hcode] at hfrom
  cases hfrom with
  | nowhere => decide
  | name hmem => exact (countryCodes_settled _ hmem).2.2
  | letters hletters =>
      calc countryCode (upper (trim raw)) none
          = countryCode (smallAscii (upper (trim raw))) none := (countryCode_smallAscii _ _).symm
        _ = countryCode (smallAscii (trim raw)) none := by rw [hletters.smallAscii_upper]
        _ = countryCode raw none := by rw [countryCode_smallAscii, countryCode_trim]
        _ = upper (trim raw) := hcode
  | table hknown _ => cases hknown

variable {raw table}

theorem IsCodeFrom.eq_empty_or_isTwoCapitals {code : String} (hfrom : IsCodeFrom raw table code)
    (h : ∀ known, table = some known → ∀ country ∈ known.countries, IsTwoLetters country.code) :
    code = "" ∨ IsTwoCapitals code := by
  cases hfrom with
  | nowhere => exact .inl rfl
  | name hmem =>
      obtain ⟨hcode, hupper, -⟩ := countryCodes_settled _ hmem
      have hcapitals := (isCode_iff.1 hcode).isTwoCapitals_upper
      rw [hupper] at hcapitals
      exact .inr hcapitals
  | letters hletters => exact .inr hletters.isTwoCapitals_upper
  | table hknown hcountry => exact .inr (h _ hknown _ hcountry).isTwoCapitals_upper

/-- **The code of a country is two capitals or empty, and does not depend on how it is typed.**  The
codes of the table, if there is one, have to be two letters; a change of case or of the blanks
around the text does not matter with any table.  Without one a code is the code of itself. -/
theorem countryCode_isCode
    (h : ∀ known, table = some known → ∀ country ∈ known.countries, IsTwoLetters country.code)
    (raw : String) :
    (countryCode raw table = "" ∨ IsTwoCapitals (countryCode raw table)) ∧
    (∀ other, Relation.EqvGen Key.Respells raw other →
      countryCode other table = countryCode raw table) ∧
    countryCode (countryCode raw none) none = countryCode raw none := by
  refine ⟨(isCodeFrom_countryCode raw table).eq_empty_or_isTwoCapitals h, ?_,
    countryCode_countryCode raw⟩
  intro other hrespelt
  exact Key.eq_of_eqvGen (f := fun text => countryCode text table)
    (fun text => countryCode_trim text table) (fun text => countryCode_smallAscii text table)
    hrespelt

/-- A table that has its codes in small letters. -/
def smallTable : Place.Table :=
  ⟨[⟨"Malta", "mt", []⟩, ⟨"Chad", "td", []⟩]⟩

/-- A country of the table has its code in capitals, in whatever letters it is typed. -/
theorem malta_coded :
    (∀ country ∈ smallTable.countries, IsTwoLetters country.code) ∧
      countryCode "malta" (some smallTable) = "MT" ∧ IsTwoCapitals "MT" ∧
      countryCode "\tMALTA  " (some smallTable) = "MT" := by
  have hcodes : ∀ known, some smallTable = some known → ∀ country ∈ known.countries,
      IsTwoLetters country.code := by
    rintro _ ⟨⟩ country hcountry
    have hall : ∀ country ∈ smallTable.countries, isCode country.code.toList = true := by decide
    exact isCode_iff.1 (hall country hcountry)
  have hcode : countryCode "malta" (some smallTable) = "MT" := by decide
  have hshouted : Key.Respells "malta" "MALTA" := .recase (by decide)
  have hpadded : Key.Respells "MALTA" "\tMALTA  " :=
    .pad ['\t'] "MALTA" [' ', ' '] (List.all_eq_true.1 (by decide))
      (List.all_eq_true.1 (by decide))
  have hrespelt : Relation.EqvGen Key.Respells "malta" "\tMALTA  " :=
    (Relation.EqvGen.rel _ _ hshouted).trans _ _ _ (.rel _ _ hpadded)
  obtain ⟨hform, hspelling, -⟩ := countryCode_isCode hcodes "malta"
  rw [hcode] at hform hspelling
  exact ⟨hcodes _ rfl, hcode, hform.resolve_left (by decide), hspelling _ hrespelt⟩

end Customer

end Enrolment
