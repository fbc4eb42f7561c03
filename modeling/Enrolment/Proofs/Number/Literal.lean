/-
The grammar of numbers.

A number is a decimal or infinity, after a sign if there is one, or an integer in base sixteen,
eight or two, which has no sign.  What counts as a digit of a decimal is left open: the grammar
of numbers in programs knows the ten digits of ASCII, and a reader that goes by the Unicode
property knows those of all scripts.  The two differ in nothing else, since all other
characters of a number are of ASCII (`isLiteral_ascii_iff`).
-/
import Enrolment.Number.Numeral

namespace Enrolment

theorem Text.toNat_of_isHexDigit {c : Char} (h : isHexDigit c = true) : c.toNat < 128 := by
  unfold isHexDigit hexDigit? at h
  refine Decidable.byContradiction fun hwide => ?_
  have hten : ¬c ≤ '9' := fun hle => hwide (Nat.lt_of_le_of_lt hle (by decide))
  have hsmall : ¬c ≤ 'f' := fun hle => hwide (Nat.lt_of_le_of_lt hle (by decide))
  have hcapital : ¬c ≤ 'F' := fun hle => hwide (Nat.lt_of_le_of_lt hle (by decide))
  simp [hten, hsmall, hcapital] at h

namespace Numeral

/-! ### The grammar -/

/-- Whether a text is one or more digits of a kind. -/
def IsDigits (digit : Char → Bool) (s : List Char) : Prop :=
  s ≠ [] ∧ ∀ c ∈ s, digit c = true

/-- Whether a text is a sign, or empty. -/
def IsSign (s : List Char) : Prop :=
  s = [] ∨ s = ['+'] ∨ s = ['-']

/-- Whether a text is the exponent of a decimal. -/
inductive IsExponent (digit : Char → Bool) : List Char → Prop
  | marked {mark : Char} {sign digits : List Char} (hmark : mark = 'e' ∨ mark = 'E')
      (hsign : IsSign sign) (hdigits : IsDigits digit digits) :
      IsExponent digit (mark :: (sign ++ digits))

/-- Whether a text is a decimal without a sign: digits, with a point behind, among or in front of
them, and an exponent if there is one. -/
inductive IsDecimal (digit : Char → Bool) : List Char → Prop
  | whole {whole exponent : List Char} (hwhole : IsDigits digit whole)
      (hexponent : exponent = [] ∨ IsExponent digit exponent) :
      IsDecimal digit (whole ++ exponent)
  | pointed {whole part exponent : List Char} (hwhole : IsDigits digit whole)
      (hpart : part = [] ∨ IsDigits digit part)
      (hexponent : exponent = [] ∨ IsExponent digit exponent) :
      IsDecimal digit (whole ++ '.' :: (part ++ exponent))
  | part {part exponent : List Char} (hpart : IsDigits digit part)
      (hexponent : exponent = [] ∨ IsExponent digit exponent) :
      IsDecimal digit ('.' :: (part ++ exponent))

/-- Whether a text is an integer in base sixteen, eight or two. -/
inductive IsBased : List Char → Prop
  | sixteen {mark : Char} {digits : List Char} (hmark : mark = 'x' ∨ mark = 'X')
      (hdigits : IsDigits Text.isHexDigit digits) : IsBased ('0' :: mark :: digits)
  | eight {mark : Char} {digits : List Char} (hmark : mark = 'o' ∨ mark = 'O')
      (hdigits : IsDigits (fun c => '0' ≤ c && c ≤ '7') digits) : IsBased ('0' :: mark :: digits)
  | two {mark : Char} {digits : List Char} (hmark : mark = 'b' ∨ mark = 'B')
      (hdigits : IsDigits (fun c => c = '0' || c = '1') digits) : IsBased ('0' :: mark :: digits)

/-- Whether a text is a number, with digits of a kind in decimals. -/
inductive IsLiteral (digit : Char → Bool) : List Char → Prop
  | decimal {sign body : List Char} (hsign : IsSign sign) (hbody : IsDecimal digit body) :
      IsLiteral digit (sign ++ body)
  | infinity {sign : List Char} (hsign : IsSign sign) :
      IsLiteral digit (sign ++ "Infinity".toList)
  | based {s : List Char} (h : IsBased s) : IsLiteral digit s

/-! ### Signs -/

/-- Whether a text does not begin with a sign. -/
def IsUnsigned (s : List Char) : Prop :=
  ∀ c ∈ s.head?, c ≠ '+' ∧ c ≠ '-'

/-- A text is a sign, or nothing, and what follows it. -/
theorem exists_sign (s : List Char) :
    ∃ mark, IsSign mark ∧ s = mark ++ (sign s).2 ∧ (sign s).1 = decide (mark = ['-']) := by
  unfold sign IsSign
  split
  · exact ⟨['-'], by simp⟩
  · exact ⟨['+'], by simp⟩
  · exact ⟨[], by simp⟩

theorem sign_append {mark s : List Char} (hmark : IsSign mark) (h : IsUnsigned s) :
    sign (mark ++ s) = (decide (mark = ['-']), s) := by
  rcases hmark with rfl | rfl | rfl
  · cases s with
    | nil => rfl
    | cons c rest =>
        have hc := h c (by simp)
        unfold sign
        split
        · simp_all
        · simp_all
        · rfl
  · rfl
  · rfl

/-! ### Other digits

A number stays one if its digits are also digits of another kind. -/

section Recount

variable {digit other : Char → Bool} {s : List Char}

theorem IsDigits.recount (h : IsDigits digit s)
    (hkind : ∀ c ∈ s, digit c = true → other c = true) : IsDigits other s :=
  ⟨h.1, fun c hc => hkind c hc (h.2 c hc)⟩

theorem IsExponent.recount (h : IsExponent digit s)
    (hkind : ∀ c ∈ s, digit c = true → other c = true) : IsExponent other s := by
  cases h with
  | marked hmark hsign hdigits =>
      exact .marked hmark hsign (hdigits.recount fun c hc => hkind c (by simp [hc]))

theorem IsDecimal.recount (h : IsDecimal digit s)
    (hkind : ∀ c ∈ s, digit c = true → other c = true) : IsDecimal other s := by
  cases h with
  | whole hwhole hexponent =>
      exact .whole (hwhole.recount fun c hc => hkind c (by simp [hc]))
        (hexponent.imp_right fun h => h.recount fun c hc => hkind c (by simp [hc]))
  | pointed hwhole hpart hexponent =>
      exact .pointed (hwhole.recount fun c hc => hkind c (by simp [hc]))
        (hpart.imp_right fun h => h.recount fun c hc => hkind c (by simp [hc]))
        (hexponent.imp_right fun h => h.recount fun c hc => hkind c (by simp [hc]))
  | part hpart hexponent =>
      exact .part (hpart.recount fun c hc => hkind c (by simp [hc]))
        (hexponent.imp_right fun h => h.recount fun c hc => hkind c (by simp [hc]))

theorem IsLiteral.recount (h : IsLiteral digit s)
    (hkind : ∀ c ∈ s, digit c = true → other c = true) : IsLiteral other s := by
  cases h with
  | decimal hsign hbody =>
      exact .decimal hsign (hbody.recount fun c hc => hkind c (by simp [hc]))
  | infinity hsign => exact .infinity hsign
  | based h => exact .based h

end Recount

/-! ### Characters of ASCII

All characters of a number are of ASCII if its digits are. -/

/-- Whether all characters of a text are of ASCII. -/
def IsAscii (s : List Char) : Prop :=
  ∀ c ∈ s, c.toNat < 128

theorem isAscii_append {s t : List Char} (hs : IsAscii s) (ht : IsAscii t) : IsAscii (s ++ t) :=
  List.forall_mem_append.2 ⟨hs, ht⟩

section Ascii

variable {digit : Char → Bool} {s : List Char} (hdigit : ∀ c, digit c = true → c.toNat < 128)

theorem IsSign.isAscii (h : IsSign s) : IsAscii s := by
  rcases h with rfl | rfl | rfl <;> simp [IsAscii]

include hdigit

theorem IsDigits.isAscii (h : IsDigits digit s) : IsAscii s :=
  fun c hc => hdigit c (h.2 c hc)

theorem isAscii_of_isDigits (h : s = [] ∨ IsDigits digit s) : IsAscii s := by
  rcases h with rfl | h
  · simp [IsAscii]
  · exact h.isAscii hdigit

theorem isAscii_of_isExponent (h : s = [] ∨ IsExponent digit s) : IsAscii s := by
  rcases h with rfl | ⟨hmark, hsign, hdigits⟩
  · simp [IsAscii]
  · refine List.forall_mem_cons.2 ⟨?_, isAscii_append hsign.isAscii (hdigits.isAscii hdigit)⟩
    rcases hmark with rfl | rfl <;> decide

theorem IsDecimal.isAscii (h : IsDecimal digit s) : IsAscii s := by
  cases h with
  | whole hwhole hexponent =>
      exact isAscii_append (hwhole.isAscii hdigit) (isAscii_of_isExponent hdigit hexponent)
  | pointed hwhole hpart hexponent =>
      exact isAscii_append (hwhole.isAscii hdigit) <| List.forall_mem_cons.2 ⟨by decide,
        isAscii_append (isAscii_of_isDigits hdigit hpart) (isAscii_of_isExponent hdigit hexponent)⟩
  | part hpart hexponent =>
      exact List.forall_mem_cons.2 ⟨by decide,
        isAscii_append (hpart.isAscii hdigit) (isAscii_of_isExponent hdigit hexponent)⟩

omit hdigit

theorem IsBased.isAscii (h : IsBased s) : IsAscii s := by
  have hinteger : ∀ {base : Char → Bool} {mark : Char} {digits : List Char}, mark.toNat < 128 →
      (∀ c, base c = true → c.toNat < 128) → IsDigits base digits →
      IsAscii ('0' :: mark :: digits) := by
    intro base mark digits hmark hbase hdigits
    exact List.forall_mem_cons.2 ⟨by decide, List.forall_mem_cons.2 ⟨hmark, hdigits.isAscii hbase⟩⟩
  cases h with
  | sixteen hmark hdigits =>
      refine hinteger (by rcases hmark with rfl | rfl <;> decide) ?_ hdigits
      intro c hc
      exact Text.toNat_of_isHexDigit hc
  | eight hmark hdigits =>
      refine hinteger (by rcases hmark with rfl | rfl <;> decide) ?_ hdigits
      intro c hc
      rw [Bool.and_eq_true, decide_eq_true_eq, decide_eq_true_eq] at hc
      have hseven : c.toNat ≤ 55 := hc.2
      omega
  | two hmark hdigits =>
      refine hinteger (by rcases hmark with rfl | rfl <;> decide) ?_ hdigits
      intro c hc
      rw [Bool.or_eq_true, decide_eq_true_eq, decide_eq_true_eq] at hc
      rcases hc with rfl | rfl <;> decide

include hdigit

theorem IsLiteral.isAscii (h : IsLiteral digit s) : IsAscii s := by
  cases h with
  | decimal hsign hbody => exact isAscii_append hsign.isAscii (hbody.isAscii hdigit)
  | infinity hsign => exact isAscii_append hsign.isAscii (by simp [IsAscii])
  | based h => exact h.isAscii

end Ascii

/-- A decimal digit of some script is one of the ten, if it is of ASCII at all. -/
theorem isDigit_of_ascii {c : Char} (h : c.toNat < 128) :
    Text.isDigit c = Text.isAsciiDigit c := by
  unfold Text.isDigit Text.digit? Text.asciiDigit? Text.isAsciiDigit
  rw [if_pos h]
  by_cases hdigit : ('0' ≤ c && c ≤ '9') = true
  · rw [if_pos hdigit, hdigit]
    rfl
  · rw [if_neg hdigit]
    simpa using hdigit

theorem toNat_of_isAsciiDigit {c : Char} (h : Text.isAsciiDigit c = true) : c.toNat < 128 := by
  simp only [Text.isAsciiDigit, Bool.and_eq_true, decide_eq_true_eq] at h
  have hnine : c.toNat ≤ 57 := h.2
  omega

/-- **A number in the ten digits of ASCII is a number in digits of any script, in which no other
digits stand.** -/
theorem isLiteral_ascii_iff {s : List Char} :
    IsLiteral Text.isAsciiDigit s ↔
      IsLiteral Text.isDigit s ∧ ∀ c ∈ s, Text.isDigit c = true → Text.isAsciiDigit c = true := by
  constructor
  · intro h
    have hascii := h.isAscii fun c => toNat_of_isAsciiDigit
    refine ⟨h.recount ?_, ?_⟩
    · intro c hc hdigit
      rwa [isDigit_of_ascii (hascii c hc)]
    · intro c hc hdigit
      rwa [isDigit_of_ascii (hascii c hc)] at hdigit
  · intro h
    obtain ⟨hliteral, hdigits⟩ := h
    exact hliteral.recount hdigits

end Numeral

end Enrolment
