/-
The integers that texts and numbers are read as.

A text spells an integer if it is digits behind a sign, if there is one, with margins at both
ends.  The digits may be of any script, and a single underscore may stand between two of them.
That is told here by a grammar (`Spells`), and the reader goes by it, up to a number of digits.

A number is cut to an integer in the direction of zero, so it is read as the integer that it is
worth only if it has no fractional part.
-/
import Mathlib.Data.Nat.Digits.Defs
import Mathlib.Data.Rat.Floor
import Enrolment.Number.Numeral
import Enrolment.Proofs.Number.Literal
import Enrolment.Proofs.Number.Value
import Enrolment.Proofs.Text.Basic

namespace Enrolment

/-! ### Digits -/

namespace Text

theorem digit?_lt {c : Char} {d : Nat} (h : digit? c = some d) : d < 10 := by
  unfold digit? asciiDigit? at h
  split at h
  · split at h
    · rename_i hdigit
      rw [Bool.and_eq_true, decide_eq_true_eq, decide_eq_true_eq] at hdigit
      have hnine : c.toNat ≤ 57 := hdigit.2
      have hd := Option.some.inj h
      omega
    · cases h
  · obtain ⟨start, hstart, hd⟩ := Option.map_eq_some_iff.1 h
    have hrange := List.find?_some hstart
    rw [Bool.and_eq_true, decide_eq_true_eq, decide_eq_true_eq] at hrange
    omega

end Text

namespace Numeral

/-- The digit of ASCII for a value below ten. -/
def digitChar (d : Nat) : Char :=
  Char.ofNat (48 + d)

theorem digitChar_spec : ∀ d < 10, Text.isAsciiDigit (digitChar d) = true ∧
    (digitChar d).toNat - 48 = d := by
  decide

theorem plainDigit_of_digit? {c : Char} {d : Nat} (h : Text.digit? c = some d) :
    plainDigit c = digitChar d := by
  rw [plainDigit, h, digitChar]

theorem plainDigit_of_none {c : Char} (h : Text.digit? c = none) : plainDigit c = c := by
  rw [plainDigit, h]

theorem isAsciiDigit_plainDigit {c : Char} {d : Nat} (h : Text.digit? c = some d) :
    Text.isAsciiDigit (plainDigit c) = true := by
  rw [plainDigit_of_digit? h]
  exact (digitChar_spec d (Text.digit?_lt h)).1

/-- What becomes a digit of ASCII was a digit. -/
theorem exists_digit? {c : Char} (h : Text.isAsciiDigit (plainDigit c) = true) :
    ∃ d, Text.digit? c = some d := by
  cases hc : Text.digit? c with
  | some d => exact ⟨d, rfl⟩
  | none =>
      rw [plainDigit_of_none hc] at h
      have hdigit := isDigit_of_ascii (toNat_of_isAsciiDigit h)
      rw [h, Text.isDigit, hc] at hdigit
      cases hdigit

theorem ne_of_isAsciiDigit {c : Char} (h : Text.isAsciiDigit c = true) :
    c ≠ '_' ∧ c ≠ '+' ∧ c ≠ '-' := by
  refine ⟨?_, ?_, ?_⟩ <;>
  · rintro rfl
    revert h
    decide

/-! ### The grammar -/

/-- Whether a text is digits of any script, with a single underscore between two of them or none,
and which values they have. -/
inductive SpellsDigits : List Char → List Nat → Prop
  | last {c : Char} {d : Nat} (h : Text.digit? c = some d) : SpellsDigits [c] [d]
  | next {c : Char} {d : Nat} {s : List Char} {digits : List Nat} (h : Text.digit? c = some d)
      (hrest : SpellsDigits s digits) : SpellsDigits (c :: s) (d :: digits)
  | joined {c : Char} {d : Nat} {s : List Char} {digits : List Nat} (h : Text.digit? c = some d)
      (hrest : SpellsDigits s digits) : SpellsDigits (c :: '_' :: s) (d :: digits)

/-- The integer of a sign and digits, the highest digit first. -/
def signed (mark : List Char) (digits : List Nat) : Int :=
  let size : Nat := Nat.ofDigits 10 digits.reverse
  if mark = ['-'] then -(size : Int) else size

/-- Whether a text spells an integer, and with which digits. -/
inductive Spells : List Char → List Nat → Int → Prop
  | within {before mark body after : List Char} {digits : List Nat}
      (hbefore : ∀ c ∈ before, isMargin c = true) (hmark : IsSign mark)
      (hbody : SpellsDigits body digits) (hafter : ∀ c ∈ after, isMargin c = true) :
      Spells (before ++ (mark ++ body) ++ after) digits (signed mark digits)

theorem SpellsDigits.ne_nil {s : List Char} {digits : List Nat} (h : SpellsDigits s digits) :
    digits ≠ [] := by
  cases h <;> exact List.cons_ne_nil _ _

theorem SpellsDigits.lt {s : List Char} {digits : List Nat} (h : SpellsDigits s digits) :
    ∀ d ∈ digits, d < 10 := by
  induction h with
  | last h => simpa using Text.digit?_lt h
  | next h _ ih | joined h _ ih => exact List.forall_mem_cons.2 ⟨Text.digit?_lt h, ih⟩

/-! ### Joining digits -/

/-- The written form of digits in ASCII. -/
def plain (digits : List Nat) : List Char :=
  digits.map digitChar

theorem isAsciiDigit_plain {digits : List Nat} (h : ∀ d ∈ digits, d < 10) :
    ∀ c ∈ plain digits, Text.isAsciiDigit c = true := by
  intro c hc
  obtain ⟨d, hd, rfl⟩ := List.mem_map.1 hc
  exact (digitChar_spec d (h d hd)).1

theorem value_plain {digits : List Nat} (h : ∀ d ∈ digits, d < 10) :
    value (plain digits) = Nat.ofDigits 10 digits.reverse := by
  have hstep : ∀ start : Nat, ∀ d ∈ digits,
      10 * start + ((digitChar d).toNat - 48) = d + 10 * start := by
    intro start d hd
    rw [(digitChar_spec d (h d hd)).2, Nat.add_comm]
  rw [value, valueFrom, plain, List.foldl_map, Nat.ofDigits_eq_foldr, List.foldr_reverse]
  exact List.foldl_ext _ _ 0 hstep

theorem joinDigits_under {previous : Char} (h : Text.isAsciiDigit previous = true)
    (s : List Char) : joinDigits previous ('_' :: s) = joinDigits '_' s := by
  rw [joinDigits, if_pos rfl, if_pos h]

theorem joinDigits_cons {previous c : Char} (hc : c ≠ '_')
    (hprevious : previous = '_' → Text.isAsciiDigit c = true) (s : List Char) :
    joinDigits previous (c :: s) = (joinDigits c s).map (c :: ·) := by
  have hnot : ¬(decide (previous = '_') && !Text.isAsciiDigit c) = true := by
    rw [Bool.and_eq_true, decide_eq_true_eq, Bool.not_eq_true']
    rintro ⟨hunder, hdigit⟩
    rw [hprevious hunder] at hdigit
    cases hdigit
  rw [joinDigits, if_neg hc, if_neg hnot]

/-- Digits are joined whatever is in front of them. -/
theorem joinDigits_of_spellsDigits {s : List Char} {digits : List Nat}
    (h : SpellsDigits s digits) (previous : Char) :
    joinDigits previous (s.map plainDigit) = some (plain digits) := by
  have hunder : plainDigit '_' = '_' := rfl
  induction h generalizing previous with
  | last h =>
      have hdigit := isAsciiDigit_plainDigit h
      have hne := (ne_of_isAsciiDigit hdigit).1
      rw [List.map_singleton, joinDigits_cons hne fun _ => hdigit, joinDigits, if_neg hne,
        plainDigit_of_digit? h]
      rfl
  | next h _ ih =>
      have hdigit := isAsciiDigit_plainDigit h
      rw [List.map_cons, joinDigits_cons (ne_of_isAsciiDigit hdigit).1 fun _ => hdigit, ih,
        plainDigit_of_digit? h]
      rfl
  | joined h _ ih =>
      have hdigit := isAsciiDigit_plainDigit h
      rw [List.map_cons, List.map_cons, hunder,
        joinDigits_cons (ne_of_isAsciiDigit hdigit).1 fun _ => hdigit, joinDigits_under hdigit, ih,
        plainDigit_of_digit? h]
      rfl

/-- What is joined to digits was digits: nothing is left of a text, or it spells digits, or it does
so behind an underscore, which has to follow a digit. -/
theorem spellsDigits_of_joinDigits {previous : Char} {s t : List Char}
    (h : joinDigits previous (s.map plainDigit) = some t)
    (ht : ∀ c ∈ t, Text.isAsciiDigit c = true) :
    (s = [] ∧ t = [] ∧ previous ≠ '_') ∨
      (∃ digits, SpellsDigits s digits ∧ t = plain digits) ∨
      ∃ rest digits, s = '_' :: rest ∧ Text.isAsciiDigit previous = true ∧
        SpellsDigits rest digits ∧ t = plain digits := by
  induction s generalizing previous t with
  | nil =>
      rw [List.map_nil, joinDigits] at h
      split at h
      · cases h
      · rename_i hne
        exact .inl ⟨rfl, (Option.some.inj h).symm, hne⟩
  | cons c rest ih =>
      rw [List.map_cons] at h
      by_cases hunder : plainDigit c = '_'
      · have hc : c = '_' := by
          cases hdigit : Text.digit? c with
          | none => rwa [plainDigit_of_none hdigit] at hunder
          | some d => exact absurd hunder (ne_of_isAsciiDigit (isAsciiDigit_plainDigit hdigit)).1
        rw [hunder, joinDigits, if_pos rfl] at h
        split at h
        · rename_i hprevious
          rcases ih h ht with ⟨-, -, hne⟩ | ⟨digits, hspells, rfl⟩ | ⟨_, _, -, hdigit, -⟩
          · exact absurd rfl hne
          · exact .inr (.inr ⟨rest, digits, by rw [hc], hprevious, hspells, rfl⟩)
          · cases hdigit
        · cases h
      · rw [joinDigits, if_neg hunder] at h
        split at h
        · cases h
        · obtain ⟨t', hrest, rfl⟩ := Option.map_eq_some_iff.1 h
          obtain ⟨hdigit, hdigits⟩ := List.forall_mem_cons.1 ht
          obtain ⟨d, hd⟩ := exists_digit? hdigit
          right
          left
          rw [plainDigit_of_digit? hd]
          rcases ih hrest hdigits with ⟨rfl, rfl, -⟩ | ⟨digits, hspells, rfl⟩ |
            ⟨_, digits, rfl, -, hspells, rfl⟩
          · exact ⟨[d], .last hd, rfl⟩
          · exact ⟨d :: digits, .next hd hspells, rfl⟩
          · exact ⟨d :: digits, .joined hd hspells, rfl⟩

/-! ### Margins -/

theorem find?_zeros_blank : ∀ n ∈ Text.wideBlanks,
    (Text.zeros.find? fun z => z ≤ n && n ≤ z + 9).isNone := by
  decide

/-- No digit is a margin. -/
theorem isMargin_of_digit? {c : Char} {d : Nat} (h : Text.digit? c = some d) :
    isMargin c = false := by
  rw [isMargin, Bool.and_eq_false_imp]
  intro hblank
  exfalso
  unfold Text.digit? at h
  split at h
  · unfold Text.asciiDigit? at h
    split at h
    · rename_i hdigit
      unfold Text.isBlank at hblank
      rw [Bool.and_eq_true, decide_eq_true_eq, decide_eq_true_eq, Text.toNat_le,
        Text.toNat_le] at hdigit
      simp only [Bool.or_eq_true, Bool.and_eq_true, decide_eq_true_eq, beq_iff_eq] at hblank
      have hlow : 48 ≤ c.toNat := hdigit.1
      have hhigh : c.toNat ≤ 57 := hdigit.2
      omega
    · cases h
  · rename_i hwide
    have hnone := find?_zeros_blank c.toNat (Text.toNat_mem_wideBlanks hblank hwide)
    rw [Option.isNone_iff_eq_none] at hnone
    rw [hnone] at h
    cases h

theorem SpellsDigits.isMargin_eq_false {s : List Char} {digits : List Nat}
    (h : SpellsDigits s digits) : ∀ c ∈ s, isMargin c = false := by
  induction h with
  | last h => simpa using isMargin_of_digit? h
  | next h _ ih => exact List.forall_mem_cons.2 ⟨isMargin_of_digit? h, ih⟩
  | joined h _ ih =>
      exact List.forall_mem_cons.2 ⟨isMargin_of_digit? h, List.forall_mem_cons.2 ⟨rfl, ih⟩⟩

/-! ### Signs -/

theorem IsSign.isMargin_eq_false {mark : List Char} (h : IsSign mark) :
    ∀ c ∈ mark, isMargin c = false := by
  rcases h with rfl | rfl | rfl
  · exact List.forall_mem_nil _
  · exact List.forall_mem_singleton.2 rfl
  · exact List.forall_mem_singleton.2 rfl

/-- A sign in front of digits stays when they are joined. -/
theorem joinDigits_sign {mark body : List Char} {digits : List Nat} (hmark : IsSign mark)
    (hbody : SpellsDigits body digits) :
    joinDigits ' ' ((mark ++ body).map plainDigit) = some (mark ++ plain digits) := by
  rcases hmark with rfl | rfl | rfl
  · exact joinDigits_of_spellsDigits hbody ' '
  · show (joinDigits '+' (body.map plainDigit)).map ('+' :: ·) = some ('+' :: plain digits)
    rw [joinDigits_of_spellsDigits hbody, Option.map_some]
  · show (joinDigits '-' (body.map plainDigit)).map ('-' :: ·) = some ('-' :: plain digits)
    rw [joinDigits_of_spellsDigits hbody, Option.map_some]

theorem isUnsigned_plain {digits : List Nat} (hlt : ∀ d ∈ digits, d < 10) :
    IsUnsigned (plain digits) := by
  intro c hc
  exact (ne_of_isAsciiDigit (isAsciiDigit_plain hlt c (List.mem_of_mem_head? hc))).2

/-- A sign that is left after joining was there before. -/
theorem exists_rest_of_joinDigits {mark : Char} (hmark : mark = '+' ∨ mark = '-')
    {core t : List Char} (h : joinDigits ' ' (core.map plainDigit) = some (mark :: t)) :
    ∃ rest, core = mark :: rest ∧ joinDigits mark (rest.map plainDigit) = some t := by
  cases core with
  | nil => cases h
  | cons c rest =>
      rw [List.map_cons, joinDigits] at h
      split at h
      · cases h
      · rw [decide_eq_false (by decide : ' ' ≠ '_'), Bool.false_and, if_neg Bool.false_ne_true] at h
        obtain ⟨t', hrest, heq⟩ := Option.map_eq_some_iff.1 h
        obtain ⟨hc, rfl⟩ := List.cons.inj heq
        have hplain : plainDigit c = c := by
          refine plainDigit_of_none (Option.eq_none_iff_forall_not_mem.2 ?_)
          intro d hd
          have hdigit := ne_of_isAsciiDigit (isAsciiDigit_plainDigit hd)
          rw [hc] at hdigit
          rcases hmark with rfl | rfl
          · exact hdigit.2.1 rfl
          · exact hdigit.2.2 rfl
        rw [hplain] at hc hrest
        subst hc
        exact ⟨rest, rfl, hrest⟩

/-- What is left in front of joined digits is a sign, and behind it there were digits. -/
theorem exists_spellsDigits {mark core digits : List Char} (hmark : IsSign mark)
    (h : joinDigits ' ' (core.map plainDigit) = some (mark ++ digits)) (hne : digits ≠ [])
    (hdigits : ∀ c ∈ digits, Text.isAsciiDigit c = true) :
    ∃ body values, core = mark ++ body ∧ SpellsDigits body values ∧ digits = plain values := by
  have hspells : ∀ {previous : Char} {s : List Char}, Text.isAsciiDigit previous = false →
      joinDigits previous (s.map plainDigit) = some digits →
      ∃ values, SpellsDigits s values ∧ digits = plain values := by
    intro previous s hprevious hs
    rcases spellsDigits_of_joinDigits hs hdigits with ⟨-, hnil, -⟩ | hvalues |
      ⟨_, _, -, hdigit, -⟩
    · exact absurd hnil hne
    · exact hvalues
    · rw [hprevious] at hdigit
      cases hdigit
  rcases hmark with rfl | rfl | rfl
  · obtain ⟨values, hvalues⟩ := hspells (by decide) h
    exact ⟨core, values, rfl, hvalues⟩
  · obtain ⟨body, rfl, hbody⟩ := exists_rest_of_joinDigits (.inl rfl) h
    obtain ⟨values, hvalues⟩ := hspells (by decide) hbody
    exact ⟨body, values, rfl, hvalues⟩
  · obtain ⟨body, rfl, hbody⟩ := exists_rest_of_joinDigits (.inr rfl) h
    obtain ⟨values, hvalues⟩ := hspells (by decide) hbody
    exact ⟨body, values, rfl, hvalues⟩

/-! ### Reading texts -/

theorem length_plain (digits : List Nat) : (plain digits).length = digits.length :=
  List.length_map _

/-- What is read behind a sign. -/
theorem signed_value {mark : List Char} {digits : List Nat} (hlt : ∀ d ∈ digits, d < 10) :
    (if decide (mark = ['-']) = true then -(value (plain digits) : Int) else value (plain digits)) =
      signed mark digits := by
  rw [value_plain hlt, signed]
  simp only [decide_eq_true_eq]

/-- **The texts that are read as an integer are those that spell it with few enough digits.** -/
theorem integer?_eq_some_iff {s : List Char} {n : Int} :
    integer? s = some n ↔ ∃ digits, Spells s digits n ∧ digits.length ≤ maxDigits := by
  rw [integer?, Option.bind_eq_bind, Option.bind_eq_some_iff]
  constructor
  · rintro ⟨b, hbare, hread⟩
    obtain ⟨mark, hmark, hb, hnegative⟩ := exists_sign b
    dsimp only at hread
    split at hread
    · cases hread
    · rename_i hfew
      simp only [Bool.or_eq_true, Bool.not_eq_true', decide_eq_true_eq, not_or, Nat.not_lt,
        Bool.not_eq_false, List.all_eq_true, gt_iff_lt, List.isEmpty_iff] at hfew
      obtain ⟨⟨hne, hdigits⟩, hlength⟩ := hfew
      rw [hb] at hbare
      obtain ⟨body, values, hcore, hbody, hplain⟩ := exists_spellsDigits hmark hbare hne hdigits
      obtain ⟨before, after, hsplit, hbefore, hafter⟩ := Text.exists_ends isMargin s
      rw [hplain, hnegative, signed_value hbody.lt] at hread
      rw [hplain, length_plain] at hlength
      rw [hcore] at hsplit
      rw [hsplit, ← Option.some.inj hread]
      exact ⟨values, .within hbefore hmark hbody hafter, hlength⟩
  · rintro ⟨digits, ⟨hbefore, hmark, hbody, hafter⟩, hlength⟩
    rename_i before mark body after
    have hcore : ∀ c ∈ mark ++ body, isMargin c = false := by
      intro c hc
      exact (List.mem_append.1 hc).elim (hmark.isMargin_eq_false c) (hbody.isMargin_eq_false c)
    have hne : mark ++ body ≠ [] := by
      intro hnil
      rw [(List.append_eq_nil_iff.1 hnil).2] at hbody
      cases hbody
    refine ⟨mark ++ plain digits, ?_, ?_⟩
    · rw [bare, Text.dropEnd_between hbefore hne hcore hafter, joinDigits_sign hmark hbody]
    · have hempty : (plain digits).isEmpty = false := by
        rw [List.isEmpty_eq_false_iff, ne_eq, plain, List.map_eq_nil_iff]
        exact hbody.ne_nil
      have hall : (plain digits).all Text.isAsciiDigit = true :=
        List.all_eq_true.2 (isAsciiDigit_plain hbody.lt)
      rw [sign_append hmark (isUnsigned_plain hbody.lt)]
      dsimp only
      rw [hempty, hall, length_plain, signed_value hbody.lt, if_neg]
      simpa using hlength

end Numeral

/-! ### Cutting numbers -/

namespace Binary64

/-- A number without its fractional part. -/
def cut (v : ℚ) : Int :=
  if v < 0 then ⌈v⌉ else ⌊v⌋

theorem cut_intCast (n : Int) : cut n = n := by
  rw [cut, Int.ceil_intCast, Int.floor_intCast, ite_self]

theorem cut_of_nonneg {v : ℚ} (h : 0 ≤ v) : cut v = ⌊v⌋ :=
  if_neg (not_lt.2 h)

theorem cut_neg (v : ℚ) : cut (-v) = -cut v := by
  rcases lt_trichotomy v 0 with h | rfl | h
  · rw [cut, cut, if_neg (by linarith), if_pos h, Int.floor_neg]
  · rfl
  · rw [cut, cut, if_pos (by linarith), if_neg (by linarith), Int.ceil_neg]

/-- **A number is read as what its value is without a fractional part.** -/
theorem truncate?_eq_some_iff {x : Binary64} {n : Int} :
    x.truncate? = some n ↔ ∃ v, x.value? = some v ∧ n = cut v := by
  cases x with
  | nan | infinite _ => simp [truncate?, value?]
  | finite negative m e =>
      have hpos : (power 2 (-e) : ℚ) ≠ 0 := Nat.cast_ne_zero.2 (power_two_pos (-e)).ne'
      have hsize : (m : ℚ) * 2 ^ e = ((m * power 2 e : ℕ) : ℚ) / (power 2 (-e) : ℕ) := by
        rw [eq_div_iff hpos, mul_assoc, zpow_mul_power, Nat.cast_mul]
      have hnonneg : (0 : ℚ) ≤ m * 2 ^ e :=
        mul_nonneg (Nat.cast_nonneg m) (zpow_nonneg (by decide) e)
      have hfloor : cut ((m : ℚ) * 2 ^ e) = ((m * power 2 e / power 2 (-e) : ℕ) : Int) := by
        rw [cut_of_nonneg hnonneg, hsize, Rat.floor_natCast_div_natCast, Int.natCast_ediv]
      simp only [truncate?, value?, Option.some.injEq, exists_eq_left']
      cases negative with
      | false => simp only [Bool.false_eq_true, if_false, hfloor, eq_comm]
      | true => simp only [if_true, neg_mul, cut_neg, hfloor, eq_comm]

end Binary64

end Enrolment
