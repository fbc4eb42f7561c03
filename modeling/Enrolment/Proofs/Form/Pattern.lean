/-
The patterns that rules are told by.

The widget is given the notation of a pattern and matches it with an answer, and four rules have
one.  `expression?` is the pattern itself, of which `pattern?` is the notation, and a rule
accepts a text without blanks at its end just if its pattern occurs in the text, after the
letters have been lowered if the widget does so (`accepts_eq_occursIn`).
-/
import Enrolment.Proofs.Customer.Accepted
import Enrolment.Proofs.Text.Pattern

namespace Enrolment

open Text Text.Pattern

namespace Rule

/-- What stands in an address besides its marks. -/
def beside : Kind :=
  .noneOf [.blank, .one '@']

/-- The pattern of a rule, for the rules that have one. -/
def expression? : Rule → Option Pattern
  | email => some <| .start <| .run beside 1 none <| .run (.only (.one '@')) 1 (some 1) <|
      .run beside 1 none <| .run (.only (.one '.')) 1 (some 1) <| .run beside 1 none <|
      .finish .done
  | phone => some <| .start <|
      .run (.oneOf [.range '0' '9', .one '-', .one '+', .one '(', .one ')', .blank]) 7 none <|
      .finish .done
  | password => some <| .start <|
      .ahead (.run .any 0 none <|
        .run (.oneOf [.range 'A' 'Z', .range 'a' 'z']) 1 (some 1) .done) <|
      .ahead (.run .any 0 none <| .run (.only .digit) 1 (some 1) .done) <|
      .run .any 7 none <| .finish .done
  | postal => some <| .start <|
      .run (.oneOf [.range 'A' 'Z', .range 'a' 'z', .range '0' '9', .one ' ', .one '-']) 3
        (some 12) <|
      .finish .done
  | url | number => none

/-- The widget is given the notation of the pattern. -/
theorem pattern?_eq (rule : Rule) :
    rule.pattern? = rule.expression?.map fun expression => String.ofList expression.written := by
  cases rule <;> decide

/-- A text as the pattern of a rule is matched with it. -/
def prepared (rule : Rule) (s : List Char) : List Char :=
  if rule.lowersLetters then lowerChars s else s

variable {s : List Char}

theorem covers_beside {c : Char} : beside.covers c = true ↔ isAsciiBlank c = false ∧ c ≠ '@' := by
  simp [beside, Kind.covers, Item.covers]

theorem forall_covers_beside : (∀ c ∈ s, beside.covers c = true) ↔
    (∀ c ∈ s, isAsciiBlank c = false) ∧ '@' ∉ s := by
  simp only [covers_beside]
  constructor
  · intro h
    exact ⟨fun c hc => (h c hc).1, fun hat => (h '@' hat).2 rfl⟩
  · rintro ⟨hblank, hat⟩ c hc
    exact ⟨hblank c hc, fun heq => hat (heq ▸ hc)⟩

/-! ### What the patterns look for -/

/-- The pattern for addresses goes along the parts of an address. -/
theorem occursIn_email {expression : Pattern} (h : email.expression? = some expression)
    (hs : ¬EndsLine s) : expression.occursIn s = true ↔ isEmail isAsciiBlank s = true := by
  obtain rfl := Option.some.inj h
  have hend : ∀ {account host domain}, s = account ++ '@' :: (host ++ '.' :: domain) →
      ¬EndsLine domain := by
    rintro account host domain rfl hdomain
    refine hs ?_
    simpa using hdomain.append (account ++ '@' :: (host ++ ['.']))
  rw [occursIn_start, isEmail_iff]
  constructor
  · intro hmatch
    obtain ⟨account, _, rfl, ⟨haccount, -⟩, haccountAll, hrest⟩ := matchesAt_run_iff.1 hmatch
    obtain ⟨sign, _, rfl, hsign, hbehind⟩ := matchesAt_one_iff.1 hrest
    obtain ⟨host, _, rfl, ⟨hhost, -⟩, hhostAll, hrest⟩ := matchesAt_run_iff.1 hbehind
    obtain ⟨point, domain, rfl, hpoint, hlast⟩ := matchesAt_one_iff.1 hrest
    obtain rfl : sign = '@' := by simpa [Kind.covers, Item.covers] using hsign
    obtain rfl : point = '.' := by simpa [Kind.covers, Item.covers] using hpoint
    obtain ⟨⟨hdomain, -⟩, hdomainAll⟩ := (matchesAt_last_iff (hend rfl)).1 hlast
    rw [forall_covers_beside] at haccountAll hhostAll hdomainAll
    refine ⟨?_, account, host, domain, rfl, ⟨?_, ?_, ?_⟩, haccountAll.2, hhostAll.2,
      hdomainAll.2⟩
    · have hat : isAsciiBlank '@' = false := by decide
      have hpoint : isAsciiBlank '.' = false := by decide
      simp only [List.forall_mem_append, List.forall_mem_cons]
      exact ⟨haccountAll.1, hat, hhostAll.1, hpoint, hdomainAll.1⟩
    all_goals exact List.ne_nil_of_length_pos (by assumption)
  · rintro ⟨hblank, account, host, domain, rfl, ⟨haccount, hhost, hdomain⟩, hat, hhostAt,
      hdomainAt⟩
    simp only [List.forall_mem_append, List.forall_mem_cons] at hblank
    obtain ⟨haccountBlank, -, hhostBlank, -, hdomainBlank⟩ := hblank
    refine matchesAt_run_iff.2 ⟨account, _, rfl, ⟨List.length_pos_of_ne_nil haccount, by simp⟩,
      forall_covers_beside.2 ⟨haccountBlank, hat⟩, ?_⟩
    refine matchesAt_one_iff.2 ⟨'@', _, rfl, rfl, ?_⟩
    refine matchesAt_run_iff.2 ⟨host, _, rfl, ⟨List.length_pos_of_ne_nil hhost, by simp⟩,
      forall_covers_beside.2 ⟨hhostBlank, hhostAt⟩, ?_⟩
    refine matchesAt_one_iff.2 ⟨'.', _, rfl, rfl, ?_⟩
    exact (matchesAt_last_iff (hend rfl)).2 ⟨⟨List.length_pos_of_ne_nil hdomain, by simp⟩,
      forall_covers_beside.2 ⟨hdomainBlank, hdomainAt⟩⟩

theorem occursIn_phone {expression : Pattern} (h : phone.expression? = some expression)
    (hs : ¬EndsLine s) : expression.occursIn s = true ↔ isPhone s = true := by
  obtain rfl := Option.some.inj h
  rw [occursIn_start, matchesAt_last_iff hs]
  unfold isPhone
  rw [Bool.and_eq_true, decide_eq_true_eq, List.all_eq_true]
  refine and_congr (by simp) (forall₂_congr fun c _ => ?_)
  simp [Kind.covers, Item.covers, isAsciiDigit, or_assoc]

theorem occursIn_postal {expression : Pattern} (h : postal.expression? = some expression)
    (hs : ¬EndsLine s) : expression.occursIn s = true ↔ isPostal s = true := by
  obtain rfl := Option.some.inj h
  rw [occursIn_start, matchesAt_last_iff hs]
  unfold isPostal
  rw [Bool.and_eq_true, Bool.and_eq_true, decide_eq_true_eq, decide_eq_true_eq, List.all_eq_true]
  refine and_congr (by simp) (forall₂_congr fun c _ => ?_)
  simp [Kind.covers, Item.covers, isAsciiDigit, isAsciiLetter, or_assoc]

/-- Both looks of the pattern for passwords go over the whole text, since it has to be on one
line. -/
theorem occursIn_password {expression : Pattern} (h : password.expression? = some expression)
    (hs : ¬EndsLine s) : expression.occursIn s = true ↔ isPassword s = true := by
  obtain rfl := Option.some.inj h
  rw [occursIn_start, matchesAt_ahead_iff, matchesAt_ahead_iff, matchesAt_last_iff hs,
    forall_covers_any]
  unfold isPassword
  by_cases hline : '\n' ∈ s
  · simp [hline]
  · have hletter : (∃ c ∈ s, (Kind.oneOf [.range 'A' 'Z', .range 'a' 'z']).covers c = true) ↔
        s.any isAsciiLetter = true := by
      simp [Kind.covers, Item.covers, isAsciiLetter]
    have hdigit : (∃ c ∈ s, (Kind.only .digit).covers c = true) ↔ s.any isAsciiDigit = true := by
      simp [Kind.covers, Item.covers]
    have hnone : s.contains '\n' = false := by simpa using hline
    rw [matchesAt_behind_iff hline, matchesAt_behind_iff hline, hletter, hdigit, hnone]
    simp only [Bool.and_eq_true, decide_eq_true_eq]
    constructor
    · rintro ⟨hletters, hdigits, ⟨hlength, -⟩, -⟩
      exact ⟨⟨⟨hlength, rfl⟩, hletters⟩, hdigits⟩
    · rintro ⟨⟨⟨hlength, -⟩, hletters⟩, hdigits⟩
      exact ⟨hletters, hdigits, ⟨hlength, by simp⟩, hline⟩

/-- **A rule accepts a text that ends in no line break just if its pattern occurs in it.** -/
theorem accepts_eq_occursIn {rule : Rule} {expression : Pattern}
    (h : rule.expression? = some expression) (hs : ¬EndsLine s) :
    rule.accepts s = .ok (expression.occursIn (rule.prepared s)) := by
  cases rule with
  | email =>
      rw [← accepts_email_lowerChars]
      exact congrArg _ (Bool.eq_iff_iff.2 (occursIn_email h (mt endsLine_of_lowerChars hs))).symm
  | phone => exact congrArg _ (Bool.eq_iff_iff.2 (occursIn_phone h hs)).symm
  | password => exact congrArg _ (Bool.eq_iff_iff.2 (occursIn_password h hs)).symm
  | postal => exact congrArg _ (Bool.eq_iff_iff.2 (occursIn_postal h hs)).symm
  | url => cases h
  | number => cases h

end Rule

end Enrolment
