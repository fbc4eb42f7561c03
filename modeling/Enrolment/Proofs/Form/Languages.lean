/-
The languages of the rules.

A rule decides a language if it gives an answer for every text, and accepts just those that are
in the language once the blanks at their ends are off.  For the rules with a pattern the language
is told in plain words, and it is what the pattern looks for as well (`patterned_rules_decide`).
The rule for numbers has no pattern.  It decides the numbers in digits of any script, where the
widget reads a number as programs do, in the ten digits of ASCII; a digit of another script is
all that can make a difference (`number_outcome`).
-/
import Enrolment.Proofs.Form.Number
import Enrolment.Proofs.Form.Pattern

namespace Enrolment.Rule

open Text Numeral

/-- Whether a rule decides every text, and accepts the texts of a language. -/
def Decides (rule : Rule) (language : List Char → Prop) : Prop :=
  ∀ v : String, ∃ accepted, rule.passes (.str v) = .ok accepted ∧
    (accepted = true ↔ language (strip v.toList))

theorem decides_of_accepts {rule : Rule} {check : List Char → Bool} {language : List Char → Prop}
    (haccepts : ∀ s, rule.accepts s = .ok (check s)) (hcheck : ∀ s, check s = true ↔ language s) :
    rule.Decides language :=
  fun v => ⟨check (strip v.toList), haccepts _, hcheck _⟩

variable {s : List Char}

/-! ### Addresses -/

/-- Whether a point stands in a text, and is neither its first nor its last character. -/
def HasPointInside (s : List Char) : Prop :=
  ∃ i, 0 < i ∧ i + 1 < s.length ∧ s[i]? = some '.'

/-- Whether a text is an email address, as the rule has it. -/
structure IsEmailText (s : List Char) : Prop where
  no_blank : ∀ c ∈ s, isAsciiBlank c = false
  one_sign : s.count '@' = 1
  parts : ∃ account host, s = account ++ '@' :: host ∧ account ≠ [] ∧ HasPointInside host

theorem hasPointInside_iff :
    HasPointInside s ↔ ∃ front back, s = front ++ '.' :: back ∧ front ≠ [] ∧ back ≠ [] := by
  constructor
  · rintro ⟨i, hfirst, hlast, hpoint⟩
    obtain ⟨hi, hpoint⟩ := List.getElem?_eq_some_iff.1 hpoint
    refine ⟨s.take i, s.drop (i + 1), ?_, ?_, ?_⟩
    · rw [← hpoint, List.getElem_cons_drop, List.take_append_drop]
    · exact List.ne_nil_of_length_pos (by rw [List.length_take]; omega)
    · exact List.ne_nil_of_length_pos (by rw [List.length_drop]; omega)
  · rintro ⟨front, back, rfl, hfront, hback⟩
    have hfirst := List.length_pos_of_ne_nil hfront
    have hlast := List.length_pos_of_ne_nil hback
    refine ⟨front.length, hfirst, ?_, by simp⟩
    rw [List.length_append, List.length_cons]
    omega

/-- One at sign has none on either side. -/
theorem count_at_iff {account host : List Char} :
    (account ++ '@' :: host).count '@' = 1 ↔ '@' ∉ account ∧ '@' ∉ host := by
  rw [List.count_append, List.count_cons_self, ← List.count_eq_zero, ← List.count_eq_zero]
  omega

theorem isEmail_iff_isEmailText : isEmail isAsciiBlank s = true ↔ IsEmailText s := by
  rw [isEmail_iff]
  constructor
  · rintro ⟨hblank, account, host, domain, rfl, ⟨haccount, hhost, hdomain⟩, hat, hhostAt,
      hdomainAt⟩
    refine ⟨hblank, count_at_iff.2 ⟨hat, ?_⟩, account, _, rfl, haccount,
      hasPointInside_iff.2 ⟨host, domain, rfl, hhost, hdomain⟩⟩
    simp [hhostAt, hdomainAt]
  · rintro ⟨hblank, hcount, account, _, rfl, haccount, hpoint⟩
    obtain ⟨host, domain, rfl, hhost, hdomain⟩ := hasPointInside_iff.1 hpoint
    obtain ⟨hat, hbehind⟩ := count_at_iff.1 hcount
    rw [List.mem_append, List.mem_cons, not_or, not_or] at hbehind
    exact ⟨hblank, account, host, domain, rfl, ⟨haccount, hhost, hdomain⟩, hat, hbehind.1,
      hbehind.2.2⟩

/-! ### Phone numbers, passwords and postal codes -/

/-- Whether a text is a phone number, as the rule has it. -/
structure IsPhoneText (s : List Char) : Prop where
  long : 7 ≤ s.length
  marks : ∀ c ∈ s, isAsciiDigit c = true ∨ c = '+' ∨ c = '-' ∨ c = '(' ∨ c = ')' ∨
    isAsciiBlank c = true

/-- Whether a text is a password, as the rule has it. -/
structure IsPasswordText (s : List Char) : Prop where
  long : 7 ≤ s.length
  one_line : '\n' ∉ s
  letter : ∃ c ∈ s, isAsciiLetter c = true
  digit : ∃ c ∈ s, isAsciiDigit c = true

/-- Whether a text is a postal code, as the rule has it. -/
structure IsPostalText (s : List Char) : Prop where
  long : 3 ≤ s.length
  short : s.length ≤ 12
  marks : ∀ c ∈ s, isAsciiLetter c = true ∨ isAsciiDigit c = true ∨ c = ' ' ∨ c = '-'

theorem isPhone_iff : isPhone s = true ↔ IsPhoneText s := by
  have hmark : ∀ c, (isAsciiDigit c || ['-', '+', '(', ')'].contains c || isAsciiBlank c) = true ↔
      isAsciiDigit c = true ∨ c = '+' ∨ c = '-' ∨ c = '(' ∨ c = ')' ∨ isAsciiBlank c = true := by
    intro c
    simp [or_assoc, or_left_comm]
  unfold isPhone
  rw [Bool.and_eq_true, decide_eq_true_eq, List.all_eq_true]
  simp only [hmark]
  exact ⟨fun h => ⟨h.1, h.2⟩, fun h => ⟨h.long, h.marks⟩⟩

theorem isPassword_iff : isPassword s = true ↔ IsPasswordText s := by
  unfold isPassword
  simp only [Bool.and_eq_true, decide_eq_true_eq, Bool.not_eq_true', List.contains_eq_mem,
    decide_eq_false_iff_not, List.any_eq_true]
  exact ⟨fun h => ⟨h.1.1.1, h.1.1.2, h.1.2, h.2⟩,
    fun h => ⟨⟨⟨h.long, h.one_line⟩, h.letter⟩, h.digit⟩⟩

theorem isPostal_iff : isPostal s = true ↔ IsPostalText s := by
  unfold isPostal
  simp only [Bool.and_eq_true, decide_eq_true_eq, List.all_eq_true, Bool.or_eq_true, or_assoc]
  exact ⟨fun h => ⟨h.1.1, h.1.2, h.2⟩, fun h => ⟨⟨h.long, h.short⟩, h.marks⟩⟩

/-- **The rules with a pattern decide the languages of their names, which are what the patterns
look for.** The pattern is the one whose notation the widget is given. -/
theorem patterned_rules_decide :
    email.Decides IsEmailText ∧ phone.Decides IsPhoneText ∧ password.Decides IsPasswordText ∧
    postal.Decides IsPostalText ∧
    ∀ rule expression, expression? rule = some expression →
      rule.pattern? = some (String.ofList expression.written) ∧
      ∀ v : String, rule.passes (.str v) =
        .ok (expression.occursIn (rule.prepared (strip v.toList))) := by
  refine ⟨?_, ?_, ?_, ?_, ?_⟩
  · exact decides_of_accepts (fun _ => rfl) fun _ => isEmail_iff_isEmailText
  · exact decides_of_accepts (fun _ => rfl) fun _ => isPhone_iff
  · exact decides_of_accepts (fun _ => rfl) fun _ => isPassword_iff
  · exact decides_of_accepts (fun _ => rfl) fun _ => isPostal_iff
  · intro rule expression h
    refine ⟨?_, fun v => accepts_eq_occursIn h (not_endsLine_strip _)⟩
    rw [pattern?_eq, h]
    rfl

/-! ### Numbers -/

/-- Whether a digit of another script than ASCII stands in a text. -/
def HasForeignDigit (s : List Char) : Prop :=
  ∃ c ∈ s, isDigit c = true ∧ isAsciiDigit c = false

theorem isLiteral_ascii_iff_not_foreign :
    IsLiteral isAsciiDigit s ↔ IsLiteral isDigit s ∧ ¬HasForeignDigit s := by
  rw [isLiteral_ascii_iff]
  unfold HasForeignDigit
  simp

/-- **The rule for numbers decides the numbers in digits of any script.** -/
theorem number_decides : number.Decides (IsLiteral isDigit) :=
  decides_of_accepts (fun _ => rfl) fun _ => isNumber_iff

/-- **A text is decided as programs read it, but for a number with a digit of another script.** The
numbers in the ten digits of ASCII are those that the rule accepts without a foreign digit, and
the rule goes wrong just where it accepts a number with one. -/
theorem number_outcome (v : String) :
    (∃ accepted, number.passes (.str v) = .ok accepted ∧
      (accepted = true ↔ IsLiteral isDigit (strip v.toList))) ∧
    (IsLiteral isAsciiDigit (strip v.toList) ↔
      number.passes (.str v) = .ok true ∧ ¬HasForeignDigit (strip v.toList)) ∧
    ((number.passes (.str v) = .ok true ↔ IsLiteral isAsciiDigit (strip v.toList)) ↔
      ¬(number.passes (.str v) = .ok true ∧ HasForeignDigit (strip v.toList))) := by
  obtain ⟨accepted, hpasses, haccepted⟩ := number_decides v
  have hliteral : number.passes (.str v) = .ok true ↔ IsLiteral isDigit (strip v.toList) := by
    rw [hpasses, Except.ok.injEq, haccepted]
  rw [hliteral, isLiteral_ascii_iff_not_foreign, iff_self_and, not_and]
  exact ⟨⟨accepted, hpasses, haccepted⟩, Iff.rfl, Iff.rfl⟩

/-- A number in an Arabic digit is accepted. -/
theorem arabic_digit_accepted :
    number.passes (.str "\u0663") = .ok true ∧ ¬IsLiteral isAsciiDigit (strip "\u0663".toList) := by
  refine ⟨rfl, ?_⟩
  rw [isLiteral_ascii_iff_not_foreign, not_and_not_right]
  intro
  exact ⟨'\u0663', by decide, by decide, by decide⟩

end Enrolment.Rule
