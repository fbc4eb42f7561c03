/-
The rules that typed answers are checked by.

The widget checks an answer by a rule's pattern, or by its own means where there is
none; `accepts` is the same decision made on the stripped text.  Only the URL rule
can fail to decide, on a text that is malformed as a URL.  No rule depends on the
case of letters, so the letters stay as they are even where the widget lowers them.
-/
import Enrolment.Json.Text
import Enrolment.Text.Case
import Enrolment.Text.Email
import Enrolment.Url.Split

namespace Enrolment

/-- A rule for typed answers. -/
inductive Rule where
  | email | url | number | phone | password | postal
deriving DecidableEq

namespace Rule

/-- The name of a rule. -/
def name : Rule → String
  | email => "email"
  | url => "url"
  | number => "number"
  | phone => "phone"
  | password => "password"
  | postal => "postal"

/-- All rules. -/
def all : List Rule :=
  [email, url, number, phone, password, postal]

/-- The rule of a name. -/
def ofName? (s : String) : Option Rule :=
  all.find? (·.name = s)

/-- What is shown for an answer that a rule rejects. -/
def message : Rule → String
  | email => "Enter a valid email"
  | url => "Enter a valid URL"
  | number => "Enter a valid number"
  | phone => "Enter a valid phone"
  | password => "Password must be 7+ chars and include letters and numbers"
  | postal => "Enter a valid postal code"

/-- The pattern that the widget matches, for the rules that have one. -/
def pattern? : Rule → Option String
  | email => some "^[^\\s@]+@[^\\s@]+\\.[^\\s@]+$"
  | phone => some "^[0-9\\-+()\\s]\x7b7,\x7d$"
  | password => some "^(?=.*[A-Za-z])(?=.*\\d).\x7b7,\x7d$"
  | postal => some "^[A-Za-z0-9 \\-]\x7b3,12\x7d$"
  | url | number => none

/-- Whether the widget lowers the letters of an answer before matching. -/
def lowersLetters (rule : Rule) : Bool :=
  rule = email

/-- The wire form of a rule. -/
def toWire (rule : Rule) : Json :=
  .obj [("pattern", .ofText? rule.pattern?), ("message", .str rule.message),
    ("lowercase", .bool rule.lowersLetters)]

/-! ### Numbers -/

/-- Whether a text is a number's exponent, or empty. -/
def isExponent (s : List Char) : Bool :=
  match s with
  | [] => true
  | c :: rest =>
    let digits := (Numeral.sign rest).2
    (c = 'e' || c = 'E') && !digits.isEmpty && digits.all Text.isDigit

/-- Whether a text is digits with at most one point among them, and perhaps an exponent. -/
def isDecimal (s : List Char) : Bool :=
  let whole := s.takeWhile Text.isDigit
  match s.dropWhile Text.isDigit with
  | '.' :: rest =>
    (!whole.isEmpty || !(rest.takeWhile Text.isDigit).isEmpty) &&
      isExponent (rest.dropWhile Text.isDigit)
  | rest => !whole.isEmpty && isExponent rest

/-- Whether a text is a mark for a base and at least one digit of that base. -/
def isRadixInteger (s : List Char) : Bool :=
  match s with
  | '0' :: base :: digits =>
    !digits.isEmpty &&
      if base = 'x' || base = 'X' then digits.all Text.isHexDigit
      else if base = 'b' || base = 'B' then digits.all fun c => c = '0' || c = '1'
      else if base = 'o' || base = 'O' then digits.all fun c => '0' ≤ c && c ≤ '7'
      else false
  | _ => false

/-- Whether a text is a number: a signed decimal or infinity, or an integer in base sixteen, two or
eight. -/
def isNumber (s : List Char) : Bool :=
  let size := (Numeral.sign s).2
  isDecimal size || size = "Infinity".toList || isRadixInteger s

/-! ### The other rules -/

/-- Whether a text is at least seven digits, marks of phone numbers and ASCII blanks. -/
def isPhone (s : List Char) : Bool :=
  7 ≤ s.length && s.all fun c =>
    Text.isAsciiDigit c || ['-', '+', '(', ')'].contains c || Text.isAsciiBlank c

/-- Whether a text is at least seven characters on one line, with an ASCII letter and an ASCII
digit. -/
def isPassword (s : List Char) : Bool :=
  7 ≤ s.length && !s.contains '\n' && s.any Text.isAsciiLetter && s.any Text.isAsciiDigit

/-- Whether a text is three to twelve ASCII letters, digits, spaces and hyphens. -/
def isPostal (s : List Char) : Bool :=
  3 ≤ s.length && s.length ≤ 12 && s.all fun c =>
    Text.isAsciiLetter c || Text.isAsciiDigit c || c = ' ' || c = '-'

/-- Whether a rule accepts a text without blanks at its ends. -/
def accepts (rule : Rule) (s : List Char) : Except Url.Malformed Bool :=
  match rule with
  | email => .ok (Text.isEmail Text.isAsciiBlank s)
  | url => Url.isComplete s
  | number => .ok (isNumber s)
  | phone => .ok (isPhone s)
  | password => .ok (isPassword s)
  | postal => .ok (isPostal s)

/-- Whether a rule accepts an answer. -/
def passes (rule : Rule) (answer : Json) : Except Url.Malformed Bool :=
  rule.accepts (Text.strip answer.textOrEmpty.toList)

end Rule

/-- Why a named rule gives no decision. -/
inductive RuleError where
  | unknown (name : String)
  | malformed (cause : Url.Malformed)

/-- The message of a rule that gives no decision. -/
def RuleError.message : RuleError → String
  | unknown name => Text.Quoted.render name
  | malformed cause => cause.message

/-- Whether the rule of a name accepts an answer. -/
def Rule.passesNamed (name : String) (answer : Json) : Except RuleError Bool :=
  match Rule.ofName? name with
  | some rule => (rule.passes answer).mapError .malformed
  | none => .error (.unknown name)

end Enrolment
