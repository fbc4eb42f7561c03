/-
How the settings of a form are read from whatever value was given for them.

Readers are lenient: each takes any JSON value and falls back to "not set".  Two
numbers are refused all the same, because nothing near them can stand in: an
infinity where an integer is asked for, and an integer beyond the range of
binary64 where a number is.
-/
import Enrolment.Json.Text
import Enrolment.Text.Case

namespace Enrolment

/-- A number that a setting cannot hold. -/
inductive Overflow where
  | infiniteInteger
  | integerTooLarge
deriving DecidableEq

/-- The message of an overflow. -/
def Overflow.message : Overflow → String
  | infiniteInteger => "cannot convert float infinity to integer"
  | integerTooLarge => "int too large to convert to float"

namespace Setting

/-- A word from a fixed list: no blanks around it, in small letters; empty if not set. -/
def word (value : Json) : String :=
  Text.lower (Text.trim value.textIfTruthy)

/-- A style: text that is not empty. -/
def style? (value : Json) : Option String :=
  value.caption?.filter (· ≠ "")

/-- A switch: a string is on if it says so, any other value if it is truthy. -/
def flag : Json → Bool
  | .str s => ["true", "1", "yes", "on"].contains (Text.lower (Text.trim s))
  | value => value.isTruthy

/-- An integer: a number is cut toward zero and a numeral is read. -/
def integer? : Json → Except Overflow (Option Int)
  | .int n => .ok (some n)
  | .num (.infinite _) => .error .infiniteInteger
  | .num x => .ok x.truncate?
  | .str s => .ok (Numeral.integer? s.toList)
  | _ => .ok none

/-- A size in bytes: an integer, or a truth value as one or zero. -/
def size? : Json → Except Overflow (Option Int)
  | .bool value => .ok (some (if value then 1 else 0))
  | value => integer? value

/-- A number: an integer is rounded and a numeral is read. -/
def number? : Json → Except Overflow (Option Binary64)
  | .int n => match Binary64.ofInt? n with
    | some x => .ok (some x)
    | none => .error .integerTooLarge
  | .num x => .ok (some x)
  | .str s => .ok (Numeral.binary64? s.toList)
  | _ => .ok none

/-- Reads a member that may be missing; a missing one is not set. -/
def optional {α : Type} (read : Json → Except Overflow (Option α)) :
    Option Json → Except Overflow (Option α)
  | none => .ok none
  | some value => read value

end Setting

end Enrolment
