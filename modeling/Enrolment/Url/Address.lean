/-
Numeric host addresses, as far as it matters whether a text is one.

An IPv4 address is four decimal bytes.  An IPv6 address is eight groups of up to
four hexadecimal digits, of which one run of zeros may be left out as `::` and the
last two may be written as an IPv4 address; a zone may follow a percent sign.
-/
import Enrolment.Text.Blank
import Enrolment.Text.Digit

namespace Enrolment.Url

/-- A decimal byte without zeros in front. -/
def isByte (s : List Char) : Bool :=
  !s.isEmpty && s.all Text.isAsciiDigit && s.length ≤ 3 &&
    (s = ['0'] || s.head? ≠ some '0') &&
    s.foldl (fun n c => 10 * n + (c.toNat - 48)) 0 ≤ 255

/-- Whether a text is an IPv4 address. -/
def isV4 (s : List Char) : Bool :=
  let parts := Text.cut (· = '.') s
  parts.length = 4 && parts.all isByte

/-- One to four hexadecimal digits. -/
def isGroup (s : List Char) : Bool :=
  !s.isEmpty && s.length ≤ 4 && s.all Text.isHexDigit

/-- The groups of an IPv6 address, with a last part in IPv4 form replaced by two groups. -/
def groups? (s : List Char) : Option (List (List Char)) :=
  let parts := Text.cut (· = ':') s
  match parts.getLast? with
  | some last =>
    if parts.length < 3 then none
    else if last.contains '.' then
      if isV4 last then some (parts.dropLast ++ [['0'], ['0']]) else none
    else some parts
  | none => none

/-- The parts on one side of `::`; an end of the address may touch it. -/
def side (parts : List (List Char)) : List (List Char) :=
  if parts = [[]] then [] else parts

/-- Whether parts between colons make up the 128 bits of an address. -/
def fills (parts : List (List Char)) : Bool :=
  let before := parts.take 1 ++ (parts.drop 1).takeWhile (· ≠ [])
  let after := (parts.drop 1).dropWhile (· ≠ [])
  match after with
  | [] | [_] => parts.length = 8 && parts.all isGroup
  | _ :: after =>
    let before := side before
    let after := side after
    before.all isGroup && after.all isGroup && before.length + after.length ≤ 7

/-- Whether a text is an IPv6 address, perhaps with a zone. -/
def isV6 (s : List Char) : Bool :=
  let address := s.takeWhile (· ≠ '%')
  let zone := s.dropWhile (· ≠ '%')
  let zoneIsFine := match zone with
    | [] => true
    | _ :: name => !name.isEmpty && !name.contains '%'
  !s.contains '/' && zoneIsFine && match groups? address with
    | some parts => fills parts
    | none => false

/-- Whether a text names an address of a future version: `v`, hexadecimal digits, a point and
something behind it. -/
def isFuture (s : List Char) : Bool :=
  match s with
  | 'v' :: rest =>
    !(rest.takeWhile Text.isHexDigit).isEmpty &&
      match rest.dropWhile Text.isHexDigit with
      | '.' :: tail => !tail.isEmpty && !tail.contains '\n'
      | _ => false
  | _ => false

end Enrolment.Url
