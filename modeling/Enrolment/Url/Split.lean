/-
The parts of a URL.

Controls and spaces in front are dropped, and tabs and line breaks anywhere.  A
scheme ends at the first colon, an authority stands between `//` and the next
slash, question mark or number sign, and the path ends at the query or the
fragment.  Only an authority can be malformed: by its brackets, or by a character
whose compatibility form has a delimiter in it.
-/
import Enrolment.Text.Case
import Enrolment.Text.Quoted
import Enrolment.Url.Address

namespace Enrolment.Url

/-- Why a text has no parts as a URL. -/
inductive Malformed where
  | brackets
  | futureAddress
  | notAnAddress (host : String)
  | bracketedV4
  | hiddenDelimiter (authority : String)

/-- The message of a malformed URL. -/
def Malformed.message : Malformed → String
  | brackets => "Invalid IPv6 URL"
  | futureAddress => "IPvFuture address is invalid"
  | notAnAddress host =>
    Text.Quoted.render host ++ " does not appear to be an IPv4 or IPv6 address"
  | bracketedV4 => "An IPv4 address cannot be in brackets"
  | hiddenDelimiter authority =>
    "netloc '" ++ authority ++ "' contains invalid characters under NFKC normalization"

/-- Scheme (in small letters), authority and path; each may be empty. -/
structure Parts where
  scheme : List Char
  authority : List Char
  path : List Char

/-- What is left of a text when its blanks in front and its line breaks are dropped. -/
def clean (s : List Char) : List Char :=
  (s.dropWhile (·.toNat ≤ 32)).filter fun c => !(c = '\t' || c = '\r' || c = '\n')

/-- The characters of a scheme. -/
def isSchemeChar (c : Char) : Bool :=
  Text.isAsciiLetter c || Text.isAsciiDigit c || c = '+' || c = '-' || c = '.'

/-- The scheme in small letters, and what follows its colon; no scheme if the text before the
first colon is not one. -/
def splitScheme (s : List Char) : List Char × List Char :=
  match s.takeWhile (· ≠ ':'), s.dropWhile (· ≠ ':') with
  | first :: more, ':' :: rest =>
    if Text.isAsciiLetter first && more.all isSchemeChar then
      ((first :: more).map Text.asciiLower, rest)
    else ([], s)
  | _, _ => ([], s)

/-- Whether a character ends an authority. -/
def endsAuthority (c : Char) : Bool :=
  c = '/' || c = '?' || c = '#'

/-- The authority behind `//`, and what follows it. -/
def splitAuthority (s : List Char) : List Char × List Char :=
  match s with
  | '/' :: '/' :: rest =>
    (rest.takeWhile (!endsAuthority ·), rest.dropWhile (!endsAuthority ·))
  | _ => ([], s)

/-- Checks a host that brackets were used for. -/
def checkHost (host : List Char) : Except Malformed Unit :=
  if host.head? = some 'v' then
    if isFuture host then .ok () else .error .futureAddress
  else if isV4 host then .error .bracketedV4
  else if isV6 host then .ok ()
  else .error (.notAnAddress (String.ofList host))

/-- Checks the brackets of an authority: they surround the whole host, and the host is an IPv6
address.  This is the newer check of authorities; older ones accept text around the brackets. -/
def checkBrackets (authority : List Char) : Except Malformed Unit :=
  if authority.contains '[' != authority.contains ']' then .error .brackets
  else if authority.contains '[' then
    let place := (Text.cut (· = '@') authority).getLast?.getD []
    match place.takeWhile (· ≠ '['), place.dropWhile (· ≠ '[') with
    | before, _ :: bracketed =>
      if !before.isEmpty then .error .brackets
      else
        let port := (bracketed.dropWhile (· ≠ ']')).drop 1
        if !port.isEmpty && port.head? ≠ some ':' then .error .brackets
        else checkHost (bracketed.takeWhile (· ≠ ']'))
    | _, [] => checkHost (place.takeWhile (· ≠ ':'))
  else .ok ()

/-- The characters whose compatibility form contains a slash, a question mark, a number sign, an
at sign or a colon. -/
def delimiterForms : List Nat := [
    0x2047, 0x2048, 0x2049, 0x2100, 0x2101, 0x2105, 0x2106, 0x2A74, 0xFE13, 0xFE16, 0xFE55,
    0xFE56, 0xFE5F, 0xFE6B, 0xFF03, 0xFF0F, 0xFF1A, 0xFF1F, 0xFF20]

/-- Checks that no character of an authority stands for a delimiter. -/
def checkCharacters (authority : List Char) : Except Malformed Unit :=
  if authority.any fun c => delimiterForms.contains c.toNat then
    .error (.hiddenDelimiter (String.ofList authority))
  else .ok ()

/-- The parts of a URL. -/
def split (s : List Char) : Except Malformed Parts := do
  let (scheme, rest) := splitScheme (clean s)
  let (authority, rest) := splitAuthority rest
  checkBrackets authority
  checkCharacters authority
  return { scheme, authority, path := rest.takeWhile fun c => !(c = '?' || c = '#') }

/-- Whether a text is a URL with a scheme and something behind it, and has no blanks. -/
def isComplete (s : List Char) : Except Malformed Bool :=
  if s.any Text.isBlank then .ok false
  else (split s).map fun parts =>
    !parts.scheme.isEmpty && (!parts.authority.isEmpty || !parts.path.isEmpty)

/-- Whether a text is a web address: its scheme is `http` or `https` and it has an authority. -/
def isWeb (s : String) : Except Malformed Bool :=
  (split s.toList).map fun parts =>
    (parts.scheme = "http".toList || parts.scheme = "https".toList) && !parts.authority.isEmpty

end Enrolment.Url
