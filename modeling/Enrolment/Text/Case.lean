/-
Small and capital letters, and search that ignores case.

`lower` and `upper` are the full mappings: a capital sigma becomes the final form
at the end of a word, a dotted capital I keeps its dot, and a sharp s becomes two
capitals.  `caseless` is coarser and works on single characters: it sends all
letters that match one another when case is ignored to one representative, and
`occurs`, `endsWith` compare by it.
-/
import Enrolment.Text.CaseTable

namespace Enrolment.Text

/-- The small letter of an ASCII capital. -/
def asciiLower (c : Char) : Char :=
  if 'A' ≤ c && c ≤ 'Z' then Char.ofNat (c.toNat + 32) else c

/-- The capital of a small ASCII letter. -/
def asciiUpper (c : Char) : Char :=
  if 'a' ≤ c && c ≤ 'z' then Char.ofNat (c.toNat - 32) else c

/-- The small letter of a single character. -/
def lowerChar (c : Char) : Char :=
  if c.toNat < 128 then asciiLower c else partner smallRuns c

/-- The capital form of a single character, which may be several. -/
def upperChars (c : Char) : List Char :=
  if c.toNat < 128 then [asciiUpper c]
  else match capitalExpansions.lookup c.toNat with
    | some expansion => expansion.map Char.ofNat
    | none => [partner capitalRuns c]

/-- Whether a character takes part in the case of its word. -/
def isCased (c : Char) : Bool :=
  if c.toNat < 128 then ('A' ≤ c && c ≤ 'Z') || ('a' ≤ c && c ≤ 'z')
  else inRanges casedRanges c.toNat

/-- Whether a character is passed over when a word's case is looked at. -/
def isCaseIgnorable (c : Char) : Bool :=
  inRanges caseIgnorableRanges c.toNat

/-- Whether the first character that is not passed over has a case. -/
def meetsCased (s : List Char) : Bool :=
  match s.dropWhile isCaseIgnorable with
  | [] => false
  | c :: _ => isCased c

/-- The small form of a character between the characters before it, nearest first, and those
after it. -/
def lowerAt (before : List Char) (c : Char) (after : List Char) : List Char :=
  if c = 'Σ' then
    if meetsCased before && !meetsCased after then ['ς'] else ['σ']
  else if c = 'İ' then ['i', '\u0307']
  else [lowerChar c]

/-- The small form of a text that continues `before`. -/
def lowerFrom (before : List Char) : List Char → List Char
  | [] => []
  | c :: rest => lowerAt before c rest ++ lowerFrom (c :: before) rest

/-- A text in small letters. -/
def lowerChars (s : List Char) : List Char :=
  lowerFrom [] s

/-- A string in small letters. -/
def lower (s : String) : String :=
  String.ofList (lowerChars s.toList)

/-- A string in capitals. -/
def upper (s : String) : String :=
  String.ofList (s.toList.flatMap upperChars)

@[simp] theorem toList_lower (s : String) : (lower s).toList = lowerChars s.toList := by
  simp [lower]

@[simp] theorem toList_upper (s : String) : (upper s).toList = s.toList.flatMap upperChars := by
  simp [upper]

/-- One representative for all characters that match when case is ignored. -/
def caseless (c : Char) : Char :=
  let small := lowerChar c
  if small.toNat < 128 then small
  else match caseVariants.lookup small.toNat with
    | some variant => Char.ofNat variant
    | none => small

/-- Whether a text ends with a word, case ignored. -/
def endsWith (word : List Char) (s : List Char) : Bool :=
  (word.map caseless).isSuffixOf (s.map caseless)

/-- Whether `p` holds of the text or of one of its ends. -/
def anyTail (p : List Char → Bool) : List Char → Bool
  | [] => p []
  | c :: rest => p (c :: rest) || anyTail p rest

/-- Whether a word stands in a text, case ignored. -/
def occurs (word : List Char) (s : List Char) : Bool :=
  anyTail (word.map caseless).isPrefixOf (s.map caseless)

/-- Whether a word stands in a string, case ignored. -/
def mentions (s : String) (word : String) : Bool :=
  occurs word.toList s.toList

end Enrolment.Text
