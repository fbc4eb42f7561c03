/-
Blank characters and the two cuts they make in a text.

A character is blank when it has the White_Space property or is one of the four
information separators.  `strip` drops blanks from both ends and `words` keeps
the longest runs without a blank.  Both work on characters; `trim` and `squeeze`
are the same on strings.
-/

namespace Enrolment.Text

/-- White space of any script, and the separators U+001C to U+001F. -/
def isBlank (c : Char) : Bool :=
  let n := c.toNat
  (9 ≤ n && n ≤ 13) || (28 ≤ n && n ≤ 32) || n == 0x85 || n == 0xA0 || n == 0x1680 ||
    (0x2000 ≤ n && n ≤ 0x200A) || n == 0x2028 || n == 0x2029 || n == 0x202F || n == 0x205F ||
    n == 0x3000

/-- The six blanks of ASCII: tab, line feed, vertical tab, form feed, return, space. -/
def isAsciiBlank (c : Char) : Bool :=
  let n := c.toNat
  (9 ≤ n && n ≤ 13) || n == 32

theorem isBlank_of_isAsciiBlank {c : Char} (h : isAsciiBlank c = true) : isBlank c = true := by
  unfold isAsciiBlank at h
  unfold isBlank
  simp only [Bool.or_eq_true, Bool.and_eq_true, decide_eq_true_eq, beq_iff_eq] at h ⊢
  omega

/-- Drops the characters of a class from the end. -/
def dropEnd (p : Char → Bool) (s : List Char) : List Char :=
  (s.reverse.dropWhile p).reverse

/-- Drops blanks from both ends. -/
def strip (s : List Char) : List Char :=
  dropEnd isBlank (s.dropWhile isBlank)

/-- The pieces between the characters of a class; there is one more piece than such characters. -/
def cut (p : Char → Bool) : List Char → List (List Char)
  | [] => [[]]
  | c :: rest =>
    if p c then [] :: cut p rest
    else match cut p rest with
      | [] => [[c]]
      | piece :: pieces => (c :: piece) :: pieces

/-- The longest runs without a blank, in order. -/
def words (s : List Char) : List (List Char) :=
  (cut isBlank s).filter (· ≠ [])

/-- A string without the blanks at its ends. -/
def trim (s : String) : String :=
  String.ofList (strip s.toList)

/-- A string's words with one space between neighbours. -/
def squeeze (s : String) : String :=
  String.ofList ([' '].intercalate (words s.toList))

/-- Whether a string has no character but blanks. -/
def isBlankText (s : String) : Bool :=
  s.toList.all isBlank

@[simp] theorem toList_trim (s : String) : (trim s).toList = strip s.toList := by
  simp [trim]

@[simp] theorem toList_squeeze (s : String) :
    (squeeze s).toList = [' '].intercalate (words s.toList) := by
  simp [squeeze]

end Enrolment.Text
