/-
Patterns that texts are matched with.

A pattern is a row of steps: the start of the text, its end, a run of characters of a class with
bounds on its length, and a look at what comes next.  `written` is its usual notation, and
`occursIn` tries all places to begin and all lengths of all runs, so it finds a match if there
is one in whatever order they are tried.  Classes know ASCII only.  As usual, a dot stands for
anything but a line break, and the end may be in front of a last line break; a text that does
not end in one (`EndsLine`), such as a text without blanks at its end, makes no use of that.
-/
import Enrolment.Proofs.Text.Email
import Enrolment.Proofs.Text.Padding
import Enrolment.Text.Digit

namespace Enrolment.Text

/-! ### Patterns -/

namespace Pattern

/-- A part of a class of characters. -/
inductive Item where
  | one (c : Char)
  | range (first last : Char)
  | blank
  | digit

/-- A class of characters. -/
inductive Kind where
  | any
  | only (item : Item)
  | oneOf (items : List Item)
  | noneOf (items : List Item)

end Pattern

/-- A pattern. -/
inductive Pattern where
  /-- Nothing more has to match. -/
  | done
  /-- The text starts here. -/
  | start (rest : Pattern)
  /-- The text ends here. -/
  | finish (rest : Pattern)
  /-- A run of characters, at least and at most so many. -/
  | run (kind : Pattern.Kind) (least : Nat) (most : Option Nat) (rest : Pattern)
  /-- Something matches here, and then the rest does. -/
  | ahead (look rest : Pattern)

namespace Pattern

/-- Whether a character is one of a part's. -/
def Item.covers : Item → Char → Bool
  | one d, c => c = d
  | range first last, c => first ≤ c && c ≤ last
  | blank, c => isAsciiBlank c
  | digit, c => isAsciiDigit c

/-- Whether a character is of a class. -/
def Kind.covers : Kind → Char → Bool
  | any, c => c ≠ '\n'
  | only item, c => item.covers c
  | oneOf items, c => items.any (·.covers c)
  | noneOf items, c => !items.any (·.covers c)

/-- Whether a pattern matches what is left of a text, or some of it from the front on; nothing has
been left out if this is the start of the text. -/
def matchesAt : Pattern → Bool → List Char → Bool
  | done, _, _ => true
  | start rest, atStart, s => atStart && rest.matchesAt atStart s
  | finish rest, atStart, s => (s = [] || s = ['\n']) && rest.matchesAt atStart s
  | run kind least most rest, atStart, s => (List.range (s.length + 1)).any fun n =>
      least ≤ n && most.all (n ≤ ·) && (s.take n).all kind.covers &&
        rest.matchesAt (atStart && n = 0) (s.drop n)
  | ahead look rest, atStart, s => look.matchesAt atStart s && rest.matchesAt atStart s

/-- Whether a pattern matches somewhere in a text. -/
def occursIn (pattern : Pattern) (s : List Char) : Bool :=
  (List.range (s.length + 1)).any fun n => pattern.matchesAt (n = 0) (s.drop n)

/-! ### Their notation -/

/-- A part of a class with a backslash in front of characters that mean something else there. -/
def Item.written (special : List Char) : Item → List Char
  | one c => if special.contains c then ['\\', c] else [c]
  | range first last => [first, '-', last]
  | blank => "\\s".toList
  | digit => "\\d".toList

/-- A class in its notation. -/
def Kind.written : Kind → List Char
  | any => ['.']
  | only item => item.written ".+*?|^$()[]\x7b\x7d\\".toList
  | oneOf items => '[' :: items.flatMap (·.written "^-]\\".toList) ++ [']']
  | noneOf items => '[' :: '^' :: items.flatMap (·.written "^-]\\".toList) ++ [']']

/-- The bounds on a run in their notation. -/
def writtenBounds : Nat → Option Nat → List Char
  | 1, some 1 => []
  | 0, none => ['*']
  | 1, none => ['+']
  | least, none => '\x7b' :: Nat.toDigits 10 least ++ [',', '\x7d']
  | least, some most => '\x7b' :: Nat.toDigits 10 least ++ ',' :: Nat.toDigits 10 most ++ ['\x7d']

/-- A pattern in its notation. -/
def written : Pattern → List Char
  | done => []
  | start rest => '^' :: rest.written
  | finish rest => '$' :: rest.written
  | run kind least most rest => kind.written ++ writtenBounds least most ++ rest.written
  | ahead look rest => "(?=".toList ++ look.written ++ ')' :: rest.written

/-! ### Matches, step by step -/

variable {kind : Kind} {least : Nat} {most : Option Nat} {rest : Pattern} {atStart : Bool}
  {s : List Char}

@[simp] theorem matchesAt_done (atStart : Bool) (s : List Char) :
    done.matchesAt atStart s = true :=
  rfl

/-- A pattern that begins at the start of a text is looked for there only. -/
theorem occursIn_start (rest : Pattern) (s : List Char) :
    (start rest).occursIn s = rest.matchesAt true s := by
  unfold occursIn
  rw [Bool.eq_iff_iff, List.any_eq_true]
  simp only [matchesAt, List.mem_range, Bool.and_eq_true, decide_eq_true_eq]
  constructor
  · rintro ⟨n, -, rfl, hrest⟩
    simpa using hrest
  · intro h
    exact ⟨0, by omega, rfl, by simpa using h⟩

/-- A look goes no further. -/
theorem matchesAt_ahead_iff {look : Pattern} :
    (ahead look rest).matchesAt atStart s = true ↔
      look.matchesAt atStart s = true ∧ rest.matchesAt atStart s = true := by
  rw [matchesAt, Bool.and_eq_true]

/-- A run may be any piece in front, within its bounds. -/
theorem matchesAt_run_iff :
    (run kind least most rest).matchesAt atStart s = true ↔
      ∃ front back, s = front ++ back ∧
        (least ≤ front.length ∧ ∀ bound ∈ most, front.length ≤ bound) ∧
        (∀ c ∈ front, kind.covers c = true) ∧
        rest.matchesAt (atStart && front.isEmpty) back = true := by
  simp only [matchesAt, List.any_eq_true, List.mem_range, Bool.and_eq_true, decide_eq_true_eq,
    Option.all_eq_true, List.all_eq_true]
  constructor
  · rintro ⟨n, hn, ⟨⟨hleast, hmost⟩, hall⟩, hrest⟩
    have hlength : (s.take n).length = n := List.length_take_of_le (by omega)
    have hempty : (s.take n).isEmpty = decide (n = 0) := by
      rw [Bool.eq_iff_iff, List.isEmpty_iff_length_eq_zero, hlength, decide_eq_true_eq]
    refine ⟨s.take n, s.drop n, (List.take_append_drop n s).symm, ?_, hall, ?_⟩
    · rw [hlength]
      exact ⟨hleast, hmost⟩
    · rw [hempty]
      exact hrest
  · rintro ⟨front, back, rfl, ⟨hleast, hmost⟩, hall, hrest⟩
    refine ⟨front.length, by rw [List.length_append]; omega, ⟨⟨hleast, hmost⟩, ?_⟩, ?_⟩
    · rw [List.take_left]
      exact hall
    · rw [List.drop_left]
      cases front <;> simpa using hrest

/-- A single character is the first one that is left. -/
theorem matchesAt_one_iff :
    (run kind 1 (some 1) rest).matchesAt atStart s = true ↔
      ∃ c back, s = c :: back ∧ kind.covers c = true ∧ rest.matchesAt false back = true := by
  rw [matchesAt_run_iff]
  constructor
  · rintro ⟨front, back, rfl, ⟨hleast, hmost⟩, hall, hrest⟩
    obtain ⟨c, rfl⟩ := List.length_eq_one_iff.1 (Nat.le_antisymm (hmost 1 rfl) hleast)
    exact ⟨c, back, rfl, hall c (by simp), by simpa using hrest⟩
  · rintro ⟨c, back, rfl, hc, hrest⟩
    exact ⟨[c], back, rfl, by simp, by simpa using hc, by simpa using hrest⟩

/-- Whether a text ends in a line break. -/
def EndsLine (s : List Char) : Prop :=
  ∃ front, s = front ++ ['\n']

/-- The last run goes on to the end of a text that ends in no line break; in front of a last one it
may stop. -/
theorem matchesAt_last_iff (h : ¬EndsLine s) :
    (run kind least most (finish done)).matchesAt atStart s = true ↔
      (least ≤ s.length ∧ ∀ bound ∈ most, s.length ≤ bound) ∧ ∀ c ∈ s, kind.covers c = true := by
  rw [matchesAt_run_iff]
  simp only [matchesAt, Bool.and_true, Bool.or_eq_true, decide_eq_true_eq]
  constructor
  · rintro ⟨front, back, rfl, hbounds, hall, rfl | rfl⟩
    · rw [List.append_nil]
      exact ⟨hbounds, hall⟩
    · exact absurd ⟨front, rfl⟩ h
  · rintro ⟨hbounds, hall⟩
    exact ⟨s, [], by simp, hbounds, hall, .inl rfl⟩

example : (start (run (.only .digit) 1 none (finish done))).occursIn ['7', '\n'] = true := by
  decide

theorem forall_covers_any : (∀ c ∈ s, Kind.any.covers c = true) ↔ '\n' ∉ s := by
  simp only [Kind.covers, decide_eq_true_eq]
  constructor
  · intro h hline
    exact h '\n' hline rfl
  · rintro hline c hc rfl
    exact hline hc

/-- In a text of one line, some character is found behind whatever is in front of it. -/
theorem matchesAt_behind_iff (h : '\n' ∉ s) :
    (run .any 0 none (run kind 1 (some 1) done)).matchesAt atStart s = true ↔
      ∃ c ∈ s, kind.covers c = true := by
  rw [matchesAt_run_iff]
  simp only [matchesAt_one_iff, matchesAt_done, and_true]
  constructor
  · rintro ⟨front, _, rfl, -, -, c, back, rfl, hc⟩
    exact ⟨c, by simp, hc⟩
  · rintro ⟨c, hmem, hc⟩
    obtain ⟨front, back, rfl⟩ := List.append_of_mem hmem
    refine ⟨front, c :: back, rfl, by simp, forall_covers_any.2 ?_, c, back, rfl, hc⟩
    intro hline
    exact h (List.mem_append_left _ hline)

/-! ### Texts that end in no line break -/

theorem EndsLine.append (h : EndsLine s) (front : List Char) : EndsLine (front ++ s) := by
  obtain ⟨more, rfl⟩ := h
  exact ⟨front ++ more, by simp⟩

end Pattern

open Pattern

/-- Nothing is left at the end of a stripped text that could be cut off. -/
theorem not_endsLine_strip (s : List Char) : ¬EndsLine (strip s) := by
  rintro ⟨front, hfront⟩
  have hbreak : ∀ c ∈ ['\n'], isBlank c = true := List.forall_mem_singleton.2 (by decide)
  have hcut : strip (front ++ ['\n']) = strip front :=
    strip_between (List.forall_mem_nil _) front hbreak
  have hshort : (strip front).length ≤ front.length := by
    obtain ⟨before, after, hsplit, -⟩ := strip_between_blanks front
    have hlength := congrArg List.length hsplit
    simp only [List.length_append] at hlength
    omega
  have hlength := congrArg List.length ((strip_strip s).symm.trans (congrArg strip hfront))
  rw [hcut, hfront, List.length_append, List.length_singleton] at hlength
  omega

/-- And the small form of a text ends in a line break only if the text does. -/
theorem endsLine_of_lowerChars {s : List Char} (h : EndsLine (lowerChars s)) : EndsLine s := by
  obtain ⟨front, hfront⟩ := h
  have hkeeps : KeepsMarks s (front ++ '\n' :: []) := by
    rw [← hfront]
    exact keepsMarks_lowerFrom [] s
  obtain ⟨front', back', rfl, -, hback⟩ := hkeeps.cut_back (by decide)
  exact ⟨front', by rw [hback.eq_nil_iff.1 rfl]⟩

end Enrolment.Text
