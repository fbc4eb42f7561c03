/-
A written string reads back as itself.

The reader decides what an escape means by looking at up to twelve characters at
once: `\u` and four digits stand for a character of their own unless they are the
first half of a surrogate pair, and then the second half has to follow.  What makes
reading invert writing is that `writeChar` never leaves half a pair behind, so the
reader takes off one whole written character per step whatever comes after it.
`readChars_writeChar` is that step.

The two forms that keep a script inert, `<\/` and `<\u0021--`, are read by the same
steps: they are only other spellings of the characters they stand for.
-/
import Enrolment.Json.Reader
import Enrolment.Json.Writer

namespace Enrolment.Json

open Text (hexDigit hexDigits hexDigit?)

/-! ### Hexadecimal digits -/

theorem hexDigit?_hexDigit {n : Nat} (h : n < 16) : hexDigit? (hexDigit n) = some n := by
  have key : ∀ m : Fin 16, hexDigit? (hexDigit m) = some m.val := by decide
  exact key ⟨n, h⟩

theorem hexDigits_four (n : Nat) :
    hexDigits 4 n = [hexDigit (n / 16 / 16 / 16 % 16), hexDigit (n / 16 / 16 % 16),
      hexDigit (n / 16 % 16), hexDigit (n % 16)] := by
  simp [hexDigits]

/-- Four written digits spell the unit they were written for. -/
theorem unit?_hexDigits {n : Nat} (h : n < 0x10000) :
    unit? (hexDigit (n / 16 / 16 / 16 % 16)) (hexDigit (n / 16 / 16 % 16))
      (hexDigit (n / 16 % 16)) (hexDigit (n % 16)) = some n := by
  have hmod : ∀ m : Nat, m % 16 < 16 := fun m => Nat.mod_lt m (by decide)
  simp only [unit?, hexDigit?_hexDigit (hmod _), Option.bind_eq_bind, Option.bind_some,
    Option.some.injEq]
  omega

/-! ### Code points -/

/-- A code point is below the surrogates or above them. -/
theorem toNat_not_surrogate (c : Char) : c.toNat < 0xD800 ∨ 0xE000 ≤ c.toNat := by
  rcases c.valid with h | h
  · exact Or.inl h
  · exact Or.inr (Nat.succ_le_of_lt h.1)

theorem toNat_lt (c : Char) : c.toNat < 0x110000 := by
  rcases c.valid with h | h
  · exact Nat.lt_trans h (by decide)
  · exact h.2

theorem plainUnit?_toNat (c : Char) : plainUnit? c.toNat = some c := by
  have hs := toNat_not_surrogate c
  have hc : (decide (0xD800 ≤ c.toNat) && decide (c.toNat < 0xE000)) = false := by
    simp only [Bool.and_eq_false_iff, decide_eq_false_iff_not]
    omega
  simp [plainUnit?, hc, Char.ofNat_toNat]

/-- The two surrogates of a code point beyond the first plane stand for it. -/
theorem surrogatePair?_toNat {c : Char} (h : 0x10000 ≤ c.toNat) :
    surrogatePair? (0xD800 + (c.toNat - 0x10000) / 0x400)
      (0xDC00 + (c.toNat - 0x10000) % 0x400) = some c := by
  have hlt := toNat_lt c
  have hc : 0x10000 + (0xD800 + (c.toNat - 0x10000) / 0x400 - 0xD800) * 0x400
      + (0xDC00 + (c.toNat - 0x10000) % 0x400 - 0xDC00) = c.toNat := by omega
  have hin : 0xD800 ≤ 0xD800 + (c.toNat - 0x10000) / 0x400 ∧
      0xD800 + (c.toNat - 0x10000) / 0x400 < 0xDC00 ∧
      0xDC00 ≤ 0xDC00 + (c.toNat - 0x10000) % 0x400 ∧
      0xDC00 + (c.toNat - 0x10000) % 0x400 < 0xE000 := by omega
  unfold surrogatePair?
  rw [hc, Char.ofNat_toNat]
  simp [hin.1, hin.2.1, hin.2.2.1, hin.2.2.2]

/-! ### The forms of a written character

`writeChar` is a long chain of tests.  All that later proofs need of it is that it
ends in one of four forms, and what is known of the character in each.
-/

/-- The characters from the space to the tilde. -/
def IsPrintable (c : Char) : Prop :=
  32 ≤ c.toNat ∧ c.toNat ≤ 126

instance (c : Char) : Decidable (IsPrintable c) :=
  inferInstanceAs (Decidable (_ ∧ _))

/-- The marks that stand for a character behind a backslash. -/
def marks : List Char :=
  ['"', '\\', 'n', 'r', 't', 'b', 'f']

/-- How a character can be written: by a mark, as itself, or by the escapes of its units. -/
inductive Written (c : Char) : List Char → Prop where
  | mark {m : Char} (hm : m ∈ marks) (h : escaped? m = some c) : Written c ['\\', m]
  | plain (hquote : c ≠ '"') (hslash : c ≠ '\\') (h : IsPrintable c) : Written c [c]
  | unit (h : c.toNat < 0x10000) : Written c (writeUnit c.toNat)
  | pair (h : 0x10000 ≤ c.toNat) :
      Written c (writeUnit (0xD800 + (c.toNat - 0x10000) / 0x400) ++
        writeUnit (0xDC00 + (c.toNat - 0x10000) % 0x400))

theorem written_writeChar (c : Char) : Written c (writeChar c) := by
  unfold writeChar
  by_cases hquote : c = '"'
  · rw [if_pos hquote, hquote]
    exact .mark (by simp [marks]) rfl
  rw [if_neg hquote]
  by_cases hslash : c = '\\'
  · rw [if_pos hslash, hslash]
    exact .mark (by simp [marks]) rfl
  rw [if_neg hslash]
  by_cases hline : c = '\n'
  · rw [if_pos hline, hline]
    exact .mark (by simp [marks]) rfl
  rw [if_neg hline]
  by_cases hreturn : c = '\r'
  · rw [if_pos hreturn, hreturn]
    exact .mark (by simp [marks]) rfl
  rw [if_neg hreturn]
  by_cases htab : c = '\t'
  · rw [if_pos htab, htab]
    exact .mark (by simp [marks]) rfl
  rw [if_neg htab]
  by_cases hback : c = '\x08'
  · rw [if_pos hback, hback]
    exact .mark (by simp [marks]) rfl
  rw [if_neg hback]
  by_cases hfeed : c = '\x0c'
  · rw [if_pos hfeed, hfeed]
    exact .mark (by simp [marks]) rfl
  rw [if_neg hfeed]
  by_cases hprint : (32 ≤ c.toNat && c.toNat < 127) = true
  · rw [if_pos hprint]
    rw [Bool.and_eq_true, decide_eq_true_eq, decide_eq_true_eq] at hprint
    exact .plain hquote hslash ⟨hprint.1, Nat.le_of_lt_succ hprint.2⟩
  rw [if_neg hprint]
  by_cases hplane : c.toNat < 0x10000
  · rw [if_pos hplane]
    exact .unit hplane
  · rw [if_neg hplane]
    exact .pair (Nat.le_of_not_lt hplane)

/-! ### Reading one written character -/

/-- A unit that is no surrogate is read as its character, whatever follows. -/
theorem readChars_writeUnit {c : Char} (h : c.toNat < 0x10000) (rest : List Char) :
    readChars (writeUnit c.toNat ++ rest) = push c (readChars rest) := by
  have hunit := unit?_hexDigits h
  simp only [writeUnit, hexDigits_four, List.cons_append, List.nil_append]
  rw [readChars.eq_def]
  split
  · simp_all
  · simp_all
  · -- Another escape follows: it is looked at only if the first one is a surrogate.
    rename_i heq
    simp only [List.cons.injEq, true_and] at heq
    obtain ⟨rfl, rfl, rfl, rfl, rfl⟩ := heq
    rw [hunit]
    simp [plainUnit?_toNat]
  · rename_i heq
    simp only [List.cons.injEq, true_and] at heq
    obtain ⟨rfl, rfl, rfl, rfl, rfl⟩ := heq
    simp [hunit, plainUnit?_toNat]
  · rename_i hno heq
    simp only [List.cons.injEq, true_and] at heq
    exact absurd heq.2.symm (hno _ _ _ _ _ heq.1.symm)
  · rename_i hno heq
    simp only [List.cons.injEq] at heq
    exact absurd heq.2.symm (hno _ _ heq.1.symm)

theorem readChars_units (a b c d e f g h : Char) (rest : List Char) :
    readChars ('\\' :: 'u' :: a :: b :: c :: d :: '\\' :: 'u' :: e :: f :: g :: h :: rest) =
      match unit? a b c d with
      | none => none
      | some high =>
        match plainUnit? high with
        | some char => push char (readChars ('\\' :: 'u' :: e :: f :: g :: h :: rest))
        | none =>
          match (unit? e f g h).bind (surrogatePair? high) with
          | some char => push char (readChars rest)
          | none => none :=
  rfl

/-- Two units that are a pair of surrogates are read as the one character they stand for. -/
theorem readChars_pair {high low : Nat} {c : Char} (hhigh : high < 0x10000) (hlow : low < 0x10000)
    (hnot : plainUnit? high = none) (hpair : surrogatePair? high low = some c)
    (rest : List Char) :
    readChars (writeUnit high ++ (writeUnit low ++ rest)) = push c (readChars rest) := by
  simp only [writeUnit, hexDigits_four, List.cons_append, List.nil_append]
  rw [readChars_units, unit?_hexDigits hhigh, unit?_hexDigits hlow]
  simp only [hnot, Option.bind_some, hpair]

theorem readChars_surrogates {c : Char} (h : 0x10000 ≤ c.toNat) (rest : List Char) :
    readChars (writeUnit (0xD800 + (c.toNat - 0x10000) / 0x400) ++
      (writeUnit (0xDC00 + (c.toNat - 0x10000) % 0x400) ++ rest)) = push c (readChars rest) := by
  have hlt := toNat_lt c
  refine readChars_pair (by omega) (by omega) ?_ (surrogatePair?_toNat h) rest
  have hin : 0xD800 + (c.toNat - 0x10000) / 0x400 < 0xE000 := by omega
  simp [plainUnit?, hin]

/-- An escape by a single mark is read as the character of the mark. -/
theorem readChars_mark {mark c : Char} (h : escaped? mark = some c) (rest : List Char) :
    readChars ('\\' :: mark :: rest) = push c (readChars rest) := by
  have hu : mark ≠ 'u' := by
    rintro rfl
    simp [escaped?] at h
  rw [readChars.eq_def]
  split
  · simp_all
  · simp_all
  · simp_all
  · simp_all
  · rename_i heq
    simp only [List.cons.injEq, true_and] at heq
    obtain ⟨rfl, rfl⟩ := heq
    simp [h]
  · rename_i hno heq
    simp only [List.cons.injEq] at heq
    exact absurd heq.2.symm (hno _ _ heq.1.symm)

/-- A character that needs no escape is read as itself. -/
theorem readChars_plain {c : Char} (hquote : c ≠ '"') (hslash : c ≠ '\\') (hlow : 32 ≤ c.toNat)
    (rest : List Char) : readChars (c :: rest) = push c (readChars rest) := by
  have hprint : ¬(decide (c = '\\') || decide (c.toNat < 32)) = true := by
    rw [Bool.or_eq_true, decide_eq_true_eq, decide_eq_true_eq, not_or]
    exact ⟨hslash, Nat.not_lt.2 hlow⟩
  rw [readChars.eq_def]
  split
  · simp_all
  · simp_all
  · simp_all
  · simp_all
  · simp_all
  · rename_i heq
    obtain ⟨rfl, rfl⟩ := List.cons.inj heq
    rw [if_neg hprint]

/-- **Each written character is read back, whatever follows.** -/
theorem readChars_written {c : Char} {form : List Char} (h : Written c form) (rest : List Char) :
    readChars (form ++ rest) = push c (readChars rest) := by
  cases h with
  | mark _ h => exact readChars_mark h rest
  | plain hquote hslash h => exact readChars_plain hquote hslash h.1 rest
  | unit h => exact readChars_writeUnit h rest
  | pair h =>
      rw [List.append_assoc]
      exact readChars_surrogates h rest

/-! ### A whole string -/

/-- **The body of a written string is read up to its closing quote, as the text it was written
for.** -/
theorem readChars_writeChars (s rest : List Char) :
    readChars (writeChars s ++ '"' :: rest) = some (s, rest) := by
  fun_induction writeChars s with
  | case1 s ih =>
      -- `</`, of which the slash is written as an escape
      simp only [List.cons_append]
      rw [readChars_plain (by decide) (by decide) (by decide),
        readChars_mark (c := '/') (by decide), ih]
      rfl
  | case2 s ih =>
      -- `<!--`, of which the exclamation mark is written as an escape
      have hmark := readChars_writeUnit (c := '!') (by decide)
      simp only [List.cons_append, List.append_assoc]
      rw [readChars_plain (by decide) (by decide) (by decide)]
      rw [show (0x21 : Nat) = '!'.toNat from rfl, hmark]
      rw [readChars_plain (by decide) (by decide) (by decide),
        readChars_plain (by decide) (by decide) (by decide), ih]
      rfl
  | case3 c s _ _ ih =>
      rw [List.append_assoc, readChars_written (written_writeChar c), ih]
      rfl
  | case4 => rfl

/-! ### Printable characters

Nothing that is written leaves ASCII or holds a control, so a written string is a
part of one line whatever it says.
-/

theorem isPrintable_hexDigit {n : Nat} (h : n < 16) : IsPrintable (hexDigit n) := by
  have key : ∀ m : Fin 16, IsPrintable (hexDigit m) := by decide
  exact key ⟨n, h⟩

theorem isPrintable_writeUnit (unit : Nat) : ∀ c ∈ writeUnit unit, IsPrintable c := by
  have hmod : ∀ m : Nat, m % 16 < 16 := fun m => Nat.mod_lt m (by decide)
  intro c hc
  simp only [writeUnit, hexDigits_four, List.mem_cons, List.not_mem_nil, or_false] at hc
  rcases hc with rfl | rfl | rfl | rfl | rfl | rfl
  · decide
  · decide
  all_goals exact isPrintable_hexDigit (hmod _)

theorem isPrintable_written {c : Char} {form : List Char} (h : Written c form) :
    ∀ d ∈ form, IsPrintable d := by
  have hmarks : ∀ m ∈ marks, IsPrintable m := by simp [marks, IsPrintable]
  intro d hd
  cases h with
  | mark hm _ =>
      rcases List.mem_cons.mp hd with rfl | hd
      · decide
      · rw [List.mem_singleton.mp hd]
        exact hmarks _ hm
  | plain _ _ h =>
      rw [List.mem_singleton.mp hd]
      exact h
  | unit _ => exact isPrintable_writeUnit _ d hd
  | pair _ =>
      rcases List.mem_append.mp hd with hd | hd
      · exact isPrintable_writeUnit _ d hd
      · exact isPrintable_writeUnit _ d hd

/-- The body of a written string is printable. -/
theorem isPrintable_writeChars (s : List Char) : ∀ d ∈ writeChars s, IsPrintable d := by
  fun_induction writeChars s with
  | case1 s ih =>
      simp only [List.forall_mem_cons]
      exact ⟨by decide, by decide, by decide, ih⟩
  | case2 s ih =>
      simp only [List.forall_mem_cons, List.forall_mem_append]
      exact ⟨by decide, isPrintable_writeUnit _, by decide, by decide, ih⟩
  | case3 c s _ _ ih =>
      rw [List.forall_mem_append]
      exact ⟨isPrintable_written (written_writeChar c), ih⟩
  | case4 => simp

theorem isPrintable_writeText (s : String) : ∀ d ∈ writeText s, IsPrintable d := by
  have hquote : IsPrintable '"' := by decide
  simp only [writeText, List.forall_mem_cons, List.forall_mem_append]
  exact ⟨hquote, isPrintable_writeChars _, hquote, by simp⟩

end Enrolment.Json
