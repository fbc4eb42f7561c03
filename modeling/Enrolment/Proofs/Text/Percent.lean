/-
Percent coding read back.

A component is made of plain characters and of escapes, and nothing plain is escaped in it
(`IsComponent`).  A percent sign is not plain, so what is written for one byte cannot be taken for
anything else, and the bytes are read back one after the other.

So components and bytes go together one to one: a component that reads back as given bytes is
what is written for them (`isComponent_and_decode_iff`).  What is written for a text are its
bytes in UTF-8, and they are no other text's (`isComponent_and_text?_iff`).
-/
import Enrolment.Proofs.Text.Basic
import Enrolment.Text.Percent

namespace Enrolment.Text.Percent

/-- Whether a character is a letter or a digit of ASCII, or one of nine marks. -/
def IsPlain (c : Char) : Prop :=
  ('A' ≤ c ∧ c ≤ 'Z') ∨ ('a' ≤ c ∧ c ≤ 'z') ∨ ('0' ≤ c ∧ c ≤ '9') ∨ c ∈ "-_.!~*'()".toList

instance (c : Char) : Decidable (IsPlain c) :=
  inferInstanceAs (Decidable (_ ∨ _))

/-- Whether a text is made of plain characters and of escapes of two capital hexadecimal digits,
none of which stands for a plain character. -/
inductive IsComponent : List Char → Prop
  | nil : IsComponent []
  | plain {c : Char} {rest : List Char} (hplain : IsPlain c) (hrest : IsComponent rest) :
      IsComponent (c :: rest)
  | escape {high low : Nat} {rest : List Char} (hhigh : high < 16) (hlow : low < 16)
      (hescaped : ¬IsPlain (Char.ofNat (16 * high + low))) (hrest : IsComponent rest) :
      IsComponent ('%' :: capitalHexDigit high :: capitalHexDigit low :: rest)

/-- The text whose bytes in UTF-8 a written form reads back as. -/
def text? (s : List Char) : Option String :=
  (decode s).bind fun bytes =>
    (ByteArray.utf8Decode? ⟨bytes.toArray⟩).map fun chars => String.ofList chars.toList

/-! ### One byte -/

theorem isUnreserved_iff {c : Char} : isUnreserved c = true ↔ IsPlain c := by
  have hmarks : "-_.!~*'()".toList = ['-', '_', '.', '!', '~', '*', '\'', '(', ')'] := by decide
  rw [IsPlain, hmarks]
  simp only [isUnreserved, isAsciiLetter, isAsciiDigit, Bool.or_eq_true, Bool.and_eq_true,
    decide_eq_true_eq, List.contains_iff_mem, or_assoc]

/-- A plain character is one of ASCII. -/
theorem IsPlain.toNat_lt {c : Char} (h : IsPlain c) : c.toNat < 128 := by
  have hmarks : "-_.!~*'()".toList.all (·.toNat < 128) = true := by decide
  rcases h with ⟨-, hc⟩ | ⟨-, hc⟩ | ⟨-, hc⟩ | hc
  · exact lt_of_le_of_lt hc (by decide)
  · exact lt_of_le_of_lt hc (by decide)
  · exact lt_of_le_of_lt hc (by decide)
  · simpa using List.all_eq_true.1 hmarks c hc

/-- And it begins no escape. -/
theorem IsPlain.ne_percent {c : Char} (h : IsPlain c) : c ≠ '%' := by
  rintro rfl
  revert h
  decide

theorem hexDigit?_capitalHexDigit {n : Nat} (h : n < 16) :
    hexDigit? (capitalHexDigit n) = some n := by
  have key : ∀ m : Fin 16, hexDigit? (capitalHexDigit m) = some m.val := by decide
  exact key ⟨n, h⟩

theorem decode_plain {c : Char} (h : IsPlain c) (rest : List Char) :
    decode (c :: rest) = (decode rest).map (UInt8.ofNat c.toNat :: ·) := by
  have hascii := h.toNat_lt
  rw [decode]
  · rw [if_neg]
    simp [h.ne_percent]
    omega
  · intro _ _ _ hc
    exact absurd hc h.ne_percent

theorem decode_escape {high low : Nat} (hhigh : high < 16) (hlow : low < 16) (rest : List Char) :
    decode ('%' :: capitalHexDigit high :: capitalHexDigit low :: rest) =
      (decode rest).map (UInt8.ofNat (16 * high + low) :: ·) := by
  rw [decode, hexDigit?_capitalHexDigit hhigh, hexDigit?_capitalHexDigit hlow]
  cases decode rest <;> rfl

theorem encodeByte_plain {c : Char} (h : IsPlain c) : encodeByte (UInt8.ofNat c.toNat) = [c] := by
  have hcode : (UInt8.ofNat c.toNat).toNat = c.toNat :=
    UInt8.toNat_ofNat_of_lt (Nat.lt_trans h.toNat_lt (by decide))
  unfold encodeByte
  simp only [hcode, Char.ofNat_toNat, isUnreserved_iff.2 h, if_true]

theorem encodeByte_escape {high low : Nat} (hhigh : high < 16) (hlow : low < 16)
    (h : ¬IsPlain (Char.ofNat (16 * high + low))) :
    encodeByte (UInt8.ofNat (16 * high + low)) =
      ['%', capitalHexDigit high, capitalHexDigit low] := by
  have hcode : (UInt8.ofNat (16 * high + low)).toNat = 16 * high + low :=
    UInt8.toNat_ofNat_of_lt (by show _ < 256; omega)
  have hfirst : (16 * high + low) / 16 = high := by omega
  have hsecond : (16 * high + low) % 16 = low := by omega
  unfold encodeByte
  simp only [hcode, isUnreserved_iff, if_neg h, hfirst, hsecond]

/-- What is written for a byte is a plain character or an escape. -/
theorem encodeByte_cases (b : UInt8) :
    (∃ c, IsPlain c ∧ b = UInt8.ofNat c.toNat ∧ encodeByte b = [c]) ∨
    ∃ high low, high < 16 ∧ low < 16 ∧ ¬IsPlain (Char.ofNat (16 * high + low)) ∧
      b = UInt8.ofNat (16 * high + low) ∧
      encodeByte b = ['%', capitalHexDigit high, capitalHexDigit low] := by
  have hb : b.toNat < 256 := b.toNat_lt
  by_cases hplain : IsPlain (Char.ofNat b.toNat)
  · -- The character of a byte has the code of the byte, since this is below the surrogates.
    have hbyte : b = UInt8.ofNat (Char.ofNat b.toNat).toNat := by
      rw [toNat_ofNat (.inl (by omega)), UInt8.ofNat_toNat]
    have hwritten := encodeByte_plain hplain
    rw [← hbyte] at hwritten
    exact .inl ⟨_, hplain, hbyte, hwritten⟩
  · have hhigh : b.toNat / 16 < 16 := by omega
    have hlow : b.toNat % 16 < 16 := by omega
    have hparts : 16 * (b.toNat / 16) + b.toNat % 16 = b.toNat := Nat.div_add_mod _ _
    have hbyte : b = UInt8.ofNat (16 * (b.toNat / 16) + b.toNat % 16) := by
      rw [hparts, UInt8.ofNat_toNat]
    rw [← hparts] at hplain
    have hwritten := encodeByte_escape hhigh hlow hplain
    rw [← hbyte] at hwritten
    exact .inr ⟨_, _, hhigh, hlow, hplain, hbyte, hwritten⟩

/-! ### Bytes -/

/-- Bytes are written as a component. -/
theorem isComponent_flatMap (bytes : List UInt8) : IsComponent (bytes.flatMap encodeByte) := by
  induction bytes with
  | nil => exact .nil
  | cons b rest ih =>
      rw [List.flatMap_cons]
      rcases encodeByte_cases b with ⟨c, hplain, -, hb⟩ | ⟨_, _, hhigh, hlow, hescaped, -, hb⟩
      · rw [hb]
        exact .plain hplain ih
      · rw [hb]
        exact .escape hhigh hlow hescaped ih

/-- And they are read back. -/
theorem decode_flatMap (bytes : List UInt8) : decode (bytes.flatMap encodeByte) = some bytes := by
  induction bytes with
  | nil => rfl
  | cons b rest ih =>
      rw [List.flatMap_cons]
      rcases encodeByte_cases b with ⟨c, hplain, hcode, hb⟩ | ⟨_, _, hhigh, hlow, -, hcode, hb⟩
      · rw [hb, List.singleton_append, decode_plain hplain, ih, ← hcode, Option.map_some]
      · rw [hb, List.cons_append, List.cons_append, List.singleton_append,
          decode_escape hhigh hlow, ih, ← hcode, Option.map_some]

/-- A component is what is written for the bytes that it reads back as. -/
theorem IsComponent.eq_of_decode {s : List Char} (h : IsComponent s) {bytes : List UInt8}
    (hread : decode s = some bytes) : s = bytes.flatMap encodeByte := by
  induction h generalizing bytes with
  | nil =>
      obtain rfl : [] = bytes := Option.some.inj hread
      rfl
  | plain hplain _ ih =>
      rw [decode_plain hplain] at hread
      obtain ⟨others, hothers, rfl⟩ := Option.map_eq_some_iff.1 hread
      rw [List.flatMap_cons, encodeByte_plain hplain, ← ih hothers, List.singleton_append]
  | escape hhigh hlow hescaped _ ih =>
      rw [decode_escape hhigh hlow] at hread
      obtain ⟨others, hothers, rfl⟩ := Option.map_eq_some_iff.1 hread
      rw [List.flatMap_cons, encodeByte_escape hhigh hlow hescaped, ← ih hothers]
      rfl

theorem isComponent_and_decode_iff {s : List Char} {bytes : List UInt8} :
    IsComponent s ∧ decode s = some bytes ↔ s = bytes.flatMap encodeByte := by
  constructor
  · rintro ⟨hcomponent, hread⟩
    exact hcomponent.eq_of_decode hread
  · rintro rfl
    exact ⟨isComponent_flatMap bytes, decode_flatMap bytes⟩

/-! ### Texts -/

/-- Bytes are read as characters just if they are the bytes of these characters. -/
theorem utf8Decode?_eq_some_iff {bytes : ByteArray} {chars : Array Char} :
    bytes.utf8Decode? = some chars ↔ bytes = chars.toList.utf8Encode := by
  constructor
  · intro h
    have hsome : bytes.utf8Decode?.isSome := by rw [h]; rfl
    have hbytes := ByteArray.utf8Encode_get_utf8Decode? (b := bytes) (h := hsome)
    simpa only [h, Option.get_some] using hbytes.symm
  · rintro rfl
    rw [List.utf8Decode?_utf8Encode, Array.toArray_toList]

theorem text?_eq_some_iff {s : List Char} {text : String} :
    text? s = some text ↔ decode s = some text.toUTF8.data.toList := by
  have hbytes : text.toUTF8 = text.toList.utf8Encode := String.utf8Encode_toList.symm
  simp only [text?, Option.bind_eq_some_iff, Option.map_eq_some_iff, utf8Decode?_eq_some_iff]
  constructor
  · rintro ⟨bytes, hread, chars, hchars, rfl⟩
    rw [hread, hbytes, String.toList_ofList, ← hchars]
  · intro hread
    refine ⟨_, hread, text.toList.toArray, ?_, String.ofList_toList⟩
    rw [Array.toArray_toList, hbytes]

/-- **A component that reads back as a text is what is written for this text.** -/
theorem isComponent_and_text?_iff {s : List Char} {text : String} :
    IsComponent s ∧ text? s = some text ↔ s = encode text := by
  rw [text?_eq_some_iff, isComponent_and_decode_iff, encode]

theorem text?_encode (text : String) : text? (encode text) = some text :=
  (isComponent_and_text?_iff.2 rfl).2

theorem encode_inj {text other : String} : encode text = encode other ↔ text = other := by
  constructor
  · intro h
    have hread := text?_encode text
    rw [h, text?_encode other] at hread
    exact (Option.some.inj hread).symm
  · intro h
    rw [h]

end Enrolment.Text.Percent
