/-
Reading inverts writing.

`Plain` values are those whose written form is a matter of characters alone: no
binary64 numbers, and no key twice in an object.  Everything the service embeds in a
script is of this kind.  For them `read?_write` says that nothing is lost.

The reader carries a bound on its depth and the writer does not, so the statement
that goes through an induction is about any depth beyond the length of the written
form: a value is longer than its parts by at least the brackets or the comma between
them, which is what each call of the reader costs.  The second thing it fixes is
what may follow a value.  A numeral ends only where no digit, point or exponent
follows, and the writer puts nothing but a comma or a closing bracket there.
-/
import Enrolment.Proofs.Json.Strings

namespace Enrolment.Json

/-- A value without binary64 numbers whose objects have no key twice. -/
inductive Plain : Json → Prop where
  | null : Plain null
  | bool (value : Bool) : Plain (bool value)
  | int (value : Int) : Plain (int value)
  | str (value : String) : Plain (str value)
  | arr {items : List Json} (h : ∀ item ∈ items, Plain item) : Plain (arr items)
  | obj {members : Members} (hkeys : (members.map Prod.fst).Nodup)
      (h : ∀ member ∈ members, Plain member.2) : Plain (obj members)

/-- What may follow a written value. -/
inductive Stops : List Char → Prop where
  | nil : Stops []
  | comma (rest : List Char) : Stops (',' :: rest)
  | bracket (rest : List Char) : Stops (']' :: rest)
  | brace (rest : List Char) : Stops ('\x7d' :: rest)

/-- The items of a written list, with commas between. -/
def writeItems (items : List Json) : List Char :=
  writeItemsWith writeText items

/-- The members of a written object, with commas between. -/
def writeMembers (members : Members) : List Char :=
  writeMembersWith writeText members

/-! ### Numerals -/

theorem isAsciiDigit_of_mem_toDigits {n : Nat} {c : Char} (h : c ∈ Nat.toDigits 10 n) :
    Text.isAsciiDigit c = true :=
  Nat.isDigit_of_mem_toDigits (by decide) (by decide) h

/-- The digits of a number have its value. -/
theorem value_toDigits (n : Nat) : Numeral.value (Nat.toDigits 10 n) = n :=
  Nat.ofDigitChars_ten_toDigits

/-- No two numbers have the same digits. -/
theorem toDigits_inj {m n : Nat} (h : Nat.toDigits 10 m = Nat.toDigits 10 n) : m = n := by
  rw [← value_toDigits m, h, value_toDigits]

theorem toList_toString (n : Nat) : (toString n).toList = Nat.toDigits 10 n := by
  show (Nat.repr n).toList = _
  rw [Nat.repr, String.toList_ofList]

theorem eq_of_toString_eq {m n : Nat} (h : toString m = toString n) : m = n := by
  rw [← String.toList_inj, toList_toString, toList_toString] at h
  exact toDigits_inj h

/-- Only the number zero begins with a zero. -/
theorem head?_toDigits_ne_zero {n : Nat} (h : 0 < n) :
    (Nat.toDigits 10 n).head? ≠ some '0' := by
  induction n using Nat.strongRecOn with
  | ind n ih =>
      rw [Nat.toDigits_eq_if (by decide)]
      by_cases hn : n < 10
      · have key : ∀ m : Fin 10, 0 < m.val → Nat.digitChar m ≠ '0' := by decide
        simpa [hn] using key ⟨n, hn⟩ h
      · obtain ⟨c, ds, hc⟩ :=
          List.exists_cons_of_ne_nil (Nat.toDigits_ne_nil (n := n / 10) (b := 10))
        have hhead := ih (n / 10) (by omega) (by omega)
        rw [hc] at hhead
        rw [if_neg hn, hc]
        exact hhead

theorem length_toDigits_of_head? {n : Nat} (h : (Nat.toDigits 10 n).head? = some '0') :
    (Nat.toDigits 10 n).length = 1 := by
  have hn : n = 0 := by
    rcases Nat.eq_zero_or_pos n with hz | hp
    · exact hz
    · exact absurd h (head?_toDigits_ne_zero hp)
  rw [hn]
  rfl

/-- The digits of a number are all that is taken off in front of a stop. -/
theorem spanDigits_toDigits (n : Nat) {rest : List Char} (h : Stops rest) :
    spanDigits (Nat.toDigits 10 n ++ rest) = (Nat.toDigits 10 n, rest) := by
  have hall : ∀ c ∈ Nat.toDigits 10 n, Text.isAsciiDigit c = true :=
    fun c hc => isAsciiDigit_of_mem_toDigits hc
  unfold spanDigits
  rw [List.takeWhile_append_of_pos hall, List.dropWhile_append_of_pos hall]
  cases h <;> simp [Text.isAsciiDigit]

theorem readSize_toDigits (negative : Bool) (n : Nat) {rest : List Char} (h : Stops rest) :
    readSize negative (Nat.toDigits 10 n ++ rest) =
      some (int (if negative then -(n : Int) else n), rest) := by
  have hzero : (Nat.toDigits 10 n).head? = some '0' → (Nat.toDigits 10 n).length = 1 :=
    length_toDigits_of_head?
  have hfraction : readFraction rest = (none, rest) := by cases h <;> rfl
  have hexponent : readExponent rest = (none, rest) := by cases h <;> rfl
  unfold readSize
  rw [spanDigits_toDigits n h]
  simp [hfraction, hexponent, value_toDigits]
  exact hzero

/-- The digits of a number begin with a digit. -/
theorem toDigits_eq_cons (n : Nat) :
    ∃ c ds, Nat.toDigits 10 n = c :: ds ∧ Text.isAsciiDigit c = true := by
  obtain ⟨c, ds, h⟩ := List.exists_cons_of_ne_nil (Nat.toDigits_ne_nil (n := n) (b := 10))
  exact ⟨c, ds, h, isAsciiDigit_of_mem_toDigits (by rw [h]; exact List.mem_cons_self)⟩

theorem ne_of_isAsciiDigit {c d : Char} (hc : Text.isAsciiDigit c = true)
    (hd : Text.isAsciiDigit d = false) : c ≠ d := by
  rintro rfl
  rw [hc] at hd
  exact Bool.noConfusion hd

/-- An integer is read back up to a stop. -/
theorem readNumber_ofInt (n : Int) {rest : List Char} (h : Stops rest) :
    readNumber (Numeral.ofInt n ++ rest) = some (int n, rest) := by
  obtain ⟨c, ds, hcons, hc⟩ := toDigits_eq_cons n.natAbs
  have hsize := fun negative => readSize_toDigits negative n.natAbs h
  rw [hcons] at hsize
  have hN : c ≠ 'N' := ne_of_isAsciiDigit hc rfl
  have hI : c ≠ 'I' := ne_of_isAsciiDigit hc rfl
  have hminus : c ≠ '-' := ne_of_isAsciiDigit hc rfl
  unfold Numeral.ofInt
  by_cases hn : n < 0
  · have hvalue : -(n.natAbs : Int) = n := by omega
    rw [if_pos hn, hcons, readNumber.eq_def]
    split
    · simp_all
    · simp_all
    · simp_all
    · rename_i heq
      simp only [List.cons_append, List.cons.injEq, true_and] at heq
      rw [← heq, ← List.cons_append, hsize true, if_pos rfl, hvalue]
    · rename_i hno
      exact absurd rfl (hno _)
  · have hvalue : (n.natAbs : Int) = n := by omega
    rw [if_neg hn, hcons, readNumber.eq_def]
    split
    · simp_all
    · simp_all
    · simp_all
    · simp_all
    · rw [hsize false, if_neg (by decide), hvalue]

/-- The numeral of a natural number is the number as text. -/
theorem toString_eq_ofInt (n : Nat) : toString n = String.ofList (Numeral.ofInt n) := by
  rw [Numeral.ofInt, if_neg (by omega), Int.natAbs_natCast]
  rfl

/-! ### The front of a written value -/

theorem write_arr (items : List Json) :
    write (arr items) = '[' :: (writeItems items ++ [']']) :=
  writeWith_arr writeText items

theorem write_obj (members : Members) :
    write (obj members) = '\x7b' :: (writeMembers members ++ ['\x7d']) :=
  writeWith_obj writeText members

theorem writeItems_singleton (item : Json) : writeItems [item] = write item :=
  writeItemsWith_singleton writeText item

theorem writeItems_cons_cons (item next : Json) (items : List Json) :
    writeItems (item :: next :: items) = write item ++ ',' :: writeItems (next :: items) :=
  writeItemsWith_cons_cons writeText item next items

theorem writeMembers_singleton (key : String) (value : Json) :
    writeMembers [(key, value)] = writeText key ++ ':' :: write value :=
  writeMembersWith_singleton writeText key value

theorem writeMembers_cons_cons (key : String) (value : Json) (next : String × Json)
    (members : Members) :
    writeMembers ((key, value) :: next :: members) =
      writeText key ++ ':' :: (write value ++ ',' :: writeMembers (next :: members)) :=
  writeMembersWith_cons_cons writeText key value next members

/-- The numeral of an integer is digits and perhaps a minus sign. -/
theorem mem_ofInt {n : Int} {c : Char} (h : c ∈ Numeral.ofInt n) :
    Text.isAsciiDigit c = true ∨ c = '-' := by
  unfold Numeral.ofInt at h
  by_cases hn : n < 0
  · rw [if_pos hn, List.mem_cons] at h
    rcases h with hminus | hdigit
    · exact Or.inr hminus
    · exact Or.inl (isAsciiDigit_of_mem_toDigits hdigit)
  · rw [if_neg hn] at h
    exact Or.inl (isAsciiDigit_of_mem_toDigits h)

theorem ofInt_eq_cons (n : Int) :
    ∃ c t, Numeral.ofInt n = c :: t ∧ (Text.isAsciiDigit c = true ∨ c = '-') := by
  obtain ⟨c, t, hcons⟩ : ∃ c t, Numeral.ofInt n = c :: t := by
    refine List.exists_cons_of_ne_nil ?_
    unfold Numeral.ofInt
    by_cases hn : n < 0
    · rw [if_pos hn]
      exact List.cons_ne_nil _ _
    · rw [if_neg hn]
      exact Nat.toDigits_ne_nil
  exact ⟨c, t, hcons, mem_ofInt (by rw [hcons]; exact List.mem_cons_self)⟩

/-- A written value begins with a character that is neither a blank nor a closing bracket. -/
theorem write_eq_cons {value : Json} (h : Plain value) :
    ∃ c t, write value = c :: t ∧ isSpace c = false ∧ c ≠ ']' := by
  cases h with
  | null => exact ⟨'n', _, writeWith_null _, rfl, by decide⟩
  | bool value =>
      cases value with
      | true => exact ⟨'t', _, writeWith_true _, rfl, by decide⟩
      | false => exact ⟨'f', _, writeWith_false _, rfl, by decide⟩
  | int n =>
      obtain ⟨c, t, hcons, hc⟩ := ofInt_eq_cons n
      rcases hc with hc | rfl
      · have hspace : isSpace c = false := by
          simp [isSpace, ne_of_isAsciiDigit hc (d := ' ') rfl, ne_of_isAsciiDigit hc (d := '\n') rfl,
            ne_of_isAsciiDigit hc (d := '\r') rfl, ne_of_isAsciiDigit hc (d := '\t') rfl]
        exact ⟨c, t, by rw [write, writeWith_int, hcons], hspace, ne_of_isAsciiDigit hc rfl⟩
      · exact ⟨'-', t, by rw [write, writeWith_int, hcons], rfl, by decide⟩
  | str s => exact ⟨'"', _, by rw [write, writeWith_str, writeText], rfl, by decide⟩
  | arr _ => exact ⟨'[', _, write_arr _, rfl, by decide⟩
  | obj _ _ => exact ⟨'\x7b', _, write_obj _, rfl, by decide⟩

theorem skip_cons {c : Char} (h : isSpace c = false) (s : List Char) : skip (c :: s) = c :: s := by
  simp [skip, h]

/-- No blank stands in front of a written value. -/
theorem skip_write {value : Json} (h : Plain value) (rest : List Char) :
    skip (write value ++ rest) = write value ++ rest := by
  obtain ⟨c, t, hcons, hspace, -⟩ := write_eq_cons h
  rw [hcons, List.cons_append, skip_cons hspace]

/-! ### One step of the reader -/

theorem readValue_quote (depth : Nat) (rest : List Char) :
    readValue (depth + 1) ('"' :: rest) =
      (readChars rest).map fun (body, rest) => (str (String.ofList body), rest) :=
  rfl

theorem readValue_bracket {depth : Nat} {c : Char} {rest after : List Char}
    (hskip : skip rest = c :: after) (hc : c ≠ ']') :
    readValue (depth + 1) ('[' :: rest) =
      (readItems depth (c :: after)).map fun (items, rest) => (arr items, rest) := by
  rw [readValue, hskip]
  split
  · rename_i heq
    exact absurd (List.cons.inj heq).1 hc
  · rfl

theorem readValue_brace {depth : Nat} {c : Char} {rest after : List Char}
    (hskip : skip rest = c :: after) (hc : c ≠ '\x7d') :
    readValue (depth + 1) ('\x7b' :: rest) =
      (readMembers depth [] (c :: after)).map fun (members, rest) => (obj members, rest) := by
  rw [readValue, hskip]
  split
  · rename_i heq
    exact absurd (List.cons.inj heq).1 hc
  · rfl

theorem readItems_succ (depth : Nat) (s : List Char) :
    readItems (depth + 1) s =
      match readValue depth (skip s) with
      | none => none
      | some (item, rest) =>
        match skip rest with
        | ',' :: rest => (readItems depth rest).map fun (items, rest) => (item :: items, rest)
        | ']' :: rest => some ([item], rest)
        | _ => none :=
  rfl

theorem readMembers_quote {depth : Nat} {s rest : List Char} (hskip : skip s = '"' :: rest)
    (members : Members) :
    readMembers (depth + 1) members s =
      match readChars rest with
      | none => none
      | some (key, rest) =>
        match skip rest with
        | ':' :: rest =>
          match readValue depth (skip rest) with
          | none => none
          | some (value, rest) =>
            let members := members.put (String.ofList key) value
            match skip rest with
            | ',' :: rest => readMembers depth members rest
            | '\x7d' :: rest => some (members, rest)
            | _ => none
        | _ => none := by
  rw [readMembers, hskip]
  rfl

/-! ### Values, items and members -/

/-- A value's written form is read back at every depth beyond its length, up to a stop. -/
def ReadsBack (value : Json) : Prop :=
  ∀ (depth : Nat) (rest : List Char), (write value).length < depth → Stops rest →
    readValue depth (write value ++ rest) = some (value, rest)

/-- There is no depth below the length of a written form, so there is a step to take. -/
theorem ReadsBack.of_step {value : Json}
    (h : ∀ (depth : Nat) (rest : List Char), (write value).length ≤ depth → Stops rest →
      readValue (depth + 1) (write value ++ rest) = some (value, rest)) : ReadsBack value := by
  intro depth rest hdepth hrest
  cases depth with
  | zero => exact absurd hdepth (Nat.not_lt_zero _)
  | succ depth => exact h depth rest (Nat.le_of_lt_succ hdepth) hrest

theorem readsBack_int (n : Int) : ReadsBack (int n) := by
  refine .of_step ?_
  intro depth rest hdepth hrest
  obtain ⟨c, t, hcons, hc⟩ := ofInt_eq_cons n
  have hread := readNumber_ofInt n hrest
  rw [write, writeWith_int]
  rw [hcons, List.cons_append] at hread ⊢
  have hne : ∀ d : Char, Text.isAsciiDigit d = false → d ≠ '-' → c ≠ d := by
    intro d hd hminus
    rcases hc with hc | rfl
    · exact ne_of_isAsciiDigit hc hd
    · exact hminus.symm
  have hn := hne 'n' rfl (by decide)
  have ht := hne 't' rfl (by decide)
  have hf := hne 'f' rfl (by decide)
  have hquote := hne '"' rfl (by decide)
  have hbracket := hne '[' rfl (by decide)
  have hbrace := hne '\x7b' rfl (by decide)
  rw [readValue]
  · exact hread
  all_goals simp_all

theorem readsBack_str (s : String) : ReadsBack (str s) := by
  refine .of_step ?_
  intro depth rest _ _
  rw [write, writeWith_str, writeText, List.cons_append, List.append_assoc, readValue_quote]
  simp only [List.cons_append, List.nil_append]
  rw [readChars_writeChars]
  simp

theorem readItems_write {items : List Json} (hne : items ≠ [])
    (hplain : ∀ item ∈ items, Plain item) (hback : ∀ item ∈ items, ReadsBack item) :
    ∀ (depth : Nat) (rest : List Char), (writeItems items).length + 1 < depth →
      readItems depth (writeItems items ++ ']' :: rest) = some (items, rest) := by
  induction items with
  | nil => exact absurd rfl hne
  | cons item items ih =>
      intro depth rest hdepth
      have hitem := hback item List.mem_cons_self
      have hfront := skip_write (hplain item List.mem_cons_self)
      cases depth with
      | zero => exact absurd hdepth (Nat.not_lt_zero _)
      | succ depth =>
          cases items with
          | nil =>
              rw [writeItems_singleton] at hdepth ⊢
              rw [readItems_succ, hfront, hitem depth _ (by omega) (.bracket rest)]
              simp only [skip_cons (show isSpace ']' = false from rfl)]
          | cons next items =>
              have hlater := ih (List.cons_ne_nil _ _)
                (fun other hm => hplain other (List.mem_cons_of_mem _ hm))
                (fun other hm => hback other (List.mem_cons_of_mem _ hm)) depth rest
              rw [writeItems_cons_cons] at hdepth ⊢
              simp only [List.length_append, List.length_cons] at hdepth
              rw [List.append_assoc, List.cons_append, readItems_succ, hfront,
                hitem depth _ (by omega) (.comma _)]
              simp only [skip_cons (show isSpace ',' = false from rfl)]
              rw [hlater (by omega)]
              rfl

theorem put_of_not_mem {members : Members} {key : String} (h : key ∉ members.map Prod.fst)
    (value : Json) : members.put key value = members ++ [(key, value)] := by
  induction members with
  | nil => rfl
  | cons member members ih =>
      rw [List.map_cons, List.mem_cons, not_or] at h
      rw [Members.put, if_neg (fun heq => h.1 heq.symm), ih h.2, List.cons_append]

/-- The key of a member is read up to its colon, and the value behind it. -/
theorem readMembers_write {members : Members} (hne : members ≠ [])
    (hplain : ∀ member ∈ members, Plain member.2)
    (hback : ∀ member ∈ members, ReadsBack member.2) :
    ∀ (depth : Nat) (before : Members) (rest : List Char),
      ((before ++ members).map Prod.fst).Nodup → (writeMembers members).length + 1 < depth →
      readMembers depth before (writeMembers members ++ '\x7d' :: rest) =
        some (before ++ members, rest) := by
  induction members with
  | nil => exact absurd rfl hne
  | cons member members ih =>
      obtain ⟨key, value⟩ := member
      intro depth before rest hkeys hdepth
      have hvalue : ReadsBack value := hback (key, value) List.mem_cons_self
      have hfront : ∀ s, skip (write value ++ s) = write value ++ s :=
        skip_write (hplain (key, value) List.mem_cons_self)
      have hquote := fun s => skip_cons (show isSpace '"' = false from rfl) s
      have hcolon := fun s => skip_cons (show isSpace ':' = false from rfl) s
      have hput : before.put key value = before ++ [(key, value)] := by
        refine put_of_not_mem ?_ value
        rw [List.map_append, List.nodup_append] at hkeys
        exact fun hmem => hkeys.2.2 key hmem key (by simp) rfl
      cases depth with
      | zero => exact absurd hdepth (Nat.not_lt_zero _)
      | succ depth =>
          cases members with
          | nil =>
              rw [writeMembers_singleton, writeText] at hdepth ⊢
              simp only [List.length_append, List.length_cons] at hdepth
              simp only [List.cons_append, List.append_assoc, List.nil_append]
              rw [readMembers_quote (hquote _)]
              simp only [readChars_writeChars, hcolon, hfront, String.ofList_toList]
              rw [hvalue depth _ (by omega) (.brace rest)]
              simp only [skip_cons (show isSpace '\x7d' = false from rfl), hput]
          | cons next members =>
              have hlater := ih (List.cons_ne_nil _ _)
                (fun other hm => hplain other (List.mem_cons_of_mem _ hm))
                (fun other hm => hback other (List.mem_cons_of_mem _ hm)) depth
                (before ++ [(key, value)]) rest (by simpa using hkeys)
              rw [writeMembers_cons_cons, writeText] at hdepth ⊢
              simp only [List.length_append, List.length_cons] at hdepth
              simp only [List.cons_append, List.append_assoc, List.nil_append]
              rw [readMembers_quote (hquote _)]
              simp only [readChars_writeChars, hcolon, hfront, String.ofList_toList]
              rw [hvalue depth _ (by omega) (.comma _)]
              simp only [skip_cons (show isSpace ',' = false from rfl), hput]
              rw [hlater (by omega)]
              simp

/-- What opens a list that is not empty is no closing bracket. -/
theorem writeItems_eq_cons {item : Json} (h : Plain item) (items : List Json) :
    ∃ c t, writeItems (item :: items) = c :: t ∧ isSpace c = false ∧ c ≠ ']' := by
  obtain ⟨c, t, hcons, hspace, hbracket⟩ := write_eq_cons h
  cases items with
  | nil => exact ⟨c, t, by rw [writeItems_singleton, hcons], hspace, hbracket⟩
  | cons next items =>
      exact ⟨c, _, by rw [writeItems_cons_cons, hcons, List.cons_append], hspace, hbracket⟩

theorem writeMembers_eq_cons (member : String × Json) (members : Members) :
    ∃ t, writeMembers (member :: members) = '"' :: t := by
  obtain ⟨key, value⟩ := member
  cases members with
  | nil => exact ⟨_, by rw [writeMembers_singleton, writeText, List.cons_append]⟩
  | cons next members =>
      exact ⟨_, by rw [writeMembers_cons_cons, writeText, List.cons_append]⟩

/-- Every plain value is read back from its written form. -/
theorem readsBack {value : Json} (h : Plain value) : ReadsBack value := by
  induction h with
  | null =>
      refine .of_step ?_
      intro depth rest _ _
      rfl
  | bool value =>
      refine .of_step ?_
      intro depth rest _ _
      cases value <;> rfl
  | int n => exact readsBack_int n
  | str s => exact readsBack_str s
  | @arr items hplain ih =>
      refine .of_step ?_
      intro depth rest hdepth _
      cases items with
      | nil => rfl
      | cons item items =>
          obtain ⟨c, t, hcons, hspace, hbracket⟩ :=
            writeItems_eq_cons (hplain item List.mem_cons_self) items
          have hitems := readItems_write (List.cons_ne_nil item items) hplain ih depth rest
          rw [write_arr] at hdepth ⊢
          simp only [List.length_cons, List.length_append, List.length_nil] at hdepth
          simp only [List.cons_append, List.append_assoc, List.nil_append]
          rw [hcons, List.cons_append] at hitems ⊢
          rw [readValue_bracket (skip_cons hspace _) hbracket,
            hitems (by rw [hcons] at hdepth; omega)]
          rfl
  | @obj members hkeys hplain ih =>
      refine .of_step ?_
      intro depth rest hdepth _
      cases members with
      | nil => rfl
      | cons member members =>
          obtain ⟨t, hcons⟩ := writeMembers_eq_cons member members
          have hmembers := readMembers_write (List.cons_ne_nil member members) hplain ih depth
            [] rest hkeys
          rw [write_obj] at hdepth ⊢
          simp only [List.length_cons, List.length_append, List.length_nil] at hdepth
          simp only [List.cons_append, List.append_assoc, List.nil_append]
          rw [hcons, List.cons_append] at hmembers ⊢
          rw [readValue_brace (skip_cons (show isSpace '"' = false from rfl) _) (by decide),
            hmembers (by rw [hcons] at hdepth; omega)]
          rfl

/-- **Reading inverts writing on plain values.** -/
theorem read?_write {value : Json} (h : Plain value) : read? (write value) = some value := by
  have hfront := skip_write h []
  have hback := readsBack h ((write value).length + 1) [] (Nat.lt_succ_self _) .nil
  rw [List.append_nil] at hfront hback
  unfold read?
  rw [hfront, hback]
  rfl

/-! ### Printable forms -/

theorem isPrintable_ofInt (n : Int) : ∀ c ∈ Numeral.ofInt n, IsPrintable c := by
  intro c hc
  rcases mem_ofInt hc with hdigit | rfl
  · simp only [Text.isAsciiDigit, Bool.and_eq_true, decide_eq_true_eq] at hdigit
    have hlow : 48 ≤ c.toNat := hdigit.1
    have hhigh : c.toNat ≤ 57 := hdigit.2
    exact ⟨by omega, by omega⟩
  · decide

theorem isPrintable_writeItems {items : List Json}
    (h : ∀ item ∈ items, ∀ c ∈ write item, IsPrintable c) :
    ∀ c ∈ writeItems items, IsPrintable c := by
  induction items with
  | nil => simp [writeItems, writeItemsWith]
  | cons item items ih =>
      rw [List.forall_mem_cons] at h
      cases items with
      | nil => rw [writeItems_singleton]; exact h.1
      | cons next items =>
          rw [writeItems_cons_cons, List.forall_mem_append, List.forall_mem_cons]
          exact ⟨h.1, by decide, ih h.2⟩

theorem isPrintable_writeMembers {members : Members}
    (h : ∀ member ∈ members, ∀ c ∈ write member.2, IsPrintable c) :
    ∀ c ∈ writeMembers members, IsPrintable c := by
  induction members with
  | nil => simp [writeMembers, writeMembersWith]
  | cons member members ih =>
      obtain ⟨key, value⟩ := member
      rw [List.forall_mem_cons] at h
      have hkey := isPrintable_writeText key
      cases members with
      | nil =>
          rw [writeMembers_singleton, List.forall_mem_append, List.forall_mem_cons]
          exact ⟨hkey, by decide, h.1⟩
      | cons next members =>
          rw [writeMembers_cons_cons]
          simp only [List.forall_mem_append, List.forall_mem_cons]
          exact ⟨hkey, by decide, h.1, by decide, ih h.2⟩

/-- The written form of a plain value is printable. -/
theorem isPrintable_write {value : Json} (h : Plain value) : ∀ c ∈ write value, IsPrintable c := by
  induction h with
  | null =>
      rw [write, writeWith_null]
      simp [IsPrintable]
  | bool value =>
      cases value with
      | true =>
          rw [write, writeWith_true]
          simp [IsPrintable]
      | false =>
          rw [write, writeWith_false]
          simp [IsPrintable]
  | int n => exact isPrintable_ofInt n
  | str s => exact isPrintable_writeText s
  | arr _ ih =>
      rw [write_arr]
      simp only [List.forall_mem_append, List.forall_mem_cons]
      exact ⟨by decide, isPrintable_writeItems ih, by decide, by simp⟩
  | obj _ _ ih =>
      rw [write_obj]
      simp only [List.forall_mem_append, List.forall_mem_cons]
      exact ⟨by decide, isPrintable_writeMembers ih, by decide, by simp⟩

end Enrolment.Json
