/-
A script can be put into a page as it is.

In a page a script ends at the first `</`, and `<!--` changes how its end is looked for.
`IsHarmless` says that a text has neither.  A harmless text can be spoilt by what is put
in front of it, but not by a piece in which every `<` is followed, within the piece, by
something that goes on neither word; such a piece is `Neutral`, and neutral pieces put one
after another are neutral.  A written value is such a piece: outside of strings nothing is
written with a `<`, and a string has at least its closing quote behind every `<` of its
own.  So a script is harmless because its program is.
-/
import Enrolment.Proofs.Number.Layout
import Enrolment.Proofs.Widget.Script

namespace Enrolment

/-! ### Harmless texts -/

/-- Whether a text has neither `</` nor `<!--` in it. -/
def IsHarmless (s : List Char) : Prop :=
  ¬ ['<', '/'] <:+: s ∧ ¬ ['<', '!', '-', '-'] <:+: s

instance (s : List Char) : Decidable (IsHarmless s) :=
  inferInstanceAs (Decidable (_ ∧ _))

/-- A character in front matters only if it begins a word there. -/
theorem isHarmless_cons {c : Char} {s : List Char} (hclosing : ¬ ['<', '/'] <+: c :: s)
    (hcomment : ¬ ['<', '!', '-', '-'] <+: c :: s) : IsHarmless (c :: s) ↔ IsHarmless s := by
  unfold IsHarmless
  rw [List.infix_cons_iff, List.infix_cons_iff, not_or, not_or]
  constructor
  · rintro ⟨⟨-, h⟩, -, h'⟩
    exact ⟨h, h'⟩
  · rintro ⟨h, h'⟩
    exact ⟨⟨hclosing, h⟩, hcomment, h'⟩

theorem isHarmless_cons_of_ne {c : Char} (h : c ≠ '<') (s : List Char) :
    IsHarmless (c :: s) ↔ IsHarmless s := by
  have hne : ∀ word : List Char, ¬ '<' :: word <+: c :: s := by
    intro word hword
    exact h (List.cons_prefix_cons.1 hword).1.symm
  exact isHarmless_cons (hne _) (hne _)

/-- A `<` is harmless if neither word goes on behind it. -/
theorem isHarmless_angle {s : List Char} (hclosing : ¬ ['/'] <+: s)
    (hcomment : ¬ ['!', '-', '-'] <+: s) : IsHarmless ('<' :: s) ↔ IsHarmless s :=
  isHarmless_cons (fun h => hclosing (List.cons_prefix_cons.1 h).2)
    fun h => hcomment (List.cons_prefix_cons.1 h).2

/-- A piece that spoils no text behind it. -/
def Neutral (piece : List Char) : Prop :=
  ∀ s, IsHarmless (piece ++ s) ↔ IsHarmless s

theorem Neutral.nil : Neutral [] :=
  fun _ => Iff.rfl

theorem Neutral.append {piece other : List Char} (h : Neutral piece) (hother : Neutral other) :
    Neutral (piece ++ other) := by
  intro s
  rw [List.append_assoc]
  exact (h (other ++ s)).trans (hother s)

theorem Neutral.cons {c : Char} {piece : List Char} (hc : c ≠ '<') (h : Neutral piece) :
    Neutral (c :: piece) := by
  intro s
  rw [List.cons_append]
  exact (isHarmless_cons_of_ne hc (piece ++ s)).trans (h s)

theorem Neutral.of_not_mem {piece : List Char} (h : '<' ∉ piece) : Neutral piece := by
  induction piece with
  | nil => exact .nil
  | cons c piece ih =>
      rw [List.mem_cons, not_or] at h
      exact .cons (Ne.symm h.1) (ih h.2)

namespace Json

/-! ### Strings -/

/-- A written string begins as the string does, or with a `<` or a backslash. -/
theorem writeChars_cons (c : Char) (s : List Char) :
    (∃ t, writeChars (c :: s) = '<' :: t) ∨ (∃ t, writeChars (c :: s) = '\\' :: t) ∨
      writeChars (c :: s) = c :: writeChars s := by
  rw [writeChars.eq_def]
  split
  · exact .inl ⟨_, rfl⟩
  · exact .inl ⟨_, rfl⟩
  · rename_i heq
    obtain ⟨rfl, rfl⟩ := List.cons.inj heq
    rcases written_front (written_writeChar c) with ⟨t, hform⟩ | hform
    · exact .inr (.inl ⟨_, by rw [hform, List.cons_append]⟩)
    · exact .inr (.inr (by rw [hform, List.singleton_append]))
  · rename_i heq
    cases heq

/-- What goes on a word in a written string goes it on in the string. -/
theorem prefix_of_prefix_writeChars {word s t : List Char} (hangle : '<' ∉ word)
    (hslash : '\\' ∉ word) (hquote : '"' ∉ word) (h : word <+: writeChars s ++ '"' :: t) :
    word <+: s := by
  induction word generalizing s with
  | nil => exact List.nil_prefix
  | cons d word ih =>
      rw [List.mem_cons, not_or] at hangle hslash hquote
      cases s with
      | nil =>
          rw [writeChars, List.nil_append, List.cons_prefix_cons] at h
          exact absurd h.1.symm hquote.1
      | cons c s =>
          rcases writeChars_cons c s with ⟨u, hform⟩ | ⟨u, hform⟩ | hform
          · rw [hform, List.cons_append, List.cons_prefix_cons] at h
            exact absurd h.1.symm hangle.1
          · rw [hform, List.cons_append, List.cons_prefix_cons] at h
            exact absurd h.1.symm hslash.1
          · rw [hform, List.cons_append, List.cons_prefix_cons] at h
            exact List.cons_prefix_cons.2 ⟨h.1, ih hangle.2 hslash.2 hquote.2 h.2⟩

/-- **The body of a written string spoils nothing behind its closing quote.** -/
theorem isHarmless_writeChars (s t : List Char) :
    IsHarmless (writeChars s ++ '"' :: t) ↔ IsHarmless t := by
  fun_induction writeChars s with
  | case1 s ih =>
      have hclosing : ¬ ['/'] <+: '\\' :: '/' :: (writeChars s ++ '"' :: t) := by simp
      have hcomment : ¬ ['!', '-', '-'] <+: '\\' :: '/' :: (writeChars s ++ '"' :: t) := by simp
      rw [List.cons_append, List.cons_append, List.cons_append,
        isHarmless_angle hclosing hcomment, isHarmless_cons_of_ne (by decide),
        isHarmless_cons_of_ne (by decide), ih]
  | case2 s ih =>
      have hmark : Neutral (writeUnit 0x21 ++ ['-', '-']) := by
        refine .of_not_mem ?_
        rw [List.mem_append, not_or]
        exact ⟨not_mem_writeUnit _, by decide⟩
      have hclosing : ¬ ['/'] <+: writeUnit 0x21 ++ '-' :: '-' :: (writeChars s ++ '"' :: t) := by
        simp [writeUnit]
      have hcomment : ¬ ['!', '-', '-'] <+:
          writeUnit 0x21 ++ '-' :: '-' :: (writeChars s ++ '"' :: t) := by
        simp [writeUnit]
      have hbehind := hmark (writeChars s ++ '"' :: t)
      simp only [List.append_assoc, List.cons_append, List.nil_append] at hbehind ⊢
      rw [isHarmless_angle hclosing hcomment, hbehind, ih]
  | case3 c s hclosing hcomment ih =>
      rw [List.append_assoc, ← ih]
      by_cases hc : c = '<'
      · rw [hc, show writeChar '<' = ['<'] from rfl]
        refine isHarmless_angle (fun h => ?_) (fun h => ?_)
        · obtain ⟨u, rfl⟩ := prefix_of_prefix_writeChars (by decide) (by decide) (by decide) h
          exact hclosing u hc rfl
        · obtain ⟨u, rfl⟩ := prefix_of_prefix_writeChars (by decide) (by decide) (by decide) h
          exact hcomment u hc rfl
      · exact Neutral.of_not_mem (not_mem_written (written_writeChar c) hc) _
  | case4 =>
      rw [List.nil_append]
      exact isHarmless_cons_of_ne (by decide) t

theorem neutral_writeText (s : String) : Neutral (writeText s) := by
  refine .cons (by decide) ?_
  intro t
  rw [List.append_assoc]
  exact isHarmless_writeChars s.toList t

/-! ### Numbers -/

/-- None of the characters that numbers are written with is a `<`. -/
theorem neutral_of_isWritten {s : List Char} (h : ∀ c ∈ s, Numeral.isWritten c = true) :
    Neutral s := by
  refine .of_not_mem fun hmem => ?_
  exact absurd (h '<' hmem) (by decide)

theorem neutral_writeNumber (x : Binary64) : Neutral (writeNumber x) := by
  cases x with
  | nan => exact .of_not_mem (by decide)
  | infinite negative =>
      cases negative with
      | true => exact .of_not_mem (by decide)
      | false => exact .of_not_mem (by decide)
  | finite negative m e =>
      rw [writeNumber]
      · exact neutral_of_isWritten Binary64.isWritten_of_mem_text
      · exact fun h => Binary64.noConfusion h
      · exact fun _ h => Binary64.noConfusion h

/-! ### Values -/

theorem neutral_writeItems {items : List Json} (h : ∀ item ∈ items, Neutral (write item)) :
    Neutral (writeItems items) := by
  induction items with
  | nil => exact .nil
  | cons item items ih =>
      rw [List.forall_mem_cons] at h
      cases items with
      | nil =>
          rw [writeItems_singleton]
          exact h.1
      | cons next items =>
          rw [writeItems_cons_cons]
          exact h.1.append (.cons (by decide) (ih h.2))

theorem neutral_writeMembers {members : Members}
    (h : ∀ member ∈ members, Neutral (write member.2)) : Neutral (writeMembers members) := by
  induction members with
  | nil => exact .nil
  | cons member members ih =>
      obtain ⟨key, value⟩ := member
      rw [List.forall_mem_cons] at h
      have hmember := (neutral_writeText key).append (.cons (c := ':') (by decide) h.1)
      cases members with
      | nil =>
          rw [writeMembers_singleton]
          exact hmember
      | cons next members =>
          rw [writeMembers_cons_cons, ← List.cons_append, ← List.append_assoc]
          exact hmember.append (.cons (by decide) (ih h.2))

/-- **Whatever value is written, it spoils no text behind it.** -/
theorem neutral_write : (value : Json) → Neutral (write value)
  | null => .of_not_mem (by decide)
  | bool true => .of_not_mem (by decide)
  | bool false => .of_not_mem (by decide)
  | int n => by
      rw [write, writeWith_int]
      exact neutral_of_isWritten fun _ => Numeral.isWritten_of_mem_ofInt
  | num x => neutral_writeNumber x
  | str s => neutral_writeText s
  | arr items => by
      have hitems : Neutral (writeItems items) :=
        neutral_writeItems fun item hmem => neutral_write item
      rw [write_arr]
      exact .cons (by decide) (hitems.append (.of_not_mem (by decide)))
  | obj members => by
      have hmembers : Neutral (writeMembers members) :=
        neutral_writeMembers fun member hmem => neutral_write member.2
      rw [write_obj]
      exact .cons (by decide) (hmembers.append (.of_not_mem (by decide)))
termination_by value => sizeOf value
decreasing_by
  · have hsize := List.sizeOf_lt_of_mem hmem
    rw [arr.sizeOf_spec]
    omega
  · have hsize := List.sizeOf_lt_of_mem hmem
    rw [obj.sizeOf_spec]
    cases member
    rw [Prod.mk.sizeOf_spec] at hsize
    dsimp only
    omega

end Json

namespace Widget

/-! ### The program

The program is a fixed text, so it is looked through once.  A text is slow to look through
as a `String`, which is bytes; therefore its lines are spelled first.
-/

/-- Whether behind every `<` of a text there is a character that goes on neither word. -/
def anglesFollowed : List Char → Bool
  | [] => true
  | c :: rest =>
    (c ≠ '<' || rest.head?.any fun d => d ≠ '/' && d ≠ '!') && anglesFollowed rest

theorem neutral_of_anglesFollowed {piece : List Char} (h : anglesFollowed piece = true) :
    Neutral piece := by
  induction piece with
  | nil => exact .nil
  | cons c piece ih =>
      rw [anglesFollowed, Bool.and_eq_true, Bool.or_eq_true, decide_eq_true_eq] at h
      obtain ⟨hfront, hrest⟩ := h
      by_cases hc : c = '<'
      · cases piece with
        | nil => exact absurd hc (hfront.resolve_right Bool.false_ne_true)
        | cons d piece =>
            have hd := hfront.resolve_left (fun hne => hne hc)
            rw [List.head?_cons, Option.any_some, Bool.and_eq_true, decide_eq_true_eq,
              decide_eq_true_eq] at hd
            intro s
            have hword : ∀ (e : Char) (word : List Char), d ≠ e →
                ¬ e :: word <+: d :: piece ++ s := by
              intro e word hne hprefix
              exact hne (List.cons_prefix_cons.1 hprefix).1.symm
            rw [hc, List.cons_append]
            exact (isHarmless_angle (hword _ _ hd.1) (hword _ _ hd.2)).trans (ih hrest s)
      · exact .cons hc (ih hrest)

/-- One more line is spelled. -/
theorem cons_ofList (line : List Char) {spelled : List (List Char)} {rest : List String}
    (h : rest = spelled.map String.ofList) :
    String.ofList line :: rest = (line :: spelled).map String.ofList := by
  rw [h, List.map_cons]

theorem closingLines_spelled : ∃ spelled : List (List Char),
    closingLines = spelled.map String.ofList ∧ spelled.all anglesFollowed = true := by
  apply Exists.intro
  constructor
  · dsimp only [closingLines]
    repeat apply cons_ofList
    exact List.map_nil.symm
  · decide +kernel

/-- Lines that spoil nothing make a text that spoils nothing. -/
theorem neutral_intercalate {lines : List String} (h : ∀ line ∈ lines, Neutral line.toList) :
    Neutral ("\n".intercalate lines).toList := by
  induction lines with
  | nil => exact .nil
  | cons line rest ih =>
      rw [List.forall_mem_cons] at h
      cases rest with
      | nil =>
          rw [String.intercalate_singleton]
          exact h.1
      | cons next rest =>
          rw [String.intercalate_cons_cons, String.toList_append, String.toList_append]
          exact (h.1.append (.of_not_mem (by decide))).append (ih h.2)

theorem neutral_opening : Neutral opening.toList :=
  .of_not_mem (by decide +kernel)

theorem neutral_closing : Neutral closing.toList := by
  refine neutral_intercalate ?_
  intro line hline
  obtain ⟨spelled, hlines, hfollowed⟩ := closingLines_spelled
  rw [hlines] at hline
  obtain ⟨s, hs, rfl⟩ := List.mem_map.1 hline
  rw [String.toList_ofList]
  exact neutral_of_anglesFollowed (List.all_eq_true.1 hfollowed s hs)

/-! ### Scripts -/

theorem Script.isHarmless_chars (config : Config) : IsHarmless (Script.ofConfig config).chars := by
  have hpayload : Neutral (Script.ofConfig config).payload := Json.neutral_write config.toWire
  have hscript := (neutral_opening.append hpayload).append neutral_closing
  rw [chars, ← List.append_nil (opening.toList ++ _ ++ _)]
  exact (hscript []).2 (by decide)

/-- **A compiled script has neither `</` nor `<!--` in it.** -/
theorem compileValues_isHarmless {container : Json} {items : List Json} {theme : Json}
    {table : Place.Table} {script : Script}
    (h : compileValues container (.arr items) theme table = .ok script) :
    ¬ "</".toList <:+: script.chars ∧ ¬ "<!--".toList <:+: script.chars := by
  obtain ⟨fields, look, -, -, rfl⟩ := compileValues_arr h
  exact Script.isHarmless_chars (.ofForm container fields look table)

/-- A field whose label holds both words, with more of the same in front of each. -/
def overlappingItems : List Json :=
  [.obj [("label", .str "<</<!<!--</")]]

/-- Such words are gone from the label, and from the name and the value of a container. -/
theorem overlapping_words_isHarmless :
    ∃ script, compileValues (.obj [("<!<!----", .str "<</")]) (.arr overlappingItems) .null
        Place.builtIn = .ok script ∧
      ¬ "</".toList <:+: script.chars ∧ ¬ "<!--".toList <:+: script.chars := by
  have hscript : compileValues (.obj [("<!<!----", .str "<</")]) (.arr overlappingItems) .null
      Place.builtIn = .ok _ := rfl
  exact ⟨_, hscript, compileValues_isHarmless hscript⟩

end Widget

end Enrolment
