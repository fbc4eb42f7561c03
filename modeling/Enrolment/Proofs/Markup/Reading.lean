/-
Written markup is read in one way.

The notation is told by a grammar.  A tag has a name and attributes, the value of an attribute
stands between quotes, and a character of text or of a value is written as itself or as an entity.
In this notation the end of each part shows without what follows it, so a text has one reading at
most (`IsReading.unique`).  A tree is written in this notation if its names are names and no style
sheet is in it, and then it is read as what the tree says (`isReading_render`).
-/
import Enrolment.Proofs.Markup.Tags
import Enrolment.Proofs.Text.Basic
import Enrolment.Text.Digit

namespace Enrolment.Markup

/-- What markup is read as, bit by bit: tags, and the characters of text. -/
inductive Token where
  | start (tag : String) (attributes : List Attribute) (void : Bool)
  | stop (tag : String)
  | char (c : Char)
deriving DecidableEq

/-! ### The grammar -/

/-- The characters that have an entity, with their entities. -/
def entities : List (Char × List Char) :=
  [('&', "&amp;".toList), ('<', "&lt;".toList), ('>', "&gt;".toList), ('"', "&quot;".toList),
    ('\'', "&#x27;".toList)]

/-- Whether a character is written as itself or as an entity, in front of a mark that ends what it
stands in. -/
inductive WritesChar (mark : Char) : Char → List Char → Prop
  | plain {c : Char} (hentity : c ≠ '&') (hmark : c ≠ mark) : WritesChar mark c [c]
  | entity {c : Char} {w : List Char} (h : (c, w) ∈ entities) : WritesChar mark c w

/-- Whether characters are the value of an attribute in its written form. -/
inductive WritesValue : List Char → List Char → Prop
  | nil : WritesValue [] []
  | cons {c : Char} {value w rest : List Char} (h : WritesChar '"' c w)
      (hrest : WritesValue value rest) : WritesValue (c :: value) (w ++ rest)

/-- Whether a character may stand in a name. -/
def isNameChar (c : Char) : Bool :=
  Text.isAsciiLetter c || Text.isAsciiDigit c || c = '-'

/-- Whether a text is the name of an element or of an attribute. -/
def IsName (s : List Char) : Prop :=
  s ≠ [] ∧ ∀ c ∈ s, isNameChar c = true

instance : DecidablePred IsName := fun s =>
  decidable_of_iff (s ≠ [] ∧ s.all isNameChar = true) (and_congr_right fun _ => List.all_eq_true)

/-- Whether characters are an attribute in its written form. -/
inductive WritesAttribute : Attribute → List Char → Prop
  | flag {name : String} (hname : IsName name.toList) :
      WritesAttribute (.flag name) (' ' :: name.toList)
  | pair {name value : String} {w : List Char} (hname : IsName name.toList)
      (hvalue : WritesValue value.toList w) :
      WritesAttribute (.pair name value) (' ' :: (name.toList ++ '=' :: '"' :: (w ++ ['"'])))

/-- Whether characters are the rest of a tag behind its name: its attributes and its end. -/
inductive WritesTail : List Attribute → Bool → List Char → Prop
  | ends : WritesTail [] false ['>']
  | void : WritesTail [] true [' ', '/', '>']
  | cons {a : Attribute} {attributes : List Attribute} {void : Bool} {w rest : List Char}
      (h : WritesAttribute a w) (hrest : WritesTail attributes void rest) :
      WritesTail (a :: attributes) void (w ++ rest)

/-- Whether characters are a tag or a character of text in its written form. -/
inductive WritesToken : Token → List Char → Prop
  | start {tag : String} {attributes : List Attribute} {void : Bool} {tail : List Char}
      (htag : IsName tag.toList) (htail : WritesTail attributes void tail) :
      WritesToken (.start tag attributes void) ('<' :: (tag.toList ++ tail))
  | stop {tag : String} (htag : IsName tag.toList) :
      WritesToken (.stop tag) ('<' :: '/' :: (tag.toList ++ ['>']))
  | char {c : Char} {w : List Char} (h : WritesChar '<' c w) : WritesToken (.char c) w

/-- Whether tags and characters are a reading of a text. -/
inductive IsReading : List Token → List Char → Prop
  | nil : IsReading [] []
  | cons {t : Token} {tokens : List Token} {w rest : List Char} (h : WritesToken t w)
      (hrest : IsReading tokens rest) : IsReading (t :: tokens) (w ++ rest)

/-! ### Where a part ends -/

section Ends

variable {s s' w w' : List Char}

/-- No entity begins another one. -/
theorem entities_prefix_free : ∀ e ∈ entities, ∀ e' ∈ entities, e.2 <+: e'.2 → e = e' := by
  decide

theorem head?_entity : ∀ e ∈ entities, e.2.head? = some '&' := by
  decide

theorem WritesChar.exists_head {mark c : Char} (hmark : mark ≠ '&') (h : WritesChar mark c w) :
    ∃ first rest, w = first :: rest ∧ first ≠ mark := by
  cases h with
  | plain _ hne => exact ⟨c, [], rfl, hne⟩
  | entity hmem =>
      obtain ⟨rest, rfl⟩ := List.head?_eq_some_iff.1 (head?_entity _ hmem)
      exact ⟨'&', rest, rfl, hmark.symm⟩

/-- A character that begins a text is read in one way. -/
theorem WritesChar.cut {mark c c' : Char} (h : WritesChar mark c w) (h' : WritesChar mark c' w')
    (heq : w ++ s = w' ++ s') : c = c' ∧ s = s' := by
  have hplain : ∀ {d : Char} {e : Char × List Char} {r r' : List Char}, d ≠ '&' → e ∈ entities →
      [d] ++ r ≠ e.2 ++ r' := by
    intro d e r r' hd he hsame
    obtain ⟨rest, hrest⟩ := List.head?_eq_some_iff.1 (head?_entity e he)
    rw [hrest] at hsame
    exact hd (List.cons.inj hsame).1
  cases h with
  | plain hentity _ =>
      cases h' with
      | plain _ _ => exact List.cons.inj heq
      | entity hmem => exact absurd heq (hplain hentity hmem)
  | entity hmem =>
      cases h' with
      | plain hentity _ => exact absurd heq.symm (hplain hentity hmem)
      | entity hmem' =>
          have hw : (c, w) = (c', w') := by
            have hfront : w <+: w' ++ s' := heq ▸ List.prefix_append w s
            rcases List.prefix_or_prefix_of_prefix hfront (List.prefix_append w' s') with hle | hle
            · exact entities_prefix_free _ hmem _ hmem' hle
            · exact (entities_prefix_free _ hmem' _ hmem hle).symm
          obtain ⟨rfl, rfl⟩ := Prod.mk.inj hw
          exact ⟨rfl, List.append_cancel_left heq⟩

/-- A value ends at the first quote. -/
theorem WritesValue.cut {value value' : List Char} (h : WritesValue value w)
    (h' : WritesValue value' w') (heq : w ++ '"' :: s = w' ++ '"' :: s') :
    value = value' ∧ s = s' := by
  have hquote : ∀ {c : Char} {v rest r r' : List Char}, WritesChar '"' c v →
      '"' :: r ≠ v ++ rest ++ r' := by
    intro c v rest r r' hc hsame
    obtain ⟨first, more, rfl, hne⟩ := hc.exists_head (by decide)
    exact hne (List.cons.inj hsame).1.symm
  induction h generalizing value' w' with
  | nil =>
      cases h' with
      | nil => exact ⟨rfl, (List.cons.inj heq).2⟩
      | cons hc _ => exact absurd heq (hquote hc)
  | cons hc _ ih =>
      cases h' with
      | nil => exact absurd heq.symm (hquote hc)
      | cons hc' hrest' =>
          rw [List.append_assoc, List.append_assoc] at heq
          obtain ⟨rfl, hrest⟩ := hc.cut hc' heq
          obtain ⟨rfl, hs⟩ := ih hrest' hrest
          exact ⟨rfl, hs⟩

/-- Whether a text does not go on with a name. -/
def EndsName (s : List Char) : Prop :=
  ∀ c ∈ s.head?, isNameChar c = false

/-- A name ends where it does not go on. -/
theorem IsName.cut {name name' : List Char} (h : IsName name) (h' : IsName name')
    (hs : EndsName s) (hs' : EndsName s') (heq : name ++ s = name' ++ s') :
    name = name' ∧ s = s' := by
  have hcut := Text.takeWhile_dropWhile_append h.2 hs
  have hcut' := Text.takeWhile_dropWhile_append h'.2 hs'
  rw [heq] at hcut
  exact ⟨hcut.1.symm.trans hcut'.1, hcut.2.symm.trans hcut'.2⟩

/-- A name does not begin with what is no part of one. -/
theorem IsName.cons_ne {name : List Char} {c : Char} (h : IsName name)
    (hc : isNameChar c = false) : c :: s ≠ name ++ s' := by
  obtain ⟨first, rest, rfl⟩ := List.exists_cons_of_ne_nil h.1
  intro heq
  obtain ⟨rfl, -⟩ := List.cons.inj heq
  rw [h.2 c List.mem_cons_self] at hc
  cases hc

/-- Whether a text goes on with another attribute or with the end of a tag. -/
def EndsAttribute (s : List Char) : Prop :=
  ∃ c rest, s = c :: rest ∧ (c = ' ' ∨ c = '>')

theorem EndsAttribute.endsName (h : EndsAttribute s) : EndsName s := by
  obtain ⟨c, rest, rfl, hc⟩ := h
  rintro d ⟨⟩
  rcases hc with rfl | rfl <;> rfl

theorem EndsAttribute.ne_equals (h : EndsAttribute s) : s ≠ '=' :: s' := by
  obtain ⟨c, rest, rfl, hc⟩ := h
  intro heq
  obtain ⟨rfl, -⟩ := List.cons.inj heq
  revert hc
  decide

/-- An attribute is read in one way. -/
theorem WritesAttribute.cut {a a' : Attribute} (h : WritesAttribute a w)
    (h' : WritesAttribute a' w') (hs : EndsAttribute s) (hs' : EndsAttribute s')
    (heq : w ++ s = w' ++ s') : a = a' ∧ s = s' := by
  have hequals : ∀ rest, EndsName ('=' :: rest) := by
    rintro rest c ⟨⟩
    rfl
  cases h with
  | flag hname =>
      cases h' with
      | flag hname' =>
          obtain ⟨hsame, hrest⟩ := hname.cut hname' hs.endsName hs'.endsName (List.cons.inj heq).2
          rw [String.toList_inj.1 hsame]
          exact ⟨rfl, hrest⟩
      | pair hname' _ =>
          simp only [List.cons_append, List.append_assoc, List.cons.injEq, true_and] at heq
          obtain ⟨-, hrest⟩ := hname.cut hname' hs.endsName (hequals _) heq
          exact absurd hrest hs.ne_equals
  | pair hname hvalue =>
      cases h' with
      | flag hname' =>
          simp only [List.cons_append, List.append_assoc, List.cons.injEq, true_and] at heq
          obtain ⟨-, hrest⟩ := hname.cut hname' (hequals _) hs'.endsName heq
          exact absurd hrest.symm hs'.ne_equals
      | pair hname' hvalue' =>
          simp only [List.cons_append, List.append_assoc, List.cons.injEq, true_and,
            List.nil_append] at heq
          obtain ⟨hsame, hrest⟩ := hname.cut hname' (hequals _) (hequals _) heq
          obtain ⟨hvalues, hs⟩ := hvalue.cut hvalue' (List.cons.inj (List.cons.inj hrest).2).2
          rw [String.toList_inj.1 hsame, String.toList_inj.1 hvalues]
          exact ⟨rfl, hs⟩

theorem WritesTail.endsAttribute {attributes : List Attribute} {void : Bool}
    (h : WritesTail attributes void w) (s : List Char) : EndsAttribute (w ++ s) := by
  cases h with
  | ends => exact ⟨'>', s, rfl, .inr rfl⟩
  | void => exact ⟨' ', _, rfl, .inl rfl⟩
  | cons h _ => cases h <;> exact ⟨' ', _, rfl, .inl rfl⟩

/-- An attribute does not begin like the end of an empty tag. -/
theorem WritesAttribute.ne_void {a : Attribute} (h : WritesAttribute a w) :
    ' ' :: '/' :: s ≠ w ++ s' := by
  cases h with
  | flag hname => exact fun heq => hname.cons_ne rfl (List.cons.inj heq).2
  | pair hname _ =>
      intro heq
      rw [List.cons_append, List.append_assoc] at heq
      exact hname.cons_ne rfl (List.cons.inj heq).2

theorem WritesAttribute.exists_tail {a : Attribute} (h : WritesAttribute a w) :
    ∃ rest, w = ' ' :: rest := by
  cases h <;> exact ⟨_, rfl⟩

/-- The rest of a tag is read in one way. -/
theorem WritesTail.cut {attributes attributes' : List Attribute} {void void' : Bool}
    (h : WritesTail attributes void w) (h' : WritesTail attributes' void' w')
    (heq : w ++ s = w' ++ s') : attributes = attributes' ∧ void = void' ∧ s = s' := by
  have hspace : ∀ {a : Attribute} {v r r' : List Char}, WritesAttribute a v → '>' :: r ≠ v ++ r' := by
    intro a v r r' ha hsame
    obtain ⟨rest, rfl⟩ := ha.exists_tail
    exact absurd (List.cons.inj hsame).1 (by decide)
  induction h generalizing attributes' void' w' with
  | ends =>
      cases h' with
      | ends => exact ⟨rfl, rfl, (List.cons.inj heq).2⟩
      | void => exact absurd (List.cons.inj heq).1 (by decide)
      | cons ha _ =>
          rw [List.append_assoc] at heq
          exact absurd heq (hspace ha)
  | void =>
      cases h' with
      | ends => exact absurd (List.cons.inj heq).1 (by decide)
      | void => exact ⟨rfl, rfl, List.append_cancel_left heq⟩
      | cons ha _ =>
          rw [List.append_assoc] at heq
          exact absurd heq ha.ne_void
  | cons ha hrest ih =>
      cases h' with
      | ends =>
          rw [List.append_assoc] at heq
          exact absurd heq.symm (hspace ha)
      | void =>
          rw [List.append_assoc] at heq
          exact absurd heq.symm ha.ne_void
      | cons ha' hrest' =>
          rw [List.append_assoc, List.append_assoc] at heq
          obtain ⟨rfl, htails⟩ := ha.cut ha' (hrest.endsAttribute s) (hrest'.endsAttribute s') heq
          obtain ⟨rfl, rfl, hs⟩ := ih hrest' htails
          exact ⟨rfl, rfl, hs⟩

/-- A tag, or a character of text, is read in one way. -/
theorem WritesToken.cut {t t' : Token} (h : WritesToken t w) (h' : WritesToken t' w')
    (heq : w ++ s = w' ++ s') : t = t' ∧ s = s' := by
  have hangle : ∀ {c : Char} {v r r' : List Char}, WritesChar '<' c v → '<' :: r ≠ v ++ r' := by
    intro c v r r' hc hsame
    obtain ⟨first, more, rfl, hne⟩ := hc.exists_head (by decide)
    exact hne (List.cons.inj hsame).1.symm
  have hclose : EndsName ('>' :: s) ∧ EndsName ('>' :: s') := by
    constructor <;>
    · rintro c ⟨⟩
      rfl
  cases h with
  | char hc =>
      cases h' with
      | char hc' =>
          obtain ⟨rfl, hs⟩ := hc.cut hc' heq
          exact ⟨rfl, hs⟩
      | start _ _ | stop _ => exact absurd heq.symm (hangle hc)
  | start htag htail =>
      cases h' with
      | char hc' => exact absurd heq (hangle hc')
      | stop _ =>
          rw [List.cons_append, List.append_assoc] at heq
          exact absurd (List.cons.inj heq).2.symm (htag.cons_ne rfl)
      | start htag' htail' =>
          simp only [List.cons_append, List.append_assoc, List.cons.injEq, true_and] at heq
          obtain ⟨hsame, htails⟩ := htag.cut htag' (htail.endsAttribute s).endsName
            (htail'.endsAttribute s').endsName heq
          obtain ⟨rfl, rfl, hs⟩ := htail.cut htail' htails
          rw [String.toList_inj.1 hsame]
          exact ⟨rfl, hs⟩
  | stop htag =>
      cases h' with
      | char hc' => exact absurd heq (hangle hc')
      | start htag' _ =>
          rw [List.cons_append, List.cons_append, List.cons_append, List.append_assoc,
            List.append_assoc] at heq
          exact absurd (List.cons.inj heq).2 (htag'.cons_ne rfl)
      | stop htag' =>
          simp only [List.cons_append, List.append_assoc, List.nil_append, List.cons.injEq,
            true_and] at heq
          obtain ⟨hsame, hs⟩ := htag.cut htag' hclose.1 hclose.2 heq
          rw [String.toList_inj.1 hsame]
          exact ⟨rfl, (List.cons.inj hs).2⟩

theorem WritesToken.ne_nil {t : Token} (h : WritesToken t w) : w ≠ [] := by
  cases h with
  | start _ _ | stop _ => exact List.cons_ne_nil _ _
  | char hc =>
      obtain ⟨first, rest, rfl, -⟩ := hc.exists_head (by decide)
      exact List.cons_ne_nil _ _

theorem IsReading.eq_of_eq {tokens tokens' : List Token} (h : IsReading tokens s)
    (h' : IsReading tokens' s') (heq : s = s') : tokens = tokens' := by
  induction h generalizing tokens' s' with
  | nil =>
      cases h' with
      | nil => rfl
      | cons ht _ => exact absurd (List.append_eq_nil_iff.1 heq.symm).1 ht.ne_nil
  | cons ht _ ih =>
      cases h' with
      | nil => exact absurd (List.append_eq_nil_iff.1 heq).1 ht.ne_nil
      | cons ht' hrest' =>
          obtain ⟨rfl, hrest⟩ := ht.cut ht' heq
          rw [ih hrest' hrest]

/-- **A text has one reading at most.** -/
theorem IsReading.unique {tokens tokens' : List Token} (h : IsReading tokens s)
    (h' : IsReading tokens' s) : tokens = tokens' :=
  h.eq_of_eq h' rfl

end Ends

/-! ### Written trees -/

mutual

/-- What a piece of markup should be read as. -/
def tokens : Markup → List Token
  | text content => content.toList.map .char
  | styleSheet content => .start "style" [] false :: content.toList.map .char ++ [.stop "style"]
  | void tag attributes => [.start tag attributes true]
  | element tag attributes children =>
    .start tag attributes false :: (tokensAll children ++ [.stop tag])

/-- What some pieces should be read as. -/
def tokensAll : List Markup → List Token
  | [] => []
  | piece :: rest => tokens piece ++ tokensAll rest

end

/-- Whether the names in a piece of markup are names, and no style sheet is in it. -/
inductive IsNamed : Markup → Prop
  | text (content : String) : IsNamed (.text content)
  | void {tag : String} {attributes : List Attribute} (htag : IsName tag.toList)
      (hnames : ∀ a ∈ attributes, IsName (attributeName a).toList) : IsNamed (.void tag attributes)
  | element {tag : String} {attributes : List Attribute} {children : List Markup}
      (htag : IsName tag.toList) (hnames : ∀ a ∈ attributes, IsName (attributeName a).toList)
      (hchildren : ∀ child ∈ children, IsNamed child) : IsNamed (.element tag attributes children)

theorem writesChar_escapeChar {mark : Char} (hmark : mark = '<' ∨ mark = '"') (c : Char) :
    WritesChar mark c (escapeChar c) := by
  unfold escapeChar
  split
  · exact .entity (by decide)
  · exact .entity (by decide)
  · exact .entity (by decide)
  · exact .entity (by decide)
  · exact .entity (by decide)
  · rename_i hand hless _ hquote _
    refine .plain hand ?_
    rcases hmark with rfl | rfl
    · exact hless
    · exact hquote

theorem writesValue_escape (value : List Char) : WritesValue value (value.flatMap escapeChar) := by
  induction value with
  | nil => exact .nil
  | cons c rest ih =>
      rw [List.flatMap_cons]
      exact .cons (writesChar_escapeChar (.inr rfl) c) ih

theorem writesAttribute_render {a : Attribute} (h : IsName (attributeName a).toList) :
    WritesAttribute a (renderAttribute a).toList := by
  cases a with
  | flag name =>
      rw [renderAttribute, String.toList_append]
      exact .flag h
  | pair name value =>
      have hwritten : (renderAttribute (.pair name value)).toList =
          ' ' :: (name.toList ++ '=' :: '"' :: (value.toList.flatMap escapeChar ++ ['"'])) := by
        simp [renderAttribute, escape]
      rw [hwritten]
      exact .pair h (writesValue_escape value.toList)

theorem writesTail_renderAttributes {attributes : List Attribute} {void : Bool} {tail : List Char}
    (htail : WritesTail [] void tail)
    (hnames : ∀ a ∈ attributes, IsName (attributeName a).toList) :
    WritesTail attributes void ((renderAttributes attributes).toList ++ tail) := by
  unfold renderAttributes
  induction attributes with
  | nil => exact htail
  | cons a rest ih =>
      obtain ⟨ha, hrest⟩ := List.forall_mem_cons.1 hnames
      rw [List.map_cons, String.join_cons, String.toList_append, List.append_assoc]
      exact .cons (writesAttribute_render ha) (ih hrest)

theorem isReading_escape (content : List Char) :
    IsReading (content.map .char) (content.flatMap escapeChar) := by
  induction content with
  | nil => exact .nil
  | cons c rest ih =>
      rw [List.map_cons, List.flatMap_cons]
      exact .cons (.char (writesChar_escapeChar (.inl rfl) c)) ih

theorem IsReading.append {front back : List Token} {s t : List Char} (h : IsReading front s)
    (hback : IsReading back t) : IsReading (front ++ back) (s ++ t) := by
  induction h with
  | nil => exact hback
  | cons ht _ ih =>
      rw [List.cons_append, List.append_assoc]
      exact .cons ht ih

theorem IsReading.singleton {t : Token} {w : List Char} (h : WritesToken t w) :
    IsReading [t] w := by
  have hread := IsReading.cons h .nil
  rwa [List.append_nil] at hread

theorem isReading_renderAll {pieces : List Markup}
    (h : ∀ piece ∈ pieces, IsReading (tokens piece) (render piece).toList) :
    IsReading (tokensAll pieces) (renderAll pieces).toList := by
  induction pieces with
  | nil =>
      rw [tokensAll, renderAll]
      exact .nil
  | cons piece rest ih =>
      obtain ⟨hpiece, hrest⟩ := List.forall_mem_cons.1 h
      rw [tokensAll, renderAll, String.toList_append]
      exact hpiece.append (ih hrest)

/-- **A written tree is read as what the tree says.** -/
theorem isReading_render {piece : Markup} (h : IsNamed piece) :
    IsReading (tokens piece) (render piece).toList := by
  induction h with
  | text content =>
      rw [tokens, render, escape, String.toList_ofList]
      exact isReading_escape content.toList
  | @void tag attributes htag hnames =>
      have hwritten : (render (.void tag attributes)).toList =
          '<' :: (tag.toList ++ ((renderAttributes attributes).toList ++ [' ', '/', '>'])) := by
        simp [render]
      rw [tokens, hwritten]
      exact .singleton (.start htag (writesTail_renderAttributes .void hnames))
  | @element tag attributes children htag hnames _ ih =>
      have hwritten : (render (.element tag attributes children)).toList =
          '<' :: (tag.toList ++ ((renderAttributes attributes).toList ++ ['>'])) ++
            ((renderAll children).toList ++ '<' :: '/' :: (tag.toList ++ ['>'])) := by
        simp [render]
      rw [tokens, hwritten]
      exact .cons (.start htag (writesTail_renderAttributes .ends hnames))
        ((isReading_renderAll ih).append (.singleton (.stop htag)))

/-- **A written tree has one reading, which is what the tree says.** -/
theorem isReading_render_iff {piece : Markup} (h : IsNamed piece) {other : List Token} :
    IsReading other (render piece).toList ↔ other = tokens piece := by
  constructor
  · intro hother
    exact hother.unique (isReading_render h)
  · rintro rfl
    exact isReading_render h

end Enrolment.Markup
