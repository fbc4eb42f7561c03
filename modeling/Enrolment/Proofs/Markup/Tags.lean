/-
Where the `<` of a written document come from.

Text and the values of attributes are written without a `<`, so what is left is the
tags themselves, one `<` each, and the style sheets, which are written as they are.
`angles_render` is that count.  It needs the names of elements and attributes to hold
no `<` themselves, which `IsClean` says of a tree.
-/
import Mathlib.Algebra.Ring.Nat
import Enrolment.Markup.Tree

namespace Enrolment

/-- How often `<` stands in a text. -/
def angles (s : String) : Nat :=
  s.toList.count '<'

theorem angles_append (a b : String) : angles (a ++ b) = angles a + angles b := by
  rw [angles, String.toList_append, List.count_append, angles, angles]

namespace Markup

/-! ### What is escaped holds no `<` -/

theorem not_mem_escapeChar (c : Char) : '<' ∉ escapeChar c := by
  unfold escapeChar
  split
  · decide
  · decide
  · decide
  · decide
  · decide
  · rename_i hlt _ _ _
    rw [List.mem_singleton]
    exact fun heq => hlt heq.symm

/-- Escaped text holds no `<`. -/
theorem angles_escape (s : String) : angles (escape s) = 0 := by
  unfold angles escape
  rw [String.toList_ofList, List.count_eq_zero, List.mem_flatMap]
  rintro ⟨c, -, hc⟩
  exact not_mem_escapeChar c hc

/-! ### Clean names -/

/-- The name of an attribute. -/
def attributeName : Attribute → String
  | .flag name => name
  | .pair name _ => name

/-- Whether no name of some attributes holds a `<`. -/
def CleanNames (attributes : List Attribute) : Prop :=
  ∀ a ∈ attributes, angles (attributeName a) = 0

theorem CleanNames.nil : CleanNames [] := by
  intro a hmem
  cases hmem

theorem CleanNames.cons {a : Attribute} {rest : List Attribute} (ha : angles (attributeName a) = 0)
    (hrest : CleanNames rest) : CleanNames (a :: rest) := by
  intro other hmem
  rcases List.mem_cons.1 hmem with rfl | hlater
  · exact ha
  · exact hrest other hlater

theorem CleanNames.flag {name : String} {rest : List Attribute} (hname : angles name = 0)
    (hrest : CleanNames rest) : CleanNames (.flag name :: rest) :=
  .cons hname hrest

theorem CleanNames.pair {name value : String} {rest : List Attribute} (hname : angles name = 0)
    (hrest : CleanNames rest) : CleanNames (.pair name value :: rest) :=
  .cons hname hrest

mutual

/-- Whether no name in a piece of markup holds a `<`. -/
def IsClean : Markup → Prop
  | text _ => True
  | styleSheet _ => True
  | void tag attributes => angles tag = 0 ∧ CleanNames attributes
  | element tag attributes children =>
    angles tag = 0 ∧ CleanNames attributes ∧ AllClean children

/-- Whether no name in some pieces holds a `<`. -/
def AllClean : List Markup → Prop
  | [] => True
  | piece :: rest => IsClean piece ∧ AllClean rest

end

/-! ### Counting -/

mutual

/-- How many tags a piece of markup is written with. -/
def tagCount : Markup → Nat
  | text _ => 0
  | styleSheet _ => 2
  | void _ _ => 1
  | element _ _ children => 2 + tagCountAll children

/-- How many tags some pieces are written with. -/
def tagCountAll : List Markup → Nat
  | [] => 0
  | piece :: rest => tagCount piece + tagCountAll rest

end

mutual

/-- How often `<` stands in the style sheets of a piece of markup. -/
def sheetAngles : Markup → Nat
  | text _ => 0
  | styleSheet content => angles content
  | void _ _ => 0
  | element _ _ children => sheetAnglesAll children

/-- How often `<` stands in the style sheets of some pieces. -/
def sheetAnglesAll : List Markup → Nat
  | [] => 0
  | piece :: rest => sheetAngles piece + sheetAnglesAll rest

end

theorem angles_renderAttribute (a : Attribute) :
    angles (renderAttribute a) = angles (attributeName a) := by
  cases a with
  | flag name =>
      rw [renderAttribute, angles_append, attributeName, show angles " " = 0 from rfl,
        Nat.zero_add]
  | pair name value =>
      simp only [renderAttribute, angles_append, attributeName, angles_escape,
        show angles " " = 0 from rfl, show angles "=\"" = 0 from rfl,
        show angles "\"" = 0 from rfl, Nat.zero_add, Nat.add_zero]

/-- Attributes with clean names are written without a `<`, whatever their values. -/
theorem angles_renderAttributes {attributes : List Attribute} (h : CleanNames attributes) :
    angles (renderAttributes attributes) = 0 := by
  unfold renderAttributes
  induction attributes with
  | nil => rfl
  | cons a rest ih =>
      have hname := h a List.mem_cons_self
      have hrest := ih (fun other hmem => h other (List.mem_cons_of_mem _ hmem))
      rw [List.map_cons, String.join_cons, angles_append, angles_renderAttribute, hname, hrest]

mutual

/-- **Each `<` of a written piece is that of a tag or stands in a style sheet.** -/
theorem angles_render :
    (piece : Markup) → IsClean piece → angles (render piece) = tagCount piece + sheetAngles piece
  | text content, _ => by
      rw [render, angles_escape, tagCount, sheetAngles]
  | styleSheet content, _ => by
      rw [render, angles_append, angles_append, tagCount, sheetAngles,
        show angles "<style>" = 1 from rfl, show angles "</style>" = 1 from rfl]
      omega
  | void tag attributes, h => by
      rw [IsClean] at h
      rw [render]
      simp only [angles_append, tagCount, sheetAngles, h.1, angles_renderAttributes h.2]
      rfl
  | element tag attributes children, h => by
      rw [IsClean] at h
      have hchildren := angles_renderAll children h.2.2
      rw [render]
      simp only [angles_append, tagCount, sheetAngles, h.1, angles_renderAttributes h.2.1,
        hchildren]
      rw [show angles "<" = 1 from rfl, show angles ">" = 0 from rfl,
        show angles "</" = 1 from rfl]
      omega

theorem angles_renderAll :
    (pieces : List Markup) → AllClean pieces →
      angles (renderAll pieces) = tagCountAll pieces + sheetAnglesAll pieces
  | [], _ => by
      rw [renderAll, tagCountAll, sheetAnglesAll]
      rfl
  | piece :: rest, h => by
      rw [AllClean] at h
      rw [renderAll, angles_append, angles_render piece h.1, angles_renderAll rest h.2,
        tagCountAll, sheetAnglesAll]
      omega

end

/-! ### Pieces of known size

A document is put together from pieces, and so is what is known of it: `Sized` says of
a piece that its names are clean, and that it has a given number of tags and no `<` in
a style sheet.
-/

/-- A clean piece with `n` tags and without a `<` in style sheets. -/
structure Sized (n : Nat) (piece : Markup) : Prop where
  clean : IsClean piece
  tags : tagCount piece = n
  sheets : sheetAngles piece = 0

/-- Clean pieces with `n` tags in all and without a `<` in style sheets. -/
structure SizedAll (n : Nat) (pieces : List Markup) : Prop where
  clean : AllClean pieces
  tags : tagCountAll pieces = n
  sheets : sheetAnglesAll pieces = 0

variable {n k : Nat} {piece : Markup} {pieces rest : List Markup}

theorem Sized.cast (h : Sized n piece) (heq : n = k) : Sized k piece := by
  rw [← heq]
  exact h

theorem Sized.text (content : String) : Sized 0 (.text content) :=
  ⟨by rw [IsClean]; trivial, by rw [tagCount], by rw [sheetAngles]⟩

theorem Sized.void {tag : String} {attributes : List Attribute} (htag : angles tag = 0)
    (hnames : CleanNames attributes) : Sized 1 (.void tag attributes) :=
  ⟨by rw [IsClean]; exact ⟨htag, hnames⟩, by rw [tagCount], by rw [sheetAngles]⟩

theorem Sized.element {tag : String} {attributes : List Attribute} (htag : angles tag = 0)
    (hnames : CleanNames attributes) (h : SizedAll n pieces) :
    Sized (2 + n) (.element tag attributes pieces) :=
  ⟨by rw [IsClean]; exact ⟨htag, hnames, h.clean⟩, by rw [tagCount, h.tags],
    by rw [sheetAngles, h.sheets]⟩

theorem SizedAll.nil : SizedAll 0 [] :=
  ⟨by rw [AllClean]; trivial, by rw [tagCountAll], by rw [sheetAnglesAll]⟩

theorem SizedAll.cons (h : Sized n piece) (hrest : SizedAll k rest) :
    SizedAll (n + k) (piece :: rest) :=
  ⟨by rw [AllClean]; exact ⟨h.clean, hrest.clean⟩, by rw [tagCountAll, h.tags, hrest.tags],
    by rw [sheetAnglesAll, h.sheets, hrest.sheets]⟩

theorem SizedAll.singleton (h : Sized n piece) : SizedAll n [piece] :=
  .cons h .nil

theorem SizedAll.append (h : SizedAll n pieces) (hrest : SizedAll k rest) :
    SizedAll (n + k) (pieces ++ rest) := by
  induction pieces generalizing n with
  | nil =>
      have hn : n = 0 := by rw [← h.tags, tagCountAll]
      rw [hn, Nat.zero_add]
      exact hrest
  | cons piece pieces ih =>
      obtain ⟨hclean, htags, hsheets⟩ := h
      rw [AllClean] at hclean
      rw [sheetAnglesAll, Nat.add_eq_zero_iff] at hsheets
      rw [← htags, tagCountAll, Nat.add_assoc]
      exact .cons ⟨hclean.1, rfl, hsheets.1⟩ (ih ⟨hclean.2, rfl, hsheets.2⟩)

/-- Pieces that are made alike have the tags of one, as often as there are pieces. -/
theorem SizedAll.map {α : Type} {make : α → Markup} (h : ∀ a, Sized n (make a))
    (items : List α) : SizedAll (n * items.length) (items.map make) := by
  induction items with
  | nil => exact .nil
  | cons a items ih =>
      rw [List.length_cons, Nat.mul_succ, Nat.add_comm]
      exact .cons (h a) ih

/-- Pieces that are made one by one have the tags of all. -/
theorem SizedAll.map_sum {α : Type} {make : α → Markup} {size : α → Nat}
    (h : ∀ a, Sized (size a) (make a)) (items : List α) :
    SizedAll (items.map size).sum (items.map make) := by
  induction items with
  | nil => exact .nil
  | cons a items ih =>
      rw [List.map_cons, List.sum_cons]
      exact .cons (h a) ih

theorem SizedAll.flatMap_sum {α : Type} {make : α → List Markup} {size : α → Nat}
    (h : ∀ a, SizedAll (size a) (make a)) (items : List α) :
    SizedAll (items.map size).sum (items.flatMap make) := by
  induction items with
  | nil => exact .nil
  | cons a items ih =>
      rw [List.map_cons, List.sum_cons, List.flatMap_cons]
      exact .append (h a) ih

end Markup

end Enrolment
