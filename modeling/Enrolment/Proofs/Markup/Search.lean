/-
Searching a document for the elements with an attribute of some name.

An element that has one is found, and looked through like any other.  So what is found is what
stands in the document and has such an attribute (`mem_elementsWith_iff`).
-/
import Enrolment.Proofs.Markup.Tags

namespace Enrolment

namespace Markup

/-- The attributes of an element. -/
def attributes : Markup → List Attribute
  | text _ => []
  | styleSheet _ => []
  | void _ attributes => attributes
  | element _ attributes _ => attributes

/-- Whether one of some attributes has a name. -/
def hasName (name : String) (attributes : List Attribute) : Bool :=
  attributes.any fun a => attributeName a = name

mutual

/-- The elements in a piece of markup that have an attribute of some name. -/
def elementsWith (name : String) : Markup → List Markup
  | text _ => []
  | styleSheet _ => []
  | void tag attributes => if hasName name attributes then [void tag attributes] else []
  | element tag attributes children =>
    (if hasName name attributes then [element tag attributes children] else []) ++
      elementsWithAll name children

/-- The elements in some pieces that have an attribute of some name. -/
def elementsWithAll (name : String) : List Markup → List Markup
  | [] => []
  | piece :: rest => elementsWith name piece ++ elementsWithAll name rest

end

theorem elementsWithAll_eq_flatMap (name : String) (pieces : List Markup) :
    elementsWithAll name pieces = pieces.flatMap (elementsWith name) := by
  induction pieces with
  | nil => rw [elementsWithAll, List.flatMap_nil]
  | cons piece rest ih => rw [elementsWithAll, ih, List.flatMap_cons]

/-! ### One element -/

variable {name tag : String} {attributes : List Attribute} {children : List Markup}

theorem elementsWith_void (h : hasName name attributes = false) :
    elementsWith name (.void tag attributes) = [] := by
  rw [elementsWith, h, if_neg Bool.false_ne_true]

/-- An element that is not searched for is looked through. -/
theorem elementsWith_element (h : hasName name attributes = false) :
    elementsWith name (.element tag attributes children) =
      children.flatMap (elementsWith name) := by
  rw [elementsWith, h, if_neg Bool.false_ne_true, List.nil_append, elementsWithAll_eq_flatMap]

/-- An element that is searched for is found, and looked through. -/
theorem elementsWith_element_of_name (h : hasName name attributes = true) :
    elementsWith name (.element tag attributes children) =
      .element tag attributes children :: children.flatMap (elementsWith name) := by
  rw [elementsWith, if_pos h, List.singleton_append, elementsWithAll_eq_flatMap]

/-! ### What stands in a document -/

/-- What it means for a piece of markup to stand in another, which may be the piece itself. -/
inductive IsIn (piece : Markup) : Markup → Prop
  | self : IsIn piece piece
  | child {tag : String} {attributes : List Attribute} {children : List Markup} {child : Markup}
      (hchild : child ∈ children) (h : IsIn piece child) :
      IsIn piece (.element tag attributes children)

theorem IsIn.trans {inner piece outer : Markup} (h : inner.IsIn piece) (houter : piece.IsIn outer) :
    inner.IsIn outer := by
  induction houter with
  | self => exact h
  | child hchild _ ih => exact .child hchild ih

mutual

theorem isIn_of_mem_elementsWith {piece : Markup} :
    (document : Markup) → piece ∈ elementsWith name document →
      piece.IsIn document ∧ hasName name piece.attributes = true
  | text _, h => by
      rw [elementsWith] at h
      cases h
  | styleSheet _, h => by
      rw [elementsWith] at h
      cases h
  | void tag attributes, h => by
      rw [elementsWith, List.mem_ite_nil_right, List.mem_singleton] at h
      obtain ⟨hname, rfl⟩ := h
      exact ⟨.self, hname⟩
  | element tag attributes children, h => by
      rw [elementsWith, List.mem_append, List.mem_ite_nil_right, List.mem_singleton] at h
      rcases h with ⟨hname, rfl⟩ | hlater
      · exact ⟨.self, hname⟩
      · obtain ⟨child, hchild, hin, hname⟩ := isIn_of_mem_elementsWithAll children hlater
        exact ⟨.child hchild hin, hname⟩

theorem isIn_of_mem_elementsWithAll {piece : Markup} :
    (pieces : List Markup) → piece ∈ elementsWithAll name pieces →
      ∃ other ∈ pieces, piece.IsIn other ∧ hasName name piece.attributes = true
  | [], h => by
      rw [elementsWithAll] at h
      cases h
  | first :: rest, h => by
      rw [elementsWithAll, List.mem_append] at h
      rcases h with hfirst | hrest
      · exact ⟨first, List.mem_cons_self, isIn_of_mem_elementsWith first hfirst⟩
      · obtain ⟨other, hother, hin⟩ := isIn_of_mem_elementsWithAll rest hrest
        exact ⟨other, List.mem_cons_of_mem first hother, hin⟩

end

theorem mem_elementsWith_self {piece : Markup} (h : hasName name piece.attributes = true) :
    piece ∈ elementsWith name piece := by
  cases piece with
  | text content => cases h
  | styleSheet content => cases h
  | void tag attributes =>
      have hname : hasName name attributes = true := h
      rw [elementsWith, if_pos hname]
      exact List.mem_singleton_self _
  | element tag attributes children =>
      have hname : hasName name attributes = true := h
      rw [elementsWith_element_of_name hname]
      exact List.mem_cons_self

/-- **What is found in a document is what stands in it with an attribute of the name.** -/
theorem mem_elementsWith_iff {piece document : Markup} :
    piece ∈ elementsWith name document ↔
      piece.IsIn document ∧ hasName name piece.attributes = true := by
  constructor
  · exact isIn_of_mem_elementsWith document
  · rintro ⟨hin, hname⟩
    induction hin with
    | self => exact mem_elementsWith_self hname
    | child hchild _ ih =>
        rw [elementsWith, elementsWithAll_eq_flatMap]
        exact List.mem_append_right _ (List.mem_flatMap.2 ⟨_, hchild, ih⟩)

end Markup

end Enrolment
