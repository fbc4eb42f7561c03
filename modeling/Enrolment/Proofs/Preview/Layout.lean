/-
When a page has a picture beside its form.

A theme may ask for the split layout and may name an image, and the page has a picture just if it
does both, the image being no blank text.  What a layout is resolved to and which image is shown
are decided apart, in the configuration and in the preview once more each; they agree since a
resolved layout is split only beside an image that is not empty.  So the gradient with an orb
before it, which stands in for an image, is never drawn in a preview.
-/
import Enrolment.Proofs.Preview.Blocks
import Enrolment.Proofs.Style.Frame
import Enrolment.Proofs.Text.Basic
import Enrolment.Proofs.Widget.Reading
import Enrolment.Proofs.Widget.Script

namespace Enrolment

/-! ### Layouts -/

/-- What it takes for a theme to show an image beside the form. -/
structure Theme.ShowsImage (theme : Theme) (address : String) : Prop where
  split : theme.layout = some .split
  image : theme.splitImageUrl = some address
  not_blank : ∃ c ∈ address.toList, Text.isBlank c = false

namespace Theme

variable {theme : Theme} {address : String}

theorem ShowsImage.image_eq (h : theme.ShowsImage address) : theme.image = Text.trim address := by
  rw [Theme.image, h.image, Option.getD_some]

theorem trim_ne_empty_iff {text : String} :
    Text.trim text ≠ "" ↔ ∃ c ∈ text.toList, Text.isBlank c = false := by
  rw [ne_eq, ← String.toList_eq_nil_iff, Text.toList_trim, Text.strip_eq_nil_iff]
  simp

/-- **A resolved layout is split just if there is an image to show.** -/
theorem shownLayout_eq_split_iff :
    theme.shownLayout = .split ↔ ∃ address, theme.ShowsImage address := by
  have hcondition : theme.shownLayout = .split ↔
      theme.layout = some .split ∧ theme.image ≠ "" := by
    unfold shownLayout
    simp
  rw [hcondition, Theme.image, trim_ne_empty_iff]
  constructor
  · rintro ⟨hsplit, c, hc, hplain⟩
    cases himage : theme.splitImageUrl with
    | none =>
        rw [himage, Option.getD_none, String.toList_empty] at hc
        cases hc
    | some address =>
        rw [himage] at hc
        exact ⟨address, hsplit, himage, c, hc, hplain⟩
  · rintro ⟨address, h⟩
    rw [h.image]
    exact ⟨h.split, h.not_blank⟩

theorem shownLayout_eq_center (h : ∀ address, ¬theme.ShowsImage address) :
    theme.shownLayout = .center := by
  have hsplit : theme.shownLayout ≠ .split := by
    rw [ne_eq, shownLayout_eq_split_iff, not_exists]
    exact h
  cases hlayout : theme.shownLayout with
  | center => rfl
  | split => exact absurd hlayout hsplit

/-! ### Styles -/

theorem ShowsImage.page_eq (h : theme.ShowsImage address) :
    (Style.frame theme.look).page = Style.twoColumns := by
  have hlayout : theme.look.layout = .split := shownLayout_eq_split_iff.2 ⟨address, h⟩
  rw [Style.page_eq, if_pos hlayout]

theorem page_eq_oneColumn (h : ∀ address, ¬theme.ShowsImage address) :
    (Style.frame theme.look).page = Style.oneColumn := by
  have hlayout : theme.look.layout = .center := shownLayout_eq_center h
  rw [Style.page_eq, hlayout, if_neg (by decide)]

theorem ShowsImage.splitImageUrl_ne_empty (h : theme.ShowsImage address) :
    theme.look.splitImageUrl ≠ "" := by
  have himage : theme.look.splitImageUrl = Text.trim address := h.image_eq
  rw [himage, trim_ne_empty_iff]
  exact h.not_blank

theorem ShowsImage.aside_eq (h : theme.ShowsImage address) :
    (Style.frame theme.look).aside = Style.picture (Text.trim address) := by
  have himage : theme.look.splitImageUrl = Text.trim address := h.image_eq
  rw [Style.aside_eq theme.look h.splitImageUrl_ne_empty, himage]

end Theme

/-- What it means that a configuration follows the layout of a theme. -/
structure Widget.Reading.FollowsLayout (reading : Reading) (theme : Theme) : Prop where
  split : ∀ address, theme.ShowsImage address →
    reading.layout = .split ∧ reading.splitImageUrl = Text.trim address ∧
      reading.frame.page = Style.twoColumns ∧
      reading.frame.aside = Style.picture (Text.trim address)
  center : (∀ address, ¬theme.ShowsImage address) →
    reading.layout = .center ∧ reading.frame.page = Style.oneColumn

theorem Widget.Config.followsLayout_reading (container : Json) (fields : List Field)
    (theme : Theme) (table : Place.Table) :
    (ofForm container fields theme table).reading.FollowsLayout theme where
  split address h :=
    ⟨Theme.shownLayout_eq_split_iff.2 ⟨address, h⟩, h.image_eq, h.page_eq, h.aside_eq⟩
  center h := ⟨Theme.shownLayout_eq_center h, Theme.page_eq_oneColumn h⟩

/-! ### Searching all attributes -/

namespace Markup

/-- Whether all attributes in a piece of markup are of a kind. -/
def AllAttributes (p : Attribute → Prop) (piece : Markup) : Prop :=
  ∀ inner : Markup, inner.IsIn piece → ∀ a ∈ inner.attributes, p a

variable {p : Attribute → Prop} {tag : String} {attributes : List Attribute}
  {children : List Markup}

theorem allAttributes_text (content : String) : AllAttributes p (.text content) := by
  intro inner hin a ha
  cases hin
  cases ha

theorem allAttributes_styleSheet (content : String) : AllAttributes p (.styleSheet content) := by
  intro inner hin a ha
  cases hin
  cases ha

theorem allAttributes_void (h : ∀ a ∈ attributes, p a) :
    AllAttributes p (.void tag attributes) := by
  intro inner hin
  cases hin
  exact h

theorem allAttributes_element (hown : ∀ a ∈ attributes, p a)
    (hchildren : ∀ child ∈ children, AllAttributes p child) :
    AllAttributes p (.element tag attributes children) := by
  intro inner hin
  cases hin with
  | self => exact hown
  | child hchild hin => exact hchildren _ hchild inner hin

theorem allAttributes_textElement (hown : ∀ a ∈ attributes, p a) (content : String) :
    AllAttributes p (.element tag attributes [.text content]) :=
  allAttributes_element hown (List.forall_mem_singleton.2 (allAttributes_text content))

end Markup

namespace Preview

open Markup (AllAttributes allAttributes_element allAttributes_void allAttributes_textElement)

/-! ### No orb is drawn -/

/-- Whether an attribute is not the style of an orb. -/
def IsNoOrb (a : Attribute) : Prop :=
  a ≠ .pair "style" Style.orb

/-- A style begins with its first declaration. -/
theorem isPrefix_inline (property value : String) (rest : List Style.Declaration) :
    property.toList ++ ':' :: value.toList <+:
      (Style.inline ((property, value) :: rest)).toList := by
  have hfirst : (property ++ ":" ++ value).toList = property.toList ++ ':' :: value.toList := by
    rw [String.toList_append, String.toList_append, List.append_assoc]
    rfl
  cases rest with
  | nil =>
      rw [Style.inline, List.map_singleton, String.intercalate_singleton]
      exact hfirst ▸ List.prefix_refl _
  | cons next others =>
      rw [Style.inline, List.map_cons, List.map_cons, String.intercalate_cons_cons,
        String.toList_append, String.toList_append, hfirst, List.append_assoc]
      exact List.prefix_append _ _

/-- The first letter of a style is that of its first property. -/
theorem head?_inline {property value : String} {rest : List Style.Declaration} {c : Char}
    (h : property.toList.head? = some c) :
    (Style.inline ((property, value) :: rest)).toList.head? = some c := by
  obtain ⟨more, hproperty⟩ := List.head?_eq_some_iff.1 h
  obtain ⟨behind, hinline⟩ := isPrefix_inline property value rest
  rw [← hinline, hproperty]
  rfl

/-- A style that begins with another letter is not that of an orb. -/
theorem isNoOrb_style {style : String} {c : Char} (h : style.toList.head? = some c)
    (hc : c ≠ 'w') : IsNoOrb (.pair "style" style) := by
  have hletter : Style.orb.toList.head? = some 'w' := by
    rw [← Style.orb_eq Theme.plain.look]
    exact head?_inline rfl
  intro horb
  injection horb with _ hstyle
  rw [hstyle, hletter, Option.some_inj] at h
  exact hc h.symm

theorem isNoOrb_inline {property value : String} {rest : List Style.Declaration} {c : Char}
    (h : property.toList.head? = some c) (hc : c ≠ 'w') :
    IsNoOrb (.pair "style" (Style.inline ((property, value) :: rest))) :=
  isNoOrb_style (head?_inline h) hc

theorem isNoOrb_labelStyle (field : Field) : IsNoOrb (.pair "style" field.labelStyle) := by
  unfold Field.labelStyle
  dsimp only
  cases field.style.labelColor with
  | some color => exact isNoOrb_inline rfl (by decide : 'c' ≠ 'w')
  | none =>
      cases field.style.labelSize with
      | some size => exact isNoOrb_inline rfl (by decide : 'f' ≠ 'w')
      | none =>
          cases field.style.labelWeight with
          | some weight => exact isNoOrb_inline rfl (by decide : 'f' ≠ 'w')
          | none => exact isNoOrb_inline rfl (by decide : 'd' ≠ 'w')

theorem isNoOrb_controlStyle (field : Field) : IsNoOrb (.pair "style" field.controlStyle) :=
  isNoOrb_inline rfl (by decide : 'b' ≠ 'w')

/-- An attribute with another name is no style. -/
theorem isNoOrb_pair {name : String} (h : name ≠ "style") (value : String) :
    IsNoOrb (.pair name value) := by
  intro horb
  injection horb with hname _
  exact h hname

theorem isNoOrb_flag (name : String) : IsNoOrb (.flag name) :=
  nofun

theorem isNoOrb_commonAttributes (field : Field) (index : Int) :
    ∀ a ∈ commonAttributes field index, IsNoOrb a := by
  simp [commonAttributes, isNoOrb_pair, isNoOrb_controlStyle]

theorem noOrb_option (value text : String) (selected : Bool) :
    AllAttributes IsNoOrb (option value text selected) := by
  refine allAttributes_textElement ?_ text
  cases selected <;> simp [isNoOrb_pair, isNoOrb_flag]

theorem noOrb_list {α : Type} {make : α → Markup} (field : Field) (index : Int) (blank : String)
    (h : ∀ a, AllAttributes IsNoOrb (make a)) (items : List α) :
    AllAttributes IsNoOrb (.element "select" (commonAttributes field index)
      (blankOption blank :: items.map make)) := by
  refine allAttributes_element (isNoOrb_commonAttributes field index) ?_
  rw [List.forall_mem_cons, List.forall_mem_map]
  exact ⟨noOrb_option "" blank false, fun a _ => h a⟩

theorem noOrb_choiceLines (field : Field) (index : Int) (role type : String) :
    AllAttributes IsNoOrb (choiceLines field index role type) := by
  refine allAttributes_element (by simp [isNoOrb_pair]) ?_
  rw [List.forall_mem_map]
  intro choice _
  refine allAttributes_element (by simp [isNoOrb_pair]) ?_
  rw [List.forall_mem_cons, List.forall_mem_singleton]
  exact ⟨allAttributes_void (by simp [isNoOrb_pair]),
    allAttributes_textElement (List.forall_mem_nil _) _⟩

theorem noOrb_control (field : Field) (index : Int) (table : Place.Table) (chosen : String)
    (needsCountry : Bool) : AllAttributes IsNoOrb (control field index table chosen needsCountry) := by
  have hcommon := isNoOrb_commonAttributes field index
  unfold control
  generalize field.control = kind
  cases kind with
  | countrySelect | select => exact noOrb_list field index _ (fun _ => noOrb_option _ _ _) _
  | stateControl =>
      dsimp only [stateControl]
      generalize (if chosen = "" then [] else table.regions chosen) = regions
      generalize StateMode.of _ _ _ = mode
      cases mode with
      | select => exact noOrb_list field index _ (fun _ => noOrb_option _ _ _) _
      | locked | freeText =>
          refine allAttributes_void (List.forall_mem_append.2 ⟨?_, hcommon⟩)
          simp [isNoOrb_pair, isNoOrb_flag]
  | textarea =>
      refine allAttributes_element ?_ (List.forall_mem_nil _)
      simpa [isNoOrb_pair] using hcommon
  | radio | checkboxGroup => exact noOrb_choiceLines field index _ _
  | checkbox => exact allAttributes_void (by simp [isNoOrb_pair])
  | file | input => exact allAttributes_void (by simpa [isNoOrb_pair] using hcommon)

section Page

variable (fields : List Field) (theme : Theme) (table : Place.Table) (view : View) (look : Look)

theorem isNoOrb_error : IsNoOrb (.pair "style" (Style.frame look).error) :=
  isNoOrb_inline rfl (by decide : 'd' ≠ 'w')

theorem noOrb_fieldBlock (country : String) (needsCountry : Bool) (placed : Placed) :
    AllAttributes IsNoOrb
      (fieldBlock table country needsCountry (Style.frame look).error placed) := by
  refine allAttributes_element (by simp [isNoOrb_pair]) ?_
  rw [List.forall_mem_cons, List.forall_mem_cons, List.forall_mem_singleton]
  refine ⟨allAttributes_textElement ?_ _, noOrb_control _ _ _ _ _,
    allAttributes_element ?_ (List.forall_mem_nil _)⟩
  · exact List.forall_mem_singleton.2 (isNoOrb_labelStyle placed.field)
  · simp [isNoOrb_pair, isNoOrb_error]

theorem noOrb_row {block : Placed → Markup} (h : ∀ placed, AllAttributes IsNoOrb (block placed))
    (stacked : Bool) (group : Group) :
    ∀ piece ∈ row block stacked group, AllAttributes IsNoOrb piece := by
  have hblocks : ∀ piece ∈ group.members.map block, AllAttributes IsNoOrb piece :=
    List.forall_mem_map.2 fun placed _ => h placed
  unfold row
  dsimp only
  split
  · rw [List.forall_mem_singleton]
    exact allAttributes_element (by simp [isNoOrb_pair]) hblocks
  · exact hblocks

theorem noOrb_formBody :
    ∀ piece ∈ formBody fields table view look (Style.frame look), AllAttributes IsNoOrb piece := by
  unfold formBody
  dsimp only
  rw [List.forall_mem_append, List.forall_mem_append, List.forall_mem_flatMap,
    List.forall_mem_singleton]
  refine ⟨⟨?_, ?_⟩, ?_⟩
  · intro group _
    exact noOrb_row (noOrb_fieldBlock table look _ _) _ group
  · exact allAttributes_element (by simp [isNoOrb_pair, isNoOrb_error]) (List.forall_mem_nil _)
  · split
    · exact List.forall_mem_nil _
    · have hbutton : IsNoOrb (.pair "style" (Style.frame look).button) :=
        isNoOrb_inline rfl (by decide : 'h' ≠ 'w')
      rw [List.forall_mem_singleton]
      exact allAttributes_textElement (by simp [isNoOrb_pair, hbutton]) _

/-- The style of a card begins with a width too, which is not that of an orb. -/
theorem isNoOrb_card : IsNoOrb (.pair "style" (Style.frame look).card) := by
  have hcard : "width".toList ++ ':' :: "100%".toList <+: (Style.frame look).card.toList :=
    isPrefix_inline "width" "100%" _
  have horb : "width".toList ++ ':' :: "160px".toList <+: (Style.frame look).orb.toList :=
    isPrefix_inline "width" "160px" _
  intro hstyle
  injection hstyle with _ heq
  rw [heq, ← Style.orb_eq look] at hcard
  exact absurd (List.prefix_of_prefix_length_le hcard horb (by decide)) (by decide)

theorem noOrb_card : AllAttributes IsNoOrb (card fields table view look (Style.frame look)) := by
  have htitle : IsNoOrb (.pair "style" (Style.frame look).title) :=
    isNoOrb_inline rfl (by decide : 'f' ≠ 'w')
  have hsubtitle : IsNoOrb (.pair "style" (Style.frame look).subtitle) :=
    isNoOrb_inline rfl (by decide : 'f' ≠ 'w')
  have hform : IsNoOrb (.pair "style" (Style.frame look).form) :=
    isNoOrb_inline rfl (by decide : 'd' ≠ 'w')
  refine allAttributes_element (List.forall_mem_singleton.2 (isNoOrb_card look)) ?_
  rw [List.forall_mem_cons, List.forall_mem_cons, List.forall_mem_singleton]
  refine ⟨allAttributes_textElement ?_ _, allAttributes_textElement ?_ _,
    allAttributes_element ?_ (noOrb_formBody fields table view look)⟩
  · exact List.forall_mem_singleton.2 htitle
  · exact List.forall_mem_singleton.2 hsubtitle
  · simp [isNoOrb_flag, hform]

end Page

/-! ### What stands beside the form -/

/-- The picture of an image, with its overlay. -/
def pictureBlock (address : String) : Markup :=
  .element "div" [.pair "style" (Style.picture address)]
    [.element "div" [.pair "style" Style.overlay] []]

/-- What it means that a document is a page of this style, with nothing on it but the form in its
box and, in front of it, what stands beside the form. -/
def IsPage (document : Markup) (mode style : String) (beside : List Markup) : Prop :=
  ∃ head attributes boxStyle content,
    document = .element "html" [] [head, .element "body" attributes [
      .element "div" [.pair "style" style] (beside ++ [
        .element "div" [.pair "id" ("preview-" ++ mode), .pair "style" boxStyle] [content]])]]

/-- What it means that a preview follows the layout of a theme. -/
structure FollowsLayout (document : Markup) (mode : String) (theme : Theme) : Prop where
  split : ∀ address, theme.ShowsImage address →
    IsPage document mode Style.twoColumns [pictureBlock (Text.trim address)]
  center : (∀ address, ¬theme.ShowsImage address) → IsPage document mode Style.oneColumn []
  /-- No element is styled as the orb before a gradient. -/
  no_orb : ∀ piece : Markup, piece.IsIn document →
    .pair "style" (Style.frame theme.look).orb ∉ piece.attributes

variable {theme : Theme}

theorem aside_of_showsImage {address : String} (h : theme.ShowsImage address) :
    aside theme.look (Style.frame theme.look) = [pictureBlock (Text.trim address)] := by
  have hlayout : theme.look.layout = .split := Theme.shownLayout_eq_split_iff.2 ⟨address, h⟩
  rw [aside, if_pos hlayout, if_pos h.splitImageUrl_ne_empty, h.aside_eq, Style.overlay_eq]
  rfl

theorem aside_eq_nil (h : ∀ address, ¬theme.ShowsImage address) :
    aside theme.look (Style.frame theme.look) = [] := by
  have hlayout : theme.look.layout = .center := Theme.shownLayout_eq_center h
  rw [aside, hlayout, if_neg (by decide)]

/-- The picture beside the form, if there is one, is none of an orb. -/
theorem noOrb_aside (theme : Theme) :
    ∀ piece ∈ aside theme.look (Style.frame theme.look), AllAttributes IsNoOrb piece := by
  by_cases hshown : ∃ address, theme.ShowsImage address
  · obtain ⟨address, h⟩ := hshown
    have hpicture : IsNoOrb (.pair "style" (Style.picture (Text.trim address))) :=
      isNoOrb_style (Style.head?_picture _) (by decide)
    have hoverlay : IsNoOrb (.pair "style" Style.overlay) := by
      rw [← Style.overlay_eq theme.look]
      exact isNoOrb_inline rfl (by decide : 'p' ≠ 'w')
    rw [aside_of_showsImage h, List.forall_mem_singleton]
    refine allAttributes_element (List.forall_mem_singleton.2 hpicture) ?_
    rw [List.forall_mem_singleton]
    exact allAttributes_element (List.forall_mem_singleton.2 hoverlay) (List.forall_mem_nil _)
  · rw [aside_eq_nil (not_exists.1 hshown)]
    exact List.forall_mem_nil _

theorem noOrb_document (fields : List Field) (theme : Theme) (table : Place.Table) (view : View) :
    AllAttributes IsNoOrb (document fields theme table view) := by
  have hbody : IsNoOrb (.pair "style" (Style.frame theme.look).body) :=
    isNoOrb_inline rfl (by decide : 'b' ≠ 'w')
  have hpage : IsNoOrb (.pair "style" (Style.frame theme.look).page) :=
    isNoOrb_inline rfl (by decide : 'm' ≠ 'w')
  have hroot : IsNoOrb (.pair "style" (Style.frame theme.look).root) :=
    isNoOrb_inline rfl (by decide : 'd' ≠ 'w')
  unfold document
  dsimp only
  refine allAttributes_element (List.forall_mem_nil _) ?_
  rw [List.forall_mem_cons, List.forall_mem_singleton]
  constructor
  · refine allAttributes_element (List.forall_mem_nil _) ?_
    exact List.forall_mem_singleton.2 (Markup.allAttributes_styleSheet _)
  · refine allAttributes_element (List.forall_mem_singleton.2 hbody) ?_
    rw [List.forall_mem_singleton]
    refine allAttributes_element (List.forall_mem_singleton.2 hpage) ?_
    rw [List.forall_mem_append, List.forall_mem_singleton]
    refine ⟨noOrb_aside theme, allAttributes_element (by simp [isNoOrb_pair, hroot]) ?_⟩
    rw [List.forall_mem_singleton]
    exact noOrb_card fields table view theme.look

/-- **A preview follows the layout of its theme.** -/
theorem followsLayout_document (fields : List Field) (theme : Theme) (table : Place.Table)
    (view : View) : FollowsLayout (document fields theme table view) view.mode theme where
  split address h := by
    unfold document
    dsimp only
    rw [aside_of_showsImage h, h.page_eq]
    exact ⟨_, _, _, _, rfl⟩
  center h := by
    unfold document
    dsimp only
    rw [aside_eq_nil h, Theme.page_eq_oneColumn h]
    exact ⟨_, _, _, _, rfl⟩
  no_orb piece hin horb := by
    rw [Style.orb_eq] at horb
    exact noOrb_document fields theme table view piece hin _ horb rfl

/-- **A layout is resolved to split just if the theme asks for it and its image is no blank text.
Then the configuration and the preview both have a page of two columns with a picture of this
image, which has the overlay in the preview; and otherwise they have a page of one column, and the
preview has nothing beside the form.  No preview has an orb.** -/
theorem layout_followed {value : Json} {theme : Theme} (htheme : Theme.read value = .ok theme)
    (table : Place.Table) :
    (theme.look.layout = .split ↔ ∃ address, theme.ShowsImage address) ∧
    (∀ (container : Option String) (items : List Json) (fields : List Field),
      Field.ofItems items = .ok fields →
      ∃ script wire reading,
        Widget.compileValues (Json.ofText? container) (.arr items) value table = .ok script ∧
        Json.read? script.payload = some wire ∧ Widget.Reading.ofWire? wire = some reading ∧
        reading.FollowsLayout theme) ∧
    ∀ (form : Json) (fields : List Field) (view : View), Field.readList form = .ok fields →
      ∃ shown, ofValues form value table view = .ok (Markup.renderDocument shown) ∧
        FollowsLayout shown view.mode theme := by
  refine ⟨Theme.shownLayout_eq_split_iff, ?_, ?_⟩
  · intro container items fields hfields
    have hplain := Widget.Config.plain_toWire
      (Widget.Config.plain_container container fields theme table)
    exact ⟨_, _, _, Widget.compileValues_eq hfields htheme _ table, Json.read?_write hplain,
      Widget.Reading.ofWire?_toWire _, Widget.Config.followsLayout_reading _ fields theme table⟩
  · intro form fields view hform
    refine ⟨_, ?_, followsLayout_document fields theme table view⟩
    simp only [ofValues, hform, htheme]
    rfl

/-- A theme that asks for the split layout with an image. -/
def heroTheme : Json :=
  .obj [("layout", .str " Split "), ("splitImageUrl", .str " hero.png\n")]

/-- What is read from it. -/
def heroRead : Theme :=
  { Theme.plain with layout := some .split, splitImageUrl := some " hero.png\n" }

/-- The image is shown without the blanks around it. -/
theorem hero_shown :
    Theme.read heroTheme = .ok heroRead ∧ heroRead.look.layout = .split ∧
    (∃ script wire reading,
      Widget.compileValues .null (.arr []) heroTheme Place.builtIn = .ok script ∧
      Json.read? script.payload = some wire ∧ Widget.Reading.ofWire? wire = some reading ∧
      reading.frame.page = Style.twoColumns ∧ reading.frame.aside = Style.picture "hero.png") ∧
    ∃ shown, ofValues (.arr []) heroTheme Place.builtIn ⟨"mobile", ""⟩ =
        .ok (Markup.renderDocument shown) ∧
      IsPage shown "mobile" Style.twoColumns [pictureBlock "hero.png"] := by
  have hread : Theme.read heroTheme = .ok heroRead := rfl
  have hshows : heroRead.ShowsImage " hero.png\n" := ⟨rfl, rfl, 'h', by decide, by decide⟩
  have htrim : Text.trim " hero.png\n" = "hero.png" := by decide +kernel
  obtain ⟨hlayout, hconfig, hpreview⟩ := layout_followed hread Place.builtIn
  obtain ⟨script, wire, reading, hscript, hwire, hreading, hfollows⟩ := hconfig none [] [] rfl
  obtain ⟨shown, hshown, hdocument⟩ := hpreview (.arr []) [] ⟨"mobile", ""⟩ rfl
  obtain ⟨-, -, hpage, haside⟩ := hfollows.split _ hshows
  have hpicture := hdocument.split _ hshows
  rw [htrim] at haside hpicture
  exact ⟨hread, hlayout.2 ⟨_, hshows⟩, ⟨script, wire, reading, hscript, hwire, hreading, hpage,
    haside⟩, shown, hshown, hpicture⟩

end Preview

end Enrolment
