/-
The theme of a form: the texts and styles around its fields.
-/
import Enrolment.Form.Setting

namespace Enrolment

/-- The layouts of the page: one column, or an image beside the form. -/
inductive Layout where
  | center | split
deriving DecidableEq

/-- The name of a layout. -/
def Layout.name : Layout → String
  | center => "center"
  | split => "split"

/-- Reads a layout; unknown ones are none. -/
def Layout.read? (value : Json) : Option Layout :=
  match Setting.word value with
  | "split" => some split
  | "center" => some center
  | _ => none

/-- What may be set for the page around the fields. -/
structure Theme where
  title : Option String
  subtitle : Option String
  titleColor : Option String
  titleFontSize : Option Binary64
  titleFontWeight : Option String
  subtitleColor : Option String
  subtitleFontSize : Option Binary64
  subtitleFontWeight : Option String
  primaryColor : Option String
  layout : Option Layout
  splitImageUrl : Option String
  buttonText : Option String
  buttonBackground : Option String
  buttonColor : Option String
  buttonRadius : Option Binary64
  formBackground : Option String
  pageBackground : Option String

namespace Theme

/-- Nothing set. -/
def plain : Theme :=
  ⟨none, none, none, none, none, none, none, none, none, none, none, none, none, none, none, none,
    none⟩

/-- Reads a theme from the members of an object. -/
def ofMembers (members : Members) : Except Overflow Theme := do
  let text (key other : String) := (members.either? key other).bind Json.caption?
  let number (key other : String) := Setting.optional Setting.number? (members.either? key other)
  let titleFontSize ← number "titleFontSize" "title_font_size"
  let subtitleFontSize ← number "subtitleFontSize" "subtitle_font_size"
  let buttonRadius ← number "buttonRadius" "button_radius"
  return {
    title := text "title" "title"
    subtitle := text "subtitle" "subtitle"
    titleColor := text "titleColor" "title_color"
    titleFontSize
    titleFontWeight := text "titleFontWeight" "title_font_weight"
    subtitleColor := text "subtitleColor" "subtitle_color"
    subtitleFontSize
    subtitleFontWeight := text "subtitleFontWeight" "subtitle_font_weight"
    primaryColor := text "primaryColor" "primary_color"
    layout := (members.get? "layout").bind Layout.read?
    splitImageUrl := text "splitImageUrl" "split_image_url"
    buttonText := text "buttonText" "button_text"
    buttonBackground := text "buttonBg" "button_bg"
    buttonColor := text "buttonColor" "button_color"
    buttonRadius
    formBackground := text "formBackgroundColor" "form_background_color"
    pageBackground := text "pageBackgroundColor" "page_background_color" }

/-- Reads a theme from any value; what is no object sets nothing. -/
def read : Json → Except Overflow Theme
  | .obj members => ofMembers members
  | _ => .ok plain

end Theme

end Enrolment
