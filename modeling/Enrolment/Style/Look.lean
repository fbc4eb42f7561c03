/-
A theme with every default filled in.

The headings and the button take the primary colour unless they have one of their
own.  The split layout needs an image; without one the page has a single column.
-/
import Enrolment.Form.Theme

namespace Enrolment

/-- The texts and styles that a page is shown with. -/
structure Look where
  title : String
  subtitle : String
  titleColor : String
  titleFontSize : String
  titleFontWeight : String
  subtitleColor : String
  subtitleFontSize : String
  subtitleFontWeight : String
  primaryColor : String
  layout : Layout
  splitImageUrl : String
  buttonText : String
  buttonBackground : String
  buttonColor : String
  buttonRadius : String
  formBackground : String
  pageBackground : String
deriving DecidableEq

namespace Theme

/-- A text that is set and not empty, or else a default. -/
def textOr (text : Option String) (default : String) : String :=
  match text with
  | some s => if s = "" then default else s
  | none => default

/-- A number that is set, or else a default; a whole number is written without a point. -/
def numberOr (number : Option Binary64) (default : String) : String :=
  match number with
  | some x => (Json.num x).plain
  | none => default

/-- The address of the image without blanks around it; empty if there is none. -/
def image (theme : Theme) : String :=
  Text.trim (theme.splitImageUrl.getD "")

/-- The layout, which is split only if there is an image. -/
def shownLayout (theme : Theme) : Layout :=
  if theme.layout = some .split && theme.image ≠ "" then .split else .center

/-- A theme with its defaults. -/
def look (theme : Theme) : Look :=
  let primary := textOr theme.primaryColor "#2563eb"
  { title := textOr theme.title "Create your account"
    subtitle := textOr theme.subtitle "Please fill in the form to continue"
    titleColor := textOr theme.titleColor primary
    titleFontSize := numberOr theme.titleFontSize "22"
    titleFontWeight := textOr theme.titleFontWeight "800"
    subtitleColor := textOr theme.subtitleColor primary
    subtitleFontSize := numberOr theme.subtitleFontSize "13"
    subtitleFontWeight := textOr theme.subtitleFontWeight "400"
    primaryColor := primary
    layout := theme.shownLayout
    splitImageUrl := theme.image
    buttonText := textOr theme.buttonText "Create account"
    buttonBackground := textOr theme.buttonBackground primary
    buttonColor := textOr theme.buttonColor "#fff"
    buttonRadius := numberOr theme.buttonRadius "10"
    formBackground := textOr theme.formBackground "#ffffff"
    pageBackground := textOr theme.pageBackground "#f9fafb" }

end Theme

end Enrolment
