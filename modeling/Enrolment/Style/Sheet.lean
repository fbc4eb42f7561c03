/-
The style sheet of a page and the inline styles of its frame.

The sheet holds what depends on a class or moves; everything else is inline, so
that a page looks the same wherever the widget is put.
-/
import Enrolment.Style.Declaration
import Enrolment.Style.Look

namespace Enrolment.Style

/-- Declarations for a selector. -/
structure Ruleset where
  selector : String
  declarations : List Declaration

/-- A rule set in its written form. -/
def Ruleset.render (ruleset : Ruleset) : String :=
  ruleset.selector ++ "\x7b" ++ inline ruleset.declarations ++ "\x7d"

/-- A part of a style sheet: a rule set, or several under a common head. -/
inductive Block where
  | plain (ruleset : Ruleset)
  | under (head : String) (rulesets : List Ruleset)

/-- A part of a style sheet in its written form. -/
def Block.render : Block → String
  | plain ruleset => ruleset.render
  | under head rulesets =>
    head ++ "\x7b" ++ String.join (rulesets.map Ruleset.render) ++ "\x7d"

/-- The style sheet of a page with a primary colour. -/
def blocks (primaryColor : String) : List Block :=
  [.plain ⟨":root", [("--p", primaryColor)]⟩,
    .under "@keyframes cs-spin" [⟨"to", [("transform", "rotate(360deg)")]⟩],
    .under "@keyframes float" [
      ⟨"0%", [("transform", "translateY(0)")]⟩,
      ⟨"50%", [("transform", "translateY(-8px)")]⟩,
      ⟨"100%", [("transform", "translateY(0)")]⟩],
    .plain ⟨".cs-error", [("color", "#ef4444"), ("font-size", "12px"), ("margin-top", "6px")]⟩,
    .plain ⟨".cs-input-error", [("border-color", "#ef4444 !important")]⟩,
    .plain ⟨".cs-form-error", [("color", "#b91c1c"), ("font-size", "13px")]⟩,
    .plain ⟨".cs-success", [("padding", "16px"), ("border", "1px solid #d1fae5"),
      ("background", "#ecfdf5"), ("color", "#065f46"), ("border-radius", "10px"),
      ("margin-top", "8px")]⟩,
    .plain ⟨".cs-row-group", [("display", "grid"), ("grid-template-columns", "1fr 1fr"),
      ("gap", "14px")]⟩,
    .under "@media (max-width:640px)" [
      ⟨".cs-row-group", [("grid-template-columns", "1fr !important")]⟩],
    .plain ⟨".cs-choice", [("display", "flex"), ("align-items", "center"), ("gap", "8px"),
      ("font-size", "14px"), ("margin", "4px 0")]⟩]

/-- The style sheet of a look. -/
def sheet (look : Look) : String :=
  String.join ((blocks look.primaryColor).map Block.render)

/-- The inline styles of the elements around the fields. -/
structure Frame where
  body : String
  loader : String
  spinner : String
  page : String
  aside : String
  overlay : String
  orb : String
  root : String
  card : String
  title : String
  subtitle : String
  form : String
  error : String
  button : String
deriving DecidableEq

/-- The fonts of a page, in order of preference. -/
def fonts : String :=
  "ui-sans-serif, system-ui, -apple-system, Segoe UI, Roboto, Helvetica, Arial, Noto Sans, " ++
    "Apple Color Emoji, Segoe UI Emoji"

/-- The picture beside the form: the image, or else a gradient in the primary colour. -/
def backdrop (look : Look) : List Declaration :=
  if look.splitImageUrl ≠ "" then
    [("background-image", url look.splitImageUrl), ("background-size", "cover"),
      ("background-position", "center")]
  else
    [("background", "radial-gradient(1200px 600px at -10% -20%, " ++ look.primaryColor ++
      " 0%, transparent 60%), " ++
      "radial-gradient(800px 400px at 120% 120%, #22d3ee55 0%, transparent 60%)")]

/-- The inline styles for a look. -/
def frame (look : Look) : Frame where
  body := inline [("background", look.pageBackground), ("margin", "0"), ("font-family", fonts)]
  loader := inline [("position", "fixed"), ("inset", "0"), ("background", "#ffffff"),
    ("display", "flex"), ("align-items", "center"), ("justify-content", "center"),
    ("z-index", "2147483647")]
  spinner := inline [("width", "40px"), ("height", "40px"), ("border", "4px solid #e5e7eb"),
    ("border-top-color", "var(--p)"), ("border-radius", "50%"),
    ("animation", "cs-spin 1s linear infinite")]
  page := inline [("min-height", "100vh"), ("display", "grid"),
    ("grid-template-columns", if look.layout = .split then "1.1fr .9fr" else "1fr"),
    ("align-items", "stretch"), ("gap", "0")]
  aside := inline ([("display", "flex"), ("align-items", "center"), ("justify-content", "center"),
    ("position", "relative"), ("overflow", "hidden")] ++ backdrop look)
  overlay := inline [("position", "absolute"), ("inset", "0"),
    ("background",
      "radial-gradient(1200px 600px at -10% -20%, rgba(37,99,235,.35) 0%, transparent 60%)")]
  orb := inline [("width", "160px"), ("height", "160px"), ("border-radius", "50%"),
    ("background", "linear-gradient(135deg, #fff, #ffffff55)"), ("opacity", "0.4"),
    ("animation", "float 6s ease-in-out infinite"), ("filter", "blur(4px)")]
  root := inline [("display", "flex"), ("align-items", "center"), ("justify-content", "center"),
    ("padding", "48px 16px")]
  card := inline [("width", "100%"), ("max-width", "520px"), ("background", look.formBackground),
    ("backdrop-filter", "saturate(180%) blur(8px)"), ("border", "1px solid #e5e7eb"),
    ("border-radius", "16px"), ("box-shadow", "0 20px 30px -15px rgba(0,0,0,.2)"),
    ("padding", "28px")]
  title := inline [("font-size", look.titleFontSize ++ "px"),
    ("font-weight", look.titleFontWeight), ("color", look.titleColor), ("margin", "0 0 6px 0")]
  subtitle := inline [("font-size", look.subtitleFontSize ++ "px"),
    ("font-weight", look.subtitleFontWeight), ("color", look.subtitleColor),
    ("margin", "0 0 18px 0")]
  form := inline [("display", "grid"), ("gap", "14px")]
  error := inline [("display", "none")]
  button := inline [("height", "46px"), ("border", "0"),
    ("border-radius", look.buttonRadius ++ "px"), ("background", look.buttonBackground),
    ("color", look.buttonColor), ("font-weight", "700"), ("letter-spacing", ".02em"),
    ("cursor", "pointer"), ("margin-top", "8px"),
    ("transition", "transform .12s ease, opacity .12s ease"), ("width", "100%")]

/-- The inline styles by the names of their elements. -/
def Frame.toMembers (frame : Frame) : Members :=
  [("body", .str frame.body), ("loader", .str frame.loader), ("spinner", .str frame.spinner),
    ("page", .str frame.page), ("aside", .str frame.aside), ("overlay", .str frame.overlay),
    ("orb", .str frame.orb), ("root", .str frame.root), ("card", .str frame.card),
    ("title", .str frame.title), ("subtitle", .str frame.subtitle), ("form", .str frame.form),
    ("error", .str frame.error), ("button", .str frame.button)]

end Enrolment.Style
