/-
The styles of a page and of the picture beside its form.

They are told here as they are written.  A page has a column for the form, or one for a picture
and one for the form; and where a look has an image, the picture shows it and no gradient.
-/
import Enrolment.Style.Sheet

namespace Enrolment.Style

/-- The style of a page with such columns. -/
def pageWith (columns : String) : String :=
  "min-height:100vh;display:grid;grid-template-columns:" ++ columns ++ ";align-items:stretch;gap:0"

/-- A page with the form in one column. -/
def oneColumn : String :=
  pageWith "1fr"

/-- A page with a picture in a column beside that of the form. -/
def twoColumns : String :=
  pageWith "1.1fr .9fr"

/-- The part of the style of a picture in front of the URL of its image. -/
def beforeImage : String :=
  "display:flex;align-items:center;justify-content:center;position:relative;overflow:hidden;" ++
    "background-image:"

/-- The part behind it. -/
def afterImage : String :=
  ";background-size:cover;background-position:center"

/-- The style of a picture that shows an image. -/
def picture (address : String) : String :=
  beforeImage ++ url address ++ afterImage

theorem inline_append {front back : List Declaration} (hfront : front ≠ []) (hback : back ≠ []) :
    inline (front ++ back) = inline front ++ ";" ++ inline back := by
  induction front with
  | nil => exact absurd rfl hfront
  | cons declaration rest ih =>
      cases rest with
      | nil =>
          obtain ⟨next, more, rfl⟩ := List.exists_cons_of_ne_nil hback
          simp only [inline, List.cons_append, List.nil_append, List.map_cons, List.map_nil,
            String.intercalate_cons_cons, String.intercalate_singleton]
      | cons next more =>
          have hrest := ih (List.cons_ne_nil _ _)
          simp only [inline, List.cons_append, List.map_cons, String.intercalate_cons_cons]
            at hrest ⊢
          rw [hrest]
          simp only [String.append_assoc]

theorem head?_picture (address : String) : (picture address).toList.head? = some 'd' := by
  have hfront : beforeImage.toList.head? = some 'd' := by decide +kernel
  rw [picture, String.toList_append, String.toList_append, List.head?_append, List.head?_append,
    hfront]
  rfl

/-- The style of what lies over a picture that shows an image. -/
def overlay : String :=
  "position:absolute;inset:0;background:" ++
    "radial-gradient(1200px 600px at -10% -20%, rgba(37,99,235,.35) 0%, transparent 60%)"

/-- The style of what floats before a gradient. -/
def orb : String :=
  "width:160px;height:160px;border-radius:50%;" ++
    "background:linear-gradient(135deg, #fff, #ffffff55);opacity:0.4;" ++
    "animation:float 6s ease-in-out infinite;filter:blur(4px)"

variable (look : Look)

theorem overlay_eq : (frame look).overlay = overlay := by
  unfold frame
  dsimp only
  decide +kernel

theorem orb_eq : (frame look).orb = orb := by
  unfold frame
  dsimp only
  decide +kernel

theorem page_eq :
    (frame look).page = if look.layout = .split then twoColumns else oneColumn := by
  unfold frame
  dsimp only
  split <;> rfl

/-- A look with an image has a picture of it. -/
theorem aside_eq (h : look.splitImageUrl ≠ "") :
    (frame look).aside = picture look.splitImageUrl := by
  unfold frame
  dsimp only
  rw [backdrop, if_pos h, inline_append (List.cons_ne_nil _ _) (List.cons_ne_nil _ _)]
  have hfront : inline [("display", "flex"), ("align-items", "center"),
      ("justify-content", "center"), ("position", "relative"), ("overflow", "hidden")] ++ ";" ++
        "background-image:" = beforeImage := by
    decide +kernel
  have himage : ∀ address : String, inline [("background-image", address),
      ("background-size", "cover"), ("background-position", "center")] =
        "background-image:" ++ address ++ afterImage := by
    intro address
    rw [inline, List.map_cons, List.map_cons, List.map_singleton, String.intercalate_cons_cons,
      String.intercalate_cons_cons, String.intercalate_singleton, String.append_assoc]
    rfl
  rw [himage, picture, ← hfront]
  simp only [String.append_assoc]

end Enrolment.Style
