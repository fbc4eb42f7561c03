/-
Markup as a tree.

Text and the values of attributes are escaped where the tree is written and nowhere
else, so no content can end a tag or a value.  The one exception is a style sheet,
which stands in the markup as it is.
-/

namespace Enrolment

/-- An attribute of an element: a name that is there, or a name with a value. -/
inductive Attribute where
  | flag (name : String)
  | pair (name : String) (value : String)
deriving DecidableEq

/-- A piece of markup. -/
inductive Markup where
  | text (content : String)
  | styleSheet (content : String)
  | void (tag : String) (attributes : List Attribute)
  | element (tag : String) (attributes : List Attribute) (children : List Markup)

namespace Markup

/-- The written form of a character in text or in the value of an attribute. -/
def escapeChar (c : Char) : List Char :=
  match c with
  | '&' => "&amp;".toList
  | '<' => "&lt;".toList
  | '>' => "&gt;".toList
  | '"' => "&quot;".toList
  | '\'' => "&#x27;".toList
  | _ => [c]

/-- The written form of text or of the value of an attribute. -/
def escape (s : String) : String :=
  String.ofList (s.toList.flatMap escapeChar)

/-- An attribute in its written form. -/
def renderAttribute : Attribute → String
  | .flag name => " " ++ name
  | .pair name value => " " ++ name ++ "=\"" ++ escape value ++ "\""

/-- The attributes of an element in their written form. -/
def renderAttributes (attributes : List Attribute) : String :=
  String.join (attributes.map renderAttribute)

mutual

/-- A piece of markup in its written form. -/
def render : Markup → String
  | text content => escape content
  | styleSheet content => "<style>" ++ content ++ "</style>"
  | void tag attributes => "<" ++ tag ++ renderAttributes attributes ++ " />"
  | element tag attributes children =>
    "<" ++ tag ++ renderAttributes attributes ++ ">" ++ renderAll children ++ "</" ++ tag ++ ">"

/-- Pieces of markup, one after another. -/
def renderAll : List Markup → String
  | [] => ""
  | piece :: rest => render piece ++ renderAll rest

end

/-- A whole document. -/
def renderDocument (root : Markup) : String :=
  "<!DOCTYPE html>" ++ render root

end Markup

end Enrolment
