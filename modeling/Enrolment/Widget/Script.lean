/-
The script of a widget: the program with its configuration in place.

Equal inputs give equal scripts.  A form that is incomplete is filled in with
defaults; what cannot be compiled is only something that is no list of fields, or
that holds a number no field or theme can take.
-/
import Enrolment.Json.Writer
import Enrolment.Widget.Config
import Enrolment.Widget.Template

namespace Enrolment.Widget

/-- A script, of which the payload is the written configuration. -/
structure Script where
  payload : List Char

namespace Script

/-- The script of a configuration. -/
def ofConfig (config : Config) : Script :=
  ⟨config.toWire.write⟩

/-- The characters of a script. -/
def chars (script : Script) : List Char :=
  opening.toList ++ script.payload ++ closing.toList

/-- The text of a script. -/
def text (script : Script) : String :=
  String.ofList script.chars

/-- The text of a script's configuration. -/
def payloadText (script : Script) : String :=
  String.ofList script.payload

end Script

/-- Why there is no script. -/
inductive CompileError where
  | notList (kind : String)
  | overflow (cause : Overflow)

/-- The message of a missing script. -/
def CompileError.message : CompileError → String
  | notList kind => "fields must be a list, got " ++ kind
  | overflow cause => cause.message

/-- Compiles a form. -/
def compile (container : Json) (fields : List Field) (theme : Theme) (table : Place.Table) :
    Script :=
  .ofConfig (.ofForm container fields theme table)

/-- Compiles whatever was given as fields and theme. -/
def compileValues (container fields theme : Json) (table : Place.Table) :
    Except CompileError Script := do
  match fields with
  | .arr items =>
    let fields ← (Field.ofItems items).mapError .overflow
    let theme ← (Theme.read theme).mapError .overflow
    return compile container fields theme table
  | value => throw (.notList value.kind)

end Enrolment.Widget
