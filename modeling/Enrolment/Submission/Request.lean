/-
A signup request as it was submitted.

The answers keep the order in which they came.  Reading fails only for the list of
uploads: for a media type that is no text, or a size that cannot be an integer.
-/
import Enrolment.Form.Basic

namespace Enrolment

/-- A file that came with a request. -/
structure Upload where
  name : String
  url : String
  contentType : Option String
  size : Option Int

/-- A signup request. -/
structure Request where
  id : Option String
  data : Members
  email : Option String
  files : List Upload

namespace Upload

/-- Reads a media type, which may be null or missing. -/
def readContentType? : Option Json → Option (Option String)
  | none | some .null => some none
  | some (.str s) => some (some s)
  | some _ => none

/-- Reads an upload from the members of an object; its position serves to say what is wrong. -/
def ofMembers (index : Nat) (members : Members) : Except Overflow (Except Misfit Upload) := do
  let size ← Setting.optional Setting.size? (members.get? "size")
  return match readContentType? (members.either? "contentType" "content_type") with
    | none => .error ⟨[.member "files", .item index,
        .member (members.spelling "contentType" "content_type")], .text⟩
    | some contentType => .ok {
        name := ((members.get? "name").map Json.display).getD ""
        url := ((members.get? "url").map Json.display).getD ""
        contentType
        size }

/-- Reads the uploads of a list, numbered from `index` on; items that are no objects are passed
over and not counted. -/
def readItems (index : Nat) : List Json → Except Overflow (List Upload × List Misfit)
  | [] => .ok ([], [])
  | .obj members :: rest => do
    let upload ← ofMembers index members
    let (uploads, misfits) ← readItems (index + 1) rest
    return match upload with
      | .ok upload => (upload :: uploads, misfits)
      | .error misfit => (uploads, misfit :: misfits)
  | _ :: rest => readItems index rest

/-- Reads the uploads of a request; what is no list holds none. -/
def readList : Option Json → Except Overflow (List Upload × List Misfit)
  | some (.arr items) => readItems 0 items
  | _ => .ok ([], [])

end Upload

namespace Request

/-- Reads a text that may not be spread over a list or an object. -/
def readText? : Json → Option String
  | .arr _ | .obj _ => none
  | value => value.caption?

/-- Reads a request from the members of an object. -/
def ofMembers (members : Members) : Except ReadError Request := do
  let (files, misfits) ← (Upload.readList (members.get? "files")).mapError .overflow
  if misfits.isEmpty then
    return {
      id := (members.get? "id").bind readText?
      data := ((members.get? "data").getD .null).members
      email := (members.get? "email").bind readText?
      files }
  else throw (.misfits misfits)

/-- Reads a request. -/
def read : Json → Except ReadError Request
  | .obj members => ofMembers members
  | _ => .error .notObject

/-- Reads a request from whatever was submitted; what is no object is an empty request. -/
def readAny : Json → Except ReadError Request
  | .obj members => ofMembers members
  | _ => ofMembers []

end Request

end Enrolment
