/-
# Request.Codec — requests as JSON

A request is written as a record of its two modules and its packages, in that
order. The opening module may be left out when it is `ALL-UNNAMED`. A text that
fits but asks for an invalid request is refused for that reason before anything
after the record is looked at.
-/
import ModuleOpens.Document.Decode
import ModuleOpens.Document.JsonReader
import ModuleOpens.Document.JsonWriter
import ModuleOpens.Request

namespace ModuleOpens.OpenRequest

set_option autoImplicit false

inductive ReadError where
  | malformed
  /-- The text fits, but what it asks for is no request. -/
  | invalid (cause : RequestError)
  deriving DecidableEq, Repr

/-- The names of the fields, in order. -/
def fieldNames : List String := ["opened_module", "opening_module", "packages"]

def toDocument (request : OpenRequest) : Document :=
  .ofMembers [("opened_module", .ofText request.opened), ("opening_module", .ofText request.opening),
    ("packages", .ofTexts request.packages)]

/-- The modules and packages of a record, not checked yet. -/
def arguments? (document : Document) : Option (String × String × List String) := do
  let fields ← document.fields? .json fieldNames
  let opened ← fields.readRequired "opened_module" Document.asText?
  let opening ← fields.readOr "opening_module" Document.asText? allUnnamed
  let packages ← fields.readRequired "packages" (Document.asList? Document.asText?)
  return (opened, opening, packages)

def toJson (request : OpenRequest) : String :=
  Json.compact request.toDocument

def ofJson (text : String) : Except ReadError OpenRequest :=
  match Json.readFirst text.toList with
  | none => .error .malformed
  | some (document, rest) =>
    match arguments? document with
    | none => .error .malformed
    | some (opened, opening, packages) =>
      match make opened opening packages with
      | .error cause => .error (.invalid cause)
      | .ok request => if Json.atEnd rest then .ok request else .error .malformed

end ModuleOpens.OpenRequest
