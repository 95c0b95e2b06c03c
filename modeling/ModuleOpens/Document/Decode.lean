/-
# Document.Decode — records with known fields, read from documents

A record with known fields is written as a record, whose other members are
ignored, or as a list of its fields in their order. No known field may be given
twice. A field that is missing has a default, or else the record is refused.

A choice among words is written as a text, or as a record whose only member is
named by the word and says nothing.
-/
import ModuleOpens.Document.Basic
import ModuleOpens.Table

namespace ModuleOpens

set_option autoImplicit false

inductive DocumentFormat where
  | json
  | toml
  deriving DecidableEq, Repr

/-- The known fields of a record that are given. -/
abbrev Fields := Table String Document

namespace Fields

/-- The value of a field, or `absent` when it is not given. -/
def read {α : Type} (fields : Fields) (name : String) (decode : Document → Option α)
    (absent : Option α) : Option α :=
  match fields.get? name with
  | some document => decode document
  | none => absent

/-- The value of a field that has a default. -/
def readOr {α : Type} (fields : Fields) (name : String) (decode : Document → Option α)
    (default : α) : Option α :=
  fields.read name decode (some default)

/-- The value of a field that must be given. -/
def readRequired {α : Type} (fields : Fields) (name : String) (decode : Document → Option α) :
    Option α :=
  fields.read name decode none

end Fields

namespace Document

/-- The members with known names, added to `fields`; none when a known name is given twice or
a key has no content. -/
def knownMembers (names : List String) (fields : Fields) :
    List (Option String × Document) → Option Fields
  | [] => some fields
  | (none, _) :: _ => none
  | (some key, value) :: rest =>
    if key ∈ names then
      if fields.contains key then none else knownMembers names (fields.set key value) rest
    else knownMembers names fields rest

/-- The items as the fields of these names. JSON refuses more items than names; TOML leaves
the others aside. -/
def positionalFields (format : DocumentFormat) (names : List String) (items : List Document) :
    Option Fields :=
  if format = .json ∧ names.length < items.length then none
  else some (Table.ofList (names.zip items))

/-- The known fields of a record. -/
def fields? (format : DocumentFormat) (names : List String) : Document → Option Fields
  | .record members => knownMembers names .empty members
  | .list items => positionalFields format names items
  | _ => none

def asText? : Document → Option String
  | .text content => content
  | _ => none

def asOptionalText? : Document → Option (Option String)
  | .null => some none
  | .text (some content) => some (some content)
  | _ => none

def asBool? : Document → Option Bool
  | .bool value => some value
  | _ => none

/-- An integer of 64 bits without sign. -/
def asUInt64? : Document → Option UInt64
  | .integer (.ofNat n) => if n < UInt64.size then some (UInt64.ofNat n) else none
  | _ => none

def asList? {α : Type} (decode : Document → Option α) : Document → Option (List α)
  | .list items => items.mapM decode
  | _ => none

/-- The content of a choice that says nothing: `null` in JSON, an empty list or record in TOML. -/
def saysNothing (format : DocumentFormat) : Document → Bool
  | .null => format == .json
  | .list [] => format == .toml
  | .record [] => format == .toml
  | _ => false

/-- The word of a choice. -/
def asWord? (format : DocumentFormat) : Document → Option String
  | .text content => content
  | .record [(some word, value)] => if saysNothing format value then some word else none
  | _ => none

end Document

end ModuleOpens
