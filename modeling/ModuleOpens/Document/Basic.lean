/-
# Document — structured documents

What a JSON or TOML text denotes: numbers, texts, lists and records. Members of
a record stand in the order of the text, repetitions included, so that a reader
of records can refuse a member that is given twice.
-/

namespace ModuleOpens

set_option autoImplicit false

/-- A structured document. The content of a text or key is missing when its escapes name one
half of a character alone: such a text is well formed, and yet says nothing. -/
inductive Document where
  | null
  | bool (value : Bool)
  | integer (value : Int)
  /-- A number that is not written as an integer. -/
  | real (digits : String)
  | text (content : Option String)
  | list (items : List Document)
  | record (members : List (Option String × Document))
  deriving Repr

namespace Document

def ofText (content : String) : Document := .text (some content)

def ofTexts (contents : List String) : Document := .list (contents.map ofText)

/-- A record whose keys have content. -/
def ofMembers (members : List (String × Document)) : Document :=
  .record (members.map fun member => (some member.1, member.2))

end Document

end ModuleOpens
