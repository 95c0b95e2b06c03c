/-
# Manifest — the opens that a packaged artifact asks for

A manifest holds attributes in the order in which they were first set. The
attribute `Add-Opens` lists `module/package` entries, separated by spaces, in
the order of module and then package. It can only open to all unnamed modules,
so the opening modules of the requests are left out.
-/
import ModuleOpens.Event
import ModuleOpens.Request
import ModuleOpens.Table

namespace ModuleOpens

set_option autoImplicit false

/-- The attribute that holds the opens. -/
def addOpensAttribute : String := "Add-Opens"

/-- The pairs of module and package that some requests open, in increasing order. -/
structure Requirements where
  entries : List (String × String)
  deriving DecidableEq, Repr

/-- The attributes of a manifest, in the order in which they were first set. -/
structure Attributes where
  table : Table String String
  deriving DecidableEq, Repr

namespace Requirements

def pairs (request : OpenRequest) : List (String × String) :=
  request.packages.map fun package => (request.opened, package)

def ofRequests (requests : List OpenRequest) : Requirements :=
  ⟨sortedSet textPairBefore (requests.flatMap pairs)⟩

def isEmpty (requirements : Requirements) : Bool :=
  requirements.entries.isEmpty

def size (requirements : Requirements) : Nat :=
  requirements.entries.length

/-- An entry as the attribute shows it. -/
def entryText (entry : String × String) : String :=
  entry.1 ++ "/" ++ entry.2

def value? (requirements : Requirements) : Option String :=
  if requirements.isEmpty then none
  else some (" ".intercalate (requirements.entries.map entryText))

theorem value?_eq_none_iff {requirements : Requirements} :
    requirements.value? = none ↔ requirements.entries = [] := by
  simp [value?, isEmpty]

end Requirements

namespace Attributes

def empty : Attributes :=
  ⟨Table.empty⟩

def size (attributes : Attributes) : Nat :=
  attributes.table.size

def get? (attributes : Attributes) (key : String) : Option String :=
  attributes.table.get? key

/-- `key` is set to `value`, in its old place if it had one; the value that it had comes back. -/
def insert (attributes : Attributes) (key value : String) : Option String × Attributes :=
  let (previous, table) := attributes.table.exchange key value
  (previous, ⟨table⟩)

def text (attributes : Attributes) : String :=
  String.join (attributes.table.entries.map fun (key, value) => key ++ ": " ++ value ++ "\n")

/-- The value that stood in `Add-Opens` before is gone. -/
def overwritten (previous : String) : Event :=
  .warn ("An '" ++ addOpensAttribute ++ "' entry was already defined in the manifest ('"
    ++ previous ++ "'); it has been overwritten by the opens required by the application's "
    ++ "modules")

/-- The attribute `Add-Opens` is set to the value of the requirements, with a warning
when it was set before; without entries nothing changes. -/
def render (attributes : Attributes) (requirements : Requirements) : Attributes × List Event :=
  match requirements.value? with
  | none =>
    (attributes, [.debug ("No module opens required, not writing " ++ addOpensAttribute)])
  | some value =>
    let (previous, written) := attributes.insert addOpensAttribute value
    (written, (previous.map overwritten).toList)

end Attributes

end ModuleOpens
