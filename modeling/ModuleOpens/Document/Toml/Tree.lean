/-
# Document.Toml.Tree — tables as they are built line by line

A table may come into being because a longer heading or key passes through it;
it is then implicit, and may still be given a heading of its own, once. A table
made by the points of a key may be extended by such keys only. A list of tables
grows by one table with each of its headings, and whatever passes through the
list goes to the last one.
-/
import ModuleOpens.Document.Basic

namespace ModuleOpens.Toml

set_option autoImplicit false

inductive Node where
  | value (document : Document)
  /-- A table; `headless` when no heading named it, `pointed` when the points of a key made it. -/
  | table (headless pointed : Bool) (members : List (String × Node))
  /-- A list of tables, each made by a heading. -/
  | tables (elements : List (List (String × Node)))

abbrev Members := List (String × Node)

namespace Members

def get? (members : Members) (key : String) : Option Node :=
  (members.find? fun member => member.1 == key).map Prod.snd

/-- `key` stands for `node`: in its old place, or else at the end. -/
def put (members : Members) (key : String) (node : Node) : Members :=
  match members with
  | [] => [(key, node)]
  | (k, old) :: rest => if k = key then (k, node) :: rest else (k, old) :: put rest key node

def erase (members : Members) (key : String) : Members :=
  members.filter fun member => member.1 != key

/-- A value for a key with points: `path` are its parts but the last. Nothing may be given
twice, no table with a heading may be extended, and the table that takes the value must have
been made by points itself. -/
def insert (key : String) (node : Node) : List String → Members → Option Members
  | [], members => if (members.get? key).isSome then none else some (members.put key node)
  | part :: path, members =>
    match members.get? part with
    | none => do return members.put part (.table true true (← insert key node path []))
    | some (.table headless pointed inner) =>
      if !headless || (path.isEmpty && !pointed) then none
      else do return members.put part (.table headless pointed (← insert key node path inner))
    | some (.tables elements) =>
      match elements.getLast? with
      | none => none
      | some last =>
        if path.isEmpty then none
        else do
          return members.put part (.tables (elements.dropLast ++ [← insert key node path last]))
    | some (.value _) => none

/-- The table at the end of `path`, changed; tables that are missing on the way come into
being. `change` also gives something back. -/
def change {α : Type} (alter : Members → Option (Members × α)) :
    List String → Members → Option (Members × α)
  | [], members => alter members
  | part :: path, members =>
    match members.get? part with
    | none => do
      let (inner, result) ← change alter path []
      return (members.put part (.table true false inner), result)
    | some (.table headless pointed inner) => do
      let (inner, result) ← change alter path inner
      return (members.put part (.table headless pointed inner), result)
    | some (.tables elements) =>
      match elements.getLast? with
      | none => none
      | some last => do
        let (last, result) ← change alter path last
        return (members.put part (.tables (elements.dropLast ++ [last])), result)
    | some (.value _) => none

end Members

/-- The tables built so far. Lines without a heading of their own go to the open table, which
is put in its place when the next heading opens another one. -/
structure Builder where
  root : Members
  /-- The parts of the heading of the open table; none before the first heading. -/
  heading : Option (List String × String)
  /-- The open table is one of a list. -/
  listed : Bool
  members : Members

namespace Builder

def empty : Builder := ⟨[], none, false, []⟩

/-- A line `path.key = value`. -/
def addValue (builder : Builder) (path : List String) (key : String) (value : Document) :
    Option Builder := do
  return { builder with members := ← builder.members.insert key (.value value) path }

def pushTable (key : String) (table members : Members) : Option (Members × Unit) :=
  match members.get? key with
  | some (.tables elements) => some (members.put key (.tables (elements ++ [table])), ())
  | none => some (members.put key (.tables [table]), ())
  | _ => none

/-- The open table under its own key. -/
def placeTable (key : String) (table members : Members) : Option (Members × Unit) :=
  match members.get? key with
  | none => some (members.put key (.table false false table), ())
  | some (.table true _ _) => some (members.put key (.table false false table), ())
  | _ => none

/-- The whole tree, with the open table in its place. -/
def close (builder : Builder) : Option Members :=
  match builder.heading with
  | none => some builder.members
  | some (path, key) =>
    let place := if builder.listed then pushTable else placeTable
    (Members.change (place key builder.members) path builder.root).map Prod.fst

/-- A table may be opened under `key`: there is none, or one without a heading, whose members
it takes over. -/
def takeTable (key : String) (members : Members) : Option (Members × Members) :=
  match members.get? key with
  | none => some (members, [])
  | some (.table true false inner) => some (members.erase key, inner)
  | _ => none

/-- A list of tables may grow under `key`. -/
def reserveList (key : String) (members : Members) : Option (Members × Members) :=
  match members.get? key with
  | none => some (members.put key (.tables []), [])
  | some (.tables _) => some (members, [])
  | _ => none

/-- A heading: the open table is closed, and another one opened. -/
def addHeading (builder : Builder) (listed : Bool) (path : List String) (key : String) :
    Option Builder := do
  let root ← builder.close
  let start := if listed then reserveList else takeTable
  let (root, members) ← Members.change (start key) path root
  return ⟨root, some (path, key), listed, members⟩

end Builder

mutual

def Node.toDocument : Node → Document
  | .value document => document
  | .table _ _ members => .record (membersToDocuments members)
  | .tables elements => .list (elementsToDocuments elements)

def membersToDocuments : List (String × Node) → List (Option String × Document)
  | [] => []
  | (key, node) :: rest => (some key, node.toDocument) :: membersToDocuments rest

def elementsToDocuments : List (List (String × Node)) → List Document
  | [] => []
  | members :: rest => .record (membersToDocuments members) :: elementsToDocuments rest

end

end ModuleOpens.Toml
