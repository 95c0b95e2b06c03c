/-
# Graph.Change — adding edges

There are two ways to add edges. `addOpens` adds one opens edge; `redefine` adds
any number of edges of every kind to one module, after checking all of them.
Both refuse unknown modules and packages, and leave unnamed modules as they
are. Both make every check before they write, so that a refused change leaves
no trace. An edge is counted where it is added, when it was not there before.
-/
import ModuleOpens.Attempt
import ModuleOpens.Graph.Basic

namespace ModuleOpens

set_option autoImplicit false

/-- Edges to add to one module. -/
structure Redefinition where
  reads : List ModuleHandle
  exports : Table String (List ModuleHandle)
  opens : Table String (List ModuleHandle)
  uses : List String
  provides : Table String (List String)
  deriving DecidableEq, Repr

def Redefinition.empty : Redefinition where
  reads := []
  exports := .empty
  opens := .empty
  uses := []
  provides := .empty

def Redefinition.ofOpens (opens : Table String (List ModuleHandle)) : Redefinition :=
  { Redefinition.empty with opens }

namespace ModuleRecord

/-- The values for `key`, added to those that a table of lists has for it. -/
def extendEntry {α : Type} [DecidableEq α] (edges : Table String (List α)) (key : String)
    (values : List α) : Table String (List α) :=
  edges.alter key fun present => addAll (present.getD []) values

/-- All entries of `more`, added to a table of lists. -/
def extendTable {α : Type} [DecidableEq α] (edges : Table String (List α))
    (more : List (String × List α)) : Table String (List α) :=
  more.foldl (fun edges entry => extendEntry edges entry.1 entry.2) edges

/-- How many values are new when all entries of `more` are added to a table of lists. -/
def countNewIn {α : Type} [DecidableEq α] (edges : Table String (List α)) :
    List (String × List α) → Nat
  | [] => 0
  | entry :: rest =>
    countNew ((edges.get? entry.1).getD []) entry.2
      + countNewIn (extendEntry edges entry.1 entry.2) rest

def idsOf (targets : List (String × List ModuleHandle)) : List (String × List ModuleId) :=
  targets.map fun entry => (entry.1, entry.2.map ModuleHandle.id)

def extended (record : ModuleRecord) (redefinition : Redefinition) : ModuleRecord :=
  { record with
    reads := addAll record.reads (redefinition.reads.map ModuleHandle.id)
    exports := extendTable record.exports (idsOf redefinition.exports.entries)
    opens := extendTable record.opens (idsOf redefinition.opens.entries)
    uses := addAll record.uses redefinition.uses
    provides := extendTable record.provides redefinition.provides.entries }

/-- How many edges of a redefinition the module does not have yet. -/
def newEdges (record : ModuleRecord) (redefinition : Redefinition) : Nat :=
  countNew record.reads (redefinition.reads.map ModuleHandle.id)
    + countNewIn record.exports (idsOf redefinition.exports.entries)
    + countNewIn record.opens (idsOf redefinition.opens.entries)
    + countNew record.uses redefinition.uses
    + countNewIn record.provides redefinition.provides.entries

def withOpens (record : ModuleRecord) (package : String) (target : ModuleId) : ModuleRecord :=
  { record with opens := extendEntry record.opens package [target] }

end ModuleRecord

/-- The packages of which a redefinition adds edges, exports first. -/
def Redefinition.packages (redefinition : Redefinition) : List String :=
  redefinition.exports.keys ++ redefinition.opens.keys

def Redefinition.targets (redefinition : Redefinition) : List ModuleHandle :=
  redefinition.reads ++ redefinition.exports.entries.flatMap Prod.snd
    ++ redefinition.opens.entries.flatMap Prod.snd

namespace Graph

/-- What a change did: the graph after it, and how many edges are new; no count when the
module is unnamed, which no change touches. -/
structure Changed where
  graph : Graph
  newEdges : Option Nat
  deriving DecidableEq, Repr

/-- `source` opens `package` to `target`. The answer tells how many edges are new. -/
def addOpens (source : ModuleHandle) (package : String) (target : ModuleHandle) :
    Attempt Graph MutationError (Option Nat) := do
  let graph ← get
  let _ ← graph.requireModule target
  let record ← graph.requireModule source
  if record.handle.isNamed then
    record.requirePackage package
    set (graph.setModule source.id (record.withOpens package target.id))
    return some (if target.id ∉ ModuleRecord.targetsOf record.opens package then 1 else 0)
  else
    return none

/-- `module` gets the edges of `redefinition`. The answer tells how many of them are new. -/
def redefine (module : ModuleHandle) (redefinition : Redefinition) :
    Attempt Graph MutationError (Option Nat) := do
  let graph ← get
  let record ← graph.requireModule module
  if record.handle.isNamed then
    record.requirePackages redefinition.packages
    graph.requireModules redefinition.targets
    set (graph.setModule module.id (record.extended redefinition))
    return some (record.newEdges redefinition)
  else
    return none

end Graph

end ModuleOpens
