/-
# Graph.Basic — layers, modules, loaders and the edges between modules

A graph knows modules by number. A module has the packages that it was defined
with, and edges that are only ever added: it reads modules, exports and opens
packages to modules, uses services and provides them. A layer maps names to
modules and has a parent, except the boot layer. A loader has one unnamed
module.

`Graph.edgeCount` counts all edges; `opensTo`, `exportsTo` and `readsModule`
are the views of a graph that its users see.
-/
import ModuleOpens.Graph.Error
import ModuleOpens.Graph.Handle
import ModuleOpens.Sorted
import ModuleOpens.Table

namespace ModuleOpens

set_option autoImplicit false

/-- The layer that every process starts with. -/
def bootLayer : LayerId := 0

structure ModuleRecord where
  handle : ModuleHandle
  layer : Option LayerId
  packages : List String
  reads : List ModuleId
  exports : Table String (List ModuleId)
  opens : Table String (List ModuleId)
  uses : List String
  provides : Table String (List String)
  deriving DecidableEq, Repr

/-- A layer: the modules defined in it, by name. -/
structure Layer where
  parent : Option LayerId
  modules : Table String ModuleId
  deriving DecidableEq, Repr

/-- Modules, layers, and the unnamed module of each loader. -/
structure Graph where
  modules : Table ModuleId ModuleRecord
  layers : Table LayerId Layer
  loaders : Table Nat ModuleId
  deriving DecidableEq, Repr

def total : List Nat → Nat
  | [] => 0
  | count :: rest => count + total rest

namespace ModuleRecord

def isolated (handle : ModuleHandle) (layer : Option LayerId) (packages : List String) :
    ModuleRecord where
  handle
  layer
  packages
  reads := []
  exports := .empty
  opens := .empty
  uses := []
  provides := .empty

/-- The targets of a package in a table of edges. -/
def targetsOf (edges : Table String (List ModuleId)) (package : String) : List ModuleId :=
  (edges.get? package).getD []

def countIn {α : Type} (edges : Table String (List α)) : Nat :=
  total (edges.entries.map fun entry => entry.2.length)

def edgeCount (record : ModuleRecord) : Nat :=
  record.reads.length + countIn record.exports + countIn record.opens + record.uses.length
    + countIn record.provides

/-- The module has the package, or the error that it has not. -/
def requirePackage (record : ModuleRecord) (package : String) : Except MutationError Unit :=
  if package ∈ record.packages then .ok ()
  else .error (.unknownPackage record.handle.text package)

/-- The module has all of the packages, or the error that it has not the first of the others. -/
def requirePackages (record : ModuleRecord) (packages : List String) : Except MutationError Unit :=
  packages.forM record.requirePackage

end ModuleRecord

namespace Graph

/-- The graph of a new process: the boot layer, empty. -/
def initial : Graph where
  modules := .empty
  layers := Table.empty.set bootLayer ⟨none, .empty⟩
  loaders := .empty

/-- The module of a handle, or the error that it is unknown. -/
def requireModule (graph : Graph) (handle : ModuleHandle) : Except MutationError ModuleRecord :=
  match graph.modules.get? handle.id with
  | some record => .ok record
  | none => .error (.unknownModule handle.text)

/-- All of the handles are those of modules, or the error that the first of the others is
unknown. -/
def requireModules (graph : Graph) (handles : List ModuleHandle) : Except MutationError Unit :=
  handles.forM fun handle => do
    let _ ← graph.requireModule handle

/-- The graph with `record` for the module `id`. -/
def setModule (graph : Graph) (id : ModuleId) (record : ModuleRecord) : Graph :=
  { graph with modules := graph.modules.set id record }

def edgeCount (graph : Graph) : Nat :=
  total (graph.modules.entries.map fun entry => entry.2.edgeCount)

/-- `source` opens `package` to `target`; an unnamed module opens every package. -/
def opensTo (graph : Graph) (source : ModuleHandle) (package : String) (target : ModuleHandle) :
    Bool :=
  match graph.modules.get? source.id with
  | none => false
  | some record =>
    !record.handle.isNamed || (ModuleRecord.targetsOf record.opens package).contains target.id

def exportsTo (graph : Graph) (source : ModuleHandle) (package : String) (target : ModuleHandle) :
    Bool :=
  match graph.modules.get? source.id with
  | none => false
  | some record => (ModuleRecord.targetsOf record.exports package).contains target.id

def readsModule (graph : Graph) (source target : ModuleHandle) : Bool :=
  match graph.modules.get? source.id with
  | none => false
  | some record => record.reads.contains target.id

/-- The packages that a module opens, with the texts of the modules that it opens each to;
both in increasing order. -/
def opensOf (graph : Graph) (module : ModuleHandle) : List (String × List String) :=
  match graph.modules.get? module.id with
  | none => []
  | some record =>
    (sortedSet textBefore record.opens.keys).map fun package =>
      let targets := (ModuleRecord.targetsOf record.opens package).filterMap graph.modules.get?
      (package, sortedSet textBefore (targets.map fun target => target.handle.text))

def layerOf (graph : Graph) (module : ModuleHandle) : Option LayerId :=
  (graph.modules.get? module.id).bind ModuleRecord.layer

/-- The module named `name` in the nearest of `layer` and its parents, at most `steps` away. -/
def findWithin (graph : Graph) (name : String) : Nat → LayerId → Option ModuleHandle
  | 0, _ => none
  | steps + 1, layer =>
    match graph.layers.get? layer with
    | none => none
    | some record =>
      match record.modules.get? name with
      | some id => (graph.modules.get? id).map ModuleRecord.handle
      | none => record.parent.bind (findWithin graph name steps)

/-- The module named `name` in the nearest of `layer` and its parents. No walk from a
layer to its parents is longer than there are layers. -/
def find (graph : Graph) (layer : LayerId) (name : String) : Option ModuleHandle :=
  graph.findWithin name graph.layers.size layer

end Graph

end ModuleOpens
