/-
# Graph.Machine — a running machine and its module graph

A machine is a running program with its module graph. It hands out numbers from
one counter, shared by layers, modules and loaders; it counts the lookups that it
answered and the edges that were added. What it was started with decides which
privileged ways of adding edges exist.

Layers, modules and loaders only come into being; nothing is ever removed. What may
be refused gives the machine back beside its answer, whatever the answer is.
-/
import ModuleOpens.Graph.Change

namespace ModuleOpens

set_option autoImplicit false

structure Privileges where
  /-- The internal interface is exported to unnamed modules. -/
  internalExported : Bool
  /-- The package of the privileged lookup is opened to unnamed modules. -/
  lookupOpened : Bool
  /-- Agents may attach to the running machine. -/
  attachAllowed : Bool
  /-- An agent was attached when the machine started. -/
  agentAttached : Bool
  deriving DecidableEq, Repr

namespace Privileges

def none : Privileges := ⟨false, false, false, false⟩

/-- Every privileged way exists; no agent is attached yet. -/
def all : Privileges := ⟨true, true, true, false⟩

/-- A machine started without extra flags: agents may attach. -/
def default : Privileges := { none with attachAllowed := true }

end Privileges

structure Machine where
  graph : Graph
  privileges : Privileges
  nextId : Nat
  lookups : Nat
  mutations : Nat
  deriving DecidableEq, Repr

namespace Machine

def start (privileges : Privileges) : Machine where
  graph := .initial
  privileges
  nextId := 1
  lookups := 0
  mutations := 0

/-! ## Layers, modules and loaders -/

def newLayer (machine : Machine) (parent : LayerId) : Except MutationError LayerId × Machine :=
  if machine.graph.layers.contains parent then
    let layer := machine.nextId
    let layers := machine.graph.layers.set layer ⟨some parent, .empty⟩
    (.ok layer, { machine with graph := { machine.graph with layers }, nextId := layer + 1 })
  else
    (.error (.rejected "" ("unknown parent layer " ++ toString parent)), machine)

/-- A new module in `layer`, which has no module of that name yet. -/
def defineModule (machine : Machine) (layer : LayerId) (name : String) (packages : List String) :
    Except MutationError ModuleHandle × Machine :=
  match machine.graph.layers.get? layer with
  | none => (.error (.rejected name ("unknown layer " ++ toString layer)), machine)
  | some record =>
    if record.modules.contains name then
      (.error (.rejected name "module already defined in layer"), machine)
    else
      let handle := ModuleHandle.named machine.nextId name
      let graph := machine.graph.setModule handle.id
        (.isolated handle (some layer) (firstSeen packages))
      let layers := graph.layers.set layer
        { record with modules := record.modules.set name handle.id }
      (.ok handle, { machine with graph := { graph with layers }, nextId := handle.id + 1 })

/-- A new loader with its unnamed module, which belongs to `layer` if one is given. The
layer is taken as it is. -/
def newLoader (machine : Machine) (name : String) (layer : Option LayerId) :
    LoaderHandle × Machine :=
  let loader : LoaderHandle := ⟨machine.nextId, name⟩
  let unnamed := ModuleHandle.unnamed (machine.nextId + 1)
  let graph := machine.graph.setModule unnamed.id (.isolated unnamed layer [])
  let loaders := graph.loaders.set loader.id unnamed.id
  (loader, { machine with graph := { graph with loaders }, nextId := machine.nextId + 2 })

/-- The unnamed module of a loader. A loader that the machine has not seen gets one. -/
def unnamedModule (machine : Machine) (loader : LoaderHandle) : ModuleHandle × Machine :=
  match machine.graph.loaders.get? loader.id with
  | some id => (.unnamed id, machine)
  | none =>
    let unnamed := ModuleHandle.unnamed machine.nextId
    let graph := machine.graph.setModule unnamed.id (.isolated unnamed none [])
    let loaders := graph.loaders.set loader.id unnamed.id
    (unnamed, { machine with graph := { graph with loaders }, nextId := machine.nextId + 1 })

/-- The module named `name` in the nearest of `layer` and its parents; the lookup is counted. -/
def findModule (machine : Machine) (layer : LayerId) (name : String) :
    Option ModuleHandle × Machine :=
  (machine.graph.find layer name, { machine with lookups := machine.lookups + 1 })

/-! ## Edges -/

def changed (machine : Machine) (change : Graph.Changed) : Machine :=
  { machine with
    graph := change.graph
    mutations := machine.mutations + change.newEdges.getD 0 }

/-- The machine after a program on its graph, refused or not; new edges are counted. -/
def edit (machine : Machine) (program : Attempt Graph MutationError (Option Nat)) :
    Except MutationError (Option Nat) × Machine :=
  match program.on machine.graph with
  | (.ok newEdges, graph) => (.ok newEdges, machine.changed ⟨graph, newEdges⟩)
  | (.error cause, graph) => (.error cause, { machine with graph })

def addOpens (machine : Machine) (source : ModuleHandle) (package : String)
    (target : ModuleHandle) : Except MutationError Unit × Machine :=
  let (newEdges, after) := machine.edit (Graph.addOpens source package target)
  (newEdges.map fun _ => (), after)

/-- `module` gets the edges of `redefinition`; the answer is the number of new ones, unless the
module is unnamed. -/
def redefine (machine : Machine) (module : ModuleHandle) (redefinition : Redefinition) :
    Except MutationError (Option Nat) × Machine :=
  machine.edit (Graph.redefine module redefinition)

def addReads (machine : Machine) (source target : ModuleHandle) :
    Except MutationError (Option Nat) × Machine :=
  machine.redefine source { Redefinition.empty with reads := [target] }

def addExports (machine : Machine) (source : ModuleHandle) (package : String)
    (target : ModuleHandle) : Except MutationError (Option Nat) × Machine :=
  machine.redefine source
    { Redefinition.empty with exports := Table.empty.set package [target] }

end Machine

end ModuleOpens
