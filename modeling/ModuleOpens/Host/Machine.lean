/-
# Host.Machine — a machine as a host

The privileges that a machine was started with decide which of its privileged
capabilities answer. A `SealedMachine` is one that offers none of them,
whatever it was started with.
-/
import ModuleOpens.Graph.Machine
import ModuleOpens.Host.Basic

namespace ModuleOpens

set_option autoImplicit false

namespace Machine

def internalAddOpens (machine : Machine) (source : Option ModuleHandle) (package : Option String)
    (target : Option ModuleHandle) : Except InternalCallError Unit × Machine :=
  if machine.privileges.internalExported then
    match source, package, target with
    | some source, some package, some target =>
      let (answer, after) := machine.addOpens source package target
      (answer.mapError .mutation, after)
    | _, _, _ => (.error .nullArgument, machine)
  else
    (.error (.illegalAccess "internal module API is not exported to the unnamed module"), machine)

def privilegedLookup (machine : Machine) : Except AccessError Unit :=
  if machine.privileges.lookupOpened then .ok ()
  else .error (.inaccessible ("unable to make the privileged lookup field accessible: "
    ++ "the invoke package is not opened to the unnamed module"))

def attachAgent (machine : Machine) : Except AccessError Unit × Machine :=
  if machine.privileges.attachAllowed then (.ok (), machine)
  else (.error (.attachRefused "self-attachment is disabled in this process"), machine)

/-- What a redefinition reports; nothing, for an unnamed module. -/
def redefinitionEvents (module : ModuleHandle) (newEdges : Option Nat) : List Event :=
  match newEdges with
  | none => []
  | some count =>
    [.debug ("Redefined module " ++ module.text ++ " (" ++ toString count ++ " new edges)")]

def redefineByAgent (machine : Machine) (module : ModuleHandle) (redefinition : Redefinition) :
    Except MutationError (List Event) × Machine :=
  let (newEdges, after) := machine.redefine module redefinition
  (newEdges.map (redefinitionEvents module), after)

end Machine

instance : Host Machine where
  bootLayer _ := ModuleOpens.bootLayer
  layerOf machine module := machine.graph.layerOf module
  unnamedModule machine loader := machine.unnamedModule loader
  findModule machine layer name := machine.findModule layer name
  internalAddOpens machine source package target := machine.internalAddOpens source package target
  privilegedLookup machine := machine.privilegedLookup
  findAddOpens _ := .ok ()
  invokeAddOpens machine source package target := machine.addOpens source package target
  agentAttached machine := machine.privileges.agentAttached
  attachAgent machine := machine.attachAgent
  redefineModule machine module redefinition := machine.redefineByAgent module redefinition

/-- A machine that resolves names and offers nothing else. -/
structure SealedMachine where
  machine : Machine

namespace SealedMachine

/-- The machine inside may have changed. -/
def rewrap {α : Type} (result : α × Machine) : α × SealedMachine :=
  (result.1, ⟨result.2⟩)

end SealedMachine

instance : Host SealedMachine where
  bootLayer _ := ModuleOpens.bootLayer
  layerOf host module := host.machine.graph.layerOf module
  unnamedModule host loader := SealedMachine.rewrap (host.machine.unnamedModule loader)
  findModule host layer name := SealedMachine.rewrap (host.machine.findModule layer name)

end ModuleOpens
