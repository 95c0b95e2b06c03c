/-
# Host.Altered — a machine some of whose answers are fixed in advance

To see how strategies behave when a host misbehaves, some answers of a machine
are replaced. A replaced answer comes in place of the machine's own, which is
then not asked; every other answer is the machine's.
-/
import ModuleOpens.Host.Machine

namespace ModuleOpens

set_option autoImplicit false

/-- Answers that replace those of a machine. -/
structure Replacements where
  /-- For a call of the internal interface without a package. -/
  probe : Option (Except InternalCallError Unit)
  addOpens : Table String (Except InternalCallError Unit)
  lookup : Option AccessError
  findAddOpens : Option AccessError
  invoke : Table String MutationError
  attach : Option AccessError
  /-- For a redefinition, by the text of the module's handle. -/
  redefine : Table String MutationError

def Replacements.none : Replacements where
  probe := .none
  addOpens := .empty
  lookup := .none
  findAddOpens := .none
  invoke := .empty
  attach := .none
  redefine := .empty

structure AlteredMachine where
  machine : Machine
  replacements : Replacements

namespace AlteredMachine

def withMachine (host : AlteredMachine) (machine : Machine) : AlteredMachine :=
  { host with machine }

/-- Both parts of an answer of the machine. -/
def rewrap {α : Type} (host : AlteredMachine) (result : α × Machine) : α × AlteredMachine :=
  (result.1, host.withMachine result.2)

/-- The replaced answer to a call of the internal interface. -/
def internalAnswer? (replacements : Replacements) (package : Option String) :
    Option (Except InternalCallError Unit) :=
  match package with
  | none => replacements.probe
  | some package => replacements.addOpens.get? package

def capability (replaced : Option AccessError) (own : Except AccessError Unit) :
    Except AccessError Unit :=
  match replaced with
  | some error => .error error
  | none => own

end AlteredMachine

instance : Host AlteredMachine where
  bootLayer _ := ModuleOpens.bootLayer
  layerOf host module := host.machine.graph.layerOf module
  unnamedModule host loader := host.rewrap (host.machine.unnamedModule loader)
  findModule host layer name := host.rewrap (host.machine.findModule layer name)
  internalAddOpens host source package target :=
    match AlteredMachine.internalAnswer? host.replacements package with
    | some answer => (answer, host)
    | none => host.rewrap (host.machine.internalAddOpens source package target)
  privilegedLookup host :=
    AlteredMachine.capability host.replacements.lookup host.machine.privilegedLookup
  findAddOpens host := AlteredMachine.capability host.replacements.findAddOpens (.ok ())
  invokeAddOpens host source package target :=
    match host.replacements.invoke.get? package with
    | some error => (.error error, host)
    | none => host.rewrap (host.machine.addOpens source package target)
  agentAttached host := host.machine.privileges.agentAttached
  attachAgent host :=
    match host.replacements.attach with
    | some error => (.error error, host)
    | none => host.rewrap host.machine.attachAgent
  redefineModule host module redefinition :=
    match host.replacements.redefine.get? module.text with
    | some error => (.error error, host)
    | none => host.rewrap (host.machine.redefineByAgent module redefinition)

end ModuleOpens
