/-
# Strategy.Pass — a batch of requests applied to a host

A privileged strategy makes a plan of the batch and applies its groups in
order, until one fails. The internal interface and the bound handle add one
edge after the other, so a failure leaves the edges before it in place; the
agent redefines one module at a time, and a module that fails keeps its edges
as they were. The fallback changes nothing and says, for each request, which
flags a person would have to pass.
-/
import ModuleOpens.Request.Flag
import ModuleOpens.Strategy.Error
import ModuleOpens.Strategy.Plan

namespace ModuleOpens

set_option autoImplicit false

variable {σ : Type} [Host σ]

namespace StrategyKind

/-- What a call of the internal interface without arguments tells: that it was refused for the
lack of them shows, as well as its success, that the interface can be reached. -/
def probed : Except InternalCallError Unit → Except StrategyError Unit
  | .ok _ => .ok ()
  | .error .nullArgument => .ok ()
  | .error (.illegalAccess reason) => .error (.internalApiInaccessible reason)
  | .error cause => .error (.unexpectedProbe cause)

/-- A strategy is available, with what it reports when it is; and the host after asking. -/
def acquire (host : σ) : StrategyKind → Except StrategyError (List Event) × σ
  | .directApi =>
    let (answer, host) := Host.internalAddOpens host none none none
    ((probed answer).map fun _ => [], host)
  | .reflectiveHandle =>
    (do
      (Host.privilegedLookup host).mapError .privilegedLookup
      (Host.findAddOpens host).mapError .privilegedLookup
      return [.debug "Acquired privileged handle to the add-opens implementation"], host)
  | .agent =>
    if Host.agentAttached host then
      (.ok [.debug "Reusing the instrumentation agent already attached to the process"], host)
    else
      let (attached, host) := Host.attachAgent host
      ((attached.mapError .agentInstall).map fun _ => [], host)
  | .fallback => (.ok [], host)

end StrategyKind

/-- What applying something did to a host: the host after it, what it reports, and the error
that stopped it, if any. -/
structure Applied (σ : Type) where
  host : σ
  events : List Event
  error : Option PassError

namespace Applied

def nothing (host : σ) : Applied σ := ⟨host, [], none⟩

/-- What comes after, with the events of what came before. -/
def after (events : List Event) (applied : Applied σ) : Applied σ :=
  { applied with events := events ++ applied.events }

/-- Each step in order, until one fails. -/
def each {α : Type} (step : α → σ → Applied σ) : List α → σ → Applied σ
  | [], host => nothing host
  | value :: rest, host =>
    let first := step value host
    match first.error with
    | some _ => first
    | none => after first.events (each step rest first.host)

end Applied

namespace OpenGroup

/-- One edge of a group, added by `addOpens`. -/
def applyEdge
    (addOpens : σ → ModuleHandle → String → ModuleHandle → Except InternalCallError Unit × σ)
    (module : ModuleHandle) (edge : OpenEdge) (host : σ) : Applied σ :=
  match addOpens host module edge.1 edge.2 with
  | (.error cause, host) =>
    ⟨host, [], some (.addOpens module.text edge.1 edge.2.text cause)⟩
  | (.ok _, host) =>
    ⟨host, [.debug ("Opened module " ++ module.text ++ "/" ++ edge.1 ++ " to " ++ edge.2.text)],
      none⟩

def applyEdges
    (addOpens : σ → ModuleHandle → String → ModuleHandle → Except InternalCallError Unit × σ)
    (group : OpenGroup) (host : σ) : Applied σ :=
  Applied.each (applyEdge addOpens group.module) group.instructions.edges host

/-- A group as one redefinition. -/
def applyRedefinition (group : OpenGroup) (host : σ) : Applied σ :=
  match Host.redefineModule host group.module group.instructions.toRedefinition with
  | (.error cause, host) => ⟨host, [], some (.redefinition group.module.text cause)⟩
  | (.ok events, host) => ⟨host, events, none⟩

end OpenGroup

namespace OpenPlan

/-- The groups of a plan, applied in order through the internal interface. -/
def applyDirectly (plan : OpenPlan) (host : σ) : Applied σ :=
  Applied.each (OpenGroup.applyEdges fun host source package target =>
    Host.internalAddOpens host (some source) (some package) (some target)) plan.groups host

/-- The groups of a plan, applied in order through the bound handle. -/
def applyThroughHandle (plan : OpenPlan) (host : σ) : Applied σ :=
  Applied.each (OpenGroup.applyEdges fun host source package target =>
    let (answer, host) := Host.invokeAddOpens host source package target
    (answer.mapError .mutation, host)) plan.groups host

/-- The groups of a plan, applied in order by the agent. -/
def applyByAgent (plan : OpenPlan) (host : σ) : Applied σ :=
  let applied := Applied.each OpenGroup.applyRedefinition plan.groups host
  match applied.error with
  | some _ => applied
  | none =>
    { applied with
      events := applied.events ++ [.debug ("Redefined " ++ toString plan.size ++ " modules")] }

end OpenPlan

/-- A whole pass: the host and the context after it, what it reports, and the error that
stopped it, if any. -/
structure Pass (σ : Type) where
  host : σ
  context : LoaderContext
  events : List Event
  error : Option PassError

namespace Pass

def nothing (context : LoaderContext) (host : σ) : Pass σ := ⟨host, context, [], none⟩

/-- A plan is made of the requests, and then applied. -/
def planned (apply : OpenPlan → σ → Applied σ) (requests : List OpenRequest)
    (context : LoaderContext) (host : σ) : Pass σ :=
  let draft := OpenPlan.ofRequests context host requests
  let applied := apply draft.plan draft.host
  ⟨applied.host, draft.context, draft.events ++ applied.events, applied.error⟩

def advice (request : OpenRequest) : Event :=
  .warn ("Could not automatically add-opens for module " ++ request.opened ++ "/\x7b"
    ++ ",".intercalate request.packages ++ "\x7d to module " ++ request.opening
    ++ "; start the process with " ++ Flag.byHand request)

end Pass

/-- The requests, applied by a strategy in the names of a context. -/
def StrategyKind.openModules (kind : StrategyKind) (requests : List OpenRequest)
    (context : LoaderContext) (host : σ) : Pass σ :=
  match kind with
  | .directApi => Pass.planned OpenPlan.applyDirectly requests context host
  | .reflectiveHandle =>
    if requests.isEmpty then .nothing context host
    else Pass.planned OpenPlan.applyThroughHandle requests context host
  | .agent =>
    if requests.isEmpty then .nothing context host
    else Pass.planned OpenPlan.applyByAgent requests context host
  | .fallback => ⟨host, context, requests.map Pass.advice, none⟩

end ModuleOpens
