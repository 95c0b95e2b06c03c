/-
# Bootstrap — the requests of a process, applied to each of its loaders

A bootstrap owns the batch of requests, the selector and the settings that
outlive one loader. It is made once, after every source was asked, and applied
to each loader. A strategy is selected only when there is something to apply.
-/
import ModuleOpens.Collector
import ModuleOpens.Manifest
import ModuleOpens.Strategy.Selection

namespace ModuleOpens

set_option autoImplicit false

/-- The requests of a process, with the settings for applying them. -/
structure Bootstrap where
  selector : Selector
  requests : List OpenRequest
  wait : Duration
  rendersManifest : Bool
  deriving DecidableEq, Repr

inductive BootstrapError where
  | invalid (fault : ConfigFault)
  | declared (module : String) (cause : RequestError)
  | extension (name : String) (cause : RequestError)
  | producer (name : String) (cause : RequestError)
  deriving DecidableEq, Repr

instance : Diagnostic BootstrapError where
  message
    | .invalid fault => fault.message
    | .declared module _ => "Invalid module open declared for " ++ module
    | .extension name _ => "Invalid JVM options of extension " ++ name
    | .producer name _ => "Producer " ++ name ++ " failed"
  causes
    | .invalid _ => []
    | .declared _ cause => [Diagnostic.message cause]
    | .extension _ cause => [Diagnostic.message cause]
    | .producer _ cause => [Diagnostic.message cause]

namespace Bootstrap

def ofRequests (requests : List OpenRequest) : Bootstrap where
  selector := .new
  requests
  wait := defaultWait
  rendersManifest := true

/-- A collection under way: the host that it is made on, what is collected, what was reported,
and the error that ended it, if any. -/
structure Collection (σ : Type) where
  host : σ
  collector : Collector
  events : List Event
  error : Option BootstrapError

structure Making (σ : Type) where
  bootstrap : Except BootstrapError Bootstrap
  host : σ
  events : List Event

section Making

variable {σ : Type}

/-- One more step of a collection, which has the host at hand; nothing, once it has ended. -/
def Collection.then (collection : Collection σ) (step : Collector → σ → Collector.Step × σ)
    (wrap : RequestError → BootstrapError) : Collection σ :=
  match collection.error with
  | some _ => collection
  | none =>
    let (result, host) := step collection.collector collection.host
    let events := collection.events ++ result.events
    match result.added with
    | .ok _ => ⟨host, result.collector, events, none⟩
    | .error error => ⟨host, result.collector, events, some (wrap error)⟩

/-- A step that has no use for the host. -/
def leaving (step : Collector → Collector.Step) (collector : Collector) (host : σ) :
    Collector.Step × σ :=
  (step collector, host)

/-- The declared opens, then the options of extensions, then the producers. -/
def collect [Host σ] (config : Config) (producers : List Producer) (host : σ) : Collection σ :=
  let start : Collection σ := ⟨host, .empty, [], none⟩
  let declared := config.moduleOpens.foldl (fun collection declared =>
    collection.then (leaving (·.addDeclared declared)) (.declared declared.module)) start
  let extended := config.extensions.foldl (fun collection extension =>
    collection.then (leaving (·.addExtension extension)) (.extension extension.name)) declared
  producers.foldl (fun collection producer =>
    collection.then (leaving (·.collectFrom producer)) (.producer producer.name)) extended

/-- The bootstrap of a configuration and producers, made on the host that it will be
applied to. -/
def make [Host σ] (config : Config) (producers : List Producer) (host : σ) : Making σ :=
  match config.fault? with
  | some fault => ⟨.error (.invalid fault), host, []⟩
  | none =>
    let collection := collect config producers host
    match collection.error with
    | some error => ⟨.error error, collection.host, collection.events⟩
    | none =>
      let (selector, events) := Selector.withDisabled config.strategies.disabled
      let collected := Event.info
        ("Collected " ++ toString collection.collector.size ++ " module open requests")
      ⟨.ok {
        selector
        requests := collection.collector.finish
        wait := config.exclusive.wait
        rendersManifest := config.manifest.renderAddOpens
      }, collection.host, collection.events ++ collected :: events⟩

end Making

variable {σ : Type} [Host σ]

structure Application (σ : Type) where
  bootstrap : Bootstrap
  host : σ
  events : List Event
  /-- The context of the loader, or the error that stopped the pass. -/
  context : Except PassError LoaderContext

/-- The requests, applied to a loader. The context is the loader's own. -/
def apply (bootstrap : Bootstrap) (loader : LoaderHandle) (host : σ) : Application σ :=
  let (context, host) := LoaderContext.ofLoader host loader
  if bootstrap.requests.isEmpty then
    ⟨bootstrap, host, [.debug ("No module open requests for loader " ++ loader.text)], .ok context⟩
  else
    let (kind, selector, selection, host) := bootstrap.selector.select host
    let pass := kind.openModules bootstrap.requests context host
    let events := selection ++ pass.events
    let after := { bootstrap with selector }
    match pass.error with
    | some error => ⟨after, pass.host, events, .error error⟩
    | none =>
      let applied := Event.info ("Applied " ++ toString bootstrap.requests.length
        ++ " module open requests for loader " ++ loader.text ++ " using the " ++ kind.name
        ++ " strategy")
      ⟨after, pass.host, events ++ [applied], .ok pass.context⟩

def requirements (bootstrap : Bootstrap) : Requirements :=
  .ofRequests bootstrap.requests

/-- The attribute `Add-Opens` is set, unless the configuration says otherwise. -/
def renderManifest (bootstrap : Bootstrap) (attributes : Attributes) : Attributes × List Event :=
  if bootstrap.rendersManifest then attributes.render bootstrap.requirements
  else (attributes, [.debug "Add-Opens manifest rendering disabled by configuration"])

def dump (bootstrap : Bootstrap) : String :=
  "ModuleBootstrap \x7b requests: " ++ toString bootstrap.requests.length ++ ", factory: "
    ++ bootstrap.selector.dump ++ ", wait_timeout: " ++ bootstrap.wait.text ++ " \x7d"

end Bootstrap

end ModuleOpens
