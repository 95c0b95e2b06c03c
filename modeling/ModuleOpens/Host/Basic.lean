/-
# Host — what the rest of the library asks of a machine

A host resolves names to modules, and may offer up to three privileged ways of
adding edges: an internal interface, a handle bound through a privileged
lookup, and an instrumentation agent. A host that offers none of them only
says how it resolves names; the rest has defaults that refuse.
-/
import ModuleOpens.Event
import ModuleOpens.Graph.Change

namespace ModuleOpens

set_option autoImplicit false

/-- A machine as the rest of the library sees it. Every operation that may change the host gives
it back beside its answer, whether it was refused or not. -/
class Host (σ : Type) where
  bootLayer : σ → LayerId
  /-- The layer that a module belongs to; without one the boot layer counts. -/
  layerOf : σ → ModuleHandle → Option LayerId
  unnamedModule : σ → LoaderHandle → ModuleHandle × σ
  findModule : σ → LayerId → String → Option ModuleHandle × σ
  /-- The internal interface. A missing argument is never right; it serves to find out
  whether the interface can be reached at all. -/
  internalAddOpens : σ → Option ModuleHandle → Option String → Option ModuleHandle →
      Except InternalCallError Unit × σ :=
    fun host _ _ _ => (.error (.illegalAccess "internal module API not available"), host)
  privilegedLookup : σ → Except AccessError Unit :=
    fun _ => .error (.unsupported "privileged lookup")
  /-- The lookup, once had, finds the private implementation. -/
  findAddOpens : σ → Except AccessError Unit :=
    fun _ => .error (.unsupported "privileged lookup")
  /-- The private implementation, called through the handle that the lookup found. -/
  invokeAddOpens : σ → ModuleHandle → String → ModuleHandle → Except MutationError Unit × σ :=
    fun host module _ _ => (.error (.unknownModule module.text), host)
  agentAttached : σ → Bool :=
    fun _ => false
  attachAgent : σ → Except AccessError Unit × σ :=
    fun host => (.error (.unsupported "agent attachment"), host)
  /-- The agent adds the edges of a redefinition to a module, and reports it. -/
  redefineModule : σ → ModuleHandle → Redefinition → Except MutationError (List Event) × σ :=
    fun host module _ => (.error (.unknownModule module.text), host)

namespace Host

variable {σ τ : Type}

/-- Both parts of an operation's result, the host on the left of a sum. -/
def injectLeft {α : Type} (result : α × σ) : α × (σ ⊕ τ) := (result.1, .inl result.2)

def injectRight {α : Type} (result : α × τ) : α × (σ ⊕ τ) := (result.1, .inr result.2)

end Host

instance {σ τ : Type} [Host σ] [Host τ] : Host (σ ⊕ τ) where
  bootLayer
    | .inl host => Host.bootLayer host
    | .inr host => Host.bootLayer host
  layerOf
    | .inl host, module => Host.layerOf host module
    | .inr host, module => Host.layerOf host module
  unnamedModule
    | .inl host, loader => Host.injectLeft (Host.unnamedModule host loader)
    | .inr host, loader => Host.injectRight (Host.unnamedModule host loader)
  findModule
    | .inl host, layer, name => Host.injectLeft (Host.findModule host layer name)
    | .inr host, layer, name => Host.injectRight (Host.findModule host layer name)
  internalAddOpens
    | .inl host, source, package, target =>
      Host.injectLeft (Host.internalAddOpens host source package target)
    | .inr host, source, package, target =>
      Host.injectRight (Host.internalAddOpens host source package target)
  privilegedLookup
    | .inl host => Host.privilegedLookup host
    | .inr host => Host.privilegedLookup host
  findAddOpens
    | .inl host => Host.findAddOpens host
    | .inr host => Host.findAddOpens host
  invokeAddOpens
    | .inl host, source, package, target =>
      Host.injectLeft (Host.invokeAddOpens host source package target)
    | .inr host, source, package, target =>
      Host.injectRight (Host.invokeAddOpens host source package target)
  agentAttached
    | .inl host => Host.agentAttached host
    | .inr host => Host.agentAttached host
  attachAgent
    | .inl host => Host.injectLeft (Host.attachAgent host)
    | .inr host => Host.injectRight (Host.attachAgent host)
  redefineModule
    | .inl host, module, redefinition =>
      Host.injectLeft (Host.redefineModule host module redefinition)
    | .inr host, module, redefinition =>
      Host.injectRight (Host.redefineModule host module redefinition)

end ModuleOpens
