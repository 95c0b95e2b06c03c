/-
# Loading.Shared — loaders that share a limiter

Any number of loaders may have one limiter among their listeners, once each, and
several of them may have the same name. They are called one after the other; a call
changes its loader, and the limiter observes what that loader tells. The source of a
loader may be another one at each call. If it calls other loaders while it reads, these
are calls of their own.
-/
import ModuleOpens.Loading.Units

namespace ModuleOpens

set_option autoImplicit false

/-- What a loader may be called for. -/
inductive LoaderCall where
  | unit (name : String)
  | resource (name : String)
  /-- The place of a resource is asked for. -/
  | url (name : String)
  /-- Every place of a resource is asked for. -/
  | urls (name : String)
  deriving DecidableEq, Repr

/-- A call of the loader at some place, with the source that it has then. -/
structure PlacedCall where
  place : Nat
  source : UnitSource
  call : LoaderCall

/-- Loaders that have one limiter among their listeners, once each. -/
structure SharedLimiter where
  loaders : List UnitLoader
  limiter : Limiter

def UnitLoader.call (loader : UnitLoader) (source : UnitSource) :
    LoaderCall → UnitLoader × List LoaderEvent
  | .unit name =>
    let (_, loading) := loader.load source name
    (loading.loader, loading.told)
  | .resource name => (loader, [(loader.resource source name).2])
  | .url name => (loader, [(loader.resourceUrl source name).2])
  | .urls name => (loader, [(loader.resourceUrls source name).2])

namespace SharedLimiter

/-- After a call; where there is no loader, nothing happens. -/
def call (shared : SharedLimiter) (placed : PlacedCall) : SharedLimiter :=
  match shared.loaders[placed.place]? with
  | none => shared
  | some loader =>
    let (after, told) := loader.call placed.source placed.call
    ⟨shared.loaders.set placed.place after, shared.limiter.observeAll told⟩

/-- After calls, one after the other. -/
def run (shared : SharedLimiter) (calls : List PlacedCall) : SharedLimiter :=
  calls.foldl call shared

end SharedLimiter

end ModuleOpens
