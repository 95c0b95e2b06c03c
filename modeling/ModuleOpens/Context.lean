/-
# Context — names as one loader sees them

A context belongs to a loader. It captures the loader's unnamed module and the
layer in which names are looked up, and remembers the answer to every name it
was asked for, also that there is no such module. So a name keeps the meaning
that it had when it was first asked for.

* `find_allUnnamed`: the name of all unnamed modules never needs a lookup;
* `find_cached`: a remembered answer is given again, and the host is not asked.
-/
import ModuleOpens.Host.Basic
import ModuleOpens.Request

namespace ModuleOpens

set_option autoImplicit false

/-- How one loader sees names. -/
structure LoaderContext where
  loader : LoaderHandle
  unnamed : ModuleHandle
  layer : LayerId
  answers : Table String (Option ModuleHandle)
  deriving DecidableEq, Repr

namespace LoaderContext

variable {σ : Type} [Host σ]

def ofLoader (host : σ) (loader : LoaderHandle) : LoaderContext × σ :=
  let (unnamed, after) := Host.unnamedModule host loader
  let layer := (Host.layerOf after unnamed).getD (Host.bootLayer after)
  (⟨loader, unnamed, layer, .empty⟩, after)

/-- How many names were asked for, found or not. -/
def size (context : LoaderContext) : Nat :=
  context.answers.size

def dump (context : LoaderContext) : String :=
  "ClassloaderModuleContext \x7b loader: " ++ context.loader.dump ++ ", unnamed_module: "
    ++ context.unnamed.dump ++ ", layer: LayerId(" ++ toString context.layer
    ++ "), cached_names: " ++ toString context.size ++ " \x7d"

/-- What a context says of a name: the module, if there is one; the context, which remembers
it; and the host, which may have been asked. -/
structure Resolution (σ : Type) where
  module : Option ModuleHandle
  context : LoaderContext
  host : σ

/-- The module of a name, as this loader sees it. -/
def find (context : LoaderContext) (host : σ) (name : String) : Resolution σ :=
  if name = allUnnamed then ⟨some context.unnamed, context, host⟩
  else match context.answers.get? name with
    | some answer => ⟨answer, context, host⟩
    | none =>
      let (answer, after) := Host.findModule host context.layer name
      ⟨answer, { context with answers := context.answers.set name answer }, after⟩

theorem find_allUnnamed (context : LoaderContext) (host : σ) :
    context.find host allUnnamed = ⟨some context.unnamed, context, host⟩ := by
  simp [find]

theorem find_cached {context : LoaderContext} {name : String} {answer : Option ModuleHandle}
    (other : name ≠ allUnnamed) (cached : context.answers.get? name = some answer) (host : σ) :
    context.find host name = ⟨answer, context, host⟩ := by
  simp [find, other, cached]

end LoaderContext

end ModuleOpens
