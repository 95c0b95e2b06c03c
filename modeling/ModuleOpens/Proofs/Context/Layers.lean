/-
# Proofs.Context.Layers — loaders whose layer there is not

A new layer needs a parent, and a new module a layer, that the machine has. A new
loader may name any layer: it is taken as it is, its unnamed module belongs to it, and
the contexts of the loader capture it. The boot layer stands in only where no layer
was named. So a context captures a layer of the graph just when no layer was named or
the machine has the one that was.

Lookups from a layer of the graph come to the boot layer in the end, so they find every
name that is defined there. Lookups from any other layer find nothing at all.

* `newLoader_spec`, `ofLoader_newLoader`: what a new loader leads to, and what its contexts
  capture, whatever is done in between;
* `resolves_boot_of_known`, `unresolved_of_unknown`: what a new context resolves from a layer
  that there is, and from one that there is not;
* `captured_layer_known_iff`: so a loader is left outside the layers just when the one that was
  named for it is.
-/
import ModuleOpens.Proofs.Context.Resolution
import ModuleOpens.Proofs.Graph.Loaders
import ModuleOpens.Proofs.Graph.Lookup

namespace ModuleOpens

set_option autoImplicit false

namespace Graph.Layered

variable {graph : Graph} {nextId : Nat}

theorem contains_bootLayer (layered : graph.Layered nextId) :
    graph.layers.contains bootLayer = true := by
  obtain ⟨boot, found, -⟩ := layered.boot
  exact Option.isSome_iff_exists.2 ⟨boot, found⟩

/-- A lookup from a layer that there is finds every name that is defined in the boot layer, there
or nearer. -/
theorem find_of_boot (layered : graph.Layered nextId) {layer : LayerId}
    (known : graph.layers.contains layer = true) {name : String}
    {handle : ModuleHandle} (listed : graph.listedIn name bootLayer = some handle) :
    ∃ module, graph.find layer name = some module := by
  obtain ⟨record, found⟩ := Option.isSome_iff_exists.1 known
  obtain ⟨path, isPath, last⟩ := layered.exists_path layer record found
  rw [layered.find_of_path isPath, ← Option.isSome_iff_exists, List.findSome?_isSome_iff]
  exact ⟨bootLayer, List.mem_of_getLast? last, by rw [listed]; rfl⟩

end Graph.Layered

namespace LoaderContext

variable {machine now : Machine} {context : LoaderContext} {loader : LoaderHandle}

/-- Every name that is defined in the boot layer resolves. -/
def ResolvesBoot (context : LoaderContext) (machine : Machine) : Prop :=
  ∀ name handle, machine.graph.listedIn name bootLayer = some handle →
    ∃ module, context.resolve machine name = some module

/-- No name resolves but that of all unnamed modules. -/
def ResolvesNothing (context : LoaderContext) (machine : Machine) : Prop :=
  ∀ name, name ≠ allUnnamed → context.resolve machine name = none

/-! ## What a context that remembers nothing resolves -/

theorem resolves_boot_of_known (wellFormed : machine.WellFormed)
    (empty : context.answers = .empty)
    (known : machine.graph.layers.contains context.layer = true) :
    context.ResolvesBoot machine := by
  intro name handle listed
  rw [resolve_eq, empty]
  split
  · exact ⟨context.unnamed, rfl⟩
  · exact wellFormed.layered.find_of_boot known listed

theorem unresolved_of_unknown (empty : context.answers = .empty)
    (unknown : machine.graph.layers.contains context.layer ≠ true) :
    context.ResolvesNothing machine := by
  intro name other
  have absent : machine.graph.layers.get? context.layer = none :=
    Option.not_isSome_iff_eq_none.1 unknown
  rw [resolve_eq, if_neg other, empty]
  exact Graph.find_of_unknown absent name

/-! ## What the context of a loader captures -/

/-- The context of a loader that has its module captures that module and its layer, and asks the
machine for nothing more. -/
theorem ofLoader_of_leads {id : ModuleId} (leads : now.graph.loaders.get? loader.id = some id) :
    ofLoader now loader =
      (⟨loader, .unnamed id, (now.graph.layerOf (.unnamed id)).getD bootLayer, .empty⟩, now) := by
  have told : Host.unnamedModule now loader = (.unnamed id, now) := by
    show now.unnamedModule loader = (.unnamed id, now)
    unfold Machine.unnamedModule
    rw [leads]
  unfold ofLoader
  rw [told]
  rfl

end LoaderContext

namespace Machine

variable {machine : Machine}

/-- A new loader leads to a new module, which belongs to the layer that was named. -/
theorem newLoader_spec (machine : Machine) (name : String) (layer : Option LayerId) :
    let made := machine.newLoader name layer
    made.1.id < made.2.nextId ∧
      made.2.graph.loaders.get? made.1.id = some (machine.nextId + 1) ∧
      made.2.graph.modules.get? (machine.nextId + 1) =
        some (.isolated (.unnamed (machine.nextId + 1)) layer []) := by
  refine ⟨?_, ?_, ?_⟩
  · show machine.nextId < machine.nextId + 2
    omega
  · exact (Table.get?_set ..).trans (if_pos rfl)
  · exact (Table.get?_set ..).trans (if_pos rfl)

/-- Whatever is done in between, the context of a new loader captures the layer that was named,
and the boot layer if none was. -/
theorem ofLoader_newLoader (sound : machine.Sound) (name : String) (layer : Option LayerId)
    (later : List Operation) :
    let made := machine.newLoader name layer
    let now := made.2.run later
    LoaderContext.ofLoader now made.1 =
      (⟨made.1, .unnamed (machine.nextId + 1), layer.getD bootLayer, .empty⟩, now) := by
  intro made now
  obtain ⟨old, leads, found⟩ := machine.newLoader_spec name layer
  have madeSound : made.2.Sound := (grows_perform sound (.newLoader name layer)).sound sound
  have leadsNow : now.graph.loaders.get? made.1.id = some (machine.nextId + 1) :=
    loader_run_of_spared leads (not_mintsIn_of_lt madeSound old)
  have extended : made.2.Extends now := extends_of_reaches (reaches_run made.2 later) madeSound
  have inLayer : now.graph.layerOf (.unnamed (machine.nextId + 1)) = layer := by
    rw [extended.layerOf found]
    rfl
  rw [LoaderContext.ofLoader_of_leads leadsNow, inLayer]

/-- Whatever a machine was used through before a loader was made and since, a context of the loader
captures the layer that was named for it, and the boot layer if none was. Whatever is done
further, that is a layer of the graph just when no layer was named or the graph has the one that
was, and so always when it was one as the loader was made. If it is one, the context resolves
every name that is defined in the boot layer; and if it is not, the context resolves nothing. -/
theorem captured_layer_known_iff (privileges : Privileges)
    (operations later further : List Operation) (name : String) (layer : Option LayerId) :
    let machine := (start privileges).run operations
    let made := machine.newLoader name layer
    let captured := LoaderContext.ofLoader (made.2.run later) made.1
    let now := captured.2.run further
    let known := now.graph.layers.contains captured.1.layer = true
    captured.1.layer = layer.getD bootLayer ∧
      (known ↔ ∀ given, layer = some given → now.graph.layers.contains given = true) ∧
      ((∀ given, layer = some given → machine.graph.layers.contains given = true) → known) ∧
      (known → captured.1.ResolvesBoot now) ∧
      (¬ known → captured.1.ResolvesNothing now) := by
  intro machine made captured now known
  have wellFormed : machine.WellFormed := wellFormed_run (wellFormed_start privileges) operations
  have making : made.2.WellFormed :=
    wellFormed.effect (effect_perform machine (.newLoader name layer))
  have capture : captured =
      (⟨made.1, .unnamed (machine.nextId + 1), layer.getD bootLayer, .empty⟩, made.2.run later) :=
    ofLoader_newLoader wellFormed.toSound name layer later
  have isLayer : captured.1.layer = layer.getD bootLayer := by rw [capture]
  have isEmpty : captured.1.answers = .empty := by rw [capture]
  have reached : now = made.2.run (later ++ further) := by
    show captured.2.run further = _
    rw [capture, run_append]
  have nowWellFormed : now.WellFormed := by
    rw [reached]
    exact wellFormed_run making (later ++ further)
  have knownIff :
      known ↔ ∀ given, layer = some given → now.graph.layers.contains given = true := by
    show now.graph.layers.contains captured.1.layer = true ↔ _
    rw [isLayer]
    cases layer with
    | none => exact iff_of_true nowWellFormed.layered.contains_bootLayer nofun
    | some given => simp
  refine ⟨isLayer, knownIff, fun wasKnown => knownIff.2 fun given isGiven => ?_, ?_, ?_⟩
  · have extended : made.2.Extends now := by
      rw [reached]
      exact extends_of_reaches (reaches_run made.2 (later ++ further)) making.toSound
    exact extended.layers given (wasKnown given isGiven)
  · exact LoaderContext.resolves_boot_of_known nowWellFormed isEmpty
  · exact LoaderContext.unresolved_of_unknown isEmpty

/-- A loader is made for a layer nine, which there is not. The boot layer has a module `base`, and
the loader's context does not find it. -/
theorem boot_unresolved_of_unknown_layer :
    let machine := (start .none).run [.defineModule bootLayer "base" ["lang"]]
    let made := machine.newLoader "app" (some 9)
    let captured := LoaderContext.ofLoader made.2 made.1
    captured.2.graph.layers.contains captured.1.layer = false ∧
      captured.2.graph.listedIn "base" bootLayer = some (.named 1 "base") ∧
      captured.1.resolve captured.2 "base" = none := by
  decide

end Machine

end ModuleOpens
