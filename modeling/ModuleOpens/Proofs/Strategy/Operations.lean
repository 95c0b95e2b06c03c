/-
# Proofs.Strategy.Operations — a pass as a run of operations

Whatever a pass does to a machine, it does through the operations of the
machine: it looks names up, and then adds edges, one at a time or a module at a
time. So a pass of any kind, done or stopped, amounts to a run, and what the run
opens is what the requests ask for in the names of the context.

* `reaches_ofRequests`: planning is a run of lookups;
* `reaches_openModules`: a pass is a run of operations that open what is asked for.
-/
import ModuleOpens.Proofs.Graph.Origin
import ModuleOpens.Proofs.Strategy.Effect

namespace ModuleOpens

set_option autoImplicit false

/-- The operation opens nothing but what the requests ask for. -/
def LoaderContext.Permits (context : LoaderContext) (machine : Machine)
    (requests : List OpenRequest) (operation : Operation) : Prop :=
  ∀ source package target, operation.Opens source package target →
    ∃ opened opening, context.Asks machine requests opened package opening ∧
      opened.id = source ∧ opening.id = target

variable {machine : Machine} {allowed : Operation → Prop}

/-! ## Lookups -/

theorem not_opens_findModule {layer : LayerId} {name : String} {source target : ModuleId}
    {package : String} : ¬ (Operation.findModule layer name).Opens source package target := by
  rintro ⟨module, redefinition, made, -⟩
  cases made

section Lookups

variable (lookups : ∀ layer name, allowed (.findModule layer name))

include lookups

theorem LoaderContext.reaches_find (context : LoaderContext) (machine : Machine) (name : String) :
    machine.Reaches allowed (context.find machine name).host := by
  unfold find
  split
  · exact .refl machine
  · split
    · exact .refl machine
    · exact Machine.reaches_perform machine (lookups context.layer name)

theorem OpenPlan.Draft.reaches_add (draft : Draft Machine) (request : OpenRequest) :
    draft.host.Reaches allowed (draft.add request).host := by
  have asked : draft.Asked request _ _ := ⟨rfl, rfl⟩
  have first := LoaderContext.reaches_find lookups draft.context draft.host request.opened
  have second := LoaderContext.reaches_find lookups
    (draft.context.find draft.host request.opened).context
    (draft.context.find draft.host request.opened).host request.opening
  rcases asked.leaves with ⟨-, host⟩ | ⟨-, host⟩
  · rw [host]
    exact first
  · rw [host]
    exact first.trans second

/-- To plan a batch is to look names up. -/
theorem OpenPlan.reaches_ofRequests (context : LoaderContext) (machine : Machine)
    (requests : List OpenRequest) :
    machine.Reaches allowed (ofRequests context machine requests).host := by
  induction requests using List.reverseRecOn with
  | nil => exact .refl machine
  | append_singleton rest request ih =>
    unfold ofRequests at ih ⊢
    rw [List.foldl_append]
    exact ih.trans (Draft.reaches_add lookups _ request)

end Lookups

/-! ## Groups -/

/-- Steps that are runs, one after the other. -/
theorem Applied.reaches_each {α : Type} {step : α → Machine → Applied Machine} {values : List α}
    (steps : ∀ value ∈ values, ∀ machine : Machine,
      machine.Reaches allowed (step value machine).host) (machine : Machine) :
    machine.Reaches allowed (each step values machine).host := by
  induction values generalizing machine with
  | nil => exact .refl machine
  | cons value rest ih =>
    obtain ⟨middle, events, error, ran⟩ : ∃ middle events error,
      step value machine = ⟨middle, events, error⟩ := ⟨_, _, _, rfl⟩
    have first := steps value List.mem_cons_self machine
    have others := ih (fun other member => steps other (List.mem_cons_of_mem _ member)) middle
    rw [ran] at first
    cases error with
    | some cause =>
      rw [each_cons_of_stopped ran]
      exact first
    | none =>
      rw [each_cons_of_done ran]
      exact first.trans others

/-- The operations that open nothing but edges of the group. -/
def OpenGroup.Permits (group : OpenGroup) (operation : Operation) : Prop :=
  ∀ source package target, operation.Opens source package target →
    source = group.module.id ∧ ∃ opening, (package, opening) ∈ group.instructions.edges ∧
      opening.id = target

namespace OpenGroup

/-- The host after an edge is what the adding of the edge left, done or refused. -/
theorem host_applyEdge
    (add : Machine → ModuleHandle → String → ModuleHandle → Except InternalCallError Unit × Machine)
    (module : ModuleHandle) (edge : OpenEdge) (machine : Machine) :
    (applyEdge add module edge machine).host = (add machine module edge.1 edge.2).2 := by
  unfold applyEdge
  rcases add machine module edge.1 edge.2 with ⟨_ | _, after⟩ <;> rfl

/-- The host after a group that is redefined at once is what the redefinition left. -/
theorem host_applyRedefinition (group : OpenGroup) (machine : Machine) :
    (applyRedefinition group machine).host =
      machine.perform (.redefine group.module group.instructions.toRedefinition) := by
  have redefined : (Host.redefineModule machine group.module group.instructions.toRedefinition) =
      machine.redefineByAgent group.module group.instructions.toRedefinition := rfl
  unfold applyRedefinition
  rw [redefined, Machine.redefineByAgent, Machine.perform]
  rcases machine.redefine group.module group.instructions.toRedefinition with ⟨_ | _, after⟩ <;> rfl

end OpenGroup

namespace StrategyKind

variable {kind : StrategyKind} {group : OpenGroup}

/-- An operation that is one edge of a group. -/
theorem permits_of_edge {edge : OpenEdge} (member : edge ∈ group.instructions.edges)
    {operation : Operation}
    (made : operation.redefinition? = some (group.module, .ofEdge edge.1 edge.2)) :
    group.Permits operation := by
  rintro source package target ⟨module, redefinition, is, rfl, opens⟩
  rw [made] at is
  cases is
  obtain ⟨rfl, rfl⟩ := Redefinition.opens_ofEdge.1 opens
  exact ⟨rfl, edge.2, member, rfl⟩

/-- The operation that redefines the module of a group. -/
theorem permits_redefine :
    group.Permits (.redefine group.module group.instructions.toRedefinition) := by
  rintro source package target ⟨module, redefinition, is, rfl, entry, member, rfl, opening,
    isTarget, rfl⟩
  cases is
  exact ⟨rfl, opening, OpenInstructions.mem_edges_of_byPackage member isTarget, rfl⟩

/-- What a strategy does with one group is a run that opens nothing else. -/
theorem reaches_applyGroup (kind : StrategyKind) (group : OpenGroup) (machine : Machine) :
    machine.Reaches group.Permits (kind.applyGroup group machine).host := by
  cases kind with
  | directApi =>
    refine Applied.reaches_each (fun edge member machine => ?_) machine
    have permitted : group.Permits
        (.internalAddOpens (some group.module) (some edge.1) (some edge.2)) :=
      permits_of_edge member rfl
    rw [OpenGroup.host_applyEdge]
    exact Machine.reaches_perform machine permitted
  | reflectiveHandle =>
    refine Applied.reaches_each (fun edge member machine => ?_) machine
    have permitted : group.Permits (.addOpens group.module edge.1 edge.2) :=
      permits_of_edge member rfl
    rw [OpenGroup.host_applyEdge]
    exact Machine.reaches_perform machine permitted
  | agent =>
    show machine.Reaches _ (OpenGroup.applyRedefinition group machine).host
    rw [OpenGroup.host_applyRedefinition]
    exact Machine.reaches_perform machine permits_redefine
  | fallback => exact .refl machine

/-! ## The pass -/

/-- A pass of any kind, done or stopped, is a run of operations that open nothing but what the
requests ask for. -/
theorem reaches_openModules (kind : StrategyKind) (requests : List OpenRequest)
    (context : LoaderContext) (machine : Machine) :
    machine.Reaches (context.Permits machine requests)
      (kind.openModules requests context machine).host := by
  cases privileged : kind.isPrivileged with
  | false =>
    cases kind with
    | fallback => exact .refl machine
    | directApi => cases privileged
    | reflectiveHandle => cases privileged
    | agent => cases privileged
  | true =>
    have planned := OpenPlan.planned_ofRequests context machine requests
    obtain ⟨more, -, passIs⟩ := openModules_eq privileged requests context machine
    rw [passIs]
    have lookups (layer : LayerId) (name : String) :
        context.Permits machine requests (.findModule layer name) := by
      intro source package target opens
      exact absurd opens not_opens_findModule
    refine (OpenPlan.reaches_ofRequests lookups context machine requests).trans ?_
    refine Applied.reaches_each (fun group member host => ?_) _
    refine (reaches_applyGroup kind group host).mono fun operation permitted => ?_
    intro source package target opens
    obtain ⟨rfl, opening, isEdge, rfl⟩ := permitted source package target opens
    exact ⟨group.module, opening, (planned.mem_edges member).1 isEdge, rfl, rfl⟩

end StrategyKind

end ModuleOpens
