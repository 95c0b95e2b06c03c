/-
# Proofs.Strategy.Effect — what a privileged pass does

A pass plans its batch and applies the plan, or skips an empty batch. Whatever
the strategy, it succeeds just when no named module is asked for a package that
it lacks; then the machine opens what it did before and what the requests that
resolve ask for, and differs in nothing else. The requests that do not resolve,
and nothing else, are warned of.

* `openModules_eq`: a pass of any privileged kind, by its groups;
* `openModules_effect`: what it does.
-/
import ModuleOpens.Proofs.Strategy.Apply
import ModuleOpens.Proofs.Strategy.Plan

namespace ModuleOpens

set_option autoImplicit false

namespace OpenPlan

variable {context : LoaderContext} {machine : Machine} {requests : List OpenRequest}
  {draft : Draft Machine}

/-! ## The groups of a planned batch -/

/-- No module has two groups, so the instructions found for a module are those of its group. -/
theorem Planned.instructionsOf_eq (planned : Planned context machine requests draft)
    {group : OpenGroup} (member : group ∈ draft.plan.groups) :
    instructionsOf group.module draft.plan.groups = group.instructions := by
  refine instructionsOf_of_mem ?_ member
  rw [planned.modules]
  exact LoaderContext.nodup_openedModules requests

/-- A group has the edges that the requests ask for. -/
theorem Planned.mem_edges (planned : Planned context machine requests draft) {group : OpenGroup}
    (member : group ∈ draft.plan.groups) {package : String} {target : ModuleHandle} :
    (package, target) ∈ group.instructions.edges ↔
      context.Asks machine requests group.module package target := by
  rw [← planned.instructionsOf_eq member]
  exact planned.edges group.module package target

/-- A module that something is asked of has a group. -/
theorem Planned.mem_modules (planned : Planned context machine requests draft)
    {module target : ModuleHandle} {package : String}
    (asks : context.Asks machine requests module package target) :
    module ∈ draft.plan.groups.map OpenGroup.module := by
  rw [planned.modules]
  exact LoaderContext.mem_openedModules.2 ⟨package, target, asks⟩

theorem Planned.graph (planned : Planned context machine requests draft) :
    draft.host.graph = machine.graph := by
  obtain ⟨lookups, host⟩ := planned.host
  rw [host]

/-- The machine knows the modules of the groups. -/
theorem Planned.known (planned : Planned context machine requests draft)
    (knows : context.Knows machine) : ∀ group ∈ draft.plan.groups, group.Known draft.host := by
  intro group member
  have opened : group.module ∈ context.openedModules machine requests := by
    rw [← planned.modules]
    exact List.mem_map_of_mem member
  refine ⟨?_, ?_⟩
  · obtain ⟨-, -, request, -, resolved, -, -⟩ := LoaderContext.mem_openedModules.1 opened
    rw [planned.graph]
    exact knows.has_of_resolve resolved
  · rintro ⟨package, target⟩ isEdge
    obtain ⟨request, -, -, resolved, -⟩ := (planned.mem_edges member).1 isEdge
    rw [planned.graph]
    exact knows.has_of_resolve resolved

/-- A group is held when nothing that it is asked for is lacking. -/
theorem Planned.held_iff (planned : Planned context machine requests draft) {group : OpenGroup}
    (member : group ∈ draft.plan.groups) :
    group.Held draft.host ↔ ∀ package target,
      context.Asks machine requests group.module package target →
        ¬ machine.graph.Lacks group.module package := by
  unfold OpenGroup.Held
  rw [planned.graph]
  constructor
  · intro held package target asks
    exact held (package, target) ((planned.mem_edges member).2 asks)
  · rintro held ⟨package, target⟩ isEdge
    exact held package target ((planned.mem_edges member).1 isEdge)

/-- All groups are held when every named module has what is asked of it. -/
theorem Planned.all_held_iff (planned : Planned context machine requests draft) :
    (∀ group ∈ draft.plan.groups, group.Held draft.host) ↔
      ∀ request ∈ requests, ∀ opened opening,
        context.resolve machine request.opened = some opened →
        context.resolve machine request.opening = some opening → opened.isNamed = true →
        ∀ package ∈ request.packages, package ∈ machine.graph.packagesOf opened := by
  constructor
  · intro held request member opened opening isOpened isOpening named package isPackage
    have asks : context.Asks machine requests opened package opening :=
      ⟨request, member, isOpened, isOpening, isPackage⟩
    obtain ⟨group, isGroup, rfl⟩ := List.mem_map.1 (planned.mem_modules asks)
    have holds := (planned.held_iff isGroup).1 (held group isGroup) package opening asks
    exact Decidable.of_not_not fun missing => holds ⟨named, missing⟩
  · intro has group isGroup
    refine (planned.held_iff isGroup).2 ?_
    rintro package target ⟨request, member, isOpened, isOpening, isPackage⟩ ⟨named, missing⟩
    exact missing (has request member _ _ isOpened isOpening named package isPackage)

/-- What the groups do, in terms of the requests. -/
theorem Planned.openedBy (planned : Planned context machine requests draft)
    (knows : context.Knows machine) {groups : List OpenGroup}
    (among : ∀ group ∈ groups, group ∈ draft.plan.groups) :
    machine.OpenedBy (fun opened package opening => ∃ module target, module.id = opened ∧
        target.id = opening ∧ context.Asks machine requests module package target ∧
        module ∈ groups.map OpenGroup.module)
      (draft.host.openedAll groups) := by
  have opened := Machine.openedBy_openedAll fun group member =>
    planned.known knows group (among group member)
  obtain ⟨lookups, host⟩ := planned.host
  have same : ∀ id package opening,
      (∃ group ∈ groups, id = group.module.id ∧
        ∃ target, (package, target) ∈ group.instructions.edges ∧ target.id = opening) ↔
      ∃ module target, module.id = id ∧ target.id = opening ∧
        context.Asks machine requests module package target ∧
        module ∈ groups.map OpenGroup.module := by
    intro id package opening
    constructor
    · rintro ⟨group, member, rfl, target, isEdge, rfl⟩
      exact ⟨group.module, target, rfl, rfl, (planned.mem_edges (among group member)).1 isEdge,
        List.mem_map_of_mem member⟩
    · rintro ⟨_, target, rfl, rfl, asks, isModule⟩
      obtain ⟨group, member, rfl⟩ := List.mem_map.1 isModule
      exact ⟨group, member, rfl, target, (planned.mem_edges (among group member)).2 asks, rfl⟩
  obtain ⟨opens, counted, alike⟩ := opened.congr same
  rw [host] at opens counted alike ⊢
  exact ⟨opens, counted, alike⟩

/-- The agent reports how many modules it redefined, when it comes to the end. -/
theorem applyByAgent_eq (plan : OpenPlan) (host : Machine) :
    let applied := Applied.each OpenGroup.applyRedefinition plan.groups host
    ∃ more, Quiet more ∧ plan.applyByAgent host =
      ⟨applied.host, applied.events ++ more, applied.error⟩ := by
  show ∃ more, Quiet more ∧ plan.applyByAgent host = _
  unfold applyByAgent
  generalize Applied.each OpenGroup.applyRedefinition plan.groups host = applied
  obtain ⟨last, events, error⟩ := applied
  cases error with
  | some cause => exact ⟨[], Quiet.nil, by rw [List.append_nil]⟩
  | none => exact ⟨_, Quiet.debug _, rfl⟩

end OpenPlan

namespace StrategyKind

variable {kind : StrategyKind} {context : LoaderContext} {machine : Machine}
  {requests : List OpenRequest}

/-- A pass of a privileged kind: the plan is made, its groups are applied, and little more is
reported. -/
theorem openModules_eq (privileged : kind.isPrivileged = true) (requests : List OpenRequest)
    (context : LoaderContext) (machine : Machine) :
    let draft := OpenPlan.ofRequests context machine requests
    let applied := Applied.each kind.applyGroup draft.plan.groups draft.host
    ∃ more, Quiet more ∧ kind.openModules requests context machine =
      ⟨applied.host, draft.context, draft.events ++ applied.events ++ more, applied.error⟩ := by
  intro draft applied
  cases kind with
  | directApi => exact ⟨[], Quiet.nil, by rw [List.append_nil]; rfl⟩
  | reflectiveHandle =>
    cases requests with
    | nil => exact ⟨[], Quiet.nil, rfl⟩
    | cons first rest => exact ⟨[], Quiet.nil, by rw [List.append_nil]; rfl⟩
  | agent =>
    cases requests with
    | nil => exact ⟨[], Quiet.nil, rfl⟩
    | cons first rest =>
      obtain ⟨more, quiet, byAgent⟩ := OpenPlan.applyByAgent_eq draft.plan draft.host
      refine ⟨more, quiet, ?_⟩
      show (⟨(draft.plan.applyByAgent draft.host).host, draft.context,
        draft.events ++ (draft.plan.applyByAgent draft.host).events,
        (draft.plan.applyByAgent draft.host).error⟩ : Pass Machine) = _
      rw [byAgent, List.append_assoc]
      rfl
  | fallback => cases privileged

/-- Where a pass ends is where its groups end. -/
theorem openModules_of_each (privileged : kind.isPrivileged = true) {host : Machine}
    {events : List Event} {error : Option PassError}
    (ran : Applied.each kind.applyGroup (OpenPlan.ofRequests context machine requests).plan.groups
      (OpenPlan.ofRequests context machine requests).host = ⟨host, events, error⟩) :
    (kind.openModules requests context machine).host = host ∧
      (kind.openModules requests context machine).error = error := by
  obtain ⟨more, -, passIs⟩ := openModules_eq privileged requests context machine
  rw [ran] at passIs
  rw [passIs]
  exact ⟨rfl, rfl⟩

/-- Planning takes no privilege away. -/
theorem serves_planned (privileged : kind.isPrivileged = true) {reports : List Event}
    (acquired : (kind.acquire machine).1 = .ok reports) :
    kind.Serves (OpenPlan.ofRequests context machine requests).host.privileges := by
  obtain ⟨lookups, host⟩ := (OpenPlan.planned_ofRequests context machine requests).host
  rw [host]
  have serves : kind.Serves machine.privileges := serves_of_acquire privileged acquired
  exact serves

/-- The warnings of a batch are all that a pass warns of. -/
theorem filter_missing (requests : List OpenRequest) {events : List Event} (quiet : Quiet events) :
    (requests.filterMap (context.missing? machine) ++ events).filter
        (fun event => event.level = .warn) =
      requests.filterMap (context.missing? machine) := by
  rw [List.filter_append, quiet.filter_eq_nil, List.append_nil, List.filter_eq_self]
  intro event member
  obtain ⟨request, -, missing⟩ := List.mem_filterMap.1 member
  unfold LoaderContext.missing? at missing
  split at missing
  · cases missing
    rfl
  · cases missing
    rfl
  · cases missing

/-- A pass succeeds just when no named module is asked for a package that it lacks. If it does,
the machine opens what it did and what the requests that resolve ask for. In any case just
the requests that do not resolve are warned of, in order. -/
theorem openModules_effect (arises : context.Arises machine)
    (privileged : kind.isPrivileged = true) {reports : List Event}
    (acquired : (kind.acquire machine).1 = .ok reports) (requests : List OpenRequest) :
    let pass := kind.openModules requests context machine
    (pass.error = none ↔ ∀ request ∈ requests, ∀ opened opening,
        context.resolve machine request.opened = some opened →
        context.resolve machine request.opening = some opening → opened.isNamed = true →
        ∀ package ∈ request.packages, package ∈ machine.graph.packagesOf opened) ∧
      (pass.error = none →
        machine.OpenedBy (fun opened package opening => ∃ module target, module.id = opened ∧
          target.id = opening ∧ context.Asks machine requests module package target) pass.host) ∧
      pass.events.filter (fun event => event.level = .warn) =
        requests.filterMap (context.missing? machine) := by
  intro pass
  have planned := OpenPlan.planned_ofRequests context machine requests
  obtain ⟨more, quietEnd, passIs⟩ := openModules_eq privileged requests context machine
  have opened := planned.openedBy arises.knows fun group member => member
  obtain ⟨quiet, outcome⟩ :=
    each_outcome (serves_planned privileged acquired) (planned.known arises.knows)
  rw [← planned.all_held_iff, show pass = _ from passIs, planned.events, List.append_assoc]
  refine ⟨?_, ?_, filter_missing requests (quiet.append quietEnd)⟩
  · rcases outcome with ⟨held, done, -⟩ | ⟨stuck, stopped⟩
    · exact ⟨fun _ => held, fun _ => done⟩
    · exact ⟨fun done => absurd done stopped, fun held => absurd held stuck⟩
  · intro done
    rcases outcome with ⟨-, -, host⟩ | ⟨-, stopped⟩
    · show machine.OpenedBy _ (Applied.each _ _ _).host
      rw [host]
      refine opened.congr fun opened package opening => ?_
      constructor
      · rintro ⟨module, target, isOpened, isOpening, asks, -⟩
        exact ⟨module, target, isOpened, isOpening, asks⟩
      · rintro ⟨module, target, isOpened, isOpening, asks⟩
        exact ⟨module, target, isOpened, isOpening, asks, planned.mem_modules asks⟩
    · exact absurd done stopped

/-- A machine with one named module, as a loader sees it. -/
def sampleContext : LoaderContext × Machine :=
  LoaderContext.ofLoader
    ((Machine.start .all).run [.defineModule bootLayer "base" ["lang", "util"]]) ⟨7, "app"⟩

theorem arises_sampleContext : sampleContext.1.Arises sampleContext.2 :=
  .made ⟨.all, _, rfl⟩ ⟨7, "app"⟩

/-- A request for a package of that module. -/
def sampleRequest : OpenRequest where
  opened := "base"
  opening := allUnnamed
  packages := ["lang"]
  opened_name := by decide
  opening_name := isName_allUnnamed
  packages_name := by decide
  packages_ne_nil := by decide
  packages_increasing := List.pairwise_singleton _ _

theorem openModules_effect_sample :
    let pass := agent.openModules [sampleRequest] sampleContext.1 sampleContext.2
    sampleContext.1.Arises sampleContext.2 ∧ agent.isPrivileged = true ∧
      (agent.acquire sampleContext.2).1 = .ok [] ∧ pass.error = none ∧
      sampleContext.2.OpenedBy (fun opened package opening => ∃ module target,
        module.id = opened ∧ target.id = opening ∧
        sampleContext.1.Asks sampleContext.2 [sampleRequest] module package target) pass.host ∧
      pass.events.filter (fun event => event.level = .warn) = [] := by
  have acquired : (agent.acquire sampleContext.2).1 = .ok [] := rfl
  obtain ⟨succeeds, opened, warned⟩ :=
    openModules_effect arises_sampleContext rfl acquired [sampleRequest]
  have done : (agent.openModules [sampleRequest] sampleContext.1 sampleContext.2).error = none := by
    decide
  exact ⟨arises_sampleContext, rfl, acquired, done, opened done, warned⟩

end StrategyKind

end ModuleOpens
