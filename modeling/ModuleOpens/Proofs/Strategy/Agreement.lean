/-
# Proofs.Strategy.Agreement — the privileged strategies against each other

On one batch the three privileged strategies succeed together, and then leave
one and the same machine. They fail together too, at the first module that
lacks a package it is asked for: the two that add edges one at a time have added
those of this module whose package comes before the first lacking one, and the
agent has added none.

* `first_lacked`: where the first lacking edge stands among the sorted edges;
* `privileged_passes_agree`: the three passes.
-/
import ModuleOpens.Proofs.Strategy.Effect

namespace ModuleOpens

set_option autoImplicit false

theorem edgeBefore_iff {a b : OpenEdge} :
    edgeBefore a b = true ↔ a.1 < b.1 ∨ (a.1 = b.1 ∧ handleBefore a.2 b.2 = true) := by
  simp [edgeBefore, textBefore]

theorem id_le_of_handleBefore {a b : ModuleHandle} (before : handleBefore a b = true) :
    a.id ≤ b.id := by
  simp only [handleBefore, Bool.or_eq_true, decide_eq_true_eq, Bool.and_eq_true, beq_iff_eq]
    at before
  rcases before with less | ⟨same, -⟩
  · exact Nat.le_of_lt less
  · exact Nat.le_of_eq same

/-- In sorted edges, the first edge whose package is lacking has the least such package and the
least target of it, and the edges before it are those with a lesser package. -/
theorem first_lacked {edges before after : List OpenEdge} {edge : OpenEdge}
    (increasing : Increasing edgeBefore edges) (split : edges = before ++ edge :: after)
    {lacking : String → Prop} (here : lacking edge.1)
    (held : ∀ other ∈ before, ¬ lacking other.1) :
    (∀ package target, (package, target) ∈ edges → lacking package → ¬ package < edge.1) ∧
      (∀ target, (edge.1, target) ∈ edges → edge.2.id ≤ target.id) ∧
      ∀ package target, (package, target) ∈ before ↔
        (package, target) ∈ edges ∧ package < edge.1 := by
  subst split
  unfold Increasing at increasing
  obtain ⟨-, fromEdge, across⟩ := List.pairwise_append.1 increasing
  have later (other : OpenEdge) (member : other ∈ after) :
      edge.1 < other.1 ∨ (edge.1 = other.1 ∧ handleBefore edge.2 other.2 = true) :=
    edgeBefore_iff.1 ((List.pairwise_cons.1 fromEdge).1 other member)
  have notBefore (other : OpenEdge) (member : other ∈ edge :: after) : ¬ other.1 < edge.1 := by
    intro less
    rcases List.mem_cons.1 member with rfl | isLater
    · exact String.lt_irrefl _ less
    · rcases later other isLater with greater | ⟨same, -⟩
      · exact String.lt_asymm less greater
      · exact String.lt_irrefl _ (same ▸ less)
  refine ⟨?_, ?_, ?_⟩
  · intro package target member lacks
    rcases List.mem_append.1 member with earlier | rest
    · exact absurd lacks (held _ earlier)
    · exact notBefore _ rest
  · intro target member
    rcases List.mem_append.1 member with earlier | rest
    · exact absurd here (held (edge.1, target) earlier)
    · rcases List.mem_cons.1 rest with same | isLater
      · exact Nat.le_of_eq (congrArg (fun other : OpenEdge => other.2.id) same.symm)
      · rcases later _ isLater with greater | ⟨-, inOrder⟩
        · exact absurd greater (String.lt_irrefl _)
        · exact id_le_of_handleBefore inOrder
  · intro package target
    constructor
    · intro member
      refine ⟨List.mem_append_left _ member, ?_⟩
      rcases edgeBefore_iff.1 (across _ member edge List.mem_cons_self) with less | ⟨same, -⟩
      · exact less
      · refine absurd ?_ (held _ member)
        rw [same]
        exact here
    · rintro ⟨member, less⟩
      rcases List.mem_append.1 member with earlier | rest
      · exact earlier
      · exact absurd less (notBefore _ rest)

namespace LoaderContext

/-- The first opened module that lacks a package it is asked for, with those before it. -/
structure FirstLacking (context : LoaderContext) (machine : Machine) (requests : List OpenRequest)
    (earlier : List ModuleHandle) (module : ModuleHandle) : Prop where
  order : ∃ later, context.openedModules machine requests = earlier ++ module :: later
  held : ∀ other ∈ earlier, ∀ package target,
    context.Asks machine requests other package target → ¬ machine.graph.Lacks other package
  lacks : ∃ package target, context.Asks machine requests module package target ∧
    machine.graph.Lacks module package

/-- The least package that a module lacks and is asked for, and the least target of it. -/
structure LeastLacking (context : LoaderContext) (machine : Machine) (requests : List OpenRequest)
    (module : ModuleHandle) (package : String) (target : ModuleHandle) : Prop where
  asked : context.Asks machine requests module package target
  lacks : machine.graph.Lacks module package
  least : ∀ other opening, context.Asks machine requests module other opening →
    machine.graph.Lacks module other → ¬ other < package
  least_target : ∀ opening, context.Asks machine requests module package opening →
    target.id ≤ opening.id

end LoaderContext

namespace OpenPlan

/-- The groups of a draft, up to the first that is not held. -/
structure Draft.StopsAt (draft : Draft Machine) (earlier : List OpenGroup) (group : OpenGroup)
    (later : List OpenGroup) : Prop where
  split : draft.plan.groups = earlier ++ group :: later
  held : ∀ other ∈ earlier, other.Held draft.host
  stuck : ¬ group.Held draft.host
  known : ∀ other ∈ draft.plan.groups, other.Known draft.host

variable {context : LoaderContext} {machine : Machine} {requests : List OpenRequest}
  {draft : Draft Machine} {earlier later : List OpenGroup} {group : OpenGroup}

theorem Draft.exists_stopsAt (known : ∀ group ∈ draft.plan.groups, group.Known draft.host)
    (stuck : ¬ ∀ group ∈ draft.plan.groups, group.Held draft.host) :
    ∃ earlier group later, draft.StopsAt earlier group later := by
  have somewhere : ∃ group ∈ draft.plan.groups, ¬ group.Held draft.host := by
    simpa using stuck
  obtain ⟨earlier, group, later, split, here, before⟩ :=
    exists_first (fun group : OpenGroup => ¬ group.Held draft.host) somewhere
  exact ⟨earlier, group, later, split,
    fun other member => Decidable.of_not_not (before other member), here, known⟩

namespace Draft.StopsAt

variable (stops : draft.StopsAt earlier group later)

include stops

theorem mem_earlier {other : OpenGroup} (member : other ∈ earlier) :
    other ∈ draft.plan.groups := by
  rw [stops.split]
  exact List.mem_append_left _ member

theorem mem_group : group ∈ draft.plan.groups := by
  rw [stops.split]
  exact List.mem_append_right _ List.mem_cons_self

/-- The failing group meets a machine that has more opens edges, and is the same otherwise. -/
theorem alike : draft.host.graph.AlikeButOpens (draft.host.openedAll earlier).graph :=
  (Machine.openedBy_openedAll fun other member =>
    stops.known other (stops.mem_earlier member)).alike

theorem known_group : group.Known (draft.host.openedAll earlier) :=
  (stops.known group stops.mem_group).of_alike stops.alike

/-- The module of the failing group is the first lacking one. -/
theorem firstLacking (planned : Planned context machine requests draft) :
    context.FirstLacking machine requests (earlier.map OpenGroup.module) group.module := by
  refine ⟨⟨later.map OpenGroup.module, ?_⟩, ?_, ?_⟩
  · rw [← planned.modules, stops.split, List.map_append, List.map_cons]
  · intro module member package target asks
    obtain ⟨other, isEarlier, rfl⟩ := List.mem_map.1 member
    exact (planned.held_iff (stops.mem_earlier isEarlier)).1 (stops.held other isEarlier)
      package target asks
  · obtain ⟨edge, isEdge, lacks⟩ := OpenGroup.exists_lacked_of_not_held stops.stuck
    rw [planned.graph] at lacks
    exact ⟨edge.1, edge.2, (planned.mem_edges stops.mem_group).1 isEdge, lacks⟩

end Draft.StopsAt

/-- The first edge of a group that its module lacks is the least lacking one, and the edges
before it are those of lesser packages. -/
theorem Planned.leastLacking (planned : Planned context machine requests draft)
    (isGroup : group ∈ draft.plan.groups) {before after : List OpenEdge} {edge : OpenEdge}
    (split : group.instructions.edges = before ++ edge :: after)
    (lacks : machine.graph.Lacks group.module edge.1)
    (held : ∀ other ∈ before, ¬ machine.graph.Lacks group.module other.1) :
    context.LeastLacking machine requests group.module edge.1 edge.2 ∧
      ∀ package target, (package, target) ∈ before ↔
        context.Asks machine requests group.module package target ∧ package < edge.1 := by
  have increasing := planned.increasing group.module
  rw [planned.instructionsOf_eq isGroup] at increasing
  obtain ⟨least, leastTarget, isBefore⟩ := first_lacked increasing split lacks held
  simp only [planned.mem_edges isGroup] at least leastTarget isBefore
  have isEdge : edge ∈ group.instructions.edges := by
    rw [split]
    exact List.mem_append_right _ List.mem_cons_self
  exact ⟨⟨(planned.mem_edges isGroup).1 isEdge, lacks, least, leastTarget⟩, isBefore⟩

end OpenPlan

namespace StrategyKind

variable {kind : StrategyKind} {context : LoaderContext} {machine : Machine}
  {requests : List OpenRequest} {earlier later : List OpenGroup} {group : OpenGroup}

/-- When every group is held, a pass ends with all of them opened, whatever its kind. -/
theorem openModules_of_held (privileged : kind.isPrivileged = true)
    (serves : kind.Serves (OpenPlan.ofRequests context machine requests).host.privileges)
    (known : ∀ group ∈ (OpenPlan.ofRequests context machine requests).plan.groups,
      group.Known (OpenPlan.ofRequests context machine requests).host)
    (held : ∀ group ∈ (OpenPlan.ofRequests context machine requests).plan.groups,
      group.Held (OpenPlan.ofRequests context machine requests).host) :
    (kind.openModules requests context machine).host =
        (OpenPlan.ofRequests context machine requests).host.openedAll
          (OpenPlan.ofRequests context machine requests).plan.groups ∧
      (kind.openModules requests context machine).error = none := by
  obtain ⟨events, -, ran⟩ := each_of_held serves known held
  exact openModules_of_each privileged ran

/-- A strategy that stops at the failing group stops there in the whole pass. -/
theorem openModules_of_stopsAt
    (stops : (OpenPlan.ofRequests context machine requests).StopsAt earlier group later)
    (privileged : kind.isPrivileged = true)
    (serves : kind.Serves (OpenPlan.ofRequests context machine requests).host.privileges)
    {host : Machine} {reports : List Event} {cause : PassError}
    (stopped : kind.applyGroup group
      ((OpenPlan.ofRequests context machine requests).host.openedAll earlier) =
        ⟨host, reports, some cause⟩) :
    (kind.openModules requests context machine).host = host ∧
      (kind.openModules requests context machine).error = some cause := by
  obtain ⟨events, -, ended⟩ := each_of_stopped later serves
    (fun other member => stops.known other (stops.mem_earlier member)) stops.held stopped
  rw [← stops.split] at ended
  exact openModules_of_each privileged ended

/-- A strategy that adds one edge at a time stops at the first lacking edge of the group. -/
theorem openModules_of_first_lacked
    (stops : (OpenPlan.ofRequests context machine requests).StopsAt earlier group later)
    (edgewise : kind = .directApi ∨ kind = .reflectiveHandle)
    (serves : kind.Serves (OpenPlan.ofRequests context machine requests).host.privileges)
    {before after : List OpenEdge} {edge : OpenEdge}
    (split : group.instructions.edges = before ++ edge :: after)
    (held : ∀ other ∈ before,
      ¬ (OpenPlan.ofRequests context machine requests).host.graph.Lacks group.module other.1)
    (lacks : (OpenPlan.ofRequests context machine requests).host.graph.Lacks group.module edge.1) :
    (kind.openModules requests context machine).host =
        ((OpenPlan.ofRequests context machine requests).host.openedAll earlier).opened
          group.module before ∧
      (kind.openModules requests context machine).error =
        some (.addOpens group.module.text edge.1 edge.2.text
          (.mutation (.unknownPackage group.module.text edge.1))) := by
  have privileged : kind.isPrivileged = true := by
    rcases edgewise with rfl | rfl <;> rfl
  have alike := stops.alike
  obtain ⟨reports, -, stopped⟩ := applyGroup_of_first_lacked edgewise
    (by rw [Machine.privileges_openedAll]; exact serves) stops.known_group split
    (fun other member => mt (alike.lacks_iff _ _).1 (held other member))
    ((alike.lacks_iff _ _).2 lacks)
  exact openModules_of_stopsAt stops privileged serves stopped

/-- The agent stops at the group, whose module lacks the package that it names. -/
theorem openModules_agent_of_lacked
    (stops : (OpenPlan.ofRequests context machine requests).StopsAt earlier group later) :
    (agent.openModules requests context machine).host =
        (OpenPlan.ofRequests context machine requests).host.openedAll earlier ∧
      ∃ edge ∈ group.instructions.edges,
        (OpenPlan.ofRequests context machine requests).host.graph.Lacks group.module edge.1 ∧
        (agent.openModules requests context machine).error =
          some (.redefinition group.module.text (.unknownPackage group.module.text edge.1)) := by
  have alike := stops.alike
  obtain ⟨missed, isMissed, misses⟩ := OpenGroup.exists_lacked_of_not_held stops.stuck
  obtain ⟨edge, isEdge, lacks, stopped⟩ := applyGroup_agent_of_lacked stops.known_group
    ⟨missed, isMissed, (alike.lacks_iff _ _).2 misses⟩
  have serves : agent.Serves (OpenPlan.ofRequests context machine requests).host.privileges :=
    trivial
  obtain ⟨host, error⟩ := openModules_of_stopsAt stops rfl serves stopped
  exact ⟨host, edge, isEdge, (alike.lacks_iff _ _).1 lacks, error⟩

/-- The three privileged passes succeed together, with the same machine, or fail together. Then
they stop at the first module that lacks a package it is asked for, and have opened what is asked
of the modules before it; of the failing module, the two that add edges one at a time have opened
what comes before the least lacking package, which they name, and the agent nothing. -/
theorem privileged_passes_agree (arises : context.Arises machine)
    (available : ∀ kind : StrategyKind, kind.isPrivileged = true →
      ∃ reports, (kind.acquire machine).1 = .ok reports)
    (requests : List OpenRequest) :
    let direct := directApi.openModules requests context machine
    let handle := reflectiveHandle.openModules requests context machine
    let byAgent := agent.openModules requests context machine
    (direct.error = none ∧ handle.error = none ∧ byAgent.error = none ∧
        handle.host = direct.host ∧ byAgent.host = direct.host) ∨
      ∃ earlier failing package target lacking,
        context.FirstLacking machine requests earlier failing ∧
        context.LeastLacking machine requests failing package target ∧
        direct.error = some (.addOpens failing.text package target.text
          (.mutation (.unknownPackage failing.text package))) ∧
        handle.error = direct.error ∧ handle.host = direct.host ∧
        machine.OpenedBy (fun opened asked opening => ∃ module target', module.id = opened ∧
          target'.id = opening ∧ context.Asks machine requests module asked target' ∧
          (module ∈ earlier ∨ module = failing ∧ asked < package)) direct.host ∧
        machine.graph.Lacks failing lacking ∧
        (∃ target', context.Asks machine requests failing lacking target') ∧
        byAgent.error = some (.redefinition failing.text (.unknownPackage failing.text lacking)) ∧
        machine.OpenedBy (fun opened asked opening => ∃ module target', module.id = opened ∧
          target'.id = opening ∧ context.Asks machine requests module asked target' ∧
          module ∈ earlier) byAgent.host := by
  intro direct handle byAgent
  have planned := OpenPlan.planned_ofRequests context machine requests
  have known := planned.known arises.knows
  have serves (kind : StrategyKind) (privileged : kind.isPrivileged = true) :
      kind.Serves (OpenPlan.ofRequests context machine requests).host.privileges := by
    obtain ⟨reports, acquired⟩ := available kind privileged
    exact serves_planned privileged acquired
  by_cases held : ∀ group ∈ (OpenPlan.ofRequests context machine requests).plan.groups,
      group.Held (OpenPlan.ofRequests context machine requests).host
  · refine Or.inl ?_
    obtain ⟨host, error⟩ := openModules_of_held rfl (serves directApi rfl) known held
    obtain ⟨host', error'⟩ := openModules_of_held rfl (serves reflectiveHandle rfl) known held
    obtain ⟨host'', error''⟩ := openModules_of_held rfl (serves agent rfl) known held
    exact ⟨error, error', error'', host'.trans host.symm, host''.trans host.symm⟩
  · refine Or.inr ?_
    obtain ⟨earlier, group, later, stops⟩ := OpenPlan.Draft.exists_stopsAt known held
    obtain ⟨missed, isMissed, misses⟩ := OpenGroup.exists_lacked_of_not_held stops.stuck
    obtain ⟨before, edge, after, split, lacks, heldBefore⟩ := exists_first
      (fun edge : OpenEdge =>
        (OpenPlan.ofRequests context machine requests).host.graph.Lacks group.module edge.1)
      ⟨missed, isMissed, misses⟩
    obtain ⟨host, error⟩ := openModules_of_first_lacked stops (Or.inl rfl) (serves directApi rfl)
      split heldBefore lacks
    obtain ⟨host', error'⟩ := openModules_of_first_lacked stops (Or.inr rfl)
      (serves reflectiveHandle rfl) split heldBefore lacks
    obtain ⟨host'', lacking, isLacking, lacks', error''⟩ := openModules_agent_of_lacked stops
    rw [planned.graph] at lacks lacks'
    simp only [planned.graph] at heldBefore
    obtain ⟨least, isBefore⟩ := planned.leastLacking stops.mem_group split lacks heldBefore
    have openedEarlier := planned.openedBy arises.knows fun other member =>
      stops.mem_earlier member
    have openedBefore := Machine.openedBy_opened stops.known_group.module before
    refine ⟨earlier.map OpenGroup.module, group.module, edge.1, edge.2, lacking.1,
      stops.firstLacking planned, least, error, error'.trans error.symm, host'.trans host.symm, ?_,
      lacks', ⟨lacking.2, (planned.mem_edges stops.mem_group).1 isLacking⟩, error'', ?_⟩
    · rw [show direct.host = _ from host]
      refine (openedEarlier.trans openedBefore).congr fun opened asked opening => ?_
      constructor
      · rintro (⟨module, target, rfl, rfl, asks, isEarlier⟩ | ⟨rfl, target, isEdge, rfl⟩)
        · exact ⟨module, target, rfl, rfl, asks, Or.inl isEarlier⟩
        · obtain ⟨asks, less⟩ := (isBefore asked target).1 isEdge
          exact ⟨group.module, target, rfl, rfl, asks, Or.inr ⟨rfl, less⟩⟩
      · rintro ⟨module, target, rfl, rfl, asks, isEarlier | ⟨rfl, less⟩⟩
        · exact Or.inl ⟨module, target, rfl, rfl, asks, isEarlier⟩
        · exact Or.inr ⟨rfl, target, (isBefore asked target).2 ⟨asks, less⟩, rfl⟩
    · rw [show byAgent.host = _ from host'']
      exact openedEarlier

/-- A request for a package that the module of the sample has, and for one that it lacks. -/
def lackingRequest : OpenRequest :=
  { sampleRequest with
    packages := ["lang", "net"]
    packages_name := by decide
    packages_ne_nil := by decide
    packages_increasing := List.pairwise_pair.2 rfl }

theorem privileged_passes_agree_sample :
    let direct := directApi.openModules [lackingRequest] sampleContext.1 sampleContext.2
    let handle := reflectiveHandle.openModules [lackingRequest] sampleContext.1 sampleContext.2
    sampleContext.1.Arises sampleContext.2 ∧
      (∀ kind : StrategyKind, kind.isPrivileged = true →
        ∃ reports, (kind.acquire sampleContext.2).1 = .ok reports) ∧
      direct.error ≠ none ∧ handle.host = direct.host ∧ handle.error = direct.error ∧
      ∃ failing package target,
        sampleContext.1.LeastLacking sampleContext.2 [lackingRequest] failing package target ∧
        direct.error = some (.addOpens failing.text package target.text
          (.mutation (.unknownPackage failing.text package))) := by
  have available (kind : StrategyKind) (privileged : kind.isPrivileged = true) :
      ∃ reports, (kind.acquire sampleContext.2).1 = .ok reports :=
    exists_acquire_of_all rfl privileged
  have fails :
      (directApi.openModules [lackingRequest] sampleContext.1 sampleContext.2).error ≠ none := by
    decide
  rcases privileged_passes_agree arises_sampleContext available [lackingRequest] with
    ⟨done, -⟩ | ⟨_, failing, package, target, _, -, least, error, error', host, -⟩
  · exact absurd done fails
  · exact ⟨arises_sampleContext, available, fails, host, error', failing, package, target, least,
      error⟩

end StrategyKind

end ModuleOpens
