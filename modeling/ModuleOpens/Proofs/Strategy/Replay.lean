/-
# Proofs.Strategy.Replay — a batch applied again in the same context

A context remembers every answer, also that a name stands for nothing, so a batch
that was planned once is planned again without a question, and comes out as the
same plan, whatever was defined in between. What the first pass opened stays
open, and no module gets or loses a package; so the second pass finds every edge
present up to the one that stopped the first, and stops there too.

* `ofRequests_again`: the second plan is the first, and nobody was asked;
* `opened_of_opensTo`: opening what is open changes nothing;
* `openModules_again`: the second pass changes nothing, and ends as the first did.
-/
import ModuleOpens.Proofs.Graph.Visibility
import ModuleOpens.Proofs.Strategy.Agreement
import ModuleOpens.Proofs.Strategy.Operations

namespace ModuleOpens

set_option autoImplicit false

/-! ## What a context says without asking -/

namespace LoaderContext

variable {context before middle after : LoaderContext} {name : String}
  {answer : Option ModuleHandle}

/-- The answer that a context has for a name. -/
def answer? (context : LoaderContext) (name : String) : Option (Option ModuleHandle) :=
  if name = allUnnamed then some (some context.unnamed) else context.answers.get? name

/-- `after` has all the answers that `before` has. -/
def Remembers (after before : LoaderContext) : Prop :=
  ∀ name answer, before.answer? name = some answer → after.answer? name = some answer

theorem Remembers.refl (context : LoaderContext) : context.Remembers context :=
  fun _ _ answered => answered

theorem Remembers.trans (second : after.Remembers middle) (first : middle.Remembers before) :
    after.Remembers before :=
  fun name answer answered => second name answer (first name answer answered)

/-- A context that has an answer asks nobody. -/
theorem find_of_answer? (answered : context.answer? name = some answer) (machine : Machine) :
    context.find machine name = ⟨answer, context, machine⟩ := by
  unfold answer? at answered
  split at answered
  · rename_i special
    cases answered
    rw [special, find_allUnnamed]
  · rename_i other
    exact find_cached other answered machine

theorem answer?_find (context : LoaderContext) (machine : Machine) (name : String) :
    (context.find machine name).context.answer? name =
      some (context.find machine name).module := by
  unfold find answer?
  split
  · rfl
  · split
    · rename_i answer cached
      exact cached
    · exact (Table.get?_set ..).trans (if_pos rfl)

theorem remembers_find (context : LoaderContext) (machine : Machine) (name : String) :
    (context.find machine name).context.Remembers context := by
  intro other answer answered
  rcases find_context context machine name with same | ⟨-, unknown, asked⟩
  · rw [same]
    exact answered
  · rw [asked]
    unfold answer? at answered ⊢
    split
    · rename_i special
      rw [if_pos special] at answered
      exact answered
    · rename_i ordinary
      rw [if_neg ordinary] at answered
      have distinct : other ≠ name := by
        rintro rfl
        rw [unknown] at answered
        cases answered
      rw [Table.get?_set, if_neg distinct]
      exact answered

end LoaderContext

/-! ## Planning again -/

namespace OpenPlan

theorem Draft.remembers_add (draft : Draft Machine) (request : OpenRequest) :
    (draft.add request).context.Remembers draft.context := by
  have asked : draft.Asked request _ _ := ⟨rfl, rfl⟩
  have first := draft.context.remembers_find draft.host request.opened
  have second := (draft.context.find draft.host request.opened).context.remembers_find
    (draft.context.find draft.host request.opened).host request.opening
  rcases asked.leaves with ⟨context, -⟩ | ⟨context, -⟩
  · rw [context]
    exact first
  · rw [context]
    exact second.trans first

/-- A request that was planned before is planned without a question. -/
theorem Draft.add_again {draft : Draft Machine} {request : OpenRequest} {context : LoaderContext}
    (remembers : context.Remembers (draft.add request).context) (host : Machine) :
    Draft.add ⟨draft.plan, context, host, draft.events⟩ request =
      ⟨(draft.add request).plan, context, host, (draft.add request).events⟩ := by
  have asked : draft.Asked request _ _ := ⟨rfl, rfl⟩
  have answer := draft.context.answer?_find draft.host request.opened
  have kept := (draft.context.find draft.host request.opened).context.remembers_find
    (draft.context.find draft.host request.opened).host request.opening
  have answer' := (draft.context.find draft.host request.opened).context.answer?_find
    (draft.context.find draft.host request.opened).host request.opening
  cases opened : (draft.context.find draft.host request.opened).module with
  | none =>
    rw [asked.add_of_opened_missing opened] at remembers ⊢
    rw [opened] at answer
    have found := LoaderContext.find_of_answer? (remembers _ _ answer) host
    simp only [Draft.add, found]
  | some openedModule =>
    rw [opened] at answer
    cases opening : ((draft.context.find draft.host request.opened).context.find
        (draft.context.find draft.host request.opened).host request.opening).module with
    | none =>
      rw [asked.add_of_opening_missing opened opening] at remembers ⊢
      rw [opening] at answer'
      have found := LoaderContext.find_of_answer? (remembers _ _ (kept _ _ answer)) host
      have found' := LoaderContext.find_of_answer? (remembers _ _ answer') host
      simp only [Draft.add, found, found']
    | some openingModule =>
      rw [asked.add_of_found opened opening] at remembers ⊢
      rw [opening] at answer'
      have found := LoaderContext.find_of_answer? (remembers _ _ (kept _ _ answer)) host
      have found' := LoaderContext.find_of_answer? (remembers _ _ answer') host
      simp only [Draft.add, found, found']

/-- A batch that was planned before has the same plan, with the same warnings, and nobody is
asked. -/
theorem ofRequests_again {context later : LoaderContext} {machine : Machine}
    {requests : List OpenRequest}
    (remembers : later.Remembers (ofRequests context machine requests).context) (host : Machine) :
    ofRequests later host requests =
      ⟨(ofRequests context machine requests).plan, later, host,
        (ofRequests context machine requests).events⟩ := by
  induction requests using List.reverseRecOn with
  | nil => rfl
  | append_singleton rest request ih =>
    have last (context : LoaderContext) (machine : Machine) :
        ofRequests context machine (rest ++ [request]) =
          (ofRequests context machine rest).add request := by
      unfold ofRequests
      rw [List.foldl_append]
      rfl
    rw [last] at remembers
    rw [last, last, ih (remembers.trans (Draft.remembers_add _ request))]
    exact Draft.add_again remembers host

end OpenPlan

/-! ## Opening what is open -/

theorem ModuleRecord.withOpens_of_mem {record : ModuleRecord} {package : String}
    {target : ModuleId} (member : target ∈ targetsOf record.opens package) :
    record.withOpens package target = record := by
  unfold targetsOf at member
  cases present : record.opens.get? package with
  | none =>
    rw [present] at member
    cases member
  | some targets =>
    rw [present] at member
    have same : addNew targets target = targets := if_pos member
    unfold withOpens
    rw [extendEntry_eq_set, present, Option.getD_some, addAll_cons, addAll_nil, same,
      Table.set_of_get? present]

theorem ModuleRecord.openEach_of_mem {record : ModuleRecord} {edges : List OpenEdge}
    (present : ∀ edge ∈ edges, edge.2.id ∈ targetsOf record.opens edge.1) :
    record.openEach edges = record := by
  induction edges with
  | nil => rfl
  | cons edge rest ih =>
    show (record.withOpens edge.1 edge.2.id).openEach rest = record
    rw [withOpens_of_mem (present edge List.mem_cons_self)]
    exact ih fun other member => present other (List.mem_cons_of_mem _ member)

namespace Machine

variable {machine before after : Machine} {module : ModuleHandle}

/-- Opening what is open changes nothing, the count of edges included. -/
theorem opened_of_opensTo {edges : List OpenEdge}
    (present : ∀ edge ∈ edges, machine.graph.opensTo module edge.1 edge.2 = true) :
    machine.opened module edges = machine := by
  cases found : machine.graph.modules.get? module.id with
  | none => simp [opened, found]
  | some record =>
    cases named : record.handle.isNamed with
    | false => exact opened_of_unnamed found named edges
    | true =>
      have same : record.openEach edges = record.openEach [] := by
        apply ModuleRecord.openEach_of_mem
        intro edge member
        exact (Graph.opensTo_of_named found named edge.1 edge.2).1 (present edge member)
      have none := opened_nil machine module
      rw [opened_of_named found named] at none ⊢
      rw [same]
      exact none

theorem openedAll_of_opensTo {groups : List OpenGroup}
    (present : ∀ group ∈ groups, ∀ edge ∈ group.instructions.edges,
      machine.graph.opensTo group.module edge.1 edge.2 = true) :
    machine.openedAll groups = machine := by
  induction groups with
  | nil => rfl
  | cons group rest ih =>
    show (machine.opened group.module group.instructions.edges).openedAll rest = machine
    rw [opened_of_opensTo (present group List.mem_cons_self)]
    exact ih fun other member => present other (List.mem_cons_of_mem _ member)

/-- A module keeps the packages that it was defined with. -/
theorem Extends.lacks_iff (extended : before.Extends after) (has : before.graph.Has module)
    (package : String) : after.graph.Lacks module package ↔ before.graph.Lacks module package := by
  obtain ⟨record, found, -⟩ := has
  obtain ⟨later, laterFound, keeps⟩ := extended.records _ record found
  rw [Graph.lacks_of_found laterFound, Graph.lacks_of_found found, keeps.packages]

end Machine

/-! ## The groups of a plan, later -/

namespace OpenGroup

variable {before after : Machine} {group : OpenGroup}

theorem Known.of_extends (known : group.Known before) (extended : before.Extends after) :
    group.Known after where
  module := extended.has known.module
  targets edge member := extended.has (known.targets edge member)

theorem Known.held_iff (known : group.Known before) (extended : before.Extends after) :
    group.Held after ↔ group.Held before := by
  unfold Held
  simp only [extended.lacks_iff known.module]

end OpenGroup

/-- A plan that stops at a group stops there later. -/
theorem OpenPlan.Draft.StopsAt.again {draft : Draft Machine} {earlier later : List OpenGroup}
    {group : OpenGroup} (stops : draft.StopsAt earlier group later) {host : Machine}
    (extended : draft.host.Extends host) (context : LoaderContext) (events : List Event) :
    Draft.StopsAt ⟨draft.plan, context, host, events⟩ earlier group later where
  split := stops.split
  held other member :=
    ((stops.known other (stops.mem_earlier member)).held_iff extended).2 (stops.held other member)
  stuck held := stops.stuck (((stops.known group stops.mem_group).held_iff extended).1 held)
  known other member := (stops.known other member).of_extends extended

/-! ## The second pass -/

/-- The module that a failed pass names. -/
def PassError.module : PassError → String
  | .redefinition module _ => module
  | .addOpens module _ _ _ => module

namespace StrategyKind

variable {kind : StrategyKind} {context : LoaderContext} {machine later : Machine}
  {requests : List OpenRequest} {earlier rest : List OpenGroup} {group : OpenGroup}

theorem context_openModules (privileged : kind.isPrivileged = true) (requests : List OpenRequest)
    (context : LoaderContext) (machine : Machine) :
    (kind.openModules requests context machine).context =
      (OpenPlan.ofRequests context machine requests).context := by
  obtain ⟨more, -, passIs⟩ := openModules_eq privileged requests context machine
  rw [passIs]

/-- Planning counts lookups, so what extends the machine before it extends the one after it. -/
theorem extends_planned (extended : machine.Extends later) (context : LoaderContext)
    (requests : List OpenRequest) :
    (OpenPlan.ofRequests context machine requests).host.Extends later := by
  obtain ⟨lookups, host⟩ := (OpenPlan.planned_ofRequests context machine requests).host
  rw [host]
  exact ⟨extended.sound, extended.nextId, extended.privileges, extended.records, extended.loaders,
    extended.layers⟩

/-- What both passes start from. -/
structure Replayed (kind : StrategyKind) (context : LoaderContext) (machine : Machine)
    (requests : List OpenRequest) (later : Machine) : Prop where
  privileged : kind.isPrivileged = true
  serves : kind.Serves (OpenPlan.ofRequests context machine requests).host.privileges
  known : ∀ group ∈ (OpenPlan.ofRequests context machine requests).plan.groups,
    group.Known (OpenPlan.ofRequests context machine requests).host
  extended : (OpenPlan.ofRequests context machine requests).host.Extends later
  since : (kind.openModules requests context machine).host.Extends later

namespace Replayed

variable (replayed : Replayed kind context machine requests later)

include replayed

theorem again : OpenPlan.ofRequests (kind.openModules requests context machine).context later
      requests =
    ⟨(OpenPlan.ofRequests context machine requests).plan,
      (kind.openModules requests context machine).context, later,
      (OpenPlan.ofRequests context machine requests).events⟩ := by
  apply OpenPlan.ofRequests_again
  rw [context_openModules replayed.privileged]
  exact .refl _

theorem serves_later : kind.Serves later.privileges := by
  rw [replayed.extended.privileges]
  exact replayed.serves

/-- Groups that the first pass opened are open. -/
theorem openedAll_later {groups : List OpenGroup}
    (among : ∀ group ∈ groups, group ∈ (OpenPlan.ofRequests context machine requests).plan.groups)
    (opened : ∀ source package target,
      ((OpenPlan.ofRequests context machine requests).host.openedAll groups).graph.opensTo source
        package target = true →
      (kind.openModules requests context machine).host.graph.opensTo source package target = true) :
    later.openedAll groups = later := by
  apply Machine.openedAll_of_opensTo
  intro group member edge isEdge
  have all := Machine.openedBy_openedAll fun other isOther =>
    replayed.known other (among other isOther)
  apply replayed.since.opensTo
  apply opened
  exact (all.opens _ _ _).2 (Or.inr ⟨group, member, rfl, edge.2, isEdge, rfl⟩)

/-- After a pass that came to the end, another comes to the end and changes nothing. -/
theorem of_held (held : ∀ group ∈ (OpenPlan.ofRequests context machine requests).plan.groups,
      group.Held (OpenPlan.ofRequests context machine requests).host) :
    let first := kind.openModules requests context machine
    let second := kind.openModules requests first.context later
    first.error = none ∧ second.error = none ∧ second.host = later := by
  intro first second
  obtain ⟨host, error⟩ := openModules_of_held replayed.privileged replayed.serves replayed.known held
  have planned := replayed.again
  have knownLater : ∀ group ∈ (OpenPlan.ofRequests first.context later requests).plan.groups,
      group.Known (OpenPlan.ofRequests first.context later requests).host := by
    rw [planned]
    exact fun group member => (replayed.known group member).of_extends replayed.extended
  have heldLater : ∀ group ∈ (OpenPlan.ofRequests first.context later requests).plan.groups,
      group.Held (OpenPlan.ofRequests first.context later requests).host := by
    rw [planned]
    exact fun group member =>
      ((replayed.known group member).held_iff replayed.extended).2 (held group member)
  have servesLater :
      kind.Serves (OpenPlan.ofRequests first.context later requests).host.privileges := by
    rw [planned]
    exact replayed.serves_later
  obtain ⟨host', error'⟩ :=
    openModules_of_held replayed.privileged servesLater knownLater heldLater
  refine ⟨error, error', host'.trans ?_⟩
  rw [planned]
  apply replayed.openedAll_later fun group member => member
  intro source package target opens
  rw [host]
  exact opens

/-- The second plan stops at the group at which the first did. -/
theorem stops_later
    (stops : (OpenPlan.ofRequests context machine requests).StopsAt earlier group rest) :
    (OpenPlan.ofRequests (kind.openModules requests context machine).context later
      requests).StopsAt earlier group rest := by
  rw [replayed.again]
  exact stops.again replayed.extended _ _

/-- After a pass that added one edge at a time and stopped, another stops at the same edge. -/
theorem of_stopped_edgewise (edgewise : kind = .directApi ∨ kind = .reflectiveHandle)
    (stops : (OpenPlan.ofRequests context machine requests).StopsAt earlier group rest) :
    let first := kind.openModules requests context machine
    let second := kind.openModules requests first.context later
    first.error.map PassError.module = some group.module.text ∧ second.error = first.error ∧
      second.host = later := by
  intro first second
  have planned := replayed.again
  have known := replayed.known group stops.mem_group
  obtain ⟨missed, isMissed, misses⟩ := OpenGroup.exists_lacked_of_not_held stops.stuck
  obtain ⟨before, edge, after, split, lacks, heldBefore⟩ := exists_first
    (fun edge : OpenEdge =>
      (OpenPlan.ofRequests context machine requests).host.graph.Lacks group.module edge.1)
    ⟨missed, isMissed, misses⟩
  obtain ⟨host, error⟩ :=
    openModules_of_first_lacked stops edgewise replayed.serves split heldBefore lacks
  have servesLater :
      kind.Serves (OpenPlan.ofRequests first.context later requests).host.privileges := by
    rw [planned]
    exact replayed.serves_later
  have heldLater : ∀ other ∈ before,
      ¬ (OpenPlan.ofRequests first.context later requests).host.graph.Lacks group.module
        other.1 := by
    rw [planned]
    exact fun other member =>
      mt (replayed.extended.lacks_iff known.module other.1).1 (heldBefore other member)
  have lacksLater :
      (OpenPlan.ofRequests first.context later requests).host.graph.Lacks group.module edge.1 := by
    rw [planned]
    exact (replayed.extended.lacks_iff known.module edge.1).2 lacks
  obtain ⟨host', error'⟩ := openModules_of_first_lacked (replayed.stops_later stops) edgewise
    servesLater split heldLater lacksLater
  refine ⟨?_, error'.trans error.symm, host'.trans ?_⟩
  · rw [show first.error = _ from error]
    rfl
  · -- The groups before are open, and so is what comes before the edge in its group.
    have openedBefore := Machine.openedBy_opened stops.known_group.module before
    have earlierOpen : later.openedAll earlier = later := by
      apply replayed.openedAll_later fun other member => stops.mem_earlier member
      intro source package target opens
      rw [host]
      exact openedBefore.keeps source package target opens
    rw [planned]
    show (later.openedAll earlier).opened group.module before = later
    rw [earlierOpen]
    apply Machine.opened_of_opensTo
    intro other member
    apply replayed.since.opensTo
    rw [host]
    exact (openedBefore.opens _ _ _).2 (Or.inr ⟨rfl, other.2, member, rfl⟩)

/-- After a pass by the agent that stopped, another stops at the same module. -/
theorem of_stopped_agent (byAgent : kind = .agent)
    (stops : (OpenPlan.ofRequests context machine requests).StopsAt earlier group rest) :
    let first := kind.openModules requests context machine
    let second := kind.openModules requests first.context later
    first.error.map PassError.module = some group.module.text ∧
      second.error.map PassError.module = some group.module.text ∧ second.host = later := by
  subst byAgent
  intro first second
  have planned := replayed.again
  obtain ⟨host, edge, -, -, error⟩ := openModules_agent_of_lacked stops
  obtain ⟨host', edge', -, -, error'⟩ := openModules_agent_of_lacked (replayed.stops_later stops)
  refine ⟨?_, ?_, host'.trans ?_⟩
  · rw [show first.error = _ from error]
    rfl
  · rw [show second.error = _ from error']
    rfl
  · rw [planned]
    apply replayed.openedAll_later fun other member => stops.mem_earlier member
    intro source package target opens
    rw [host]
    exact opens

end Replayed

/-- A batch applied again in the context that it left, after the machine was used in any way. The
second pass changes nothing, neither the machine with its edges and its counts nor the context.
It succeeds just when the first did. Otherwise both fail at the first module that lacks a
package it is asked for, and a strategy that adds one edge at a time fails with the very same
error. -/
theorem openModules_again (arises : context.Arises machine) (privileged : kind.isPrivileged = true)
    {reports : List Event} (acquired : (kind.acquire machine).1 = .ok reports)
    (requests : List OpenRequest) (operations : List Operation) :
    let first := kind.openModules requests context machine
    let later := first.host.run operations
    let second := kind.openModules requests first.context later
    second.host = later ∧ second.context = first.context ∧
      (second.error = none ↔ first.error = none) ∧
      (kind ≠ .agent → second.error = first.error) ∧
      (first.error ≠ none → ∃ earlier failing,
        context.FirstLacking machine requests earlier failing ∧
        first.error.map PassError.module = some failing.text ∧
        second.error.map PassError.module = some failing.text) := by
  intro first later second
  have knows := arises.knows
  have planned := OpenPlan.planned_ofRequests context machine requests
  have reached : machine.Reaches (fun _ => True) first.host :=
    (kind.reaches_openModules requests context machine).mono fun _ _ => trivial
  have used := Machine.reaches_run first.host operations
  have extended : machine.Extends later :=
    Machine.extends_of_reaches (reached.trans used) knows.sound
  have replayed : Replayed kind context machine requests later :=
    ⟨privileged, serves_planned privileged acquired, planned.known knows,
      extends_planned extended context requests,
      Machine.extends_of_reaches used (reached.sound knows.sound)⟩
  have contextIs : second.context = first.context := by
    rw [show second.context = _ from context_openModules privileged requests first.context later,
      replayed.again]
  by_cases held : ∀ group ∈ (OpenPlan.ofRequests context machine requests).plan.groups,
      group.Held (OpenPlan.ofRequests context machine requests).host
  · obtain ⟨done, done', host⟩ := replayed.of_held held
    refine ⟨host, contextIs, ⟨fun _ => done, fun _ => done'⟩, fun _ => done'.trans done.symm, ?_⟩
    intro failed
    exact absurd done failed
  · obtain ⟨earlier, group, rest, stops⟩ := OpenPlan.Draft.exists_stopsAt replayed.known held
    have failing := stops.firstLacking planned
    have fails {error : Option PassError}
        (named : error.map PassError.module = some group.module.text) : error ≠ none := by
      rintro rfl
      cases named
    by_cases byAgent : kind = .agent
    · obtain ⟨named, named', host⟩ := replayed.of_stopped_agent byAgent stops
      refine ⟨host, contextIs, ?_, fun other => absurd byAgent other, fun _ => ?_⟩
      · exact ⟨fun done => absurd done (fails named'), fun done => absurd done (fails named)⟩
      · exact ⟨_, group.module, failing, named, named'⟩
    · have edgewise : kind = .directApi ∨ kind = .reflectiveHandle := by
        cases kind with
        | directApi => exact Or.inl rfl
        | reflectiveHandle => exact Or.inr rfl
        | agent => exact absurd rfl byAgent
        | fallback => cases privileged
      obtain ⟨named, same, host⟩ := replayed.of_stopped_edgewise edgewise stops
      refine ⟨host, contextIs, ?_, fun _ => same, fun _ => ?_⟩
      · rw [show second.error = first.error from same]
      · exact ⟨_, group.module, failing, named, by rw [same]; exact named⟩

/-- After the agent failed on a module that lacks a package, a module of another layer takes over
its name, and the batch is applied again. -/
theorem openModules_again_sample :
    let first := agent.openModules [lackingRequest] sampleContext.1 sampleContext.2
    let later := first.host.run
      [.newLayer bootLayer, .defineModule 3 "base" ["lang", "util", "net"],
        .newLoader "other" (some 3)]
    let second := agent.openModules [lackingRequest] first.context later
    sampleContext.1.Arises sampleContext.2 ∧ agent.isPrivileged = true ∧
      (agent.acquire sampleContext.2).1 = .ok [] ∧ first.error ≠ none ∧ second.error ≠ none ∧
      second.host = later ∧ second.context = first.context := by
  have acquired : (agent.acquire sampleContext.2).1 = .ok [] := rfl
  obtain ⟨host, context, done_iff, -, -⟩ := openModules_again arises_sampleContext rfl acquired
    [lackingRequest] [.newLayer bootLayer, .defineModule 3 "base" ["lang", "util", "net"],
      .newLoader "other" (some 3)]
  have fails :
      (agent.openModules [lackingRequest] sampleContext.1 sampleContext.2).error ≠ none := by
    decide
  exact ⟨arises_sampleContext, rfl, acquired, fails, mt done_iff.1 fails, host, context⟩

end StrategyKind

end ModuleOpens
