/-
# Proofs.Strategy.Apply — how far the groups of a plan get

All three privileged strategies go through the groups of a plan in order, and
differ in what they do with one group. A group that asks for no package its
module lacks is `Held`; every strategy opens it whole, and leaves one and the
same machine. At a group that is not held every strategy stops: the two that add
edges one at a time after those before the first lacking one, the agent before
any.

* `applyGroup_of_held`: a held group, by any strategy;
* `applyGroup_of_first_lacked`, `applyGroup_agent_of_lacked`: a group that is not held;
* `each_of_held`, `each_of_stopped`: all groups, and those up to the first that is not.
-/
import ModuleOpens.Proofs.Strategy.Redefinition
import ModuleOpens.Strategy.Pass

namespace ModuleOpens

set_option autoImplicit false

/-- No event is a warning. -/
def Quiet (events : List Event) : Prop :=
  ∀ event ∈ events, event.level ≠ .warn

namespace Quiet

theorem nil : Quiet [] := fun _ member => nomatch member

theorem append {events more : List Event} (first : Quiet events) (second : Quiet more) :
    Quiet (events ++ more) := by
  intro event member
  rcases List.mem_append.1 member with earlier | later
  · exact first event earlier
  · exact second event later

theorem debug (text : String) : Quiet [.debug text] := by
  intro event member
  rw [List.mem_singleton.1 member]
  exact Level.noConfusion

theorem filter_eq_nil {events : List Event} (quiet : Quiet events) :
    events.filter (fun event => event.level = .warn) = [] := by
  rw [List.filter_eq_nil_iff]
  intro event member
  simpa using quiet event member

theorem redefinitionEvents (module : ModuleHandle) (count : Option Nat) :
    Quiet (Machine.redefinitionEvents module count) := by
  cases count with
  | none => exact nil
  | some count => exact debug _

end Quiet

/-! ## Step after step -/

/-- A list has a first member of which something is true, if there is one at all. -/
theorem exists_first {α : Type} (holds : α → Prop) [DecidablePred holds] {values : List α}
    (somewhere : ∃ value ∈ values, holds value) :
    ∃ before value after, values = before ++ value :: after ∧ holds value ∧
      ∀ other ∈ before, ¬ holds other := by
  obtain ⟨value, member, here⟩ := somewhere
  cases found : values.find? (fun value => holds value) with
  | none =>
    have nowhere := List.find?_eq_none.1 found value member
    exact absurd (decide_eq_true here) nowhere
  | some first =>
    obtain ⟨isFirst, before, after, split, none⟩ := List.find?_eq_some_iff_append.1 found
    refine ⟨before, first, after, split, of_decide_eq_true isFirst, fun other member => ?_⟩
    simpa using none other member

namespace Applied

variable {σ α : Type} {step : α → σ → Applied σ} {host middle : σ} {events : List Event}

/-- What was done is followed by the rest. -/
theorem each_cons_of_done {value : α} (done : step value host = ⟨middle, events, none⟩)
    (rest : List α) :
    each step (value :: rest) host = after events (each step rest middle) := by
  simp only [each, done]

/-- What stopped is followed by nothing. -/
theorem each_cons_of_stopped {value : α} {cause : PassError}
    (stopped : step value host = ⟨middle, events, some cause⟩) (rest : List α) :
    each step (value :: rest) host = ⟨middle, events, some cause⟩ := by
  simp only [each, stopped]

theorem after_after (events more : List Event) (applied : Applied σ) :
    after events (after more applied) = after (events ++ more) applied := by
  simp [after]

/-- Steps in two portions, when all of the first are done. -/
theorem each_append_of_done {first : List α} (done : each step first host = ⟨middle, events, none⟩)
    (second : List α) :
    each step (first ++ second) host = after events (each step second middle) := by
  induction first generalizing host events with
  | nil =>
    cases done
    rfl
  | cons value rest ih =>
    obtain ⟨next, reports, error, ran⟩ : ∃ next reports error,
      step value host = ⟨next, reports, error⟩ := ⟨_, _, _, rfl⟩
    cases error with
    | some cause =>
      rw [each_cons_of_stopped ran] at done
      cases done
    | none =>
      obtain ⟨last, more, error, others⟩ : ∃ last more error,
        each step rest next = ⟨last, more, error⟩ := ⟨_, _, _, rfl⟩
      rw [each_cons_of_done ran, others] at done
      cases done
      rw [List.cons_append, each_cons_of_done ran, ih others, after_after]

end Applied

/-! ## The edges of one module, one at a time -/

namespace Machine

/-- A function that adds an edge to every machine with certain privileges. -/
def AddsOpens (privileges : Privileges)
    (add : Machine → ModuleHandle → String → ModuleHandle →
      Except InternalCallError Unit × Machine) : Prop :=
  ∀ machine : Machine, machine.privileges = privileges → ∀ source package target,
    add machine source package target =
      ((machine.addOpens source package target).1.mapError .mutation,
        (machine.addOpens source package target).2)

variable {machine : Machine}

theorem addsOpens_internal {privileges : Privileges}
    (exported : privileges.internalExported = true) :
    AddsOpens privileges fun host source package target =>
      Host.internalAddOpens host (some source) (some package) (some target) := by
  intro machine same source package target
  show machine.internalAddOpens _ _ _ = _
  unfold internalAddOpens
  rw [same, exported]
  rfl

theorem addsOpens_handle (privileges : Privileges) :
    AddsOpens privileges fun (host : Machine) source package target =>
      let (answer, host) := Host.invokeAddOpens host source package target
      (answer.mapError .mutation, host) :=
  fun _ _ _ _ _ => rfl

theorem privileges_opened (module : ModuleHandle) (edges : List OpenEdge) :
    (machine.opened module edges).privileges = machine.privileges := by
  unfold opened
  split
  · rfl
  · split <;> rfl

end Machine

namespace OpenGroup

variable {machine : Machine} {group : OpenGroup}
  {add : Machine → ModuleHandle → String → ModuleHandle → Except InternalCallError Unit × Machine}

/-- The machine knows the modules of a group. -/
structure Known (machine : Machine) (group : OpenGroup) : Prop where
  module : machine.graph.Has group.module
  targets : ∀ edge ∈ group.instructions.edges, machine.graph.Has edge.2

/-- The group asks for no package that its module lacks. -/
def Held (machine : Machine) (group : OpenGroup) : Prop :=
  ∀ edge ∈ group.instructions.edges, ¬ machine.graph.Lacks group.module edge.1

instance (machine : Machine) (group : OpenGroup) : Decidable (group.Held machine) :=
  inferInstanceAs (Decidable (∀ edge ∈ group.instructions.edges, _))

/-- A group that is not held asks for a package that its module lacks. -/
theorem exists_lacked_of_not_held (stuck : ¬ group.Held machine) :
    ∃ edge ∈ group.instructions.edges, machine.graph.Lacks group.module edge.1 := by
  refine Decidable.of_not_not fun none => stuck fun edge member lacks => none ?_
  exact ⟨edge, member, lacks⟩

theorem Known.of_alike {after : Machine} (alike : machine.graph.AlikeButOpens after.graph)
    (known : group.Known machine) : group.Known after where
  module := (alike.has_iff _).2 known.module
  targets edge member := (alike.has_iff _).2 (known.targets edge member)

theorem held_iff_of_alike {after : Machine} (alike : machine.graph.AlikeButOpens after.graph) :
    group.Held after ↔ group.Held machine := by
  unfold Held
  simp only [alike.lacks_iff]

/-- Edges that nothing is in the way of are all added. -/
theorem each_applyEdge_of_held {module : ModuleHandle} {edges : List OpenEdge}
    (adds : Machine.AddsOpens machine.privileges add) (has : machine.graph.Has module)
    (knows : ∀ edge ∈ edges, machine.graph.Has edge.2)
    (held : ∀ edge ∈ edges, ¬ machine.graph.Lacks module edge.1) :
    ∃ events, Quiet events ∧ Applied.each (applyEdge add module) edges machine =
      ⟨machine.opened module edges, events, none⟩ := by
  induction edges generalizing machine with
  | nil =>
    rw [Machine.opened_nil]
    exact ⟨[], Quiet.nil, rfl⟩
  | cons edge rest ih =>
    have alike := (Machine.openedBy_opened has [edge]).alike
    have first : applyEdge add module edge machine =
        ⟨machine.opened module [edge],
          [.debug ("Opened module " ++ module.text ++ "/" ++ edge.1 ++ " to " ++ edge.2.text)],
          none⟩ := by
      unfold applyEdge
      rw [adds machine rfl, Machine.addOpens_of_has has (knows edge List.mem_cons_self),
        if_neg (held edge List.mem_cons_self)]
      rfl
    obtain ⟨events, quiet, others⟩ := ih
      (by rw [Machine.privileges_opened]; exact adds)
      ((alike.has_iff _).2 has)
      (fun other member => (alike.has_iff _).2 (knows other (List.mem_cons_of_mem _ member)))
      (fun other member => mt (alike.lacks_iff _ _).1 (held other (List.mem_cons_of_mem _ member)))
    rw [Machine.opened_append] at others
    rw [Applied.each_cons_of_done first, others]
    exact ⟨_, (Quiet.debug _).append quiet, rfl⟩

/-- The first edge in whose way there is something stops the rest. -/
theorem each_applyEdge_of_lacked {module : ModuleHandle} {before after : List OpenEdge}
    {edge : OpenEdge} (adds : Machine.AddsOpens machine.privileges add)
    (has : machine.graph.Has module)
    (knows : ∀ other ∈ before ++ edge :: after, machine.graph.Has other.2)
    (held : ∀ other ∈ before, ¬ machine.graph.Lacks module other.1)
    (lacks : machine.graph.Lacks module edge.1) :
    ∃ events, Quiet events ∧ Applied.each (applyEdge add module) (before ++ edge :: after) machine =
      ⟨machine.opened module before, events,
        some (.addOpens module.text edge.1 edge.2.text
          (.mutation (.unknownPackage module.text edge.1)))⟩ := by
  have alike := (Machine.openedBy_opened has before).alike
  obtain ⟨events, quiet, done⟩ := each_applyEdge_of_held adds has
    (fun other member => knows other (List.mem_append_left _ member)) held
  have stopped : applyEdge add module edge (machine.opened module before) =
      ⟨machine.opened module before, [], some (.addOpens module.text edge.1 edge.2.text
        (.mutation (.unknownPackage module.text edge.1)))⟩ := by
    unfold applyEdge
    rw [adds _ (Machine.privileges_opened module before),
      Machine.addOpens_of_has ((alike.has_iff _).2 has)
        ((alike.has_iff _).2 (knows edge (List.mem_append_right _ List.mem_cons_self))),
      if_pos ((alike.lacks_iff _ _).2 lacks)]
    rfl
  rw [Applied.each_append_of_done done, Applied.each_cons_of_stopped stopped]
  exact ⟨_, quiet.append Quiet.nil, rfl⟩

end OpenGroup

/-! ## One group -/

namespace StrategyKind

variable {kind : StrategyKind} {machine : Machine} {group : OpenGroup}

/-- What a strategy does with one group. -/
def applyGroup : StrategyKind → OpenGroup → Machine → Applied Machine
  | .directApi => OpenGroup.applyEdges fun host source package target =>
    Host.internalAddOpens host (some source) (some package) (some target)
  | .reflectiveHandle => OpenGroup.applyEdges fun host source package target =>
    let (answer, host) := Host.invokeAddOpens host source package target
    (answer.mapError .mutation, host)
  | .agent => OpenGroup.applyRedefinition
  | .fallback => fun _ host => .nothing host

/-- The strategy can add edges to a machine with these privileges. -/
def Serves : StrategyKind → Privileges → Prop
  | .directApi, privileges => privileges.internalExported = true
  | .reflectiveHandle, _ => True
  | .agent, _ => True
  | .fallback, _ => False

/-- A privileged strategy that could be had serves. -/
theorem serves_of_acquire (privileged : kind.isPrivileged = true) {reports : List Event}
    (acquired : (kind.acquire machine).1 = .ok reports) : kind.Serves machine.privileges := by
  cases kind with
  | directApi =>
    show machine.privileges.internalExported = true
    cases exported : machine.privileges.internalExported with
    | true => rfl
    | false =>
      have refused : (Host.internalAddOpens machine none none none).1 = .error (.illegalAccess
          "internal module API is not exported to the unnamed module") := by
        simp [Host.internalAddOpens, Machine.internalAddOpens, exported]
      unfold acquire at acquired
      dsimp only at acquired
      rw [refused] at acquired
      cases acquired
  | reflectiveHandle => trivial
  | agent => trivial
  | fallback => cases privileged

/-- A machine with all privileges can be used in every privileged way. -/
theorem exists_acquire_of_all (all : machine.privileges = .all)
    (privileged : kind.isPrivileged = true) :
    ∃ reports, (kind.acquire machine).1 = .ok reports := by
  obtain ⟨graph, privileges, nextId, lookups, mutations⟩ := machine
  subst all
  cases kind with
  | directApi => exact ⟨[], rfl⟩
  | reflectiveHandle => exact ⟨_, rfl⟩
  | agent => exact ⟨[], rfl⟩
  | fallback => cases privileged

/-- Every strategy opens a group that is held. -/
theorem applyGroup_of_held (serves : kind.Serves machine.privileges) (known : group.Known machine)
    (held : group.Held machine) :
    ∃ events, Quiet events ∧ kind.applyGroup group machine =
      ⟨machine.opened group.module group.instructions.edges, events, none⟩ := by
  cases kind with
  | directApi =>
    exact OpenGroup.each_applyEdge_of_held (Machine.addsOpens_internal serves) known.module
      known.targets held
  | reflectiveHandle =>
    exact OpenGroup.each_applyEdge_of_held (Machine.addsOpens_handle _) known.module
      known.targets held
  | agent =>
    obtain ⟨count, redefined⟩ := Machine.redefineByAgent_of_held known.module known.targets held
    refine ⟨_, Quiet.redefinitionEvents group.module count, ?_⟩
    show OpenGroup.applyRedefinition group machine = _
    unfold OpenGroup.applyRedefinition
    rw [show Host.redefineModule machine group.module _ = _ from redefined]
  | fallback => cases serves

/-- Adding one edge at a time, a strategy stops at the first that its module lacks. -/
theorem applyGroup_of_first_lacked (edgewise : kind = .directApi ∨ kind = .reflectiveHandle)
    (serves : kind.Serves machine.privileges) (known : group.Known machine)
    {before after : List OpenEdge} {edge : OpenEdge}
    (split : group.instructions.edges = before ++ edge :: after)
    (held : ∀ other ∈ before, ¬ machine.graph.Lacks group.module other.1)
    (lacks : machine.graph.Lacks group.module edge.1) :
    ∃ events, Quiet events ∧ kind.applyGroup group machine =
      ⟨machine.opened group.module before, events,
        some (.addOpens group.module.text edge.1 edge.2.text
          (.mutation (.unknownPackage group.module.text edge.1)))⟩ := by
  have knows := known.targets
  rw [split] at knows
  rcases edgewise with rfl | rfl
  · show ∃ events, _ ∧ OpenGroup.applyEdges _ group machine = _
    unfold OpenGroup.applyEdges
    rw [split]
    exact OpenGroup.each_applyEdge_of_lacked (Machine.addsOpens_internal serves) known.module
      knows held lacks
  · show ∃ events, _ ∧ OpenGroup.applyEdges _ group machine = _
    unfold OpenGroup.applyEdges
    rw [split]
    exact OpenGroup.each_applyEdge_of_lacked (Machine.addsOpens_handle _) known.module
      knows held lacks

/-- The agent changes nothing of a module that lacks a package. -/
theorem applyGroup_agent_of_lacked (known : group.Known machine)
    (lacked : ∃ edge ∈ group.instructions.edges, machine.graph.Lacks group.module edge.1) :
    ∃ edge ∈ group.instructions.edges, machine.graph.Lacks group.module edge.1 ∧
      agent.applyGroup group machine =
        ⟨machine, [], some (.redefinition group.module.text
          (.unknownPackage group.module.text edge.1))⟩ := by
  obtain ⟨edge, member, lacks, refused⟩ := Machine.redefineByAgent_of_lacked known.module lacked
  refine ⟨edge, member, lacks, ?_⟩
  show OpenGroup.applyRedefinition group machine = _
  unfold OpenGroup.applyRedefinition
  rw [show Host.redefineModule machine group.module _ = _ from refused]

/-- Every strategy stops at a group that is not held. -/
theorem applyGroup_of_lacked (serves : kind.Serves machine.privileges)
    (known : group.Known machine)
    (lacked : ∃ edge ∈ group.instructions.edges, machine.graph.Lacks group.module edge.1) :
    ∃ host events cause, Quiet events ∧
      kind.applyGroup group machine = ⟨host, events, some cause⟩ := by
  obtain ⟨before, edge, after, split, lacks, held⟩ :=
    exists_first (fun edge : OpenEdge => machine.graph.Lacks group.module edge.1) lacked
  cases kind with
  | directApi =>
    obtain ⟨events, quiet, stopped⟩ :=
      applyGroup_of_first_lacked (Or.inl rfl) serves known split held lacks
    exact ⟨_, events, _, quiet, stopped⟩
  | reflectiveHandle =>
    obtain ⟨events, quiet, stopped⟩ :=
      applyGroup_of_first_lacked (Or.inr rfl) serves known split held lacks
    exact ⟨_, events, _, quiet, stopped⟩
  | agent =>
    obtain ⟨_, _, _, stopped⟩ := applyGroup_agent_of_lacked known lacked
    exact ⟨_, [], _, Quiet.nil, stopped⟩
  | fallback => cases serves

end StrategyKind

/-! ## All groups -/

namespace Machine

variable {machine : Machine} {groups : List OpenGroup}

/-- The machine with the edges of all groups. -/
def openedAll (machine : Machine) (groups : List OpenGroup) : Machine :=
  groups.foldl (fun machine group => machine.opened group.module group.instructions.edges) machine

/-- What the edges of all groups do. -/
theorem openedBy_openedAll (known : ∀ group ∈ groups, group.Known machine) :
    OpenedBy (fun id package opening => ∃ group ∈ groups, id = group.module.id ∧
      ∃ target, (package, target) ∈ group.instructions.edges ∧ target.id = opening)
      machine (machine.openedAll groups) := by
  induction groups generalizing machine with
  | nil =>
    refine OpenedBy.of_opensTo ?_
    rintro _ _ _ ⟨group, member, -⟩
    cases member
  | cons group rest ih =>
    have first := openedBy_opened (known group List.mem_cons_self).module group.instructions.edges
    have others := ih fun other member =>
      (known other (List.mem_cons_of_mem _ member)).of_alike first.alike
    refine (first.trans others).congr fun id package opening => ?_
    simp only [List.mem_cons, exists_eq_or_imp]

theorem privileges_openedAll : (machine.openedAll groups).privileges = machine.privileges := by
  induction groups generalizing machine with
  | nil => rfl
  | cons group rest ih => exact ih.trans (privileges_opened _ _)

end Machine

namespace StrategyKind

variable {kind : StrategyKind} {machine : Machine} {groups : List OpenGroup}

/-- Groups that are all held are all opened. -/
theorem each_of_held (serves : kind.Serves machine.privileges)
    (known : ∀ group ∈ groups, group.Known machine) (held : ∀ group ∈ groups, group.Held machine) :
    ∃ events, Quiet events ∧ Applied.each kind.applyGroup groups machine =
      ⟨machine.openedAll groups, events, none⟩ := by
  induction groups generalizing machine with
  | nil => exact ⟨[], Quiet.nil, rfl⟩
  | cons group rest ih =>
    have here := known group List.mem_cons_self
    obtain ⟨events, quiet, done⟩ := applyGroup_of_held serves here (held group List.mem_cons_self)
    have alike := (Machine.openedBy_opened here.module group.instructions.edges).alike
    obtain ⟨more, quiet', others⟩ := ih
      (by rw [Machine.privileges_opened]; exact serves)
      (fun other member => (known other (List.mem_cons_of_mem _ member)).of_alike alike)
      (fun other member =>
        (OpenGroup.held_iff_of_alike alike).2 (held other (List.mem_cons_of_mem _ member)))
    rw [Applied.each_cons_of_done done, others]
    exact ⟨_, quiet.append quiet', rfl⟩

/-- The first group that stops a strategy stops the rest. -/
theorem each_of_stopped {earlier : List OpenGroup} {group : OpenGroup} (later : List OpenGroup)
    (serves : kind.Serves machine.privileges)
    (known : ∀ other ∈ earlier, other.Known machine)
    (held : ∀ other ∈ earlier, other.Held machine) {host : Machine} {reports : List Event}
    {cause : PassError}
    (stopped : kind.applyGroup group (machine.openedAll earlier) = ⟨host, reports, some cause⟩) :
    ∃ events, Quiet events ∧ Applied.each kind.applyGroup (earlier ++ group :: later) machine =
      ⟨host, events ++ reports, some cause⟩ := by
  obtain ⟨events, quiet, done⟩ := each_of_held serves known held
  rw [Applied.each_append_of_done done, Applied.each_cons_of_stopped stopped]
  exact ⟨events, quiet, rfl⟩

/-- All groups are opened, or one that is not held stops the strategy. -/
theorem each_outcome (serves : kind.Serves machine.privileges)
    (known : ∀ group ∈ groups, group.Known machine) :
    let applied := Applied.each kind.applyGroup groups machine
    Quiet applied.events ∧
      ((∀ group ∈ groups, group.Held machine) ∧ applied.error = none ∧
          applied.host = machine.openedAll groups ∨
        (¬ ∀ group ∈ groups, group.Held machine) ∧ applied.error ≠ none) := by
  intro applied
  by_cases held : ∀ group ∈ groups, group.Held machine
  · obtain ⟨events, quiet, done⟩ := each_of_held serves known held
    rw [show applied = _ from done]
    exact ⟨quiet, Or.inl ⟨held, rfl, rfl⟩⟩
  · have stuck : ∃ group ∈ groups, ¬ group.Held machine := by
      simpa using held
    obtain ⟨earlier, group, later, rfl, stuckHere, heldBefore⟩ :=
      exists_first (fun group : OpenGroup => ¬ group.Held machine) stuck
    have knownBefore : ∀ other ∈ earlier, other.Known machine := fun other member =>
      known other (List.mem_append_left _ member)
    have alike := (Machine.openedBy_openedAll knownBefore).alike
    obtain ⟨edge, isEdge, lacks⟩ := OpenGroup.exists_lacked_of_not_held stuckHere
    obtain ⟨host, reports, cause, quiet, stopped⟩ := applyGroup_of_lacked
      (by rw [Machine.privileges_openedAll]; exact serves)
      ((known group (List.mem_append_right _ List.mem_cons_self)).of_alike alike)
      ⟨edge, isEdge, (alike.lacks_iff _ _).2 lacks⟩
    obtain ⟨events, quiet', ended⟩ := each_of_stopped later serves knownBefore
      (fun other member => Decidable.of_not_not (heldBefore other member)) stopped
    rw [show applied = _ from ended]
    exact ⟨quiet'.append quiet, Or.inr ⟨held, Option.some_ne_none cause⟩⟩

end StrategyKind

end ModuleOpens
