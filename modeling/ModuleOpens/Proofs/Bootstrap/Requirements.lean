/-
# Proofs.Bootstrap.Requirements — what a manifest asks for and what an application opens

The requests of a bootstrap are read twice: by their names alone, as the entries of a
manifest, and by what the names stand for in a loader's context, as edges of the graph.
An edge that an application adds goes from a named module, and a name stands for a
module of that name, so the edge has its entry. An application that went through has
opened all that its requests ask for in its context, so an entry has its edge, unless
it is about unnamed modules, or one of its names stands for nothing there.

* `host_of_done`: a privileged pass that went through has opened all of its groups;
* `resolve_of_done`: names stand for the same after it;
* `entry_of_new_edge`, `edge_of_request`: from edges to entries, and back.
-/
import ModuleOpens.Proofs.Bootstrap.Generations
import ModuleOpens.Proofs.Manifest.ReadBack

namespace ModuleOpens

set_option autoImplicit false

/-! ## A pass that went through -/

namespace StrategyKind

variable {kind : StrategyKind} {context : LoaderContext} {machine : Machine}
  {requests : List OpenRequest}

/-- A privileged strategy that cannot add edges stops at the first one. -/
theorem stopped_of_barred (privileged : kind.isPrivileged = true)
    (barred : ¬ kind.Serves machine.privileges) {group : OpenGroup}
    (asks : group.instructions.edges ≠ []) :
    ∃ cause, kind.applyGroup group machine = ⟨machine, [], some cause⟩ := by
  obtain ⟨edge, rest, edges⟩ := List.exists_cons_of_ne_nil asks
  cases kind with
  | directApi =>
    have hidden : machine.privileges.internalExported = false := by
      simpa [Serves] using barred
    have refused : Host.internalAddOpens machine (some group.module) (some edge.1) (some edge.2) =
        (.error (.illegalAccess "internal module API is not exported to the unnamed module"),
          machine) := by
      show machine.internalAddOpens _ _ _ = _
      simp [Machine.internalAddOpens, hidden]
    have stopped : OpenGroup.applyEdge (fun host source package target =>
        Host.internalAddOpens host (some source) (some package) (some target)) group.module edge
        machine = ⟨machine, [], some (.addOpens group.module.text edge.1 edge.2.text
          (.illegalAccess "internal module API is not exported to the unnamed module"))⟩ := by
      simp only [OpenGroup.applyEdge, refused]
    show ∃ cause, OpenGroup.applyEdges _ group machine = _
    unfold OpenGroup.applyEdges
    rw [edges, Applied.each_cons_of_stopped stopped]
    exact ⟨_, rfl⟩
  | reflectiveHandle => exact absurd trivial barred
  | agent => exact absurd trivial barred
  | fallback => cases privileged

/-- A privileged pass that went through has opened all groups of its plan. -/
theorem host_of_done (knows : context.Knows machine) (privileged : kind.isPrivileged = true)
    (done : (kind.openModules requests context machine).error = none) :
    let draft := OpenPlan.ofRequests context machine requests
    (kind.openModules requests context machine).host = draft.host.openedAll draft.plan.groups := by
  intro draft
  have planned : OpenPlan.Planned context machine requests draft :=
    OpenPlan.planned_ofRequests context machine requests
  obtain ⟨more, -, passIs⟩ := openModules_eq privileged requests context machine
  rw [passIs] at done ⊢
  by_cases serves : kind.Serves draft.host.privileges
  · rcases (each_outcome serves (planned.known knows)).2 with ⟨-, -, host⟩ | ⟨-, stopped⟩
    · exact host
    · exact absurd done stopped
  · cases groups : draft.plan.groups with
    | nil => rfl
    | cons group rest =>
      have isGroup : group ∈ draft.plan.groups := by
        rw [groups]
        exact List.mem_cons_self
      have isOpened : group.module ∈ context.openedModules machine requests := by
        rw [← planned.modules]
        exact List.mem_map_of_mem isGroup
      obtain ⟨package, target, asks⟩ := LoaderContext.mem_openedModules.1 isOpened
      have isEdge := (planned.mem_edges isGroup).2 asks
      obtain ⟨cause, stopped⟩ :=
        stopped_of_barred privileged serves (List.ne_nil_of_mem isEdge)
      have halted : (Applied.each kind.applyGroup draft.plan.groups draft.host).error =
          some cause := by
        rw [groups, Applied.each_cons_of_stopped stopped]
      cases halted.symm.trans done

/-- It has opened what its requests ask for, and nothing else has changed. -/
theorem openedBy_of_done (knows : context.Knows machine) (privileged : kind.isPrivileged = true)
    (done : (kind.openModules requests context machine).error = none) :
    machine.OpenedBy (fun opened package opening => ∃ module target, module.id = opened ∧
        target.id = opening ∧ context.Asks machine requests module package target)
      (kind.openModules requests context machine).host := by
  have planned := OpenPlan.planned_ofRequests context machine requests
  rw [host_of_done knows privileged done]
  refine (planned.openedBy knows fun group member => member).congr fun opened package opening => ?_
  constructor
  · rintro ⟨module, target, isOpened, isOpening, asks, -⟩
    exact ⟨module, target, isOpened, isOpening, asks⟩
  · rintro ⟨module, target, isOpened, isOpening, asks⟩
    exact ⟨module, target, isOpened, isOpening, asks, planned.mem_modules asks⟩

/-- Names stand for the same in the context after it, on the machine after it. -/
theorem resolve_of_done (knows : context.Knows machine) (privileged : kind.isPrivileged = true)
    (done : (kind.openModules requests context machine).error = none) :
    let pass := kind.openModules requests context machine
    pass.context.resolve pass.host = context.resolve machine := by
  intro pass
  have planned := OpenPlan.planned_ofRequests context machine requests
  have opened := (openedBy_of_done knows privileged done).alike
  obtain ⟨more, -, passIs⟩ := openModules_eq privileged requests context machine
  have asked : pass.context = (OpenPlan.ofRequests context machine requests).context := by
    rw [show pass = _ from passIs]
  rw [asked, ← planned.resolve]
  funext name
  rw [LoaderContext.resolve_eq, LoaderContext.resolve_eq, planned.graph, opened.find_eq]

end StrategyKind

/-! ## An application that went through -/

namespace Bootstrap

variable {bootstrap : Bootstrap} {loader : LoaderHandle} {machine : Machine}
  {context : LoaderContext}

/-- An application that went through is a pass that did, unless there was nothing to apply. -/
theorem pass_of_apply (done : (bootstrap.apply loader machine).context = .ok context) :
    let made := LoaderContext.ofLoader machine loader
    let pass := (bootstrap.selector.select made.2).1.openModules bootstrap.requests made.1 made.2
    bootstrap.requests = [] ∨ (pass.error = none ∧ context = pass.context ∧
      (bootstrap.apply loader machine).host = pass.host) := by
  intro made pass
  by_cases empty : bootstrap.requests = []
  · exact Or.inl empty
  · have applies : bootstrap.requests.isEmpty = false := by
      simpa using empty
    cases stopped : pass.error with
    | some cause =>
      simp only [apply, applies, Bool.false_eq_true, if_false, Selector.host_select] at done
      rw [show ((bootstrap.selector.select made.2).1.openModules bootstrap.requests made.1
        made.2).error = some cause from stopped] at done
      cases done
    | none =>
      have both : (bootstrap.apply loader machine).context = .ok pass.context ∧
          (bootstrap.apply loader machine).host = pass.host := by
        simp only [apply, applies, Bool.false_eq_true, if_false, Selector.host_select]
        rw [show ((bootstrap.selector.select made.2).1.openModules bootstrap.requests made.1
          made.2).error = none from stopped]
        exact ⟨rfl, rfl⟩
      have same := done.symm.trans both.1
      cases same
      exact Or.inr ⟨rfl, rfl, both.2⟩

/-- An edge that an application adds goes from a named module, and the manifest has an entry for
that name and the package. -/
theorem entry_of_new_edge (reachable : machine.Reachable) {source target : ModuleId}
    {package : String}
    (edge : (bootstrap.apply loader machine).host.graph.OpensEdge source package target)
    (new : ¬ machine.graph.OpensEdge source package target) :
    ∃ record name,
      (bootstrap.apply loader machine).host.graph.modules.get? source = some record ∧
      record.handle.name = some name ∧ (name, package) ∈ bootstrap.requirements.entries := by
  let process : Process := ⟨bootstrap, machine⟩
  have stepped : (process.step (.apply loader)).machine.graph.OpensEdge source package target := edge
  rcases Process.opensEdge_apply stepped with old | asked
  · exact absurd old new
  · obtain ⟨opened, opening, ⟨request, member, isOpened, -, isPackage⟩, isSource, -⟩ := asked
    have later := process.reaches_apply loader
    have made := Process.reaches_ofLoader machine loader
    obtain ⟨record, found, isTarget⟩ := edge
    obtain ⟨present, presentFound, handle⟩ :=
      LoaderContext.has_of_resolve_ofLoader reachable later isOpened
    rw [isSource] at presentFound
    cases presentFound.symm.trans found
    -- A record with an edge is not that of an unnamed module, which has none.
    have named : opened.isNamed = true := by
      have wellFormed := Machine.wellFormed_of_reachable
        (later.reachable (made.reachable reachable))
      cases unnamed : opened.isNamed with
      | true => rfl
      | false =>
        rw [(wellFormed.records source record found).unnamed (handle ▸ unnamed)] at isTarget
        cases isTarget
    have listed := LoaderContext.find_of_resolve_ofLoader isOpened named
    have name := Machine.name_of_find
      (Machine.wellFormed_of_reachable (made.reachable reachable)) listed
    exact ⟨record, request.opened, found, handle ▸ name,
      Requirements.mem_entries.2 ⟨request, member, rfl, isPackage⟩⟩

/-- After an application that went through, what a request asks for is there: the module that its
opened name stands for opens each package to the one that its opening name stands for, unless the
opened name is that of all unnamed modules. -/
theorem edge_of_request (reachable : machine.Reachable)
    (privileged : (bootstrap.selector.select
      (LoaderContext.ofLoader machine loader).2).1.isPrivileged = true)
    (done : (bootstrap.apply loader machine).context = .ok context) {request : OpenRequest}
    (member : request ∈ bootstrap.requests) (ordinary : request.opened ≠ allUnnamed)
    {opened opening : ModuleHandle}
    (isOpened : context.resolve (bootstrap.apply loader machine).host request.opened = some opened)
    (isOpening : context.resolve (bootstrap.apply loader machine).host request.opening =
      some opening)
    {package : String} (isPackage : package ∈ request.packages) :
    (bootstrap.apply loader machine).host.graph.OpensEdge opened.id package opening.id := by
  have knows := (LoaderContext.Arises.made reachable loader).knows
  rcases pass_of_apply done with nothing | ⟨through, rfl, host⟩
  · rw [nothing] at member
    cases member
  · rw [host] at isOpened isOpening ⊢
    rw [StrategyKind.resolve_of_done knows privileged through] at isOpened isOpening
    have openedBy := StrategyKind.openedBy_of_done knows privileged through
    have isOpen := (openedBy.opens opened package opening).2
      (Or.inr ⟨opened, opening, rfl, rfl, request, member, isOpened, isOpening, isPackage⟩)
    have wellFormed := Machine.wellFormed_of_reachable
      ((Process.reaches_ofLoader machine loader).reachable reachable)
    have listed := isOpened
    rw [LoaderContext.resolve_ofLoader, if_neg ordinary] at listed
    have name := Machine.name_of_find wellFormed listed
    obtain ⟨record, found, handle⟩ :=
      (openedBy.alike.has_iff opened).2 (knows.has_of_resolve isOpened)
    have named : record.handle.isNamed = true := by
      rw [handle, ModuleHandle.isNamed, name]
      rfl
    exact ⟨record, found, (Graph.opensTo_of_named found named package opening).1 isOpen⟩

/-- The manifest and the graph agree on an application that went through. Every edge that it has
added has an entry; and for every entry some request of it was resolved and has its edge, unless
the entry is about unnamed modules, its module stands for nothing in the loader's context, or none
of the opening modules that it is asked for does. -/
theorem requirements_agree (reachable : machine.Reachable)
    (privileged : (bootstrap.selector.select
      (LoaderContext.ofLoader machine loader).2).1.isPrivileged = true)
    (done : (bootstrap.apply loader machine).context = .ok context) :
    let after := (bootstrap.apply loader machine).host
    (∀ source package target, after.graph.OpensEdge source package target →
        ¬ machine.graph.OpensEdge source package target →
        ∃ record name, after.graph.modules.get? source = some record ∧
          record.handle.name = some name ∧ (name, package) ∈ bootstrap.requirements.entries) ∧
      ∀ entry ∈ bootstrap.requirements.entries,
        (∃ request ∈ bootstrap.requests, request.opened = entry.1 ∧ entry.2 ∈ request.packages ∧
          ∃ opened opening, context.resolve after entry.1 = some opened ∧
            context.resolve after request.opening = some opening ∧
            after.graph.OpensEdge opened.id entry.2 opening.id) ∨
        entry.1 = allUnnamed ∨
        context.resolve after entry.1 = none ∨
        ∀ request ∈ bootstrap.requests, request.opened = entry.1 → entry.2 ∈ request.packages →
          context.resolve after request.opening = none := by
  intro after
  refine ⟨fun source package target edge new => entry_of_new_edge reachable edge new, ?_⟩
  rintro ⟨module, package⟩ -
  by_cases special : module = allUnnamed
  · exact Or.inr (Or.inl special)
  · cases isOpened : context.resolve after module with
    | none => exact Or.inr (Or.inr (Or.inl rfl))
    | some opened =>
      by_cases resolves : ∃ request ∈ bootstrap.requests, request.opened = module ∧
          package ∈ request.packages ∧ context.resolve after request.opening ≠ none
      · obtain ⟨request, member, rfl, isPackage, found⟩ := resolves
        obtain ⟨opening, isOpening⟩ := Option.ne_none_iff_exists'.1 found
        exact Or.inl ⟨request, member, rfl, isPackage, opened, opening, rfl, isOpening,
          edge_of_request reachable privileged done member special isOpened isOpening isPackage⟩
      · refine Or.inr (Or.inr (Or.inr ?_))
        intro request member same isPackage
        by_contra found
        exact resolves ⟨request, member, same, isPackage, found⟩

/-- A bootstrap with a request that resolves, one for a module that is not there, and one that
opens to a module that is not there. -/
def threeRequests : Bootstrap :=
  .ofRequests [StrategyKind.sampleRequest,
    Requirements.single "absent" "lang" (by decide) (by decide),
    { StrategyKind.sampleRequest with
      opening := "absent", opening_name := by decide,
      packages := ["util"], packages_name := by decide, packages_ne_nil := by decide
      packages_increasing := List.pairwise_singleton _ _ }]

/-- A machine with one named module of two packages. -/
def withBase : Machine :=
  (Machine.start .all).run [.defineModule bootLayer "base" ["lang", "util"]]

theorem requirements_agree_threeRequests :
    let applied := threeRequests.apply ⟨7, "app"⟩ withBase
    withBase.Reachable ∧
      (threeRequests.selector.select
        (LoaderContext.ofLoader withBase ⟨7, "app"⟩).2).1.isPrivileged = true ∧
      threeRequests.requirements.entries =
        [("absent", "lang"), ("base", "lang"), ("base", "util")] ∧
      applied.host.graph.OpensEdge 1 "lang" 2 ∧ ¬ withBase.graph.OpensEdge 1 "lang" 2 ∧
      ∃ context, applied.context = .ok context ∧
        (∃ record name, applied.host.graph.modules.get? 1 = some record ∧
          record.handle.name = some name ∧
          (name, "lang") ∈ threeRequests.requirements.entries) ∧
        ∃ request ∈ threeRequests.requests, request.opened = "base" ∧
          "lang" ∈ request.packages ∧ ∃ opened opening,
            context.resolve applied.host "base" = some opened ∧
            context.resolve applied.host request.opening = some opening ∧
            applied.host.graph.OpensEdge opened.id "lang" opening.id := by
  intro applied
  have reachable : withBase.Reachable := ⟨.all, _, rfl⟩
  have entries : threeRequests.requirements.entries =
      [("absent", "lang"), ("base", "lang"), ("base", "util")] := by decide
  have opened : (applied.host.graph.modules.get? 1).map
      (fun record => ModuleRecord.targetsOf record.opens "lang") = some [2] := by decide
  have unopened : (withBase.graph.modules.get? 1).map
      (fun record => ModuleRecord.targetsOf record.opens "lang") = some [] := by decide
  have edge : applied.host.graph.OpensEdge 1 "lang" 2 := by
    obtain ⟨record, found, targets⟩ := Option.map_eq_some_iff.1 opened
    exact ⟨record, found, targets ▸ List.mem_singleton_self 2⟩
  have new : ¬ withBase.graph.OpensEdge 1 "lang" 2 := by
    rintro ⟨record, found, isTarget⟩
    rw [found, Option.map_some, Option.some.injEq] at unopened
    rw [unopened] at isTarget
    cases isTarget
  obtain ⟨context, done⟩ : ∃ context, applied.context = .ok context := ⟨_, rfl⟩
  have resolved : (context.resolve applied.host "base").isSome = true ∧
      (context.resolve applied.host allUnnamed).isSome = true := by
    cases done
    decide
  obtain ⟨added, covered⟩ := requirements_agree reachable (by decide) done
  refine ⟨reachable, by decide, entries, edge, new, context, done, added 1 "lang" 2 edge new, ?_⟩
  rcases covered ("base", "lang") (by rw [entries]; decide) with has | special | absent | nobody
  · exact has
  · exact absurd special (by decide)
  · rw [show context.resolve applied.host "base" = none from absent] at resolved
    cases resolved.1
  · have missing := nobody StrategyKind.sampleRequest List.mem_cons_self rfl (by decide)
    rw [show context.resolve applied.host allUnnamed = none from missing] at resolved
    cases resolved.2

end Bootstrap

end ModuleOpens
