/-
# Proofs.Bootstrap.Generations — one bootstrap, applied to generation after generation

A process has one bootstrap and one machine. It applies the bootstrap to loaders,
and between applications the machine is used in any way, new layers, modules and
loaders included. Each application makes a context of its own, so an edge that an
application adds is one that its requests ask for in the names of that context;
nothing of an earlier generation is left in it.

* `reaches_apply`: an application is a run that opens what its context asks for;
* `exists_apply_of_opensEdge`: every edge goes back to an application;
* `opens_provenance`: which one, and what the names of its request stand for.
-/
import ModuleOpens.Bootstrap
import ModuleOpens.Proofs.Graph.Loaders
import ModuleOpens.Proofs.Graph.WellFormed
import ModuleOpens.Proofs.Strategy.Operations
import ModuleOpens.Proofs.Strategy.Selection

namespace ModuleOpens

set_option autoImplicit false

/-! ## The context of one application -/

namespace Machine

variable {machine : Machine}

/-- A machine that some run reaches is well formed. -/
theorem wellFormed_of_reachable (reachable : machine.Reachable) : machine.WellFormed := by
  obtain ⟨privileges, operations, rfl⟩ := reachable
  exact wellFormed_run (wellFormed_start privileges) operations

theorem Reaches.reachable {allowed : Operation → Prop} {after : Machine}
    (reaches : machine.Reaches allowed after) (reachable : machine.Reachable) :
    after.Reachable := by
  obtain ⟨privileges, operations, rfl⟩ := reachable
  obtain ⟨more, -, rfl⟩ := reaches
  exact ⟨privileges, operations ++ more, run_append ..⟩

/-- What a layer lists under a name has that name. -/
theorem name_of_find (wellFormed : machine.WellFormed) {layer : LayerId} {name : String}
    {module : ModuleHandle} (found : machine.graph.find layer name = some module) :
    module.name = some name := by
  unfold Graph.find at found
  generalize machine.graph.layers.size = steps at found
  induction steps generalizing layer with
  | zero => cases found
  | succ steps ih =>
    unfold Graph.findWithin at found
    split at found
    · cases found
    · rename_i entry layerFound
      split at found
      · rename_i id listed
        obtain ⟨record, recordFound, rfl⟩ := Option.map_eq_some_iff.1 found
        obtain ⟨present, presentFound, named, -⟩ :=
          wellFormed.layered.listed layer entry name id layerFound listed
        cases presentFound.symm.trans recordFound
        rw [named]
        rfl
      · obtain ⟨parent, -, parentFound⟩ := Option.bind_eq_some_iff.1 found
        exact ih parentFound

end Machine

namespace LoaderContext

/-- A context that nobody has asked yet looks every name up. -/
theorem resolve_ofLoader (machine : Machine) (loader : LoaderHandle) (name : String) :
    (ofLoader machine loader).1.resolve (ofLoader machine loader).2 name =
      if name = allUnnamed then some (ofLoader machine loader).1.unnamed
      else (ofLoader machine loader).2.graph.find (ofLoader machine loader).1.layer name :=
  resolve_eq (ofLoader machine loader).1 (ofLoader machine loader).2 name

end LoaderContext

namespace Bootstrap

/-- An application makes the loader's context and then leaves the machine to some strategy, if
there is anything to apply. The requests are the same after it. -/
theorem apply_spec (bootstrap : Bootstrap) (loader : LoaderHandle) (machine : Machine) :
    let made := LoaderContext.ofLoader machine loader
    let applied := bootstrap.apply loader machine
    (applied.host = made.2 ∨ ∃ kind : StrategyKind,
        applied.host = (kind.openModules bootstrap.requests made.1 made.2).host) ∧
      applied.bootstrap.requests = bootstrap.requests := by
  intro made applied
  show ((apply bootstrap loader machine).host = _ ∨ ∃ kind, (apply bootstrap loader machine).host = _)
    ∧ (apply bootstrap loader machine).bootstrap.requests = _
  unfold apply
  dsimp only
  by_cases empty : bootstrap.requests.isEmpty = true
  · rw [if_pos empty]
    exact ⟨Or.inl rfl, rfl⟩
  · rw [if_neg empty, Selector.host_select]
    split
    · exact ⟨Or.inr ⟨_, rfl⟩, rfl⟩
    · exact ⟨Or.inr ⟨_, rfl⟩, rfl⟩

/-- An application, done or stopped, is a run of operations that open nothing but what the
requests ask for in the loader's own context. -/
theorem reaches_apply (bootstrap : Bootstrap) (loader : LoaderHandle) (machine : Machine) :
    let made := LoaderContext.ofLoader machine loader
    made.2.Reaches (made.1.Permits made.2 bootstrap.requests)
      (bootstrap.apply loader machine).host := by
  intro made
  rcases (bootstrap.apply_spec loader machine).1 with idle | ⟨kind, ran⟩
  · rw [idle]
    exact .refl made.2
  · rw [ran]
    exact kind.reaches_openModules bootstrap.requests made.1 made.2

end Bootstrap

/-! ## Runs of a process -/

/-- A bootstrap, and the machine that it is applied on. -/
structure Process where
  bootstrap : Bootstrap
  machine : Machine
  deriving DecidableEq, Repr

namespace Process

/-- What happens in a process. -/
inductive Act where
  /-- The bootstrap is applied to a loader. -/
  | apply (loader : LoaderHandle)
  /-- The machine is used otherwise. -/
  | perform (operation : Operation)
  deriving DecidableEq, Repr

/-- A machine that was just started, with a bootstrap. -/
def start (bootstrap : Bootstrap) (privileges : Privileges) : Process :=
  ⟨bootstrap, .start privileges⟩

def step (process : Process) : Act → Process
  | .apply loader =>
    let applied := process.bootstrap.apply loader process.machine
    ⟨applied.bootstrap, applied.host⟩
  | .perform operation => { process with machine := process.machine.perform operation }

def run (process : Process) (schedule : List Act) : Process :=
  schedule.foldl step process

/-- Nothing but applications adds opens edges. -/
def OnlyApplies (process : Process) (schedule : List Act) : Prop :=
  ∀ earlier operation later, schedule = earlier ++ .perform operation :: later →
    ∀ source package target,
      ((process.run earlier).machine.perform operation).graph.OpensEdge source package target →
        (process.run earlier).machine.graph.OpensEdge source package target

variable {process : Process} {schedule : List Act} {act : Act} {source target : ModuleId}
  {package : String}

theorem run_append (process : Process) (schedule more : List Act) :
    process.run (schedule ++ more) = (process.run schedule).run more :=
  List.foldl_append

theorem OnlyApplies.append_singleton (only : process.OnlyApplies (schedule ++ [act])) :
    process.OnlyApplies schedule := by
  intro earlier operation later split
  apply only earlier operation (later ++ [act])
  rw [split, List.append_assoc, List.cons_append]

/-- Operations that ask for no opens edge add none. -/
theorem onlyApplies_of_not_opens (silent : ∀ operation, .perform operation ∈ schedule →
    ∀ source package target, ¬ operation.Opens source package target) :
    process.OnlyApplies schedule := by
  intro earlier operation later split source package target edge
  have member : .perform operation ∈ schedule := by
    rw [split]
    exact List.mem_append_right _ List.mem_cons_self
  have effect := Machine.effect_perform (process.run earlier).machine operation
  rcases Machine.opensEdge_effect effect edge with old | asked
  · exact old
  · exact absurd asked (silent operation member source package target)

theorem requests_run (process : Process) (schedule : List Act) :
    (process.run schedule).bootstrap.requests = process.bootstrap.requests := by
  induction schedule generalizing process with
  | nil => rfl
  | cons act rest ih =>
    have first : (process.step act).bootstrap.requests = process.bootstrap.requests := by
      cases act with
      | apply loader => exact (process.bootstrap.apply_spec loader process.machine).2
      | perform operation => rfl
    exact (ih (process.step act)).trans first

theorem reaches_apply (process : Process) (loader : LoaderHandle) :
    (LoaderContext.ofLoader process.machine loader).2.Reaches (fun _ => True)
      (process.step (.apply loader)).machine :=
  (process.bootstrap.reaches_apply loader process.machine).mono fun _ _ => trivial

/-- To make a context is to ask for the unnamed module of its loader. -/
theorem reaches_ofLoader (machine : Machine) (loader : LoaderHandle) :
    machine.Reaches (fun _ => True) (LoaderContext.ofLoader machine loader).2 := by
  have reached : machine.Reaches (fun _ => True) (machine.perform (.unnamedModule loader)) :=
    machine.reaches_perform trivial
  exact reached

/-- Whatever happens in a process, to the machine it is a run. -/
theorem reaches_run (process : Process) (schedule : List Act) :
    process.machine.Reaches (fun _ => True) (process.run schedule).machine := by
  induction schedule generalizing process with
  | nil => exact .refl process.machine
  | cons act rest ih =>
    have first : process.machine.Reaches (fun _ => True) (process.step act).machine := by
      cases act with
      | apply loader =>
        exact (reaches_ofLoader process.machine loader).trans (process.reaches_apply loader)
      | perform operation => exact Machine.reaches_perform process.machine trivial
    exact first.trans (ih (process.step act))

theorem reachable_run (bootstrap : Bootstrap) (privileges : Privileges) (schedule : List Act) :
    ((start bootstrap privileges).run schedule).machine.Reachable :=
  (reaches_run (start bootstrap privileges) schedule).reachable ⟨privileges, [], rfl⟩

/-- An edge that an application adds is one that its context asks for. -/
theorem opensEdge_apply {loader : LoaderHandle}
    (edge : (process.step (.apply loader)).machine.graph.OpensEdge source package target) :
    process.machine.graph.OpensEdge source package target ∨
      let made := LoaderContext.ofLoader process.machine loader
      ∃ opened opening, made.1.Asks made.2 process.bootstrap.requests opened package opening ∧
        opened.id = source ∧ opening.id = target := by
  have reached := process.bootstrap.reaches_apply loader process.machine
  rcases Machine.opensEdge_of_reaches reached edge with old | ⟨operation, permitted, asked⟩
  · -- Making the context has opened nothing.
    have made := Machine.effect_perform process.machine (.unnamedModule loader)
    rcases Machine.opensEdge_effect made old with before | ⟨_, _, opens, -⟩
    · exact Or.inl before
    · cases opens
  · exact Or.inr (permitted source package target asked)

/-- Every edge goes back to an application. -/
theorem exists_apply_of_opensEdge (bootstrap : Bootstrap) (privileges : Privileges)
    (only : (start bootstrap privileges).OnlyApplies schedule)
    (edge : ((start bootstrap privileges).run schedule).machine.graph.OpensEdge source package
      target) :
    ∃ earlier loader later, schedule = earlier ++ .apply loader :: later ∧
      let made := LoaderContext.ofLoader ((start bootstrap privileges).run earlier).machine loader
      ∃ opened opening, made.1.Asks made.2 bootstrap.requests opened package opening ∧
        opened.id = source ∧ opening.id = target := by
  induction schedule using List.reverseRecOn with
  | nil =>
    obtain ⟨record, found, -⟩ := edge
    cases found
  | append_singleton schedule act ih =>
    have split (old : ((start bootstrap privileges).run schedule).machine.graph.OpensEdge source
        package target) := ih only.append_singleton old
    rw [run_append] at edge
    have before : ((start bootstrap privileges).run schedule).machine.graph.OpensEdge source
          package target ∨
        ∃ loader, act = .apply loader ∧
          let made :=
            LoaderContext.ofLoader ((start bootstrap privileges).run schedule).machine loader
          ∃ opened opening, made.1.Asks made.2 bootstrap.requests opened package opening ∧
            opened.id = source ∧ opening.id = target := by
      cases act with
      | apply loader =>
        have requests := requests_run (start bootstrap privileges) schedule
        rcases opensEdge_apply edge with old | asked
        · exact Or.inl old
        · rw [requests] at asked
          exact Or.inr ⟨loader, rfl, asked⟩
      | perform operation => exact Or.inl (only schedule operation [] rfl source package target edge)
    rcases before with old | ⟨loader, rfl, asked⟩
    · obtain ⟨earlier, loader, later, same, asked⟩ := split old
      refine ⟨earlier, loader, later ++ [act], ?_, asked⟩
      rw [same, List.append_assoc, List.cons_append]
    · exact ⟨schedule, loader, [], rfl, asked⟩

end Process

/-! ## What the names of one generation stand for -/

section Generation

variable {before after : Machine} {loader : LoaderHandle} {name : String} {module : ModuleHandle}

/-- What a name stands for in a context stays a module of the machine. -/
theorem LoaderContext.has_of_resolve_ofLoader (reachable : before.Reachable)
    (later : (ofLoader before loader).2.Reaches (fun _ => True) after)
    (resolved : (ofLoader before loader).1.resolve (ofLoader before loader).2 name = some module) :
    after.graph.Has module := by
  have knows := (Arises.made reachable loader).knows
  exact (Machine.extends_of_reaches later knows.sound).has (knows.has_of_resolve resolved)

/-- A named module was found by a lookup from the loader's layer. -/
theorem LoaderContext.find_of_resolve_ofLoader
    (resolved : (ofLoader before loader).1.resolve (ofLoader before loader).2 name = some module)
    (named : module.isNamed = true) :
    (ofLoader before loader).2.graph.find (ofLoader before loader).1.layer name = some module := by
  rw [resolve_ofLoader] at resolved
  split at resolved
  · cases resolved
    have nameless : (ofLoader before loader).1.unnamed.name = none :=
      (before.unnamedModule_spec loader).1
    rw [ModuleHandle.isNamed, nameless] at named
    cases named
  · exact resolved

/-- An unnamed module is the one that the context has captured. -/
theorem LoaderContext.eq_unnamed_of_resolve_ofLoader (reachable : before.Reachable)
    (resolved : (ofLoader before loader).1.resolve (ofLoader before loader).2 name = some module)
    (unnamed : module.isNamed = false) : module = (ofLoader before loader).1.unnamed := by
  rw [resolve_ofLoader] at resolved
  split at resolved
  · cases resolved
    rfl
  · have wellFormed := Machine.wellFormed_of_reachable
      ((Process.reaches_ofLoader before loader).reachable reachable)
    rw [ModuleHandle.isNamed, Machine.name_of_find wellFormed resolved] at unnamed
    cases unnamed

/-- A captured unnamed module is never another loader's. -/
theorem LoaderContext.loader_eq_of_captured (reachable : before.Reachable)
    (later : (ofLoader before loader).2.Reaches (fun _ => True) after) {other : Nat}
    (leads : after.graph.loaders.get? other = some (ofLoader before loader).1.unnamed.id) :
    other = loader.id := by
  have wellFormed := Machine.wellFormed_of_reachable
    ((Process.reaches_ofLoader before loader).reachable reachable)
  have captured : (ofLoader before loader).2.graph.loaders.get? loader.id =
      some (ofLoader before loader).1.unnamed.id := (before.unnamedModule_spec loader).2
  obtain ⟨record, found, -⟩ := wellFormed.loader_unnamed _ _ captured
  have below := wellFormed.below _ record found
  rcases (Machine.extends_of_reaches later wellFormed.toSound).loaders other _ leads with
    old | fresh
  · exact wellFormed.loader_own other loader.id _ old captured
  · exact absurd fresh (Nat.not_le.2 below)

end Generation

namespace Process

/-- Where an opens edge of a named module comes from, when only applications of one bootstrap add
any: from an application to some loader, and from a request whose names stand for the two modules
in the context that this application made. The opened module was found from that loader's own
layer; and if the opening one is unnamed, it is the one that the context has captured, and
no other loader's. -/
theorem opens_provenance (bootstrap : Bootstrap) (privileges : Privileges) {schedule : List Act}
    (only : (start bootstrap privileges).OnlyApplies schedule) (source : ModuleHandle)
    (package : String) (target : ModuleHandle) {record : ModuleRecord}
    (found : ((start bootstrap privileges).run schedule).machine.graph.modules.get? source.id =
      some record)
    (named : record.handle.isNamed = true)
    (opens : ((start bootstrap privileges).run schedule).machine.graph.opensTo source package
      target = true) :
    ∃ earlier loader later, schedule = earlier ++ .apply loader :: later ∧
      let made := LoaderContext.ofLoader ((start bootstrap privileges).run earlier).machine loader
      let after := ((start bootstrap privileges).run schedule).machine
      ∃ request ∈ bootstrap.requests, ∃ opening,
        made.1.resolve made.2 request.opened = some record.handle ∧
        made.1.resolve made.2 request.opening = some opening ∧ package ∈ request.packages ∧
        opening.id = target.id ∧ after.graph.Has opening ∧
        made.2.graph.find made.1.layer request.opened = some record.handle ∧
        (opening.isNamed = false → opening = made.1.unnamed ∧
          ∀ other, after.graph.loaders.get? other = some target.id → other = loader.id) := by
  have edge : ((start bootstrap privileges).run schedule).machine.graph.OpensEdge source.id package
      target.id := ⟨record, found, (Graph.opensTo_of_named found named package target).1 opens⟩
  obtain ⟨earlier, loader, later, split, opened, opening, asks, isSource, isTarget⟩ :=
    exists_apply_of_opensEdge bootstrap privileges only edge
  obtain ⟨request, member, isOpened, isOpening, isPackage⟩ := asks
  have reachable := reachable_run bootstrap privileges earlier
  have reached : (LoaderContext.ofLoader
      ((start bootstrap privileges).run earlier).machine loader).2.Reaches (fun _ => True)
      ((start bootstrap privileges).run schedule).machine := by
    rw [split, run_append]
    exact (reaches_apply _ loader).trans (reaches_run _ later)
  -- The record under the number of the source is that of the opened module.
  have same : record.handle = opened := by
    obtain ⟨present, presentFound, is⟩ :=
      LoaderContext.has_of_resolve_ofLoader reachable reached isOpened
    rw [isSource, found] at presentFound
    cases presentFound
    exact is
  subst same
  refine ⟨earlier, loader, later, split, request, member, opening, isOpened, isOpening, isPackage,
    isTarget, LoaderContext.has_of_resolve_ofLoader reachable reached isOpening,
    LoaderContext.find_of_resolve_ofLoader isOpened named, ?_⟩
  intro unnamed
  have captured := LoaderContext.eq_unnamed_of_resolve_ofLoader reachable isOpening unnamed
  refine ⟨captured, fun other leads => ?_⟩
  rw [← isTarget, captured] at leads
  exact LoaderContext.loader_eq_of_captured reachable reached leads

/-- Two generations, each with a module of the same name and a loader of its own. -/
def twoGenerations : List Act :=
  [.perform (.defineModule bootLayer "base" ["lang"]), .perform (.newLoader "first" none),
    .perform (.newLayer bootLayer), .perform (.defineModule 4 "base" ["lang"]),
    .perform (.newLoader "second" (some 4)), .apply ⟨2, "first"⟩, .apply ⟨6, "second"⟩]

/-- The machine after both generations. -/
def afterBoth : Machine :=
  ((start (.ofRequests [StrategyKind.sampleRequest]) .all).run twoGenerations).machine

/-- The edge to the second loader's module comes from the application to this loader, and goes
from the module of its own layer; the boot layer's module of the same name has none. -/
theorem opens_provenance_twoGenerations :
    (start (.ofRequests [StrategyKind.sampleRequest]) .all).OnlyApplies twoGenerations ∧
      afterBoth.graph.opensTo (.named 5 "base") "lang" (.unnamed 7) = true ∧
      afterBoth.graph.opensTo (.named 1 "base") "lang" (.unnamed 7) = false ∧
      ∃ earlier loader later, twoGenerations = earlier ++ .apply loader :: later ∧
        loader.id = 6 := by
  have only : (start (.ofRequests [StrategyKind.sampleRequest]) .all).OnlyApplies
      twoGenerations := by
    apply onlyApplies_of_not_opens
    rintro operation member source package target ⟨_, _, made, -⟩
    simp only [twoGenerations, List.mem_cons, Act.perform.injEq, reduceCtorEq, List.not_mem_nil,
      or_false] at member
    rcases member with rfl | rfl | rfl | rfl | rfl <;> cases made
  have opens : afterBoth.graph.opensTo (.named 5 "base") "lang" (.unnamed 7) = true := by decide
  have isBase : (afterBoth.graph.modules.get? 5).map ModuleRecord.handle =
      some (.named 5 "base") := by decide
  have isUnnamed : (afterBoth.graph.modules.get? 7).map ModuleRecord.handle =
      some (.unnamed 7) := by decide
  have second : afterBoth.graph.loaders.get? 6 = some 7 := by decide
  obtain ⟨record, found, handle⟩ := Option.map_eq_some_iff.1 isBase
  have named : record.handle.isNamed = true := by
    rw [handle]
    rfl
  obtain ⟨earlier, loader, later, split, request, -, opening, -, -, -, isTarget, has, -, own⟩ :=
    opens_provenance (.ofRequests [StrategyKind.sampleRequest]) .all only (.named 5 "base") "lang"
      (.unnamed 7) found named opens
  obtain ⟨present, presentFound, is⟩ := has
  have unnamed : opening.isNamed = false := by
    change afterBoth.graph.modules.get? opening.id = some present at presentFound
    rw [isTarget] at presentFound
    change afterBoth.graph.modules.get? 7 = some present at presentFound
    rw [presentFound, Option.map_some, is] at isUnnamed
    rw [Option.some.inj isUnnamed]
    rfl
  exact ⟨only, opens, by decide, earlier, loader, later, split, ((own unnamed).2 6 second).symm⟩

end Process

end ModuleOpens
