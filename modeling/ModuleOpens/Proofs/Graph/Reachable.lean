/-
# Proofs.Graph.Reachable — the machines that a run reaches

A machine is used through a fixed set of operations, with any arguments, and goes
on to the next whether one is done or refused. So every list of operations is a run,
and a machine is reachable when some run from a start ends in it.

`Effect machine operation after` says once what an operation does: it makes a
layer, a named module or an unnamed one, or redefines a module, or else
leaves the graph alone. What is true of every reachable machine is proved by the
cases of an effect. `Grows before after` is what all of them come to for the
modules of a machine: there may be new ones, under numbers that were never handed
out, and the old ones keep their handles.

* `perform_of_refuses`: an operation that is refused leaves the machine as it was;
* `effect_perform`: every operation, done or refused, has one of the effects;
* `grows_perform`: every operation keeps the modules that there are;
* `sound_of_reachable`: a record stands under its own number, below the next one,
  and a loader leads to an unnamed module.
-/
import ModuleOpens.Host.Machine
import ModuleOpens.Proofs.Graph.Change

namespace ModuleOpens

set_option autoImplicit false

/-- One use of a machine. -/
inductive Operation where
  | newLayer (parent : LayerId)
  | defineModule (layer : LayerId) (name : String) (packages : List String)
  | newLoader (name : String) (layer : Option LayerId)
  | unnamedModule (loader : LoaderHandle)
  | findModule (layer : LayerId) (name : String)
  | internalAddOpens (source : Option ModuleHandle) (package : Option String)
      (target : Option ModuleHandle)
  | addOpens (source : ModuleHandle) (package : String) (target : ModuleHandle)
  | redefine (module : ModuleHandle) (redefinition : Redefinition)
  | addReads (source target : ModuleHandle)
  | addExports (source : ModuleHandle) (package : String) (target : ModuleHandle)
  deriving DecidableEq, Repr

/-- The redefinition that an operation comes to, if it is one that adds edges. -/
def Operation.redefinition? : Operation → Option (ModuleHandle × Redefinition)
  | .internalAddOpens (some source) (some package) (some target)
  | .addOpens source package target => some (source, .ofEdge package target)
  | .redefine module redefinition => some (module, redefinition)
  | .addReads source target => some (source, { Redefinition.empty with reads := [target] })
  | .addExports source package target =>
    some (source, { Redefinition.empty with exports := Table.empty.set package [target] })
  | _ => none

namespace Machine

/-- The machine after an operation, refused or not. -/
def perform (machine : Machine) : Operation → Machine
  | .newLayer parent => (machine.newLayer parent).2
  | .defineModule layer name packages => (machine.defineModule layer name packages).2
  | .newLoader name layer => (machine.newLoader name layer).2
  | .unnamedModule loader => (machine.unnamedModule loader).2
  | .findModule layer name => (machine.findModule layer name).2
  | .internalAddOpens source package target => (machine.internalAddOpens source package target).2
  | .addOpens source package target => (machine.addOpens source package target).2
  | .redefine module redefinition => (machine.redefine module redefinition).2
  | .addReads source target => (machine.addReads source target).2
  | .addExports source package target => (machine.addExports source package target).2

/-- The machine refuses an operation. -/
def Refuses (machine : Machine) : Operation → Prop
  | .newLayer parent => ∃ cause, (machine.newLayer parent).1 = .error cause
  | .defineModule layer name packages =>
    ∃ cause, (machine.defineModule layer name packages).1 = .error cause
  | .newLoader _ _ | .unnamedModule _ | .findModule _ _ => False
  | .internalAddOpens source package target =>
    ∃ cause, (machine.internalAddOpens source package target).1 = .error cause
  | .addOpens source package target =>
    ∃ cause, (machine.addOpens source package target).1 = .error cause
  | .redefine module redefinition =>
    ∃ cause, (machine.redefine module redefinition).1 = .error cause
  | .addReads source target => ∃ cause, (machine.addReads source target).1 = .error cause
  | .addExports source package target =>
    ∃ cause, (machine.addExports source package target).1 = .error cause

/-- The machine after a run. -/
def run (machine : Machine) (operations : List Operation) : Machine :=
  operations.foldl perform machine

/-- A run in two portions. -/
theorem run_append (machine : Machine) (operations more : List Operation) :
    machine.run (operations ++ more) = (machine.run operations).run more :=
  List.foldl_append

/-- The run comes to an operation of which `event` holds, with the machine that it finds. -/
def HappensIn (event : Machine → Operation → Prop) (machine : Machine)
    (operations : List Operation) : Prop :=
  ∃ earlier operation later, operations = earlier ++ operation :: later ∧
    event (machine.run earlier) operation

theorem not_happensIn_nil {event : Machine → Operation → Prop} {machine : Machine} :
    ¬ HappensIn event machine [] := by
  rintro ⟨earlier, operation, later, split, -⟩
  cases earlier <;> cases split

/-- It is the first operation, or one of those after it. -/
theorem happensIn_cons (event : Machine → Operation → Prop) {machine : Machine}
    {operation : Operation} {operations : List Operation} :
    HappensIn event machine (operation :: operations) ↔
      event machine operation ∨ HappensIn event (machine.perform operation) operations := by
  constructor
  · rintro ⟨earlier, happening, later, split, happens⟩
    cases earlier with
    | nil =>
      cases split
      exact Or.inl happens
    | cons first earlier =>
      cases split
      exact Or.inr ⟨earlier, happening, later, rfl, happens⟩
  · rintro (happens | ⟨earlier, happening, later, rfl, happens⟩)
    · exact ⟨[], operation, operations, rfl, happens⟩
    · exact ⟨operation :: earlier, happening, later, rfl, happens⟩

/-- Some run of a machine that was just started ends here. -/
def Reachable (machine : Machine) : Prop :=
  ∃ privileges operations, (start privileges).run operations = machine

/-! ## What an operation does -/

/-- What becomes of a machine by an operation. -/
inductive Effect (machine : Machine) (operation : Operation) : Machine → Prop where
  /-- Nothing but that a lookup may be counted. -/
  | kept (lookups : Nat) : Effect machine operation { machine with lookups }
  | layer (parent : LayerId) (made : operation = .newLayer parent)
      (known : machine.graph.layers.contains parent = true) :
      Effect machine operation
        { machine with
          graph := { machine.graph with
            layers := machine.graph.layers.set machine.nextId ⟨some parent, .empty⟩ }
          nextId := machine.nextId + 1 }
  | named (layer : LayerId) (name : String) (packages : List String) (record : Layer)
      (made : operation = .defineModule layer name packages)
      (found : machine.graph.layers.get? layer = some record)
      (free : record.modules.get? name = none) :
      Effect machine operation
        { machine with
          graph := { machine.graph with
            modules := machine.graph.modules.set machine.nextId
              (.isolated (.named machine.nextId name) (some layer) (firstSeen packages))
            layers := machine.graph.layers.set layer
              { record with modules := record.modules.set name machine.nextId } }
          nextId := machine.nextId + 1 }
  /-- A loader gets an unnamed module, because it is new or because it was asked for one that it
  did not have. -/
  | unnamed (loader : Nat) (id : ModuleId) (layer : Option LayerId)
      (fresh : machine.nextId ≤ id)
      (made : (∃ name, operation = .newLoader name layer ∧ loader = machine.nextId) ∨
        ∃ handle, operation = .unnamedModule handle ∧ handle.id = loader ∧
          machine.graph.loaders.get? loader = none) :
      Effect machine operation
        { machine with
          graph := { machine.graph with
            modules := machine.graph.modules.set id (.isolated (.unnamed id) layer [])
            loaders := machine.graph.loaders.set loader id }
          nextId := id + 1 }
  | redefined (module : ModuleHandle) (redefinition : Redefinition) (record : ModuleRecord)
      (made : operation.redefinition? = some (module, redefinition))
      (admitted : machine.graph.Admits module redefinition record) :
      Effect machine operation
        (machine.changed
          (machine.graph.replaceModule module.id record (record.extended redefinition)))

variable {machine before after : Machine} {operation : Operation}

theorem effect_refl (machine : Machine) (operation : Operation) :
    Effect machine operation machine :=
  .kept machine.lookups

theorem effect_newLayer {parent layer : LayerId}
    (made : machine.newLayer parent = (.ok layer, after)) :
    Effect machine (.newLayer parent) after := by
  unfold newLayer at made
  split at made
  · rename_i known
    cases made
    exact .layer parent rfl known
  · cases made

theorem effect_defineModule {layer : LayerId} {name : String} {packages : List String}
    {handle : ModuleHandle}
    (made : machine.defineModule layer name packages = (.ok handle, after)) :
    Effect machine (.defineModule layer name packages) after := by
  unfold defineModule at made
  split at made
  · cases made
  · rename_i record found
    split at made
    · cases made
    · rename_i taken
      cases made
      have free : record.modules.get? name = none :=
        Option.isNone_iff_eq_none.1 (Option.isSome_eq_false_iff.1 (Bool.eq_false_iff.2 taken))
      exact .named layer name packages record rfl found free

theorem effect_unnamedModule (machine : Machine) (loader : LoaderHandle) :
    Effect machine (.unnamedModule loader) (machine.unnamedModule loader).2 := by
  unfold unnamedModule
  split
  · exact effect_refl machine _
  · rename_i unseen
    exact .unnamed loader.id machine.nextId none (Nat.le_refl _) (Or.inr ⟨loader, rfl, rfl, unseen⟩)

/-- The machine `after` comes of a redefinition that goes through. -/
def Redefines (machine : Machine) (module : ModuleHandle) (redefinition : Redefinition)
    (after : Machine) : Prop :=
  ∃ change, machine.graph.Redefined module redefinition change ∧ after = machine.changed change

/-- A program on the graph that goes through. -/
theorem edit_eq_ok_iff {program : Attempt Graph MutationError (Option Nat)}
    {newEdges : Option Nat} :
    machine.edit program = (.ok newEdges, after) ↔
      ∃ graph, program.on machine.graph = (.ok newEdges, graph) ∧
        after = machine.changed ⟨graph, newEdges⟩ := by
  unfold edit
  rcases program.on machine.graph with ⟨_ | count, graph⟩
  · simp
  · constructor
    · rintro ⟨⟩
      exact ⟨graph, rfl, rfl⟩
    · rintro ⟨_, ⟨⟩, rfl⟩
      rfl

theorem redefines_redefine {module : ModuleHandle} {redefinition : Redefinition}
    {newEdges : Option Nat}
    (redefined : machine.redefine module redefinition = (.ok newEdges, after)) :
    machine.Redefines module redefinition after := by
  obtain ⟨graph, changes, same⟩ := edit_eq_ok_iff.1 redefined
  exact ⟨_, Graph.redefine_eq_ok changes, same⟩

/-- One edge is added just when its program on the graph goes through. -/
theorem addOpens_eq_ok_iff {source target : ModuleHandle} {package : String} :
    machine.addOpens source package target = (.ok (), after) ↔
      ∃ newEdges, machine.edit (Graph.addOpens source package target) = (.ok newEdges, after) := by
  unfold addOpens
  rcases machine.edit (Graph.addOpens source package target) with ⟨_ | count, graph⟩
  · simp [Except.map]
  · simp [Except.map]

theorem redefines_addOpens {source target : ModuleHandle} {package : String}
    (added : machine.addOpens source package target = (.ok (), after)) :
    machine.Redefines source (.ofEdge package target) after := by
  obtain ⟨newEdges, edited⟩ := addOpens_eq_ok_iff.1 added
  obtain ⟨graph, changes, same⟩ := edit_eq_ok_iff.1 edited
  exact ⟨_, Graph.addOpens_eq_ok changes, same⟩

/-- The internal interface goes through with all of its arguments, as an addition of one edge. -/
theorem addOpens_of_internalAddOpens {source target : Option ModuleHandle} {package : Option String}
    (added : machine.internalAddOpens source package target = (.ok (), after)) :
    ∃ module name opening, source = some module ∧ package = some name ∧ target = some opening ∧
      machine.addOpens module name opening = (.ok (), after) := by
  unfold internalAddOpens at added
  split at added
  · split at added
    · rename_i source package target
      rcases changed : machine.addOpens source package target with ⟨_ | _, other⟩
      · rw [changed] at added
        cases added
      · rw [changed] at added
        cases added
        exact ⟨source, package, target, rfl, rfl, rfl, changed⟩
    · cases added
  · cases added

theorem effect_of_redefines {module : ModuleHandle} {redefinition : Redefinition}
    (made : operation.redefinition? = some (module, redefinition))
    (redefines : machine.Redefines module redefinition after) :
    Effect machine operation after := by
  obtain ⟨change, redefined, rfl⟩ := redefines
  cases redefined with
  | unnamed record found unnamed => exact effect_refl machine operation
  | named record admitted => exact .redefined module redefinition record made admitted

/-! ## Refused operations -/

theorem newLayer_refused {parent : LayerId} {cause : MutationError}
    (refused : machine.newLayer parent = (.error cause, after)) : after = machine := by
  unfold newLayer at refused
  split at refused
  · cases refused
  · cases refused
    rfl

theorem defineModule_refused {layer : LayerId} {name : String} {packages : List String}
    {cause : MutationError}
    (refused : machine.defineModule layer name packages = (.error cause, after)) :
    after = machine := by
  unfold defineModule at refused
  split at refused
  · cases refused
    rfl
  · split at refused
    · cases refused
      rfl
    · cases refused

/-- A program that leaves the graph as it was when it is refused leaves the machine so, too. -/
theorem edit_refused {program : Attempt Graph MutationError (Option Nat)}
    (keeps : program.KeepsRefused) {cause : MutationError}
    (refused : machine.edit program = (.error cause, after)) : after = machine := by
  unfold edit at refused
  split at refused
  · cases refused
  · rename_i ran
    cases refused
    rw [keeps _ _ _ ran]

theorem redefine_refused {module : ModuleHandle} {redefinition : Redefinition}
    {cause : MutationError}
    (refused : machine.redefine module redefinition = (.error cause, after)) : after = machine :=
  edit_refused (Graph.keepsRefused_redefine module redefinition) refused

theorem addOpens_refused {source target : ModuleHandle} {package : String} {cause : MutationError}
    (refused : machine.addOpens source package target = (.error cause, after)) :
    after = machine := by
  unfold addOpens at refused
  rcases edited : machine.edit (Graph.addOpens source package target) with ⟨_ | _, other⟩
  · rw [edited] at refused
    cases refused
    exact edit_refused (Graph.keepsRefused_addOpens source package target) edited
  · rw [edited] at refused
    cases refused

theorem internalAddOpens_refused {source target : Option ModuleHandle} {package : Option String}
    {cause : InternalCallError}
    (refused : machine.internalAddOpens source package target = (.error cause, after)) :
    after = machine := by
  unfold internalAddOpens at refused
  split at refused
  · split at refused
    · rename_i source package target
      rcases added : machine.addOpens source package target with ⟨_ | _, other⟩
      · rw [added] at refused
        cases refused
        exact addOpens_refused added
      · rw [added] at refused
        cases refused
    · cases refused
      rfl
  · cases refused
    rfl

/-- An operation that the machine refuses leaves it as it was. -/
theorem perform_of_refuses (refuses : machine.Refuses operation) :
    machine.perform operation = machine := by
  cases operation with
  | newLayer parent =>
    obtain ⟨cause, refused⟩ := refuses
    exact newLayer_refused (Prod.ext refused rfl)
  | defineModule layer name packages =>
    obtain ⟨cause, refused⟩ := refuses
    exact defineModule_refused (Prod.ext refused rfl)
  | newLoader name layer => cases refuses
  | unnamedModule loader => cases refuses
  | findModule layer name => cases refuses
  | internalAddOpens source package target =>
    obtain ⟨cause, refused⟩ := refuses
    exact internalAddOpens_refused (Prod.ext refused rfl)
  | addOpens source package target =>
    obtain ⟨cause, refused⟩ := refuses
    exact addOpens_refused (Prod.ext refused rfl)
  | redefine module redefinition =>
    obtain ⟨cause, refused⟩ := refuses
    exact redefine_refused (Prod.ext refused rfl)
  | addReads source target =>
    obtain ⟨cause, refused⟩ := refuses
    exact redefine_refused (Prod.ext refused rfl)
  | addExports source package target =>
    obtain ⟨cause, refused⟩ := refuses
    exact redefine_refused (Prod.ext refused rfl)

/-- What keeps the machine when it is refused has an effect if it has one when it goes through. -/
theorem effect_of_answered {ε α : Type} {answered : Except ε α × Machine}
    (refused : ∀ cause after, answered = (.error cause, after) → after = machine)
    (done : ∀ value after, answered = (.ok value, after) → Effect machine operation after) :
    Effect machine operation answered.2 := by
  obtain ⟨_ | value, after⟩ := answered
  · rw [refused _ _ rfl]
    exact effect_refl machine operation
  · exact done value after rfl

/-- Every operation, done or refused, has one of the effects. -/
theorem effect_perform (machine : Machine) (operation : Operation) :
    Effect machine operation (machine.perform operation) := by
  cases operation with
  | newLayer parent =>
    exact effect_of_answered (fun _ _ => newLayer_refused) fun _ _ => effect_newLayer
  | defineModule layer name packages =>
    exact effect_of_answered (fun _ _ => defineModule_refused) fun _ _ => effect_defineModule
  | newLoader name layer =>
    exact .unnamed machine.nextId (machine.nextId + 1) layer (Nat.le_succ _)
      (Or.inl ⟨name, rfl, rfl⟩)
  | unnamedModule loader => exact effect_unnamedModule machine loader
  | findModule layer name => exact .kept (machine.lookups + 1)
  | internalAddOpens source package target =>
    refine effect_of_answered (fun _ _ => internalAddOpens_refused) fun _ _ called => ?_
    obtain ⟨module, name, opening, rfl, rfl, rfl, added⟩ := addOpens_of_internalAddOpens called
    exact effect_of_redefines rfl (redefines_addOpens added)
  | addOpens source package target =>
    refine effect_of_answered (fun _ _ => addOpens_refused) fun _ _ added => ?_
    exact effect_of_redefines rfl (redefines_addOpens added)
  | redefine module redefinition =>
    refine effect_of_answered (fun _ _ => redefine_refused) fun _ _ done => ?_
    exact effect_of_redefines rfl (redefines_redefine done)
  | addReads source target =>
    refine effect_of_answered (fun _ _ => redefine_refused) fun _ _ done => ?_
    exact effect_of_redefines rfl (redefines_redefine done)
  | addExports source package target =>
    refine effect_of_answered (fun _ _ => redefine_refused) fun _ _ done => ?_
    exact effect_of_redefines rfl (redefines_redefine done)

/-! ## What all effects come to -/

/-- Records stand under their own numbers, all of which were handed out, and loaders lead to
unnamed modules. -/
structure Sound (machine : Machine) : Prop where
  own_id : ∀ id record, machine.graph.modules.get? id = some record → record.handle.id = id
  below : ∀ id record, machine.graph.modules.get? id = some record → id < machine.nextId
  loader_unnamed : ∀ loader id, machine.graph.loaders.get? loader = some id →
    machine.graph.Has (.unnamed id)

/-- A number that was not handed out yet is that of no module. -/
theorem Sound.get?_of_fresh (sound : machine.Sound) {id : ModuleId}
    (fresh : machine.nextId ≤ id) : machine.graph.modules.get? id = none := by
  cases found : machine.graph.modules.get? id with
  | none => rfl
  | some record => exact absurd fresh (Nat.not_le.2 (sound.below id record found))

/-- What an operation can do to the modules of a machine. -/
structure Grows (before after : Machine) : Prop where
  nextId : before.nextId ≤ after.nextId
  privileges : after.privileges = before.privileges
  keeps : ∀ module, before.graph.Has module → after.graph.Has module
  /-- A record is new, or it has the handle of the old one under the same number. -/
  records : ∀ id record, after.graph.modules.get? id = some record →
    (∃ old, before.graph.modules.get? id = some old ∧ record.handle = old.handle) ∨
      (record.handle.id = id ∧ id < after.nextId)
  /-- A loader leads where it did before, or to a module that is new. -/
  loaders : ∀ loader id, after.graph.loaders.get? loader = some id →
    before.graph.loaders.get? loader = some id ∨
      (before.nextId ≤ id ∧ after.graph.Has (.unnamed id))

theorem Grows.sound {before after : Machine} (grows : Grows before after) (sound : before.Sound) :
    after.Sound where
  own_id id record found := by
    rcases grows.records id record found with ⟨old, oldFound, same⟩ | ⟨own, -⟩
    · rw [same]
      exact sound.own_id id old oldFound
    · exact own
  below id record found := by
    rcases grows.records id record found with ⟨old, oldFound, -⟩ | ⟨-, below⟩
    · exact Nat.lt_of_lt_of_le (sound.below id old oldFound) grows.nextId
    · exact below
  loader_unnamed loader id found := by
    rcases grows.loaders loader id found with old | ⟨-, new⟩
    · exact grows.keeps _ (sound.loader_unnamed loader id old)
    · exact new

/-- No module changes. -/
theorem grows_of_same (modules : after.graph.modules = before.graph.modules)
    (loaders : after.graph.loaders = before.graph.loaders)
    (privileges : after.privileges = before.privileges) (nextId : before.nextId ≤ after.nextId) :
    Grows before after where
  nextId
  privileges
  keeps module has := by
    unfold Graph.Has
    rw [modules]
    exact has
  records id record found := Or.inl ⟨record, modules ▸ found, rfl⟩
  loaders loader id found := Or.inl (loaders ▸ found)

/-- A module keeps its handle and changes otherwise. -/
theorem grows_of_replaced {id : ModuleId} {old record : ModuleRecord}
    (found : before.graph.modules.get? id = some old) (handle : record.handle = old.handle)
    (modules : after.graph.modules = before.graph.modules.set id record)
    (loaders : after.graph.loaders = before.graph.loaders)
    (privileges : after.privileges = before.privileges) (nextId : after.nextId = before.nextId) :
    Grows before after where
  nextId := Nat.le_of_eq nextId.symm
  privileges
  keeps module has := by
    obtain ⟨present, presentFound, rfl⟩ := has
    unfold Graph.Has
    rw [modules, Table.get?_set]
    split
    · rename_i same
      rw [same, found] at presentFound
      cases presentFound
      exact ⟨record, rfl, handle⟩
    · exact ⟨present, presentFound, rfl⟩
  records other present presentFound := by
    rw [modules, Table.get?_set] at presentFound
    split at presentFound
    · rename_i same
      cases presentFound
      exact Or.inl ⟨old, same ▸ found, handle⟩
    · exact Or.inl ⟨present, presentFound, rfl⟩
  loaders loader id found := Or.inl (loaders ▸ found)

/-- There is a new module, under a number that was not handed out before; if there is a new
loader, it leads to this module. -/
theorem grows_of_new (handle : ModuleHandle) (layer : Option LayerId) (packages : List String)
    (sound : before.Sound) (fresh : before.nextId ≤ handle.id) (below : handle.id < after.nextId)
    (modules : after.graph.modules =
      before.graph.modules.set handle.id (.isolated handle layer packages))
    (privileges : after.privileges = before.privileges)
    (loaders : ∀ loader id, after.graph.loaders.get? loader = some id →
      before.graph.loaders.get? loader = some id ∨ .unnamed id = handle) :
    Grows before after where
  nextId := Nat.le_of_lt (Nat.lt_of_le_of_lt fresh below)
  privileges
  keeps module has := by
    obtain ⟨present, found, rfl⟩ := has
    have old := sound.below _ _ found
    refine ⟨present, ?_, rfl⟩
    rw [modules, Table.get?_set, if_neg (Nat.ne_of_lt (Nat.lt_of_lt_of_le old fresh))]
    exact found
  records id present found := by
    rw [modules, Table.get?_set] at found
    split at found
    · rename_i same
      cases found
      exact Or.inr ⟨same.symm, same ▸ below⟩
    · exact Or.inl ⟨present, found, rfl⟩
  loaders loader id found := by
    rcases loaders loader id found with old | rfl
    · exact Or.inl old
    · refine Or.inr ⟨fresh, .isolated (.unnamed id) layer packages, ?_, rfl⟩
      rw [modules, Table.get?_set, if_pos rfl]

/-- Every effect keeps the modules that there are. -/
theorem Effect.grows (effect : Effect machine operation after) (sound : machine.Sound) :
    Grows machine after := by
  cases effect with
  | kept lookups => exact grows_of_same rfl rfl rfl (Nat.le_refl _)
  | layer parent made known => exact grows_of_same rfl rfl rfl (Nat.le_succ _)
  | named layer name packages record made found free =>
    exact grows_of_new (.named machine.nextId name) _ _ sound (Nat.le_refl _) (Nat.lt_succ_self _)
      rfl rfl (fun _ _ found => Or.inl found)
  | unnamed loader id layer fresh made =>
    refine grows_of_new (.unnamed id) layer [] sound fresh (Nat.lt_succ_self _) rfl rfl ?_
    intro other present presentFound
    rw [Table.get?_set] at presentFound
    split at presentFound
    · cases presentFound
      exact Or.inr rfl
    · exact Or.inl presentFound
  | redefined module redefinition record made admitted =>
    have handle : (record.extended redefinition).handle = record.handle := rfl
    exact grows_of_replaced admitted.found handle rfl rfl rfl rfl

/-- Every operation, done or refused, keeps the modules that there are. -/
theorem grows_perform (sound : machine.Sound) (operation : Operation) :
    Grows machine (machine.perform operation) :=
  (effect_perform machine operation).grows sound

/-! ## Runs -/

theorem sound_start (privileges : Privileges) : (start privileges).Sound where
  own_id id record found := by cases found
  below id record found := by cases found
  loader_unnamed loader id found := by cases found

theorem sound_run (sound : machine.Sound) (operations : List Operation) :
    (machine.run operations).Sound := by
  induction operations generalizing machine with
  | nil => exact sound
  | cons operation rest ih => exact ih ((grows_perform sound operation).sound sound)

/-- Every reachable machine is sound. -/
theorem sound_of_reachable (reachable : machine.Reachable) : machine.Sound := by
  obtain ⟨privileges, operations, rfl⟩ := reachable
  exact sound_run (sound_start privileges) operations

end Machine

end ModuleOpens
