/-
# Proofs.Graph.Redefinition — all of a redefinition, or nothing of it

A redefinition is checked in one pass over its packages and one over its targets,
and written in five places. `Graph.Refuses` says what stands in its way, with the
error that names it; when nothing does, the module gains every edge that the
redefinition gives, in all five places, and nothing else of the machine is
different (`Machine.Gains`).

* `refuses_of_redefine`, `exists_error_of_refuses`: the checks cover what the
  redefinition writes, and no more;
* `gains_extended`: what is written is what the redefinition gives; providers keep
  their order, and new ones follow in theirs;
* `redefinition_all_or_nothing`: both together, on a machine.
-/
import ModuleOpens.Proofs.Graph.Mutations

namespace ModuleOpens

set_option autoImplicit false

/-! ## What stands in the way of a redefinition -/

namespace Graph

/-- Something stands in the way of a redefinition, and this error names it. Nothing does when
the module is unnamed. -/
inductive Refuses (graph : Graph) (module : ModuleHandle) (redefinition : Redefinition) :
    MutationError → Prop where
  | module (unknown : graph.modules.get? module.id = none) :
      Refuses graph module redefinition (.unknownModule module.text)
  | package (record : ModuleRecord) (found : graph.modules.get? module.id = some record)
      (named : record.handle.isNamed = true) (package : String)
      (asked : package ∈ redefinition.exports.keys ∨ package ∈ redefinition.opens.keys)
      (lacking : package ∉ record.packages) :
      Refuses graph module redefinition (.unknownPackage record.handle.text package)
  | target (record : ModuleRecord) (found : graph.modules.get? module.id = some record)
      (named : record.handle.isNamed = true) (target : ModuleHandle)
      (asked : target ∈ redefinition.reads ∨
        (∃ entry ∈ redefinition.exports.entries, target ∈ entry.2) ∨
        ∃ entry ∈ redefinition.opens.entries, target ∈ entry.2)
      (unknown : graph.modules.get? target.id = none) :
      Refuses graph module redefinition (.unknownModule target.text)

variable {graph : Graph} {module : ModuleHandle} {redefinition : Redefinition}
  {cause : MutationError}

theorem mem_targets {target : ModuleHandle} :
    target ∈ redefinition.targets ↔ target ∈ redefinition.reads ∨
      (∃ entry ∈ redefinition.exports.entries, target ∈ entry.2) ∨
      ∃ entry ∈ redefinition.opens.entries, target ∈ entry.2 := by
  simp only [Redefinition.targets, List.mem_append, List.mem_flatMap, or_assoc]

theorem redefine_of_unknown (unknown : graph.modules.get? module.id = none) :
    (redefine module redefinition).on graph = (.error (.unknownModule module.text), graph) := by
  unfold redefine
  rw [Attempt.on_get_bind, Attempt.on_check_bind, requireModule_eq_error_iff.2 ⟨unknown, rfl⟩]

/-- A redefinition that fails does so for something that stands in its way. -/
theorem refuses_of_redefine {after : Graph}
    (failed : (redefine module redefinition).on graph = (.error cause, after)) :
    graph.Refuses module redefinition cause := by
  cases found : graph.modules.get? module.id with
  | none =>
    cases (redefine_of_unknown found).symm.trans failed
    exact .module found
  | some record =>
    rw [redefine_of_found found] at failed
    split at failed
    · rename_i named
      split at failed
      · rename_i packages
        cases failed
        obtain ⟨package, asked, lacking, rfl⟩ :=
          ModuleRecord.exists_of_requirePackages_eq_error packages
        exact .package record found named package (List.mem_append.1 asked) lacking
      split at failed
      · rename_i targets
        cases failed
        obtain ⟨target, asked, unknown, rfl⟩ := exists_of_requireModules_eq_error targets
        exact .target record found named target (mem_targets.1 asked) unknown
      · cases failed
    · cases failed

/-- What stands in the way of a redefinition makes it fail. -/
theorem exists_error_of_refuses (refuses : graph.Refuses module redefinition cause) :
    ∃ cause after, (redefine module redefinition).on graph = (.error cause, after) := by
  rcases result : (redefine module redefinition).on graph with ⟨other | count, after⟩
  · exact ⟨other, after, rfl⟩
  · exfalso
    cases refuses with
    | module unknown => cases (redefine_of_unknown unknown).symm.trans result
    | package record found named package asked lacking =>
      obtain ⟨admitted, -⟩ := (redefine_eq_ok_iff found named).1 result
      exact lacking (admitted.packages package (List.mem_append.2 asked))
    | target record found named target asked unknown =>
      obtain ⟨admitted, -⟩ := (redefine_eq_ok_iff found named).1 result
      obtain ⟨opening, known⟩ := admitted.targets target (mem_targets.2 asked)
      cases unknown.symm.trans known

end Graph

/-! ## What a redefinition gives -/

/-- The providers that a redefinition gives for a service, in order. -/
def Redefinition.providersOf (redefinition : Redefinition) (service : String) : List String :=
  ModuleRecord.valuesFor service redefinition.provides.entries

namespace ModuleRecord

/-- The providers that a module has for a service, in order. -/
def providersOf (record : ModuleRecord) (service : String) : List String :=
  (record.provides.get? service).getD []

/-- The record after has all that the redefinition gives beside what it had before, and is the
same otherwise. -/
structure Gains (before : ModuleRecord) (redefinition : Redefinition) (after : ModuleRecord) :
    Prop where
  handle : after.handle = before.handle
  layer : after.layer = before.layer
  packages : after.packages = before.packages
  edges : ∀ edge, after.HasEdge edge ↔ before.HasEdge edge ∨ redefinition.Gives edge
  /-- The old providers stay in front; of those given, the new ones follow, each where it is
  given first. -/
  providers : ∀ service, after.providersOf service =
    before.providersOf service ++ ((redefinition.providersOf service).filter
      (· ∉ before.providersOf service)).eraseDups

theorem gains_extended (record : ModuleRecord) (redefinition : Redefinition) :
    record.Gains redefinition (record.extended redefinition) where
  handle := rfl
  layer := rfl
  packages := rfl
  edges _ := hasEdge_extended
  providers service := by
    rw [← addAll_eq_append]
    exact getD_extendTable record.provides redefinition.provides.entries service

end ModuleRecord

/-- A table with one entry for each service gives what it has under the service. -/
theorem Redefinition.providersOf_eq_getD {redefinition : Redefinition}
    (nodup : redefinition.provides.keys.Nodup) (service : String) :
    redefinition.providersOf service = (redefinition.provides.get? service).getD [] :=
  ModuleRecord.valuesFor_eq_getD nodup service

namespace Machine

/-- The module has gained what the redefinition gives, and nothing else is different but the
number of edges that were added. -/
structure Gains (before : Machine) (module : ModuleId) (redefinition : Redefinition)
    (after : Machine) : Prop where
  gained : ∃ old new, before.graph.modules.get? module = some old ∧
    after.graph.modules.get? module = some new ∧ old.Gains redefinition new
  others : ∀ other, other ≠ module →
    after.graph.modules.get? other = before.graph.modules.get? other
  layers : after.graph.layers = before.graph.layers
  loaders : after.graph.loaders = before.graph.loaders
  privileges : after.privileges = before.privileges
  nextId : after.nextId = before.nextId
  lookups : after.lookups = before.lookups

variable {machine after : Machine} {module : ModuleHandle} {redefinition : Redefinition}
  {cause : MutationError}

/-- The machine refuses what its graph refuses. -/
theorem redefine_eq_error_iff : (machine.redefine module redefinition).1 = .error cause ↔
    ((Graph.redefine module redefinition).on machine.graph).1 = .error cause := by
  unfold redefine edit
  rcases (Graph.redefine module redefinition).on machine.graph with ⟨_ | count, graph⟩ <;> rfl

/-- A redefinition that the graph admits. -/
theorem gains_changed {record : ModuleRecord}
    (admitted : machine.graph.Admits module redefinition record) :
    machine.Gains module.id redefinition (machine.changed
      (machine.graph.replaceModule module.id record (record.extended redefinition))) where
  gained := by
    refine ⟨record, _, admitted.found, ?_, record.gains_extended redefinition⟩
    exact (Table.get?_set ..).trans (if_pos rfl)
  others other distinct := (Table.get?_set ..).trans (if_neg distinct)
  layers := rfl
  loaders := rfl
  privileges := rfl
  nextId := rfl
  lookups := rfl

/-- A redefinition is refused exactly when something stands in its way, with an error that
names such a thing, and then the machine stays as it is, counter included. Otherwise the module
is known; an unnamed one makes no difference, and a named one gains all that the redefinition
gives, and nothing else. -/
theorem redefinition_all_or_nothing (machine : Machine) (module : ModuleHandle)
    (redefinition : Redefinition) :
    ((∃ cause, (machine.redefine module redefinition).1 = .error cause) ↔
      ∃ cause, machine.graph.Refuses module redefinition cause) ∧
    (∀ after cause, machine.redefine module redefinition = (.error cause, after) →
      machine.graph.Refuses module redefinition cause ∧ after = machine ∧
        machine.perform (.redefine module redefinition) = machine) ∧
    (∀ after count, machine.redefine module redefinition = (.ok count, after) →
      machine.perform (.redefine module redefinition) = after ∧
        ∃ record, machine.graph.modules.get? module.id = some record ∧
          (record.handle.isNamed = false → after = machine) ∧
          (record.handle.isNamed = true → machine.Gains module.id redefinition after)) := by
  have refuses {cause : MutationError}
      (failed : (machine.redefine module redefinition).1 = .error cause) :
      machine.graph.Refuses module redefinition cause :=
    Graph.refuses_of_redefine (Prod.ext (redefine_eq_error_iff.1 failed) rfl)
  refine ⟨⟨?_, ?_⟩, ?_, ?_⟩
  · rintro ⟨cause, failed⟩
    exact ⟨cause, refuses failed⟩
  · rintro ⟨cause, stands⟩
    obtain ⟨other, after, failed⟩ := Graph.exists_error_of_refuses stands
    exact ⟨other, redefine_eq_error_iff.2 (congrArg Prod.fst failed)⟩
  · intro after cause failed
    have refused : (machine.redefine module redefinition).1 = .error cause :=
      congrArg Prod.fst failed
    exact ⟨refuses refused, redefine_refused failed, perform_of_refuses ⟨cause, refused⟩⟩
  · intro after count done
    refine ⟨congrArg Prod.snd done, ?_⟩
    obtain ⟨graph, redefined, rfl⟩ := edit_eq_ok_iff.1 done
    cases found : machine.graph.modules.get? module.id with
    | none => cases (Graph.redefine_of_unknown found).symm.trans redefined
    | some record =>
      refine ⟨record, rfl, ?_, ?_⟩
      · intro unnamed
        rw [Graph.redefine_of_found found, unnamed] at redefined
        cases redefined
        rfl
      · intro named
        obtain ⟨admitted, same⟩ := (Graph.redefine_eq_ok_iff found named).1 redefined
        rw [same]
        exact gains_changed admitted

end Machine

end ModuleOpens
