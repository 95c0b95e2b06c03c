/-
# Proofs.Graph.Change — what the two ways of adding edges do

Each way is told once, as an equation over the record of the module that gets
the edges; later proofs cite these and open neither definition. Both check first
and write then, so a graph is left alone by a change that it refuses.

* `keepsRefused_addOpens`, `keepsRefused_redefine`: a refused change leaves no trace;
* `addOpens_of_found`: one opens edge;
* `redefine_of_found`, `redefine_eq_ok_iff`: the edges of a redefinition;
* `addOpens_eq_ok`, `redefine_eq_ok`: both, when they go through, replace the record of a named
  module by an extended one that the graph admits (`Redefined`), and leave an unnamed one alone.
-/
import ModuleOpens.Graph.Change
import ModuleOpens.Proofs.Graph.Edges

namespace ModuleOpens

set_option autoImplicit false

/-- A computation goes through when its first part does and the rest does after it. -/
theorem bind_eq_ok_iff {ε α β : Type} {first : Except ε α} {next : α → Except ε β} {result : β} :
    (first >>= next) = .ok result ↔ ∃ value, first = .ok value ∧ next value = .ok result := by
  cases first with
  | ok value => simp [bind, Except.bind]
  | error cause => simp [bind, Except.bind]

/-- A computation fails where its first part does, or the rest after it. -/
theorem bind_eq_error_iff {ε α β : Type} {first : Except ε α} {next : α → Except ε β} {cause : ε} :
    (first >>= next) = .error cause ↔
      first = .error cause ∨ ∃ value, first = .ok value ∧ next value = .error cause := by
  cases first with
  | ok value => simp [bind, Except.bind]
  | error cause => simp [bind, Except.bind]

theorem forM_cons {ε α : Type} (check : α → Except ε Unit) (value : α) (rest : List α) :
    (value :: rest).forM check = (check value >>= fun _ => rest.forM check) := rfl

/-- A check of a list goes through when it does for every member. -/
theorem forM_eq_ok_iff {ε α : Type} {check : α → Except ε Unit} {values : List α} :
    values.forM check = .ok () ↔ ∀ value ∈ values, check value = .ok () := by
  induction values with
  | nil => simp [pure, Except.pure]
  | cons value rest ih =>
    rw [forM_cons, bind_eq_ok_iff, List.forall_mem_cons, ← ih]
    constructor
    · rintro ⟨_, first, others⟩
      exact ⟨first, others⟩
    · rintro ⟨first, others⟩
      exact ⟨(), first, others⟩

/-- A check of a list that does not go through stops at a member that fails. -/
theorem exists_of_forM_eq_error {ε α : Type} {check : α → Except ε Unit} {values : List α}
    {cause : ε} (failed : values.forM check = .error cause) :
    ∃ value ∈ values, check value = .error cause := by
  induction values with
  | nil => cases failed
  | cons value rest ih =>
    rw [forM_cons] at failed
    cases checked : check value with
    | ok _ =>
      rw [checked] at failed
      obtain ⟨other, member, h⟩ := ih failed
      exact ⟨other, List.mem_cons_of_mem _ member, h⟩
    | error other =>
      rw [checked] at failed
      cases failed
      exact ⟨value, List.mem_cons_self, checked⟩

namespace ModuleRecord

theorem requirePackage_eq_ok_iff {record : ModuleRecord} {package : String} :
    record.requirePackage package = .ok () ↔ package ∈ record.packages := by
  unfold requirePackage
  split <;> simp_all

theorem requirePackage_eq_error_iff {record : ModuleRecord} {package : String}
    {cause : MutationError} :
    record.requirePackage package = .error cause ↔
      package ∉ record.packages ∧ cause = .unknownPackage record.handle.text package := by
  unfold requirePackage
  split <;> simp_all [eq_comm]

theorem requirePackage_of_not_mem {record : ModuleRecord} {package : String}
    (missing : package ∉ record.packages) :
    record.requirePackage package = .error (.unknownPackage record.handle.text package) :=
  if_neg missing

theorem requirePackages_eq_ok_iff {record : ModuleRecord} {packages : List String} :
    record.requirePackages packages = .ok () ↔ ∀ package ∈ packages, package ∈ record.packages := by
  unfold requirePackages
  rw [forM_eq_ok_iff]
  exact forall₂_congr fun package _ => requirePackage_eq_ok_iff

theorem exists_of_requirePackages_eq_error {record : ModuleRecord} {packages : List String}
    {cause : MutationError} (failed : record.requirePackages packages = .error cause) :
    ∃ package ∈ packages, package ∉ record.packages ∧
      cause = .unknownPackage record.handle.text package := by
  obtain ⟨package, member, refused⟩ := exists_of_forM_eq_error failed
  exact ⟨package, member, requirePackage_eq_error_iff.1 refused⟩

end ModuleRecord

/-- The redefinition that adds one opens edge. -/
def Redefinition.ofEdge (package : String) (target : ModuleHandle) : Redefinition :=
  .ofOpens (Table.empty.set package [target])

namespace Graph

/-- The handle is that of a module of the graph. -/
def Has (graph : Graph) (module : ModuleHandle) : Prop :=
  ∃ record, graph.modules.get? module.id = some record ∧ record.handle = module

/-- There is a module under the number. -/
def Registered (graph : Graph) (id : ModuleId) : Prop :=
  ∃ record, graph.modules.get? id = some record

/-- What a redefinition must find: a named module, whose record this is, with all the packages,
and modules for all the edges to lead to. -/
structure Admits (graph : Graph) (module : ModuleHandle) (redefinition : Redefinition)
    (record : ModuleRecord) : Prop where
  found : graph.modules.get? module.id = some record
  named : record.handle.isNamed = true
  packages : ∀ package ∈ redefinition.packages, package ∈ record.packages
  targets : ∀ target ∈ redefinition.targets, graph.Registered target.id

/-- The module becomes `after`; the edges that it has beyond those of `before` are new. -/
def replaceModule (graph : Graph) (id : ModuleId) (before after : ModuleRecord) : Changed :=
  ⟨graph.setModule id after, some (after.edgeCount - before.edgeCount)⟩

/-- What comes of a redefinition that goes through. -/
inductive Redefined (graph : Graph) (module : ModuleHandle) (redefinition : Redefinition) :
    Changed → Prop where
  | unnamed (record : ModuleRecord) (found : graph.modules.get? module.id = some record)
      (unnamed : record.handle.isNamed = false) : Redefined graph module redefinition ⟨graph, none⟩
  | named (record : ModuleRecord) (admitted : graph.Admits module redefinition record) :
      Redefined graph module redefinition
        (graph.replaceModule module.id record (record.extended redefinition))

theorem replaceModule_withOpens (graph : Graph) (id : ModuleId) (record : ModuleRecord)
    (package : String) (target : ModuleId) :
    graph.replaceModule id record (record.withOpens package target) =
      ⟨graph.setModule id (record.withOpens package target),
        some (if target ∉ ModuleRecord.targetsOf record.opens package then 1 else 0)⟩ := by
  unfold replaceModule
  rw [ModuleRecord.edgeCount_withOpens, Nat.add_sub_cancel_left, ite_not]

theorem replaceModule_extended (graph : Graph) (id : ModuleId) (record : ModuleRecord)
    (redefinition : Redefinition) :
    graph.replaceModule id record (record.extended redefinition) =
      ⟨graph.setModule id (record.extended redefinition), some (record.newEdges redefinition)⟩ := by
  unfold replaceModule
  rw [ModuleRecord.edgeCount_extended, Nat.add_sub_cancel_left]

theorem requireModule_eq_ok_iff {graph : Graph} {handle : ModuleHandle} {record : ModuleRecord} :
    graph.requireModule handle = .ok record ↔ graph.modules.get? handle.id = some record := by
  unfold requireModule
  split <;> simp_all

theorem requireModule_eq_error_iff {graph : Graph} {handle : ModuleHandle} {cause : MutationError} :
    graph.requireModule handle = .error cause ↔
      graph.modules.get? handle.id = none ∧ cause = .unknownModule handle.text := by
  unfold requireModule
  cases graph.modules.get? handle.id <;> simp [eq_comm]

theorem requireModules_eq_ok_iff {graph : Graph} {handles : List ModuleHandle} :
    graph.requireModules handles = .ok () ↔ ∀ handle ∈ handles, graph.Registered handle.id := by
  unfold requireModules
  rw [forM_eq_ok_iff]
  refine forall₂_congr fun handle member => ⟨fun known => ?_, fun ⟨record, found⟩ => ?_⟩
  · obtain ⟨record, found, -⟩ := bind_eq_ok_iff.1 known
    exact ⟨record, requireModule_eq_ok_iff.1 found⟩
  · exact bind_eq_ok_iff.2 ⟨record, requireModule_eq_ok_iff.2 found, rfl⟩

theorem exists_of_requireModules_eq_error {graph : Graph} {handles : List ModuleHandle}
    {cause : MutationError} (failed : graph.requireModules handles = .error cause) :
    ∃ handle ∈ handles,
      graph.modules.get? handle.id = none ∧ cause = .unknownModule handle.text := by
  obtain ⟨handle, member, refused⟩ := exists_of_forM_eq_error failed
  rcases bind_eq_error_iff.1 refused with refused | ⟨_, -, passed⟩
  · exact ⟨handle, member, requireModule_eq_error_iff.1 refused⟩
  · cases passed

/-! ## Refused changes -/

/-- One edge: both modules and the package are checked before it is written. -/
theorem keepsRefused_addOpens (source : ModuleHandle) (package : String) (target : ModuleHandle) :
    (addOpens source package target).KeepsRefused := by
  refine Attempt.reads_get.keepsRefused_bind fun graph => ?_
  refine (Attempt.reads_check _).keepsRefused_bind fun opening => ?_
  refine (Attempt.reads_check _).keepsRefused_bind fun record => ?_
  split
  · refine (Attempt.reads_check _).keepsRefused_bind fun _ => ?_
    exact Attempt.keepsRefused_of_accepted fun _ => ⟨_, rfl⟩
  · exact Attempt.keepsRefused_of_accepted fun _ => ⟨_, rfl⟩

/-- A redefinition: its module, all packages and all targets are checked before the first edge
is written. -/
theorem keepsRefused_redefine (module : ModuleHandle) (redefinition : Redefinition) :
    (redefine module redefinition).KeepsRefused := by
  refine Attempt.reads_get.keepsRefused_bind fun graph => ?_
  refine (Attempt.reads_check _).keepsRefused_bind fun record => ?_
  split
  · refine (Attempt.reads_check _).keepsRefused_bind fun _ => ?_
    refine (Attempt.reads_check _).keepsRefused_bind fun _ => ?_
    exact Attempt.keepsRefused_of_accepted fun _ => ⟨_, rfl⟩
  · exact Attempt.keepsRefused_of_accepted fun _ => ⟨_, rfl⟩

/-- What a change answers that goes through, and the graph after it. -/
def Changed.done (change : Changed) : Except MutationError (Option Nat) × Graph :=
  (.ok change.newEdges, change.graph)

/-! ## One edge -/

variable {graph : Graph} {source target : ModuleHandle} {package : String}

/-- Adding an edge between modules that the graph knows: an unnamed module stays as it is, and
a named one must have the package. -/
theorem addOpens_of_found {record opening : ModuleRecord}
    (found : graph.modules.get? source.id = some record)
    (known : graph.modules.get? target.id = some opening) :
    (addOpens source package target).on graph =
      if record.handle.isNamed then
        if package ∈ record.packages then
          (graph.replaceModule source.id record (record.withOpens package target.id)).done
        else (.error (.unknownPackage record.handle.text package), graph)
      else (.ok none, graph) := by
  rw [replaceModule_withOpens]
  unfold addOpens
  rw [Attempt.on_get_bind, requireModule_eq_ok_iff.2 known, requireModule_eq_ok_iff.2 found,
    Attempt.on_check_bind, Attempt.on_check_bind]
  dsimp only
  split
  · rw [Attempt.on_check_bind]
    by_cases member : package ∈ record.packages
    · rw [ModuleRecord.requirePackage_eq_ok_iff.2 member, if_pos member]
      rfl
    · rw [ModuleRecord.requirePackage_of_not_mem member, if_neg member]
  · rfl

/-- Adding an edge that goes through is the redefinition with that edge; nothing happens to an
unnamed module. -/
theorem addOpens_eq_ok {newEdges : Option Nat} {after : Graph}
    (added : (addOpens source package target).on graph = (.ok newEdges, after)) :
    graph.Redefined source (.ofEdge package target) ⟨after, newEdges⟩ := by
  have parts := added
  unfold addOpens at parts
  rw [Attempt.on_get_bind] at parts
  obtain ⟨opening, known, parts⟩ := Attempt.on_check_bind_eq_ok_iff.1 parts
  obtain ⟨record, found, -⟩ := Attempt.on_check_bind_eq_ok_iff.1 parts
  rw [requireModule_eq_ok_iff] at known found
  rw [addOpens_of_found found known] at added
  split at added
  · rename_i named
    split at added
    · rename_i member
      cases added
      refine .named record ⟨found, named, ?_, ?_⟩
      · intro asked isAsked
        rw [List.mem_singleton.1 isAsked]
        exact member
      · intro asked isAsked
        rw [List.mem_singleton.1 isAsked]
        exact ⟨opening, known⟩
    · cases added
  · rename_i unnamed
    cases added
    exact .unnamed record found (Bool.eq_false_iff.2 unnamed)

/-! ## A redefinition -/

variable {module : ModuleHandle} {redefinition : Redefinition}

/-- A redefinition of a module that the graph knows: an unnamed module stays as it is, and a
named one must have every package before the graph must know every target. -/
theorem redefine_of_found {record : ModuleRecord}
    (found : graph.modules.get? module.id = some record) :
    (redefine module redefinition).on graph =
      if record.handle.isNamed then
        match record.requirePackages redefinition.packages with
        | .error cause => (.error cause, graph)
        | .ok _ =>
          match graph.requireModules redefinition.targets with
          | .error cause => (.error cause, graph)
          | .ok _ => (graph.replaceModule module.id record (record.extended redefinition)).done
      else (.ok none, graph) := by
  rw [replaceModule_extended]
  unfold redefine
  rw [Attempt.on_get_bind, requireModule_eq_ok_iff.2 found, Attempt.on_check_bind]
  dsimp only
  split
  · rw [Attempt.on_check_bind]
    cases record.requirePackages redefinition.packages with
    | error cause => rfl
    | ok _ =>
      dsimp only
      rw [Attempt.on_check_bind]
      cases graph.requireModules redefinition.targets <;> rfl
  · rfl

/-- A redefinition of a named module goes through when the graph admits it. -/
theorem redefine_eq_ok_iff {record : ModuleRecord}
    (found : graph.modules.get? module.id = some record) (named : record.handle.isNamed = true)
    {newEdges : Option Nat} {after : Graph} :
    (redefine module redefinition).on graph = (.ok newEdges, after) ↔
      graph.Admits module redefinition record ∧
        ⟨after, newEdges⟩ =
          graph.replaceModule module.id record (record.extended redefinition) := by
  rw [redefine_of_found found, if_pos named]
  constructor
  · intro redefined
    split at redefined
    · cases redefined
    · rename_i packages
      split at redefined
      · cases redefined
      · rename_i targets
        cases redefined
        refine ⟨⟨found, named, ?_, requireModules_eq_ok_iff.1 targets⟩, rfl⟩
        exact ModuleRecord.requirePackages_eq_ok_iff.1 packages
  · rintro ⟨admitted, same⟩
    rw [ModuleRecord.requirePackages_eq_ok_iff.2 admitted.packages,
      requireModules_eq_ok_iff.2 admitted.targets, ← same]
    rfl

/-- A redefinition that goes through found what it must find; nothing happens to an unnamed
module. -/
theorem redefine_eq_ok {newEdges : Option Nat} {after : Graph}
    (redefined : (redefine module redefinition).on graph = (.ok newEdges, after)) :
    graph.Redefined module redefinition ⟨after, newEdges⟩ := by
  have parts := redefined
  unfold redefine at parts
  rw [Attempt.on_get_bind] at parts
  obtain ⟨record, found, -⟩ := Attempt.on_check_bind_eq_ok_iff.1 parts
  rw [requireModule_eq_ok_iff] at found
  cases named : record.handle.isNamed with
  | true =>
    obtain ⟨admitted, same⟩ := (redefine_eq_ok_iff found named).1 redefined
    rw [same]
    exact .named record admitted
  | false =>
    rw [redefine_of_found found, named] at redefined
    cases redefined
    exact .unnamed record found named

end Graph

end ModuleOpens
