/-
# Proofs.Strategy.Union — the plan of a batch is a grouped union

A plan is made request by request, with an index of positions beside the list of
groups. What comes out depends on the requests that resolve as a set: each opened
module has one group, where the index says, and the group opens what all of them
together ask for. Only the order of the groups follows the order of the requests.

`OpenInstructions` keeps its edges in order. That this is the order by package and
then by the number of the target needs a fact of the machine: no two modules that it
knows have one number. So it does not matter in which order the edges of a group are
enumerated before they are sorted.

* `targets?_eq_some`, `targets?_eq_none_iff`: what a group's table by package has;
* `eq_of_mem_of_key_eq`: edges of one group with one key are equal;
* `groups_perm`: requests that ask for the same come to the same groups, up to order;
* `grouped_union_of_requests`: all that holds of the plan of a batch.
-/
import Mathlib.Data.List.Sort
import Mathlib.Data.Prod.Lex
import Mathlib.Data.String.Basic
import ModuleOpens.Proofs.Strategy.Effect

namespace ModuleOpens

set_option autoImplicit false

/-! ## The targets of a package -/

namespace OpenInstructions

variable {instructions : OpenInstructions} {package : String} {targets : List ModuleHandle}

/-- The targets that some edges lead to from a package, in order. -/
def targetsIn (package : String) (edges : List OpenEdge) : List ModuleHandle :=
  (edges.filter fun edge => edge.1 = package).map Prod.snd

theorem mem_targetsIn {edges : List OpenEdge} {target : ModuleHandle} :
    target ∈ targetsIn package edges ↔ (package, target) ∈ edges := by
  simp [targetsIn]

/-- A package has the targets that it had, and those that the edges add. -/
theorem getD_byPackageFrom (table : Table String (List ModuleHandle)) (edges : List OpenEdge)
    (package : String) :
    ((byPackageFrom table edges).get? package).getD [] =
      addAll ((table.get? package).getD []) (targetsIn package edges) := by
  induction edges generalizing table with
  | nil => rfl
  | cons edge rest ih =>
    show ((byPackageFrom (table.alter edge.1 _) rest).get? package).getD [] = _
    rw [ih, Table.get?_alter]
    by_cases same : edge.1 = package
    · simp [targetsIn, same]
    · simp [targetsIn, same, Ne.symm same]

/-- A package without edges has no targets. -/
theorem targets?_eq_none_iff :
    instructions.targets? package = none ↔ ∀ target, (package, target) ∉ instructions.edges := by
  have keys : package ∈ instructions.byPackage.keys ↔
      ∃ target, (package, target) ∈ instructions.edges := by
    rw [keys_byPackage, firstSeen, mem_addAll]
    simp
  rw [targets?, ← not_exists, ← keys, Table.mem_keys_iff, ← Option.ne_none_iff_exists', not_not]

/-- A package with edges has their targets, each once. -/
theorem targets?_eq_some (found : instructions.targets? package = some targets) :
    targets ≠ [] ∧ targets.Nodup ∧
      ∀ target, target ∈ targets ↔ (package, target) ∈ instructions.edges := by
  have listed : targets = firstSeen (targetsIn package instructions.edges) := by
    have read := getD_byPackageFrom .empty instructions.edges package
    rw [show byPackageFrom .empty instructions.edges = instructions.byPackage from rfl,
      show instructions.byPackage.get? package = some targets from found] at read
    exact read
  have members (target : ModuleHandle) :
      target ∈ targets ↔ (package, target) ∈ instructions.edges := by
    rw [listed, firstSeen, mem_addAll, mem_targetsIn]
    simp
  refine ⟨?_, ?_, members⟩
  · rintro rfl
    have nothing := targets?_eq_none_iff.2 fun target isEdge =>
      List.not_mem_nil ((members target).2 isEdge)
    cases nothing.symm.trans found
  · rw [listed]
    exact nodup_addAll List.nodup_nil _

end OpenInstructions

/-! ## The order of the edges -/

/-- What edges are ordered by: the package, and then the number of the target. -/
def OpenEdge.key (edge : OpenEdge) : String ×ₗ Nat := toLex (edge.1, edge.2.id)

/-- Handles that a graph has are equal when their numbers are. -/
theorem Graph.Has.eq_of_id {graph : Graph} {module other : ModuleHandle}
    (has : graph.Has module) (has' : graph.Has other) (same : module.id = other.id) :
    module = other := by
  obtain ⟨record, found, rfl⟩ := has
  obtain ⟨record', found', rfl⟩ := has'
  rw [same, found'] at found
  cases found
  rfl

section Known

variable {group : OpenGroup} {machine : Machine}

/-- Edges of one group with one key are equal. -/
theorem OpenGroup.Known.eq_of_mem_of_key_eq (known : group.Known machine) {edge other : OpenEdge}
    (isEdge : edge ∈ group.instructions.edges) (isOther : other ∈ group.instructions.edges)
    (same : edge.key = other.key) : edge = other := by
  obtain ⟨packages, targets⟩ := Prod.mk.inj (toLex.injective same)
  exact Prod.ext packages ((known.2 edge isEdge).eq_of_id (known.2 other isOther) targets)

/-- The order in which edges are kept is the order by key. -/
theorem OpenGroup.Known.key_lt (known : group.Known machine)
    (increasing : Increasing edgeBefore group.instructions.edges) :
    group.instructions.edges.Pairwise fun edge other => edge.key < other.key := by
  refine increasing.imp_of_mem fun {edge other} isEdge isOther before => ?_
  have distinct : edge.key ≠ other.key := by
    intro same
    rw [known.eq_of_mem_of_key_eq isEdge isOther same] at before
    rw [strictOrder_edgeBefore.irreflexive] at before
    cases before
  refine lt_of_le_of_ne ?_ distinct
  simp only [edgeBefore, handleBefore, textBefore, Bool.or_eq_true, Bool.and_eq_true, beq_iff_eq,
    decide_eq_true_eq] at before
  rw [OpenEdge.key, OpenEdge.key, Prod.Lex.toLex_le_toLex]
  rcases before with package | ⟨package, target | ⟨target, -⟩⟩
  · exact Or.inl package
  · exact Or.inr ⟨package, Nat.le_of_lt target⟩
  · exact Or.inr ⟨package, Nat.le_of_eq target⟩

/-- However the edges of a group are enumerated, sorting them by key gives the order in which
they are kept. -/
theorem OpenGroup.Known.mergeSort_eq (known : group.Known machine)
    (increasing : Increasing edgeBefore group.instructions.edges) {enumerated : List OpenEdge}
    (same : enumerated.Perm group.instructions.edges) :
    (enumerated.mergeSort fun edge other => edge.key ≤ other.key) = group.instructions.edges := by
  let le (edge other : OpenEdge) : Bool := edge.key ≤ other.key
  have sorted : (enumerated.mergeSort le).Perm group.instructions.edges :=
    (List.mergeSort_perm enumerated le).trans same
  have ordered : (enumerated.mergeSort le).Pairwise fun edge other => edge.key ≤ other.key := by
    have pairwise : (enumerated.mergeSort le).Pairwise fun edge other => le edge other = true :=
      List.pairwise_mergeSort (fun _ _ _ => by simpa [le] using le_trans)
        (fun _ _ => by simpa [le] using le_total _ _) enumerated
    exact pairwise.imp fun before => of_decide_eq_true before
  refine List.Perm.eq_of_pairwise ?_ ordered ((known.key_lt increasing).imp le_of_lt) sorted
  intro edge other isEdge isOther before after
  exact known.eq_of_mem_of_key_eq (sorted.mem_iff.1 isEdge) isOther (le_antisymm before after)

end Known

/-! ## The plan as a union -/

namespace OpenPlan

variable {context : LoaderContext} {machine : Machine} {requests other : List OpenRequest}
  {draft draft' : Draft Machine}

/-- The module is opened by a group of the plan just when the index leads to that group. -/
theorem Indexed.get?_eq_some_iff {plan : OpenPlan} (indexed : plan.Indexed)
    {module : ModuleHandle} {instructions : OpenInstructions} :
    plan.get? module = some instructions ↔ ⟨module, instructions⟩ ∈ plan.groups := by
  rw [get?, Option.bind_eq_some_iff]
  constructor
  · rintro ⟨position, found, here⟩
    have stands := (indexed _ _).1 found
    rw [List.getElem?_map] at stands
    obtain ⟨group, isGroup, rfl⟩ := Option.map_eq_some_iff.1 stands
    rw [isGroup] at here
    cases here
    exact List.mem_of_getElem? isGroup
  · intro member
    obtain ⟨position, here⟩ := List.mem_iff_getElem?.1 member
    refine ⟨position, (indexed _ _).2 ?_, ?_⟩
    · rw [List.getElem?_map, here]
      rfl
    · rw [here]
      rfl

/-- The groups, read off their modules. -/
theorem Planned.groups_eq (planned : Planned context machine requests draft) :
    draft.plan.groups = (context.openedModules machine requests).map fun module =>
      ⟨module, instructionsOf module draft.plan.groups⟩ := by
  rw [← planned.modules, List.map_map]
  refine (List.map_id _).symm.trans (List.map_congr_left fun group member => ?_)
  show group = ⟨group.module, instructionsOf group.module draft.plan.groups⟩
  rw [planned.instructionsOf_eq member]

/-- Requests that ask for the same come to the same groups, up to order. -/
theorem Planned.groups_perm (planned : Planned context machine requests draft)
    (planned' : Planned context machine other draft')
    (same : ∀ module package target, context.Asks machine other module package target ↔
      context.Asks machine requests module package target) :
    draft'.plan.groups.Perm draft.plan.groups := by
  have modules : (context.openedModules machine other).Perm
      (context.openedModules machine requests) := by
    rw [List.perm_ext_iff_of_nodup (LoaderContext.nodup_openedModules other)
      (LoaderContext.nodup_openedModules requests)]
    intro module
    simp only [LoaderContext.mem_openedModules, same]
  have instructions (module : ModuleHandle) :
      instructionsOf module draft'.plan.groups = instructionsOf module draft.plan.groups := by
    have edges := eq_of_mem_iff strictOrder_edgeBefore (planned'.increasing module)
      (planned.increasing module) fun edge => by
        rw [planned.edges module edge.1 edge.2, planned'.edges module edge.1 edge.2, same]
    exact congrArg OpenInstructions.mk edges
  rw [planned.groups_eq, planned'.groups_eq]
  simp only [instructions]
  exact modules.map _

/-- What requests ask for depends on those that resolve, as a set. -/
theorem asks_congr
    (same : ∀ request, (context.resolveBoth machine request).isSome = true →
      (request ∈ other ↔ request ∈ requests)) (module : ModuleHandle) (package : String)
    (target : ModuleHandle) :
    context.Asks machine other module package target ↔
      context.Asks machine requests module package target := by
  refine exists_congr fun request => and_congr_left ?_
  rintro ⟨opened, opening, -⟩
  apply same
  rw [LoaderContext.resolveBoth_eq_some_iff.2 ⟨opened, opening⟩]
  rfl

/-- The plan is the grouped union of what the requests ask for that resolve on both sides. -/
structure IsUnion (context : LoaderContext) (machine : Machine) (requests : List OpenRequest)
    (plan : OpenPlan) : Prop where
  /-- No module has two groups. -/
  distinct : (plan.groups.map OpenGroup.module).Nodup
  /-- The index has the position of every module that has a group, and of no other. -/
  indexed : plan.Indexed
  /-- So the group of a module is found through the index. -/
  found : ∀ module instructions,
    plan.get? module = some instructions ↔ ⟨module, instructions⟩ ∈ plan.groups
  /-- Groups stand in the order in which requests that resolve first open their modules. -/
  order : plan.groups.map OpenGroup.module =
    ((requests.filterMap (context.resolveBoth machine)).map Prod.fst).eraseDups
  /-- The targets of a package are the opening modules of the requests for it; there are some. -/
  targets : ∀ group ∈ plan.groups, ∀ package targets,
    group.instructions.targets? package = some targets →
      targets ≠ [] ∧ targets.Nodup ∧
        ∀ target, target ∈ targets ↔ context.Asks machine requests group.module package target
  /-- A package without targets is one that no request is for. -/
  unasked : ∀ group ∈ plan.groups, ∀ package,
    group.instructions.targets? package = none ↔
      ∀ target, ¬ context.Asks machine requests group.module package target
  /-- The edges of a group are its packages with their targets. -/
  edges : ∀ group ∈ plan.groups, ∀ package target,
    (package, target) ∈ group.instructions.edges ↔
      context.Asks machine requests group.module package target
  /-- They are listed once, by package and then by the number of the target. -/
  increasing : ∀ group ∈ plan.groups,
    group.instructions.edges.Pairwise fun edge other => edge.key < other.key
  /-- Whatever order they are enumerated in, sorting them gives that list. -/
  sorted : ∀ group ∈ plan.groups, ∀ enumerated : List OpenEdge,
    enumerated.Perm group.instructions.edges →
      (enumerated.mergeSort fun edge other => edge.key ≤ other.key) = group.instructions.edges
  /-- The requests with a side that does not resolve are counted. -/
  skipped : plan.skipped =
    requests.countP fun request => (context.resolveBoth machine request).isNone

theorem Planned.isUnion (planned : Planned context machine requests draft)
    (knows : context.Knows machine) : draft.plan.IsUnion context machine requests where
  distinct := planned.indexed.nodup
  indexed := planned.indexed
  found module instructions := planned.indexed.get?_eq_some_iff
  order := by
    rw [planned.modules, LoaderContext.openedModules, firstSeen_eq_eraseDups, List.map_filterMap]
  targets group member package targets found := by
    obtain ⟨some, once, members⟩ := OpenInstructions.targets?_eq_some found
    exact ⟨some, once, fun target => (members target).trans (planned.mem_edges member)⟩
  unasked group member package := by
    simp only [OpenInstructions.targets?_eq_none_iff, planned.mem_edges member]
  edges group member package target := planned.mem_edges member
  increasing group member := by
    have ordered := planned.increasing group.module
    rw [planned.instructionsOf_eq member] at ordered
    exact (planned.known knows group member).key_lt ordered
  sorted group member enumerated same := by
    have ordered := planned.increasing group.module
    rw [planned.instructionsOf_eq member] at ordered
    exact (planned.known knows group member).mergeSort_eq ordered same
  skipped := planned.skipped

/-- In every context that a run makes on a machine, the plan of a batch is the grouped union of the
requests that resolve. A batch with the same such requests, in any order and any number, has the
same groups, up to their order; and if it has as many that do not resolve, as many are skipped. -/
theorem grouped_union_of_requests (arises : context.Arises machine)
    (requests : List OpenRequest) :
    let plan := (ofRequests context machine requests).plan
    plan.IsUnion context machine requests ∧
      ∀ other : List OpenRequest,
        (∀ request, (context.resolveBoth machine request).isSome = true →
          (request ∈ other ↔ request ∈ requests)) →
        let rearranged := (ofRequests context machine other).plan
        rearranged.groups.Perm plan.groups ∧
          (∀ module, rearranged.get? module = plan.get? module) ∧
          ((other.countP fun request => (context.resolveBoth machine request).isNone) =
              (requests.countP fun request => (context.resolveBoth machine request).isNone) →
            rearranged.skipped = plan.skipped) := by
  intro plan
  have planned := planned_ofRequests context machine requests
  refine ⟨planned.isUnion arises.knows, fun other same => ?_⟩
  intro rearranged
  have planned' := planned_ofRequests context machine other
  have perm : rearranged.groups.Perm plan.groups :=
    planned.groups_perm planned' (asks_congr same)
  refine ⟨perm, fun module => ?_, fun alike => ?_⟩
  · refine Option.ext fun instructions => ?_
    rw [planned.indexed.get?_eq_some_iff, planned'.indexed.get?_eq_some_iff, perm.mem_iff]
  · rw [planned.skipped, planned'.skipped, alike]

/-- A request for a module that nothing defines. -/
def strayRequest : OpenRequest :=
  { StrategyKind.sampleRequest with
    opening := "gone"
    opening_name := by decide }

/-- A request that does not resolve is skipped, and one that comes twice counts once. -/
theorem grouped_union_of_requests_repeated :
    let context := StrategyKind.sampleContext.1
    let machine := StrategyKind.sampleContext.2
    let requests := [StrategyKind.sampleRequest, strayRequest]
    let other := [strayRequest, StrategyKind.sampleRequest, StrategyKind.sampleRequest]
    let plan := (ofRequests context machine requests).plan
    let rearranged := (ofRequests context machine other).plan
    context.Arises machine ∧ plan.IsUnion context machine requests ∧ plan.skipped = 1 ∧
      rearranged.groups.Perm plan.groups ∧ rearranged.skipped = plan.skipped := by
  intro context machine requests other plan rearranged
  obtain ⟨union, alike⟩ := grouped_union_of_requests StrategyKind.arises_sampleContext requests
  have same : ∀ request, (context.resolveBoth machine request).isSome = true →
      (request ∈ other ↔ request ∈ requests) := by
    intro request _
    simp [requests, other, or_comm]
  obtain ⟨perm, -, skipped⟩ := alike other same
  exact ⟨StrategyKind.arises_sampleContext, union, by decide, perm, skipped (by decide)⟩

end OpenPlan

end ModuleOpens
