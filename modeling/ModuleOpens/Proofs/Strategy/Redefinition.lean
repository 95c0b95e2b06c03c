/-
# Proofs.Strategy.Redefinition — a group as one redefinition

The agent gets the edges of a group by package. A table of edges extended by
package is the same table as one extended edge by edge, also in the order of its
entries, so a redefinition that the machine accepts leaves exactly the machine
that adding the edges one at a time would.

* `extended_toRedefinition`: the two records are equal;
* `redefineByAgent_of_held`: without a lacking package the edges are opened;
* `redefineByAgent_of_lacked`: otherwise a lacking package is named.
-/
import ModuleOpens.Host.Machine
import ModuleOpens.Proofs.Graph.Opening
import ModuleOpens.Strategy.Plan

namespace ModuleOpens

set_option autoImplicit false

/-! ## Tables of edges, by package -/

namespace ModuleRecord

variable {α : Type} [DecidableEq α]

/-- An entry that has its place may be extended before or after the others. -/
theorem extendTable_extendEntry {edges : Table String (List α)} {key : String}
    (present : key ∈ edges.keys) (values : List α) {more : List (String × List α)}
    (elsewhere : key ∉ more.map Prod.fst) :
    extendTable (extendEntry edges key values) more =
      extendEntry (extendTable edges more) key values := by
  induction more generalizing edges with
  | nil => rfl
  | cons entry rest ih =>
    rw [List.map_cons, List.mem_cons, not_or] at elsewhere
    have stays : key ∈ (extendEntry edges entry.1 entry.2).keys := by
      rw [keys_extendEntry, mem_addNew]
      exact Or.inl present
    show extendTable (extendEntry (extendEntry edges key values) entry.1 entry.2) rest = _
    rw [← extendEntry_comm elsewhere.1 present, ih stays elsewhere.2]
    rfl

end ModuleRecord

/-- A handle that is there already has a number that is there already. -/
theorem addAll_map_addNew {present : List ModuleId} {targets : List ModuleHandle}
    {target : ModuleHandle} :
    addAll present ((addNew targets target).map ModuleHandle.id) =
      addAll present (targets.map ModuleHandle.id ++ [target.id]) := by
  unfold addNew
  split
  · rename_i member
    have there : target.id ∈ addAll present (targets.map ModuleHandle.id) :=
      mem_addAll.2 (Or.inr (List.mem_map_of_mem member))
    rw [addAll_append, addAll_cons, addAll_nil, addNew, if_pos there]
  · rw [List.map_append]
    rfl

namespace ModuleRecord

/-- One more target in a table to come is one more edge after it. -/
theorem extendTable_write (edges : Table String (List ModuleId)) (key : String)
    (target : ModuleHandle) {more : List (String × List ModuleHandle)}
    (nodup : (more.map Prod.fst).Nodup) :
    extendTable edges
        (idsOf (Table.write key (addNew ((Table.lookup key more).getD []) target) more)) =
      extendEntry (extendTable edges (idsOf more)) key [target.id] := by
  induction more generalizing edges with
  | nil => rfl
  | cons entry rest ih =>
    obtain ⟨package, targets⟩ := entry
    rw [List.map_cons, List.nodup_cons] at nodup
    by_cases here : package = key
    · subst here
      simp only [Table.write, Table.lookup, if_true, Option.getD_some]
      have placed : package ∈ (extendEntry edges package (targets.map ModuleHandle.id)).keys := by
        rw [keys_extendEntry, mem_addNew]
        exact Or.inr rfl
      have elsewhere : package ∉ (idsOf rest).map Prod.fst := by
        unfold idsOf
        rw [List.map_map]
        exact nodup.1
      calc extendTable (extendEntry edges package ((addNew targets target).map ModuleHandle.id))
            (idsOf rest)
          = extendTable (extendEntry (extendEntry edges package (targets.map ModuleHandle.id))
              package [target.id]) (idsOf rest) := by
            rw [extendEntry_extendEntry, extendEntry_eq_set, extendEntry_eq_set,
              addAll_map_addNew]
        _ = extendEntry (extendTable (extendEntry edges package (targets.map ModuleHandle.id))
              (idsOf rest)) package [target.id] :=
            extendTable_extendEntry placed [target.id] elsewhere
    · simp only [Table.write, Table.lookup, if_neg here]
      exact ih _ nodup.2

end ModuleRecord

namespace OpenInstructions

variable {instructions : OpenInstructions}

/-- The table of the edges, when there are some already. -/
def byPackageFrom (table : Table String (List ModuleHandle)) (edges : List OpenEdge) :
    Table String (List ModuleHandle) :=
  edges.foldl (fun table edge =>
    table.alter edge.1 fun present => addNew (present.getD []) edge.2) table

theorem keys_byPackageFrom (table : Table String (List ModuleHandle)) (edges : List OpenEdge) :
    (byPackageFrom table edges).keys = addAll table.keys (edges.map Prod.fst) := by
  induction edges generalizing table with
  | nil => rfl
  | cons edge rest ih =>
    show (byPackageFrom (table.set ..) rest).keys = _
    rw [ih, Table.keys_set]
    rfl

theorem keys_byPackage (instructions : OpenInstructions) :
    instructions.byPackage.keys = firstSeen (instructions.edges.map Prod.fst) :=
  keys_byPackageFrom .empty instructions.edges

/-- All targets of a package are those of edges. -/
theorem forall_byPackageFrom {known : OpenEdge → Prop} {edges : List OpenEdge}
    (knows : ∀ edge ∈ edges, known edge) {table : Table String (List ModuleHandle)}
    (holds : ∀ entry ∈ table.entries, ∀ target ∈ entry.2, known (entry.1, target)) :
    ∀ entry ∈ (byPackageFrom table edges).entries, ∀ target ∈ entry.2,
      known (entry.1, target) := by
  induction edges generalizing table with
  | nil => exact holds
  | cons edge rest ih =>
    refine ih (fun other member => knows other (List.mem_cons_of_mem _ member)) ?_
    intro entry member target isTarget
    rcases Table.mem_of_mem_write member with rfl | old
    · rcases mem_addNew.1 isTarget with there | rfl
      · cases present : table.get? edge.1 with
        | none =>
          rw [present] at there
          cases there
        | some targets =>
          rw [present] at there
          exact holds _ (Table.mem_of_lookup present) target there
      · exact knows edge List.mem_cons_self
    · exact holds entry old target isTarget

/-- A table of edges by package has no other edges. -/
theorem mem_edges_of_byPackage {entry : String × List ModuleHandle} {target : ModuleHandle}
    (member : entry ∈ instructions.byPackage.entries) (isTarget : target ∈ entry.2) :
    (entry.1, target) ∈ instructions.edges := by
  apply forall_byPackageFrom (fun edge isEdge => isEdge) _ entry member target isTarget
  intro entry member
  cases member

/-- The table of the edges extends another as the edges do, one after the other. -/
theorem extendTable_byPackageFrom (opens : Table String (List ModuleId))
    {table : Table String (List ModuleHandle)} (nodup : table.keys.Nodup)
    (edges : List OpenEdge) :
    ModuleRecord.extendTable opens (ModuleRecord.idsOf (byPackageFrom table edges).entries) =
      edges.foldl (fun opens edge => ModuleRecord.extendEntry opens edge.1 [edge.2.id])
        (ModuleRecord.extendTable opens (ModuleRecord.idsOf table.entries)) := by
  induction edges generalizing table with
  | nil => rfl
  | cons edge rest ih =>
    have step := ModuleRecord.extendTable_write opens edge.1 edge.2 nodup
    rw [List.foldl_cons, ← step]
    exact ih (Table.nodup_keys_set nodup _ _)

/-- The redefinition names the packages of the edges. -/
theorem mem_packages {package : String} :
    package ∈ instructions.toRedefinition.packages ↔
      ∃ target, (package, target) ∈ instructions.edges := by
  show package ∈ [] ++ instructions.byPackage.keys ↔ _
  rw [List.nil_append, keys_byPackage, firstSeen, mem_addAll]
  simp

/-- The redefinition leads where the edges do. -/
theorem forall_targets {known : ModuleHandle → Prop}
    (knows : ∀ edge ∈ instructions.edges, known edge.2) :
    ∀ target ∈ instructions.toRedefinition.targets, known target := by
  intro target member
  have fromOpens : target ∈ instructions.byPackage.entries.flatMap Prod.snd := member
  obtain ⟨entry, isEntry, isTarget⟩ := List.mem_flatMap.1 fromOpens
  exact knows _ (mem_edges_of_byPackage isEntry isTarget)

end OpenInstructions

/-! ## The redefinition of one module -/

namespace ModuleRecord

theorem openEach_eq (record : ModuleRecord) (edges : List OpenEdge) :
    record.openEach edges =
      { record with
        opens := edges.foldl (fun opens edge => extendEntry opens edge.1 [edge.2.id])
          record.opens } := by
  induction edges generalizing record with
  | nil => rfl
  | cons edge rest ih => exact ih (record.withOpens edge.1 edge.2.id)

/-- The redefinition of a group opens its edges. -/
theorem extended_toRedefinition (record : ModuleRecord) (instructions : OpenInstructions) :
    record.extended instructions.toRedefinition = record.openEach instructions.edges := by
  have nodup : (Table.empty : Table String (List ModuleHandle)).keys.Nodup := List.nodup_nil
  have opens := OpenInstructions.extendTable_byPackageFrom record.opens nodup instructions.edges
  rw [openEach_eq]
  exact congrArg (fun opens => { record with opens }) opens

end ModuleRecord

namespace Machine

variable {machine : Machine} {module : ModuleHandle} {instructions : OpenInstructions}

/-- The agent's redefinition, when nothing is in its way. -/
theorem redefineByAgent_of_held (has : machine.graph.Has module)
    (knows : ∀ edge ∈ instructions.edges, machine.graph.Has edge.2)
    (held : ∀ edge ∈ instructions.edges, ¬ machine.graph.Lacks module edge.1) :
    ∃ count, machine.redefineByAgent module instructions.toRedefinition =
      (.ok (redefinitionEvents module count), machine.opened module instructions.edges) := by
  obtain ⟨record, found, rfl⟩ := has
  unfold redefineByAgent redefine edit
  cases named : record.handle.isNamed with
  | false =>
    rw [Graph.redefine_of_found found, named, opened_of_unnamed found named]
    exact ⟨none, rfl⟩
  | true =>
    have admitted : machine.graph.Admits record.handle instructions.toRedefinition record := by
      refine ⟨found, named, fun package member => ?_, fun target member => ?_⟩
      · obtain ⟨target, isEdge⟩ := OpenInstructions.mem_packages.1 member
        refine Decidable.of_not_not fun missing => held _ isEdge ?_
        exact (Graph.lacks_of_found found package).2 ⟨named, missing⟩
      · obtain ⟨opening, openingFound, -⟩ := OpenInstructions.forall_targets knows target member
        exact ⟨opening, openingFound⟩
    rw [(Graph.redefine_eq_ok_iff found named).2 ⟨admitted, rfl⟩, opened_of_named found named,
      ← ModuleRecord.extended_toRedefinition]
    exact ⟨_, rfl⟩

/-- The agent's redefinition, when the module lacks a package. -/
theorem redefineByAgent_of_lacked (has : machine.graph.Has module)
    (lacked : ∃ edge ∈ instructions.edges, machine.graph.Lacks module edge.1) :
    ∃ edge ∈ instructions.edges, machine.graph.Lacks module edge.1 ∧
      machine.redefineByAgent module instructions.toRedefinition =
        (.error (.unknownPackage module.text edge.1), machine) := by
  obtain ⟨record, found, rfl⟩ := has
  obtain ⟨edge, isEdge, lacks⟩ := lacked
  obtain ⟨named, missing⟩ := (Graph.lacks_of_found found edge.1).1 lacks
  unfold redefineByAgent redefine edit
  rw [Graph.redefine_of_found found, if_pos named]
  cases packages : record.requirePackages instructions.toRedefinition.packages with
  | ok done =>
    have all := ModuleRecord.requirePackages_eq_ok_iff.1 packages edge.1
      (OpenInstructions.mem_packages.2 ⟨edge.2, isEdge⟩)
    exact absurd all missing
  | error cause =>
    obtain ⟨package, member, absent, rfl⟩ :=
      ModuleRecord.exists_of_requirePackages_eq_error packages
    obtain ⟨target, isOther⟩ := OpenInstructions.mem_packages.1 member
    exact ⟨(package, target), isOther, (Graph.lacks_of_found found package).2 ⟨named, absent⟩, rfl⟩

end Machine

end ModuleOpens
