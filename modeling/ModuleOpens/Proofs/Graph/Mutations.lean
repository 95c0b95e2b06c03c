/-
# Proofs.Graph.Mutations — edges are only ever added, and the counter is their number

A module has edges of five kinds, kept in five places and added by two mutators
that count as they go. `Graph.HasEdge` reads an edge off a graph, the same way
for each kind. What makes the counter right is that no place holds a thing
twice (`ModuleRecord.Tidy`): then the edges can be listed (`Graph.edges`), and
the length of the list is the sum that the counter follows.

* `mem_edges`, `nodup_edges`: the list holds every edge, once;
* `counted_effect`: every effect adds to the counter what it adds to the sum;
* `edges_kept_and_counted`: so the counter is the number of edges, in every
  machine that a run reaches, and no operation takes an edge away.
-/
import Mathlib.Data.List.Nodup
import Mathlib.Data.Set.Card
import ModuleOpens.Proofs.Graph.Origin

namespace ModuleOpens

set_option autoImplicit false

/-- One edge of a module. -/
inductive Edge where
  | reads (target : ModuleId)
  | exports (package : String) (target : ModuleId)
  | opens (package : String) (target : ModuleId)
  | uses (service : String)
  | provides (service provider : String)
  deriving DecidableEq, Repr

/-- The redefinition gives its module the edge. -/
def Redefinition.Gives (redefinition : Redefinition) : Edge → Prop
  | .reads target => ∃ handle ∈ redefinition.reads, handle.id = target
  | .exports package target =>
    ∃ entry ∈ redefinition.exports.entries,
      entry.1 = package ∧ ∃ handle ∈ entry.2, handle.id = target
  | .opens package target => redefinition.Opens package target
  | .uses service => service ∈ redefinition.uses
  | .provides service provider =>
    ∃ entry ∈ redefinition.provides.entries, entry.1 = service ∧ provider ∈ entry.2

/-! ## Tables, listed -/

namespace Table

section Pairs

variable {κ α β : Type} {list : α → List β}

/-- Each key with the things that its value lists. -/
def pairsOf (list : α → List β) (table : Table κ α) : List (κ × β) :=
  table.entries.flatMap fun entry => (list entry.2).map fun value => (entry.1, value)

theorem length_pairsOf (list : α → List β) (table : Table κ α) :
    (table.pairsOf list).length = total (table.entries.map fun entry => (list entry.2).length) := by
  unfold pairsOf
  induction table.entries with
  | nil => rfl
  | cons entry rest ih => simp only [List.flatMap_cons, List.length_append, List.length_map, ih,
      List.map_cons, total]

variable [DecidableEq κ] {table : Table κ α}

theorem mem_pairsOf (nodup : table.keys.Nodup) {key : κ} {value : β} :
    (key, value) ∈ table.pairsOf list ↔ ∃ held, table.get? key = some held ∧ value ∈ list held := by
  simp only [pairsOf, List.mem_flatMap, List.mem_map, Prod.mk.injEq, get?_eq_some_iff nodup]
  constructor
  · rintro ⟨⟨k, held⟩, member, v, isListed, rfl, rfl⟩
    exact ⟨held, member, isListed⟩
  · rintro ⟨held, member, isListed⟩
    exact ⟨(key, held), member, value, isListed, rfl, rfl⟩

/-- Nothing is listed twice under one key, and no key comes twice. -/
theorem nodup_pairsOf (nodup : table.keys.Nodup)
    (values : ∀ key held, table.get? key = some held → (list held).Nodup) :
    (table.pairsOf list).Nodup := by
  rw [pairsOf, List.nodup_flatMap]
  constructor
  · rintro ⟨key, held⟩ member
    have listed := values key held ((get?_eq_some_iff nodup).2 member)
    exact listed.map fun _ _ same => (Prod.mk.inj same).2
  · have apart : table.entries.Pairwise fun first second => first.1 ≠ second.1 :=
      List.pairwise_map.1 nodup
    refine apart.imp fun {first second} distinct => ?_
    intro pair isFirst isSecond
    obtain ⟨_, -, rfl⟩ := List.mem_map.1 isFirst
    obtain ⟨_, -, same⟩ := List.mem_map.1 isSecond
    exact distinct (Prod.mk.inj same).1.symm

end Pairs

end Table

/-! ## The edges of one module -/

namespace ModuleRecord

/-- The module has the edge. -/
def HasEdge (record : ModuleRecord) : Edge → Prop
  | .reads target => target ∈ record.reads
  | .exports package target => target ∈ targetsOf record.exports package
  | .opens package target => target ∈ targetsOf record.opens package
  | .uses service => service ∈ record.uses
  | .provides service provider => provider ∈ (record.provides.get? service).getD []

/-- All edges of the module. -/
def edges (record : ModuleRecord) : List Edge :=
  record.reads.map .reads
    ++ (record.exports.pairsOf id).map (fun pair => .exports pair.1 pair.2)
    ++ (record.opens.pairsOf id).map (fun pair => .opens pair.1 pair.2)
    ++ record.uses.map .uses
    ++ (record.provides.pairsOf id).map (fun pair => .provides pair.1 pair.2)

/-- A table of lists that repeats no key, and no value of a key. -/
structure TidyTable {α : Type} (table : Table String (List α)) : Prop where
  keys : table.keys.Nodup
  values : ∀ key values, table.get? key = some values → values.Nodup

/-- No place of the module holds a thing twice. -/
structure Tidy (record : ModuleRecord) : Prop where
  reads : record.reads.Nodup
  exports : TidyTable record.exports
  opens : TidyTable record.opens
  uses : record.uses.Nodup
  provides : TidyTable record.provides

section Tables

variable {α : Type} {table : Table String (List α)}

theorem TidyTable.empty : TidyTable (Table.empty : Table String (List α)) where
  keys := List.nodup_nil
  values key values found := by cases found

theorem TidyTable.extendTable [DecidableEq α] (tidy : TidyTable table)
    (more : List (String × List α)) : TidyTable (extendTable table more) where
  keys := nodup_keys_extendTable tidy.keys more
  values := by
    apply forall_extendTable _ _ tidy.values
    · intro entry member
      exact nodup_addAll List.nodup_nil entry.2
    · intro entry member present nodup
      exact nodup_addAll nodup entry.2

theorem TidyTable.nodup_pairsOf (tidy : TidyTable table) : (table.pairsOf id).Nodup :=
  Table.nodup_pairsOf tidy.keys tidy.values

theorem TidyTable.mem_pairsOf (tidy : TidyTable table) (key : String) (value : α) :
    (key, value) ∈ table.pairsOf id ↔ value ∈ (table.get? key).getD [] := by
  rw [Table.mem_pairsOf tidy.keys]
  cases table.get? key <;> simp

end Tables

variable {record : ModuleRecord} {edge : Edge}

theorem tidy_isolated (handle : ModuleHandle) (layer : Option LayerId) (packages : List String) :
    (isolated handle layer packages).Tidy where
  reads := List.nodup_nil
  exports := .empty
  opens := .empty
  uses := List.nodup_nil
  provides := .empty

theorem Tidy.extended (tidy : record.Tidy) (redefinition : Redefinition) :
    (record.extended redefinition).Tidy where
  reads := nodup_addAll tidy.reads _
  exports := tidy.exports.extendTable _
  opens := tidy.opens.extendTable _
  uses := nodup_addAll tidy.uses _
  provides := tidy.provides.extendTable _

theorem length_edges (record : ModuleRecord) : record.edges.length = record.edgeCount := by
  simp only [edges, edgeCount, countIn, List.length_append, List.length_map, Table.length_pairsOf,
    id]

/-- The list holds the edges that are read off the module. -/
theorem mem_edges (tidy : record.Tidy) : edge ∈ record.edges ↔ record.HasEdge edge := by
  cases edge with
  | reads target => simp [edges, HasEdge]
  | exports package target =>
    have listed := tidy.exports.mem_pairsOf package target
    simp [edges, HasEdge, targetsOf, listed]
  | opens package target =>
    have listed := tidy.opens.mem_pairsOf package target
    simp [edges, HasEdge, targetsOf, listed]
  | uses service => simp [edges, HasEdge]
  | provides service provider =>
    have listed := tidy.provides.mem_pairsOf service provider
    simp [edges, HasEdge, listed]

/-- The list holds no edge twice: each part is free of repetitions, and the parts are of
different kinds. -/
theorem nodup_edges (tidy : record.Tidy) : record.edges.Nodup := by
  have reads : (record.reads.map Edge.reads).Nodup :=
    tidy.reads.map fun _ _ same => Edge.reads.inj same
  have uses : (record.uses.map Edge.uses).Nodup :=
    tidy.uses.map fun _ _ same => Edge.uses.inj same
  have exports := tidy.exports.nodup_pairsOf.map (f := fun pair => Edge.exports pair.1 pair.2)
    fun _ _ same => Prod.ext (Edge.exports.inj same).1 (Edge.exports.inj same).2
  have opens := tidy.opens.nodup_pairsOf.map (f := fun pair => Edge.opens pair.1 pair.2)
    fun _ _ same => Prod.ext (Edge.opens.inj same).1 (Edge.opens.inj same).2
  have provides := tidy.provides.nodup_pairsOf.map (f := fun pair => Edge.provides pair.1 pair.2)
    fun _ _ same => Prod.ext (Edge.provides.inj same).1 (Edge.provides.inj same).2
  refine (((reads.append exports ?_).append opens ?_).append uses ?_).append provides ?_
  all_goals
    -- An edge of the last part and an earlier one would be of two kinds.
    intro edge earlier last
    obtain ⟨_, -, rfl⟩ := List.mem_map.1 last
    simp at earlier

/-- A redefined module has its edges and those that the redefinition gives it. -/
theorem hasEdge_extended {redefinition : Redefinition} :
    (record.extended redefinition).HasEdge edge ↔
      record.HasEdge edge ∨ redefinition.Gives edge := by
  cases edge with
  | reads target =>
    exact mem_addAll.trans (or_congr_right List.mem_map)
  | exports package target => exact mem_targetsOf_extendTable
  | opens package target => exact mem_targetsOf_extended
  | uses service => exact mem_addAll
  | provides service provider => exact mem_extendTable

end ModuleRecord

/-! ## The edges of a graph -/

namespace Graph

/-- The module `source` has the edge. -/
def HasEdge (graph : Graph) (source : ModuleId) (edge : Edge) : Prop :=
  ∃ record, graph.modules.get? source = some record ∧ record.HasEdge edge

/-- All edges of the graph, each with the module that has it. -/
def edges (graph : Graph) : List (ModuleId × Edge) :=
  graph.modules.pairsOf ModuleRecord.edges

/-- No place of the graph holds a thing twice. -/
structure Tidy (graph : Graph) : Prop where
  keys : graph.modules.keys.Nodup
  records : ∀ id record, graph.modules.get? id = some record → record.Tidy

variable {graph : Graph}

theorem length_edges (graph : Graph) : graph.edges.length = graph.edgeCount := by
  simp only [edges, edgeCount, Table.length_pairsOf, ModuleRecord.length_edges]

theorem mem_edges (tidy : graph.Tidy) {source : ModuleId} {edge : Edge} :
    (source, edge) ∈ graph.edges ↔ graph.HasEdge source edge := by
  rw [edges, Table.mem_pairsOf tidy.keys]
  apply exists_congr
  intro record
  apply and_congr_right
  intro found
  exact ModuleRecord.mem_edges (tidy.records source record found)

theorem nodup_edges (tidy : graph.Tidy) : graph.edges.Nodup :=
  Table.nodup_pairsOf tidy.keys fun id record found =>
    ModuleRecord.nodup_edges (tidy.records id record found)

/-- A tidy graph has as many edges as its counts say. -/
theorem encard_edges (tidy : graph.Tidy) :
    {edge : ModuleId × Edge | graph.HasEdge edge.1 edge.2}.encard = graph.edgeCount := by
  have listed : {edge : ModuleId × Edge | graph.HasEdge edge.1 edge.2} = graph.edges.toFinset := by
    ext edge
    simp only [Set.mem_ofPred_eq, List.coe_toFinset, mem_edges tidy]
  rw [listed, Set.encard_coe_eq_coe_finsetCard,
    List.toFinset_card_of_nodup (nodup_edges tidy), length_edges]

/-- A module is written: the counts lose its old edges, if there were any, and gain the new. -/
theorem edgeCount_setModule (graph : Graph) (id : ModuleId) (record : ModuleRecord) :
    (graph.setModule id record).edgeCount
        + ((graph.modules.get? id).map ModuleRecord.edgeCount).getD 0 =
      graph.edgeCount + record.edgeCount :=
  total_write ModuleRecord.edgeCount id record graph.modules.entries

theorem Tidy.setModule (tidy : graph.Tidy) {record : ModuleRecord} (id : ModuleId)
    (recordTidy : record.Tidy) : (graph.setModule id record).Tidy where
  keys := Table.nodup_keys_set tidy.keys id record
  records other present found := by
    rw [Graph.setModule, Table.get?_set] at found
    split at found
    · cases found
      exact recordTidy
    · exact tidy.records other present found

end Graph

/-! ## What one operation adds -/

namespace Machine

variable {machine after : Machine} {operation : Operation}

/-- The counter is the number of edges, by their counts. -/
structure Counted (machine : Machine) : Prop where
  tidy : machine.graph.Tidy
  mutations : machine.mutations = machine.graph.edgeCount

/-- A new module has no edges, so the counter stays right as it is. -/
theorem Counted.new (counted : machine.Counted) (handle : ModuleHandle) (layer : Option LayerId)
    (packages : List String) (unused : machine.graph.modules.get? handle.id = none)
    (modules : after.graph.modules =
      machine.graph.modules.set handle.id (.isolated handle layer packages))
    (mutations : after.mutations = machine.mutations) : after.Counted := by
  have tidy := counted.tidy.setModule handle.id (ModuleRecord.tidy_isolated handle layer packages)
  have count := machine.graph.edgeCount_setModule handle.id (.isolated handle layer packages)
  have same : after.graph.edgeCount =
      (machine.graph.setModule handle.id (.isolated handle layer packages)).edgeCount := by
    unfold Graph.edgeCount
    rw [modules]
    rfl
  have none : (ModuleRecord.isolated handle layer packages).edgeCount = 0 := rfl
  rw [unused, none, Option.map_none, Option.getD_none] at count
  refine ⟨⟨?_, ?_⟩, ?_⟩
  · rw [modules]
    exact tidy.keys
  · rw [modules]
    exact tidy.records
  · rw [mutations, counted.mutations]
    omega

/-- Every effect adds to the counter what it adds to the edges. -/
theorem counted_effect (sound : machine.Sound) (counted : machine.Counted)
    (effect : Effect machine operation after) : after.Counted := by
  cases effect with
  | kept lookups => exact ⟨counted.tidy, counted.mutations⟩
  | layer parent made known =>
    exact ⟨⟨counted.tidy.keys, counted.tidy.records⟩, counted.mutations⟩
  | named layer name packages entry made known free =>
    have unused := sound.get?_of_fresh (Nat.le_refl machine.nextId)
    exact counted.new (.named machine.nextId name) _ _ unused rfl rfl
  | unnamed loader id layer fresh made =>
    exact counted.new (.unnamed id) layer [] (sound.get?_of_fresh fresh) rfl rfl
  | redefined module redefinition record made admitted =>
    have old := counted.tidy.records module.id record admitted.found
    have count := machine.graph.edgeCount_setModule module.id (record.extended redefinition)
    have grown := record.edgeCount_extended redefinition
    refine ⟨counted.tidy.setModule module.id (old.extended redefinition), ?_⟩
    rw [admitted.found, Option.map_some, Option.getD_some] at count
    have before := counted.mutations
    simp only [changed, Graph.replaceModule, Option.getD_some]
    omega

theorem counted_run (privileges : Privileges) (operations : List Operation) :
    ((start privileges).run operations).Counted := by
  induction operations using List.reverseRecOn with
  | nil =>
    refine ⟨⟨List.nodup_nil, ?_⟩, rfl⟩
    intro id record found
    cases found
  | append_singleton operations operation ih =>
    rw [run_append]
    have sound := sound_run (sound_start privileges) operations
    exact counted_effect sound ih (effect_perform _ operation)

/-- No operation takes an edge away. -/
theorem hasEdge_perform (sound : machine.Sound) {source : ModuleId} {edge : Edge}
    (has : machine.graph.HasEdge source edge) (operation : Operation) :
    (machine.perform operation).graph.HasEdge source edge := by
  obtain ⟨record, found, hasEdge⟩ := has
  obtain ⟨later, laterFound, rfl | ⟨redefinition, rfl⟩⟩ :=
    extended_effect sound (effect_perform machine operation) found
  · exact ⟨later, laterFound, hasEdge⟩
  · exact ⟨_, laterFound, ModuleRecord.hasEdge_extended.2 (Or.inl hasEdge)⟩

/-- Whatever a machine is used through, done or refused, the counter of its mutations is the
number of edges in its graph, all five kinds together; and no further operation takes an edge
away. -/
theorem edges_kept_and_counted (privileges : Privileges) (operations : List Operation) :
    let machine := (start privileges).run operations
    {edge : ModuleId × Edge | machine.graph.HasEdge edge.1 edge.2}.encard = machine.mutations ∧
      ∀ operation source edge, machine.graph.HasEdge source edge →
        (machine.perform operation).graph.HasEdge source edge := by
  intro machine
  have counted := counted_run privileges operations
  have sound := sound_run (sound_start privileges) operations
  constructor
  · rw [Graph.encard_edges counted.tidy, counted.mutations]
  · intro operation source edge has
    exact hasEdge_perform sound has operation

end Machine

end ModuleOpens
