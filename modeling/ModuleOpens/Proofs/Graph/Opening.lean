/-
# Proofs.Graph.Opening — a machine with some opens edges more

`machine.opened module edges` is what any way of opening comes to when nothing
is in its way. `OpenedBy asked before after` says what users of the machine see
of it: `after` opens what `before` did and what `asked` says, the count of edges
rose by those that are new, and all else is as it was. The relation composes, so
a whole batch is told by what one edge does.

* `addOpens_of_has`: one edge is added unless its named module lacks the package;
* `opened_append`: edges may be added in portions;
* `openedBy_opened`: what the edges of one module do.
-/
import ModuleOpens.Proofs.Graph.Edges
import ModuleOpens.Proofs.Graph.Reachable

namespace ModuleOpens

set_option autoImplicit false

namespace ModuleRecord

/-- The module without its opens edges. -/
def closed (record : ModuleRecord) : ModuleRecord :=
  { record with opens := .empty }

/-- The module with more opens edges. -/
def openEach (record : ModuleRecord) (edges : List (String × ModuleHandle)) : ModuleRecord :=
  edges.foldl (fun record edge => record.withOpens edge.1 edge.2.id) record

theorem openEach_spec (record : ModuleRecord) (edges : List (String × ModuleHandle)) :
    (record.openEach edges).closed = record.closed ∧
      record.edgeCount ≤ (record.openEach edges).edgeCount := by
  induction edges generalizing record with
  | nil => exact ⟨rfl, Nat.le_refl _⟩
  | cons edge rest ih =>
    obtain ⟨closed, count⟩ := ih (record.withOpens edge.1 edge.2.id)
    have first := record.edgeCount_withOpens edge.1 edge.2.id
    exact ⟨closed, by unfold openEach at count ⊢; rw [List.foldl_cons]; omega⟩

theorem handle_openEach (record : ModuleRecord) (edges : List (String × ModuleHandle)) :
    (record.openEach edges).handle = record.handle := by
  show (record.openEach edges).closed.handle = record.closed.handle
  rw [(record.openEach_spec edges).1]

end ModuleRecord

namespace Graph

/-- The packages of a module; none, when there is no such module. -/
def packagesOf (graph : Graph) (module : ModuleHandle) : List String :=
  ((graph.modules.get? module.id).map ModuleRecord.packages).getD []

/-- A named module that has not got the package. -/
def Lacks (graph : Graph) (module : ModuleHandle) (package : String) : Prop :=
  module.isNamed = true ∧ package ∉ graph.packagesOf module

instance (graph : Graph) (module : ModuleHandle) (package : String) :
    Decidable (graph.Lacks module package) :=
  inferInstanceAs (Decidable (_ ∧ _))

theorem lacks_of_found {graph : Graph} {module : ModuleHandle} {record : ModuleRecord}
    (found : graph.modules.get? module.id = some record) (package : String) :
    graph.Lacks module package ↔ module.isNamed = true ∧ package ∉ record.packages := by
  unfold Lacks packagesOf
  rw [found]
  rfl

/-- Two graphs that differ in opens edges at most. -/
structure AlikeButOpens (before after : Graph) : Prop where
  records : ∀ id, (after.modules.get? id).map ModuleRecord.closed =
    (before.modules.get? id).map ModuleRecord.closed
  layers : after.layers = before.layers
  loaders : after.loaders = before.loaders

namespace AlikeButOpens

variable {before middle after : Graph}

theorem refl (graph : Graph) : AlikeButOpens graph graph := ⟨fun _ => rfl, rfl, rfl⟩

theorem trans (first : AlikeButOpens before middle) (second : AlikeButOpens middle after) :
    AlikeButOpens before after where
  records id := (second.records id).trans (first.records id)
  layers := second.layers.trans first.layers
  loaders := second.loaders.trans first.loaders

/-- What does not depend on opens edges is the same. -/
theorem map_get? {α : Type} (alike : AlikeButOpens before after) (id : ModuleId)
    (part : ModuleRecord → α) (closed : ∀ record : ModuleRecord, part record.closed = part record) :
    (after.modules.get? id).map part = (before.modules.get? id).map part := by
  have same := congrArg (Option.map part) (alike.records id)
  simpa only [Option.map_map, Function.comp_def, closed] using same

theorem has_iff (alike : AlikeButOpens before after) (module : ModuleHandle) :
    after.Has module ↔ before.Has module := by
  have same := alike.map_get? module.id ModuleRecord.handle fun _ => rfl
  have unfolds (graph : Graph) : graph.Has module ↔
      (graph.modules.get? module.id).map ModuleRecord.handle = some module :=
    Option.map_eq_some_iff.symm
  rw [unfolds, unfolds, same]

theorem packagesOf_eq (alike : AlikeButOpens before after) (module : ModuleHandle) :
    after.packagesOf module = before.packagesOf module :=
  congrArg (Option.getD · []) (alike.map_get? module.id ModuleRecord.packages fun _ => rfl)

theorem lacks_iff (alike : AlikeButOpens before after) (module : ModuleHandle) (package : String) :
    after.Lacks module package ↔ before.Lacks module package := by
  unfold Lacks
  rw [alike.packagesOf_eq]

/-- Names are looked up alike: lookups go by layers and give handles. -/
theorem find_eq (alike : AlikeButOpens before after) (layer : LayerId) (name : String) :
    after.find layer name = before.find layer name := by
  have within (steps : Nat) (layer : LayerId) :
      after.findWithin name steps layer = before.findWithin name steps layer := by
    induction steps generalizing layer with
    | zero => rfl
    | succ steps ih =>
      have walk : findWithin after name steps = findWithin before name steps := funext ih
      unfold findWithin
      rw [alike.layers, walk]
      simp only [alike.map_get? _ ModuleRecord.handle fun _ => rfl]
  rw [find, find, alike.layers]
  exact within _ layer

end AlikeButOpens

theorem opensTo_iff {graph : Graph} {source target : ModuleHandle} {package : String} :
    graph.opensTo source package target = true ↔
      ∃ record, graph.modules.get? source.id = some record ∧
        (record.handle.isNamed = false ∨
          target.id ∈ ModuleRecord.targetsOf record.opens package) := by
  unfold opensTo
  cases graph.modules.get? source.id <;> simp

/-- A named module opens what its edges say. -/
theorem opensTo_of_named {graph : Graph} {source : ModuleHandle} {record : ModuleRecord}
    (found : graph.modules.get? source.id = some record) (named : record.handle.isNamed = true)
    (package : String) (target : ModuleHandle) :
    graph.opensTo source package target = true ↔
      target.id ∈ ModuleRecord.targetsOf record.opens package := by
  unfold opensTo
  rw [found]
  simp [named]

end Graph

namespace Machine

/-- The machine with more opens edges of one module; an unnamed module stays as it is. -/
def opened (machine : Machine) (module : ModuleHandle) (edges : List (String × ModuleHandle)) :
    Machine :=
  match machine.graph.modules.get? module.id with
  | none => machine
  | some record =>
    if record.handle.isNamed then
      machine.changed (machine.graph.replaceModule module.id record (record.openEach edges))
    else machine

/-- `after` opens what `before` did and what `asked` says, has counted the edges that are new,
and differs in nothing else that a graph shows. -/
structure OpenedBy (asked : ModuleId → String → ModuleId → Prop) (before after : Machine) :
    Prop where
  opens : ∀ source package target : _, after.graph.opensTo source package target = true ↔
    before.graph.opensTo source package target = true ∨ asked source.id package target.id
  counted : ∃ edges : List (ModuleId × String × ModuleId), edges.Nodup ∧
    (∀ source package target, (source.id, package, target.id) ∈ edges ↔
      after.graph.opensTo source package target = true ∧
        before.graph.opensTo source package target = false) ∧
    after.mutations = before.mutations + edges.length
  alike : before.graph.AlikeButOpens after.graph

variable {machine before middle after : Machine} {module : ModuleHandle} {record : ModuleRecord}

theorem opened_of_unnamed (found : machine.graph.modules.get? module.id = some record)
    (unnamed : record.handle.isNamed = false) (edges : List (String × ModuleHandle)) :
    machine.opened module edges = machine := by
  unfold opened
  rw [found]
  simp [unnamed]

theorem opened_of_named (found : machine.graph.modules.get? module.id = some record)
    (named : record.handle.isNamed = true) (edges : List (String × ModuleHandle)) :
    machine.opened module edges =
      machine.changed (machine.graph.replaceModule module.id record (record.openEach edges)) := by
  unfold opened
  rw [found]
  simp [named]

/-- One edge is added unless its module is named and lacks the package. -/
theorem addOpens_of_has {target : ModuleHandle} {package : String}
    (has : machine.graph.Has module) (known : machine.graph.Has target) :
    machine.addOpens module package target =
      if machine.graph.Lacks module package then
        (.error (.unknownPackage module.text package), machine)
      else (.ok (), machine.opened module [(package, target)]) := by
  obtain ⟨record, found, rfl⟩ := has
  obtain ⟨opening, openingFound, rfl⟩ := known
  have lacks := Graph.lacks_of_found found package
  unfold addOpens edit
  rw [Graph.addOpens_of_found found openingFound]
  cases named : record.handle.isNamed with
  | false =>
    have held : ¬ machine.graph.Lacks record.handle package := by simp [lacks, named]
    rw [if_neg held, opened_of_unnamed found named]
    rfl
  | true =>
    rw [opened_of_named found named]
    by_cases member : package ∈ record.packages
    · have held : ¬ machine.graph.Lacks record.handle package := fun lacked =>
        (lacks.1 lacked).2 member
      rw [if_neg held, if_pos member]
      rfl
    · rw [if_pos (lacks.2 ⟨named, member⟩), if_neg member]
      rfl

/-- No edges change nothing. -/
theorem opened_nil (machine : Machine) (module : ModuleHandle) :
    machine.opened module [] = machine := by
  cases found : machine.graph.modules.get? module.id with
  | none => simp [opened, found]
  | some record =>
    cases named : record.handle.isNamed with
    | false => exact opened_of_unnamed found named []
    | true =>
      rw [opened_of_named found named]
      have same : machine.graph.setModule module.id record = machine.graph := by
        simp [Graph.setModule, Table.set_of_get? found]
      simp [changed, Graph.replaceModule, ModuleRecord.openEach, same]

/-- Edges may be added in two portions. -/
theorem opened_append (machine : Machine) (module : ModuleHandle)
    (edges more : List (String × ModuleHandle)) :
    (machine.opened module edges).opened module more = machine.opened module (edges ++ more) := by
  cases found : machine.graph.modules.get? module.id with
  | none => simp [opened, found]
  | some record =>
    cases named : record.handle.isNamed with
    | false => simp [opened_of_unnamed found named]
    | true =>
      have first := (record.openEach_spec edges).2
      have second := ((record.openEach edges).openEach_spec more).2
      have both : record.openEach (edges ++ more) = (record.openEach edges).openEach more :=
        List.foldl_append
      have foundAfter : (machine.opened module edges).graph.modules.get? module.id =
          some (record.openEach edges) := by
        rw [opened_of_named found named]
        exact (Table.get?_set ..).trans (if_pos rfl)
      rw [opened_of_named foundAfter (by rw [ModuleRecord.handle_openEach]; exact named),
        opened_of_named found named, opened_of_named found named, both]
      simp only [changed, Graph.replaceModule, Graph.setModule, Table.set_set, Option.getD_some,
        mk.injEq, true_and]
      omega

/-! ## What is seen of it -/

namespace OpenedBy

variable {asked more : ModuleId → String → ModuleId → Prop}

/-- What is asked for is open already. -/
theorem of_opensTo (present : ∀ source package target, asked source.id package target.id →
    machine.graph.opensTo source package target = true) : OpenedBy asked machine machine where
  opens source package target := by
    constructor
    · intro opens
      exact Or.inl opens
    · rintro (opens | asks)
      · exact opens
      · exact present source package target asks
  counted := ⟨[], List.nodup_nil, by simp, rfl⟩
  alike := Graph.AlikeButOpens.refl machine.graph

theorem congr (opened : OpenedBy asked before after)
    (same : ∀ source package target, asked source package target ↔ more source package target) :
    OpenedBy more before after where
  opens source package target := by rw [opened.opens, same]
  counted := opened.counted
  alike := opened.alike

/-- What was open stays open. -/
theorem keeps (opened : OpenedBy asked before after) (source : ModuleHandle) (package : String)
    (target : ModuleHandle) (opens : before.graph.opensTo source package target = true) :
    after.graph.opensTo source package target = true :=
  (opened.opens source package target).2 (Or.inl opens)

/-- One after the other; no edge is new twice. -/
theorem trans (first : OpenedBy asked before middle) (second : OpenedBy more middle after) :
    OpenedBy (fun source package target =>
      asked source package target ∨ more source package target) before after where
  opens source package target := by
    rw [second.opens, first.opens, or_assoc]
  counted := by
    obtain ⟨edges, nodup, isNew, count⟩ := first.counted
    obtain ⟨edges', nodup', isNew', count'⟩ := second.counted
    refine ⟨edges ++ edges', ?_, ?_, ?_⟩
    · refine List.nodup_append.2 ⟨nodup, nodup', ?_⟩
      rintro ⟨source, package, target⟩ member other member' rfl
      have opens := ((isNew ⟨source, none⟩ package ⟨target, none⟩).1 member).1
      have closed := ((isNew' ⟨source, none⟩ package ⟨target, none⟩).1 member').2
      rw [closed] at opens
      cases opens
    · intro source package target
      have later := second.keeps source package target
      have earlier := first.keeps source package target
      rw [List.mem_append, isNew, isNew']
      constructor
      · rintro (⟨opens, closed⟩ | ⟨opens, closed⟩)
        · exact ⟨later opens, closed⟩
        · refine ⟨opens, Bool.eq_false_iff.2 fun already => ?_⟩
          rw [earlier already] at closed
          cases closed
      · rintro ⟨opens, closed⟩
        cases between : middle.graph.opensTo source package target with
        | true => exact Or.inl ⟨rfl, closed⟩
        | false => exact Or.inr ⟨opens, rfl⟩
    · rw [count', count, List.length_append, Nat.add_assoc]
  alike := first.alike.trans second.alike

end OpenedBy

section Named

variable (found : machine.graph.modules.get? module.id = some record)
  (named : record.handle.isNamed = true)

include found named

theorem get?_opened (edges : List (String × ModuleHandle)) (id : ModuleId) :
    (machine.opened module edges).graph.modules.get? id =
      if id = module.id then some (record.openEach edges) else machine.graph.modules.get? id := by
  rw [opened_of_named found named]
  exact Table.get?_set ..

theorem alikeButOpens_opened (edges : List (String × ModuleHandle)) :
    machine.graph.AlikeButOpens (machine.opened module edges).graph where
  records id := by
    rw [get?_opened found named]
    split
    · rename_i same
      rw [same, found]
      exact congrArg some (record.openEach_spec edges).1
    · rfl
  layers := by
    rw [opened_of_named found named]
    rfl
  loaders := by
    rw [opened_of_named found named]
    rfl

/-- One edge more is open. -/
theorem opensTo_opened_edge (package : String) (target source : ModuleHandle) (asked : String)
    (opening : ModuleHandle) :
    (machine.opened module [(package, target)]).graph.opensTo source asked opening = true ↔
      machine.graph.opensTo source asked opening = true ∨
        (source.id = module.id ∧ asked = package ∧ opening.id = target.id) := by
  have after := get?_opened found named [(package, target)] source.id
  by_cases same : source.id = module.id
  · rw [if_pos same] at after
    rw [Graph.opensTo_of_named after named, Graph.opensTo_of_named (same ▸ found) named]
    show opening.id ∈ ModuleRecord.targetsOf (record.withOpens package target.id).opens asked ↔ _
    rw [ModuleRecord.mem_targetsOf_withOpens]
    simp [same]
  · rw [if_neg same] at after
    rw [Graph.opensTo_iff, Graph.opensTo_iff, after]
    simp [same]

/-- One edge counts when it is new. -/
theorem mutations_opened_edge (package : String) (target : ModuleHandle) :
    (machine.opened module [(package, target)]).mutations =
      machine.mutations + if machine.graph.opensTo module package target then 0 else 1 := by
  have same := Graph.opensTo_of_named found named package target
  rw [opened_of_named found named]
  show machine.mutations + ((record.withOpens package target.id).edgeCount - record.edgeCount) = _
  rw [ModuleRecord.edgeCount_withOpens, Nat.add_sub_cancel_left]
  simp only [same]

end Named

/-- What one edge does. -/
theorem openedBy_edge (has : machine.graph.Has module) (package : String) (target : ModuleHandle) :
    OpenedBy (fun id asked opening =>
      id = module.id ∧ asked = package ∧ opening = target.id) machine
      (machine.opened module [(package, target)]) := by
  obtain ⟨record, found, rfl⟩ := has
  cases named : record.handle.isNamed with
  | false =>
    rw [opened_of_unnamed found named]
    refine OpenedBy.of_opensTo ?_
    rintro source _ _ ⟨same, -, -⟩
    exact Graph.opensTo_iff.2 ⟨record, same ▸ found, Or.inl named⟩
  | true =>
    have opens := opensTo_opened_edge found named package target
    have count := mutations_opened_edge found named package target
    have unchanged (source opening : ModuleHandle) (same : source.id = record.handle.id)
        (same' : opening.id = target.id) : machine.graph.opensTo source package opening =
          machine.graph.opensTo record.handle package target := by
      unfold Graph.opensTo
      rw [same, same']
    refine ⟨opens, ?_, alikeButOpens_opened found named _⟩
    cases already : machine.graph.opensTo record.handle package target with
    | true =>
      rw [already, if_pos rfl] at count
      refine ⟨[], List.nodup_nil, fun source asked opening => ?_, count⟩
      rw [opens]
      constructor
      · intro member
        cases member
      · rintro ⟨opened | ⟨same, rfl, same'⟩, closed⟩
        · rw [opened] at closed
          cases closed
        · rw [unchanged source opening same same', already] at closed
          cases closed
    | false =>
      rw [already, if_neg Bool.false_ne_true] at count
      refine ⟨[(record.handle.id, package, target.id)], by simp, ?_, count⟩
      intro source asked opening
      rw [opens, List.mem_singleton, Prod.mk.injEq, Prod.mk.injEq]
      constructor
      · rintro ⟨same, rfl, same'⟩
        exact ⟨Or.inr ⟨same, rfl, same'⟩, (unchanged source opening same same').trans already⟩
      · rintro ⟨opened | added, closed⟩
        · rw [opened] at closed
          cases closed
        · exact added

/-- What the edges of one module do. -/
theorem openedBy_opened (has : machine.graph.Has module) (edges : List (String × ModuleHandle)) :
    OpenedBy (fun id package opening =>
      id = module.id ∧ ∃ target, (package, target) ∈ edges ∧ target.id = opening) machine
      (machine.opened module edges) := by
  induction edges generalizing machine with
  | nil =>
    rw [opened_nil]
    refine OpenedBy.of_opensTo ?_
    rintro _ _ _ ⟨-, target, member, -⟩
    cases member
  | cons edge rest ih =>
    have first := openedBy_edge has edge.1 edge.2
    have second := ih ((first.alike.has_iff module).2 has)
    rw [show edge :: rest = [(edge.1, edge.2)] ++ rest from rfl, ← opened_append]
    refine (first.trans second).congr fun source package target => ?_
    simp only [List.singleton_append, List.mem_cons, Prod.mk.injEq]
    constructor
    · rintro (⟨same, rfl, rfl⟩ | ⟨same, other, member, is⟩)
      · exact ⟨same, edge.2, Or.inl ⟨rfl, rfl⟩, rfl⟩
      · exact ⟨same, other, Or.inr member, is⟩
    · rintro ⟨same, other, ⟨rfl, rfl⟩ | member, is⟩
      · exact Or.inl ⟨same, rfl, is.symm⟩
      · exact Or.inr ⟨same, other, member, is⟩

end Machine

end ModuleOpens
