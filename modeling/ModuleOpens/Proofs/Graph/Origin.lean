/-
# Proofs.Graph.Origin — where opens edges come from, and that they stay

An opens edge is either there before an operation or one that the operation
asks for; and what is there stays, with the handle, the layer and the packages
of its module. Both are read off the effects, and both hold over runs. `Reaches allowed`
says that a run of allowed operations leads from one machine to another; whatever
else works on a machine is told by the operations that it comes to.

* `opensEdge_effect`, `opensEdge_of_reaches`: an edge that is new was asked for;
* `extended_effect`, `record_effect`: what becomes of a record, and what it keeps;
* `extends_of_reaches`: what a run keeps of the machine that it began with;
* `loader_of_reaches`: a module that has a number already is nobody's new module.
-/
import ModuleOpens.Proofs.Graph.Edges
import ModuleOpens.Proofs.Graph.Reachable

namespace ModuleOpens

set_option autoImplicit false

/-- The redefinition opens a package to the module `target`. -/
def Redefinition.Opens (redefinition : Redefinition) (package : String) (target : ModuleId) :
    Prop :=
  ∃ entry ∈ redefinition.opens.entries, entry.1 = package ∧ ∃ handle ∈ entry.2, handle.id = target

/-- The operation asks for an opens edge. -/
def Operation.Opens (operation : Operation) (source : ModuleId) (package : String)
    (target : ModuleId) : Prop :=
  ∃ module redefinition, operation.redefinition? = some (module, redefinition) ∧
    module.id = source ∧ redefinition.Opens package target

/-- The module `source` has an opens edge. -/
def Graph.OpensEdge (graph : Graph) (source : ModuleId) (package : String) (target : ModuleId) :
    Prop :=
  ∃ record, graph.modules.get? source = some record ∧
    target ∈ ModuleRecord.targetsOf record.opens package

variable {source target : ModuleId} {package : String}

theorem Redefinition.opens_ofEdge {other : String} {handle : ModuleHandle} :
    (Redefinition.ofEdge other handle).Opens package target ↔
      other = package ∧ handle.id = target := by
  constructor
  · rintro ⟨entry, member, rfl, asked, isAsked, rfl⟩
    cases List.mem_singleton.1 member
    cases List.mem_singleton.1 isAsked
    exact ⟨rfl, rfl⟩
  · rintro ⟨rfl, rfl⟩
    exact ⟨(other, [handle]), List.mem_singleton_self _, rfl, handle, List.mem_singleton_self _, rfl⟩

/-- A redefined record has its edges and those that the redefinition asks for. -/
theorem ModuleRecord.mem_targetsOf_extended {record : ModuleRecord}
    {redefinition : Redefinition} :
    target ∈ targetsOf (record.extended redefinition).opens package ↔
      target ∈ targetsOf record.opens package ∨ redefinition.Opens package target :=
  mem_targetsOf_extendTable

/-- What a record keeps, whatever operations come. -/
structure ModuleRecord.Keeps (before after : ModuleRecord) : Prop where
  handle : after.handle = before.handle
  layer : after.layer = before.layer
  packages : after.packages = before.packages
  opens : ∀ package target, target ∈ targetsOf before.opens package →
    target ∈ targetsOf after.opens package

theorem ModuleRecord.Keeps.refl (record : ModuleRecord) : record.Keeps record :=
  ⟨rfl, rfl, rfl, fun _ _ opens => opens⟩

theorem ModuleRecord.Keeps.trans {before middle after : ModuleRecord}
    (first : before.Keeps middle) (second : middle.Keeps after) : before.Keeps after where
  handle := second.handle.trans first.handle
  layer := second.layer.trans first.layer
  packages := second.packages.trans first.packages
  opens package target opens := second.opens package target (first.opens package target opens)

namespace Machine

variable {machine before middle after : Machine} {operation : Operation}

/-! ## One operation -/

/-- An edge was there, or the operation asks for it. -/
theorem opensEdge_effect (effect : Effect machine operation after)
    (edge : after.graph.OpensEdge source package target) :
    machine.graph.OpensEdge source package target ∨ operation.Opens source package target := by
  obtain ⟨record, found, isTarget⟩ := edge
  cases effect with
  | kept lookups => exact Or.inl ⟨record, found, isTarget⟩
  | layer parent made known => exact Or.inl ⟨record, found, isTarget⟩
  | named layer name packages entry made known free =>
    rw [Table.get?_set] at found
    split at found
    · cases found
      cases isTarget
    · exact Or.inl ⟨record, found, isTarget⟩
  | unnamed loader id layer fresh made =>
    rw [Table.get?_set] at found
    split at found
    · cases found
      cases isTarget
    · exact Or.inl ⟨record, found, isTarget⟩
  | redefined module redefinition present made admitted =>
    rw [changed, Graph.replaceModule, Graph.setModule, Table.get?_set] at found
    split at found
    · rename_i same
      cases found
      rcases ModuleRecord.mem_targetsOf_extended.1 isTarget with old | new
      · exact Or.inl ⟨present, same ▸ admitted.found, old⟩
      · exact Or.inr ⟨module, redefinition, made, same.symm, new⟩
    · exact Or.inl ⟨record, found, isTarget⟩

/-- A record stays as it is, or a redefinition extends it. -/
theorem extended_effect (sound : machine.Sound) (effect : Effect machine operation after)
    {id : ModuleId} {record : ModuleRecord}
    (found : machine.graph.modules.get? id = some record) :
    ∃ later, after.graph.modules.get? id = some later ∧
      (later = record ∨ ∃ redefinition, later = record.extended redefinition) := by
  have below := sound.below id record found
  cases effect with
  | kept lookups => exact ⟨record, found, Or.inl rfl⟩
  | layer parent made known => exact ⟨record, found, Or.inl rfl⟩
  | named layer name packages entry made known free =>
    refine ⟨record, ?_, Or.inl rfl⟩
    rw [Table.get?_set, if_neg (Nat.ne_of_lt below)]
    exact found
  | unnamed loader fresher layer fresh made =>
    refine ⟨record, ?_, Or.inl rfl⟩
    rw [Table.get?_set, if_neg (Nat.ne_of_lt (Nat.lt_of_lt_of_le below fresh))]
    exact found
  | redefined module redefinition present made admitted =>
    rw [changed, Graph.replaceModule, Graph.setModule, Table.get?_set]
    split
    · rename_i same
      rw [same, admitted.found] at found
      cases found
      exact ⟨record.extended redefinition, rfl, Or.inr ⟨redefinition, rfl⟩⟩
    · exact ⟨record, found, Or.inl rfl⟩

/-- A record keeps what it has. -/
theorem record_effect (sound : machine.Sound) (effect : Effect machine operation after)
    {id : ModuleId} {record : ModuleRecord}
    (found : machine.graph.modules.get? id = some record) :
    ∃ later, after.graph.modules.get? id = some later ∧ record.Keeps later := by
  obtain ⟨later, laterFound, rfl | ⟨redefinition, rfl⟩⟩ := extended_effect sound effect found
  · exact ⟨later, laterFound, .refl later⟩
  · refine ⟨_, laterFound, rfl, rfl, rfl, fun package target opens => ?_⟩
    exact ModuleRecord.mem_targetsOf_extended.2 (Or.inl opens)

/-- A layer stays. -/
theorem layer_effect (effect : Effect machine operation after) {layer : LayerId}
    (known : machine.graph.layers.contains layer = true) :
    after.graph.layers.contains layer = true := by
  cases effect with
  | kept lookups => exact known
  | layer parent made parentKnown =>
    rw [Table.contains, Table.get?_set]
    split
    · rfl
    · exact known
  | named owner name packages record made found free =>
    rw [Table.contains, Table.get?_set]
    split
    · rfl
    · exact known
  | unnamed loader id home fresh made => exact known
  | redefined module redefinition record made admitted => exact known

/-! ## Runs of allowed operations -/

/-- A run of allowed operations leads from one machine to the other. -/
def Reaches (allowed : Operation → Prop) (before after : Machine) : Prop :=
  ∃ operations, (∀ operation ∈ operations, allowed operation) ∧ before.run operations = after

variable {allowed : Operation → Prop}

theorem Reaches.refl (machine : Machine) : Reaches allowed machine machine := by
  refine ⟨[], ?_, rfl⟩
  intro operation member
  cases member

theorem Reaches.trans (first : Reaches allowed before middle)
    (second : Reaches allowed middle after) : Reaches allowed before after := by
  obtain ⟨operations, areAllowed, rfl⟩ := first
  obtain ⟨more, areAllowed', rfl⟩ := second
  refine ⟨operations ++ more, ?_, run_append ..⟩
  intro operation member
  rcases List.mem_append.1 member with early | late
  · exact areAllowed operation early
  · exact areAllowed' operation late

theorem reaches_perform (machine : Machine) (isAllowed : allowed operation) :
    Reaches allowed machine (machine.perform operation) := by
  refine ⟨[operation], ?_, rfl⟩
  intro other member
  cases List.mem_singleton.1 member
  exact isAllowed

theorem reaches_run (machine : Machine) (operations : List Operation) :
    Reaches (fun _ => True) machine (machine.run operations) :=
  ⟨operations, fun _ _ => trivial, rfl⟩

theorem Reaches.mono {more : Operation → Prop} (reaches : Reaches allowed before after)
    (grows : ∀ operation, allowed operation → more operation) : Reaches more before after := by
  obtain ⟨operations, areAllowed, led⟩ := reaches
  exact ⟨operations, fun operation member => grows operation (areAllowed operation member), led⟩

/-- What every step of a run keeps, the run keeps. -/
theorem Reaches.keeps (holds : Machine → Prop) (reaches : Reaches allowed before after)
    (step : ∀ machine operation, allowed operation → holds machine →
      holds (machine.perform operation))
    (initially : holds before) : holds after := by
  obtain ⟨operations, areAllowed, rfl⟩ := reaches
  induction operations generalizing before with
  | nil => exact initially
  | cons operation rest ih =>
    have here := step before operation (areAllowed operation List.mem_cons_self) initially
    exact ih here fun other member => areAllowed other (List.mem_cons_of_mem _ member)

theorem Reaches.sound (reaches : Reaches allowed before after) (sound : before.Sound) :
    after.Sound :=
  reaches.keeps Sound (fun _ operation _ sound => (grows_perform sound operation).sound sound) sound

/-- An edge was there before a run, or one of its operations asks for it. -/
theorem opensEdge_of_reaches (reaches : Reaches allowed before after)
    (edge : after.graph.OpensEdge source package target) :
    before.graph.OpensEdge source package target ∨
      ∃ operation, allowed operation ∧ operation.Opens source package target := by
  refine reaches.keeps (fun machine =>
    machine.graph.OpensEdge source package target →
      before.graph.OpensEdge source package target ∨
        ∃ operation, allowed operation ∧ operation.Opens source package target) ?_ Or.inl edge
  intro machine operation isAllowed ih opens
  rcases opensEdge_effect (effect_perform machine operation) opens with old | asked
  · exact ih old
  · exact Or.inr ⟨operation, isAllowed, asked⟩

/-- What a run keeps of the machine that it began with. -/
structure Extends (before after : Machine) : Prop where
  sound : after.Sound
  nextId : before.nextId ≤ after.nextId
  privileges : after.privileges = before.privileges
  records : ∀ id record, before.graph.modules.get? id = some record →
    ∃ later, after.graph.modules.get? id = some later ∧ record.Keeps later
  /-- A loader leads where it did, or to a module that is new. -/
  loaders : ∀ loader id, after.graph.loaders.get? loader = some id →
    before.graph.loaders.get? loader = some id ∨ before.nextId ≤ id
  layers : ∀ layer, before.graph.layers.contains layer = true →
    after.graph.layers.contains layer = true

theorem extends_of_reaches (reaches : Reaches allowed before after) (sound : before.Sound) :
    before.Extends after := by
  refine reaches.keeps before.Extends ?_
    ⟨sound, Nat.le_refl _, rfl, fun id record found => ⟨record, found, .refl record⟩,
      fun _ _ found => Or.inl found, fun _ known => known⟩
  intro machine operation _ ih
  have effect := effect_perform machine operation
  have grows := effect.grows ih.sound
  refine ⟨grows.sound ih.sound, Nat.le_trans ih.nextId grows.nextId,
    grows.privileges.trans ih.privileges, ?_, ?_, ?_⟩
  · intro id record found
    obtain ⟨middle, middleFound, first⟩ := ih.records id record found
    obtain ⟨later, laterFound, second⟩ := record_effect ih.sound effect middleFound
    exact ⟨later, laterFound, first.trans second⟩
  · intro loader id found
    rcases grows.loaders loader id found with old | ⟨fresh, -⟩
    · exact ih.loaders loader id old
    · exact Or.inr (Nat.le_trans ih.nextId fresh)
  · exact fun layer known => layer_effect effect (ih.layers layer known)

theorem Extends.has (extended : before.Extends after) {module : ModuleHandle}
    (has : before.graph.Has module) : after.graph.Has module := by
  obtain ⟨record, found, rfl⟩ := has
  obtain ⟨later, laterFound, keeps⟩ := extended.records _ record found
  exact ⟨later, laterFound, keeps.handle⟩

/-- A module stays in its layer, or in none. -/
theorem Extends.layerOf (extended : before.Extends after) {module : ModuleHandle}
    {record : ModuleRecord} (found : before.graph.modules.get? module.id = some record) :
    after.graph.layerOf module = record.layer := by
  obtain ⟨later, laterFound, keeps⟩ := extended.records module.id record found
  unfold Graph.layerOf
  rw [laterFound, Option.bind_some, keeps.layer]

end Machine

end ModuleOpens
