/-
# Proofs.Graph.WellFormed — what holds of every graph that a run makes

A graph is five maps and a counter, which a dozen operations update in separate
places. What ties them together is stated in four parts, each kept by every
effect of an operation: records stand under their own numbers (`Sound`); layers
list the named modules that belong to them, below parents that are older
(`Layered`); no two loaders share a module (`loader_own`); and the edges of a
record lead from its own packages to modules that there are
(`ModuleRecord.WellFormed`).

* `layered_effect`, `loader_own_effect`, `records_effect`: what one effect keeps;
* `wellFormed_of_run`: every machine that a run reaches is well formed, and all
  numbers that it has handed out are below the next one.
-/
import ModuleOpens.Proofs.Graph.Origin

namespace ModuleOpens

set_option autoImplicit false

/-! ## The edges of one record -/

namespace ModuleRecord

/-- Edges of the module's own packages, to modules that are known. -/
def EdgesWithin (packages : List String) (known : ModuleId → Prop)
    (edges : Table String (List ModuleId)) : Prop :=
  ∀ package targets, edges.get? package = some targets →
    package ∈ packages ∧ ∀ target ∈ targets, known target

/-- All edges of the module are in order. An unnamed module has none, and no packages. -/
structure WellFormed (known : ModuleId → Prop) (record : ModuleRecord) : Prop where
  reads : ∀ target ∈ record.reads, known target
  exports : EdgesWithin record.packages known record.exports
  opens : EdgesWithin record.packages known record.opens
  providers : ∀ service providers, record.provides.get? service = some providers →
    providers.Nodup
  unnamed : record.handle.isNamed = false → record = isolated record.handle record.layer []

variable {known after : ModuleId → Prop} {packages : List String}
  {edges : Table String (List ModuleId)} {record : ModuleRecord}

theorem EdgesWithin.mono (within : EdgesWithin packages known edges)
    (grows : ∀ id, known id → after id) : EdgesWithin packages after edges := by
  intro package targets found
  obtain ⟨own, targetsKnown⟩ := within package targets found
  exact ⟨own, fun target member => grows target (targetsKnown target member)⟩

theorem EdgesWithin.empty : EdgesWithin packages known .empty := by
  intro package targets found
  cases found

/-- The edges of a redefinition, added where there are some in order already. -/
theorem EdgesWithin.extended (within : EdgesWithin packages known edges)
    {more : Table String (List ModuleHandle)} (own : ∀ package ∈ more.keys, package ∈ packages)
    (targets : ∀ target ∈ more.entries.flatMap Prod.snd, known target.id) :
    EdgesWithin packages known (extendTable edges (idsOf more.entries)) := by
  have given : ∀ entry ∈ idsOf more.entries,
      entry.1 ∈ packages ∧ ∀ target ∈ entry.2, known target := by
    intro entry member
    obtain ⟨source, isSource, rfl⟩ := List.mem_map.1 member
    refine ⟨own source.1 (List.mem_map_of_mem isSource), ?_⟩
    intro target isTarget
    obtain ⟨handle, isHandle, rfl⟩ := List.mem_map.1 isTarget
    exact targets handle (List.mem_flatMap.2 ⟨source, isSource, isHandle⟩)
  apply forall_extendTable _ _ within
  · intro entry member
    obtain ⟨isOwn, targetsKnown⟩ := given entry member
    refine ⟨isOwn, fun target isTarget => ?_⟩
    rcases mem_addAll.1 isTarget with none | new
    · cases none
    · exact targetsKnown target new
  · rintro entry member present ⟨isOwn, presentKnown⟩
    refine ⟨isOwn, fun target isTarget => ?_⟩
    rcases mem_addAll.1 isTarget with old | new
    · exact presentKnown target old
    · exact (given entry member).2 target new

theorem WellFormed.mono (wellFormed : record.WellFormed known)
    (grows : ∀ id, known id → after id) : record.WellFormed after where
  reads target member := grows target (wellFormed.reads target member)
  exports := wellFormed.exports.mono grows
  opens := wellFormed.opens.mono grows
  providers := wellFormed.providers
  unnamed := wellFormed.unnamed

/-- A new record has no edges; a new module without packages may be unnamed. -/
theorem wellFormed_isolated {handle : ModuleHandle} (layer : Option LayerId)
    (unnamed : handle.isNamed = false → packages = []) :
    (isolated handle layer packages).WellFormed known where
  reads target member := by cases member
  exports := EdgesWithin.empty
  opens := EdgesWithin.empty
  providers service providers found := by cases found
  unnamed isUnnamed := by
    rw [unnamed isUnnamed]
    rfl

/-- A redefinition that the graph admits. -/
theorem WellFormed.extended {graph : Graph} {module : ModuleHandle} {redefinition : Redefinition}
    (wellFormed : record.WellFormed graph.Registered)
    (admitted : graph.Admits module redefinition record) :
    (record.extended redefinition).WellFormed graph.Registered where
  reads target member := by
    rcases mem_addAll.1 member with old | new
    · exact wellFormed.reads target old
    · obtain ⟨handle, isHandle, rfl⟩ := List.mem_map.1 new
      apply admitted.targets
      simp [Redefinition.targets, isHandle]
  exports := by
    apply wellFormed.exports.extended
    · intro package member
      exact admitted.packages package (List.mem_append_left _ member)
    · intro target member
      apply admitted.targets
      exact List.mem_append_left _ (List.mem_append_right _ member)
  opens := by
    apply wellFormed.opens.extended
    · intro package member
      exact admitted.packages package (List.mem_append_right _ member)
    · intro target member
      apply admitted.targets
      exact List.mem_append_right _ member
  providers := by
    apply forall_extendTable _ _ wellFormed.providers
    · intro entry member
      exact nodup_addAll List.nodup_nil entry.2
    · intro entry member present nodup
      exact nodup_addAll nodup entry.2
  unnamed isUnnamed := by
    have named : record.handle.isNamed = true := admitted.named
    have unnamed : record.handle.isNamed = false := isUnnamed
    rw [named] at unnamed
    cases unnamed

end ModuleRecord

/-! ## Layers and loaders -/

namespace Graph

/-- Layers are older than what is below them, and list the named modules that belong to them. -/
structure Layered (graph : Graph) (nextId : Nat) : Prop where
  below : ∀ id layer, graph.layers.get? id = some layer → id < nextId
  boot : ∃ layer, graph.layers.get? bootLayer = some layer ∧ layer.parent = none
  parent : ∀ id layer, graph.layers.get? id = some layer → id ≠ bootLayer →
    ∃ parent, layer.parent = some parent ∧ graph.layers.contains parent = true ∧ parent < id
  /-- What a layer lists is a module of that name, in that layer. -/
  listed : ∀ id layer name module, graph.layers.get? id = some layer →
    layer.modules.get? name = some module →
    ∃ record, graph.modules.get? module = some record ∧ record.handle = .named module name ∧
      record.layer = some id
  /-- A named module is listed in its layer. -/
  lists : ∀ id record name, graph.modules.get? id = some record →
    record.handle.name = some name →
    ∃ owner layer, record.layer = some owner ∧ graph.layers.get? owner = some layer ∧
      layer.modules.get? name = some id

end Graph

namespace Machine

/-- All that holds of a graph between operations. -/
structure WellFormed (machine : Machine) : Prop extends machine.Sound where
  layered : machine.graph.Layered machine.nextId
  /-- No two loaders share a module. -/
  loader_own : ∀ loader other id, machine.graph.loaders.get? loader = some id →
    machine.graph.loaders.get? other = some id → loader = other
  records : ∀ id record, machine.graph.modules.get? id = some record →
    record.WellFormed machine.graph.Registered

end Machine

/-! ## What an effect keeps of the layers -/

namespace Graph.Layered

variable {graph : Graph} {nextId : Nat}

theorem get?_of_fresh (layered : graph.Layered nextId) {id : LayerId} (fresh : nextId ≤ id) :
    graph.layers.get? id = none := by
  cases found : graph.layers.get? id with
  | none => rfl
  | some layer => exact absurd fresh (Nat.not_le.2 (layered.below id layer found))

/-- A module keeps its handle and its layer, and changes otherwise. -/
theorem replaced (layered : graph.Layered nextId) {id : ModuleId} {old record : ModuleRecord}
    (found : graph.modules.get? id = some old) (handle : record.handle = old.handle)
    (layer : record.layer = old.layer) : (graph.setModule id record).Layered nextId where
  below := layered.below
  boot := layered.boot
  parent := layered.parent
  listed owner entry name module ownerFound isListed := by
    obtain ⟨present, presentFound, named, inLayer⟩ :=
      layered.listed owner entry name module ownerFound isListed
    by_cases same : module = id
    · subst same
      cases presentFound.symm.trans found
      refine ⟨record, ?_, handle.trans named, layer.trans inLayer⟩
      exact (Table.get?_set ..).trans (if_pos rfl)
    · refine ⟨present, ?_, named, inLayer⟩
      exact (Table.get?_set ..).trans ((if_neg same).trans presentFound)
  lists other present name presentFound named := by
    rw [setModule, Table.get?_set] at presentFound
    split at presentFound
    · rename_i same
      cases presentFound
      rw [same, layer]
      exact layered.lists id old name found (handle ▸ named)
    · exact layered.lists other present name presentFound named

/-- A new layer below one that there is. -/
theorem newLayer (layered : graph.Layered nextId) {parent : LayerId}
    (known : graph.layers.contains parent = true) :
    ({ graph with layers := graph.layers.set nextId ⟨some parent, .empty⟩ } : Graph).Layered
      (nextId + 1) := by
  obtain ⟨parentLayer, parentFound⟩ := Option.isSome_iff_exists.1 known
  have older : parent < nextId := layered.below parent parentLayer parentFound
  have get? {id : LayerId} {layer : Layer} (found : graph.layers.get? id = some layer) :
      (graph.layers.set nextId ⟨some parent, .empty⟩).get? id = some layer := by
    have distinct : id ≠ nextId := Nat.ne_of_lt (layered.below id layer found)
    rw [Table.get?_set, if_neg distinct]
    exact found
  refine ⟨?_, ?_, ?_, ?_, ?_⟩
  · intro id layer found
    rw [Table.get?_set] at found
    split at found
    · rename_i same
      rw [same]
      exact Nat.lt_succ_self nextId
    · exact Nat.lt_succ_of_lt (layered.below id layer found)
  · obtain ⟨boot, found, top⟩ := layered.boot
    exact ⟨boot, get? found, top⟩
  · intro id layer found other
    rw [Table.get?_set] at found
    split at found
    · rename_i same
      cases found
      refine ⟨parent, rfl, ?_, same ▸ older⟩
      exact Option.isSome_iff_exists.2 ⟨parentLayer, get? parentFound⟩
    · obtain ⟨above, isParent, aboveKnown, below⟩ := layered.parent id layer found other
      obtain ⟨aboveLayer, aboveFound⟩ := Option.isSome_iff_exists.1 aboveKnown
      exact ⟨above, isParent, Option.isSome_iff_exists.2 ⟨aboveLayer, get? aboveFound⟩, below⟩
  · intro id layer name module found isListed
    rw [Table.get?_set] at found
    split at found
    · cases found
      cases isListed
    · exact layered.listed id layer name module found isListed
  · intro id record name found named
    obtain ⟨owner, layer, inLayer, ownerFound, isListed⟩ := layered.lists id record name found named
    exact ⟨owner, layer, inLayer, get? ownerFound, isListed⟩

section NewNamed

variable {owner : LayerId} {name : String} {entry : Layer}

/-- The layer `id`, when `owner` lists one more module. -/
def listing (owner : LayerId) (name : String) (module : ModuleId) (id : LayerId) (layer : Layer) :
    Layer :=
  if id = owner then { layer with modules := layer.modules.set name module } else layer

theorem parent_listing (module : ModuleId) (id : LayerId) (layer : Layer) :
    (listing owner name module id layer).parent = layer.parent := by
  unfold listing
  split <;> rfl

theorem modules_listing (module : ModuleId) (id : LayerId) (layer : Layer) (other : String) :
    (listing owner name module id layer).modules.get? other =
      if id = owner ∧ other = name then some module else layer.modules.get? other := by
  unfold listing
  by_cases same : id = owner
  · rw [if_pos same, Table.get?_set]
    simp [same]
  · rw [if_neg same]
    simp [same]

theorem get?_listing {layers : Table LayerId Layer} (found : layers.get? owner = some entry)
    (module : ModuleId) (id : LayerId) :
    (layers.set owner { entry with modules := entry.modules.set name module }).get? id =
      (layers.get? id).map (listing owner name module id) := by
  rw [Table.get?_set]
  by_cases same : id = owner
  · rw [if_pos same, same, found]
    simp [listing]
  · rw [if_neg same]
    cases layers.get? id <;> simp [listing, same]

/-- A new module in a layer that has none of that name. -/
theorem newNamed (layered : graph.Layered nextId) (packages : List String)
    (found : graph.layers.get? owner = some entry) (free : entry.modules.get? name = none)
    (unused : graph.modules.get? nextId = none) :
    ({ graph with
        modules := graph.modules.set nextId
          (.isolated (.named nextId name) (some owner) packages)
        layers := graph.layers.set owner
          { entry with modules := entry.modules.set name nextId } } : Graph).Layered
      (nextId + 1) := by
  have layers (id : LayerId) :
      (graph.layers.set owner { entry with modules := entry.modules.set name nextId }).get? id =
        (graph.layers.get? id).map (listing owner name nextId id) := get?_listing found nextId id
  refine ⟨?_, ?_, ?_, ?_, ?_⟩
  · intro id layer present
    obtain ⟨old, oldFound, -⟩ := Option.map_eq_some_iff.1 ((layers id).symm.trans present)
    exact Nat.lt_succ_of_lt (layered.below id old oldFound)
  · obtain ⟨boot, bootFound, top⟩ := layered.boot
    refine ⟨listing owner name nextId bootLayer boot, ?_, ?_⟩
    · rw [layers, bootFound]
      rfl
    · rw [parent_listing]
      exact top
  · intro id layer present other
    obtain ⟨old, oldFound, rfl⟩ := Option.map_eq_some_iff.1 ((layers id).symm.trans present)
    obtain ⟨parent, isParent, known, older⟩ := layered.parent id old oldFound other
    refine ⟨parent, (parent_listing ..).trans isParent, ?_, older⟩
    rw [Table.contains, layers, Option.isSome_map]
    exact known
  · intro id layer other module present isListed
    obtain ⟨old, oldFound, rfl⟩ := Option.map_eq_some_iff.1 ((layers id).symm.trans present)
    rw [modules_listing] at isListed
    split at isListed
    · rename_i here
      obtain ⟨rfl, rfl⟩ := here
      cases isListed
      exact ⟨_, (Table.get?_set ..).trans (if_pos rfl), rfl, rfl⟩
    · obtain ⟨record, recordFound, named, inLayer⟩ :=
        layered.listed id old other module oldFound isListed
      have distinct : module ≠ nextId := by
        intro same
        rw [same, unused] at recordFound
        cases recordFound
      refine ⟨record, ?_, named, inLayer⟩
      rw [Table.get?_set, if_neg distinct]
      exact recordFound
  · intro id record other present named
    rw [Table.get?_set] at present
    split at present
    · rename_i same
      cases present
      cases named
      refine ⟨owner, listing owner name nextId owner entry, rfl, ?_, ?_⟩
      · rw [layers, found]
        rfl
      · rw [modules_listing, if_pos ⟨rfl, rfl⟩, same]
    · obtain ⟨home, layer, inHome, homeFound, isListed⟩ :=
        layered.lists id record other present named
      refine ⟨home, listing owner name nextId home layer, inHome, ?_, ?_⟩
      · rw [layers, homeFound]
        rfl
      · -- The old module of that name would be in the way of the new one.
        have distinct : ¬ (home = owner ∧ other = name) := by
          rintro ⟨rfl, rfl⟩
          cases homeFound.symm.trans found
          rw [free] at isListed
          cases isListed
        rw [modules_listing, if_neg distinct]
        exact isListed

end NewNamed

/-- A new unnamed module is in no layer's list. -/
theorem newUnnamed (layered : graph.Layered nextId) {id : ModuleId} (fresh : nextId ≤ id)
    (unused : graph.modules.get? id = none) (layer : Option LayerId) (loader : Nat) :
    ({ graph with
        modules := graph.modules.set id (.isolated (.unnamed id) layer [])
        loaders := graph.loaders.set loader id } : Graph).Layered (id + 1) where
  below owner entry found := by
    have older := layered.below owner entry found
    exact Nat.lt_succ_of_lt (Nat.lt_of_lt_of_le older fresh)
  boot := layered.boot
  parent := layered.parent
  listed owner entry name module found isListed := by
    obtain ⟨record, recordFound, named, inOwner⟩ :=
      layered.listed owner entry name module found isListed
    have distinct : module ≠ id := by
      intro same
      rw [same, unused] at recordFound
      cases recordFound
    refine ⟨record, ?_, named, inOwner⟩
    rw [Table.get?_set, if_neg distinct]
    exact recordFound
  lists other record name found named := by
    rw [Table.get?_set] at found
    split at found
    · cases found
      cases named
    · exact layered.lists other record name found named

end Graph.Layered

/-! ## What one effect keeps -/

namespace Machine

variable {machine after : Machine} {operation : Operation}

theorem layered_effect (sound : machine.Sound) (layered : machine.graph.Layered machine.nextId)
    (effect : Effect machine operation after) : after.graph.Layered after.nextId := by
  cases effect with
  | kept lookups => exact layered
  | layer parent made known => exact layered.newLayer known
  | named layer name packages record made found free =>
    exact layered.newNamed (firstSeen packages) found free (sound.get?_of_fresh (Nat.le_refl _))
  | unnamed loader id layer fresh made =>
    exact layered.newUnnamed fresh (sound.get?_of_fresh fresh) layer loader
  | redefined module redefinition record made admitted =>
    exact layered.replaced admitted.found rfl rfl

theorem loader_own_effect (sound : machine.Sound)
    (own : ∀ loader other id, machine.graph.loaders.get? loader = some id →
      machine.graph.loaders.get? other = some id → loader = other)
    (effect : Effect machine operation after) :
    ∀ loader other id, after.graph.loaders.get? loader = some id →
      after.graph.loaders.get? other = some id → loader = other := by
  cases effect with
  | kept lookups => exact own
  | layer parent made known => exact own
  | named layer name packages record made found free => exact own
  | redefined module redefinition record made admitted => exact own
  | unnamed fresher id layer fresh made =>
    -- No loader leads to the new module, which has a number of its own.
    have unused (loader : Nat) : machine.graph.loaders.get? loader ≠ some id := by
      intro found
      obtain ⟨record, recordFound, -⟩ := sound.loader_unnamed loader id found
      have absent : machine.graph.modules.get? id = none := sound.get?_of_fresh fresh
      cases absent.symm.trans recordFound
    intro loader other module found found'
    rw [Table.get?_set] at found found'
    split at found <;> split at found'
    · rename_i same same'
      rw [same, same']
    · cases found
      exact absurd found' (unused other)
    · cases found'
      exact absurd found (unused loader)
    · exact own loader other module found found'

theorem records_effect (sound : machine.Sound)
    (records : ∀ id record, machine.graph.modules.get? id = some record →
      record.WellFormed machine.graph.Registered)
    (effect : Effect machine operation after) :
    ∀ id record, after.graph.modules.get? id = some record →
      record.WellFormed after.graph.Registered := by
  have registered (id : ModuleId) (present : machine.graph.Registered id) :
      after.graph.Registered id := by
    obtain ⟨record, found⟩ := present
    obtain ⟨later, laterFound, -⟩ := record_effect sound effect found
    exact ⟨later, laterFound⟩
  have old (id : ModuleId) (record : ModuleRecord)
      (found : machine.graph.modules.get? id = some record) :
      record.WellFormed after.graph.Registered := (records id record found).mono registered
  intro id record found
  cases effect with
  | kept lookups => exact old id record found
  | layer parent made known => exact old id record found
  | named layer name packages entry made known free =>
    rw [Table.get?_set] at found
    split at found
    · cases found
      apply ModuleRecord.wellFormed_isolated
      intro unnamed
      cases unnamed
    · exact old id record found
  | unnamed loader fresher layer fresh made =>
    rw [Table.get?_set] at found
    split at found
    · cases found
      exact ModuleRecord.wellFormed_isolated layer fun _ => rfl
    · exact old id record found
  | redefined module redefinition present made admitted =>
    have replaced := found
    rw [changed, Graph.replaceModule, Graph.setModule, Table.get?_set] at replaced
    split at replaced
    · cases replaced
      have wellFormed := records _ present admitted.found
      exact (wellFormed.extended admitted).mono registered
    · exact old id record replaced

theorem WellFormed.effect (wellFormed : machine.WellFormed)
    (effect : Effect machine operation after) : after.WellFormed where
  toSound := (effect.grows wellFormed.toSound).sound wellFormed.toSound
  layered := layered_effect wellFormed.toSound wellFormed.layered effect
  loader_own := loader_own_effect wellFormed.toSound wellFormed.loader_own effect
  records := records_effect wellFormed.toSound wellFormed.records effect

/-! ## Runs -/

theorem wellFormed_start (privileges : Privileges) : (start privileges).WellFormed where
  toSound := sound_start privileges
  layered := by
    have layers (id : LayerId) (layer : Layer)
        (found : (start privileges).graph.layers.get? id = some layer) :
        id = bootLayer ∧ layer = ⟨none, .empty⟩ := by
      change (Table.empty.set bootLayer (⟨none, .empty⟩ : Layer)).get? id = some layer at found
      rw [Table.get?_set] at found
      split at found
      · rename_i same
        cases found
        exact ⟨same, rfl⟩
      · cases found
    refine ⟨?_, ⟨_, rfl, rfl⟩, ?_, ?_, ?_⟩
    · intro id layer found
      rw [(layers id layer found).1]
      exact Nat.zero_lt_one
    · intro id layer found other
      exact absurd (layers id layer found).1 other
    · intro id layer name module found isListed
      rw [(layers id layer found).2] at isListed
      cases isListed
    · intro id record name found named
      cases found
  loader_own loader other id found := by cases found
  records id record found := by cases found

theorem wellFormed_run (wellFormed : machine.WellFormed) (operations : List Operation) :
    (machine.run operations).WellFormed := by
  induction operations generalizing machine with
  | nil => exact wellFormed
  | cons operation rest ih => exact ih (wellFormed.effect (effect_perform machine operation))

/-- The number that an operation gives to who asked for it, be it that of a layer, a module or a
loader. -/
def handedOut? (machine : Machine) : Operation → Option Nat
  | .newLayer parent => (machine.newLayer parent).1.toOption
  | .defineModule layer name packages =>
    (machine.defineModule layer name packages).1.toOption.map ModuleHandle.id
  | .newLoader name layer => some (machine.newLoader name layer).1.id
  | .unnamedModule loader => some (machine.unnamedModule loader).1.id
  | _ => none

theorem newLayer_lt {parent layer : LayerId}
    (made : machine.newLayer parent = (.ok layer, after)) : layer < after.nextId := by
  unfold newLayer at made
  split at made
  · cases made
    exact Nat.lt_succ_self _
  · cases made

theorem defineModule_lt {layer : LayerId} {name : String} {packages : List String}
    {handle : ModuleHandle}
    (made : machine.defineModule layer name packages = (.ok handle, after)) :
    handle.id < after.nextId := by
  unfold defineModule at made
  split at made
  · cases made
  · split at made
    · cases made
    · cases made
      exact Nat.lt_succ_self _

theorem unnamedModule_lt (sound : machine.Sound) (loader : LoaderHandle) :
    (machine.unnamedModule loader).1.id < (machine.unnamedModule loader).2.nextId := by
  unfold unnamedModule
  split
  · rename_i id found
    obtain ⟨record, recordFound, -⟩ := sound.loader_unnamed loader.id id found
    exact sound.below id record recordFound
  · exact Nat.lt_succ_self _

theorem eq_ok_of_toOption {ε α : Type} {result : Except ε α} {value : α}
    (made : result.toOption = some value) : result = .ok value := by
  cases result with
  | ok other =>
    cases made
    rfl
  | error cause => cases made

/-- What an operation hands out is below the next number. -/
theorem handedOut?_lt (sound : machine.Sound) {id : Nat}
    (given : machine.handedOut? operation = some id) : id < (machine.perform operation).nextId := by
  cases operation with
  | newLayer parent => exact newLayer_lt (Prod.ext (eq_ok_of_toOption given) rfl)
  | defineModule layer name packages =>
    obtain ⟨handle, made, rfl⟩ := Option.map_eq_some_iff.1 given
    exact defineModule_lt (Prod.ext (eq_ok_of_toOption made) rfl)
  | newLoader name layer =>
    cases given
    exact Nat.lt_trans (Nat.lt_succ_self _) (Nat.lt_succ_self _)
  | unnamedModule loader =>
    cases given
    exact unnamedModule_lt sound loader
  | findModule layer name => cases given
  | internalAddOpens source package target => cases given
  | addOpens source package target => cases given
  | redefine module redefinition => cases given
  | addReads source target => cases given
  | addExports source package target => cases given

/-- Whatever operations a machine is used through, done or refused, its graph is well formed
after them, and every number that it handed out on the way is below the next one. -/
theorem wellFormed_of_run (privileges : Privileges) (operations : List Operation) :
    ((start privileges).run operations).WellFormed ∧
      ∀ earlier operation later id, operations = earlier ++ operation :: later →
        ((start privileges).run earlier).handedOut? operation = some id →
          id < ((start privileges).run operations).nextId := by
  refine ⟨wellFormed_run (wellFormed_start privileges) operations, ?_⟩
  intro earlier operation later id split given
  have sound := sound_run (sound_start privileges) earlier
  have below := handedOut?_lt sound given
  have sound' := (grows_perform sound operation).sound sound
  rw [split, run_append]
  exact Nat.lt_of_lt_of_le below (extends_of_reaches (reaches_run _ later) sound').nextId

end Machine

end ModuleOpens
