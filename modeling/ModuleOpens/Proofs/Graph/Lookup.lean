/-
# Proofs.Graph.Lookup — the nearest definition of a name, and what a new one changes

A lookup walks from a layer through its parents and answers with the first module of
the name that it comes to. Parents are older than what is below them, so the walk has
an end, which is the boot layer (`Graph.Path`). What a layer itself has under a name
is what was defined there, at some point of the run (`Machine.DefinesIn`). A
definition is in sight of a layer when no layer before it on the way has one of
the same name (`InSight`).

* `findSome?_eq_some_iff_inSight`, `findSome?_of_agree`: what the first answer along a way is,
  and how one new answer on the way changes it;
* `Layered.exists_path`, `Layered.findWithin_of_path`: the walk ends, before its steps do, and
  gives the first answer along the path;
* `listedIn_run`: a layer has under a name what the run defined there;
* `lookup_nearest_definition`: so lookups give the nearest definition, and a new one is what
  they give where it is in sight, and nowhere else.
-/
import Mathlib.Data.List.Perm.Subperm
import ModuleOpens.Proofs.Graph.WellFormed

namespace ModuleOpens

set_option autoImplicit false

/-! ## The first answer along a way -/

section Way

variable {α β : Type} {answers : α → Option β} {owner : α} {value : β}

/-- `owner` is on the way, and nothing before it hides it. -/
def InSight (hides : α → Prop) (owner : α) (way : List α) : Prop :=
  ∃ nearer farther, way = nearer ++ owner :: farther ∧ ∀ other ∈ nearer, ¬ hides other

theorem not_inSight_nil {hides : α → Prop} : ¬ InSight hides owner [] := by
  rintro ⟨nearer, farther, split, -⟩
  cases nearer <;> cases split

theorem inSight_cons {hides : α → Prop} {first : α} {rest : List α} :
    InSight hides owner (first :: rest) ↔
      owner = first ∨ (¬ hides first ∧ InSight hides owner rest) := by
  constructor
  · rintro ⟨nearer, farther, split, clear⟩
    cases nearer with
    | nil =>
      cases split
      exact Or.inl rfl
    | cons other nearer =>
      cases split
      exact Or.inr ⟨clear first List.mem_cons_self, nearer, farther, rfl,
        fun other member => clear other (List.mem_cons_of_mem _ member)⟩
  · rintro (rfl | ⟨here, nearer, farther, rfl, clear⟩)
    · exact ⟨[], rest, rfl, fun other member => by cases member⟩
    · exact ⟨first :: nearer, farther, rfl, List.forall_mem_cons.2 ⟨here, clear⟩⟩

/-- The first answer along a way is that of what answers and is in sight. -/
theorem findSome?_eq_some_iff_inSight {way : List α} :
    way.findSome? answers = some value ↔
      ∃ owner, InSight (fun other => ∃ value, answers other = some value) owner way ∧
        answers owner = some value := by
  rw [List.findSome?_eq_some_iff]
  constructor
  · rintro ⟨nearer, owner, farther, split, found, silent⟩
    refine ⟨owner, ⟨nearer, farther, split, ?_⟩, found⟩
    rintro other member ⟨answer, answered⟩
    cases (silent other member).symm.trans answered
  · rintro ⟨owner, ⟨nearer, farther, split, clear⟩, found⟩
    refine ⟨nearer, owner, farther, split, found, fun other member => ?_⟩
    exact Option.eq_none_iff_forall_ne_some.2 fun answer answered =>
      clear other member ⟨answer, answered⟩

/-- When `owner`, which gave no answer, gives one, that is the first answer along the ways that
have `owner` in sight; along the others the first answer stays. -/
theorem findSome?_of_agree {after : α → Option β} (answer : after owner = some value)
    (agree : ∀ other, other ≠ owner → after other = answers other) (way : List α) :
    (InSight (fun other => ∃ value, answers other = some value) owner way →
      way.findSome? after = some value) ∧
    (¬ InSight (fun other => ∃ value, answers other = some value) owner way →
      way.findSome? after = way.findSome? answers) := by
  induction way with
  | nil => exact ⟨fun sight => absurd sight not_inSight_nil, fun _ => rfl⟩
  | cons first rest ih =>
    rw [inSight_cons]
    by_cases same : owner = first
    · subst same
      simp [answer]
    · rw [List.findSome?_cons, List.findSome?_cons, agree first (Ne.symm same)]
      cases found : answers first with
      | some other => simp [same]
      | none => simpa [same] using ih

end Way

/-! ## The way up from a layer -/

namespace Graph

/-- The layers on the way from one through its parents, up to one that has none. -/
inductive Path (graph : Graph) : LayerId → List LayerId → Prop where
  | top (layer : LayerId) (record : Layer) (found : graph.layers.get? layer = some record)
      (last : record.parent = none) : Path graph layer [layer]
  | up (layer parent : LayerId) (record : Layer) (above : List LayerId)
      (found : graph.layers.get? layer = some record) (isParent : record.parent = some parent)
      (path : Path graph parent above) : Path graph layer (layer :: above)

/-- What a layer itself has under a name. -/
def listedIn (graph : Graph) (name : String) (layer : LayerId) : Option ModuleHandle :=
  (graph.layers.get? layer).bind fun record =>
    (record.modules.get? name).map fun id => .named id name

variable {graph after : Graph} {layer : LayerId} {way other : List LayerId} {nextId : Nat}
  {name : String}

/-- There is no more than one path from a layer. -/
theorem Path.unique (first : graph.Path layer way) (second : graph.Path layer other) :
    way = other := by
  induction first generalizing other with
  | top layer record found last =>
    cases second with
    | top _ record' found' last' => rfl
    | up _ parent' record' above' found' isParent' path' =>
      cases found.symm.trans found'
      cases last.symm.trans isParent'
  | up layer parent record above found isParent path ih =>
    cases second with
    | top _ record' found' last' =>
      cases found.symm.trans found'
      cases last'.symm.trans isParent
    | up _ parent' record' above' found' isParent' path' =>
      cases found.symm.trans found'
      cases isParent.symm.trans isParent'
      rw [ih path']

theorem Path.found (path : graph.Path layer way) :
    ∃ record, graph.layers.get? layer = some record := by
  cases path with
  | top _ record found last => exact ⟨record, found⟩
  | up _ parent record above found isParent path => exact ⟨record, found⟩

/-- A path leads through layers that there are. -/
theorem Path.known (path : graph.Path layer way) : ∀ id ∈ way, id ∈ graph.layers.keys := by
  induction path with
  | top layer record found last =>
    exact List.forall_mem_singleton.2 (Table.mem_keys_iff.2 ⟨record, found⟩)
  | up layer parent record above found isParent path ih =>
    exact List.forall_mem_cons.2 ⟨Table.mem_keys_iff.2 ⟨record, found⟩, ih⟩

/-- A path depends on the parents of layers alone. -/
theorem Path.of_parents
    (parents : ∀ id, (after.layers.get? id).map Layer.parent =
      (graph.layers.get? id).map Layer.parent)
    (path : graph.Path layer way) : after.Path layer way := by
  have same (id : LayerId) (record : Layer) (found : graph.layers.get? id = some record) :
      ∃ record', after.layers.get? id = some record' ∧ record'.parent = record.parent := by
    have parent := parents id
    rw [found, Option.map_some] at parent
    exact Option.map_eq_some_iff.1 parent
  induction path with
  | top layer record found last =>
    obtain ⟨record', found', parent⟩ := same layer record found
    exact .top layer record' found' (parent.trans last)
  | up layer parent record above found isParent path ih =>
    obtain ⟨record', found', sameParent⟩ := same layer record found
    exact .up layer parent record' above found' (sameParent.trans isParent) ih

namespace Layered

/-- Parents are older, so the way up from a layer comes to an end, and that is the boot layer. -/
theorem exists_path (layered : graph.Layered nextId) (layer : LayerId) (record : Layer)
    (found : graph.layers.get? layer = some record) :
    ∃ path, graph.Path layer path ∧ path.getLast? = some bootLayer := by
  -- By the number of the layer, since that of its parent is smaller.
  induction layer using Nat.strongRecOn generalizing record with
  | ind layer ih =>
    by_cases boot : layer = bootLayer
    · obtain ⟨bootRecord, bootFound, top⟩ := layered.boot
      subst boot
      exact ⟨[bootLayer], .top bootLayer bootRecord bootFound top, rfl⟩
    · obtain ⟨parent, isParent, known, older⟩ := layered.parent layer record found boot
      obtain ⟨parentRecord, parentFound⟩ := Option.isSome_iff_exists.1 known
      obtain ⟨above, path, last⟩ := ih parent older parentRecord parentFound
      refine ⟨layer :: above, .up layer parent record above found isParent path, ?_⟩
      rw [List.getLast?_cons, last]
      rfl

/-- No layer comes twice on a path: each is older than those before it. -/
theorem path_decreasing (layered : graph.Layered nextId) (path : graph.Path layer way) :
    way.Pairwise (· > ·) ∧ ∀ id ∈ way, id ≤ layer := by
  induction path with
  | top layer record found last => simp
  | up layer parent record above found isParent path ih =>
    have distinct : layer ≠ bootLayer := by
      rintro rfl
      obtain ⟨bootRecord, bootFound, top⟩ := layered.boot
      cases found.symm.trans bootFound
      cases top.symm.trans isParent
    obtain ⟨parent', isParent', -, older⟩ := layered.parent layer record found distinct
    cases isParent.symm.trans isParent'
    obtain ⟨decreasing, bounded⟩ := ih
    refine ⟨List.pairwise_cons.2 ⟨?_, decreasing⟩, List.forall_mem_cons.2 ⟨Nat.le_refl _, ?_⟩⟩
    · exact fun id member => Nat.lt_of_le_of_lt (bounded id member) older
    · exact fun id member => Nat.le_of_lt (Nat.lt_of_le_of_lt (bounded id member) older)

/-- A path is no longer than there are layers. -/
theorem length_path_le (layered : graph.Layered nextId) (path : graph.Path layer way) :
    way.length ≤ graph.layers.size := by
  have nodup : way.Nodup := (layered.path_decreasing path).1.imp Nat.ne_of_gt
  have within := (nodup.subperm path.known).length_le
  rwa [Table.keys, List.length_map] at within

/-- One step of the walk: what a layer itself has, or else what its parent answers. -/
theorem findWithin_succ (layered : graph.Layered nextId) {record : Layer}
    (found : graph.layers.get? layer = some record) (name : String) (steps : Nat) :
    graph.findWithin name (steps + 1) layer =
      (graph.listedIn name layer).or (record.parent.bind (graph.findWithin name steps)) := by
  rw [findWithin, listedIn, found]
  cases listed : record.modules.get? name with
  | none => simp [listed]
  | some id =>
    obtain ⟨module, moduleFound, named, -⟩ := layered.listed layer record name id found listed
    simp [listed, moduleFound, named]

/-- The walk gives the first module of the name on the path, when it has as many steps as the
path has layers. -/
theorem findWithin_of_path (layered : graph.Layered nextId) (path : graph.Path layer way)
    (name : String) {steps : Nat} (enough : way.length ≤ steps) :
    graph.findWithin name steps layer = way.findSome? (graph.listedIn name) := by
  induction path generalizing steps with
  | top layer record found last =>
    obtain ⟨steps, rfl⟩ := Nat.exists_eq_succ_of_ne_zero (Nat.ne_of_gt enough)
    rw [layered.findWithin_succ found, last, List.findSome?_cons]
    cases graph.listedIn name layer <;> rfl
  | up layer parent record above found isParent path ih =>
    obtain ⟨steps, rfl⟩ := Nat.exists_eq_succ_of_ne_zero (Nat.ne_of_gt (Nat.zero_lt_of_lt enough))
    have farther := ih (Nat.le_of_succ_le_succ enough)
    rw [layered.findWithin_succ found, isParent, Option.bind_some, farther, List.findSome?_cons]
    cases graph.listedIn name layer <;> rfl

/-- A lookup from a layer that there is. -/
theorem find_of_path (layered : graph.Layered nextId) (path : graph.Path layer way)
    (name : String) : graph.find layer name = way.findSome? (graph.listedIn name) :=
  layered.findWithin_of_path path name (layered.length_path_le path)

end Layered

theorem findWithin_of_unknown (unknown : graph.layers.get? layer = none) (name : String)
    (steps : Nat) : graph.findWithin name steps layer = none := by
  cases steps with
  | zero => rfl
  | succ steps => rw [findWithin, unknown]

/-- A lookup from a layer that there is not. -/
theorem find_of_unknown (unknown : graph.layers.get? layer = none) (name : String) :
    graph.find layer name = none :=
  findWithin_of_unknown unknown name graph.layers.size

end Graph

/-! ## What is defined where -/

namespace Machine

/-- The operation defines a module of that name in the layer, and gets this handle for it. -/
def Defines (machine : Machine) (operation : Operation) (layer : LayerId) (name : String)
    (handle : ModuleHandle) : Prop :=
  ∃ packages after, operation = .defineModule layer name packages ∧
    machine.defineModule layer name packages = (.ok handle, after)

/-- Some operation of the run defines the module. -/
def DefinesIn (machine : Machine) (operations : List Operation) (layer : LayerId) (name : String)
    (handle : ModuleHandle) : Prop :=
  HappensIn (fun before operation => before.Defines operation layer name handle) machine operations

variable {machine after : Machine} {operation : Operation} {operations : List Operation}
  {layer : LayerId} {name : String} {packages : List String} {handle : ModuleHandle}

/-- A definition is refused in a layer that there is not, and in one that has the name. -/
theorem defineModule_eq_error_iff :
    (∃ cause, (machine.defineModule layer name packages).1 = .error cause) ↔
      machine.graph.layers.get? layer = none ∨
        ∃ handle, machine.graph.listedIn name layer = some handle := by
  unfold defineModule Graph.listedIn
  cases machine.graph.layers.get? layer with
  | none => simp
  | some record =>
    cases listed : record.modules.get? name with
    | none => simp [Table.contains, listed]
    | some id => simp [Table.contains, listed]

/-- A definition that goes through gives a new handle, and the layer lists it then. -/
theorem defineModule_eq_ok (made : machine.defineModule layer name packages = (.ok handle, after)) :
    handle = .named machine.nextId name ∧
      (∃ record, machine.graph.layers.get? layer = some record) ∧
      ∀ id, after.graph.layers.get? id =
        (machine.graph.layers.get? id).map (Graph.Layered.listing layer name handle.id id) := by
  unfold defineModule at made
  split at made
  · cases made
  · rename_i record found
    split at made
    · cases made
    · cases made
      exact ⟨rfl, ⟨record, found⟩, Graph.Layered.get?_listing found machine.nextId⟩

/-- The name was free in the layer. -/
theorem listedIn_of_made
    (made : machine.defineModule layer name packages = (.ok handle, after)) :
    machine.graph.listedIn name layer = none := by
  refine Option.eq_none_iff_forall_ne_some.2 fun taken isTaken => ?_
  obtain ⟨cause, failed⟩ : ∃ cause, (machine.defineModule layer name packages).1 = .error cause :=
    defineModule_eq_error_iff.2 (Or.inr ⟨taken, isTaken⟩)
  rw [made] at failed
  cases failed

/-- What layers have under names, after a definition. -/
theorem listedIn_defineModule
    (made : machine.defineModule layer name packages = (.ok handle, after)) (other : String)
    (id : LayerId) :
    after.graph.listedIn other id =
      if id = layer ∧ other = name then some handle else machine.graph.listedIn other id := by
  obtain ⟨rfl, ⟨record, found⟩, layers⟩ := defineModule_eq_ok made
  rw [Graph.listedIn, layers]
  split
  · rename_i same
    obtain ⟨rfl, rfl⟩ := same
    simp [found, Graph.Layered.modules_listing, ModuleHandle.named]
  · rename_i distinct
    rw [Graph.listedIn]
    cases machine.graph.layers.get? id with
    | none => rfl
    | some present => simp [Graph.Layered.modules_listing, distinct]

/-- Other operations give a layer nothing, and take nothing away; a new layer is empty. -/
theorem listedIn_effect (layered : machine.graph.Layered machine.nextId)
    (effect : Effect machine operation after)
    (other : ∀ layer name packages, operation ≠ .defineModule layer name packages) :
    after.graph.listedIn name layer = machine.graph.listedIn name layer := by
  cases effect with
  | kept lookups => rfl
  | layer parent made known =>
    unfold Graph.listedIn
    rw [Table.get?_set]
    split
    · rename_i same
      rw [same, layered.get?_of_fresh (Nat.le_refl _)]
      rfl
    · rfl
  | named owner given packages record made found free => exact absurd made (other _ _ _)
  | unnamed loader id home fresh made => rfl
  | redefined module redefinition record made admitted => rfl

theorem defines_defineModule {owner : LayerId} {given : String} :
    machine.Defines (.defineModule owner given packages) layer name handle ↔
      layer = owner ∧ name = given ∧
        ∃ after, machine.defineModule owner given packages = (.ok handle, after) := by
  constructor
  · rintro ⟨_, after, same, made⟩
    cases same
    exact ⟨rfl, rfl, after, made⟩
  · rintro ⟨rfl, rfl, after, made⟩
    exact ⟨packages, after, rfl, made⟩

/-- After an operation, a layer has under a name what it had, or what was defined there. -/
theorem listedIn_perform (layered : machine.graph.Layered machine.nextId) (operation : Operation) :
    (machine.perform operation).graph.listedIn name layer = some handle ↔
      machine.graph.listedIn name layer = some handle ∨
        machine.Defines operation layer name handle := by
  -- A definition is followed by its result, and every other operation by its effect.
  by_cases defining : ∃ owner given packages, operation = .defineModule owner given packages
  · obtain ⟨owner, given, packages, rfl⟩ := defining
    rw [defines_defineModule, perform]
    rcases made : machine.defineModule owner given packages with ⟨cause | new, after⟩
    · rw [defineModule_refused made]
      simp
    · show after.graph.listedIn name layer = some handle ↔ _
      rw [listedIn_defineModule made]
      split
      · rename_i here
        obtain ⟨rfl, rfl⟩ := here
        simp [listedIn_of_made made]
      · rename_i elsewhere
        simp_all
  · have same : (machine.perform operation).graph.listedIn name layer =
        machine.graph.listedIn name layer :=
      listedIn_effect layered (effect_perform machine operation)
        fun owner given packages is => defining ⟨owner, given, packages, is⟩
    have nothing : ¬ machine.Defines operation layer name handle := by
      rintro ⟨packages, after, is, -⟩
      exact defining ⟨layer, name, packages, is⟩
    rw [same, or_iff_left nothing]

/-- After a run, a layer has under a name what it had, or what the run defined there. -/
theorem listedIn_run (wellFormed : machine.WellFormed) (operations : List Operation) :
    (machine.run operations).graph.listedIn name layer = some handle ↔
      machine.graph.listedIn name layer = some handle ∨
        machine.DefinesIn operations layer name handle := by
  induction operations generalizing machine with
  | nil => exact (or_iff_left not_happensIn_nil).symm
  | cons operation rest ih =>
    have later := wellFormed.effect (effect_perform machine operation)
    rw [DefinesIn, happensIn_cons, ← or_assoc, ← listedIn_perform wellFormed.layered operation]
    exact ih later

/-- A machine that was just started has no modules. -/
theorem listedIn_start (privileges : Privileges) :
    (start privileges).graph.listedIn name layer = none := by
  show ((Table.empty.set bootLayer (⟨none, .empty⟩ : Layer)).get? layer).bind _ = none
  rw [Table.get?_set]
  split <;> rfl

/-- What a layer has under a name was handed out before. -/
theorem lt_of_listedIn (wellFormed : machine.WellFormed)
    (listed : machine.graph.listedIn name layer = some handle) : handle.id < machine.nextId := by
  obtain ⟨record, found, named⟩ := Option.bind_eq_some_iff.1 listed
  obtain ⟨id, isListed, rfl⟩ := Option.map_eq_some_iff.1 named
  obtain ⟨module, moduleFound, -⟩ :=
    wellFormed.layered.listed layer record name id found isListed
  exact wellFormed.below id module moduleFound

/-! ## Lookups -/

/-- Lookups give the nearest definition, and come to an end. -/
structure FindsNearest (machine : Machine)
    (defined : LayerId → String → ModuleHandle → Prop) : Prop where
  /-- The way up from a layer ends at the boot layer, and is no longer than there are layers. -/
  ends : ∀ layer record, machine.graph.layers.get? layer = some record →
    ∃ path, machine.graph.Path layer path ∧ path.getLast? = some bootLayer ∧
      path.length ≤ machine.graph.layers.size
  /-- No lookup is cut short: with more steps it would give the same. -/
  enough : ∀ layer name steps, machine.graph.layers.size ≤ steps →
    machine.graph.findWithin name steps layer = (machine.findModule layer name).1
  nearest : ∀ layer name handle, (machine.findModule layer name).1 = some handle ↔
    ∃ path owner, machine.graph.Path layer path ∧
      InSight (fun id => ∃ other, defined id name other) owner path ∧ defined owner name handle
  nothing : ∀ layer name, (machine.findModule layer name).1 = none ↔
    ∀ path, machine.graph.Path layer path → ∀ owner ∈ path, ∀ handle, ¬ defined owner name handle

/-- What a definition makes of lookups. -/
structure DefinesInSight (machine : Machine)
    (defined : LayerId → String → ModuleHandle → Prop) : Prop where
  refused : ∀ layer name packages,
    (∃ cause, (machine.defineModule layer name packages).1 = .error cause) ↔
      machine.graph.layers.get? layer = none ∨ ∃ handle, defined layer name handle
  kept : ∀ layer name packages cause after,
    machine.defineModule layer name packages = (.error cause, after) →
      after = machine ∧ machine.perform (.defineModule layer name packages) = machine
  done : ∀ layer name packages handle after,
    machine.defineModule layer name packages = (.ok handle, after) →
      machine.perform (.defineModule layer name packages) = after
  /-- A lookup of the name from where the layer is in sight gives something else, and no other. -/
  changes : ∀ layer name packages handle after,
    machine.defineModule layer name packages = (.ok handle, after) → ∀ other asked,
      ((after.findModule other asked).1 ≠ (machine.findModule other asked).1 ↔
        asked = name ∧ ∃ path, machine.graph.Path other path ∧
          InSight (fun id => ∃ other, defined id name other) layer path)
  /-- What it gives is the new module. -/
  gives : ∀ layer name packages handle after,
    machine.defineModule layer name packages = (.ok handle, after) → ∀ other asked,
      (after.findModule other asked).1 ≠ (machine.findModule other asked).1 →
        (after.findModule other asked).1 = some handle

theorem find_eq_some_iff (wellFormed : machine.WellFormed) :
    machine.graph.find layer name = some handle ↔
      ∃ path owner, machine.graph.Path layer path ∧
        InSight (fun id => ∃ other, machine.graph.listedIn name id = some other) owner path ∧
        machine.graph.listedIn name owner = some handle := by
  cases found : machine.graph.layers.get? layer with
  | none =>
    rw [Graph.find_of_unknown found]
    constructor
    · intro answered
      cases answered
    · rintro ⟨path, owner, isPath, -⟩
      obtain ⟨record, present⟩ := isPath.found
      cases found.symm.trans present
  | some record =>
    obtain ⟨path, isPath, -⟩ := wellFormed.layered.exists_path layer record found
    rw [wellFormed.layered.find_of_path isPath, findSome?_eq_some_iff_inSight]
    constructor
    · rintro ⟨owner, sight, listed⟩
      exact ⟨path, owner, isPath, sight, listed⟩
    · rintro ⟨other, owner, isOther, sight, listed⟩
      cases isPath.unique isOther
      exact ⟨owner, sight, listed⟩

theorem find_eq_none_iff (wellFormed : machine.WellFormed) :
    machine.graph.find layer name = none ↔ ∀ path, machine.graph.Path layer path →
      ∀ owner ∈ path, ∀ handle, machine.graph.listedIn name owner ≠ some handle := by
  cases found : machine.graph.layers.get? layer with
  | none =>
    refine iff_of_true (Graph.find_of_unknown found name) fun path isPath => ?_
    obtain ⟨record, present⟩ := isPath.found
    cases found.symm.trans present
  | some record =>
    obtain ⟨path, isPath, -⟩ := wellFormed.layered.exists_path layer record found
    rw [wellFormed.layered.find_of_path isPath, List.findSome?_eq_none_iff]
    constructor
    · intro silent other isOther owner member handle
      cases isPath.unique isOther
      rw [silent owner member]
      exact nofun
    · intro silent owner member
      exact Option.eq_none_iff_forall_ne_some.2 (silent path isPath owner member)

/-- More steps than there are layers make no difference. -/
theorem findWithin_of_size_le (wellFormed : machine.WellFormed) {steps : Nat}
    (enough : machine.graph.layers.size ≤ steps) :
    machine.graph.findWithin name steps layer = machine.graph.find layer name := by
  cases found : machine.graph.layers.get? layer with
  | none => rw [Graph.find_of_unknown found, Graph.findWithin_of_unknown found]
  | some record =>
    obtain ⟨path, isPath, -⟩ := wellFormed.layered.exists_path layer record found
    have short := wellFormed.layered.length_path_le isPath
    rw [wellFormed.layered.find_of_path isPath,
      wellFormed.layered.findWithin_of_path isPath name (Nat.le_trans short enough)]

/-- A definition is what the layers find that have it in sight, and the others find what they
found before. -/
theorem find_defineModule (wellFormed : machine.WellFormed)
    (made : machine.defineModule layer name packages = (.ok handle, after)) {other : LayerId}
    {path : List LayerId} (isPath : machine.graph.Path other path) (asked : String) :
    let seen := asked = name ∧
      InSight (fun id => ∃ other, machine.graph.listedIn name id = some other) layer path
    (seen → after.graph.find other asked = some handle) ∧
      (¬ seen → after.graph.find other asked = machine.graph.find other asked) := by
  have later := wellFormed.effect (effect_defineModule made)
  obtain ⟨-, -, layers⟩ := defineModule_eq_ok made
  have isPath' : after.graph.Path other path := by
    refine isPath.of_parents fun id => ?_
    rw [layers, Option.map_map]
    exact congrArg (Option.map · _) (funext (Graph.Layered.parent_listing handle.id id))
  have listed := listedIn_defineModule made
  rw [later.layered.find_of_path isPath', wellFormed.layered.find_of_path isPath]
  by_cases same : asked = name
  · subst same
    have answer : after.graph.listedIn asked layer = some handle := by rw [listed]; simp
    have agree (id : LayerId) (distinct : id ≠ layer) :
        after.graph.listedIn asked id = machine.graph.listedIn asked id := by
      rw [listed]
      simp [distinct]
    simpa using findSome?_of_agree answer agree path
  · have agree : after.graph.listedIn asked = machine.graph.listedIn asked := by
      funext id
      rw [listed]
      simp [same]
    simp [same, agree]

/-- A lookup that gives something else after a definition has it in sight. -/
theorem inSight_of_find_ne (wellFormed : machine.WellFormed)
    (made : machine.defineModule layer name packages = (.ok handle, after)) {other : LayerId}
    {asked : String} (differs : after.graph.find other asked ≠ machine.graph.find other asked) :
    asked = name ∧ ∃ path, machine.graph.Path other path ∧
      InSight (fun id => ∃ other, machine.graph.listedIn name id = some other) layer path := by
  cases found : machine.graph.layers.get? other with
  | none =>
    obtain ⟨-, -, layers⟩ := defineModule_eq_ok made
    have unknown : after.graph.layers.get? other = none := by
      rw [layers, found]
      rfl
    rw [Graph.find_of_unknown found, Graph.find_of_unknown unknown] at differs
    exact absurd rfl differs
  | some record =>
    obtain ⟨path, isPath, -⟩ := wellFormed.layered.exists_path other record found
    obtain ⟨same, sight⟩ := Classical.not_not.1 fun unseen =>
      differs ((find_defineModule wellFormed made isPath asked).2 unseen)
    exact ⟨same, path, isPath, sight⟩

/-- The new module is nothing that a lookup gave before. -/
theorem find_ne_handle (wellFormed : machine.WellFormed)
    (made : machine.defineModule layer name packages = (.ok handle, after)) (other : LayerId)
    (asked : String) : machine.graph.find other asked ≠ some handle := by
  intro found
  obtain ⟨_, owner, -, -, listed⟩ := (find_eq_some_iff wellFormed).1 found
  have older := lt_of_listedIn wellFormed listed
  rw [(defineModule_eq_ok made).1] at older
  exact Nat.lt_irrefl _ older

theorem findsNearest_listedIn (wellFormed : machine.WellFormed) :
    machine.FindsNearest fun layer name handle =>
      machine.graph.listedIn name layer = some handle where
  ends layer record found := by
    obtain ⟨path, isPath, last⟩ := wellFormed.layered.exists_path layer record found
    exact ⟨path, isPath, last, wellFormed.layered.length_path_le isPath⟩
  enough layer name steps enough := findWithin_of_size_le wellFormed enough
  nearest layer name handle := find_eq_some_iff wellFormed
  nothing layer name := find_eq_none_iff wellFormed

theorem definesInSight_listedIn (wellFormed : machine.WellFormed) :
    machine.DefinesInSight fun layer name handle =>
      machine.graph.listedIn name layer = some handle where
  refused layer name packages := defineModule_eq_error_iff
  kept layer name packages cause after failed :=
    ⟨defineModule_refused failed, perform_of_refuses ⟨cause, congrArg Prod.fst failed⟩⟩
  done layer name packages handle after made := congrArg Prod.snd made
  changes layer name packages handle after made other asked := by
    refine ⟨inSight_of_find_ne wellFormed made, ?_⟩
    rintro ⟨same, path, isPath, sight⟩ agree
    have new := (find_defineModule wellFormed made isPath asked).1 ⟨same, sight⟩
    exact find_ne_handle wellFormed made other asked (agree.symm.trans new)
  gives layer name packages handle after made other asked differs := by
    obtain ⟨same, path, isPath, sight⟩ := inSight_of_find_ne wellFormed made differs
    exact (find_defineModule wellFormed made isPath asked).1 ⟨same, sight⟩

/-- Whatever a machine was used through, done or refused, its lookups come to an end and give
what was defined in the nearest layer on the way to the boot layer. A further definition is
refused, and changes nothing, just when there is no such layer or the layer has the name; or else
the new module is what lookups of its name give wherever it is in sight, and all other lookups
give what they gave. -/
theorem lookup_nearest_definition (privileges : Privileges) (operations : List Operation) :
    let machine := (start privileges).run operations
    machine.FindsNearest ((start privileges).DefinesIn operations) ∧
      machine.DefinesInSight ((start privileges).DefinesIn operations) := by
  intro machine
  have initially : (start privileges).WellFormed := wellFormed_start privileges
  have wellFormed : machine.WellFormed := wellFormed_run initially operations
  have history : (start privileges).DefinesIn operations = fun layer name handle =>
      machine.graph.listedIn name layer = some handle := by
    funext layer name handle
    rw [listedIn_run initially operations, listedIn_start]
    simp
  rw [history]
  exact ⟨findsNearest_listedIn wellFormed, definesInSight_listedIn wellFormed⟩

/-- A layer that has the name hides the definition in the boot layer from itself alone. -/
example :
    let machine := (start .none).run
      [.newLayer bootLayer, .defineModule bootLayer "core" [], .defineModule 1 "core" []]
    (machine.findModule 1 "core").1 = some (.named 3 "core") ∧
      (machine.findModule bootLayer "core").1 = some (.named 2 "core") := by
  decide

end Machine

end ModuleOpens
