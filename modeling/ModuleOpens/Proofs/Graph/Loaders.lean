/-
# Proofs.Graph.Loaders — how long a loader keeps its unnamed module

A machine knows a loader by its number. It hands numbers out from one counter,
but a handle may also be made elsewhere, with any number, and the machine gives
it an unnamed module when it is asked for one. When the counter comes to that
number later and the number goes to a new loader, the entry is written over,
and the first handle leads to the new loader's module.

That is the one way in which a loader's module changes. `MintsIn` says that it
happens in a run:

* `loader_effect`, `loader_perform_of_mints`: what one operation does to an entry;
* `loader_run_iff`: an entry outlives a run just when the run mints no such loader;
* `unnamedModule_again_iff`: and so does the module that a handle was told, which
  is for good when its number was handed out before.
-/
import ModuleOpens.Proofs.Graph.Origin

namespace ModuleOpens

set_option autoImplicit false

namespace Machine

variable {machine before after : Machine} {operation : Operation} {operations : List Operation}
  {loader : Nat} {id : ModuleId}

/-- The operation makes a new loader, under this number. -/
def Mints (machine : Machine) (operation : Operation) (loader : Nat) : Prop :=
  ∃ name layer, operation = .newLoader name layer ∧ machine.nextId = loader

/-- Some operation of the run makes a new loader under this number. -/
def MintsIn (machine : Machine) (operations : List Operation) (loader : Nat) : Prop :=
  ∃ earlier operation later, operations = earlier ++ operation :: later ∧
    (machine.run earlier).Mints operation loader

/-! ## One operation -/

/-- An entry stays, unless a new loader gets its number. -/
theorem loader_effect (effect : Effect machine operation after)
    (found : machine.graph.loaders.get? loader = some id)
    (spared : ¬ machine.Mints operation loader) : after.graph.loaders.get? loader = some id := by
  cases effect with
  | kept lookups => exact found
  | layer parent made known => exact found
  | named layer name packages entry made known free => exact found
  | redefined module redefinition record made admitted => exact found
  | unnamed other fresher layer fresh made =>
    have distinct : loader ≠ other := by
      rintro rfl
      rcases made with ⟨name, made, minted⟩ | ⟨handle, -, -, unseen⟩
      · exact spared ⟨name, layer, made, minted.symm⟩
      · rw [unseen] at found
        cases found
    rw [Table.get?_set, if_neg distinct]
    exact found

/-- A new loader leads to a module of its own, which is new. -/
theorem loader_perform_of_mints (mints : machine.Mints operation loader) :
    (machine.perform operation).graph.loaders.get? loader = some (machine.nextId + 1) := by
  obtain ⟨name, layer, rfl, rfl⟩ := mints
  exact (Table.get?_set ..).trans (if_pos rfl)

/-! ## A run -/

theorem mintsIn_cons : machine.MintsIn (operation :: operations) loader ↔
    machine.Mints operation loader ∨ (machine.perform operation).MintsIn operations loader :=
  happensIn_cons fun before operation => before.Mints operation loader

/-- No run mints a loader under a number that was handed out before. -/
theorem not_mintsIn_of_lt (sound : machine.Sound) (old : loader < machine.nextId) :
    ¬ machine.MintsIn operations loader := by
  rintro ⟨earlier, operation, later, -, name, layer, -, minted⟩
  have grown := (extends_of_reaches (reaches_run machine earlier) sound).nextId
  omega

/-- What a run leaves alone. -/
theorem loader_run_of_spared (found : machine.graph.loaders.get? loader = some id)
    (spared : ¬ machine.MintsIn operations loader) :
    (machine.run operations).graph.loaders.get? loader = some id := by
  induction operations generalizing machine with
  | nil => exact found
  | cons operation rest ih =>
    rw [mintsIn_cons, not_or] at spared
    exact ih (loader_effect (effect_perform machine operation) found spared.1) spared.2

/-- An entry outlives a run just when the run mints no loader under its number. What a new loader
leads to is new, and no later operation brings the old module back. -/
theorem loader_run_iff (sound : machine.Sound)
    (found : machine.graph.loaders.get? loader = some id) :
    (machine.run operations).graph.loaders.get? loader = some id ↔
      ¬ machine.MintsIn operations loader := by
  refine ⟨?_, loader_run_of_spared found⟩
  rintro kept ⟨earlier, operation, later, rfl, mints⟩
  have old : machine.nextId > id := by
    obtain ⟨record, recordFound, -⟩ := sound.loader_unnamed loader id found
    exact sound.below id record recordFound
  have first := extends_of_reaches (reaches_run machine earlier) sound
  have grows := grows_perform first.sound operation
  have grown := first.nextId
  have grown' := grows.nextId
  have written := loader_perform_of_mints mints
  have last := extends_of_reaches
    (reaches_run ((machine.run earlier).perform operation) later) (grows.sound first.sound)
  rw [run_append] at kept
  rcases last.loaders loader id kept with present | fresh
  · rw [written] at present
    have same : (machine.run earlier).nextId + 1 = id := Option.some.inj present
    omega
  · omega

/-! ## The module that a handle is told -/

/-- The unnamed module of a loader has no name, and the loader leads to it. -/
theorem unnamedModule_spec (machine : Machine) (loader : LoaderHandle) :
    (machine.unnamedModule loader).1.name = none ∧
      (machine.unnamedModule loader).2.graph.loaders.get? loader.id =
        some (machine.unnamedModule loader).1.id := by
  unfold unnamedModule
  split
  · rename_i id found
    exact ⟨rfl, found⟩
  · exact ⟨rfl, (Table.get?_set ..).trans (if_pos rfl)⟩

/-- A handle is told an old module just when its entry leads there. -/
theorem unnamedModule_eq_iff {handle : LoaderHandle} {module : ModuleHandle}
    (nameless : module.name = none) (old : module.id < machine.nextId) :
    (machine.unnamedModule handle).1 = module ↔
      machine.graph.loaders.get? handle.id = some module.id := by
  obtain ⟨id, name⟩ := module
  cases nameless
  unfold unnamedModule
  cases machine.graph.loaders.get? handle.id with
  | some present => simp [ModuleHandle.unnamed]
  | none =>
    have fresh : machine.nextId ≠ id := Nat.ne_of_gt old
    simp [ModuleHandle.unnamed, fresh]

/-- A handle that was told its unnamed module is told the same one after a run, unless the run
mints a loader under its number. So it is for good when that number was handed out before, as
those of the machine's own loaders are. -/
theorem unnamedModule_again_iff (privileges : Privileges) (operations later : List Operation)
    (handle : LoaderHandle) :
    let machine := (start privileges).run operations
    let told := machine.unnamedModule handle
    (((told.2.run later).unnamedModule handle).1 = told.1 ↔ ¬ told.2.MintsIn later handle.id) ∧
      (handle.id < machine.nextId → ((told.2.run later).unnamedModule handle).1 = told.1) := by
  intro machine told
  have sound : machine.Sound := sound_run (sound_start privileges) operations
  have asking : Grows machine told.2 := grows_perform sound (.unnamedModule handle)
  have toldSound : told.2.Sound := asking.sound sound
  obtain ⟨nameless, leads⟩ := machine.unnamedModule_spec handle
  have old : told.1.id < (told.2.run later).nextId := by
    obtain ⟨record, found, -⟩ := toldSound.loader_unnamed _ _ leads
    have grown := (extends_of_reaches (reaches_run told.2 later) toldSound).nextId
    exact Nat.lt_of_lt_of_le (toldSound.below _ record found) grown
  have again : ((told.2.run later).unnamedModule handle).1 = told.1 ↔
      ¬ told.2.MintsIn later handle.id :=
    (unnamedModule_eq_iff nameless old).trans (loader_run_iff toldSound leads)
  refine ⟨again, fun handedOut => again.2 ?_⟩
  have grown := asking.nextId
  exact not_mintsIn_of_lt toldSound (by omega)

/-- A handle made elsewhere with the number two is told module one; then the machine makes the
loader two, and the handle is told another module. -/
theorem unnamedModule_ne_of_mints :
    let handle : LoaderHandle := ⟨2, "app"⟩
    let told := (start .none).unnamedModule handle
    ((told.2.run [.newLoader "other" none]).unnamedModule handle).1 ≠ told.1 := by
  decide

end Machine

end ModuleOpens
