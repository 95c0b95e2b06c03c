/-
# Proofs.Loading.Contract — what a loader promises over its whole life

A loader is asked for units one after the other, of any names and from a source
that may answer otherwise each time. Between loads it is settled: it fits its
history and nobody is busy. A load keeps that, so it holds after every list of
loads, and `Contract` says what follows for the history and for the next load.

* `settled_loadAll`: a settled loader is settled after more loads;
* `contract_of_loads`: the contract, after any loads of a new loader.
-/
import ModuleOpens.Proofs.Loading.Load

namespace ModuleOpens

set_option autoImplicit false

namespace UnitLoader

/-- Units are loaded one after the other: the loader at the end, and all that happened, these
loads among it. -/
def loadAll (loader : UnitLoader) (source : UnitSource) :
    List String → UnitLoader × List LoadStep
  | [] => (loader, [])
  | name :: rest =>
    let loaded := loader.load source name
    let later := loaded.2.loader.loadAll source rest
    (later.1, (loaded.2.came name loaded.1).steps ++ later.2)

/-- What the load of a name without a unit comes to. -/
inductive FirstLoad (name : String) : LoadAnswer × Loading → Prop
  /-- The source was asked, at the end it gave bytes, and they are those of the unit. -/
  | made {unit : DefinedUnit} {loading : Loading} (between : List LoadStep)
    (defined : loading.loader.find? name = some unit)
    (steps : loading.steps = .read name :: (between ++ [.gave name (some unit.bytes)])) :
    FirstLoad name (.unit unit, loading)
  /-- It gave nothing, and there still is no unit. -/
  | missed {loading : Loading} (between : List LoadStep)
    (undefined : loading.loader.find? name = none)
    (steps : loading.steps = .read name :: (between ++ [.gave name none])) :
    FirstLoad name (.failure (.notFound name), loading)
  /-- The reader was torn away, and there still is no unit. -/
  | torn {loading : Loading} (between : List LoadStep)
    (undefined : loading.loader.find? name = none)
    (steps : loading.steps = .read name :: between) :
    FirstLoad name (.torn, loading)

/-- What a loader with this history promises. -/
structure Contract (source : UnitSource) (handle : LoaderHandle) (loader : UnitLoader)
    (history : List LoadStep) : Prop where
  /-- No name is being loaded. -/
  idle : loader.pending = 0
  /-- As many units are defined as there are names that some load gave a unit for. -/
  counted : {name | ∃ unit pending, LoadStep.loaded name unit pending ∈ history}.encard =
    loader.definedCount
  /-- Bytes that the source gives are the first that it gives for the name; they make the unit of
  this loader, and nothing happens with that name any more but loads that give this unit. -/
  defines : ∀ before name bytes after, history = before ++ .gave name (some bytes) :: after →
    (∀ step ∈ before, step.name = name → ¬ step.Brings) ∧
    ∃ unit, loader.find? name = some unit ∧ unit.name = name ∧ unit.loader = handle ∧
      unit.bytes = bytes ∧
      ∀ step ∈ after, step.name = name → ∃ pending, step = .loaded name unit pending
  /-- Nothing else defines a unit. -/
  origin : ∀ name unit, loader.find? name = some unit →
    .gave name (some unit.bytes) ∈ history
  /-- Where the source gives nothing, the load that asked fails for that reason. -/
  missing : ∀ before name after, history = before ++ .gave name none :: after →
    ∃ pending rest, after = .failed name (.notFound name) pending :: rest
  /-- Every other failure is one of coordination. -/
  failures : ∀ before name error pending after,
    history = before ++ .failed name error pending :: after →
    (error = .notFound name ∧ ∃ front, before = front ++ [.gave name none]) ∨
      ∃ reason, error = .coordination name reason
  /-- A unit that is defined is never replaced. -/
  kept : ∀ name unit, loader.find? name = some unit → ∀ names,
    (loader.loadAll source names).1.find? name = some unit
  /-- Its next load gives it, and asks nobody. -/
  known : ∀ name unit, loader.find? name = some unit →
    (loader.load source name).1 = .unit unit ∧ (loader.load source name).2.steps = []
  /-- The next load of any other name asks the source. -/
  unknown : ∀ name, loader.find? name = none → FirstLoad name (loader.load source name)
  /-- A source that answers at once decides that load alone; it is asked for the name for the
  time that the history counts. -/
  answered : ∀ name bytes, loader.find? name = none →
    source.reading name (history.count (.read name)) = .give bytes →
    (loader.load source name).2.steps = [.read name, .gave name bytes]

/-! ## Between loads -/

/-- The loader fits its history, and nobody is busy. -/
structure Settled (handle : LoaderHandle) (history : List LoadStep) (loader : UnitLoader) :
    Prop where
  sound : Loading.Sound handle history (.start loader)
  free : ∀ name, (Loading.start loader).owner? name = none

variable {source : UnitSource} {handle : LoaderHandle} {history : List LoadStep}
  {loader : UnitLoader} {name : String} {unit : DefinedUnit}

theorem settled_new (handle : LoaderHandle) (listeners : Nat) (wait : Duration) :
    Settled handle [] (new handle listeners wait) where
  sound := ⟨rfl, Exclusive.Desk.orderly_empty, fun _ _ busy => (nomatch busy), .start, fun _ => rfl⟩
  free _ := rfl

theorem Settled.tells (settled : Settled handle history loader) :
    Tells handle history loader.defined := by
  have tells := settled.sound.tells
  rwa [show (Loading.start loader).steps = [] from rfl, List.append_nil] at tells

/-- Sound work that took no registrations leaves its loader settled. -/
theorem settled_of_sound {loading : Loading} (sound : Loading.Sound handle history loading)
    (free : ∀ name, loading.owner? name = none) :
    Settled handle (history ++ loading.steps) loading.loader where
  sound :=
    { own := sound.own
      orderly := sound.orderly
      busy := sound.busy
      tells := by
        show Tells handle (history ++ loading.steps ++ []) loading.loader.defined
        rw [List.append_nil]
        exact sound.tells
      reads := fun name => by
        show _ = (history ++ loading.steps ++ []).count (LoadStep.read name)
        rw [List.append_nil]
        exact sound.reads name }
  free := free

/-- A load from outside has all the depth that the source allows, and one more. -/
theorem load_eq_start (loader : UnitLoader) (source : UnitSource) (name : String) :
    loader.load source name = Loading.load source (source.nesting + 1) name (.start loader) := rfl

/-- A load leaves a settled loader settled. -/
theorem Settled.load (settled : Settled handle history loader) (source : UnitSource)
    (name : String) :
    let loaded := loader.load source name
    Settled handle (history ++ (loaded.2.came name loaded.1).steps) loaded.2.loader := by
  intro loaded
  obtain ⟨sound, onward⟩ :=
    Loading.keeps_load handle history source (source.nesting + 1) name _ settled.sound
  have after := settled_of_sound sound fun other => (onward.owner other).trans (settled.free other)
  rw [Loading.loader_came] at after
  rw [show loaded = _ from loader.load_eq_start source name]
  exact after

theorem settled_loadAll (settled : Settled handle history loader) (source : UnitSource)
    (names : List String) :
    Settled handle (history ++ (loader.loadAll source names).2)
      (loader.loadAll source names).1 := by
  induction names generalizing loader history with
  | nil =>
    rw [loadAll, List.append_nil]
    exact settled
  | cons name rest ih =>
    rw [loadAll, ← List.append_assoc]
    exact ih (settled.load source name)

/-! ## The next load -/

theorem Settled.load_known (settled : Settled handle history loader)
    (known : loader.find? name = some unit) (source : UnitSource) :
    (loader.load source name).1 = .unit unit ∧ (loader.load source name).2.steps = [] := by
  obtain ⟨desk, -, -, loaded⟩ :=
    Loading.load_of_found settled.sound.orderly known source source.nesting
  rw [load_eq_start, loaded]
  exact ⟨rfl, rfl⟩

/-- The load of a name without a unit asks the source, and comes to what its reading comes to. -/
theorem Settled.load_unknown (settled : Settled handle history loader)
    (unknown : loader.find? name = none) (source : UnitSource) :
    FirstLoad name (loader.load source name) := by
  obtain ⟨id, rest, ended, sound, own, -, ⟨between, steps⟩, ending, asked⟩ :=
    Loading.load_of_free_ending (Loading.keeps_load handle history source source.nesting)
      settled.sound unknown (settled.free name)
  obtain ⟨desk, -, -, left⟩ := Loading.conclude_of_ending sound.orderly own ending
  have still := sound.busy name id own
  have steps : rest.steps = .read name :: between := steps.symm
  rw [load_eq_start, asked, left]
  cases ending with
  | torn => exact .torn between still steps
  | missed =>
    refine .missed between still ?_
    show rest.steps ++ _ = _
    rw [steps]
    rfl
  | made bytes =>
    refine .made between ?_ ?_
    · show (rest.loader.defined.set name _).get? name = _
      rw [Table.get?_set, if_pos rfl]
      rfl
    · show rest.steps ++ _ = _
      rw [steps]
      rfl

theorem Settled.steps_of_give (settled : Settled handle history loader)
    {bytes : Option (List UInt8)} (unknown : loader.find? name = none)
    (gives : source.reading name (history.count (.read name)) = .give bytes) :
    (loader.load source name).2.steps = [.read name, .gave name bytes] := by
  have count : (loader.reads.get? name).getD 0 = history.count (.read name) := by
    have reads := settled.sound.reads name
    rwa [show (Loading.start loader).steps = [] from rfl, List.append_nil] at reads
  rw [← count] at gives
  rw [load_eq_start]
  exact Loading.steps_of_give settled.sound.orderly unknown (settled.free name) gives source.nesting

/-! ## The contract -/

/-- After any loads of a new loader, from any source, it keeps its contract. -/
theorem contract_of_loads (source : UnitSource) (handle : LoaderHandle) (listeners : Nat)
    (wait : Duration) (names : List String) :
    let loads := (new handle listeners wait).loadAll source names
    Contract source handle loads.1 loads.2 := by
  intro loads
  have settled : Settled handle loads.2 loads.1 :=
    settled_loadAll (settled_new handle listeners wait) source names
  have tells := settled.tells
  exact {
    idle := Table.size_eq_zero_of_get? settled.free
    counted := tells.encard_loaded
    defines := by
      intro before name bytes after split
      have later := tells.later
      rw [split, List.pairwise_append, List.pairwise_cons] at later
      obtain ⟨-, ⟨afterwards, -⟩, across⟩ := later
      have member : LoadStep.gave name (some bytes) ∈ loads.2 := by
        rw [split]
        exact List.mem_append_right _ List.mem_cons_self
      obtain ⟨unit, known, made, -⟩ := tells.known_of_brings member trivial
      obtain ⟨named, own, -⟩ := tells.told_of_known known
      refine ⟨?_, unit, known, named, own, made bytes rfl, ?_⟩
      · intro step earlier about brings
        -- After a step that brings, the bytes could not have been given once more.
        obtain ⟨given, pending, other⟩ :=
          across step earlier _ List.mem_cons_self brings about.symm
        cases other
      · intro step member about
        obtain ⟨given, pending, loaded⟩ := afterwards step member trivial about
        have told : LoadStep.loaded name given pending ∈ loads.2 := by
          rw [split]
          exact List.mem_append_right _ (List.mem_cons_of_mem _ (loaded ▸ member))
        cases (tells.loaded_iff.1 ⟨pending, told⟩).symm.trans known
        exact ⟨pending, loaded⟩
    origin := fun name unit known => (tells.told_of_known known).2.2.1
    missing := fun before name after split => tells.after_missed split
    failures := fun before name error pending after split => tells.before_failed split
    kept := by
      intro name unit known more
      obtain ⟨pending, member⟩ := tells.loaded_iff.2 known
      have later := (settled_loadAll settled source more).tells
      exact later.loaded_iff.1 ⟨pending, List.mem_append_left _ member⟩
    known := fun name unit known => settled.load_known known source
    unknown := fun name unknown => settled.load_unknown unknown source
    answered := fun name bytes unknown gives => settled.steps_of_give unknown gives }

/-- The source has the unit at its second look only. -/
example :
    let source : UnitSource :=
      { reading := fun _ count => .give (if count = 0 then none else some [7])
        resource := fun _ => none
        hasResource := fun _ => false
        nesting := 0 }
    let unit : DefinedUnit := ⟨"u", ⟨1, "gen-1"⟩, [7], 1⟩
    ((new ⟨1, "gen-1"⟩ 0 (.ofSeconds 5)).loadAll source ["u", "u", "u"]).2 =
      [.read "u", .gave "u" none, .failed "u" (.notFound "u") 0,
        .read "u", .gave "u" (some [7]), .loaded "u" unit 0, .loaded "u" unit 0] := by
  decide

end UnitLoader

end ModuleOpens
