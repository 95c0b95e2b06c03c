/-
# Proofs.Loading.Counts — a limiter counts the calls that are made

A loader tells its listeners of a call before anything else, whatever becomes of it:
one event for each call, also for the loads that a source makes while it reads a unit.
`loads` names those, following the readings; `made` lists the calls that a call comes
to, and their events are all that the loader tells (`told_call`). A limiter counts
two of the four kinds, each under the name of its loader (`Counts`), and knows a
loader name from its first counted call on.

* `told_load`: a load tells of the loads that it comes to, itself the first;
* `Counts.observe`, `counts_run`: one more call, and any number of them;
* `counts_of_calls`: what the limiter of any loaders answers after any calls.
-/
import ModuleOpens.Loading.Shared
import ModuleOpens.Proofs.Loading.Load

namespace ModuleOpens

set_option autoImplicit false

namespace Loading

/-- The names of the loads that a reading makes, and of those inside them: `load` is how it
loads, and `loads` gives the names that one load comes to. -/
def loadsOf (load : String → Loading → LoadAnswer × Loading)
    (loads : String → Loading → List String) : UnitReading → Loading → List String
  | .torn, _ => []
  | .give _, _ => []
  | .load need next, loading =>
    let (answer, after) := load need loading
    loads need loading ++ loadsOf load loads (next answer) (after.came need answer)

/-- The names of the loads that a load comes to: its own, and then those that the source makes
while it reads the unit. -/
def loads (source : UnitSource) : Nat → String → Loading → List String
  | 0, _, _ => []
  | depth + 1, name, loading =>
    let finding := loading.loader.finding name
    let desk := (loading.loader.desk.approach name finding finding).2
    let entered := (loading.tell (loading.loader.event .loadUnit name)).withDesk desk
    let inside := match desk.phase loading.loader.desk.nextId with
      | .producing =>
        let asked := entered.ask source name
        loadsOf (load source depth) (loads source depth) asked.1 asked.2
      | _ => []
    name :: inside

/-- Between the two, the listeners of the loader were told of loads of these names. -/
structure Told (before after : Loading) (names : List String) : Prop where
  handle : after.loader.handle = before.loader.handle
  told : after.told = before.told ++ names.map (before.loader.event .loadUnit)

variable {source : UnitSource} {first second third loading : Loading}
  {names more : List String}

theorem Told.silent (handle : second.loader.handle = first.loader.handle)
    (told : second.told = first.told) : Told first second [] :=
  ⟨handle, told.trans (List.append_nil _).symm⟩

theorem Told.trans (early : Told first second names) (late : Told second third more) :
    Told first third (names ++ more) where
  handle := late.handle.trans early.handle
  told := by
    have event : second.loader.event = first.loader.event := by
      funext hook name
      rw [UnitLoader.event, UnitLoader.event, early.handle]
    rw [late.told, early.told, event, List.map_append, List.append_assoc]

/-- A step that tells nothing may come after. -/
theorem Told.then_silent (early : Told first second names)
    (handle : third.loader.handle = second.loader.handle) (told : third.told = second.told) :
    Told first third names := by
  have late := early.trans (.silent handle told)
  rwa [List.append_nil] at late

/-- A reading tells of the loads that it makes, if these tell of theirs. -/
theorem told_produce {load : String → Loading → LoadAnswer × Loading}
    {loads : String → Loading → List String}
    (tells : ∀ name loading, Told loading (load name loading).2 (loads name loading))
    (id : Exclusive.CallId) (name : String) (reading : UnitReading) :
    ∀ loading, Told loading (produce load id name reading loading).2
      (loadsOf load loads reading loading) := by
  induction reading with
  | give bytes => cases bytes <;> exact fun _ => .silent rfl rfl
  | torn => exact fun _ => .silent rfl rfl
  | load need next ih =>
    intro loading
    have made := tells need loading
    refine (made.then_silent ?_ ?_).trans (ih _ _)
    · rw [loader_came]
    · cases (load need loading).1 <;> rfl

/-- A load tells of the loads that it comes to, of itself before any other. The induction is on the
depth, and where the load asks the source it goes on along the reading. -/
theorem told_load (source : UnitSource) (depth : Nat) : ∀ name loading,
    Told loading (load source depth name loading).2 (loads source depth name loading) := by
  induction depth with
  | zero => exact fun _ _ => .silent rfl rfl
  | succ depth ih =>
    intro name loading
    have entered (desk : Exclusive.Desk DefinedUnit LoadError) : Told loading
        ((loading.tell (loading.loader.event .loadUnit name)).withDesk desk) [name] := ⟨rfl, rfl⟩
    rw [load_eq, loads]
    dsimp only
    generalize (loading.loader.desk.approach name _ _).2 = desk
    cases desk.phase loading.loader.desk.nextId with
    | finished answer => exact entered desk
    | producing =>
      let asked := ((loading.tell (loading.loader.event .loadUnit name)).withDesk desk).ask
        source name
      have asking : Told loading asked.2 [name] := (entered desk).then_silent rfl rfl
      have reading := told_produce ih loading.loader.desk.nextId name asked.1 asked.2
      exact (asking.trans reading).then_silent rfl rfl
    | _ => exact (entered desk).then_silent rfl rfl

end Loading

/-! ## The calls that are made -/

/-- The call that makes such a count go up. -/
def Counted.call : Counted → String → LoaderCall
  | .resource => .resource
  | .unit => .unit

/-- A call that was made of a loader with this name. -/
structure MadeCall where
  loader : String
  call : LoaderCall
  deriving DecidableEq, Repr

/-- The event that a call is told with. -/
def MadeCall.event (made : MadeCall) : LoaderEvent :=
  match made.call with
  | .unit name => ⟨.loadUnit, name, made.loader⟩
  | .resource name => ⟨.openResource, name, made.loader⟩
  | .url name => ⟨.findUrl, name, made.loader⟩
  | .urls name => ⟨.listUrls, name, made.loader⟩

/-- Units that are loaded and resources that are read are counted, and places are not. -/
def LoaderCall.isCounted : LoaderCall → Bool
  | .unit _ => true
  | .resource _ => true
  | .url _ => false
  | .urls _ => false

/-- A unit was loaded, or a resource read, through a loader of this name. -/
def Seen (made : List MadeCall) (loader : String) : Prop :=
  ∃ call ∈ made, call.loader = loader ∧ call.call.isCounted = true

instance (made : List MadeCall) (loader : String) : Decidable (Seen made loader) :=
  inferInstanceAs (Decidable (∃ call ∈ made, call.loader = loader ∧ call.call.isCounted = true))

/-- The calls that a call of a loader comes to: the call itself and, when a unit is loaded, the
loads that the source makes while it reads. -/
def UnitLoader.made (loader : UnitLoader) (source : UnitSource) : LoaderCall → List MadeCall
  | .unit name =>
    (Loading.loads source (source.nesting + 1) name (.start loader)).map fun name =>
      ⟨loader.handle.name, .unit name⟩
  | call => [⟨loader.handle.name, call⟩]

/-- The calls that are made of loaders, in the order in which they begin. -/
def SharedLimiter.made (shared : SharedLimiter) : List PlacedCall → List MadeCall
  | [] => []
  | placed :: rest =>
    let now := match shared.loaders[placed.place]? with
      | none => []
      | some loader => loader.made placed.source placed.call
    now ++ (shared.call placed).made rest

/-- The names of the loaders, in their places. -/
def SharedLimiter.names (shared : SharedLimiter) : List String :=
  shared.loaders.map fun loader => loader.handle.name

/-- The calls that loaders of these names, in their places, are asked for from outside. -/
def askedFor (names : List String) (calls : List PlacedCall) : List MadeCall :=
  calls.filterMap fun placed => names[placed.place]?.map fun name => ⟨name, placed.call⟩

/-- A call comes to itself before any other. -/
theorem exists_made_eq_cons (loader : UnitLoader) (source : UnitSource) (call : LoaderCall) :
    ∃ inside, loader.made source call = ⟨loader.handle.name, call⟩ :: inside := by
  cases call with
  | unit name =>
    rw [UnitLoader.made, Loading.loads]
    exact ⟨_, List.map_cons⟩
  | resource name => exact ⟨[], rfl⟩
  | url name => exact ⟨[], rfl⟩
  | urls name => exact ⟨[], rfl⟩

/-- A unit is loaded with all the depth that the source allows, and one more. -/
theorem call_unit (loader : UnitLoader) (source : UnitSource) (name : String) :
    loader.call source (.unit name) =
      ((Loading.load source (source.nesting + 1) name (.start loader)).2.loader,
        (Loading.load source (source.nesting + 1) name (.start loader)).2.told) := by
  rw [UnitLoader.call, UnitLoader.load]

theorem handle_call (loader : UnitLoader) (source : UnitSource) (call : LoaderCall) :
    (loader.call source call).1.handle = loader.handle := by
  cases call with
  | unit name =>
    have told := Loading.told_load source (source.nesting + 1) name (.start loader)
    rw [call_unit]
    dsimp only
    rw [told.handle]
    rfl
  | resource name => rfl
  | url name => rfl
  | urls name => rfl

/-- A call leaves every loader its name. -/
theorem names_call (shared : SharedLimiter) (placed : PlacedCall) :
    (shared.call placed).names = shared.names := by
  rw [SharedLimiter.call]
  cases present : shared.loaders[placed.place]? with
  | none => rfl
  | some loader =>
    have named : shared.names[placed.place]? = some loader.handle.name := by
      rw [SharedLimiter.names, List.getElem?_map, present]
      rfl
    obtain ⟨inside, same⟩ := List.getElem?_eq_some_iff.1 named
    show (shared.loaders.set placed.place _).map _ = shared.names
    rw [List.map_set, handle_call, ← same]
    exact List.set_getElem_self inside

/-- What is asked for from outside is among the calls that are made, in the same order. -/
theorem askedFor_sublist_made (shared : SharedLimiter) (calls : List PlacedCall) :
    (askedFor shared.names calls).Sublist (shared.made calls) := by
  induction calls generalizing shared with
  | nil => exact List.Sublist.refl []
  | cons placed rest ih =>
    have later := ih (shared.call placed)
    rw [names_call] at later
    rw [askedFor, List.filterMap_cons, SharedLimiter.made, SharedLimiter.names,
      List.getElem?_map]
    cases shared.loaders[placed.place]? with
    | none => exact later
    | some loader =>
      obtain ⟨inside, made⟩ := exists_made_eq_cons loader placed.source placed.call
      dsimp only [Option.map_some]
      rw [made]
      exact (later.trans (List.sublist_append_right inside _)).cons_cons _

/-- A loader tells of the calls that a call comes to, and of nothing else. -/
theorem told_call (loader : UnitLoader) (source : UnitSource) (call : LoaderCall) :
    (loader.call source call).2 = (loader.made source call).map MadeCall.event := by
  cases call with
  | unit name =>
    have told := Loading.told_load source (source.nesting + 1) name (.start loader)
    rw [call_unit]
    dsimp only
    rw [told.told, UnitLoader.made, List.map_map]
    rfl
  | resource name => rfl
  | url name => rfl
  | urls name => rfl

/-! ## What a limiter counts -/

/-- A limiter knows the loaders that these calls were made of, and counts the calls. -/
structure Counts (limiter : Limiter) (made : List MadeCall) : Prop where
  known : ∀ loader, loader ∈ limiter.loaders.keys ↔ Seen made loader
  counts : ∀ what loader name, ((limiter.loaders.get? loader).getD .empty).get what name =
    made.count ⟨loader, Counted.call what name⟩

variable {limiter : Limiter} {made : List MadeCall}

theorem counts_empty : Counts .empty [] where
  known loader := by simp [Seen, Limiter.empty, Table.empty, Table.keys]
  counts what _ _ := by cases what <;> rfl

theorem seen_append_singleton (made : List MadeCall) (call : MadeCall) (loader : String) :
    Seen (made ++ [call]) loader ↔
      Seen made loader ∨ call.loader = loader ∧ call.call.isCounted = true := by
  simp only [Seen, List.mem_append, List.mem_singleton, or_and_right, exists_or, exists_eq_left]

theorem exists_counted {call : LoaderCall} (counted : call.isCounted = true) :
    ∃ what name, call = Counted.call what name := by
  cases call with
  | unit name => exact ⟨.unit, name, rfl⟩
  | resource name => exact ⟨.resource, name, rfl⟩
  | url name => cases counted
  | urls name => cases counted

/-- A call that is counted adds one to its own count, and its loader is known from then on. -/
theorem Counts.observe_counted (counts : Counts limiter made) (origin : String) (what : Counted)
    (asked : String) : Counts (limiter.observe (MadeCall.event ⟨origin, what.call asked⟩))
      (made ++ [⟨origin, what.call asked⟩]) := by
  have observed : limiter.observe (MadeCall.event ⟨origin, what.call asked⟩) =
      ⟨limiter.loaders.alter origin fun present => (present.getD .empty).add what asked⟩ := by
    cases what <;> rfl
  have counted : (what.call asked).isCounted = true := by
    cases what <;> rfl
  rw [observed]
  constructor
  · intro loader
    rw [Table.alter, Table.keys_set, mem_addNew, counts.known, seen_append_singleton]
    simp [counted, eq_comm]
  · intro other loader name
    rw [Table.get?_alter, List.count_append, ← counts.counts]
    by_cases same : loader = origin
    · subst same
      rw [if_pos rfl, Option.getD_some, LoaderCounts.get_add]
      cases what <;> cases other <;> simp [Counted.call, List.count_singleton]
    · rw [if_neg same, List.count_singleton]
      simp [Ne.symm same]

/-- Any other call changes no count. -/
theorem Counts.observe_uncounted (counts : Counts limiter made) {call : MadeCall}
    (uncounted : call.call.isCounted = false) :
    Counts (limiter.observe call.event) (made ++ [call]) := by
  have observed : limiter.observe call.event = limiter := by
    obtain ⟨origin, kind⟩ := call
    cases kind with
    | unit name => cases uncounted
    | resource name => cases uncounted
    | url name => rfl
    | urls name => rfl
  rw [observed]
  constructor
  · intro loader
    rw [counts.known, seen_append_singleton]
    simp [uncounted]
  · intro what loader name
    have other : call ≠ ⟨loader, what.call name⟩ := by
      rintro rfl
      cases what <;> cases uncounted
    rw [counts.counts, List.count_append, List.count_singleton]
    simp [other]

theorem Counts.observe (counts : Counts limiter made) (call : MadeCall) :
    Counts (limiter.observe call.event) (made ++ [call]) := by
  cases counted : call.call.isCounted with
  | false => exact counts.observe_uncounted counted
  | true =>
    obtain ⟨origin, kind⟩ := call
    obtain ⟨what, asked, rfl⟩ := exists_counted counted
    exact counts.observe_counted origin what asked

theorem Counts.observeAll (counts : Counts limiter made) (calls : List MadeCall) :
    Counts (limiter.observeAll (calls.map MadeCall.event)) (made ++ calls) := by
  induction calls generalizing limiter made with
  | nil =>
    rw [List.append_nil]
    exact counts
  | cons call rest ih =>
    have later := ih (counts.observe call)
    rwa [List.append_assoc] at later

/-- A limiter that its loaders share counts the calls that are made of them. -/
theorem counts_run {shared : SharedLimiter} (counts : Counts shared.limiter made)
    (calls : List PlacedCall) :
    Counts (shared.run calls).limiter (made ++ shared.made calls) := by
  induction calls generalizing shared made with
  | nil =>
    rw [SharedLimiter.made, List.append_nil]
    exact counts
  | cons placed rest ih =>
    rw [SharedLimiter.made, ← List.append_assoc]
    refine ih ?_
    rw [SharedLimiter.call]
    cases shared.loaders[placed.place]? with
    | none =>
      rw [List.append_nil]
      exact counts
    | some loader =>
      dsimp only
      rw [told_call]
      exact counts.observeAll _

/-- What a limiter answers that counts these calls. -/
theorem Counts.count_eq (counts : Counts limiter made) (what : Counted) (loader name : String) :
    limiter.count what loader name =
      if Seen made loader then .ok (made.count ⟨loader, what.call name⟩)
      else .error (.unknownLoader loader limiter.observed) := by
  have known := counts.known loader
  have count := counts.counts what loader name
  rw [Limiter.count]
  cases present : limiter.loaders.get? loader with
  | some table =>
    rw [present] at count
    rw [if_pos (known.1 (Table.mem_keys_iff.2 ⟨table, present⟩)), ← count]
    rfl
  | none =>
    rw [if_neg]
    intro seen
    obtain ⟨table, there⟩ := Table.mem_keys_iff.1 (known.2 seen)
    cases present.symm.trans there

/-- Loaders share a new limiter, and are called in any order for units, resources and places,
whatever comes of it. All these calls are made, and with them the loads of sources while they read.
For units and for resources, the limiter gives the number of the calls that were made with a name of
loaders of some name. It gives none just when no unit and no resource was asked of such a loader, and
then lists the names of the loaders that were asked for any, each once and in order. -/
theorem SharedLimiter.counts_of_calls (loaders : List UnitLoader) (calls : List PlacedCall) :
    let start : SharedLimiter := ⟨loaders, .empty⟩
    let limiter := (start.run calls).limiter
    let made := start.made calls
    (askedFor start.names calls).Sublist made ∧
      ∃ known : List String, known.Pairwise (· < ·) ∧
        (∀ loader, loader ∈ known ↔ Seen made loader) ∧
        ∀ what loader name, limiter.count what loader name =
          if Seen made loader then .ok (made.count ⟨loader, Counted.call what name⟩)
          else .error (.unknownLoader loader known) := by
  intro start limiter made
  -- The loaders may have been used before; the limiter is new.
  have unused : Counts start.limiter [] := counts_empty
  have counts : Counts limiter made := counts_run unused calls
  refine ⟨askedFor_sublist_made start calls, limiter.observed, ?_, fun loader => ?_,
    counts.count_eq⟩
  · refine (increasing_sortedSet strictOrder_textBefore limiter.loaders.keys).imp ?_
    intro first second before
    exact of_decide_eq_true before
  · rw [Limiter.observed, mem_sortedSet strictOrder_textBefore, counts.known]

/-- Of two loaders with one name, one loads a unit that needs another, which both are asked for
as well; the place of a unit does not count. -/
example :
    let source := UnitSource.ofTables
      (.ofList [("a", ⟨[], true, some [1]⟩), ("b", ⟨["a"], true, some [2]⟩)]) .empty none
    let start : SharedLimiter :=
      ⟨[.new ⟨1, "gen"⟩ 1 (.ofSeconds 5), .new ⟨2, "gen"⟩ 1 (.ofSeconds 5)], .empty⟩
    let limiter := (start.run [⟨0, source, .unit "b"⟩, ⟨1, source, .unit "a"⟩,
      ⟨0, source, .unit "a"⟩, ⟨0, source, .url "a"⟩]).limiter
    limiter.count .unit "gen" "a" = .ok 3 ∧
      limiter.count .resource "other" "a" = .error (.unknownLoader "other" ["gen"]) := by
  decide

end ModuleOpens
