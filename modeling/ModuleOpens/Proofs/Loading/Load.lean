/-
# Proofs.Loading.Load — what a load keeps

A load finds its unit, waits in vain for the load that it stands in, or asks the
source. In the last case its name is registered while the source reads, so that
no load inside it defines the unit; when the reading ends, at a state as sound as
the one that it began in, the unit is defined, missed, or left as it was. `Sound`
ties a loader to its history; a load adds passages to that history and gives
back every registration that it took. The induction is on the depth of loads and,
inside, on the reading.

* `produce_ending`: how a reading ends;
* `load_of_found`, `load_of_taken`, `load_of_free`: the three ways of a load;
* `keeps_load`: a load of any depth keeps the loader sound.
-/
import ModuleOpens.Proofs.Exclusive.Desk
import ModuleOpens.Proofs.Loading.History

namespace ModuleOpens.Loading

set_option autoImplicit false

open Exclusive (CallId Desk Product)

/-- The call that is busy with a name. -/
def owner? (loading : Loading) (name : String) : Option CallId :=
  loading.loader.desk.board.registrations.get? name

/-- The loader fits its history, the steps before this work and those in it: nobody is busy with
a name that has a unit, the units are those that the history tells, and each name was read as often
as the history says. -/
structure Sound (handle : LoaderHandle) (past : List LoadStep) (loading : Loading) : Prop where
  own : loading.loader.handle = handle
  orderly : loading.loader.desk.Orderly
  busy : ∀ name owner, loading.owner? name = some owner → loading.loader.find? name = none
  tells : Tells handle (past ++ loading.steps) loading.loader.defined
  reads : ∀ name,
    (loading.loader.reads.get? name).getD 0 = (past ++ loading.steps).count (.read name)

/-- Later work, with the same registrations. -/
structure Onward (loading after : Loading) : Prop where
  owner : ∀ name, after.owner? name = loading.owner? name
  steps : loading.steps <+: after.steps

theorem Onward.refl (loading : Loading) : Onward loading loading :=
  ⟨fun _ => rfl, List.prefix_rfl⟩

theorem Onward.trans {first second third : Loading} (early : Onward first second)
    (late : Onward second third) : Onward first third :=
  ⟨fun name => (late.owner name).trans (early.owner name), early.steps.trans late.steps⟩

/-- A way of loading that keeps a loader sound and gives back the registrations that it took. -/
def Keeps (handle : LoaderHandle) (past : List LoadStep)
    (load : String → Loading → LoadAnswer × Loading) : Prop :=
  ∀ name loading, Sound handle past loading →
    let result := load name loading
    Sound handle past (result.2.came name result.1) ∧
      Onward loading (result.2.came name result.1)

variable {source : UnitSource} {handle : LoaderHandle} {past : List LoadStep}
  {loading : Loading} {name : String} {unit : DefinedUnit} {id : CallId}

@[simp]
theorem loader_came (loading : Loading) (name : String) (answer : LoadAnswer) :
    (loading.came name answer).loader = loading.loader := by
  cases answer <;> rfl

/-! ## Passages -/

/-- A sound loader goes on by a passage in which nothing is read. -/
theorem Sound.pass (sound : Sound handle past loading) {after : Loading} {steps : List LoadStep}
    (kept : after.loader.handle = loading.loader.handle)
    (reads : after.loader.reads = loading.loader.reads)
    (orderly : after.loader.desk.Orderly)
    (busy : ∀ name owner, after.owner? name = some owner → after.loader.find? name = none)
    (added : after.steps = loading.steps ++ steps)
    (passage : Passage handle loading.loader.defined steps after.loader.defined)
    (silent : ∀ name, LoadStep.read name ∉ steps) : Sound handle past after where
  own := kept.trans sound.own
  orderly := orderly
  busy := busy
  tells := by
    rw [added, ← List.append_assoc]
    exact sound.tells.append passage
  reads name := by
    rw [reads, added, ← List.append_assoc, List.count_append, sound.reads name,
      List.count_eq_zero_of_not_mem (silent name), Nat.add_zero]

/-! ## How a reading ends -/

/-- How the reading of a unit ends: torn away, without bytes, or with the unit defined. -/
inductive Ending (id : CallId) (name : String) (rest : Loading) :
    Product DefinedUnit LoadError × Loading → Prop
  | torn : Ending id name rest (.torn, rest)
  | missed : Ending id name rest (.failure (.notFound name), rest.happen (.gave name none))
  | made (bytes : List UInt8) :
    Ending id name rest
      (.value ((rest.happen (.gave name (some bytes))).define id name bytes).1,
        ((rest.happen (.gave name (some bytes))).define id name bytes).2)

/-- A reading that makes its loads soundly comes to its end at a sound loader, with the
registrations that it began with. -/
theorem produce_ending {load : String → Loading → LoadAnswer × Loading}
    (keeps : Keeps handle past load) (id : CallId) (name : String) (reading : UnitReading) :
    ∀ {loading : Loading}, Sound handle past loading →
      ∃ rest, Sound handle past rest ∧ Onward loading rest ∧
        Ending id name rest (produce load id name reading loading) := by
  induction reading with
  | give bytes =>
    intro loading sound
    cases bytes with
    | none => exact ⟨loading, sound, .refl loading, .missed⟩
    | some bytes => exact ⟨loading, sound, .refl loading, .made bytes⟩
  | torn => exact fun {loading} sound => ⟨loading, sound, .refl loading, .torn⟩
  | load need next ih =>
    intro loading sound
    obtain ⟨came, onward⟩ := keeps need loading sound
    obtain ⟨rest, restSound, later, ending⟩ := ih _ came
    exact ⟨rest, restSound, onward.trans later, ending⟩

/-! ## The three ways of a load -/

/-- A load goes by where its call stands once it has come to the desk. -/
theorem load_eq (source : UnitSource) (depth : Nat) (name : String) (loading : Loading) :
    load source (depth + 1) name loading =
      let id := loading.loader.desk.nextId
      let finding := loading.loader.finding name
      let desk := (loading.loader.desk.approach name finding finding).2
      let entered := (loading.tell (loading.loader.event .loadUnit name)).withDesk desk
      match desk.phase id with
      | .finished answer => (entered.loader.answer name answer, entered)
      | .producing =>
        let asked := entered.ask source name
        let made := produce (load source depth) id name asked.1 asked.2
        made.2.conclude id name made.1
      | _ => entered.giveUp id name := by
  rw [load]
  rfl

theorem finding_of_unknown (unknown : loading.loader.find? name = none) :
    loading.loader.finding name = .nothing := by
  rw [UnitLoader.finding, unknown]

/-- A load of a defined unit gives it. -/
theorem load_of_found (orderly : loading.loader.desk.Orderly)
    (known : loading.loader.find? name = some unit) (source : UnitSource) (depth : Nat) :
    ∃ desk : Desk DefinedUnit LoadError, desk.Orderly ∧
      desk.board.registrations = loading.loader.desk.board.registrations ∧
      load source (depth + 1) name loading =
        (.unit unit, (loading.tell (loading.loader.event .loadUnit name)).withDesk desk) := by
  have finds : loading.loader.finding name = .found unit := by
    rw [UnitLoader.finding, known]
  obtain ⟨stands, same, after⟩ := orderly.approach_found name unit (.found unit)
  refine ⟨_, after, same, ?_⟩
  simp only [load_eq, finds, stands]
  rfl

theorem giveUp_eq {answer : Exclusive.Answer DefinedUnit LoadError}
    (phase : (loading.loader.desk.expire id).phase id = .finished answer) :
    loading.giveUp id name = (loading.loader.answer name answer,
      (loading.withDesk (loading.loader.desk.expire id)).report
        (Exclusive.gaveUp name loading.loader.wait)) := by
  show (loading.loader.answer name
    (((loading.loader.desk.expire id).phase id).answer?.getD .timeout), _) = _
  rw [phase]
  rfl

/-- A load of a unit that is being loaded waits in vain. -/
theorem load_of_taken (orderly : loading.loader.desk.Orderly)
    (unknown : loading.loader.find? name = none) {owner : CallId}
    (taken : loading.owner? name = some owner) (source : UnitSource) (depth : Nat) :
    ∃ (desk : Desk DefinedUnit LoadError) (reason : String), desk.Orderly ∧
      desk.board.registrations = loading.loader.desk.board.registrations ∧
      load source (depth + 1) name loading =
        (.failure (.coordination name reason),
          ((loading.tell (loading.loader.event .loadUnit name)).withDesk desk).report
            (Exclusive.gaveUp name loading.loader.wait)) := by
  obtain ⟨stands, same, waiting⟩ := orderly.approach_taken taken .nothing
  have still := (congrArg (Table.get? · name) same).trans taken
  obtain ⟨phase, kept, after⟩ := waiting.expire stands still
  let timeout : Exclusive.CallError LoadError := .timeout name loading.loader.wait
  refine ⟨_, timeout.message Diagnostic.message, after, kept.trans same, ?_⟩
  let entered := (loading.tell (loading.loader.event .loadUnit name)).withDesk
    (loading.loader.desk.approach name .nothing .nothing).2
  have ends : (entered.loader.desk.expire loading.loader.desk.nextId).phase
      loading.loader.desk.nextId = .finished .timeout := phase
  simp only [load_eq, finding_of_unknown unknown, stands]
  rw [giveUp_eq ends]
  rfl

/-- A load of a unit that nobody knows and nobody is loading asks the source. -/
theorem load_of_free (orderly : loading.loader.desk.Orderly)
    (unknown : loading.loader.find? name = none) (free : loading.owner? name = none)
    (source : UnitSource) (depth : Nat) :
    ∃ desk : Desk DefinedUnit LoadError, desk.Orderly ∧
      desk.board.registrations =
        loading.loader.desk.board.registrations.set name loading.loader.desk.nextId ∧
      load source (depth + 1) name loading =
        let asked := ((loading.tell (loading.loader.event .loadUnit name)).withDesk desk).ask
          source name
        let made := produce (load source depth) loading.loader.desk.nextId name asked.1 asked.2
        made.2.conclude loading.loader.desk.nextId name made.1 := by
  obtain ⟨stands, same, after⟩ := orderly.approach_free free
  refine ⟨_, after, same, ?_⟩
  simp only [load_eq, finding_of_unknown unknown, stands]

/-- A source that answers at once adds nothing but its answer. -/
theorem steps_of_give (orderly : loading.loader.desk.Orderly)
    (unknown : loading.loader.find? name = none) (free : loading.owner? name = none)
    {bytes : Option (List UInt8)}
    (gives : source.reading name ((loading.loader.reads.get? name).getD 0) = .give bytes)
    (depth : Nat) :
    (load source (depth + 1) name loading).2.steps =
      loading.steps ++ [.read name, .gave name bytes] := by
  obtain ⟨desk, -, -, result⟩ := load_of_free orderly unknown free source depth
  let entered := (loading.tell (loading.loader.event .loadUnit name)).withDesk desk
  have reading : (entered.ask source name).1 = .give bytes := gives
  rw [result]
  show (produce _ _ name (entered.ask source name).1 (entered.ask source name).2).2.steps = _
  rw [reading]
  cases bytes with
  | none => exact List.append_assoc _ _ _
  | some bytes => exact List.append_assoc _ _ _

/-- The call of a name has its producer come back, and the name is free. -/
theorem conclude_eq (loading : Loading) (orderly : loading.loader.desk.Orderly)
    (own : loading.owner? name = some id) (product : Product DefinedUnit LoadError) :
    ∃ desk : Desk DefinedUnit LoadError, desk.Orderly ∧
      desk.board.registrations = loading.loader.desk.board.registrations.erase name ∧
      loading.conclude id name product =
        (loading.loader.answer name product.answer, loading.withDesk desk) := by
  obtain ⟨phase, erased, after⟩ := orderly.conclude own product
  refine ⟨_, after, erased, ?_⟩
  show (loading.loader.answer name
    (((loading.loader.desk.conclude id product).phase id).answer?.getD .torn), _) = _
  rw [phase]
  rfl

/-- A reading has ended, and the call of its name leaves. -/
theorem conclude_of_ending {rest : Loading} {ended : Product DefinedUnit LoadError × Loading}
    (orderly : rest.loader.desk.Orderly) (own : rest.owner? name = some id)
    (ending : Ending id name rest ended) :
    ∃ desk : Desk DefinedUnit LoadError, desk.Orderly ∧
      desk.board.registrations = rest.loader.desk.board.registrations.erase name ∧
      ended.2.conclude id name ended.1 =
        (rest.loader.answer name ended.1.answer, ended.2.withDesk desk) := by
  cases ending with
  | torn => exact conclude_eq rest orderly own _
  | missed => exact conclude_eq (rest.happen _) orderly own _
  | made bytes =>
    exact conclude_eq ((rest.happen (.gave name (some bytes))).define id name bytes).2 orderly own _

/-! ## What a load keeps -/

/-- A call comes to the desk, where it may register for a name without a unit. -/
theorem Sound.enter (sound : Sound handle past loading) {desk : Desk DefinedUnit LoadError}
    (orderly : desk.Orderly)
    (busy : ∀ name owner, desk.board.registrations.get? name = some owner →
      loading.loader.find? name = none) (event : LoaderEvent) :
    Sound handle past ((loading.tell event).withDesk desk) :=
  ⟨sound.own, orderly, busy, sound.tells, sound.reads⟩

/-- A call comes and goes without registering. -/
theorem Sound.visit (sound : Sound handle past loading) {desk : Desk DefinedUnit LoadError}
    (orderly : desk.Orderly)
    (same : desk.board.registrations = loading.loader.desk.board.registrations)
    (event : LoaderEvent) : Sound handle past ((loading.tell event).withDesk desk) := by
  refine sound.enter orderly (fun name owner held => ?_) event
  rw [same] at held
  exact sound.busy name owner held

/-- The source is asked for a unit that there is not. -/
theorem Sound.ask (sound : Sound handle past loading)
    (unknown : loading.loader.find? name = none) (source : UnitSource) :
    Sound handle past (loading.ask source name).2 where
  own := sound.own
  orderly := sound.orderly
  busy := sound.busy
  tells := by
    show Tells handle (past ++ (loading.steps ++ [LoadStep.read name])) loading.loader.defined
    rw [← List.append_assoc]
    exact sound.tells.append (.read unknown)
  reads other := by
    show ((loading.loader.reads.set name ((loading.loader.reads.get? name).getD 0 + 1)).get?
        other).getD 0 =
      (past ++ (loading.steps ++ [LoadStep.read name])).count (LoadStep.read other)
    rw [Table.get?_set, ← List.append_assoc, List.count_append, ← sound.reads other]
    by_cases same : other = name
    · subst same
      simp
    · rw [if_neg same, List.count_singleton]
      simp [Ne.symm same]

/-- The call of a reading that has ended leaves, and the load comes back. -/
theorem Sound.leave {rest : Loading} {ended : Product DefinedUnit LoadError × Loading}
    (sound : Sound handle past rest) (own : rest.owner? name = some id)
    (ending : Ending id name rest ended) :
    let result := ended.2.conclude id name ended.1
    Sound handle past (result.2.came name result.1) ∧
      (∀ other, (result.2.came name result.1).owner? other =
        if other = name then none else rest.owner? other) ∧
      rest.steps <+: (result.2.came name result.1).steps := by
  obtain ⟨desk, orderly, erased, left⟩ := conclude_of_ending sound.orderly own ending
  have unknown := sound.busy name id own
  have owner (other : String) : desk.board.registrations.get? other =
      if other = name then none else rest.owner? other := by
    rw [erased]
    by_cases same : other = name
    · rw [if_pos same, same, Table.get?_erase_self sound.orderly.consistent.nodup]
    · rw [if_neg same, Table.get?_erase_of_ne same]
      rfl
  have busy (other : String) (holder : CallId)
      (held : desk.board.registrations.get? other = some holder) :
      other ≠ name ∧ rest.loader.find? other = none := by
    rw [owner] at held
    by_cases same : other = name
    · rw [if_pos same] at held
      cases held
    · rw [if_neg same] at held
      exact ⟨same, sound.busy other holder held⟩
  intro result
  rw [show result = _ from left]
  cases ending with
  | torn =>
    exact ⟨⟨sound.own, orderly, fun other holder held => (busy other holder held).2, sound.tells,
      sound.reads⟩, owner, List.prefix_rfl⟩
  | missed =>
    refine ⟨sound.pass rfl rfl orderly (fun other holder held => (busy other holder held).2)
      (List.append_assoc _ _ _) (.missed unknown _) ?_, owner, ?_⟩
    · simp
    · exact (List.prefix_append _ _).trans (List.prefix_append _ _)
  | made bytes =>
    let unit : DefinedUnit := ⟨name, rest.loader.handle, bytes, id⟩
    have passage : Passage handle rest.loader.defined
        [.gave name (some bytes), .loaded name unit desk.board.pending]
        (rest.loader.defined.set name unit) :=
      @Passage.made handle rest.loader.defined unit unknown sound.own _
    refine ⟨sound.pass rfl rfl orderly ?_ (List.append_assoc _ _ _) passage ?_, owner, ?_⟩
    · intro other holder held
      obtain ⟨different, free⟩ := busy other holder held
      show (rest.loader.defined.set name unit).get? other = none
      rw [Table.get?_set, if_neg different]
      exact free
    · simp
    · exact (List.prefix_append _ _).trans (List.prefix_append _ _)

/-- A load that asks the source: its reading ends at a sound loader, and its call leaves. -/
theorem load_of_free_ending {depth : Nat} (keeps : Keeps handle past (load source depth))
    (sound : Sound handle past loading) (unknown : loading.loader.find? name = none)
    (free : loading.owner? name = none) :
    ∃ id rest ended, Sound handle past rest ∧ rest.owner? name = some id ∧
      (∀ other, other ≠ name → rest.owner? other = loading.owner? other) ∧
      loading.steps ++ [.read name] <+: rest.steps ∧ Ending id name rest ended ∧
      load source (depth + 1) name loading = ended.2.conclude id name ended.1 := by
  obtain ⟨desk, orderly, registered, result⟩ := load_of_free sound.orderly unknown free source depth
  let entered := (loading.tell (loading.loader.event .loadUnit name)).withDesk desk
  have owner (other : String) : entered.owner? other =
      if other = name then some loading.loader.desk.nextId else loading.owner? other := by
    show desk.board.registrations.get? other = _
    rw [registered, Table.get?_set]
    rfl
  have enteredSound : Sound handle past entered := by
    refine sound.enter orderly (fun other holder held => ?_) _
    have held : entered.owner? other = some holder := held
    rw [owner] at held
    by_cases same : other = name
    · rw [same]
      exact unknown
    · rw [if_neg same] at held
      exact sound.busy other holder held
  obtain ⟨rest, restSound, onward, ending⟩ := produce_ending keeps loading.loader.desk.nextId name
    (source.reading name ((loading.loader.reads.get? name).getD 0))
    (enteredSound.ask unknown source)
  have ownerRest (other : String) : rest.owner? other = entered.owner? other := onward.owner other
  refine ⟨loading.loader.desk.nextId, rest, _, restSound, ?_, ?_, onward.steps, ending,
    result⟩
  · rw [ownerRest, owner, if_pos rfl]
  · intro other different
    rw [ownerRest, owner, if_neg different]

/-- A load of any depth keeps a loader sound, and gives back the registrations that it took. -/
theorem keeps_load (handle : LoaderHandle) (past : List LoadStep) (source : UnitSource)
    (depth : Nat) : Keeps handle past (load source depth) := by
  induction depth with
  | zero => exact fun name loading sound => ⟨sound, .refl loading⟩
  | succ depth ih =>
    intro name loading sound result
    cases known : loading.loader.find? name with
    | some unit =>
      obtain ⟨desk, orderly, same, loaded⟩ := load_of_found sound.orderly known source depth
      rw [show result = _ from loaded]
      have entered := sound.visit orderly same (loading.loader.event .loadUnit name)
      exact ⟨entered.pass rfl rfl orderly entered.busy rfl (.found known _) (by simp),
        fun other => congrArg (Table.get? · other) same, List.prefix_append _ _⟩
    | none =>
      cases taken : loading.owner? name with
      | some owner =>
        obtain ⟨desk, reason, orderly, same, refused⟩ :=
          load_of_taken sound.orderly known taken source depth
        rw [show result = _ from refused]
        have entered := sound.visit orderly same (loading.loader.event .loadUnit name)
        exact ⟨entered.pass rfl rfl orderly entered.busy rfl (.refused known reason _) (by simp),
          fun other => congrArg (Table.get? · other) same, List.prefix_append _ _⟩
      | none =>
        obtain ⟨id, rest, ended, restSound, own, others, steps, ending, asked⟩ :=
          load_of_free_ending ih sound known taken
        obtain ⟨after, owner, later⟩ := restSound.leave own ending
        rw [show result = _ from asked]
        refine ⟨after, fun other => ?_, ?_⟩
        · rw [owner]
          by_cases same : other = name
          · rw [if_pos same, same, taken]
          · rw [if_neg same, others other same]
        · exact (List.prefix_append _ _).trans (steps.trans later)

end ModuleOpens.Loading
