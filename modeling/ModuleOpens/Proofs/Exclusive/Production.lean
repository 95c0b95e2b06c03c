/-
# Proofs.Exclusive.Production — a stored name is produced once

A call that looked before the value was there may come late, long after another
call has produced it and left. What makes a second production impossible is the
second check: the store is written while the name is registered, and whoever
registers next looks again.

* `Returned.eq_of_returned`: one producer at most comes back with a value;
* `Stocked.producible`, `Stocked.producible_of_leaving`: a name without a value can be produced;
* `production_happens_once`: both, and that every value answered is the stored one.
-/
import ModuleOpens.Proofs.Exclusive.Exclusivity
import ModuleOpens.Proofs.Exclusive.Store

namespace ModuleOpens.Exclusive

set_option autoImplicit false

variable {α ε : Type}

/-- The producer of a call for the name came back with a value after the actions `before`. -/
def Returned (store : Table String α) (name : String) (before : List (Action α ε)) (id : CallId)
    (value : α) (schedule : List (Action α ε)) : Prop :=
  (∃ after, schedule = before ++ .move (.produce id (.value value)) :: after) ∧
    (Shared.after store before).board.Produces name id

/-- How a call for the name that finds nothing comes to its producer. -/
def approach (id : CallId) (name : String) : List (Action α ε) :=
  [.move (.arrive id name), .move (.check id .nothing), .move (.enter id),
    .move (.check id .nothing)]

/-- A producer stores a value and comes back with it, and its call leaves. -/
def completion (id : CallId) (name : String) (value : α) : List (Action α ε) :=
  [.write id name value, .move (.produce id (.value value)), .move (.settle id),
    .move (.leave id)]

/-- What a call for the name does that finds nothing, from its coming to its leaving. -/
def production (id : CallId) (name : String) (value : α) : List (Action α ε) :=
  approach id name ++ completion id name value

/-- After the schedule, a call that comes now can produce any value for the name. -/
def Producible (store : Table String α) (name : String) (schedule : List (Action α ε)) : Prop :=
  ∀ id value, (Shared.after store schedule).board.calls.get? id = none →
    Obeys store name (schedule ++ production id name value) ∧
      (Shared.after store (schedule ++ production id name value)).board.phase? id =
        some (.finished (.value value))

variable {store : Table String α} {name : String} {schedule before : List (Action α ε)}

/-! ## One production -/

section Once

variable {id other : CallId} {value value' : α} {before' : List (Action α ε)}

/-- A producer comes back with what it has stored. -/
theorem Returned.wrote (returned : Returned store name before id value schedule)
    (obeys : Obeys store name schedule) : .write id name value ∈ before := by
  obtain ⟨⟨after, split⟩, produces⟩ := returned
  have accords := obeys before _ after split
  have wrote : some value = writtenBy id name before := accords produces
  exact mem_of_writtenBy wrote.symm

/-- A call whose producer has come back does not produce again. -/
theorem Returned.not_produces (returned : Returned store name before id value schedule)
    (more : List (Action α ε)) :
    ¬ (Shared.after store (before ++ .move (.produce id (.value value)) :: more)).board.Produces
      name id := by
  obtain ⟨-, call, found, named, phase⟩ := returned
  have stepped : ((Shared.after store before).board.step (.produce id (.value value))).calls.get? id =
      some (call.produced (.value value)) := by
    rw [(Board.Advance.produced found phase (.value value)).step_eq]
    exact Board.found_written rfl
  have given := (call.given?_produced (.value value)).2 rfl
  obtain ⟨after, afterFound, afterGiven⟩ := Board.given?_run stepped given (movesOf more)
  rintro ⟨present, presentFound, -, producing⟩
  rw [Shared.after_append, Shared.board_run] at presentFound
  cases presentFound.symm.trans afterFound
  rw [producing] at afterGiven
  cases afterGiven

/-- Of two producers of a name that come back with a value, the first is the second. -/
theorem Returned.eq_of_append (absent : store.get? name = none) (obeys : Obeys store name schedule)
    (first : Returned store name before id value schedule)
    (second : Returned store name before' other value' schedule)
    {more : List (Action α ε)} (longer : before' = before ++ more) : before' = before := by
  have stocked := stocked_of_obeys absent obeys
  obtain ⟨after, split⟩ := first.1
  obtain ⟨after', split'⟩ := second.1
  have produces := second.2
  have same : other = id := by
    apply stocked.one_writer id value other value'
    · rw [split]
      exact List.mem_append_left _ (first.wrote obeys)
    · rw [split']
      exact List.mem_append_left _ (second.wrote obeys)
  subst same
  cases more with
  | nil => rw [longer, List.append_nil]
  | cons action rest =>
    have next : action = .move (.produce other (.value value)) := by
      rw [longer, split, List.append_assoc] at split'
      have tails := List.append_cancel_left split'
      rw [List.cons_append] at tails
      exact (List.cons.inj tails).1.symm
    rw [longer, next] at produces
    exact absurd produces (first.not_produces rest)

/-- At most one producer of a name comes back with a value. -/
theorem Returned.eq_of_returned (absent : store.get? name = none)
    (obeys : Obeys store name schedule)
    (first : Returned store name before id value schedule)
    (second : Returned store name before' other value' schedule) :
    before' = before ∧ other = id ∧ value' = value := by
  have prefixes : before' = before := by
    obtain ⟨after, split⟩ := first.1
    obtain ⟨after', split'⟩ := second.1
    rw [split] at split'
    rcases List.append_eq_append_iff.1 split' with ⟨more, longer, -⟩ | ⟨more, longer, -⟩
    · exact first.eq_of_append absent obeys second longer
    · exact (second.eq_of_append absent obeys first longer).symm
  subst prefixes
  obtain ⟨⟨after, split⟩, -⟩ := first
  obtain ⟨⟨after', split'⟩, -⟩ := second
  rw [split] at split'
  have heads := (List.cons.inj (List.append_cancel_left split')).1
  cases heads
  exact ⟨rfl, rfl, rfl⟩

end Once

/-! ## A name that can be produced -/

section Again

variable {id : CallId} {value : α}

namespace Board

variable {board : Board α ε}

/-- A new call for a free name that finds nothing comes to its producer. -/
theorem get?_run_approach (fresh : board.calls.get? id = none)
    (free : board.registrations.get? name = none) :
    (board.run [.arrive id name, .check id .nothing, .enter id, .check id .nothing]).calls.get? id =
      some ⟨name, .producing, none, 2, 1⟩ := by
  let came := board.setCall id (.new name)
  let missed := came.setCall id ((Call.new name).checked .nothing)
  let won := missed.registered id ((Call.new name).checked .nothing)
  have first : board.step (.arrive id name) = came := (Advance.arrived name fresh).step_eq
  have second : came.step (.check id .nothing) = missed :=
    (Advance.firstChecked (found_written rfl) rfl .nothing).step_eq
  have third : missed.step (.enter id) = won :=
    (Advance.registered (found_written rfl) rfl free).step_eq
  show ((((board.step _).step _).step _).step _).calls.get? id = _
  rw [first, second, third, (Advance.secondChecked (found_written rfl) rfl .nothing).step_eq]
  exact found_written rfl

/-- A producer that comes back with a value, and has its call leave. -/
theorem phase?_run_return {call : Call α ε} (found : board.calls.get? id = some call)
    (phase : call.phase = .producing) (value : α) :
    (board.run [.produce id (.value value), .settle id, .leave id]).phase? id =
      some (.finished (.value value)) := by
  have returned : (board.step (.produce id (.value value))).calls.get? id =
      some (call.produced (.value value)) := by
    rw [(Advance.produced found phase (.value value)).step_eq]
    exact found_written rfl
  have settled := get?_step_of_settling returned rfl
  have left := get?_step_of_leaving settled rfl
  exact phase?_of_found left rfl

end Board

/-- To come to its producer, a call need only find nothing where there is nothing. -/
theorem Obeys.approach (obeys : Obeys store name schedule)
    (absent : (Shared.after store schedule).store.get? name = none) (id : CallId) :
    Obeys store name (schedule ++ approach id name) := by
  have looks (moves : List (Action α ε))
      (same : ((Shared.after store schedule).run moves).store.get? name = none) :
      Accords store name (schedule ++ moves) (.move (.check id .nothing)) := by
    intro _
    rw [← Shared.after_append] at same
    exact (Shared.look_eq_nothing_iff.2 same).symm
  have came : Obeys store name (schedule ++ [.move (.arrive id name)]) :=
    obeys_append_singleton.2 ⟨obeys, trivial⟩
  have missed : Obeys store name
      (schedule ++ [.move (.arrive id name), .move (.check id .nothing)]) :=
    came.append_singleton (looks _ absent)
  have entered : Obeys store name
      (schedule ++ [.move (.arrive id name), .move (.check id .nothing), .move (.enter id)]) :=
    missed.append_singleton trivial
  exact entered.append_singleton (looks _ absent)

/-- A producer that has stored nothing yet may store a value and come back with it. -/
theorem Obeys.completion (obeys : Obeys store name schedule)
    (produces : (Shared.after store schedule).board.Produces name id)
    (unwritten : writtenBy id name schedule = none) (value : α) :
    Obeys store name (schedule ++ completion id name value) := by
  have wrote : Obeys store name (schedule ++ [.write id name value]) :=
    obeys_append_singleton.2 ⟨obeys, fun _ => ⟨produces, unwritten⟩⟩
  have returns : Accords store name (schedule ++ [.write id name value])
      (.move (.produce id (.value value))) := by
    intro _
    rw [writtenBy_append, unwritten]
    simp [writtenBy, Product.value?]
  have returned : Obeys store name
      (schedule ++ [.write id name value, .move (.produce id (.value value))]) :=
    wrote.append_singleton returns
  have settled : Obeys store name (schedule ++ [.write id name value,
      .move (.produce id (.value value)), .move (.settle id)]) :=
    returned.append_singleton trivial
  exact settled.append_singleton trivial

/-- A name that is free and has no value can be produced. -/
theorem Stocked.producible (stocked : Stocked store name schedule)
    (obeys : Obeys store name schedule)
    (absent : (Shared.after store schedule).store.get? name = none)
    (free : (Shared.after store schedule).board.registrations.get? name = none) :
    Producible store name schedule := by
  intro id value fresh
  have unwritten : writtenBy id name schedule = none := by
    refine writtenBy_eq_none_iff.2 fun other member => ?_
    have stored := (stocked.written_iff other).2 ⟨id, member⟩
    rw [absent] at stored
    cases stored
  have approached : (Shared.after store (schedule ++ approach id name)).board.calls.get? id =
      some ⟨name, .producing, none, 2, 1⟩ := by
    rw [Shared.after_append, Shared.board_run]
    exact Board.get?_run_approach fresh free
  have still : writtenBy id name (schedule ++ approach id name) = none := by
    rw [writtenBy_append, unwritten]
    rfl
  rw [production, ← List.append_assoc]
  constructor
  · exact (obeys.approach absent id).completion ⟨_, approached, rfl, rfl⟩ still value
  · rw [Shared.after_append, Shared.board_run]
    exact Board.phase?_run_return approached rfl value

/-- A call that leaves without a value leaves the name so that it can be produced. -/
theorem Stocked.producible_of_leaving (stocked : Stocked store name schedule)
    (obeys : Obeys store name schedule) {call : Call α ε} {answer : Answer α ε}
    (found : (Shared.after store schedule).board.calls.get? id = some call)
    (named : call.name = name) (phase : call.phase = .leaving answer)
    (without : ∀ value, answer ≠ .value value) :
    Producible store name (schedule ++ [.move (.leave id)]) := by
  have absent : (Shared.after store schedule).store.get? name = none := by
    cases stored : (Shared.after store schedule).store.get? name with
    | none => rfl
    | some value =>
      have past : call.phase.checkedTwice = true := by
        rw [phase]
        rfl
      rcases stocked.past id call value found named past stored with ⟨none, -⟩ | given
      · rw [phase] at none
        cases none
      · rw [phase] at given
        exact absurd (Option.some.inj given) (without value)
  have accords : Accords store name schedule (.move (.leave id)) := trivial
  have left := Board.step_leave (Shared.consistent_after store schedule) found phase
  apply (stocked.move accords).producible (obeys_append_singleton.2 ⟨obeys, accords⟩)
  · rw [Shared.after_append]
    exact absent
  · rw [Shared.after_append]
    have freed := left.2 name
    rw [if_pos named.symm] at freed
    exact freed

end Again

/-- A name that the store does not hold is produced once. Whatever the schedule, when the calls for
the name look it up and store it as they should: at most one producer comes back with a value; every
call that answers with a value answers with the stored one, and so does every producer; a call
that leaves without a value leaves the name producible, and so is every name that has no value and
that nobody is busy with. -/
theorem production_happens_once (absent : store.get? name = none)
    (obeys : Obeys store name schedule) :
    let shared := Shared.after store schedule
    (∀ before before' id id' value value', Returned store name before id value schedule →
        Returned store name before' id' value' schedule →
        before' = before ∧ id' = id ∧ value' = value) ∧
      (∀ before id value, Returned store name before id value schedule →
        shared.store.get? name = some value) ∧
      (∀ id call value, shared.board.calls.get? id = some call → call.name = name →
        call.phase = .finished (.value value) → shared.store.get? name = some value) ∧
      (∀ id call answer, shared.board.calls.get? id = some call → call.name = name →
        call.phase = .leaving answer → (∀ value, answer ≠ .value value) →
        Producible store name (schedule ++ [.move (.leave id)])) ∧
      (shared.store.get? name = none → shared.board.isPending name = false →
        Producible store name schedule) := by
  intro shared
  have stocked := stocked_of_obeys absent obeys
  refine ⟨?_, ?_, ?_, ?_, ?_⟩
  · intro before before' id id' value value' first second
    exact first.eq_of_returned absent obeys second
  · intro before id value returned
    have wrote := returned.wrote obeys
    obtain ⟨after, split⟩ := returned.1
    refine (stocked.written_iff value).2 ⟨id, ?_⟩
    rw [split]
    exact List.mem_append_left _ wrote
  · intro id call value found named phase
    apply stocked.given id call value found named
    rw [phase]
    rfl
  · intro id call answer found named phase without
    exact stocked.producible_of_leaving obeys found named phase without
  · intro unstored free
    have unregistered : shared.board.registrations.get? name = none :=
      Option.isNone_iff_eq_none.1 (Option.isSome_eq_false_iff.1 free)
    exact stocked.producible obeys unstored unregistered

/-- Two calls look before there is a value. The producer of the first fails; the second then
produces, and a third call, which looked before that as well, comes late and finds the value. -/
def lateLooks : List (Action Nat String) :=
  [.move (.arrive 1 "beans"), .move (.arrive 2 "beans"), .move (.arrive 3 "beans"),
    .move (.check 1 .nothing), .move (.check 2 .nothing), .move (.check 3 .nothing),
    .move (.enter 1), .move (.check 1 .nothing), .move (.produce 1 (.failure "no memory")),
    .move (.settle 1), .move (.leave 1),
    .move (.enter 2), .move (.check 2 .nothing), .write 2 "beans" 7,
    .move (.produce 2 (.value 7)), .move (.settle 2), .move (.leave 2),
    .move (.enter 3), .move (.check 3 (.found 7)), .move (.settle 3), .move (.leave 3)]

theorem production_happens_once_lateLooks :
    Obeys .empty "beans" lateLooks ∧
      (Shared.after .empty lateLooks).store.get? "beans" = some 7 ∧
      Producible .empty "beans" (lateLooks.take 11) := by
  have obeys : Obeys .empty "beans" lateLooks := by decide
  have earlier : Obeys .empty "beans" (lateLooks.take 10) := by decide
  -- The third call answers with what it found late; the first leaves with its failure.
  have late : (Shared.after .empty lateLooks).board.calls.get? 3 =
      some ⟨"beans", .finished (.value 7), some (.produced 7), 2, 0⟩ := by decide
  have failed : (Shared.after .empty (lateLooks.take 10)).board.calls.get? 1 =
      some ⟨"beans", .leaving (.failure "no memory"), some (.failed "no memory"), 2, 1⟩ := by decide
  refine ⟨obeys, ?_, ?_⟩
  · exact (production_happens_once rfl obeys).2.2.1 3 _ 7 late rfl rfl
  · apply (production_happens_once rfl earlier).2.2.2.1 1 _ _ failed rfl rfl
    intro value same
    cases same

end ModuleOpens.Exclusive
