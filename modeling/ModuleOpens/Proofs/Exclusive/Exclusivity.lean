/-
# Proofs.Exclusive.Exclusivity — one call at a time, and nothing left behind

After any schedule a name is pending for just the call that registered for it
and has not left. So no two calls of a name check again or produce at one time,
and a call produces once at most, after its first check found nothing, it won
the free name, and its second check found nothing. Only a call's own leaving
takes its entry away, and every call that is torn away still leaves.

* `step_leave`, `step_registrations`: who takes an entry away, and which one;
* `phase?_run_of_tears`: a call that is torn away leaves, whatever the others do;
* `exclusivity_and_cleanup`: all of it, for every schedule.
-/
import ModuleOpens.Proofs.Exclusive.Consistent
import ModuleOpens.Proofs.Exclusive.History

namespace ModuleOpens.Exclusive

set_option autoImplicit false

variable {α ε : Type}

/-- The call is in its second check, or its producer runs. -/
def Phase.inside : Phase α ε → Bool
  | .registered | .producing => true
  | _ => false

theorem Phase.holds_of_inside {phase : Phase α ε} (inside : phase.inside = true) :
    phase.holds = true := by
  cases phase <;> first | rfl | cases inside

namespace Board

variable {board : Board α ε} {id : CallId} {call : Call α ε}

/-! ## Who takes an entry away -/

theorem get?_step_of_settling {answer : Answer α ε} (found : board.calls.get? id = some call)
    (phase : call.phase = .settling answer) :
    (board.step (.settle id)).calls.get? id =
      some ((call.record .abandoned).moveTo (.leaving answer)) := by
  rw [(Advance.settled found phase).step_eq]
  exact found_written rfl

theorem get?_step_of_leaving {answer : Answer α ε} (found : board.calls.get? id = some call)
    (phase : call.phase = .leaving answer) :
    (board.step (.leave id)).calls.get? id = some (call.moveTo (.finished answer)) := by
  rw [(Advance.left found phase).step_eq]
  exact found_written rfl

/-- A call that leaves takes away the entry of its name, and no other. -/
theorem step_leave (consistent : board.Consistent) {answer : Answer α ε}
    (found : board.calls.get? id = some call) (phase : call.phase = .leaving answer) :
    (board.step (.leave id)).phase? id = some (.finished answer) ∧
      ∀ name, (board.step (.leave id)).registrations.get? name =
        if name = call.name then none else board.registrations.get? name := by
  obtain ⟨-, released⟩ := consistent.release_eq found phase
  refine ⟨phase?_of_found (get?_step_of_leaving found phase) rfl, fun name => ?_⟩
  rw [(Advance.left found phase).step_eq, released]
  show (board.registrations.erase call.name).get? name = _
  by_cases same : name = call.name
  · rw [if_pos same, same, Table.get?_erase_self consistent.nodup]
  · rw [if_neg same, Table.get?_erase_of_ne same]

/-- An entry stays unless its own call leaves. -/
theorem step_registrations (consistent : board.Consistent) {name : String} {owner : CallId}
    (taken : board.registrations.get? name = some owner) (move : Move α ε) :
    (board.step move).registrations.get? name = some owner ∨ move = .leave owner := by
  rcases board.step_cases move with same | advance
  · rw [same]
    exact Or.inl taken
  · generalize board.step move = after at advance
    cases advance with
    | @registered id call found phase free =>
      refine Or.inl ?_
      show (board.registrations.set call.name id).get? name = some owner
      rw [Table.get?_set]
      by_cases same : name = call.name
      · rw [same, free] at taken
        cases taken
      · rw [if_neg same]
        exact taken
    | @left id call answer found phase =>
      obtain ⟨own, released⟩ := consistent.release_eq found phase
      rw [released]
      by_cases same : name = call.name
      · rw [same, own] at taken
        cases taken
        exact Or.inr rfl
      · refine Or.inl ?_
        show (board.registrations.erase call.name).get? name = some owner
        rw [Table.get?_erase_of_ne same]
        exact taken
    | _ => exact Or.inl taken

/-! ## A call that is torn away -/

/-- The moves of a call, the first of them and those after it. -/
theorem run_own_cons (board : Board α ε) {schedule : List (Move α ε)} {move : Move α ε}
    {rest : List (Move α ε)} (own : schedule.filter (fun move => move.id = id) = move :: rest) :
    ∃ first last, schedule = first ++ move :: last ∧
      board.run schedule = ((board.run first).step move).run last ∧
      (board.run first).calls.get? id = board.calls.get? id ∧
      last.filter (fun move => move.id = id) = rest := by
  obtain ⟨first, last, rfl, others, -, remaining⟩ := List.filter_eq_cons_iff.1 own
  refine ⟨first, last, rfl, ?_, ?_, remaining⟩
  · rw [run_append]
    rfl
  · refine run_other fun other member same => others other member ?_
    exact decide_eq_true same

theorem run_own_nil (board : Board α ε) {schedule : List (Move α ε)}
    (own : schedule.filter (fun move => move.id = id) = []) :
    (board.run schedule).calls.get? id = board.calls.get? id := by
  refine run_other fun other member same => ?_
  have none := List.filter_eq_nil_iff.1 own other member
  exact none (decide_eq_true same)

/-- A call that is torn away in its second check or in its producer. -/
inductive Tears (id : CallId) : Phase α ε → Move α ε → Prop where
  | check : Tears id .registered (.check id .torn)
  | produce : Tears id .producing (.produce id .torn)

theorem get?_step_of_tears {tear : Move α ε} (found : board.calls.get? id = some call)
    (tears : Tears id call.phase tear) :
    ∃ after, (board.step tear).calls.get? id = some after ∧ after.phase = .settling .torn := by
  generalize stands : call.phase = phase at tears
  cases tears with
  | check =>
    rw [(Advance.secondChecked found stands .torn).step_eq]
    refine ⟨_, found_written rfl, ?_⟩
    unfold Call.checked
    rw [stands]
    rfl
  | produce =>
    rw [(Advance.produced found stands .torn).step_eq]
    exact ⟨_, found_written rfl, rfl⟩

/-- Whatever the others do meanwhile, a call that is torn away leaves in the end. -/
theorem phase?_run_of_tears {tear : Move α ε} {schedule : List (Move α ε)}
    (found : board.calls.get? id = some call) (tears : Tears id call.phase tear)
    (own : schedule.filter (fun move => move.id = id) = [tear, .settle id, .leave id]) :
    (board.run schedule).phase? id = some (.finished .torn) := by
  -- The three moves of the call, each with the board that it finds; the others do not matter.
  obtain ⟨_, _, -, run, same, own⟩ := run_own_cons board own
  rw [run]
  obtain ⟨torn, tornFound, tornPhase⟩ := get?_step_of_tears (same.trans found) tears
  obtain ⟨_, _, -, run, same, own⟩ := run_own_cons _ own
  rw [run]
  have settled := get?_step_of_settling (same.trans tornFound) tornPhase
  obtain ⟨_, _, -, run, same, own⟩ := run_own_cons _ own
  rw [run]
  have left := get?_step_of_leaving (same.trans settled) rfl
  exact phase?_of_found ((run_own_nil _ own).trans left) rfl

/-- When all calls have finished, no entry is left. -/
theorem Consistent.pending_eq_zero (consistent : board.Consistent)
    (finished : ∀ id call, board.calls.get? id = some call →
      ∃ answer, call.phase = .finished answer) : board.pending = 0 := by
  unfold pending Table.size
  cases entries : board.registrations.entries with
  | nil => rfl
  | cons entry rest =>
    have taken : board.registrations.get? entry.1 = some entry.2 := by
      unfold Table.get?
      rw [entries]
      exact if_pos rfl
    obtain ⟨call, found, -, holds⟩ := (consistent.registered_iff _ _).1 taken
    obtain ⟨answer, phase⟩ := finished entry.2 call found
    rw [phase] at holds
    cases holds

/-- A call has produced once at most. -/
theorem Consistent.productions_le (consistent : board.Consistent)
    (found : board.calls.get? id = some call) : call.productions ≤ 1 := by
  have fits := consistent.fits id call found
  unfold Call.Fits at fits
  split at fits
  all_goals omega

/-- After every schedule: a name is pending just while one call of it is registered; two calls of
a name are never both in their second check or producer; a call has produced once at most, and
only after it won the name between two checks that found nothing; a call that leaves takes its own
entry away, no move takes an entry away but its call's leaving, and a call that is torn away
leaves whatever the others do; and when all calls have finished nothing is pending. -/
theorem exclusivity_and_cleanup (schedule : List (Move α ε)) :
    let board := empty.run schedule
    (∀ name, board.isPending name = true ↔ ∃ id, ∀ other, board.Holds name other ↔ other = id) ∧
      (∀ id other call otherCall, board.calls.get? id = some call →
        board.calls.get? other = some otherCall → call.name = otherCall.name →
        call.phase.inside = true → otherCall.phase.inside = true → id = other) ∧
      (∀ id call, board.calls.get? id = some call → call.productions ≤ 1 ∧
        (call.productions ≠ 0 → SecondMissed id call.name schedule)) ∧
      (∀ id call answer, board.calls.get? id = some call → call.phase = .leaving answer →
        (board.step (.leave id)).phase? id = some (.finished answer) ∧
          ∀ name, (board.step (.leave id)).registrations.get? name =
            if name = call.name then none else board.registrations.get? name) ∧
      (∀ name owner move, board.registrations.get? name = some owner →
        (board.step move).registrations.get? name = some owner ∨ move = .leave owner) ∧
      (∀ id call tear more, board.calls.get? id = some call → Tears id call.phase tear →
        more.filter (fun move => move.id = id) = [tear, .settle id, .leave id] →
        (board.run more).phase? id = some (.finished .torn) ∧
          ∀ name, (board.run more).registrations.get? name ≠ some id) ∧
      ((∀ id call, board.calls.get? id = some call → ∃ answer, call.phase = .finished answer) →
        board.pending = 0) := by
  intro board
  have consistent : board.Consistent := consistent_run consistent_empty schedule
  have unique {name : String} {id other : CallId} (holds : board.Holds name id)
      (otherHolds : board.Holds name other) : other = id := by
    have taken := (consistent.registered_iff name id).2 holds
    rw [(consistent.registered_iff name other).2 otherHolds] at taken
    exact Option.some.inj taken
  refine ⟨fun name => ?_, ?_, ?_, ?_, ?_, ?_, consistent.pending_eq_zero⟩
  · constructor
    · intro pending
      obtain ⟨id, taken⟩ := Option.isSome_iff_exists.1 pending
      have holds := (consistent.registered_iff name id).1 taken
      exact ⟨id, fun other => ⟨unique holds, fun same => same ▸ holds⟩⟩
    · rintro ⟨id, only⟩
      have taken := (consistent.registered_iff name id).2 ((only id).2 rfl)
      exact Option.isSome_iff_exists.2 ⟨id, taken⟩
  · intro id other call otherCall found otherFound same inside otherInside
    exact unique ⟨otherCall, otherFound, rfl, Phase.holds_of_inside otherInside⟩
      ⟨call, found, same, Phase.holds_of_inside inside⟩
  · intro id call found
    exact ⟨consistent.productions_le found, (traced_run schedule call found).productions⟩
  · intro id call answer found phase
    exact step_leave consistent found phase
  · intro name owner move taken
    exact step_registrations consistent taken move
  · intro id call tear more found tears own
    have finished := phase?_run_of_tears found tears own
    refine ⟨finished, fun name taken => ?_⟩
    obtain ⟨present, presentFound, -, holds⟩ :=
      ((consistent_run consistent more).registered_iff name id).1 taken
    rw [phase?_of_found presentFound rfl] at finished
    rw [Option.some.inj finished] at holds
    cases holds

/-- The first of two calls of a name comes to its producer, and the other one waits. -/
def oneProduces : List (Move Nat String) :=
  [.arrive 1 "a", .check 1 .nothing, .enter 1, .check 1 .nothing, .arrive 2 "a", .check 2 .nothing,
    .enter 2]

/-- The producer does not come back; the other call wakes before the first has left. -/
def oneTorn : List (Move Nat String) :=
  [.produce 1 .torn, .settle 1, .wake 2, .leave 1]

/-- The first call holds the name alone, has produced, is torn away, and leaves nothing behind. -/
theorem exclusivity_and_cleanup_oneTorn :
    let board := empty.run oneProduces
    let leaving := empty.run (oneProduces ++ oneTorn.take 3)
    (board.isPending "a" = true ∧ ∀ other, board.Holds "a" other ↔ other = 1) ∧
      (board.phase? 1 = some .producing ∧ SecondMissed 1 "a" oneProduces) ∧
      (leaving.phase? 1 = some (.leaving .torn) ∧
        (leaving.step (.leave 1)).registrations.get? "a" = none) ∧
      ((board.run oneTorn).phase? 1 = some (.finished .torn) ∧
        ∀ name, (board.run oneTorn).registrations.get? name ≠ some 1) ∧
      (board.run oneTorn).phase? 2 = some (.finished .abandoned) ∧
      (board.run oneTorn).pending = 0 := by
  intro board leaving
  obtain ⟨pending, -, produced, -, -, torn, -⟩ := exclusivity_and_cleanup oneProduces
  have first : board.calls.get? 1 = some ⟨"a", .producing, none, 2, 1⟩ := by decide
  have busy : board.isPending "a" = true := by decide
  have alone : ∀ other, board.Holds "a" other ↔ other = 1 := by
    obtain ⟨id, only⟩ := (pending "a").1 busy
    obtain rfl : 1 = id := (only 1).1 ⟨_, first, rfl, rfl⟩
    exact only
  have missed := (produced 1 _ first).2 Nat.one_ne_zero
  have freed : (leaving.step (.leave 1)).registrations.get? "a" = none := by
    obtain ⟨-, -, -, left, -⟩ := exclusivity_and_cleanup (oneProduces ++ oneTorn.take 3)
    have found : leaving.calls.get? 1 =
        some ⟨"a", .leaving .torn, some .abandoned, 2, 1⟩ := by decide
    exact ((left 1 _ .torn found rfl).2 "a").trans (if_pos rfl)
  have gone := torn 1 _ (.produce 1 .torn) oneTorn first .produce (by decide)
  have idle : (board.run oneTorn).pending = 0 := by
    obtain ⟨-, -, -, -, -, -, idle⟩ := exclusivity_and_cleanup (oneProduces ++ oneTorn)
    rw [run_append] at idle
    refine idle fun id call found => ?_
    have entries : (board.run oneTorn).calls.entries =
        [(1, ⟨"a", .finished .torn, some .abandoned, 2, 1⟩),
          (2, ⟨"a", .finished .abandoned, none, 1, 0⟩)] := by decide
    have present := Table.mem_of_lookup found
    rw [entries, List.mem_cons, List.mem_singleton] at present
    rcases present with same | same
    · cases same
      exact ⟨.torn, rfl⟩
    · cases same
      exact ⟨.abandoned, rfl⟩
  exact ⟨⟨busy, alone⟩, ⟨phase?_of_found first rfl, missed⟩, ⟨by decide, freed⟩, gone, by decide,
    idle⟩

end Board

end ModuleOpens.Exclusive
