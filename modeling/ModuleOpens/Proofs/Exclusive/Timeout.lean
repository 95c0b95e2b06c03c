/-
# Proofs.Exclusive.Timeout — a call that waits in vain leaves no trace

A call whose answer is that it waited too long has only ever stood by: it came,
its check found nothing, it found its name taken, and it waited. So it never had
a registration, an outcome or a producer, nobody can have waited for it, and the
board of the others is the one that the schedule makes without it.

This holds also of a call that a producer makes for its own name. The producer
cannot go on before that call comes back, and that call cannot get an outcome
before the producer goes on; so it waits in vain, and the producer goes on as if
it had not asked.

* `bystands_of_run`: who stands by in the end stood by all along;
* `apart_of_bystands`: the others do without it;
* `phase?_run_of_reenters`: a call that a producer makes for its own name waits in vain;
* `timeout_leaves_no_trace`: both, for every schedule.
-/
import ModuleOpens.Proofs.Exclusive.Exclusivity
import ModuleOpens.Proofs.Exclusive.Outcome
import ModuleOpens.Proofs.Exclusive.Answer
import ModuleOpens.Proofs.Exclusive.Part

namespace ModuleOpens.Exclusive

set_option autoImplicit false

variable {α ε : Type}

/-- The call has done nothing but check once and wait, and has no answer, or none but that it
waited too long. -/
def Phase.standsBy : Phase α ε → Bool
  | .arrived | .missed | .waiting _ | .finished .timeout => true
  | _ => false

theorem Phase.holds_of_standsBy {phase : Phase α ε} (standsBy : phase.standsBy = true) :
    phase.holds = false := by
  cases phase <;> first | rfl | cases standsBy

namespace Board

/-- The call stands by, if it is on the board. -/
def Bystands (board : Board α ε) (id : CallId) : Prop :=
  ∀ call, board.calls.get? id = some call → call.phase.standsBy = true

/-- The boards show the same but for one call: the other calls, with their answers and their
outcomes, and the names that someone is busy with, and who. -/
structure AlikeBut (id : CallId) (board other : Board α ε) : Prop where
  calls : ∀ caller, caller ≠ id → other.calls.get? caller = board.calls.get? caller
  outcomes : ∀ caller, caller ≠ id → other.outcomeOf? caller = board.outcomeOf? caller
  registrations : other.registrations = board.registrations

variable {board : Board α ε} {move : Move α ε} {id : CallId} {after : Call α ε}

/-! ## A call that stands by -/

/-- Who stands by after a move has just come, or stood by before it with the same outcome and as
many productions. -/
theorem Turn.standsBy (turn : Turn board move id after) (consistent : board.Consistent)
    (standsBy : after.phase.standsBy = true) :
    (board.calls.get? id = none ∧ ∃ name, after = .new name) ∨
      ∃ call, board.calls.get? id = some call ∧ call.phase.standsBy = true ∧
        after.outcome = call.outcome ∧ after.productions = call.productions := by
  cases turn with
  | stayed found => exact Or.inr ⟨after, found, standsBy, rfl, rfl⟩
  | arrived name fresh made => exact Or.inl ⟨fresh, name, rfl⟩
  | @firstChecked call found phase finding made =>
    refine Or.inr ⟨call, found, by rw [phase]; rfl, ?_⟩
    obtain ⟨name, _, outcome, checks, productions⟩ := call
    cases phase
    cases finding <;> exact ⟨rfl, rfl⟩
  | registered found phase free made => cases standsBy
  | @joined call owner found phase taken made =>
    exact Or.inr ⟨call, found, by rw [phase]; rfl, rfl, rfl⟩
  | @secondChecked call found phase finding made =>
    obtain ⟨name, _, outcome, checks, productions⟩ := call
    cases phase
    cases finding <;> cases standsBy
  | @produced call found phase product made => cases product <;> cases standsBy
  | settled found phase made => cases standsBy
  | @left call answer found phase made =>
    -- Who leaves has recorded the outcome that its answer comes from, and that is no timeout.
    have fits := consistent.fits id call found
    unfold Call.Fits at fits
    rw [phase] at fits
    obtain ⟨-, outcome, -, rfl⟩ := fits
    cases outcome <;> cases standsBy
  | @answered call owner outcome found phase recorded made =>
    exact Or.inr ⟨call, found, by rw [phase]; rfl, rfl, rfl⟩
  | @expired call owner found phase unrecorded made =>
    exact Or.inr ⟨call, found, by rw [phase]; rfl, rfl, rfl⟩

/-- Who stands by after a move stood by before it. -/
theorem bystands_of_step (consistent : board.Consistent)
    (bystands : (board.step move).Bystands id) : board.Bystands id := by
  intro call found
  obtain ⟨after, afterFound⟩ := exists_step found move
  rcases (turn_step afterFound).standsBy consistent (bystands after afterFound) with
    ⟨fresh, -⟩ | ⟨present, presentFound, standsBy, -⟩
  · cases fresh.symm.trans found
  · cases presentFound.symm.trans found
    exact standsBy

/-- Who stands by in the end stood by all along. -/
theorem bystands_of_run (consistent : board.Consistent) {schedule : List (Move α ε)}
    (bystands : (board.run schedule).Bystands id) : board.Bystands id := by
  induction schedule generalizing board with
  | nil => exact bystands
  | cons move rest ih =>
    have later := ih (consistent_step consistent move) bystands
    exact bystands_of_step consistent later

theorem bystands_of_earlier {before schedule : List (Move α ε)} (shorter : before <+: schedule)
    (bystands : (empty.run schedule).Bystands id) : (empty.run before).Bystands id := by
  obtain ⟨rest, rfl⟩ := shorter
  rw [run_append] at bystands
  exact bystands_of_run (consistent_run consistent_empty before) bystands

/-- Who stands by has recorded nothing, and has not produced. -/
theorem unused_of_bystands {schedule : List (Move α ε)}
    (bystands : (empty.run schedule).Bystands id) {call : Call α ε}
    (found : (empty.run schedule).calls.get? id = some call) :
    call.outcome = none ∧ call.productions = 0 := by
  induction schedule using List.reverseRecOn generalizing call with
  | nil => cases found
  | append_singleton schedule move ih =>
    have consistent : (empty.run schedule).Consistent := consistent_run consistent_empty schedule
    have earlier := bystands_of_earlier (List.prefix_append ..) bystands
    have standsBy := bystands call found
    rw [run_append] at found
    rcases (turn_step found).standsBy consistent standsBy with
      ⟨-, name, rfl⟩ | ⟨present, presentFound, -, outcome, productions⟩
    · exact ⟨rfl, rfl⟩
    · rw [outcome, productions]
      exact ih earlier presentFound

theorem Bystands.not_holds (bystands : board.Bystands id) (name : String) :
    ¬ board.Holds name id := by
  rintro ⟨call, found, -, holds⟩
  rw [Phase.holds_of_standsBy (bystands call found)] at holds
  cases holds

/-- Nobody can be waiting for a call that stands by. -/
theorem not_serves_of_bystands {schedule : List (Move α ε)}
    (bystands : (empty.run schedule).Bystands id) (name : String) :
    ¬ (empty.run schedule).Serves name id := by
  rintro ⟨call, found, named, holds | ⟨outcome, recorded⟩⟩
  · exact bystands.not_holds name ⟨call, found, named, holds⟩
  · rw [(unused_of_bystands bystands found).1] at recorded
    cases recorded

/-! ## The others -/

/-- The schedule without the moves of one call. -/
def without (id : CallId) (schedule : List (Move α ε)) : List (Move α ε) :=
  schedule.filter fun move => move.id ≠ id

/-- The others do without a call that stands by. -/
theorem apart_of_bystands {schedule : List (Move α ε)}
    (bystands : (empty.run schedule).Bystands id) :
    (empty.run schedule).Apart (fun caller => caller ≠ id) (fun _ => true) where
  named _ _ _ _ := rfl
  awaited caller call owner found _ phase := by
    have consistent : (empty.run schedule).Consistent := consistent_run consistent_empty schedule
    have serves := consistent.serves caller call owner found phase
    refine decide_eq_true fun same => ?_
    exact not_serves_of_bystands bystands call.name (same ▸ serves)
  unheld caller name own _ := by
    have same : caller = id := by simpa using own
    exact same ▸ bystands.not_holds name

/-- The others are as they are without a call that stands by. -/
theorem alikeBut_of_bystands {schedule : List (Move α ε)}
    (bystands : (empty.run schedule).Bystands id) :
    AlikeBut id (empty.run schedule) (empty.run (without id schedule)) := by
  have apart (before : List (Move α ε)) (shorter : before <+: schedule) :
      (empty.run before).Apart (fun caller => caller ≠ id) (fun _ => true) :=
    apart_of_bystands (bystands_of_earlier shorter bystands)
  have alone : empty.run (without id schedule) =
      (empty.run schedule).part (fun caller => caller ≠ id) (fun _ => true) :=
    (part_run apart).symm
  have kept {caller : CallId} (other : caller ≠ id) : decide (caller ≠ id) = true :=
    decide_eq_true other
  rw [alone]
  refine ⟨fun caller other => get?_part (kept other),
    fun caller other => outcomeOf?_part (kept other), ?_⟩
  exact congrArg Table.mk (List.filter_eq_self.2 fun _ _ => rfl)

/-! ## A producer that asks for its own name -/

/-- The board while the producer of a call for the name runs. -/
structure Occupied (board : Board α ε) (name : String) (owner : CallId) : Prop where
  consistent : board.Consistent
  produces : board.Produces name owner

section Occupied

variable {name : String} {owner inner : CallId} {schedule : List (Move α ε)} {call : Call α ε}

/-- The producer runs on while only others move. -/
theorem Occupied.run (occupied : board.Occupied name owner)
    (held : ∀ move ∈ schedule, move.id ≠ owner) : (board.run schedule).Occupied name owner where
  consistent := consistent_run occupied.consistent schedule
  produces := by
    obtain ⟨call, found, named, phase⟩ := occupied.produces
    exact ⟨call, (run_other held).trans found, named, phase⟩

theorem Occupied.taken (occupied : board.Occupied name owner) :
    board.registrations.get? name = some owner := by
  obtain ⟨call, found, named, phase⟩ := occupied.produces
  refine (occupied.consistent.registered_iff name owner).2 ⟨call, found, named, ?_⟩
  rw [phase]
  rfl

theorem Occupied.unrecorded (occupied : board.Occupied name owner) :
    board.outcomeOf? owner = none := by
  obtain ⟨call, found, -, phase⟩ := occupied.produces
  have fits := occupied.consistent.fits owner call found
  unfold Call.Fits at fits
  rw [phase] at fits
  unfold outcomeOf?
  rw [found]
  exact fits.1

/-- The next move of another call, while the producer runs. -/
theorem Occupied.next (occupied : board.Occupied name owner)
    (held : ∀ move ∈ schedule, move.id ≠ owner) {rest : List (Move α ε)}
    (own : schedule.filter (fun move => move.id = inner) = move :: rest) :
    ∃ first last, board.run schedule = ((board.run first).step move).run last ∧
      (board.run first).calls.get? inner = board.calls.get? inner ∧
      (board.run first).Occupied name owner ∧ ((board.run first).step move).Occupied name owner ∧
      (∀ later ∈ last, later.id ≠ owner) ∧ last.filter (fun move => move.id = inner) = rest := by
  obtain ⟨first, last, rfl, ran, same, remaining⟩ := run_own_cons board own
  have ahead := occupied.run fun earlier member => held earlier (List.mem_append_left _ member)
  have behind {later : Move α ε} (member : later ∈ move :: last) : later.id ≠ owner :=
    held later (List.mem_append_right _ member)
  have stepped : ((board.run first).run [move]).Occupied name owner := by
    refine ahead.run fun other member => ?_
    rw [List.mem_singleton.1 member]
    exact behind List.mem_cons_self
  refine ⟨first, last, ran, same, ahead, stepped, ?_, remaining⟩
  intro later member
  exact behind (List.mem_cons_of_mem _ member)

/-- Who waits for a producer that runs on is woken for nothing, and in the end has waited as long as
it may. -/
theorem Occupied.phase?_of_waiting (occupied : board.Occupied name owner)
    (held : ∀ move ∈ schedule, move.id ≠ owner) (found : board.calls.get? inner = some call)
    (phase : call.phase = .waiting owner) {wakings : Nat}
    (own : schedule.filter (fun move => move.id = inner) =
      List.replicate wakings (.wake inner) ++ [.expire inner]) :
    (board.run schedule).phase? inner = some (.finished .timeout) := by
  induction wakings generalizing board schedule with
  | zero =>
    obtain ⟨first, last, ran, same, ahead, -, -, remaining⟩ := occupied.next held own
    have expired : ((board.run first).step (.expire inner)).calls.get? inner =
        some (call.moveTo (.finished .timeout)) := by
      rw [(Advance.expired (same.trans found) phase ahead.unrecorded).step_eq]
      exact found_written rfl
    rw [ran]
    exact phase?_of_found ((run_own_nil _ remaining).trans expired) rfl
  | succ wakings ih =>
    obtain ⟨first, last, ran, same, ahead, behind, heldLater, remaining⟩ := occupied.next held own
    rw [ran]
    refine ih behind heldLater ?_ remaining
    rcases step_waiting (same.trans found) phase (.wake inner) with
      stays | ⟨outcome, recorded, -⟩ | ⟨made, -⟩
    · exact stays
    · cases ahead.unrecorded.symm.trans recorded
    · cases made

/-- A call for the name of a producer that runs on: it comes, finds nothing, finds the name taken,
and waits in vain. -/
theorem Occupied.phase?_of_asking (occupied : board.Occupied name owner)
    (held : ∀ move ∈ schedule, move.id ≠ owner) (fresh : board.calls.get? inner = none)
    {wakings : Nat}
    (own : schedule.filter (fun move => move.id = inner) =
      .arrive inner name :: .check inner .nothing :: .enter inner ::
        (List.replicate wakings (.wake inner) ++ [.expire inner])) :
    (board.run schedule).phase? inner = some (.finished .timeout) := by
  -- The three moves up to the wait, each with the board that it finds.
  obtain ⟨first, last, ran, same, ahead, occupied, held, own⟩ := occupied.next held own
  have came : ((board.run first).step (.arrive inner name)).calls.get? inner =
      some (.new name) := by
    rw [(Advance.arrived name (same.trans fresh)).step_eq]
    exact found_written rfl
  rw [ran]
  generalize (board.run first).step (.arrive inner name) = board at *
  obtain ⟨first, last, ran, same, ahead, occupied, held, own⟩ := occupied.next held own
  have missed : ((board.run first).step (.check inner .nothing)).calls.get? inner =
      some ((Call.new name).checked .nothing) := by
    rw [(Advance.firstChecked (same.trans came) rfl .nothing).step_eq]
    exact found_written rfl
  rw [ran]
  generalize (board.run first).step (.check inner .nothing) = board at *
  obtain ⟨first, last, ran, same, ahead, occupied, held, own⟩ := occupied.next held own
  have joined : ((board.run first).step (.enter inner)).calls.get? inner =
      some (((Call.new name).checked .nothing).moveTo (.waiting owner)) := by
    rw [(Advance.joined (same.trans missed) rfl ahead.taken).step_eq]
    exact found_written rfl
  rw [ran]
  exact occupied.phase?_of_waiting held joined rfl own

end Occupied

/-- The producer of `owner` asks for its own name: while the schedule `during` passes, the call
`inner` for the name comes, finds nothing, and tries to get in; it is woken for nothing any number
of times, until it has waited as long as it may. The producer waits for it meanwhile and makes no
move; everyone else may. -/
structure Reenters (before during : List (Move α ε)) (owner inner : CallId) (name : String) :
    Prop where
  produces : (empty.run before).Produces name owner
  fresh : (empty.run before).calls.get? inner = none
  held : ∀ move ∈ during, move.id ≠ owner
  own : ∃ wakings, during.filter (fun move => move.id = inner) =
    .arrive inner name :: .check inner .nothing :: .enter inner ::
      (List.replicate wakings (.wake inner) ++ [.expire inner])

theorem Reenters.occupied {before during : List (Move α ε)} {owner inner : CallId} {name : String}
    (reenters : Reenters before during owner inner name) :
    (empty.run before).Occupied name owner :=
  ⟨consistent_run consistent_empty before, reenters.produces⟩

/-- A call that a producer makes for its own name waits in vain, and the producer runs on. -/
theorem phase?_run_of_reenters {before during : List (Move α ε)} {owner inner : CallId}
    {name : String} (reenters : Reenters before during owner inner name) :
    (empty.run (before ++ during)).phase? inner = some (.finished .timeout) ∧
      (empty.run (before ++ during)).Produces name owner := by
  obtain ⟨wakings, own⟩ := reenters.own
  rw [run_append]
  exact ⟨reenters.occupied.phase?_of_asking reenters.held reenters.fresh own,
    (reenters.occupied.run reenters.held).produces⟩

/-! ## Both -/

theorem bystands_of_timeout (timedOut : board.phase? id = some (.finished .timeout)) :
    board.Bystands id := by
  intro call found
  rw [phase?_of_found found rfl] at timedOut
  rw [Option.some.inj timedOut]
  rfl

/-- A call that ends in a timeout is registered at no point of the schedule, records no outcome and
never produces, and at every point the others and the names that someone is busy with are as they
are without it. A call that a producer makes for its own name, finding nothing, ends so; the
producer runs on, and whatever comes then is as it is without that call. -/
theorem timeout_leaves_no_trace :
    (∀ (schedule : List (Move α ε)) (id : CallId),
      (empty.run schedule).phase? id = some (.finished .timeout) →
        ∀ before, before <+: schedule →
          (∀ call, (empty.run before).calls.get? id = some call →
            call.phase.holds = false ∧ call.outcome = none ∧ call.productions = 0) ∧
          AlikeBut id (empty.run before) (empty.run (without id before))) ∧
    ∀ (before during : List (Move α ε)) (owner inner : CallId) (name : String),
      Reenters before during owner inner name →
        (empty.run (before ++ during)).phase? inner = some (.finished .timeout) ∧
        (empty.run (before ++ during)).Produces name owner ∧
        ∀ more, AlikeBut inner (empty.run (before ++ during ++ more))
          (empty.run (without inner (before ++ during ++ more))) := by
  refine ⟨?_, ?_⟩
  · intro schedule id timedOut before shorter
    have bystands := bystands_of_earlier shorter (bystands_of_timeout timedOut)
    refine ⟨fun call found => ?_, alikeBut_of_bystands bystands⟩
    exact ⟨Phase.holds_of_standsBy (bystands call found), unused_of_bystands bystands found⟩
  · intro before during owner inner name reenters
    obtain ⟨timedOut, produces⟩ := phase?_run_of_reenters reenters
    refine ⟨timedOut, produces, fun more => alikeBut_of_bystands (bystands_of_timeout ?_)⟩
    rw [run_append]
    exact phase?_run_of_finished timedOut more

/-- A call comes to its producer. -/
def producing : List (Move Nat String) :=
  [.arrive 1 "beans", .check 1 .nothing, .enter 1, .check 1 .nothing]

/-- The producer asks for its own name; a third call joins meanwhile. -/
def asking : List (Move Nat String) :=
  [.arrive 2 "beans", .arrive 3 "beans", .check 2 .nothing, .check 3 .nothing, .enter 2, .enter 3,
    .wake 2, .expire 2]

/-- The producer comes back, and the third call gets its value. -/
def returning : List (Move Nat String) :=
  [.produce 1 (.value 7), .settle 1, .wake 3, .leave 1]

theorem timeout_leaves_no_trace_asking :
    Reenters producing asking 1 2 "beans" ∧
      (empty.run (producing ++ asking)).phase? 2 = some (.finished .timeout) ∧
      (∀ call, (empty.run (producing ++ asking)).calls.get? 2 = some call → call.productions = 0) ∧
      (empty.run (without 2 (producing ++ asking ++ returning))).calls.get? 3 =
        some ⟨"beans", .finished (.value 7), none, 1, 0⟩ := by
  have reenters : Reenters producing asking 1 2 "beans" :=
    ⟨⟨⟨"beans", .producing, none, 2, 1⟩, by decide, rfl, rfl⟩, by decide, by decide, 1, by decide⟩
  have told := timeout_leaves_no_trace.2 producing asking 1 2 "beans" reenters
  have third : (empty.run (producing ++ asking ++ returning)).calls.get? 3 =
      some ⟨"beans", .finished (.value 7), none, 1, 0⟩ := by decide
  refine ⟨reenters, told.1, fun call found => ?_, ?_⟩
  · have aside := timeout_leaves_no_trace.1 (producing ++ asking) 2 told.1 _ (List.prefix_refl _)
    exact (aside.1 call found).2.2
  · exact ((told.2.2 returning).calls 3 (by decide)).trans third

end Board

end ModuleOpens.Exclusive
