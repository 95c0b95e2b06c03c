/-
# Proofs.Exclusive.Outcome — those who wait get what the registered call got

The outcome that a call records stays for good. A call that found its name
taken waits for one call of the same name, the one that was registered then,
whatever is registered later; it gives up only while there is no outcome, and
otherwise answers what that call answers itself. Nor does it wait for ever: it
has an answer when it is woken to an outcome, and when its time is up.

* `step_follows`: what a call keeps over every move;
* `run_waiting`: what becomes of a waiting call;
* `phase?_step_wake`, `phase?_step_expire`: the moves that end a wait;
* `finished_of_ends`: a wait that comes to its end has an answer, whatever the others do;
* `waiters_agree`: waiting calls and the calls that they wait for, after every schedule.
-/
import ModuleOpens.Proofs.Exclusive.Consistent
import ModuleOpens.Proofs.Exclusive.History

namespace ModuleOpens.Exclusive

set_option autoImplicit false

variable {α ε : Type}

/-- What a call keeps: its name, the outcome that it recorded, and everything once it has
finished. -/
structure Call.Follows (call after : Call α ε) : Prop where
  name : after.name = call.name
  keeps : ∀ outcome, call.outcome = some outcome → after.outcome = some outcome
  finished : ∀ answer, call.phase = .finished answer → after = call

namespace Call

variable {call middle after : Call α ε}

theorem Follows.refl (call : Call α ε) : call.Follows call :=
  ⟨rfl, fun _ recorded => recorded, fun _ _ => rfl⟩

theorem Follows.trans (first : call.Follows middle) (second : middle.Follows after) :
    call.Follows after where
  name := second.name.trans first.name
  keeps outcome recorded := second.keeps outcome (first.keeps outcome recorded)
  finished answer phase := by
    have same := first.finished answer phase
    subst same
    exact second.finished answer phase

/-- A call that has not finished only has to keep its name and its outcome. -/
theorem follows_of_going {stands : Phase α ε} (phase : call.phase = stands)
    (going : stands.answer? = none) (name : after.name = call.name)
    (keeps : ∀ outcome, call.outcome = some outcome → after.outcome = some outcome) :
    call.Follows after := by
  refine ⟨name, keeps, fun answer finished => ?_⟩
  rw [← phase, finished] at going
  cases going

theorem Continues.follows (continues : call.Continues after) {stands : Phase α ε}
    (phase : call.phase = stands) (going : stands.answer? = none) : call.Follows after :=
  follows_of_going phase going continues.name continues.keeps

end Call

namespace Board

variable {board : Board α ε} {id owner : CallId} {call : Call α ε}

/-! ## What stays -/

/-- Every move leaves a call, or makes one of it that follows it. -/
theorem step_follows (found : board.calls.get? id = some call) (move : Move α ε) :
    ∃ after, (board.step move).calls.get? id = some after ∧ call.Follows after := by
  obtain ⟨after, afterFound⟩ := exists_step found move
  refine ⟨after, afterFound, ?_⟩
  cases turn_step afterFound with
  | stayed present =>
    cases present.symm.trans found
    exact .refl call
  | arrived name fresh made => cases fresh.symm.trans found
  | firstChecked present phase finding made =>
    cases present.symm.trans found
    exact (Call.continues_firstChecked phase finding).follows phase rfl
  | registered present phase free made =>
    cases present.symm.trans found
    exact Call.follows_of_going phase rfl rfl fun _ recorded => recorded
  | joined present phase taken made =>
    cases present.symm.trans found
    exact (Call.continues_joined phase _).follows phase rfl
  | secondChecked present phase finding made =>
    cases present.symm.trans found
    exact (Call.continues_secondChecked phase finding).follows phase rfl
  | produced present phase product made =>
    cases present.symm.trans found
    exact (Call.continues_produced phase product).follows phase rfl
  | settled present phase made =>
    cases present.symm.trans found
    exact (Call.continues_settled phase).follows phase rfl
  | left present phase made =>
    cases present.symm.trans found
    exact Call.follows_of_going phase rfl rfl fun _ recorded => recorded
  | answered present phase recorded made =>
    cases present.symm.trans found
    exact (Call.continues_answered phase _).follows phase rfl
  | expired present phase unrecorded made =>
    cases present.symm.trans found
    exact (Call.continues_answered phase _).follows phase rfl

theorem run_follows (found : board.calls.get? id = some call) (schedule : List (Move α ε)) :
    ∃ after, (board.run schedule).calls.get? id = some after ∧ call.Follows after := by
  induction schedule generalizing board call with
  | nil => exact ⟨call, found, .refl call⟩
  | cons move rest ih =>
    obtain ⟨middle, middleFound, first⟩ := step_follows found move
    obtain ⟨after, afterFound, second⟩ := ih middleFound
    exact ⟨after, afterFound, first.trans second⟩

theorem outcomeOf?_eq_some_iff {outcome : Outcome α ε} :
    board.outcomeOf? id = some outcome ↔
      ∃ call, board.calls.get? id = some call ∧ call.outcome = some outcome :=
  Option.bind_eq_some_iff

/-- An outcome that is recorded stays. -/
theorem outcomeOf?_run {outcome : Outcome α ε} (recorded : board.outcomeOf? id = some outcome)
    (schedule : List (Move α ε)) : (board.run schedule).outcomeOf? id = some outcome := by
  obtain ⟨call, found, isOutcome⟩ := outcomeOf?_eq_some_iff.1 recorded
  obtain ⟨after, afterFound, follows⟩ := run_follows found schedule
  exact outcomeOf?_eq_some_iff.2 ⟨after, afterFound, follows.keeps outcome isOutcome⟩

/-! ## What becomes of a waiting call -/

/-- A waiting call goes on waiting, or it gets the outcome, or it gives up without one. -/
theorem step_waiting (found : board.calls.get? id = some call)
    (phase : call.phase = .waiting owner) (move : Move α ε) :
    (board.step move).calls.get? id = some call ∨
      (∃ outcome, board.outcomeOf? owner = some outcome ∧ (board.step move).calls.get? id =
        some (call.moveTo (.finished (.ofOutcome outcome)))) ∨
      move = .expire id ∧ board.outcomeOf? owner = none ∧
        (board.step move).calls.get? id = some (call.moveTo (.finished .timeout)) := by
  obtain ⟨after, afterFound⟩ := exists_step found move
  have stuck {present : Call α ε} {stands : Phase α ε}
      (presentFound : board.calls.get? id = some present) (elsewhere : present.phase = stands) :
      stands = .waiting owner := by
    cases presentFound.symm.trans found
    exact elsewhere.symm.trans phase
  cases turn_step afterFound with
  | stayed present => exact Or.inl (afterFound.trans (present.symm.trans found))
  | arrived name fresh made => cases fresh.symm.trans found
  | firstChecked present stands finding made => cases stuck present stands
  | registered present stands free made => cases stuck present stands
  | joined present stands taken made => cases stuck present stands
  | secondChecked present stands finding made => cases stuck present stands
  | produced present stands product made => cases stuck present stands
  | settled present stands made => cases stuck present stands
  | left present stands made => cases stuck present stands
  | answered present stands recorded made =>
    cases stuck present stands
    cases present.symm.trans found
    exact Or.inr (Or.inl ⟨_, recorded, afterFound⟩)
  | expired present stands unrecorded made =>
    cases stuck present stands
    cases present.symm.trans found
    exact Or.inr (Or.inr ⟨made, unrecorded, afterFound⟩)

/-- What has become of a waiting call after a schedule. -/
inductive Awaited (board : Board α ε) (id owner : CallId) (call : Call α ε)
    (schedule : List (Move α ε)) : Prop where
  | waits (found : (board.run schedule).calls.get? id = some call)
  | answered (outcome : Outcome α ε)
      (recorded : (board.run schedule).outcomeOf? owner = some outcome)
      (found : (board.run schedule).calls.get? id =
        some (call.moveTo (.finished (.ofOutcome outcome))))
  | gaveUp (before after : List (Move α ε)) (split : schedule = before ++ .expire id :: after)
      (waited : (board.run before).calls.get? id = some call)
      (unrecorded : (board.run before).outcomeOf? owner = none)
      (found : (board.run schedule).calls.get? id = some (call.moveTo (.finished .timeout)))

/-- A call that has finished stays as it is. -/
theorem get?_step_of_finished {answer : Answer α ε} (found : board.calls.get? id = some call)
    (phase : call.phase = .finished answer) (move : Move α ε) :
    (board.step move).calls.get? id = some call := by
  obtain ⟨after, afterFound, follows⟩ := step_follows found move
  rw [follows.finished answer phase] at afterFound
  exact afterFound

theorem run_waiting (found : board.calls.get? id = some call)
    (phase : call.phase = .waiting owner) (schedule : List (Move α ε)) :
    Awaited board id owner call schedule := by
  induction schedule using List.reverseRecOn with
  | nil => exact .waits found
  | append_singleton schedule move ih =>
    have last : board.run (schedule ++ [move]) = (board.run schedule).step move :=
      run_append board schedule [move]
    cases ih with
    | waits present =>
      rcases step_waiting present phase move with
        stays | ⟨outcome, recorded, answered⟩ | ⟨rfl, unrecorded, gaveUp⟩
      · exact .waits (by rw [last]; exact stays)
      · refine .answered outcome ?_ (by rw [last]; exact answered)
        rw [last]
        exact outcomeOf?_run recorded [move]
      · exact .gaveUp schedule [] rfl present unrecorded (by rw [last]; exact gaveUp)
    | answered outcome recorded answered =>
      refine .answered outcome ?_ ?_
      · rw [last]
        exact outcomeOf?_run recorded [move]
      · rw [last]
        exact get?_step_of_finished answered rfl move
    | gaveUp before after split waited unrecorded gaveUp =>
      refine .gaveUp before (after ++ [move]) ?_ waited unrecorded ?_
      · rw [split, List.append_assoc, List.cons_append]
      · rw [last]
        exact get?_step_of_finished gaveUp rfl move

/-- A call that has come to its answer keeps it. -/
theorem phase?_run_of_finished {answer : Answer α ε}
    (finished : board.phase? id = some (.finished answer)) (schedule : List (Move α ε)) :
    (board.run schedule).phase? id = some (.finished answer) := by
  obtain ⟨call, found, phase⟩ := Option.map_eq_some_iff.1 finished
  obtain ⟨after, afterFound, follows⟩ := run_follows found schedule
  rw [follows.finished answer phase] at afterFound
  exact phase?_of_found afterFound phase

/-! ## The end of a wait -/

/-- A waiting call that is woken when there is an outcome takes it. -/
theorem phase?_step_wake (found : board.calls.get? id = some call)
    (phase : call.phase = .waiting owner) {outcome : Outcome α ε}
    (recorded : board.outcomeOf? owner = some outcome) :
    (board.step (.wake id)).phase? id = some (.finished (.ofOutcome outcome)) := by
  rw [(Advance.answered found phase recorded (Or.inl rfl)).step_eq]
  exact phase?_of_found (found_written rfl) rfl

/-- A waiting call whose time is up takes the outcome if there is one, and gives up otherwise. -/
theorem phase?_step_expire (found : board.calls.get? id = some call)
    (phase : call.phase = .waiting owner) :
    (board.step (.expire id)).phase? id =
      some (.finished ((board.outcomeOf? owner).elim .timeout .ofOutcome)) := by
  cases recorded : board.outcomeOf? owner with
  | some outcome =>
    rw [(Advance.answered found phase recorded (Or.inr rfl)).step_eq]
    exact phase?_of_found (found_written rfl) rfl
  | none =>
    rw [(Advance.expired found phase recorded).step_eq]
    exact phase?_of_found (found_written rfl) rfl

/-- In the course of a schedule a wait comes to its end: the time is up, or the call is woken at a
point at which there is an outcome. -/
inductive Ends (board : Board α ε) (waiter owner : CallId) (schedule : List (Move α ε)) :
    Prop where
  | timeUp (expires : .expire waiter ∈ schedule)
  | woken (wakes : Happened (fun before => ∃ outcome,
      (board.run before).outcomeOf? owner = some outcome) (.wake waiter) schedule)

/-- A waiting call has an answer in the end if some move gives it one, should it wait still. -/
theorem finished_of_move (found : board.calls.get? id = some call)
    (phase : call.phase = .waiting owner) {before after : List (Move α ε)} {move : Move α ε}
    (gives : (board.run before).calls.get? id = some call →
      ∃ answer, ((board.run before).step move).phase? id = some (.finished answer)) :
    ∃ answer, (board.run (before ++ move :: after)).phase? id = some (.finished answer) := by
  rw [run_append]
  cases run_waiting found phase before with
  | waits present =>
    obtain ⟨answer, finished⟩ := gives present
    exact ⟨answer, phase?_run_of_finished finished after⟩
  | answered outcome recorded present =>
    exact ⟨_, phase?_run_of_finished (phase?_of_found present rfl) (move :: after)⟩
  | gaveUp earlier later split waited unrecorded present =>
    exact ⟨_, phase?_run_of_finished (phase?_of_found present rfl) (move :: after)⟩

/-- Whatever the others do meanwhile, a call whose wait comes to its end has an answer. -/
theorem finished_of_ends (found : board.calls.get? id = some call)
    (phase : call.phase = .waiting owner) {schedule : List (Move α ε)}
    (ends : board.Ends id owner schedule) :
    ∃ answer, (board.run schedule).phase? id = some (.finished answer) := by
  cases ends with
  | timeUp expires =>
    obtain ⟨before, after, rfl⟩ := List.append_of_mem expires
    exact finished_of_move found phase fun present => ⟨_, phase?_step_expire present phase⟩
  | woken wakes =>
    obtain ⟨before, after, rfl, outcome, recorded⟩ := wakes
    exact finished_of_move found phase fun present => ⟨_, phase?_step_wake present phase recorded⟩

/-! ## Waiting calls and the calls that they wait for -/

/-- The call found its name taken, and began to wait for the call that had it then. -/
def Joined (waiter owner : CallId) (name : String) : List (Move α ε) → Prop :=
  Happened (fun before => ∃ call, (empty.run before).calls.get? waiter = some call ∧
    call.phase = .missed ∧ call.name = name ∧
    (empty.run before).registrations.get? name = some owner) (.enter waiter)

/-- The call had waited as long as it may, and there was no outcome then. -/
def Expired (waiter owner : CallId) : List (Move α ε) → Prop :=
  Happened (fun before => (empty.run before).phase? waiter = some (.waiting owner) ∧
    (empty.run before).outcomeOf? owner = none) (.expire waiter)

/-- A call that joined waits for another one of its name, and has come to one of three ends. -/
theorem awaited_of_joined {waiter owner : CallId} {name : String} {schedule : List (Move α ε)}
    (joined : Joined waiter owner name schedule) :
    ∃ before after call, schedule = before ++ .enter waiter :: after ∧ call.name = name ∧
      call.phase = .waiting owner ∧ (empty.run before).Holds name owner ∧
      ((empty.run before).step (.enter waiter)).Awaited waiter owner call after := by
  obtain ⟨before, after, split, call, found, phase, rfl, taken⟩ := joined
  have holds := ((consistent_run consistent_empty before).registered_iff _ _).1 taken
  refine ⟨before, after, call.moveTo (.waiting owner), split, rfl, rfl, holds, ?_⟩
  refine run_waiting ?_ rfl after
  rw [(Advance.joined found phase taken).step_eq]
  exact found_written rfl

/-- Who has recorded an outcome and finished has answered what the outcome comes from. -/
theorem Consistent.answer_of_outcome (consistent : board.Consistent)
    (found : board.calls.get? id = some call) {outcome : Outcome α ε}
    (recorded : call.outcome = some outcome) {answer : Answer α ε}
    (phase : call.phase = .finished answer) : answer = outcome.ownAnswer := by
  have fits := consistent.fits id call found
  unfold Call.Fits at fits
  rw [phase] at fits
  exact fits.2 outcome recorded

end Board

/-- What a waiting call gives is what the call that it waited for gives: the same value, the same
failure, or word that nothing came back. -/
structure Answer.Echoes (name : String) (wait : Duration) (answer own : Answer α ε) : Prop where
  value : ∀ value, answer.result? name wait = some (.ok value) ↔
    own.result? name wait = some (.ok value)
  failure : ∀ error, answer.result? name wait = some (.error (.failed error)) ↔
    own.result? name wait = some (.error (.failed error))
  abandoned : answer.result? name wait = some (.error (.abandoned name)) ↔
    own.result? name wait = none

theorem Answer.echoes_ownAnswer (name : String) (wait : Duration) (outcome : Outcome α ε) :
    Echoes name wait (.ofOutcome outcome) outcome.ownAnswer := by
  cases outcome with
  | produced value => constructor <;> simp [ofOutcome, Outcome.ownAnswer, result?]
  | failed error => constructor <;> simp [ofOutcome, Outcome.ownAnswer, result?]
  | abandoned => constructor <;> simp [ofOutcome, Outcome.ownAnswer, result?]

namespace Board

/-- A call that joined another one of its name waits for it still, or gave up while there was no
outcome, or has answered what the other one answers itself. -/
theorem agreed_of_joined {schedule : List (Move α ε)} {waiter owner : CallId} {name : String}
    (joined : Joined waiter owner name schedule) :
    let board := empty.run schedule
    ∃ call other, board.calls.get? waiter = some call ∧
      board.calls.get? owner = some other ∧ call.name = name ∧ other.name = name ∧
      (call.phase = .waiting owner ∨
        call.phase = .finished .timeout ∧ Expired waiter owner schedule ∨
        ∃ outcome, other.outcome = some outcome ∧
          call.phase = .finished (.ofOutcome outcome) ∧
          ∀ own wait, other.phase = .finished own →
            Answer.Echoes name wait (.ofOutcome outcome) own) := by
  intro board
  have consistent : board.Consistent := consistent_run consistent_empty schedule
  obtain ⟨before, after, call, split, named, phase, holds, awaited⟩ := awaited_of_joined joined
  have ran (more : List (Move α ε)) : empty.run (before ++ .enter waiter :: more) =
      ((empty.run before).step (.enter waiter)).run more := run_append ..
  have boardIs : board = ((empty.run before).step (.enter waiter)).run after :=
    (congrArg empty.run split).trans (ran after)
  obtain ⟨first, firstFound, firstNamed, -⟩ := holds
  obtain ⟨other, otherFound, follows⟩ := run_follows firstFound (.enter waiter :: after)
  have otherThere : board.calls.get? owner = some other := boardIs ▸ otherFound
  have otherNamed : other.name = name := follows.name.trans firstNamed
  cases awaited with
  | waits found =>
    exact ⟨call, other, boardIs ▸ found, otherThere, named, otherNamed, Or.inl phase⟩
  | gaveUp earlier later parted waited unrecorded found =>
    refine ⟨call.moveTo (.finished .timeout), other, boardIs ▸ found, otherThere, named,
      otherNamed, Or.inr (Or.inl ⟨rfl, ?_⟩)⟩
    refine ⟨before ++ .enter waiter :: earlier, later, ?_, ?_, ?_⟩
    · rw [split, parted, List.append_assoc, List.cons_append]
    · rw [ran]
      exact phase?_of_found waited phase
    · rw [ran]
      exact unrecorded
  | answered outcome recorded found =>
    obtain ⟨same, sameFound, isOutcome⟩ := outcomeOf?_eq_some_iff.1 recorded
    cases sameFound.symm.trans otherFound
    refine ⟨call.moveTo (.finished (.ofOutcome outcome)), other, boardIs ▸ found, otherThere,
      named, otherNamed, Or.inr (Or.inr ⟨outcome, isOutcome, rfl, ?_⟩)⟩
    intro own wait finished
    rw [consistent.answer_of_outcome otherThere isOutcome finished]
    exact Answer.echoes_ownAnswer name wait outcome

/-- A call that joined another one has an answer once its wait has come to its end. -/
theorem finished_of_joined {schedule more : List (Move α ε)} {waiter owner : CallId}
    {name : String} (joined : Joined waiter owner name schedule)
    (ends : (empty.run schedule).Ends waiter owner more) :
    ∃ answer, ((empty.run schedule).run more).phase? waiter = some (.finished answer) := by
  obtain ⟨call, other, found, -, -, -, waits | ⟨gaveUp, -⟩ | ⟨outcome, -, answered, -⟩⟩ :=
    agreed_of_joined joined
  · exact finished_of_ends found waits ends
  · exact ⟨_, phase?_run_of_finished (phase?_of_found found gaveUp) more⟩
  · exact ⟨_, phase?_run_of_finished (phase?_of_found found answered) more⟩

/-- After every schedule: an outcome that is recorded stays for good; a call that joined another
one of its name waits for it still, or gave up while there was no outcome, or has answered what the
other one answers itself; whoever is waited for has recorded an outcome, or is registered for the
name still; and a wait ends. A waiting call takes the outcome when it is woken to one, and has an
answer, with the outcome or without, when its time is up. So once one of the two has happened, be
it among any moves of the others, it has given up without an outcome, or answered the outcome. -/
theorem waiters_agree (schedule : List (Move α ε)) :
    let board := empty.run schedule
    (∀ id outcome more, board.outcomeOf? id = some outcome →
      (board.run more).outcomeOf? id = some outcome) ∧
      (∀ waiter owner name, Joined waiter owner name schedule →
        ∃ call other, board.calls.get? waiter = some call ∧
          board.calls.get? owner = some other ∧ call.name = name ∧ other.name = name ∧
          (call.phase = .waiting owner ∨
            call.phase = .finished .timeout ∧ Expired waiter owner schedule ∨
            ∃ outcome, other.outcome = some outcome ∧
              call.phase = .finished (.ofOutcome outcome) ∧
              ∀ own wait, other.phase = .finished own →
                Answer.Echoes name wait (.ofOutcome outcome) own)) ∧
      (∀ waiter call owner, board.calls.get? waiter = some call → call.phase = .waiting owner →
        (∃ outcome, board.outcomeOf? owner = some outcome) ∨
          board.registrations.get? call.name = some owner ∧ board.Holds call.name owner) ∧
      (∀ waiter call owner, board.calls.get? waiter = some call → call.phase = .waiting owner →
        (∀ outcome, board.outcomeOf? owner = some outcome →
          (board.step (.wake waiter)).phase? waiter = some (.finished (.ofOutcome outcome))) ∧
        (board.step (.expire waiter)).phase? waiter =
          some (.finished ((board.outcomeOf? owner).elim .timeout .ofOutcome))) ∧
      (∀ waiter owner name more, Joined waiter owner name schedule →
        board.Ends waiter owner more →
        ∃ other, (board.run more).calls.get? owner = some other ∧
          ((board.run more).phase? waiter = some (.finished .timeout) ∧
              Expired waiter owner (schedule ++ more) ∨
            ∃ outcome, other.outcome = some outcome ∧
              (board.run more).phase? waiter = some (.finished (.ofOutcome outcome)))) := by
  intro board
  have consistent : board.Consistent := consistent_run consistent_empty schedule
  refine ⟨fun id outcome more recorded => outcomeOf?_run recorded more,
    fun waiter owner name joined => agreed_of_joined joined, ?_, ?_, ?_⟩
  · intro waiter call owner found phase
    obtain ⟨other, otherFound, named, holds | ⟨outcome, recorded⟩⟩ :=
      consistent.serves waiter call owner found phase
    · have held : board.Holds call.name owner := ⟨other, otherFound, named, holds⟩
      exact Or.inr ⟨(consistent.registered_iff _ _).2 held, held⟩
    · exact Or.inl ⟨outcome, outcomeOf?_eq_some_iff.2 ⟨other, otherFound, recorded⟩⟩
  · intro waiter call owner found phase
    exact ⟨fun outcome recorded => phase?_step_wake found phase recorded,
      phase?_step_expire found phase⟩
  · intro waiter owner name more joined ends
    obtain ⟨answer, finished⟩ := finished_of_joined joined ends
    obtain ⟨call, other, found, otherFound, -, -, came⟩ :=
      agreed_of_joined (Happened.append joined more)
    rw [run_append] at found otherFound
    refine ⟨other, otherFound, ?_⟩
    rcases came with waits | ⟨gaveUp, expired⟩ | ⟨outcome, recorded, answered, -⟩
    · cases finished.symm.trans (phase?_of_found found waits)
    · exact Or.inl ⟨phase?_of_found found gaveUp, expired⟩
    · exact Or.inr ⟨outcome, recorded, phase?_of_found found answered⟩

/-- The first of three calls of a name has it, and the two others wait. -/
def threeCalls : List (Move Nat String) :=
  [.arrive 1 "a", .arrive 2 "a", .arrive 3 "a", .check 1 .nothing, .check 2 .nothing,
    .check 3 .nothing, .enter 1, .enter 2, .enter 3, .check 1 .nothing]

/-- The time of the third is up before the first has a value; the second is woken to it. -/
def oneValue : List (Move Nat String) :=
  [.expire 3, .produce 1 (.value 7), .wake 2]

/-- Both waits come to an end: that of the second with the value of the first, and that of the
third without an outcome. -/
theorem waiters_agree_threeCalls :
    let board := empty.run threeCalls
    (Joined 2 1 "a" threeCalls ∧ board.Ends 2 1 oneValue) ∧
      (Joined 3 1 "a" threeCalls ∧ board.Ends 3 1 oneValue) ∧
      (board.run oneValue).phase? 2 = some (.finished (.value 7)) ∧
      (board.run oneValue).phase? 3 = some (.finished .timeout) ∧
      Expired 3 1 (threeCalls ++ oneValue) := by
  intro board
  have joined₂ : Joined 2 1 "a" threeCalls :=
    ⟨threeCalls.take 7, threeCalls.drop 8, rfl, ⟨"a", .missed, none, 1, 0⟩, by decide, rfl, rfl,
      by decide⟩
  have joined₃ : Joined 3 1 "a" threeCalls :=
    ⟨threeCalls.take 8, threeCalls.drop 9, rfl, ⟨"a", .missed, none, 1, 0⟩, by decide, rfl, rfl,
      by decide⟩
  have ends₂ : board.Ends 2 1 oneValue :=
    .woken ⟨[.expire 3, .produce 1 (.value 7)], [], rfl, .produced 7, by decide⟩
  have ends₃ : board.Ends 3 1 oneValue := .timeUp List.mem_cons_self
  have produced : (board.run oneValue).outcomeOf? 1 = some (.produced 7) := by decide
  obtain ⟨-, -, -, -, answers⟩ := waiters_agree threeCalls
  refine ⟨⟨joined₂, ends₂⟩, ⟨joined₃, ends₃⟩, ?_⟩
  have second : (board.run oneValue).phase? 2 = some (.finished (.value 7)) := by
    obtain ⟨other, found, ⟨-, before, after, split, -⟩ | ⟨outcome, recorded, answered⟩⟩ :=
      answers 2 1 "a" oneValue joined₂ ends₂
    · have expires : Move.expire 2 ∈ threeCalls ++ oneValue := by
        rw [split]
        exact List.mem_append_right _ List.mem_cons_self
      exact absurd expires (by decide)
    · rw [outcomeOf?, found] at produced
      cases recorded.symm.trans produced
      exact answered
  have without : (board.run oneValue).phase? 3 ≠ some (.finished (.value 7)) := by decide
  obtain ⟨other, found, ⟨gaveUp, expired⟩ | ⟨outcome, recorded, answered⟩⟩ :=
    answers 3 1 "a" oneValue joined₃ ends₃
  · exact ⟨second, gaveUp, expired⟩
  · rw [outcomeOf?, found] at produced
    cases recorded.symm.trans produced
    exact absurd answered without

-- The second call waits for the first, whose producer does not come back.
example :
    (empty.run [.arrive 1 "a", .arrive 2 "a", .check 1 .nothing, .check 2 .nothing, .enter 1,
      .enter 2, .check 1 .nothing, .produce 1 .torn, .settle 1, .wake 2] :
      Board Nat String).phase? 2 = some (.finished .abandoned) := by
  decide

end Board

end ModuleOpens.Exclusive
