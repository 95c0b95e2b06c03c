/-
# Proofs.Exclusive.Advance — what a move does to a board

A move does nothing, or it is one of nine advances of its own call. `Advance`
lists them with the state that each needs and the board that each leaves; later
proofs go by its cases and never open `step`.

* `step_cases`: every move is an advance, or does nothing;
* `Advance.step_eq`: every advance is made by its move;
* `step_other`, `run_other`: the other calls are left alone;
* `turn_step`: how one call comes out of a move.
-/
import ModuleOpens.Exclusive.Board

namespace ModuleOpens.Exclusive

set_option autoImplicit false

namespace Board

variable {α ε : Type} {board : Board α ε} {id : CallId}

/-- The call registers for its name. -/
def registered (board : Board α ε) (id : CallId) (call : Call α ε) : Board α ε :=
  { board.setCall id (call.moveTo .registered) with
    registrations := board.registrations.set call.name id }

/-- What one move can do to a board. -/
inductive Advance (board : Board α ε) : Move α ε → Board α ε → Prop where
  /-- A new call comes. -/
  | arrived {id : CallId} (name : String) (fresh : board.calls.get? id = none) :
      Advance board (.arrive id name) (board.setCall id (.new name))
  /-- The first check comes back. -/
  | firstChecked {id : CallId} {call : Call α ε} (found : board.calls.get? id = some call)
      (phase : call.phase = .arrived) (finding : Finding α) :
      Advance board (.check id finding) (board.setCall id (call.checked finding))
  /-- The name is free, and the call registers. -/
  | registered {id : CallId} {call : Call α ε} (found : board.calls.get? id = some call)
      (phase : call.phase = .missed) (free : board.registrations.get? call.name = none) :
      Advance board (.enter id) (board.registered id call)
  /-- The name is taken, and the call waits for whoever has it. -/
  | joined {id : CallId} {call : Call α ε} {owner : CallId}
      (found : board.calls.get? id = some call) (phase : call.phase = .missed)
      (taken : board.registrations.get? call.name = some owner) :
      Advance board (.enter id) (board.setCall id (call.moveTo (.waiting owner)))
  /-- The second check comes back. -/
  | secondChecked {id : CallId} {call : Call α ε} (found : board.calls.get? id = some call)
      (phase : call.phase = .registered) (finding : Finding α) :
      Advance board (.check id finding) (board.setCall id (call.checked finding))
  /-- The producer comes back. -/
  | produced {id : CallId} {call : Call α ε} (found : board.calls.get? id = some call)
      (phase : call.phase = .producing) (product : Product α ε) :
      Advance board (.produce id product) (board.setCall id (call.produced product))
  /-- An outcome is recorded if none was. -/
  | settled {id : CallId} {call : Call α ε} {answer : Answer α ε}
      (found : board.calls.get? id = some call) (phase : call.phase = .settling answer) :
      Advance board (.settle id)
        (board.setCall id ((call.record .abandoned).moveTo (.leaving answer)))
  /-- The call removes its registration and is done. -/
  | left {id : CallId} {call : Call α ε} {answer : Answer α ε}
      (found : board.calls.get? id = some call) (phase : call.phase = .leaving answer) :
      Advance board (.leave id)
        ((board.release call.name id).setCall id (call.moveTo (.finished answer)))
  /-- The call gets the outcome that it waited for. -/
  | answered {id : CallId} {call : Call α ε} {owner : CallId} {outcome : Outcome α ε}
      (found : board.calls.get? id = some call) (phase : call.phase = .waiting owner)
      (recorded : board.outcomeOf? owner = some outcome) {move : Move α ε}
      (awake : move = .wake id ∨ move = .expire id) :
      Advance board move (board.setCall id (call.moveTo (.finished (.ofOutcome outcome))))
  /-- The call has waited as long as it may, and there is no outcome. -/
  | expired {id : CallId} {call : Call α ε} {owner : CallId}
      (found : board.calls.get? id = some call) (phase : call.phase = .waiting owner)
      (unrecorded : board.outcomeOf? owner = none) :
      Advance board (.expire id) (board.setCall id (call.moveTo (.finished .timeout)))

/-- A move that goes through does what the advance of its case says. -/
theorem Advance.step_eq {move : Move α ε} {after : Board α ε} (advance : Advance board move after) :
    board.step move = after := by
  cases advance with
  | arrived name fresh => simp [step, Move.id, fresh]
  | firstChecked found phase finding => simp [step, Move.id, found, moved, phase]
  | registered found phase free =>
    simp [step, Move.id, found, moved, phase, entered, free, Board.registered]
  | joined found phase taken => simp [step, Move.id, found, moved, phase, entered, taken]
  | secondChecked found phase finding => simp [step, Move.id, found, moved, phase]
  | produced found phase product => simp [step, Move.id, found, moved, phase]
  | settled found phase => simp [step, Move.id, found, moved, phase]
  | left found phase => simp [step, Move.id, found, moved, phase]
  | answered found phase recorded awake =>
    rcases awake with rfl | rfl <;> simp [step, Move.id, found, moved, phase, recorded]
  | expired found phase unrecorded =>
    simp [step, Move.id, found, moved, phase, unrecorded]

/-- A move of a call that stands on the board. -/
theorem moved_cases {call : Call α ε} (move : Move α ε)
    (found : board.calls.get? move.id = some call) :
    board.step move = board ∨ ∃ after, Advance board move after := by
  have stays (same : board.moved move.id call move = board) : board.step move = board := by
    unfold step
    rw [found]
    exact same
  cases move with
  | arrive id name => exact Or.inl (stays rfl)
  | check id finding =>
    cases phase : call.phase with
    | arrived => exact Or.inr ⟨_, .firstChecked found phase finding⟩
    | registered => exact Or.inr ⟨_, .secondChecked found phase finding⟩
    | _ => exact Or.inl (stays (by simp only [moved, phase]))
  | enter id =>
    cases phase : call.phase with
    | missed =>
      cases taken : board.registrations.get? call.name with
      | none => exact Or.inr ⟨_, .registered found phase taken⟩
      | some owner => exact Or.inr ⟨_, .joined found phase taken⟩
    | _ => exact Or.inl (stays (by simp only [moved, phase]))
  | produce id product =>
    cases phase : call.phase with
    | producing => exact Or.inr ⟨_, .produced found phase product⟩
    | _ => exact Or.inl (stays (by simp only [moved, phase]))
  | settle id =>
    cases phase : call.phase with
    | settling answer => exact Or.inr ⟨_, .settled found phase⟩
    | _ => exact Or.inl (stays (by simp only [moved, phase]))
  | leave id =>
    cases phase : call.phase with
    | leaving answer => exact Or.inr ⟨_, .left found phase⟩
    | _ => exact Or.inl (stays (by simp only [moved, phase]))
  | wake id =>
    cases phase : call.phase with
    | waiting owner =>
      cases recorded : board.outcomeOf? owner with
      | none => exact Or.inl (stays (by simp only [moved, phase, recorded]))
      | some outcome => exact Or.inr ⟨_, .answered found phase recorded (Or.inl rfl)⟩
    | _ => exact Or.inl (stays (by simp only [moved, phase]))
  | expire id =>
    cases phase : call.phase with
    | waiting owner =>
      cases recorded : board.outcomeOf? owner with
      | none => exact Or.inr ⟨_, .expired found phase recorded⟩
      | some outcome => exact Or.inr ⟨_, .answered found phase recorded (Or.inr rfl)⟩
    | _ => exact Or.inl (stays (by simp only [moved, phase]))

/-- Every move is an advance, or does nothing. -/
theorem step_cases (board : Board α ε) (move : Move α ε) :
    board.step move = board ∨ Advance board move (board.step move) := by
  have found : board.step move = board ∨ ∃ after, Advance board move after := by
    cases present : board.calls.get? move.id with
    | some call => exact moved_cases move present
    | none =>
      cases move with
      | arrive id name => exact Or.inr ⟨_, .arrived name present⟩
      | _ => exact Or.inl (by simp only [step, present])
  rcases found with same | ⟨after, advance⟩
  · exact Or.inl same
  · rw [advance.step_eq]
    exact Or.inr advance

/-! ## One call among the others -/

/-- A board on which one call is written; its registrations may be others. -/
theorem found_written {written : Board α ε} {call : Call α ε}
    (calls : written.calls = board.calls.set id call) : written.calls.get? id = some call := by
  rw [calls, Table.get?_set, if_pos rfl]

@[simp]
theorem calls_release (board : Board α ε) (name : String) (id : CallId) :
    (board.release name id).calls = board.calls := by
  unfold release
  split <;> rfl

/-- An advance writes its own call. -/
theorem Advance.exists_calls {move : Move α ε} {after : Board α ε}
    (advance : Advance board move after) :
    ∃ call, after.calls = board.calls.set move.id call := by
  cases advance with
  | @left id call answer found phase =>
    refine ⟨call.moveTo (.finished answer), ?_⟩
    show (board.release call.name id).calls.set _ _ = _
    rw [calls_release]
    rfl
  | answered found phase recorded awake => rcases awake with rfl | rfl <;> exact ⟨_, rfl⟩
  | _ => exact ⟨_, rfl⟩

/-- A move leaves the other calls alone. -/
theorem step_other {move : Move α ε} (other : move.id ≠ id) :
    (board.step move).calls.get? id = board.calls.get? id := by
  rcases board.step_cases move with same | advance
  · rw [same]
  · obtain ⟨call, calls⟩ := advance.exists_calls
    rw [calls, Table.get?_set, if_neg (Ne.symm other)]

/-- No call goes away. -/
theorem exists_step {call : Call α ε} (found : board.calls.get? id = some call)
    (move : Move α ε) : ∃ after, (board.step move).calls.get? id = some after := by
  by_cases own : move.id = id
  · subst own
    rcases board.step_cases move with same | advance
    · rw [same]
      exact ⟨call, found⟩
    · obtain ⟨after, calls⟩ := advance.exists_calls
      exact ⟨after, found_written calls⟩
  · rw [step_other own]
    exact ⟨call, found⟩

/-- A run without moves of a call leaves it alone. -/
theorem run_other {schedule : List (Move α ε)} (others : ∀ move ∈ schedule, move.id ≠ id) :
    (board.run schedule).calls.get? id = board.calls.get? id := by
  induction schedule generalizing board with
  | nil => rfl
  | cons move rest ih =>
    show ((board.step move).run rest).calls.get? id = _
    rw [ih fun other member => others other (List.mem_cons_of_mem _ member),
      step_other (others move List.mem_cons_self)]

theorem run_append (board : Board α ε) (schedule more : List (Move α ε)) :
    board.run (schedule ++ more) = (board.run schedule).run more :=
  List.foldl_append

/-! ## One call after a move -/

/-- How one call comes out of a move: it is the call that was there, or what its own advance made
of that. -/
inductive Turn (board : Board α ε) (move : Move α ε) (id : CallId) : Call α ε → Prop where
  | stayed {call : Call α ε} (found : board.calls.get? id = some call) : Turn board move id call
  | arrived (name : String) (fresh : board.calls.get? id = none) (made : move = .arrive id name) :
      Turn board move id (.new name)
  | firstChecked {call : Call α ε} (found : board.calls.get? id = some call)
      (phase : call.phase = .arrived) (finding : Finding α) (made : move = .check id finding) :
      Turn board move id (call.checked finding)
  | registered {call : Call α ε} (found : board.calls.get? id = some call)
      (phase : call.phase = .missed) (free : board.registrations.get? call.name = none)
      (made : move = .enter id) : Turn board move id (call.moveTo .registered)
  | joined {call : Call α ε} {owner : CallId} (found : board.calls.get? id = some call)
      (phase : call.phase = .missed) (taken : board.registrations.get? call.name = some owner)
      (made : move = .enter id) : Turn board move id (call.moveTo (.waiting owner))
  | secondChecked {call : Call α ε} (found : board.calls.get? id = some call)
      (phase : call.phase = .registered) (finding : Finding α) (made : move = .check id finding) :
      Turn board move id (call.checked finding)
  | produced {call : Call α ε} (found : board.calls.get? id = some call)
      (phase : call.phase = .producing) (product : Product α ε) (made : move = .produce id product) :
      Turn board move id (call.produced product)
  | settled {call : Call α ε} {answer : Answer α ε} (found : board.calls.get? id = some call)
      (phase : call.phase = .settling answer) (made : move = .settle id) :
      Turn board move id ((call.record .abandoned).moveTo (.leaving answer))
  | left {call : Call α ε} {answer : Answer α ε} (found : board.calls.get? id = some call)
      (phase : call.phase = .leaving answer) (made : move = .leave id) :
      Turn board move id (call.moveTo (.finished answer))
  | answered {call : Call α ε} {owner : CallId} {outcome : Outcome α ε}
      (found : board.calls.get? id = some call) (phase : call.phase = .waiting owner)
      (recorded : board.outcomeOf? owner = some outcome)
      (made : move = .wake id ∨ move = .expire id) :
      Turn board move id (call.moveTo (.finished (.ofOutcome outcome)))
  | expired {call : Call α ε} {owner : CallId} (found : board.calls.get? id = some call)
      (phase : call.phase = .waiting owner) (unrecorded : board.outcomeOf? owner = none)
      (made : move = .expire id) : Turn board move id (call.moveTo (.finished .timeout))

/-- An advance gives its own call its turn. -/
theorem Advance.turn {move : Move α ε} {written : Board α ε} {after : Call α ε}
    (advance : Advance board move written) (found : written.calls.get? move.id = some after) :
    Turn board move move.id after := by
  have same {call : Call α ε} {id : CallId} (calls : written.calls = board.calls.set id call)
      (own : move.id = id) : after = call := by
    subst own
    exact Option.some.inj (found.symm.trans (found_written calls))
  cases advance with
  | arrived name fresh =>
    rw [same rfl rfl]
    exact .arrived name fresh rfl
  | firstChecked present phase finding =>
    rw [same rfl rfl]
    exact .firstChecked present phase finding rfl
  | registered present phase free =>
    rw [same rfl rfl]
    exact .registered present phase free rfl
  | joined present phase taken =>
    rw [same rfl rfl]
    exact .joined present phase taken rfl
  | secondChecked present phase finding =>
    rw [same rfl rfl]
    exact .secondChecked present phase finding rfl
  | produced present phase product =>
    rw [same rfl rfl]
    exact .produced present phase product rfl
  | settled present phase =>
    rw [same rfl rfl]
    exact .settled present phase rfl
  | left present phase =>
    rw [same (congrArg (Table.set · _ _) (calls_release ..)) rfl]
    exact .left present phase rfl
  | answered present phase recorded awake =>
    rcases awake with rfl | rfl
    · rw [same rfl rfl]
      exact .answered present phase recorded (Or.inl rfl)
    · rw [same rfl rfl]
      exact .answered present phase recorded (Or.inr rfl)
  | expired present phase unrecorded =>
    rw [same rfl rfl]
    exact .expired present phase unrecorded rfl

/-- Every call of a board after a move comes out of it in one of these ways. -/
theorem turn_step {move : Move α ε} {after : Call α ε}
    (found : (board.step move).calls.get? id = some after) : Turn board move id after := by
  by_cases own : move.id = id
  · subst own
    rcases board.step_cases move with same | advance
    · rw [same] at found
      exact .stayed found
    · exact advance.turn found
  · rw [step_other own] at found
    exact .stayed found

end Board

end ModuleOpens.Exclusive
