/-
# Proofs.Exclusive.Answer — the answer that a call has come to

A call has its answer before it gives it: from the check that found it, or from
its producer, it goes on through its cleanup. A value never comes from nowhere
on the board: it was answered before under the same name, or a check or a
producer has just brought it.

* `Turn.given`, `Turn.checkedTwice`: where an answer, and a call past its second check, come from;
* `given?_run`: an answer stays;
* `eq_of_holds`: one call at a time is registered for a name.
-/
import ModuleOpens.Proofs.Exclusive.Consistent

namespace ModuleOpens.Exclusive

set_option autoImplicit false

variable {α ε : Type}

/-- The answer of a call that has one, whether it has given it already or is about to. -/
def Phase.given? : Phase α ε → Option (Answer α ε)
  | .settling answer | .leaving answer | .finished answer => some answer
  | _ => none

/-- The call is registered, and has been past its second check. -/
def Phase.checkedTwice : Phase α ε → Bool
  | .producing | .settling _ | .leaving _ => true
  | _ => false

namespace Call

variable {call : Call α ε} {value : α}

theorem given?_checked (phase : call.phase = .arrived ∨ call.phase = .registered)
    (finding : Finding α) :
    (call.checked finding).phase.given? = some (.value value) ↔ finding = .found value := by
  obtain ⟨name, _, outcome, checks, productions⟩ := call
  rcases phase with phase | phase
  all_goals
    cases phase
    cases finding with
    | found other =>
      show some (Answer.value other) = some (Answer.value value) ↔ _
      simp
    | nothing =>
      show none = some (Answer.value value) ↔ _
      simp
    | torn =>
      show some Answer.torn = some (Answer.value value) ↔ _
      simp

theorem given?_produced (call : Call α ε) (product : Product α ε) :
    (call.produced product).phase.given? = some (.value value) ↔ product = .value value := by
  cases product <;> simp [produced, moveTo, record, Phase.given?]

@[simp]
theorem name_checked (call : Call α ε) (finding : Finding α) :
    (call.checked finding).name = call.name := by
  obtain ⟨name, phase, outcome, checks, productions⟩ := call
  cases phase <;> cases finding <;> rfl

@[simp]
theorem name_produced (call : Call α ε) (product : Product α ε) :
    (call.produced product).name = call.name := by
  cases product <;> rfl

/-- Who has recorded a value answers it. -/
theorem Fits.given?_of_produced (fits : call.Fits) (recorded : call.outcome = some (.produced value)) :
    call.phase.given? = some (.value value) := by
  unfold Fits at fits
  split at fits <;> rename_i phase <;> rw [phase]
  · simp [recorded] at fits
  · simp [recorded] at fits
  · simp [recorded] at fits
  · simp [recorded] at fits
  · simp [recorded] at fits
  · rcases fits.2 with ⟨none, -⟩ | ⟨outcome, isOutcome, rfl⟩
    · rw [recorded] at none
      cases none
    · rw [recorded] at isOutcome
      cases isOutcome
      rfl
  · obtain ⟨-, outcome, isOutcome, rfl⟩ := fits
    rw [recorded] at isOutcome
    cases isOutcome
    rfl
  · rw [fits.2 _ recorded]
    rfl

end Call

namespace Board

/-- The call is one for the name. -/
def IsFor (board : Board α ε) (name : String) (id : CallId) : Prop :=
  ∃ call, board.calls.get? id = some call ∧ call.name = name

/-- The producer of a call for the name runs. -/
def Produces (board : Board α ε) (name : String) (id : CallId) : Prop :=
  ∃ call, board.calls.get? id = some call ∧ call.name = name ∧ call.phase = .producing

variable {board : Board α ε} {move : Move α ε} {id : CallId} {after : Call α ε} {value : α}

/-- A value that a call answers was answered before by a call of its name, or its own check
found it, or its own producer came back with it. -/
theorem Turn.given (turn : Turn board move id after) (consistent : board.Consistent)
    (given : after.phase.given? = some (.value value)) :
    (∃ other call, board.calls.get? other = some call ∧ call.name = after.name ∧
        call.phase.given? = some (.value value)) ∨
      (board.IsFor after.name id ∧ move = .check id (.found value)) ∨
      board.Produces after.name id ∧ move = .produce id (.value value) := by
  cases turn with
  | stayed found => exact Or.inl ⟨id, after, found, rfl, given⟩
  | arrived name fresh made => cases given
  | @firstChecked call found phase finding made =>
    rw [Call.given?_checked (Or.inl phase)] at given
    subst given
    exact Or.inr (Or.inl ⟨⟨call, found, (call.name_checked _).symm⟩, made⟩)
  | registered found phase free made => cases given
  | joined found phase taken made => cases given
  | @secondChecked call found phase finding made =>
    rw [Call.given?_checked (Or.inr phase)] at given
    subst given
    exact Or.inr (Or.inl ⟨⟨call, found, (call.name_checked _).symm⟩, made⟩)
  | @produced call found phase product made =>
    rw [Call.given?_produced] at given
    subst given
    exact Or.inr (Or.inr ⟨⟨call, found, (call.name_produced _).symm, phase⟩, made⟩)
  | @settled call answer found phase made =>
    refine Or.inl ⟨id, call, found, rfl, ?_⟩
    rw [phase]
    exact given
  | @left call answer found phase made =>
    refine Or.inl ⟨id, call, found, rfl, ?_⟩
    rw [phase]
    exact given
  | @answered call owner outcome found phase recorded made =>
    -- The call that it waited for is one of the same name, and has recorded the value.
    have produced : outcome = .produced value := by
      cases outcome with
      | produced other =>
        cases given
        rfl
      | failed error => cases given
      | abandoned => cases given
    subst produced
    obtain ⟨other, otherFound, named, -⟩ := consistent.serves id call owner found phase
    obtain ⟨same, sameFound, isOutcome⟩ := Option.bind_eq_some_iff.1 recorded
    cases sameFound.symm.trans otherFound
    exact Or.inl ⟨owner, other, otherFound, named,
      (consistent.fits owner other otherFound).given?_of_produced isOutcome⟩
  | expired found phase unrecorded made => cases given

/-- A registered call past its second check was past it before, with the same answer, or it just
came out of the check, or its producer just came back. -/
theorem Turn.checkedTwice (turn : Turn board move id after)
    (past : after.phase.checkedTwice = true) :
    (∃ call, board.calls.get? id = some call ∧ call.name = after.name ∧
        call.phase.checkedTwice = true ∧ call.phase.given? = after.phase.given?) ∨
      (∃ call finding, board.calls.get? id = some call ∧ call.phase = .registered ∧
        move = .check id finding ∧ after = call.checked finding) ∨
      ∃ call product, board.calls.get? id = some call ∧ call.phase = .producing ∧
        move = .produce id product ∧ after = call.produced product := by
  cases turn with
  | stayed found => exact Or.inl ⟨after, found, rfl, past, rfl⟩
  | arrived name fresh made => cases past
  | @firstChecked call found phase finding made =>
    obtain ⟨name, _, outcome, checks, productions⟩ := call
    cases phase
    cases finding <;> cases past
  | registered found phase free made => cases past
  | joined found phase taken made => cases past
  | @secondChecked call found phase finding made =>
    exact Or.inr (Or.inl ⟨call, finding, found, phase, made, rfl⟩)
  | @produced call found phase product made =>
    exact Or.inr (Or.inr ⟨call, product, found, phase, made, rfl⟩)
  | @settled call answer found phase made =>
    refine Or.inl ⟨call, found, rfl, ?_, ?_⟩
    · rw [phase]
      rfl
    · rw [phase]
      rfl
  | left found phase made => cases past
  | answered found phase recorded made => cases past
  | expired found phase unrecorded made => cases past

/-- One call at a time is registered for a name. -/
theorem Consistent.eq_of_holds (consistent : board.Consistent) {name : String} {other : CallId}
    (holds : board.Holds name id) (otherHolds : board.Holds name other) : other = id := by
  have taken := (consistent.registered_iff name id).2 holds
  rw [(consistent.registered_iff name other).2 otherHolds] at taken
  exact Option.some.inj taken

section Kept

variable {call : Call α ε} {answer : Answer α ε}

/-- A call that has an answer keeps it. -/
theorem given?_step (found : board.calls.get? id = some call)
    (given : call.phase.given? = some answer) (move : Move α ε) :
    ∃ after, (board.step move).calls.get? id = some after ∧
      after.phase.given? = some answer := by
  obtain ⟨after, afterFound⟩ := exists_step found move
  refine ⟨after, afterFound, ?_⟩
  have stands {phase : Phase α ε} {present : Call α ε}
      (presentFound : board.calls.get? id = some present) (is : present.phase = phase) :
      phase.given? = some answer := by
    cases presentFound.symm.trans found
    rw [← is]
    exact given
  cases turn_step afterFound with
  | stayed present =>
    cases present.symm.trans found
    exact given
  | arrived name fresh made => cases fresh.symm.trans found
  | firstChecked present phase finding made => cases stands present phase
  | registered present phase free made => cases stands present phase
  | joined present phase taken made => cases stands present phase
  | secondChecked present phase finding made => cases stands present phase
  | produced present phase product made => cases stands present phase
  | settled present phase made =>
    have same := stands present phase
    exact same
  | left present phase made =>
    have same := stands present phase
    exact same
  | answered present phase recorded made => cases stands present phase
  | expired present phase unrecorded made => cases stands present phase

theorem given?_run (found : board.calls.get? id = some call)
    (given : call.phase.given? = some answer) (schedule : List (Move α ε)) :
    ∃ after, (board.run schedule).calls.get? id = some after ∧
      after.phase.given? = some answer := by
  induction schedule generalizing board call with
  | nil => exact ⟨call, found, given⟩
  | cons move rest ih =>
    obtain ⟨middle, middleFound, middleGiven⟩ := given?_step found given move
    exact ih middleFound middleGiven

end Kept

end Board

theorem Phase.holds_of_checkedTwice {phase : Phase α ε} (past : phase.checkedTwice = true) :
    phase.holds = true := by
  cases phase <;> first | rfl | cases past

end ModuleOpens.Exclusive
