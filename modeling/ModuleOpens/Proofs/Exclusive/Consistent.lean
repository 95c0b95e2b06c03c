/-
# Proofs.Exclusive.Consistent — what holds of a board at every point of a schedule

The registrations of a board and the phases of its calls say the same: a name
is registered for the one call of that name that holds it. A call records no
outcome before it has an answer, and then the outcome that its answer comes
from. Whoever is waited for is still busy with the name, or has recorded an
outcome.

* `Consistent`: the invariant;
* `consistent_step`: every move keeps it;
* `consistent_run`: so it holds after every schedule.
-/
import ModuleOpens.Proofs.Exclusive.Advance

namespace ModuleOpens.Exclusive

set_option autoImplicit false

variable {α ε : Type}

/-- What a call answers itself when it records an outcome. -/
def Outcome.ownAnswer : Outcome α ε → Answer α ε
  | .produced value => .value value
  | .failed error => .failure error
  | .abandoned => .torn

namespace Call

/-- What a call has recorded and how often it has produced fit with where it stands. -/
def Fits (call : Call α ε) : Prop :=
  match call.phase with
  | .arrived | .missed | .waiting _ | .registered => call.outcome = none ∧ call.productions = 0
  | .producing => call.outcome = none ∧ call.productions = 1
  | .settling answer => call.productions ≤ 1 ∧
      (call.outcome = none ∧ answer = .torn ∨
        ∃ outcome, call.outcome = some outcome ∧ answer = outcome.ownAnswer)
  | .leaving answer => call.productions ≤ 1 ∧
      ∃ outcome, call.outcome = some outcome ∧ answer = outcome.ownAnswer
  | .finished answer => call.productions ≤ 1 ∧
      ∀ outcome, call.outcome = some outcome → answer = outcome.ownAnswer

theorem fits_new (name : String) : (new name : Call α ε).Fits := ⟨rfl, rfl⟩

/-- A call goes on, without taking or giving up its registration. -/
structure Continues (call after : Call α ε) : Prop where
  name : after.name = call.name
  holds : after.phase.holds = call.phase.holds
  keeps : ∀ outcome, call.outcome = some outcome → after.outcome = some outcome
  fits : call.Fits → after.Fits

variable {call : Call α ε}

theorem continues_firstChecked (phase : call.phase = .arrived) (finding : Finding α) :
    call.Continues (call.checked finding) := by
  obtain ⟨name, _, outcome, checks, productions⟩ := call
  cases phase
  cases finding with
  | found value =>
    refine ⟨rfl, rfl, fun _ recorded => recorded, ?_⟩
    rintro ⟨rfl, rfl⟩
    exact ⟨Nat.zero_le 1, fun _ recorded => nomatch recorded⟩
  | nothing => exact ⟨rfl, rfl, fun _ recorded => recorded, id⟩
  | torn =>
    refine ⟨rfl, rfl, fun _ recorded => recorded, ?_⟩
    rintro ⟨rfl, rfl⟩
    exact ⟨Nat.zero_le 1, fun _ recorded => nomatch recorded⟩

theorem continues_secondChecked (phase : call.phase = .registered) (finding : Finding α) :
    call.Continues (call.checked finding) := by
  obtain ⟨name, _, outcome, checks, productions⟩ := call
  cases phase
  cases finding with
  | found value =>
    refine ⟨rfl, rfl, ?_, ?_⟩
    · rintro recorded rfl
      rfl
    · rintro ⟨rfl, rfl⟩
      exact ⟨Nat.zero_le 1, Or.inr ⟨.produced value, rfl, rfl⟩⟩
  | nothing =>
    refine ⟨rfl, rfl, fun _ recorded => recorded, ?_⟩
    rintro ⟨rfl, rfl⟩
    exact ⟨rfl, rfl⟩
  | torn =>
    refine ⟨rfl, rfl, fun _ recorded => recorded, ?_⟩
    rintro ⟨rfl, rfl⟩
    exact ⟨Nat.zero_le 1, Or.inl ⟨rfl, rfl⟩⟩

theorem continues_produced (phase : call.phase = .producing) (product : Product α ε) :
    call.Continues (call.produced product) := by
  obtain ⟨name, _, outcome, checks, productions⟩ := call
  cases phase
  cases product with
  | value value =>
    refine ⟨rfl, rfl, ?_, ?_⟩
    · rintro recorded rfl
      rfl
    · rintro ⟨rfl, rfl⟩
      exact ⟨Nat.le_refl 1, Or.inr ⟨.produced value, rfl, rfl⟩⟩
  | failure error =>
    refine ⟨rfl, rfl, ?_, ?_⟩
    · rintro recorded rfl
      rfl
    · rintro ⟨rfl, rfl⟩
      exact ⟨Nat.le_refl 1, Or.inr ⟨.failed error, rfl, rfl⟩⟩
  | torn =>
    refine ⟨rfl, rfl, fun _ recorded => recorded, ?_⟩
    rintro ⟨rfl, rfl⟩
    exact ⟨Nat.le_refl 1, Or.inl ⟨rfl, rfl⟩⟩

/-- A check does not make a call wait. -/
theorem phase_checked_ne (phase : call.phase = .arrived ∨ call.phase = .registered)
    (finding : Finding α) (owner : CallId) : (call.checked finding).phase ≠ .waiting owner := by
  intro waiting
  obtain ⟨name, _, outcome, checks, productions⟩ := call
  rcases phase with phase | phase <;> cases phase <;> cases finding <;> cases waiting

/-- Nor does a producer. -/
theorem phase_produced_ne (call : Call α ε) (product : Product α ε) (owner : CallId) :
    (call.produced product).phase ≠ .waiting owner := by
  intro waiting
  cases product <;> cases waiting

theorem continues_settled {answer : Answer α ε} (phase : call.phase = .settling answer) :
    call.Continues ((call.record .abandoned).moveTo (.leaving answer)) := by
  obtain ⟨name, _, outcome, checks, productions⟩ := call
  cases phase
  refine ⟨rfl, rfl, ?_, ?_⟩
  · rintro recorded rfl
    rfl
  · rintro ⟨once, ⟨rfl, rfl⟩ | ⟨recorded, rfl, rfl⟩⟩
    · exact ⟨once, .abandoned, rfl, rfl⟩
    · exact ⟨once, recorded, rfl, rfl⟩

theorem continues_joined (phase : call.phase = .missed) (owner : CallId) :
    call.Continues (call.moveTo (.waiting owner)) := by
  obtain ⟨name, _, outcome, checks, productions⟩ := call
  cases phase
  exact ⟨rfl, rfl, fun _ recorded => recorded, id⟩

theorem continues_answered {owner : CallId} (phase : call.phase = .waiting owner)
    (answer : Answer α ε) : call.Continues (call.moveTo (.finished answer)) := by
  obtain ⟨name, _, outcome, checks, productions⟩ := call
  cases phase
  refine ⟨rfl, rfl, fun _ recorded => recorded, ?_⟩
  rintro ⟨rfl, rfl⟩
  exact ⟨Nat.zero_le 1, fun _ recorded => nomatch recorded⟩

end Call

namespace Board

/-- The call has registered for the name, and has not left yet. -/
def Holds (board : Board α ε) (name : String) (id : CallId) : Prop :=
  ∃ call, board.calls.get? id = some call ∧ call.name = name ∧ call.phase.holds = true

/-- Someone with this name can be waited for: it is busy with the name, or it has recorded an
outcome. -/
def Serves (board : Board α ε) (name : String) (owner : CallId) : Prop :=
  ∃ call, board.calls.get? owner = some call ∧ call.name = name ∧
    (call.phase.holds = true ∨ ∃ outcome, call.outcome = some outcome)

/-- The invariant of a board. -/
structure Consistent (board : Board α ε) : Prop where
  nodup : board.registrations.keys.Nodup
  registered_iff : ∀ name id, board.registrations.get? name = some id ↔ board.Holds name id
  fits : ∀ id call, board.calls.get? id = some call → call.Fits
  serves : ∀ id call owner, board.calls.get? id = some call → call.phase = .waiting owner →
    board.Serves call.name owner

theorem consistent_empty : (empty : Board α ε).Consistent where
  nodup := List.nodup_nil
  registered_iff name id := by
    constructor
    · intro registered
      cases registered
    · rintro ⟨call, found, -⟩
      cases found
  fits id call found := nomatch found
  serves id call owner found := nomatch found

variable {board written : Board α ε} {id : CallId} {call after : Call α ε}

theorem holds_iff_of_found (found : board.calls.get? id = some call) (name : String) :
    board.Holds name id ↔ call.name = name ∧ call.phase.holds = true := by
  unfold Holds
  rw [found]
  simp only [Option.some.injEq, exists_eq_left']

/-- A call that holds its name is the one registered for it. -/
theorem Consistent.registered_of_holds (consistent : board.Consistent)
    (found : board.calls.get? id = some call) (holds : call.phase.holds = true) :
    board.registrations.get? call.name = some id :=
  (consistent.registered_iff call.name id).2 ⟨call, found, rfl, holds⟩

/-! ## A board on which one call is written

The registrations of the two boards may differ: what is said here is about the calls alone. -/

theorem holds_written_other (calls : written.calls = board.calls.set id after) {other : CallId}
    (apart : other ≠ id) (name : String) : written.Holds name other ↔ board.Holds name other := by
  unfold Holds
  rw [calls, Table.get?_set, if_neg apart]

theorem Consistent.fits_written (consistent : board.Consistent)
    (calls : written.calls = board.calls.set id after) (fits : after.Fits) :
    ∀ other present, written.calls.get? other = some present → present.Fits := by
  intro other present presentFound
  rw [calls, Table.get?_set] at presentFound
  split at presentFound
  · cases presentFound
    exact fits
  · exact consistent.fits other present presentFound

/-- Who could be waited for can be, if the written call can. -/
theorem Serves.on_written {name : String} {owner : CallId} (serves : board.Serves name owner)
    (calls : written.calls = board.calls.set id after)
    (goesOn : board.Serves name id → written.Serves name id) : written.Serves name owner := by
  by_cases own : owner = id
  · subst own
    exact goesOn serves
  · unfold Serves
    rw [calls, Table.get?_set, if_neg own]
    exact serves

theorem Consistent.serves_written (consistent : board.Consistent)
    (calls : written.calls = board.calls.set id after)
    (goesOn : ∀ name, board.Serves name id → written.Serves name id)
    (awaits : ∀ owner, after.phase = .waiting owner → board.Serves after.name owner) :
    ∀ other present owner, written.calls.get? other = some present →
      present.phase = .waiting owner → written.Serves present.name owner := by
  intro other present owner presentFound waiting
  rw [calls, Table.get?_set] at presentFound
  split at presentFound
  · cases presentFound
    exact (awaits owner waiting).on_written calls (goesOn after.name)
  · exact (consistent.serves other present owner presentFound waiting).on_written calls
      (goesOn present.name)

/-! ## The four kinds of advances -/

/-- A call that goes on keeps the board consistent. -/
theorem Consistent.setCall (consistent : board.Consistent)
    (found : board.calls.get? id = some call) (continues : call.Continues after)
    (awaits : ∀ owner, after.phase = .waiting owner → board.Serves after.name owner) :
    (board.setCall id after).Consistent := by
  have calls : (board.setCall id after).calls = board.calls.set id after := rfl
  refine ⟨consistent.nodup, fun name other => ?_, ?_, ?_⟩
  · show board.registrations.get? name = some other ↔ _
    rw [consistent.registered_iff]
    by_cases own : other = id
    · subst own
      rw [holds_iff_of_found found, holds_iff_of_found (found_written calls), continues.name,
        continues.holds]
    · exact (holds_written_other calls own name).symm
  · exact consistent.fits_written calls (continues.fits (consistent.fits id call found))
  · refine consistent.serves_written calls ?_ awaits
    rintro name ⟨present, presentFound, named, busy⟩
    cases found.symm.trans presentFound
    refine ⟨after, found_written calls, continues.name.trans named, ?_⟩
    rcases busy with holds | ⟨outcome, recorded⟩
    · exact Or.inl (continues.holds.trans holds)
    · exact Or.inr ⟨outcome, continues.keeps outcome recorded⟩

/-- A call that comes to the board changes nothing for the others. -/
theorem Consistent.arrived (consistent : board.Consistent)
    (fresh : board.calls.get? id = none) (name : String) :
    (board.setCall id (.new name)).Consistent := by
  have calls : (board.setCall id (.new name)).calls = board.calls.set id (.new name) := rfl
  refine ⟨consistent.nodup, fun other owner => ?_, ?_, ?_⟩
  · show board.registrations.get? other = some owner ↔ _
    rw [consistent.registered_iff]
    by_cases own : owner = id
    · subst own
      -- Neither side holds anything: the call was not there, and it comes with no registration.
      rw [holds_iff_of_found (found_written calls)]
      constructor
      · rintro ⟨present, presentFound, -⟩
        cases fresh.symm.trans presentFound
      · rintro ⟨-, holds⟩
        cases holds
    · exact (holds_written_other calls own other).symm
  · exact consistent.fits_written calls (Call.fits_new name)
  · refine consistent.serves_written calls ?_ ?_
    · rintro other ⟨present, presentFound, -⟩
      cases fresh.symm.trans presentFound
    · intro owner waiting
      cases waiting

/-- A call that registers for a free name is the one that holds it. -/
theorem Consistent.registered (consistent : board.Consistent)
    (found : board.calls.get? id = some call) (phase : call.phase = .missed)
    (free : board.registrations.get? call.name = none) : (board.registered id call).Consistent := by
  have calls : (board.registered id call).calls = board.calls.set id (call.moveTo .registered) :=
    rfl
  refine ⟨Table.nodup_keys_set consistent.nodup _ _, fun name other => ?_, ?_, ?_⟩
  · show (board.registrations.set call.name id).get? name = some other ↔ _
    rw [Table.get?_set]
    by_cases own : other = id
    · subst own
      have held : (board.registered other call).Holds name other ↔ call.name = name := by
        rw [holds_iff_of_found (found_written calls)]
        exact and_iff_left rfl
      have unheld : ¬ board.Holds name other := by
        rw [holds_iff_of_found found, phase]
        rintro ⟨-, holds⟩
        cases holds
      rw [held]
      by_cases same : name = call.name
      · rw [if_pos same]
        exact iff_of_true rfl same.symm
      · rw [if_neg same, consistent.registered_iff]
        exact iff_of_false unheld (Ne.symm same)
    · rw [holds_written_other calls own, ← consistent.registered_iff]
      by_cases same : name = call.name
      · subst same
        rw [if_pos rfl, free, Option.some.injEq]
        exact iff_of_false (Ne.symm own) nofun
      · rw [if_neg same]
  · have fits := consistent.fits id call found
    unfold Call.Fits at fits
    rw [phase] at fits
    exact consistent.fits_written calls fits
  · refine consistent.serves_written calls ?_ ?_
    · rintro name ⟨present, presentFound, named, -⟩
      cases found.symm.trans presentFound
      exact ⟨_, found_written calls, named, Or.inl rfl⟩
    · intro owner waiting
      cases waiting

/-- A call that is about to leave has its name registered, and takes the entry away. -/
theorem Consistent.release_eq (consistent : board.Consistent)
    (found : board.calls.get? id = some call) {answer : Answer α ε}
    (phase : call.phase = .leaving answer) :
    board.registrations.get? call.name = some id ∧
      board.release call.name id =
        { board with registrations := board.registrations.erase call.name } := by
  have holds : call.phase.holds = true := by
    rw [phase]
    rfl
  have own := consistent.registered_of_holds found holds
  exact ⟨own, if_pos own⟩

/-- A call that leaves frees its name. -/
theorem Consistent.left (consistent : board.Consistent) {answer : Answer α ε}
    (found : board.calls.get? id = some call) (phase : call.phase = .leaving answer) :
    ((board.release call.name id).setCall id (call.moveTo (.finished answer))).Consistent := by
  obtain ⟨taken, released⟩ := consistent.release_eq found phase
  rw [released]
  generalize result : Board.setCall _ id (call.moveTo (.finished answer)) = written
  have calls : written.calls = board.calls.set id (call.moveTo (.finished answer)) := by
    rw [← result]
    rfl
  have registrations : written.registrations = board.registrations.erase call.name := by
    rw [← result]
    rfl
  have fits := consistent.fits id call found
  unfold Call.Fits at fits
  rw [phase] at fits
  obtain ⟨once, outcome, recorded, answered⟩ := fits
  refine ⟨?_, fun name other => ?_, ?_, ?_⟩
  · rw [registrations]
    exact Table.nodup_keys_erase consistent.nodup _
  · rw [registrations]
    by_cases same : name = call.name
    · subst same
      rw [Table.get?_erase_self consistent.nodup]
      refine iff_of_false nofun fun held => ?_
      by_cases own : other = id
      · subst own
        cases ((holds_iff_of_found (found_written calls) _).1 held).2
      · rw [holds_written_other calls own, ← consistent.registered_iff, taken] at held
        exact own (Option.some.inj held).symm
    · rw [Table.get?_erase_of_ne same, consistent.registered_iff]
      by_cases own : other = id
      · subst own
        rw [holds_iff_of_found found, holds_iff_of_found (found_written calls)]
        exact iff_of_false (fun held => same held.1.symm) (fun held => same held.1.symm)
      · exact (holds_written_other calls own name).symm
  · refine consistent.fits_written calls ⟨once, fun other isOutcome => ?_⟩
    cases recorded.symm.trans isOutcome
    exact answered
  · refine consistent.serves_written calls ?_ ?_
    · rintro name ⟨present, presentFound, named, -⟩
      cases found.symm.trans presentFound
      exact ⟨_, found_written calls, named, Or.inr ⟨outcome, recorded⟩⟩
    · intro owner waiting
      cases waiting

/-! ## Every move, every schedule -/

/-- Whoever has the name registered can be waited for. -/
theorem Consistent.serves_of_registered (consistent : board.Consistent) {name : String}
    {owner : CallId} (taken : board.registrations.get? name = some owner) :
    board.Serves name owner := by
  obtain ⟨call, found, named, holds⟩ := (consistent.registered_iff name owner).1 taken
  exact ⟨call, found, named, Or.inl holds⟩

theorem consistent_step (consistent : board.Consistent) (move : Move α ε) :
    (board.step move).Consistent := by
  rcases board.step_cases move with same | advance
  · rw [same]
    exact consistent
  · generalize board.step move = after at advance
    cases advance with
    | arrived name fresh => exact consistent.arrived fresh name
    | firstChecked found phase finding =>
      refine consistent.setCall found (Call.continues_firstChecked phase finding) ?_
      intro owner waiting
      exact absurd waiting (Call.phase_checked_ne (Or.inl phase) finding owner)
    | registered found phase free => exact consistent.registered found phase free
    | joined found phase taken =>
      refine consistent.setCall found (Call.continues_joined phase _) ?_
      rintro owner ⟨⟩
      exact consistent.serves_of_registered taken
    | secondChecked found phase finding =>
      refine consistent.setCall found (Call.continues_secondChecked phase finding) ?_
      intro owner waiting
      exact absurd waiting (Call.phase_checked_ne (Or.inr phase) finding owner)
    | produced found phase product =>
      refine consistent.setCall found (Call.continues_produced phase product) ?_
      intro owner waiting
      exact absurd waiting (Call.phase_produced_ne _ product owner)
    | settled found phase =>
      refine consistent.setCall found (Call.continues_settled phase) ?_
      rintro owner ⟨⟩
    | left found phase => exact consistent.left found phase
    | answered found phase recorded awake =>
      refine consistent.setCall found (Call.continues_answered phase _) ?_
      rintro owner ⟨⟩
    | expired found phase unrecorded =>
      refine consistent.setCall found (Call.continues_answered phase _) ?_
      rintro owner ⟨⟩

theorem consistent_run (consistent : board.Consistent) (schedule : List (Move α ε)) :
    (board.run schedule).Consistent := by
  induction schedule generalizing board with
  | nil => exact consistent
  | cons move rest ih => exact ih (consistent_step consistent move)

end Board

end ModuleOpens.Exclusive
