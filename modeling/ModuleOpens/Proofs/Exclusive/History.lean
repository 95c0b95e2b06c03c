/-
# Proofs.Exclusive.History — what a schedule did before a call came to stand where it stands

A call stands where it does because of its own moves. One step at a time,
`Progress` says which move brought it there; over a whole schedule, a call that
has produced first missed, then won its name while it was free, and then missed
again.

* `Happened`: a move at some point of a schedule;
* `progress_step`: every call of a board after a move, by how it came there;
* `traced_run`: what came before a registration and before a producer.
-/
import Mathlib.Data.List.Induction
import ModuleOpens.Proofs.Exclusive.Advance

namespace ModuleOpens.Exclusive

set_option autoImplicit false

variable {α ε : Type}

/-- A call comes to stand here only by a check that found nothing, or by a name that was free. -/
def Phase.earned : Phase α ε → Bool
  | .missed | .registered => true
  | _ => false

namespace Board

/-- Where a call stands. -/
def phase? (board : Board α ε) (id : CallId) : Option (Phase α ε) :=
  (board.calls.get? id).map Call.phase

variable {board : Board α ε} {id : CallId} {call : Call α ε}

theorem phase?_of_found {stands : Phase α ε} (found : board.calls.get? id = some call)
    (phase : call.phase = stands) : board.phase? id = some stands := by
  unfold phase?
  rw [found]
  exact congrArg some phase

/-! ## What came before -/

/-- At some point of the schedule the move was made, and the schedule up to there was as `given`
says. -/
def Happened (given : List (Move α ε) → Prop) (move : Move α ε) (schedule : List (Move α ε)) :
    Prop :=
  ∃ before after, schedule = before ++ move :: after ∧ given before

theorem Happened.append {given : List (Move α ε) → Prop} {move : Move α ε}
    {schedule : List (Move α ε)} (happened : Happened given move schedule)
    (more : List (Move α ε)) : Happened given move (schedule ++ more) := by
  obtain ⟨before, after, rfl, held⟩ := happened
  exact ⟨before, after ++ more, by rw [List.append_assoc, List.cons_append], held⟩

theorem happened_last {given : List (Move α ε) → Prop} {schedule : List (Move α ε)}
    (held : given schedule) (move : Move α ε) : Happened given move (schedule ++ [move]) :=
  ⟨schedule, [], rfl, held⟩

/-- The first check of the call found nothing. -/
def FirstMissed (id : CallId) : List (Move α ε) → Prop :=
  Happened (fun before => (empty.run before).phase? id = some .arrived) (.check id .nothing)

/-- Then the name was free, and the call registered for it. -/
def Won (id : CallId) (name : String) : List (Move α ε) → Prop :=
  Happened (fun before => FirstMissed id before ∧ (empty.run before).phase? id = some .missed ∧
    (empty.run before).isPending name = false) (.enter id)

/-- Then its second check found nothing. -/
def SecondMissed (id : CallId) (name : String) : List (Move α ε) → Prop :=
  Happened (fun before => Won id name before ∧ (empty.run before).phase? id = some .registered)
    (.check id .nothing)

/-- How a move brings a call of the board before it to where it stands after it, as far as its
checks, its registration and its producer go. -/
inductive Progress (board : Board α ε) (move : Move α ε) (id : CallId) (after : Call α ε) :
    Prop where
  | came (phase : after.phase = .arrived) (fresh : after.productions = 0)
  | stayed (found : board.calls.get? id = some after)
  | missed {call : Call α ε} (found : board.calls.get? id = some call)
      (made : move = .check id .nothing) (phase : call.phase = .arrived)
      (now : after.phase = .missed) (name : after.name = call.name)
      (productions : after.productions = call.productions)
  | won {call : Call α ε} (found : board.calls.get? id = some call) (made : move = .enter id)
      (phase : call.phase = .missed) (free : board.registrations.get? call.name = none)
      (now : after.phase = .registered) (name : after.name = call.name)
      (productions : after.productions = call.productions)
  | began {call : Call α ε} (found : board.calls.get? id = some call)
      (made : move = .check id .nothing) (phase : call.phase = .registered)
      (now : after.phase = .producing) (name : after.name = call.name)
  | went {call : Call α ε} (found : board.calls.get? id = some call)
      (name : after.name = call.name) (productions : after.productions = call.productions)
      (elsewhere : after.phase.earned = false)

theorem progress_firstChecked {move : Move α ε} (found : board.calls.get? id = some call)
    (phase : call.phase = .arrived) (finding : Finding α) (made : move = .check id finding) :
    Progress board move id (call.checked finding) := by
  obtain ⟨name, stands, outcome, checks, productions⟩ := call
  cases phase
  cases finding with
  | found value => exact .went found rfl rfl rfl
  | nothing => exact .missed found made rfl rfl rfl rfl
  | torn => exact .went found rfl rfl rfl

theorem progress_secondChecked {move : Move α ε} (found : board.calls.get? id = some call)
    (phase : call.phase = .registered) (finding : Finding α) (made : move = .check id finding) :
    Progress board move id (call.checked finding) := by
  obtain ⟨name, stands, outcome, checks, productions⟩ := call
  cases phase
  cases finding with
  | found value => exact .went found rfl rfl rfl
  | nothing => exact .began found made rfl rfl rfl
  | torn => exact .went found rfl rfl rfl

theorem progress_produced {move : Move α ε} (found : board.calls.get? id = some call)
    (product : Product α ε) : Progress board move id (call.produced product) := by
  cases product with
  | value value => exact .went found rfl rfl rfl
  | failure error => exact .went found rfl rfl rfl
  | torn => exact .went found rfl rfl rfl

/-- Every call of a board after a move came there in one of these ways. -/
theorem progress_step {move : Move α ε} {after : Call α ε}
    (foundAfter : (board.step move).calls.get? id = some after) :
    Progress board move id after := by
  cases turn_step foundAfter with
  | stayed found => exact .stayed found
  | arrived name fresh made => exact .came rfl rfl
  | firstChecked found phase finding made => exact progress_firstChecked found phase finding made
  | registered found phase free made => exact .won found made phase free rfl rfl rfl
  | joined found phase taken made => exact .went found rfl rfl rfl
  | secondChecked found phase finding made => exact progress_secondChecked found phase finding made
  | produced found phase product made => exact progress_produced found product
  | settled found phase made => exact .went found rfl rfl rfl
  | left found phase made => exact .went found rfl rfl rfl
  | answered found phase recorded made => exact .went found rfl rfl rfl
  | expired found phase unrecorded made => exact .went found rfl rfl rfl

/-- Where a call stands tells what came before. -/
structure Traced (schedule : List (Move α ε)) (id : CallId) (call : Call α ε) : Prop where
  missed : call.phase = .missed → FirstMissed id schedule
  registered : call.phase = .registered → Won id call.name schedule
  productions : call.productions ≠ 0 → SecondMissed id call.name schedule

theorem Traced.append {schedule : List (Move α ε)} (traced : Traced schedule id call)
    (more : List (Move α ε)) : Traced (schedule ++ more) id call where
  missed phase := (traced.missed phase).append more
  registered phase := (traced.registered phase).append more
  productions any := (traced.productions any).append more

/-- One more move, by how it brings the call where it stands. -/
theorem Traced.of_progress {schedule : List (Move α ε)} {move : Move α ε} {after : Call α ε}
    (before : ∀ call, (empty.run schedule).calls.get? id = some call → Traced schedule id call)
    (progress : Progress (empty.run schedule) move id after) :
    Traced (schedule ++ [move]) id after := by
  cases progress with
  | came phase fresh =>
    refine ⟨fun missed => ?_, fun registered => ?_, fun any => absurd fresh any⟩
    · rw [phase] at missed
      cases missed
    · rw [phase] at registered
      cases registered
  | stayed found => exact (before after found).append [move]
  | missed found made phase now name productions =>
    have old := before _ found
    subst made
    refine ⟨fun _ => ?_, fun registered => ?_, fun any => ?_⟩
    · exact happened_last (phase?_of_found found phase) _
    · rw [now] at registered
      cases registered
    · rw [name]
      exact (old.productions (productions ▸ any)).append _
  | won found made phase free now name productions =>
    have old := before _ found
    subst made
    refine ⟨fun missed => ?_, fun _ => ?_, fun any => ?_⟩
    · rw [now] at missed
      cases missed
    · rw [name]
      refine happened_last ⟨old.missed phase, phase?_of_found found phase, ?_⟩ _
      unfold isPending Table.contains
      rw [free]
      rfl
    · rw [name]
      exact (old.productions (productions ▸ any)).append _
  | began found made phase now name =>
    have old := before _ found
    subst made
    refine ⟨fun missed => ?_, fun registered => ?_, fun _ => ?_⟩
    · rw [now] at missed
      cases missed
    · rw [now] at registered
      cases registered
    · rw [name]
      exact happened_last ⟨old.registered phase, phase?_of_found found phase⟩ _
  | went found name productions elsewhere =>
    have old := before _ found
    refine ⟨fun missed => ?_, fun registered => ?_, fun any => ?_⟩
    · rw [missed] at elsewhere
      cases elsewhere
    · rw [registered] at elsewhere
      cases elsewhere
    · rw [name]
      exact (old.productions (productions ▸ any)).append _

theorem traced_run (schedule : List (Move α ε)) :
    ∀ call, (empty.run schedule).calls.get? id = some call → Traced schedule id call := by
  induction schedule using List.reverseRecOn with
  | nil =>
    intro call found
    cases found
  | append_singleton schedule move ih =>
    intro call found
    rw [run_append] at found
    exact .of_progress ih (progress_step found)

end Board

end ModuleOpens.Exclusive
