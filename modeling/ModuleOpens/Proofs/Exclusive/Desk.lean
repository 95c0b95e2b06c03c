/-
# Proofs.Exclusive.Desk — calls made one inside the other

A desk is orderly when every registered call is at its producer: calls come one
after the other, so nobody else can be under way. A new call then has one of
three ends, told by its first check and the registrations: it has its answer, it
is at its own producer, or it waits for a call that cannot come back before it.

* `Orderly.approach_found`, `Orderly.approach_free`, `Orderly.approach_taken`:
  how a new call comes out;
* `Orderly.conclude`: a producer comes back, and the name is free again;
* `Orderly.expire`: waiting for a call that is at its producer ends in a timeout.
-/
import ModuleOpens.Exclusive.Desk
import ModuleOpens.Proofs.Exclusive.Answer

namespace ModuleOpens.Exclusive

set_option autoImplicit false

variable {α ε : Type}

/-- The answer of a call, its producer having come back. -/
def Product.answer : Product α ε → Answer α ε
  | .value made => .value made
  | .failure error => .failure error
  | .torn => .torn

theorem Call.phase_produced (call : Call α ε) (product : Product α ε) :
    (call.produced product).phase = .settling product.answer := by
  cases product <;> rfl

namespace Board

variable {board : Board α ε} {id : CallId} {call : Call α ε} {name : String}

@[simp]
theorem setCall_setCall (board : Board α ε) (id : CallId) (first second : Call α ε) :
    (board.setCall id first).setCall id second = board.setCall id second := by
  simp only [setCall, Table.set_set]

theorem run_cons (board : Board α ε) (move : Move α ε) (rest : List (Move α ε)) :
    board.run (move :: rest) = (board.step move).run rest := rfl

/-- Moves that are not open to their call do nothing. -/
theorem run_still {schedule : List (Move α ε)} (found : board.calls.get? id = some call)
    (still : ∀ move ∈ schedule, move.id = id ∧ board.moved id call move = board) :
    board.run schedule = board := by
  induction schedule with
  | nil => rfl
  | cons move rest ih =>
    obtain ⟨own, nothing⟩ := still move List.mem_cons_self
    have same : board.step move = board := by
      subst own
      unfold step
      rw [found]
      exact nothing
    rw [run_cons, same]
    exact ih fun later member => still later (List.mem_cons_of_mem _ member)

/-! ## The first stretch of a call -/

/-- A new call whose first check finds something has its answer. -/
theorem run_approach_found (fresh : board.calls.get? id = none) (value : α)
    (second : Finding α) :
    board.run [.arrive id name, .check id (.found value), .enter id, .check id second, .settle id,
      .leave id] = board.setCall id ⟨name, .finished (.value value), none, 1, 0⟩ := by
  let came := board.setCall id (.new name)
  let done := board.setCall id ⟨name, .finished (.value value), none, 1, 0⟩
  have first : board.step (.arrive id name) = came := (Advance.arrived name fresh).step_eq
  have check : came.step (.check id (.found value)) = done := by
    rw [(Advance.firstChecked (found_written rfl) rfl (.found value)).step_eq, setCall_setCall]
    rfl
  have rest : done.run [.enter id, .check id second, .settle id, .leave id] = done := by
    refine run_still (found_written rfl) ?_
    simp [Move.id, moved]
  rw [run_cons, first, run_cons, check, rest]

/-- A new call for a name that another has waits for it. -/
theorem run_approach_taken (fresh : board.calls.get? id = none) {owner : CallId}
    (taken : board.registrations.get? name = some owner) (second : Finding α) :
    board.run [.arrive id name, .check id .nothing, .enter id, .check id second, .settle id,
      .leave id] = board.setCall id ⟨name, .waiting owner, none, 1, 0⟩ := by
  let came := board.setCall id (.new name)
  let missed := board.setCall id ⟨name, .missed, none, 1, 0⟩
  let waits := board.setCall id ⟨name, .waiting owner, none, 1, 0⟩
  have first : board.step (.arrive id name) = came := (Advance.arrived name fresh).step_eq
  have check : came.step (.check id .nothing) = missed := by
    rw [(Advance.firstChecked (found_written rfl) rfl .nothing).step_eq, setCall_setCall]
    rfl
  have enter : missed.step (.enter id) = waits := by
    rw [(Advance.joined (found_written rfl) rfl taken).step_eq, setCall_setCall]
    rfl
  have rest : waits.run [.check id second, .settle id, .leave id] = waits := by
    refine run_still (found_written rfl) ?_
    simp [Move.id, moved]
  rw [run_cons, first, run_cons, check, run_cons, enter, rest]

/-- A new call for a free name that finds nothing comes to its producer. -/
theorem run_approach_free (fresh : board.calls.get? id = none)
    (free : board.registrations.get? name = none) :
    board.run [.arrive id name, .check id .nothing, .enter id, .check id .nothing, .settle id,
      .leave id] =
      { board.setCall id ⟨name, .producing, none, 2, 1⟩ with
        registrations := board.registrations.set name id } := by
  let came := board.setCall id (.new name)
  let missed := board.setCall id ⟨name, .missed, none, 1, 0⟩
  let won := board.registered id ⟨name, .missed, none, 1, 0⟩
  let produces : Board α ε := { board.setCall id ⟨name, .producing, none, 2, 1⟩ with
    registrations := board.registrations.set name id }
  have first : board.step (.arrive id name) = came := (Advance.arrived name fresh).step_eq
  have check : came.step (.check id .nothing) = missed := by
    rw [(Advance.firstChecked (found_written rfl) rfl .nothing).step_eq, setCall_setCall]
    rfl
  have enter : missed.step (.enter id) = won := by
    rw [(Advance.registered (found_written rfl) rfl free).step_eq]
    simp only [registered, setCall_setCall, missed, won]
    rfl
  have again : won.step (.check id .nothing) = produces := by
    rw [(Advance.secondChecked (found_written rfl) rfl .nothing).step_eq]
    simp only [setCall, registered, Table.set_set, won, produces]
    rfl
  have rest : produces.run [.settle id, .leave id] = produces := by
    refine run_still (found_written rfl) ?_
    simp [Move.id, moved]
  rw [run_cons, first, run_cons, check, run_cons, enter, run_cons, again, rest]

/-! ## The second stretch -/

/-- The producer of a registered call comes back: the call has its answer, and the name is free. -/
theorem run_conclude {call : Call α ε} (found : board.calls.get? id = some call)
    (phase : call.phase = .producing) (own : board.registrations.get? call.name = some id)
    (product : Product α ε) :
    ∃ last : Call α ε, last.phase = .finished product.answer ∧
      board.run [.produce id product, .settle id, .leave id] =
        { board.setCall id last with registrations := board.registrations.erase call.name } := by
  let back := call.produced product
  let settled := (back.record .abandoned).moveTo (.leaving product.answer)
  have named : settled.name = call.name := Call.name_produced call product
  have produce : board.step (.produce id product) = board.setCall id back :=
    (Advance.produced found phase product).step_eq
  have settle : (board.setCall id back).step (.settle id) = board.setCall id settled := by
    rw [(Advance.settled (found_written rfl) (call.phase_produced product)).step_eq,
      setCall_setCall]
  have leave : (board.setCall id settled).step (.leave id) =
      { board.setCall id (settled.moveTo (.finished product.answer)) with
        registrations := board.registrations.erase call.name } := by
    have release : (board.setCall id settled).release settled.name id =
        { board.setCall id settled with
          registrations := board.registrations.erase call.name } := by
      rw [named]
      exact if_pos own
    rw [(Advance.left (found_written rfl) rfl).step_eq, release]
    simp only [setCall, Table.set_set]
  refine ⟨settled.moveTo (.finished product.answer), rfl, ?_⟩
  rw [run_cons, produce, run_cons, settle, run_cons, leave]
  rfl

end Board

namespace Desk

variable {desk : Desk α ε} {name : String}

theorem phase_of_found {id : CallId} {call : Call α ε}
    (found : desk.board.calls.get? id = some call) : desk.phase id = call.phase := by
  simp [phase, found]

/-- Calls are numbered in order, and the registered ones are at their producers. -/
structure Orderly (desk : Desk α ε) : Prop where
  consistent : desk.board.Consistent
  numbered : ∀ id call, desk.board.calls.get? id = some call → id < desk.nextId
  producing : ∀ name owner, desk.board.registrations.get? name = some owner →
    ∃ call, desk.board.calls.get? owner = some call ∧ call.phase = .producing

theorem orderly_empty : (empty : Desk α ε).Orderly where
  consistent := Board.consistent_empty
  numbered _ _ found := nomatch found
  producing _ _ registered := nomatch registered

theorem Orderly.fresh (orderly : desk.Orderly) : desk.board.calls.get? desk.nextId = none := by
  cases found : desk.board.calls.get? desk.nextId with
  | none => rfl
  | some call => exact absurd (orderly.numbered _ _ found) (Nat.lt_irrefl _)

/-- The call that is registered for a name. -/
theorem Orderly.registered (orderly : desk.Orderly) {owner : CallId}
    (taken : desk.board.registrations.get? name = some owner) :
    ∃ call, desk.board.calls.get? owner = some call ∧ call.phase = .producing ∧
      call.name = name ∧ call.outcome = none := by
  obtain ⟨call, found, phase⟩ := orderly.producing name owner taken
  obtain ⟨held, heldFound, named, -⟩ := (orderly.consistent.registered_iff name owner).1 taken
  cases heldFound.symm.trans found
  have fits := orderly.consistent.fits owner call found
  rw [Call.Fits, phase] at fits
  exact ⟨call, found, phase, named, fits.1⟩

/-- A stretch that writes one call keeps the desk orderly, if each registered call is one that
was, or is the written one at its producer. -/
theorem Orderly.written (orderly : desk.Orderly) {schedule : List (Move α ε)} {id next : CallId}
    {call : Call α ε} {registrations : Table String CallId}
    (run : desk.board.run schedule = ⟨(desk.board.setCall id call).calls, registrations⟩)
    (later : desk.nextId ≤ next) (known : id < next)
    (producing : ∀ name owner, registrations.get? name = some owner →
      owner ≠ id ∧ desk.board.registrations.get? name = some owner ∨
        owner = id ∧ call.phase = .producing) :
    let after : Desk α ε := ⟨desk.board.run schedule, next⟩
    after.phase id = call.phase ∧ after.board.registrations = registrations ∧ after.Orderly := by
  intro after
  have calls : after.board.calls = desk.board.calls.set id call := congrArg Board.calls run
  have registered : after.board.registrations = registrations :=
    congrArg Board.registrations run
  refine ⟨phase_of_found (Board.found_written calls), registered,
    Board.consistent_run orderly.consistent schedule, ?_, ?_⟩
  · intro other present found
    rw [calls, Table.get?_set] at found
    by_cases same : other = id
    · exact same ▸ known
    · rw [if_neg same] at found
      exact Nat.lt_of_lt_of_le (orderly.numbered other present found) later
  · intro name owner taken
    rw [registered] at taken
    rw [calls, Table.get?_set]
    rcases producing name owner taken with ⟨other, before⟩ | ⟨same, phase⟩
    · rw [if_neg other]
      exact orderly.producing name owner before
    · exact ⟨call, if_pos same, phase⟩

/-- No registered call has the number of the next one. -/
theorem Orderly.ne_nextId (orderly : desk.Orderly) {owner : CallId}
    (taken : desk.board.registrations.get? name = some owner) : owner ≠ desk.nextId := by
  obtain ⟨call, found, -⟩ := orderly.producing name owner taken
  exact Nat.ne_of_lt (orderly.numbered owner call found)

/-! ## A new call -/

/-- A new call whose first check finds something has its answer at once. -/
theorem Orderly.approach_found (orderly : desk.Orderly) (name : String) (value : α)
    (second : Finding α) :
    let after := (desk.approach name (.found value) second).2
    after.phase desk.nextId = .finished (.value value) ∧
      after.board.registrations = desk.board.registrations ∧ after.Orderly :=
  orderly.written (Board.run_approach_found orderly.fresh value second) (Nat.le_succ _)
    (Nat.lt_succ_self _) fun _ _ taken => .inl ⟨orderly.ne_nextId taken, taken⟩

/-- A new call for a free name comes to its producer. -/
theorem Orderly.approach_free (orderly : desk.Orderly)
    (free : desk.board.registrations.get? name = none) :
    let after := (desk.approach name .nothing .nothing).2
    after.phase desk.nextId = .producing ∧
      after.board.registrations = desk.board.registrations.set name desk.nextId ∧
      after.Orderly := by
  refine orderly.written (Board.run_approach_free orderly.fresh free) (Nat.le_succ _)
    (Nat.lt_succ_self _) fun other owner taken => ?_
  rw [Table.get?_set] at taken
  by_cases same : other = name
  · rw [if_pos same] at taken
    cases taken
    exact .inr ⟨rfl, rfl⟩
  · rw [if_neg same] at taken
    exact .inl ⟨orderly.ne_nextId taken, taken⟩

/-- A new call for a name that another has waits for it. -/
theorem Orderly.approach_taken (orderly : desk.Orderly) {owner : CallId}
    (taken : desk.board.registrations.get? name = some owner) (second : Finding α) :
    let after := (desk.approach name .nothing second).2
    after.phase desk.nextId = .waiting owner ∧
      after.board.registrations = desk.board.registrations ∧ after.Orderly :=
  orderly.written (Board.run_approach_taken orderly.fresh taken second) (Nat.le_succ _)
    (Nat.lt_succ_self _) fun _ _ taken => .inl ⟨orderly.ne_nextId taken, taken⟩

/-! ## A call that stands at the desk -/

/-- The call that it waits for is at its producer, and has no outcome: it waits in vain. -/
theorem Orderly.expire (orderly : desk.Orderly) {id owner : CallId}
    (waits : desk.phase id = .waiting owner)
    (taken : desk.board.registrations.get? name = some owner) :
    (desk.expire id).phase id = .finished .timeout ∧
      (desk.expire id).board.registrations = desk.board.registrations ∧
      (desk.expire id).Orderly := by
  obtain ⟨producer, ownerFound, ownerPhase, -, unrecorded⟩ := orderly.registered taken
  cases found : desk.board.calls.get? id with
  | none => simp [phase, found] at waits
  | some call =>
    rw [phase_of_found found] at waits
    have noOutcome : desk.board.outcomeOf? owner = none := by
      simp [Board.outcomeOf?, ownerFound, unrecorded]
    have run : desk.board.run [.expire id] =
        desk.board.setCall id (call.moveTo (.finished .timeout)) :=
      (Board.Advance.expired found waits noOutcome).step_eq
    refine orderly.written run (Nat.le_refl _) (orderly.numbered id call found) ?_
    intro other holder held
    refine .inl ⟨?_, held⟩
    rintro rfl
    -- A registered call is at its producer, and does not wait.
    obtain ⟨present, presentFound, atProducer, -⟩ := orderly.registered held
    cases presentFound.symm.trans found
    rw [waits] at atProducer
    cases atProducer

/-- The producer of the call that is registered for a name comes back: the call has its answer,
and the name is free. -/
theorem Orderly.conclude (orderly : desk.Orderly) {id : CallId}
    (own : desk.board.registrations.get? name = some id) (product : Product α ε) :
    (desk.conclude id product).phase id = .finished product.answer ∧
      (desk.conclude id product).board.registrations = desk.board.registrations.erase name ∧
      (desk.conclude id product).Orderly := by
  obtain ⟨call, found, phase, rfl, -⟩ := orderly.registered own
  obtain ⟨last, finished, run⟩ := Board.run_conclude found phase own product
  have stretch := orderly.written run (Nat.le_refl _) (orderly.numbered id call found) (by
    intro other holder held
    by_cases same : other = call.name
    · rw [same, Table.get?_erase_self orderly.consistent.nodup] at held
      cases held
    · rw [Table.get?_erase_of_ne same] at held
      refine .inl ⟨?_, held⟩
      rintro rfl
      -- A call is registered for its own name only.
      obtain ⟨present, presentFound, -, named, -⟩ := orderly.registered held
      cases presentFound.symm.trans found
      exact same named.symm)
  rw [finished] at stretch
  exact stretch

end Desk

end ModuleOpens.Exclusive
