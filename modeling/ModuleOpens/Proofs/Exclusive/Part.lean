/-
# Proofs.Exclusive.Part — the part of a board that some of its calls make up

`board.part keeps names` is the board without the calls that are not kept, and
without the registrations of names that are not. When the kept calls do without
the others (`Apart`), every move leads from the part to the part: a move of a
kept call is the same move there, and a move of another call is nothing there.
So a run of the part is the run with only the moves of the kept calls.

* `part_step_of_kept`, `part_step_of_unkept`: one move;
* `part_run`: a whole schedule.
-/
import Mathlib.Data.List.Induction
import ModuleOpens.Proofs.Exclusive.Consistent

namespace ModuleOpens

set_option autoImplicit false

/-! ## Tables, in part -/

namespace Table

variable {κ α : Type}

/-- The entries of the kept keys. -/
def only (keeps : κ → Bool) (table : Table κ α) : Table κ α :=
  ⟨table.entries.filter fun entry => keeps entry.1⟩

variable [DecidableEq κ] {keeps : κ → Bool} {key : κ}

theorem get?_only (kept : keeps key = true) (table : Table κ α) :
    (table.only keeps).get? key = table.get? key := by
  obtain ⟨entries⟩ := table
  show lookup key (entries.filter fun entry => keeps entry.1) = lookup key entries
  induction entries with
  | nil => rfl
  | cons entry rest ih =>
    obtain ⟨k, old⟩ := entry
    by_cases same : k = key
    · simp [lookup, same, kept]
    · cases here : keeps k <;> simp [lookup, same, here, ih]

/-- What is written is seen when its key is kept, and else nothing is. -/
theorem only_set (keeps : κ → Bool) (table : Table κ α) (key : κ) (value : α) :
    (table.set key value).only keeps =
      if keeps key then (table.only keeps).set key value else table.only keeps := by
  obtain ⟨entries⟩ := table
  have written : (write key value entries).filter (fun entry => keeps entry.1) =
      if keeps key then write key value (entries.filter fun entry => keeps entry.1)
      else entries.filter fun entry => keeps entry.1 := by
    induction entries with
    | nil => cases kept : keeps key <;> simp [write, kept]
    | cons entry rest ih =>
      obtain ⟨k, old⟩ := entry
      by_cases same : k = key
      · cases kept : keeps key <;> simp [write, same, kept]
      · cases kept : keeps key <;> cases here : keeps k <;> simp_all [write]
  exact (congrArg Table.mk written).trans (apply_ite Table.mk ..)

/-- What is erased is missing when its key is kept, and else nothing is. -/
theorem only_erase (keeps : κ → Bool) (table : Table κ α) (key : κ) :
    (table.erase key).only keeps =
      if keeps key then (table.only keeps).erase key else table.only keeps := by
  obtain ⟨entries⟩ := table
  have removed : (remove key entries).filter (fun entry => keeps entry.1) =
      if keeps key then remove key (entries.filter fun entry => keeps entry.1)
      else entries.filter fun entry => keeps entry.1 := by
    induction entries with
    | nil => simp [remove]
    | cons entry rest ih =>
      obtain ⟨k, old⟩ := entry
      by_cases same : k = key
      · cases kept : keeps key <;> simp [remove, same, kept]
      · cases kept : keeps key <;> cases here : keeps k <;> simp_all [remove]
  exact (congrArg Table.mk removed).trans (apply_ite Table.mk ..)

theorem only_set_of_kept (kept : keeps key = true) (table : Table κ α) (value : α) :
    (table.set key value).only keeps = (table.only keeps).set key value := by
  rw [only_set, if_pos kept]

theorem only_set_of_unkept (unkept : keeps key = false) (table : Table κ α) (value : α) :
    (table.set key value).only keeps = table.only keeps := by
  rw [only_set, if_neg (by simp [unkept])]

end Table

namespace Exclusive.Board

variable {α ε : Type} {board : Board α ε} {keeps : CallId → Bool} {names : String → Bool}
  {move : Move α ε}

/-- The board of the kept calls, with the registrations of the kept names. -/
def part (keeps : CallId → Bool) (names : String → Bool) (board : Board α ε) : Board α ε :=
  ⟨board.calls.only keeps, board.registrations.only names⟩

/-- The kept calls do without the others: their names are kept, they wait for none but kept calls,
and no other call has a kept name registered. -/
structure Apart (keeps : CallId → Bool) (names : String → Bool) (board : Board α ε) : Prop where
  named : ∀ id call, board.calls.get? id = some call → keeps id = true → names call.name = true
  awaited : ∀ id call owner, board.calls.get? id = some call → keeps id = true →
    call.phase = .waiting owner → keeps owner = true
  unheld : ∀ id name, keeps id = false → names name = true → ¬ board.Holds name id

/-! ## What is read of a part -/

theorem get?_part {id : CallId} (kept : keeps id = true) :
    (board.part keeps names).calls.get? id = board.calls.get? id :=
  Table.get?_only kept board.calls

theorem registered_part {name : String} (kept : names name = true) :
    (board.part keeps names).registrations.get? name = board.registrations.get? name :=
  Table.get?_only kept board.registrations

theorem outcomeOf?_part {id : CallId} (kept : keeps id = true) :
    (board.part keeps names).outcomeOf? id = board.outcomeOf? id := by
  unfold outcomeOf?
  rw [get?_part kept]

/-! ## What is written to a part -/

theorem part_setCall_of_kept {id : CallId} (kept : keeps id = true) (call : Call α ε) :
    (board.setCall id call).part keeps names = (board.part keeps names).setCall id call :=
  congrArg (Board.mk · _) (Table.only_set_of_kept kept board.calls call)

theorem part_setCall_of_unkept {id : CallId} (unkept : keeps id = false) (call : Call α ε) :
    (board.setCall id call).part keeps names = board.part keeps names :=
  congrArg (Board.mk · _) (Table.only_set_of_unkept unkept board.calls call)

theorem part_registered_of_kept {id : CallId} {call : Call α ε} (kept : keeps id = true)
    (named : names call.name = true) :
    (board.registered id call).part keeps names = (board.part keeps names).registered id call :=
  congrArg₂ Board.mk (Table.only_set_of_kept kept board.calls _)
    (Table.only_set_of_kept named board.registrations id)

theorem part_registered_of_unkept {id : CallId} {call : Call α ε} (unkept : keeps id = false)
    (unnamed : names call.name = false) :
    (board.registered id call).part keeps names = board.part keeps names :=
  congrArg₂ Board.mk (Table.only_set_of_unkept unkept board.calls _)
    (Table.only_set_of_unkept unnamed board.registrations id)

theorem part_release_of_kept {name : String} (named : names name = true) (id : CallId) :
    (board.release name id).part keeps names = (board.part keeps names).release name id := by
  unfold release
  rw [registered_part named]
  split
  · exact congrArg (Board.mk _) ((Table.only_erase ..).trans (if_pos named))
  · rfl

theorem part_release_of_unkept {name : String} (unnamed : names name = false) (id : CallId) :
    (board.release name id).part keeps names = board.part keeps names := by
  unfold release
  split
  · exact congrArg (Board.mk _) ((Table.only_erase ..).trans (if_neg (by simp [unnamed])))
  · rfl

/-! ## One move -/

/-- What a kept call does on the board it does on the part. -/
theorem part_moved {call : Call α ε} (kept : keeps move.id = true) (named : names call.name = true)
    (awaited : ∀ owner, call.phase = .waiting owner → keeps owner = true) :
    (board.part keeps names).moved move.id call move =
      (board.moved move.id call move).part keeps names := by
  cases move with
  | arrive id name => rfl
  | check id finding =>
    cases phase : call.phase with
    | arrived | registered =>
      simp only [moved, phase]
      exact (part_setCall_of_kept kept _).symm
    | _ => simp only [moved, phase]
  | enter id =>
    cases phase : call.phase with
    | missed =>
      simp only [moved, phase, entered, registered_part named]
      cases board.registrations.get? call.name with
      | none => exact (part_registered_of_kept kept named).symm
      | some owner => exact (part_setCall_of_kept kept _).symm
    | _ => simp only [moved, phase]
  | produce id product =>
    cases phase : call.phase with
    | producing =>
      simp only [moved, phase]
      exact (part_setCall_of_kept kept _).symm
    | _ => simp only [moved, phase]
  | settle id =>
    cases phase : call.phase with
    | settling answer =>
      simp only [moved, phase]
      exact (part_setCall_of_kept kept _).symm
    | _ => simp only [moved, phase]
  | leave id =>
    cases phase : call.phase with
    | leaving answer =>
      simp only [moved, phase]
      rw [← part_release_of_kept named]
      exact (part_setCall_of_kept kept _).symm
    | _ => simp only [moved, phase]
  | wake id =>
    cases phase : call.phase with
    | waiting owner =>
      simp only [moved, phase, outcomeOf?_part (awaited owner phase)]
      cases board.outcomeOf? owner with
      | none => rfl
      | some outcome => exact (part_setCall_of_kept kept _).symm
    | _ => simp only [moved, phase]
  | expire id =>
    cases phase : call.phase with
    | waiting owner =>
      simp only [moved, phase, outcomeOf?_part (awaited owner phase)]
      cases board.outcomeOf? owner with
      | none => exact (part_setCall_of_kept kept _).symm
      | some outcome => exact (part_setCall_of_kept kept _).symm
    | _ => simp only [moved, phase]

/-- A move of a kept call is the same move on the part. -/
theorem part_step_of_kept (apart : board.Apart keeps names) (kept : keeps move.id = true) :
    (board.step move).part keeps names = (board.part keeps names).step move := by
  unfold step
  rw [get?_part kept]
  cases found : board.calls.get? move.id with
  | some call =>
    exact (part_moved kept (apart.named _ call found kept)
      (fun owner => apart.awaited _ call owner found kept)).symm
  | none =>
    cases move with
    | arrive id name => exact part_setCall_of_kept kept _
    | _ => rfl

/-- A move of another call is nothing on the part, if that call has no kept name registered
before or after it. -/
theorem part_step_of_unkept (unkept : keeps move.id = false)
    (before : ∀ name, names name = true → ¬ board.Holds name move.id)
    (after : ∀ name, names name = true → ¬ (board.step move).Holds name move.id) :
    (board.step move).part keeps names = board.part keeps names := by
  rcases board.step_cases move with same | advance
  · rw [same]
  · generalize board.step move = written at advance after
    cases advance with
    | @registered id call found phase free =>
      have unnamed : names call.name = false := by
        refine Bool.eq_false_iff.2 fun named => after call.name named ?_
        exact ⟨call.moveTo .registered, found_written rfl, rfl, rfl⟩
      exact part_registered_of_unkept unkept unnamed
    | @left id call answer found phase =>
      have unnamed : names call.name = false := by
        refine Bool.eq_false_iff.2 fun named => before call.name named ⟨call, found, rfl, ?_⟩
        rw [phase]
        rfl
      exact (part_setCall_of_unkept unkept _).trans (part_release_of_unkept unnamed id)
    | answered found phase recorded awake =>
      rcases awake with rfl | rfl
      · exact part_setCall_of_unkept unkept _
      · exact part_setCall_of_unkept unkept _
    | _ => exact part_setCall_of_unkept unkept _

/-! ## A whole schedule -/

/-- If the kept calls do without the others at every point of a schedule, what it makes of them is
what their own moves make of them. -/
theorem part_run {schedule : List (Move α ε)}
    (apart : ∀ before, before <+: schedule → (board.run before).Apart keeps names) :
    (board.run schedule).part keeps names =
      (board.part keeps names).run (schedule.filter fun move => keeps move.id) := by
  induction schedule using List.reverseRecOn with
  | nil => rfl
  | append_singleton schedule move ih =>
    have earlier := ih fun before shorter => apart before (shorter.trans (List.prefix_append ..))
    have here := apart schedule (List.prefix_append ..)
    have there := apart (schedule ++ [move]) (List.prefix_refl _)
    rw [List.filter_append, run_append, run_append, ← earlier]
    rw [run_append] at there
    show ((board.run schedule).step move).part keeps names = _
    cases kept : keeps move.id with
    | true =>
      have own : [move].filter (fun move => keeps move.id) = [move] := by simp [kept]
      rw [own]
      exact part_step_of_kept here kept
    | false =>
      have none : [move].filter (fun move => keeps move.id) = [] := by simp [kept]
      rw [none]
      exact part_step_of_unkept kept (fun name => here.unheld move.id name kept)
        fun name => there.unheld move.id name kept

end Exclusive.Board

end ModuleOpens
