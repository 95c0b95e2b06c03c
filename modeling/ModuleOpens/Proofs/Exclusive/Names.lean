/-
# Proofs.Exclusive.Names — what happens under one name is nothing to another

Every name has a state of its own, a store or whatever its calls share. What the
checks and the producer of a call come back with depends on the state of the
call's name at that point, and they may change it, also while they run; nothing
else is read or written. Then a schedule does to the calls of a name what it does
when all calls of other names are left out: their answers, their checks and
productions, when the name is pending and the state of the name are the same.

* `ofName_after`: what a schedule makes of one name is what its calls alone make of it;
* `Consistent.encard_pending`: the count of pending operations counts the pending names;
* `names_do_not_interfere`: both, for every schedule.
-/
import Mathlib.Data.Set.Card
import ModuleOpens.Proofs.Exclusive.Answer
import ModuleOpens.Proofs.Exclusive.History
import ModuleOpens.Proofs.Exclusive.Outcome
import ModuleOpens.Proofs.Exclusive.Part

namespace ModuleOpens.Exclusive

set_option autoImplicit false

variable {σ α ε : Type}

/-- A call has its name from its coming, and keeps it. -/
theorem Board.Turn.name {board : Board α ε} {move : Move α ε} {id : CallId} {after : Call α ε}
    (turn : board.Turn move id after) :
    move = .arrive id after.name ∨
      ∃ call, board.calls.get? id = some call ∧ after.name = call.name := by
  cases turn with
  | stayed found => exact Or.inr ⟨after, found, rfl⟩
  | arrived name fresh made => exact Or.inl made
  | @firstChecked call found phase finding made =>
    exact Or.inr ⟨call, found, call.name_checked finding⟩
  | @registered call found phase free made => exact Or.inr ⟨call, found, rfl⟩
  | @joined call owner found phase taken made => exact Or.inr ⟨call, found, rfl⟩
  | @secondChecked call found phase finding made =>
    exact Or.inr ⟨call, found, call.name_checked finding⟩
  | @produced call found phase product made =>
    exact Or.inr ⟨call, found, call.name_produced product⟩
  | @settled call answer found phase made => exact Or.inr ⟨call, found, rfl⟩
  | @left call answer found phase made => exact Or.inr ⟨call, found, rfl⟩
  | @answered call owner outcome found phase recorded made => exact Or.inr ⟨call, found, rfl⟩
  | @expired call owner found phase unrecorded made => exact Or.inr ⟨call, found, rfl⟩

/-! ## Calls that go by the state of their name -/

/-- What a call is for, and how its checks and its producer go by the state of its name. -/
structure Conduct (σ α ε : Type) where
  name : String
  /-- What a check comes back with, and the state after it. -/
  check : σ → Finding α × σ
  /-- What the producer comes back with, and the state after it. -/
  produce : σ → Product α ε × σ
  /-- What a check or the producer does to the state before it comes back, any number of times. -/
  work : σ → σ

/-- One step of a call, when what comes of it is up to the state. -/
inductive Beat where
  | arrive
  | work
  | check
  | enter
  | produce
  | settle
  | leave
  | wake
  | expire
  deriving DecidableEq, Repr

/-- It is for a call to take a step. -/
structure Cue where
  id : CallId
  beat : Beat
  deriving DecidableEq, Repr

/-- A board, with a state for every name. -/
structure Stateful (σ α ε : Type) where
  board : Board α ε
  states : String → σ

/-- What a call does that stands at `phase`, and the state of its name after it. Only a check or a
producer that runs reads and changes the state. -/
def Conduct.act (conduct : Conduct σ α ε) (id : CallId) (phase : Option (Phase α ε)) (state : σ) :
    Beat → Option (Move α ε) × σ
  | .arrive => (some (.arrive id conduct.name), state)
  | .work =>
    match phase with
    | some .arrived | some .registered | some .producing => (none, conduct.work state)
    | _ => (none, state)
  | .check =>
    match phase with
    | some .arrived | some .registered =>
      (some (.check id (conduct.check state).1), (conduct.check state).2)
    | _ => (none, state)
  | .enter => (some (.enter id), state)
  | .produce =>
    match phase with
    | some .producing =>
      (some (.produce id (conduct.produce state).1), (conduct.produce state).2)
    | _ => (none, state)
  | .settle => (some (.settle id), state)
  | .leave => (some (.leave id), state)
  | .wake => (some (.wake id), state)
  | .expire => (some (.expire id), state)

/-- A call makes no move but its own, and comes for no other name. -/
theorem Conduct.act_own {conduct : Conduct σ α ε} {id : CallId} {phase : Option (Phase α ε)}
    {state : σ} {beat : Beat} {move : Move α ε}
    (made : (conduct.act id phase state beat).1 = some move) :
    move.id = id ∧ ∀ other name, move = .arrive other name → name = conduct.name := by
  cases beat with
  | arrive =>
    cases made
    refine ⟨rfl, fun other name same => ?_⟩
    cases same
    rfl
  | work | check | produce =>
    simp only [act] at made
    split at made <;> cases made <;> exact ⟨rfl, nofun⟩
  | enter | settle | leave | wake | expire =>
    cases made
    exact ⟨rfl, nofun⟩

namespace Stateful

/-- What the call of a cue does, and the state of its name after it. -/
def acted (conducts : CallId → Conduct σ α ε) (stateful : Stateful σ α ε) (cue : Cue) :
    Option (Move α ε) × σ :=
  (conducts cue.id).act cue.id (stateful.board.phase? cue.id)
    (stateful.states (conducts cue.id).name) cue.beat

/-- One step of one call, which acts on the state of its own name. -/
def perform (conducts : CallId → Conduct σ α ε) (stateful : Stateful σ α ε) (cue : Cue) :
    Stateful σ α ε where
  board := (stateful.acted conducts cue).1.elim stateful.board stateful.board.step
  states := Function.update stateful.states (conducts cue.id).name (stateful.acted conducts cue).2

/-- What a schedule makes of an empty board. -/
def after (conducts : CallId → Conduct σ α ε) (states : String → σ) (schedule : List Cue) :
    Stateful σ α ε :=
  schedule.foldl (perform conducts) ⟨.empty, states⟩

/-- The schedule with the calls for one name alone. -/
def ofName (conducts : CallId → Conduct σ α ε) (name : String) (schedule : List Cue) : List Cue :=
  schedule.filter fun cue => (conducts cue.id).name = name

variable {conducts : CallId → Conduct σ α ε} {states : String → σ} {stateful : Stateful σ α ε}

theorem after_append_singleton (schedule : List Cue) (cue : Cue) :
    after conducts states (schedule ++ [cue]) =
      (after conducts states schedule).perform conducts cue := by
  unfold after
  rw [List.foldl_append]
  rfl

/-- The board stays, or the call of the cue makes a move. -/
theorem board_perform (conducts : CallId → Conduct σ α ε) (stateful : Stateful σ α ε) (cue : Cue) :
    (stateful.perform conducts cue).board = stateful.board ∨
      ∃ move : Move α ε, move.id = cue.id ∧
        (∀ other name, move = .arrive other name → name = (conducts cue.id).name) ∧
        (stateful.perform conducts cue).board = stateful.board.step move := by
  unfold perform
  cases made : (stateful.acted conducts cue).1 with
  | none => exact Or.inl rfl
  | some move =>
    obtain ⟨own, comes⟩ := Conduct.act_own made
    exact Or.inr ⟨move, own, comes, rfl⟩

/-! ## One name among the others -/

/-- The board is consistent, and its calls are for the names that they are meant for. -/
structure Orderly (conducts : CallId → Conduct σ α ε) (board : Board α ε) : Prop where
  consistent : board.Consistent
  named : ∀ id call, board.calls.get? id = some call → call.name = (conducts id).name

theorem Orderly.perform (orderly : Orderly conducts stateful.board) (cue : Cue) :
    Orderly conducts (stateful.perform conducts cue).board := by
  rcases stateful.board_perform conducts cue with same | ⟨move, own, comes, stepped⟩
  · rw [same]
    exact orderly
  · rw [stepped]
    refine ⟨Board.consistent_step orderly.consistent move, fun id call found => ?_⟩
    rcases (Board.turn_step found).name with made | ⟨old, oldFound, same⟩
    · subst made
      cases own
      exact comes _ call.name rfl
    · rw [same]
      exact orderly.named id old oldFound

theorem orderly_after (conducts : CallId → Conduct σ α ε) (states : String → σ)
    (schedule : List Cue) :
    Orderly conducts (after conducts states schedule).board := by
  induction schedule using List.reverseRecOn with
  | nil => exact ⟨Board.consistent_empty, fun id call found => nomatch found⟩
  | append_singleton schedule cue ih =>
    rw [after_append_singleton]
    exact ih.perform cue

/-- The calls for one name do without the others. -/
theorem Orderly.apart {board : Board α ε} (orderly : Orderly conducts board) (name : String) :
    board.Apart (fun id => (conducts id).name = name) (fun other => other = name) where
  named id call found own := by
    rw [orderly.named id call found]
    exact own
  awaited id call owner found own phase := by
    obtain ⟨other, otherFound, same, -⟩ := orderly.consistent.serves id call owner found phase
    have named := orderly.named owner other otherFound
    rw [same, orderly.named id call found] at named
    rw [← named]
    exact own
  unheld id other own same := by
    rintro ⟨call, found, named, -⟩
    have isOther : other = name := of_decide_eq_true same
    have named' := orderly.named id call found
    rw [named, isOther] at named'
    exact of_decide_eq_false own named'.symm

/-- The part of the board that is one name's. -/
def ownBoard (conducts : CallId → Conduct σ α ε) (name : String) (stateful : Stateful σ α ε) :
    Board α ε :=
  stateful.board.part (fun id => (conducts id).name = name) (fun other => other = name)

/-- A step of a call for the name goes by nothing else. -/
theorem perform_own {alone : Stateful σ α ε} {name : String} {cue : Cue}
    (orderly : Orderly conducts stateful.board) (own : (conducts cue.id).name = name)
    (board : alone.board = stateful.ownBoard conducts name)
    (state : alone.states name = stateful.states name) :
    (alone.perform conducts cue).board = (stateful.perform conducts cue).ownBoard conducts name ∧
      (alone.perform conducts cue).states name = (stateful.perform conducts cue).states name := by
  have kept : decide ((conducts cue.id).name = name) = true := decide_eq_true own
  have phase : alone.board.phase? cue.id = stateful.board.phase? cue.id := by
    unfold Board.phase?
    rw [board]
    exact congrArg (Option.map Call.phase) (Board.get?_part kept)
  have acts : alone.acted conducts cue = stateful.acted conducts cue := by
    unfold acted
    rw [phase, own, state]
  subst own
  unfold perform
  rw [acts]
  refine ⟨?_, by simp only [Function.update_self]⟩
  cases made : (stateful.acted conducts cue).1 with
  | none => exact board
  | some move =>
    have keptMove : decide ((conducts move.id).name = (conducts cue.id).name) = true := by
      rw [(Conduct.act_own made).1]
      exact kept
    show alone.board.step move = _
    rw [board]
    exact (Board.part_step_of_kept (orderly.apart _) keptMove).symm

/-- A step of a call for another name is nothing to this one. -/
theorem perform_other {name : String} {cue : Cue} (orderly : Orderly conducts stateful.board)
    (other : (conducts cue.id).name ≠ name) :
    (stateful.perform conducts cue).ownBoard conducts name = stateful.ownBoard conducts name ∧
      (stateful.perform conducts cue).states name = stateful.states name := by
  have after := (orderly.perform cue).apart name
  refine ⟨?_, Function.update_of_ne (Ne.symm other) _ _⟩
  rcases stateful.board_perform conducts cue with same | ⟨move, own, -, stepped⟩
  · unfold ownBoard
    rw [same]
  · have unkept : decide ((conducts move.id).name = name) = false := by
      rw [own]
      exact decide_eq_false other
    unfold ownBoard
    rw [stepped] at after ⊢
    exact Board.part_step_of_unkept unkept (fun n => (orderly.apart name).unheld move.id n unkept)
      fun n => after.unheld move.id n unkept

/-- What a schedule makes of one name is what its calls alone make of it. -/
theorem ofName_after (conducts : CallId → Conduct σ α ε) (states : String → σ) (name : String)
    (schedule : List Cue) :
    (after conducts states (ofName conducts name schedule)).board =
        (after conducts states schedule).ownBoard conducts name ∧
      (after conducts states (ofName conducts name schedule)).states name =
        (after conducts states schedule).states name := by
  induction schedule using List.reverseRecOn with
  | nil => exact ⟨rfl, rfl⟩
  | append_singleton schedule cue ih =>
    obtain ⟨board, state⟩ := ih
    have orderly := orderly_after conducts states schedule
    rw [after_append_singleton]
    by_cases own : (conducts cue.id).name = name
    · have last : ofName conducts name (schedule ++ [cue]) =
          ofName conducts name schedule ++ [cue] := by
        simp [ofName, own]
      rw [last, after_append_singleton]
      exact perform_own orderly own board state
    · have none : ofName conducts name (schedule ++ [cue]) = ofName conducts name schedule := by
        simp [ofName, own]
      obtain ⟨sameBoard, sameState⟩ := perform_other orderly own
      rw [none, sameBoard, sameState]
      exact ⟨board, state⟩

end Stateful

/-- The count of pending operations counts the names that are pending. -/
theorem Board.Consistent.encard_pending {board : Board α ε} (consistent : board.Consistent) :
    {name | board.isPending name = true}.encard = board.pending := by
  have listed : {name | board.isPending name = true} = board.registrations.keys.toFinset := by
    ext name
    simp only [Set.mem_ofPred_eq, List.coe_toFinset, Table.mem_keys_iff]
    exact Option.isSome_iff_exists
  rw [listed, Set.encard_coe_eq_coe_finsetCard, List.toFinset_card_of_nodup consistent.nodup]
  unfold pending Table.size Table.keys
  rw [List.length_map]

/-- Whatever the schedule, leaving out all calls for other names changes no call for the name,
with its answer, its checks and its productions, nor whether the name is pending, nor its state; and
the count of pending operations is the number of names that are pending when their calls are alone.
Every beginning of a schedule is a schedule, so this holds at each of its points. -/
theorem names_do_not_interfere (conducts : CallId → Conduct σ α ε) (states : String → σ)
    (schedule : List Cue) :
    let whole := Stateful.after conducts states schedule
    let alone (name : String) :=
      Stateful.after conducts states (Stateful.ofName conducts name schedule)
    (∀ name,
      (∀ id, (conducts id).name = name →
        (alone name).board.calls.get? id = whole.board.calls.get? id) ∧
      (alone name).board.isPending name = whole.board.isPending name ∧
      (alone name).states name = whole.states name) ∧
    whole.board.pending = {name | (alone name).board.isPending name = true}.encard := by
  intro whole alone
  have own (name : String) := Stateful.ofName_after conducts states name schedule
  have pending (name : String) :
      (alone name).board.isPending name = whole.board.isPending name := by
    unfold Board.isPending Table.contains
    rw [(own name).1]
    exact congrArg Option.isSome (Board.registered_part (decide_eq_true rfl))
  refine ⟨fun name => ⟨fun id named => ?_, pending name, (own name).2⟩, ?_⟩
  · rw [(own name).1]
    exact Board.get?_part (decide_eq_true named)
  · simp only [pending]
    exact (Stateful.orderly_after conducts states schedule).consistent.encard_pending.symm

end ModuleOpens.Exclusive
