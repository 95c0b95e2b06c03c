/-
# Proofs.Exclusive.Store — calls that share a store

Calls for a name often share a store: a check looks the name up, and a producer
puts its value there before it comes back with it, or else fails without having
put anything there. `Obeys store name schedule` says so of the calls for one
name; calls for other names may do as they like. Then the store and the board
say the same of the name (`Stocked`), whatever comes late: who is registered past
the second check has looked after everyone who was registered before.

* `obeys_append_singleton`: a schedule obeys when each action accords with those before it;
* `stocked_append_singleton`: what one more action keeps;
* `stocked_of_obeys`: what holds after every schedule that obeys.
-/
import Mathlib.Data.List.Induction
import ModuleOpens.Proofs.Exclusive.Answer

namespace ModuleOpens.Exclusive

set_option autoImplicit false

variable {α ε : Type}

/-- A board whose calls share a store. -/
structure Shared (α ε : Type) where
  board : Board α ε
  store : Table String α
  deriving DecidableEq, Repr

/-- What happens on a board with a store. -/
inductive Action (α ε : Type) where
  | move (move : Move α ε)
  /-- A value is put into the store, by the producer of a call or on its behalf. -/
  | write (writer : CallId) (key : String) (value : α)
  deriving DecidableEq, Repr

namespace Shared

/-- A store, and a board that no call has come to. -/
def opening (store : Table String α) : Shared α ε := ⟨.empty, store⟩

def perform (shared : Shared α ε) : Action α ε → Shared α ε
  | .move move => { shared with board := shared.board.step move }
  | .write _ key value => { shared with store := shared.store.set key value }

def run (shared : Shared α ε) (schedule : List (Action α ε)) : Shared α ε :=
  schedule.foldl perform shared

/-- A store with its board after a schedule. -/
def after (store : Table String α) (schedule : List (Action α ε)) : Shared α ε :=
  (opening store).run schedule

/-- What a look into the store comes back with. -/
def look (shared : Shared α ε) (name : String) : Finding α :=
  match shared.store.get? name with
  | some value => .found value
  | none => .nothing

end Shared

/-- The moves among some actions. -/
def movesOf (schedule : List (Action α ε)) : List (Move α ε) :=
  schedule.filterMap fun
    | .move move => some move
    | .write .. => none

/-- The value that a call has put into the store under a name. -/
def writtenBy (writer : CallId) (name : String) (schedule : List (Action α ε)) : Option α :=
  schedule.findSome? fun
    | .write other key value => if other = writer ∧ key = name then some value else none
    | .move _ => none

/-- The value that a producer comes back with, if it does with one. -/
def Product.value? : Product α ε → Option α
  | .value result => some result
  | .failure _ | .torn => none

theorem Product.value?_eq_some_iff {product : Product α ε} {value : α} :
    product.value? = some value ↔ product = .value value := by
  cases product <;> simp [value?]

/-! ## Schedules in which a name is looked up and stored -/

/-- After the actions `before`, this one accords with how the calls for a name check and produce: a
check comes back with what the store has; a producer comes back with the value that it has put
into the store, or without one when it has put none there; and only a producer puts something
there, once. -/
def Accords (store : Table String α) (name : String) (before : List (Action α ε)) :
    Action α ε → Prop
  | .move (.check id finding) =>
    (Shared.after store before).board.IsFor name id →
      finding = (Shared.after store before).look name
  | .move (.produce id product) =>
    (Shared.after store before).board.Produces name id →
      product.value? = writtenBy id name before
  | .write writer key _ =>
    key = name → (Shared.after store before).board.Produces name writer ∧
      writtenBy writer name before = none
  | .move _ => True

/-- Every action of the schedule accords with those before it. -/
def Obeys (store : Table String α) (name : String) (schedule : List (Action α ε)) : Prop :=
  ∀ before action after, schedule = before ++ action :: after → Accords store name before action

variable {store : Table String α} {name : String} {schedule before : List (Action α ε)}
  {action : Action α ε}

theorem obeys_append_singleton :
    Obeys store name (schedule ++ [action]) ↔
      Obeys store name schedule ∧ Accords store name schedule action := by
  constructor
  · intro obeys
    refine ⟨?_, obeys schedule action [] rfl⟩
    intro before other after split
    apply obeys before other (after ++ [action])
    rw [split, List.append_assoc, List.cons_append]
  · rintro ⟨obeys, accords⟩ before other after split
    rcases List.eq_nil_or_concat after with rfl | ⟨rest, last, rfl⟩
    · obtain ⟨rfl, same⟩ := List.append_inj' split rfl
      cases same
      exact accords
    · rw [List.concat_eq_append, ← List.cons_append, ← List.append_assoc] at split
      obtain ⟨rfl, -⟩ := List.append_inj' split rfl
      exact obeys before other rest rfl

theorem obeys_iff_forall_lt :
    Obeys store name schedule ↔
      ∀ n, ∀ inside : n < schedule.length, Accords store name (schedule.take n) schedule[n] := by
  constructor
  · intro obeys n inside
    apply obeys (schedule.take n) schedule[n] (schedule.drop (n + 1))
    rw [← List.drop_eq_getElem_cons inside, List.take_append_drop]
  · intro accords before action after split
    subst split
    have inside : before.length < (before ++ action :: after).length := by simp
    simpa using accords before.length inside

section Decidable

variable [DecidableEq α] [DecidableEq ε]

instance (board : Board α ε) (name : String) (id : CallId) : Decidable (board.IsFor name id) :=
  decidable_of_iff ((board.calls.get? id).any fun call => decide (call.name = name)) (by
    simp [Board.IsFor, Option.any_eq_true])

instance (board : Board α ε) (name : String) (id : CallId) : Decidable (board.Produces name id) :=
  decidable_of_iff
    ((board.calls.get? id).any fun call => decide (call.name = name ∧ call.phase = .producing)) (by
      simp [Board.Produces, Option.any_eq_true])

instance (store : Table String α) (name : String) (before : List (Action α ε)) :
    (action : Action α ε) → Decidable (Accords store name before action)
  | .move (.check _ _) => inferInstanceAs (Decidable (_ → _))
  | .move (.produce _ _) => inferInstanceAs (Decidable (_ → _))
  | .write _ _ _ => inferInstanceAs (Decidable (_ → _))
  | .move (.arrive ..) => instDecidableTrue
  | .move (.enter ..) => instDecidableTrue
  | .move (.settle ..) => instDecidableTrue
  | .move (.leave ..) => instDecidableTrue
  | .move (.wake ..) => instDecidableTrue
  | .move (.expire ..) => instDecidableTrue

instance : Decidable (Obeys store name schedule) :=
  decidable_of_iff _ obeys_iff_forall_lt.symm

end Decidable

theorem mem_of_writtenBy {writer : CallId} {value : α}
    (wrote : writtenBy writer name schedule = some value) : .write writer name value ∈ schedule := by
  obtain ⟨action, member, isWrite⟩ := List.exists_of_findSome?_eq_some wrote
  cases action with
  | move move => cases isWrite
  | write other key value' =>
    simp only [Option.ite_none_right_eq_some, Option.some.injEq] at isWrite
    obtain ⟨⟨rfl, rfl⟩, rfl⟩ := isWrite
    exact member

theorem writtenBy_eq_none_iff {writer : CallId} :
    writtenBy writer name schedule = none ↔ ∀ value, .write writer name value ∉ schedule := by
  unfold writtenBy
  rw [List.findSome?_eq_none_iff]
  constructor
  · intro none value member
    simpa using none _ member
  · intro none action member
    cases action with
    | move move => rfl
    | write other key value =>
      refine if_neg ?_
      rintro ⟨rfl, rfl⟩
      exact none value member

theorem writtenBy_append (writer : CallId) (name : String) (schedule more : List (Action α ε)) :
    writtenBy writer name (schedule ++ more) =
      (writtenBy writer name schedule).or (writtenBy writer name more) :=
  List.findSome?_append

theorem Obeys.append_singleton {more : List (Action α ε)}
    (obeys : Obeys store name (schedule ++ more))
    (accords : Accords store name (schedule ++ more) action) :
    Obeys store name (schedule ++ (more ++ [action])) := by
  rw [← List.append_assoc]
  exact obeys_append_singleton.2 ⟨obeys, accords⟩

namespace Shared

theorem after_append (store : Table String α) (schedule more : List (Action α ε)) :
    after store (schedule ++ more) = (after store schedule).run more :=
  List.foldl_append

/-- The board is the one that the moves lead to. -/
theorem board_run (shared : Shared α ε) (schedule : List (Action α ε)) :
    (shared.run schedule).board = shared.board.run (movesOf schedule) := by
  induction schedule generalizing shared with
  | nil => rfl
  | cons action rest ih =>
    cases action with
    | move move => exact ih (shared.perform (.move move))
    | write writer key value => exact ih (shared.perform (.write writer key value))

theorem consistent_after (store : Table String α) (schedule : List (Action α ε)) :
    (after store schedule).board.Consistent := by
  have empty : (opening store : Shared α ε).board.Consistent := Board.consistent_empty
  unfold after
  rw [board_run]
  exact Board.consistent_run empty _

theorem look_eq_found_iff {shared : Shared α ε} {value : α} :
    shared.look name = .found value ↔ shared.store.get? name = some value := by
  unfold look
  cases shared.store.get? name <;> simp

theorem look_eq_nothing_iff {shared : Shared α ε} :
    shared.look name = .nothing ↔ shared.store.get? name = none := by
  unfold look
  cases shared.store.get? name <;> simp

end Shared

/-! ## What holds of the store -/

/-- The store and the board say the same of a name: a value that is answered is the stored one; it
was put there by one call; and a registered call that is past its second check has put it there or
answers it. -/
structure Stocked (store : Table String α) (name : String) (schedule : List (Action α ε)) :
    Prop where
  given : ∀ id call value, (Shared.after store schedule).board.calls.get? id = some call →
    call.name = name → call.phase.given? = some (.value value) →
    (Shared.after store schedule).store.get? name = some value
  written_iff : ∀ value, (Shared.after store schedule).store.get? name = some value ↔
    ∃ writer, .write writer name value ∈ schedule
  one_writer : ∀ writer value other value', .write writer name value ∈ schedule →
    .write other name value' ∈ schedule → other = writer
  past : ∀ id call value, (Shared.after store schedule).board.calls.get? id = some call →
    call.name = name → call.phase.checkedTwice = true →
    (Shared.after store schedule).store.get? name = some value →
    (call.phase.given? = none ∧ .write id name value ∈ schedule) ∨
      call.phase.given? = some (.value value)

theorem stocked_nil (absent : store.get? name = none) :
    Stocked store name ([] : List (Action α ε)) where
  given id call value found := by cases found
  written_iff value := by
    show store.get? name = some value ↔ _
    simp [absent]
  one_writer writer value other value' member := by cases member
  past id call value found := by cases found

section Step

variable {id : CallId} {value : α}

theorem mem_append_move {writer : CallId} {key : String} {move : Move α ε} :
    .write writer key value ∈ schedule ++ [.move move] ↔ .write writer key value ∈ schedule := by
  simp

section Turn

variable {move : Move α ε} {call : Call α ε} (stocked : Stocked store name schedule)
  (accords : Accords store name schedule (.move move))
  (turn : Board.Turn (Shared.after store schedule).board move id call) (named : call.name = name)

include stocked accords turn named

/-- A call that answers a value after a move answers the stored one. -/
theorem Stocked.given_of_turn (given : call.phase.given? = some (.value value)) :
    (Shared.after store schedule).store.get? name = some value := by
  subst named
  rcases turn.given (Shared.consistent_after store schedule) given with
    ⟨other, present, found, named, otherGiven⟩ | ⟨isFor, rfl⟩ | ⟨produces, rfl⟩
  · exact stocked.given other present value found named otherGiven
  · have looked := accords isFor
    exact Shared.look_eq_found_iff.1 looked.symm
  · have wrote : some value = writtenBy id call.name schedule := accords produces
    exact (stocked.written_iff value).2 ⟨id, mem_of_writtenBy wrote.symm⟩

/-- A registered call that is past its second check after a move has put the stored value there, or
answers it. -/
theorem Stocked.past_of_turn (past : call.phase.checkedTwice = true)
    (stored : (Shared.after store schedule).store.get? name = some value) :
    (call.phase.given? = none ∧ .write id name value ∈ schedule) ∨
      call.phase.given? = some (.value value) := by
  subst named
  rcases turn.checkedTwice past with
    ⟨present, found, named, wasPast, same⟩ | ⟨present, finding, found, phase, rfl, rfl⟩ |
    ⟨present, product, found, phase, rfl, rfl⟩
  · rw [← same]
    exact stocked.past id present value found named wasPast stored
  · -- The second check looks after the value was stored, and finds it.
    have looked := accords ⟨present, found, (present.name_checked finding).symm⟩
    rw [Shared.look_eq_found_iff.2 stored] at looked
    exact Or.inr ((Call.given?_checked (Or.inr phase) finding).2 looked)
  · have named := (present.name_produced product).symm
    have returned := accords ⟨present, found, named, phase⟩
    have wasPast : present.phase.checkedTwice = true := by
      rw [phase]
      rfl
    rcases stocked.past id present value found named wasPast stored with ⟨-, wrote⟩ | given
    · refine Or.inr ((present.given?_produced product).2 ?_)
      cases isWritten : writtenBy id (present.produced product).name schedule with
      | none => exact absurd wrote (writtenBy_eq_none_iff.1 isWritten value)
      | some other =>
        have same := (stocked.written_iff other).2 ⟨id, mem_of_writtenBy isWritten⟩
        rw [stored] at same
        cases same
        exact Product.value?_eq_some_iff.1 (returned.trans isWritten)
    · rw [phase] at given
      cases given

end Turn

/-- A move changes nothing in the store. -/
theorem Stocked.move {move : Move α ε} (stocked : Stocked store name schedule)
    (accords : Accords store name schedule (.move move)) :
    Stocked store name (schedule ++ [.move move]) := by
  have stepped := Shared.after_append store schedule [.move move]
  have sameStore : (Shared.after store (schedule ++ [.move move])).store =
      (Shared.after store schedule).store := by
    rw [stepped]
    rfl
  have turn {id : CallId} {call : Call α ε}
      (found : (Shared.after store (schedule ++ [.move move])).board.calls.get? id = some call) :
      Board.Turn (Shared.after store schedule).board move id call := by
    rw [stepped] at found
    exact Board.turn_step found
  refine ⟨?_, ?_, ?_, ?_⟩
  · intro id call value found named given
    rw [sameStore]
    exact stocked.given_of_turn accords (turn found) named given
  · intro value
    rw [sameStore, stocked.written_iff]
    simp only [mem_append_move]
  · intro writer value other value' member member'
    rw [mem_append_move] at member member'
    exact stocked.one_writer writer value other value' member member'
  · intro id call value found named past stored
    rw [sameStore] at stored
    rw [mem_append_move]
    exact stocked.past_of_turn accords (turn found) named past stored

/-- A write under another name changes nothing for this one. -/
theorem Stocked.writeOther {writer : CallId} {key : String} (stocked : Stocked store name schedule)
    (other : key ≠ name) (value : α) :
    Stocked store name (schedule ++ [.write writer key value]) := by
  have member {writer' : CallId} {value' : α} :
      (.write writer' name value' : Action α ε) ∈ schedule ++ [.write writer key value] ↔
        .write writer' name value' ∈ schedule := by
    simp [Ne.symm other]
  have stepped := Shared.after_append store schedule [.write writer key value]
  have sameBoard : (Shared.after store (schedule ++ [.write writer key value])).board =
      (Shared.after store schedule).board := by
    rw [stepped]
    rfl
  have sameStore : (Shared.after store (schedule ++ [.write writer key value])).store.get? name =
      (Shared.after store schedule).store.get? name := by
    rw [stepped]
    show (Table.set _ key value).get? name = _
    rw [Table.get?_set, if_neg (Ne.symm other)]
  refine ⟨?_, ?_, ?_, ?_⟩
  · rw [sameBoard, sameStore]
    exact stocked.given
  · rw [sameStore]
    simp only [member]
    exact stocked.written_iff
  · simp only [member]
    exact stocked.one_writer
  · rw [sameBoard, sameStore]
    simp only [member]
    exact stocked.past

/-- Who writes the name writes it first: a call in its producer has found nothing. -/
theorem Stocked.unwritten (stocked : Stocked store name schedule)
    (produces : (Shared.after store schedule).board.Produces name id)
    (first : writtenBy id name schedule = none) :
    (Shared.after store schedule).store.get? name = none := by
  obtain ⟨call, found, named, phase⟩ := produces
  cases stored : (Shared.after store schedule).store.get? name with
  | none => rfl
  | some value =>
    have past : call.phase.checkedTwice = true := by
      rw [phase]
      rfl
    rcases stocked.past id call value found named past stored with ⟨-, wrote⟩ | given
    · exact absurd wrote (writtenBy_eq_none_iff.1 first value)
    · rw [phase] at given
      cases given

/-- The one call in its producer puts the value into the store. -/
theorem Stocked.write (stocked : Stocked store name schedule)
    (produces : (Shared.after store schedule).board.Produces name id)
    (first : writtenBy id name schedule = none) (value : α) :
    Stocked store name (schedule ++ [.write id name value]) := by
  have absent := stocked.unwritten produces first
  have none (writer : CallId) (other : α) : (.write writer name other : Action α ε) ∉ schedule := by
    intro member
    have stored := (stocked.written_iff other).2 ⟨writer, member⟩
    rw [absent] at stored
    cases stored
  have member {writer : CallId} {other : α} :
      (.write writer name other : Action α ε) ∈ schedule ++ [.write id name value] ↔
        writer = id ∧ other = value := by
    simp [none]
  have consistent := Shared.consistent_after store schedule
  have stepped := Shared.after_append store schedule [.write id name value]
  have sameBoard : (Shared.after store (schedule ++ [.write id name value])).board =
      (Shared.after store schedule).board := by
    rw [stepped]
    rfl
  have stored : (Shared.after store (schedule ++ [.write id name value])).store.get? name =
      some value := by
    rw [stepped]
    show (Table.set _ name value).get? name = _
    rw [Table.get?_set, if_pos rfl]
  refine ⟨?_, ?_, ?_, ?_⟩
  · intro other call value' found named given
    rw [sameBoard] at found
    have before := stocked.given other call value' found named given
    rw [absent] at before
    cases before
  · intro other
    rw [stored]
    simp [member, eq_comm]
  · intro writer value' other value'' isWrite isWrite'
    rw [member] at isWrite isWrite'
    rw [isWrite.1, isWrite'.1]
  · intro other call value' found named past storedToo
    rw [sameBoard] at found
    rw [stored] at storedToo
    cases storedToo
    obtain ⟨present, presentFound, presentNamed, phase⟩ := produces
    have holds : (Shared.after store schedule).board.Holds name id :=
      ⟨present, presentFound, presentNamed, by rw [phase]; rfl⟩
    have own : other = id := consistent.eq_of_holds holds
      ⟨call, found, named, Phase.holds_of_checkedTwice past⟩
    subst own
    cases presentFound.symm.trans found
    refine Or.inl ⟨?_, member.2 ⟨rfl, rfl⟩⟩
    rw [phase]
    rfl

/-- One more action that accords with those before it. -/
theorem stocked_append_singleton (stocked : Stocked store name schedule)
    (accords : Accords store name schedule action) :
    Stocked store name (schedule ++ [action]) := by
  cases action with
  | move move => exact stocked.move accords
  | write writer key value =>
    by_cases same : key = name
    · subst same
      obtain ⟨produces, first⟩ := accords rfl
      exact stocked.write produces first value
    · exact stocked.writeOther same value

theorem stocked_of_obeys (absent : store.get? name = none) (obeys : Obeys store name schedule) :
    Stocked store name schedule := by
  induction schedule using List.reverseRecOn with
  | nil => exact stocked_nil absent
  | append_singleton schedule action ih =>
    obtain ⟨earlier, accords⟩ := obeys_append_singleton.1 obeys
    exact stocked_append_singleton (ih earlier) accords

end Step

end ModuleOpens.Exclusive
