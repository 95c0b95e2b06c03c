/-
# Exclusive.Board — one producer at a time for each name

Callers ask for the value of a name. A caller first checks whether the value is
there already. If not, it either registers for the name, when nobody else has,
or waits for the caller that did. The registered caller checks once more, and
then produces the value. What comes of it, a value, a failure, or nothing
because the caller was torn away, is recorded once, and every waiting caller
gets it. Then the registration is removed, so that a board only knows names
that someone is busy with.

A schedule is any list of moves of any callers, each known by a number that the
schedule chooses. A move that is not open to its caller does nothing, so every
list is a schedule.

* `record_of_some`: an outcome that is recorded never changes;
* `release_other`: a caller removes nobody's registration but its own.
-/
import ModuleOpens.Diagnostic
import ModuleOpens.Duration
import ModuleOpens.Event
import ModuleOpens.Table

namespace ModuleOpens.Exclusive

set_option autoImplicit false

abbrev CallId := Nat

/-- What became of a registered call. -/
inductive Outcome (α ε : Type) where
  | produced (value : α)
  | failed (error : ε)
  /-- The caller was torn away before it had a result. -/
  | abandoned
  deriving DecidableEq, Repr

/-- What a check comes back with. -/
inductive Finding (α : Type) where
  | found (value : α)
  | nothing
  /-- It does not come back: the caller is torn away. -/
  | torn
  deriving DecidableEq, Repr

inductive Product (α ε : Type) where
  | value (value : α)
  | failure (error : ε)
  /-- It does not come back: the caller is torn away. -/
  | torn
  deriving DecidableEq, Repr

inductive Answer (α ε : Type) where
  | value (value : α)
  | failure (error : ε)
  | timeout
  /-- The caller that it waited for was torn away. -/
  | abandoned
  | torn
  deriving DecidableEq, Repr

inductive Phase (α ε : Type) where
  | arrived
  /-- The first check found nothing; the call is about to register or to wait. -/
  | missed
  | waiting (owner : CallId)
  /-- It holds its name, and is about to check once more. -/
  | registered
  | producing
  /-- It has an answer, and is about to see to it that an outcome is recorded. -/
  | settling (answer : Answer α ε)
  /-- It is about to give its name free. -/
  | leaving (answer : Answer α ε)
  | finished (answer : Answer α ε)
  deriving DecidableEq, Repr

/-- A call: its name, where it stands, the outcome that it records for those who wait for it,
and how often it checked and produced. -/
structure Call (α ε : Type) where
  name : String
  phase : Phase α ε
  outcome : Option (Outcome α ε)
  checks : Nat
  productions : Nat
  deriving DecidableEq, Repr

/-- All calls, and for each name that someone is busy with, who. -/
structure Board (α ε : Type) where
  calls : Table CallId (Call α ε)
  registrations : Table String CallId
  deriving DecidableEq, Repr

inductive Move (α ε : Type) where
  | arrive (id : CallId) (name : String)
  | check (id : CallId) (finding : Finding α)
  /-- The call registers, or finds that it has to wait. -/
  | enter (id : CallId)
  | produce (id : CallId) (product : Product α ε)
  | settle (id : CallId)
  | leave (id : CallId)
  /-- A waiting call takes the outcome, if there is one. -/
  | wake (id : CallId)
  /-- Its time is up: a waiting call takes the outcome, or gives up when there is none. -/
  | expire (id : CallId)
  deriving DecidableEq, Repr

namespace Phase

variable {α ε : Type}

/-- The call holds the registration of its name. -/
def holds : Phase α ε → Bool
  | .registered | .producing | .settling _ | .leaving _ => true
  | _ => false

/-- The answer, once the call has finished. -/
def answer? : Phase α ε → Option (Answer α ε)
  | .finished answer => some answer
  | _ => none

end Phase

namespace Call

variable {α ε : Type}

def new (name : String) : Call α ε := ⟨name, .arrived, none, 0, 0⟩

/-- The outcome is recorded, unless one was recorded before. -/
def record (call : Call α ε) (outcome : Outcome α ε) : Call α ε :=
  { call with outcome := call.outcome.or (some outcome) }

def moveTo (call : Call α ε) (phase : Phase α ε) : Call α ε :=
  { call with phase }

/-- A check came back to the call, for the first or for the second time. -/
def checked (call : Call α ε) (finding : Finding α) : Call α ε :=
  let call := { call with checks := call.checks + 1 }
  match call.phase, finding with
  | .arrived, .found value => call.moveTo (.finished (.value value))
  | .arrived, .nothing => call.moveTo .missed
  | .arrived, .torn => call.moveTo (.finished .torn)
  | .registered, .found value =>
    (call.record (.produced value)).moveTo (.settling (.value value))
  | .registered, .nothing =>
    { call with phase := .producing, productions := call.productions + 1 }
  | .registered, .torn => call.moveTo (.settling .torn)
  | _, _ => call

def produced (call : Call α ε) : Product α ε → Call α ε
  | .value value => (call.record (.produced value)).moveTo (.settling (.value value))
  | .failure error => (call.record (.failed error)).moveTo (.settling (.failure error))
  | .torn => call.moveTo (.settling .torn)

/-- An outcome that is recorded never changes. -/
theorem record_of_some {call : Call α ε} {recorded : Outcome α ε}
    (h : call.outcome = some recorded) (outcome : Outcome α ε) : call.record outcome = call := by
  cases call
  simp_all [record]

end Call

namespace Answer

variable {α ε : Type}

/-- What a waiting call answers when it gets an outcome. -/
def ofOutcome : Outcome α ε → Answer α ε
  | .produced result => .value result
  | .failed error => .failure error
  | .abandoned => .abandoned

end Answer

namespace Board

variable {α ε : Type}

def empty : Board α ε := ⟨.empty, .empty⟩

def pending (board : Board α ε) : Nat :=
  board.registrations.size

/-- Someone is busy with the name. -/
def isPending (board : Board α ε) (name : String) : Bool :=
  board.registrations.contains name

def setCall (board : Board α ε) (id : CallId) (call : Call α ε) : Board α ε :=
  { board with calls := board.calls.set id call }

def outcomeOf? (board : Board α ε) (id : CallId) : Option (Outcome α ε) :=
  (board.calls.get? id).bind Call.outcome

/-- The name is free again, if it is registered for this call. -/
def release (board : Board α ε) (name : String) (id : CallId) : Board α ε :=
  if board.registrations.get? name = some id then
    { board with registrations := board.registrations.erase name }
  else board

/-- The call registers for its name, or waits for the call that did. -/
def entered (board : Board α ε) (id : CallId) (call : Call α ε) : Board α ε :=
  match board.registrations.get? call.name with
  | some owner => board.setCall id (call.moveTo (.waiting owner))
  | none =>
    { board.setCall id (call.moveTo .registered) with
      registrations := board.registrations.set call.name id }

/-- The board after a move of a call that stands on it. -/
def moved (board : Board α ε) (id : CallId) (call : Call α ε) : Move α ε → Board α ε
  | .arrive _ _ => board
  | .check _ finding =>
    match call.phase with
    | .arrived | .registered => board.setCall id (call.checked finding)
    | _ => board
  | .enter _ =>
    match call.phase with
    | .missed => board.entered id call
    | _ => board
  | .produce _ product =>
    match call.phase with
    | .producing => board.setCall id (call.produced product)
    | _ => board
  | .settle _ =>
    match call.phase with
    | .settling answer => board.setCall id ((call.record .abandoned).moveTo (.leaving answer))
    | _ => board
  | .leave _ =>
    match call.phase with
    | .leaving answer => (board.release call.name id).setCall id (call.moveTo (.finished answer))
    | _ => board
  | .wake _ =>
    match call.phase with
    | .waiting owner =>
      match board.outcomeOf? owner with
      | some outcome => board.setCall id (call.moveTo (.finished (.ofOutcome outcome)))
      | none => board
    | _ => board
  | .expire _ =>
    match call.phase with
    | .waiting owner =>
      match board.outcomeOf? owner with
      | some outcome => board.setCall id (call.moveTo (.finished (.ofOutcome outcome)))
      | none => board.setCall id (call.moveTo (.finished .timeout))
    | _ => board

end Board

def Move.id {α ε : Type} : Move α ε → CallId
  | .arrive id _ | .check id _ | .enter id | .produce id _ | .settle id | .leave id | .wake id
  | .expire id => id

namespace Board

variable {α ε : Type}

/-- The board after one move. A move that is not open to its call does nothing. -/
def step (board : Board α ε) (move : Move α ε) : Board α ε :=
  match board.calls.get? move.id with
  | some call => board.moved move.id call move
  | none =>
    match move with
    | .arrive id name => board.setCall id (.new name)
    | _ => board

def run (board : Board α ε) (schedule : List (Move α ε)) : Board α ε :=
  schedule.foldl step board

/-- A caller removes nobody's registration but its own. -/
theorem release_other {board : Board α ε} {name : String} {id owner : CallId}
    (held : board.registrations.get? name = some owner) (other : owner ≠ id) :
    board.release name id = board := by
  unfold release
  rw [held, if_neg]
  simpa using other

end Board

/-! ## Errors and reports -/

inductive CallError (ε : Type) where
  /-- The producer failed, the caller's own or the one that it waited for. -/
  | failed (error : ε)
  | timeout (name : String) (waited : Duration)
  /-- The caller that it waited for was torn away. -/
  | abandoned (name : String)
  deriving DecidableEq, Repr

namespace CallError

variable {ε : Type}

/-- The error in words; `describe` says what a failure is. -/
def message (describe : ε → String) : CallError ε → String
  | .failed error => "producer failed: " ++ describe error
  | .timeout name waited =>
    "timed out after " ++ waited.text ++ " waiting for concurrent operation on '" ++ name ++ "'"
  | .abandoned name => "concurrent operation on '" ++ name ++ "' was abandoned"

instance [Diagnostic ε] : Diagnostic (CallError ε) where
  message error := error.message Diagnostic.message
  causes
    | .failed error => Diagnostic.message error :: Diagnostic.causes error
    | _ => []

end CallError

/-- What a caller gets: the value, or why there is none; nothing when it was torn away. -/
def Answer.result? {α ε : Type} (name : String) (wait : Duration) :
    Answer α ε → Option (Except (CallError ε) α)
  | .value result => some (.ok result)
  | .failure error => some (.error (.failed error))
  | .timeout => some (.error (.timeout name wait))
  | .abandoned => some (.error (.abandoned name))
  | .torn => none

/-- What a caller reports that has waited as long as it may. -/
def gaveUp (name : String) (wait : Duration) : Event :=
  .debug ("Gave up waiting " ++ wait.text ++ " for concurrent operation on '" ++ name ++ "'")

def dump (pending : Nat) (wait : Duration) : String :=
  "NamedExclusiveSingleOperations \x7b pending: " ++ toString pending ++ ", wait_timeout: "
    ++ wait.text ++ " \x7d"

end ModuleOpens.Exclusive
