/-
# Exclusive.Desk — calls made one after the other

Where only one caller moves at a time, a call is two stretches of a schedule:
`approach` takes it to the point where its producer runs, or where it waits, or
to its answer; `conclude` takes it from there, with what the producer came back
with. Between the two, other calls may come and go.
-/
import ModuleOpens.Exclusive.Board

namespace ModuleOpens.Exclusive

set_option autoImplicit false

/-- A board with the number for the next call. -/
structure Desk (α ε : Type) where
  board : Board α ε
  nextId : CallId
  deriving DecidableEq, Repr

namespace Desk

variable {α ε : Type}

def empty : Desk α ε := ⟨.empty, 0⟩

def run (desk : Desk α ε) (schedule : List (Move α ε)) : Desk α ε :=
  { desk with board := desk.board.run schedule }

/-- Where a call stands; one that never came stands before its first check. -/
def phase (desk : Desk α ε) (id : CallId) : Phase α ε :=
  ((desk.board.calls.get? id).map Call.phase).getD .arrived

def checks (desk : Desk α ε) (id : CallId) : Nat :=
  ((desk.board.calls.get? id).map Call.checks).getD 0

def ran (desk : Desk α ε) (id : CallId) : Bool :=
  ((desk.board.calls.get? id).map fun call => decide (0 < call.productions)).getD false

/-- A new call for a name, up to its producer, its wait or its answer; `first` and `second`
are what its checks come back with. -/
def approach (desk : Desk α ε) (name : String) (first second : Finding α) : CallId × Desk α ε :=
  let id := desk.nextId
  (id, { desk with nextId := id + 1 }.run
    [.arrive id name, .check id first, .enter id, .check id second, .settle id, .leave id])

/-- The producer of a call comes back, and the call gets its answer. -/
def conclude (desk : Desk α ε) (id : CallId) (product : Product α ε) : Desk α ε :=
  desk.run [.produce id product, .settle id, .leave id]

/-- Waiting calls take the outcomes that are there. -/
def wakeAll (desk : Desk α ε) (ids : List CallId) : Desk α ε :=
  desk.run (ids.map .wake)

def expire (desk : Desk α ε) (id : CallId) : Desk α ε :=
  desk.run [.expire id]

end Desk

end ModuleOpens.Exclusive
