/-
# Loading.Limiter — how often loaders are asked for what

Loaders tell their listeners when they open a resource, load a unit, or look
for the place of a resource. A limiter counts the first two, for each loader
name and each name that was asked for; it knows a loader name from the first
event that it counts.

* `count_observe`: an event adds one to its own count and to no other.
-/
import ModuleOpens.Diagnostic
import ModuleOpens.Sorted
import ModuleOpens.Table
import ModuleOpens.Text.Quoted

namespace ModuleOpens

set_option autoImplicit false

/-- What a loader is about to do. -/
inductive LoaderHook where
  | openResource
  | loadUnit
  | listUrls
  | findUrl
  deriving DecidableEq, Repr

/-- Something that a loader tells its listeners. -/
structure LoaderEvent where
  hook : LoaderHook
  name : String
  loader : String
  deriving DecidableEq, Repr

/-- What is counted. -/
inductive Counted where
  | resource
  | unit
  deriving DecidableEq, Repr

/-- What an event counts as, if it is counted at all. -/
def LoaderHook.counted? : LoaderHook → Option Counted
  | .openResource => some .resource
  | .loadUnit => some .unit
  | .listUrls => none
  | .findUrl => none

structure LoaderCounts where
  resources : Table String Nat
  units : Table String Nat
  deriving DecidableEq, Repr

structure Limiter where
  loaders : Table String LoaderCounts
  deriving DecidableEq, Repr

/-- Why a limiter gives no count. -/
inductive LimiterError where
  | unknownLoader (name : String) (known : List String)
  deriving DecidableEq, Repr

instance : Diagnostic LimiterError where
  message
    | .unknownLoader name known =>
      "loader name '" ++ name ++ "' has not been observed; valid names: " ++ Text.quotedList known

namespace LoaderCounts

def empty : LoaderCounts := ⟨.empty, .empty⟩

def increment (counts : Table String Nat) (name : String) : Table String Nat :=
  counts.alter name fun present => present.getD 0 + 1

def add (counts : LoaderCounts) (what : Counted) (name : String) : LoaderCounts :=
  match what with
  | .resource => { counts with resources := increment counts.resources name }
  | .unit => { counts with units := increment counts.units name }

def get (counts : LoaderCounts) (what : Counted) (name : String) : Nat :=
  match what with
  | .resource => (counts.resources.get? name).getD 0
  | .unit => (counts.units.get? name).getD 0

theorem get_add (counts : LoaderCounts) (what what' : Counted) (name name' : String) :
    (counts.add what name).get what' name' =
      counts.get what' name' + if what = what' ∧ name = name' then 1 else 0 := by
  cases what <;> cases what' <;> simp [add, get, increment, Table.get?_alter] <;>
    (by_cases h : name = name' <;> simp_all [eq_comm])

end LoaderCounts

namespace Limiter

def empty : Limiter := ⟨.empty⟩

/-- The limiter after an event. -/
def observe (limiter : Limiter) (event : LoaderEvent) : Limiter :=
  match event.hook.counted? with
  | none => limiter
  | some what =>
    ⟨limiter.loaders.alter event.loader fun present =>
      (present.getD .empty).add what event.name⟩

def observeAll (limiter : Limiter) (events : List LoaderEvent) : Limiter :=
  events.foldl observe limiter

/-- The loader names observed so far, in increasing order. -/
def observed (limiter : Limiter) : List String :=
  sortedSet textBefore limiter.loaders.keys

/-- How often a loader was asked for a name. -/
def count (limiter : Limiter) (what : Counted) (loader name : String) : Except LimiterError Nat :=
  match limiter.loaders.get? loader with
  | some counts => .ok (counts.get what name)
  | none => .error (.unknownLoader loader limiter.observed)

/-- An event adds one to its own count and to no other; the loader is known from then on. -/
theorem count_observe {limiter : Limiter} {event : LoaderEvent} {what : Counted}
    (counted : event.hook.counted? = some what) (what' : Counted) (name : String) :
    (limiter.observe event).count what' event.loader name =
      .ok (((limiter.loaders.get? event.loader).getD .empty).get what' name
        + if what = what' ∧ event.name = name then 1 else 0) := by
  simp [observe, counted, count, Table.get?_alter, LoaderCounts.get_add]

end Limiter

end ModuleOpens
