/-
# Collector — requests from many sources, each once

Declared opens, options of extensions and any number of producers contribute
requests. The collector keeps the first appearance of each, in order, and beside
that list the set of what it holds, by which it tells a request that came before.
A source that fails adds nothing, except that an extension keeps what its values
asked for before the one that failed.
-/
import ModuleOpens.Config
import ModuleOpens.Distinct
import ModuleOpens.Event
import ModuleOpens.Request.Flag

namespace ModuleOpens

set_option autoImplicit false

structure Collector where
  /-- In order of first appearance. -/
  requests : List OpenRequest
  seen : List OpenRequest
  deriving DecidableEq, Repr

/-- A source of requests, which may fail to tell them. -/
structure Producer where
  name : String
  requests : Except RequestError (List OpenRequest)

namespace Collector

def empty : Collector :=
  ⟨[], []⟩

def size (collector : Collector) : Nat :=
  collector.requests.length

def finish (collector : Collector) : List OpenRequest :=
  collector.requests

/-- `request` is collected, unless it was before; and whether it is new. -/
def push (collector : Collector) (request : OpenRequest) : Collector × Bool :=
  if request ∈ collector.seen then (collector, false)
  else
    ({ requests := collector.requests ++ [request], seen := addNew collector.seen request }, true)

/-- Requests are collected, in order; and how many of them are new. -/
def extend (collector : Collector) : List OpenRequest → Collector × Nat
  | [] => (collector, 0)
  | request :: rest =>
    let (after, new) := collector.push request
    let (last, more) := after.extend rest
    (last, new.toNat + more)

/-- The result of a step: the collector after it, how many requests were new or why
it failed, and what it reports. -/
structure Step where
  collector : Collector
  added : Except RequestError Nat
  events : List Event

def Step.done (result : Collector × Nat) : Step :=
  ⟨result.1, .ok result.2, []⟩

def add (collector : Collector) (request : OpenRequest) : Step :=
  let (after, new) := collector.push request
  .done (after, new.toNat)

def collectFrom (collector : Collector) (producer : Producer) : Step :=
  match producer.requests with
  | .error error => ⟨collector, .error error, []⟩
  | .ok requests =>
    let (after, added) := collector.extend requests
    ⟨after, .ok added, [.debug ("Producer " ++ producer.name ++ " contributed " ++ toString added
      ++ " new module open requests")]⟩

def addDeclared (collector : Collector) (declared : DeclaredOpen) : Step :=
  match OpenRequest.make declared.module declared.opening declared.packages with
  | .error error => ⟨collector, .error error, []⟩
  | .ok request => collector.add request

def asksForOpens (option : ExtensionOption) : Bool :=
  option.name == "add-opens" || option.name == "--add-opens"

/-- The requests of flag values are collected up to the first value that fails. -/
def addValues (collector : Collector) : List String → Collector × Except RequestError Nat
  | [] => (collector, .ok 0)
  | value :: rest =>
    match Flag.parse value with
    | .error error => (collector, .error error)
    | .ok requests =>
      let (after, added) := collector.extend requests
      let (last, more) := after.addValues rest
      (last, more.map (added + ·))

/-- The options of an extension, in order: those that ask for opens are collected,
the others are reported. -/
def addOptions (collector : Collector) (extension : String) : List ExtensionOption → Step
  | [] => .done (collector, 0)
  | option :: rest =>
    if asksForOpens option then
      match collector.addValues option.values with
      | (after, .error error) => ⟨after, .error error, []⟩
      | (after, .ok added) =>
        let step := after.addOptions extension rest
        { step with added := step.added.map (added + ·) }
    else
      let step := collector.addOptions extension rest
      { step with
        events := .debug ("Ignoring JVM option " ++ option.name ++ " of extension " ++ extension)
          :: step.events }

/-- What the options of an extension ask for is collected. -/
def addExtension (collector : Collector) (extension : Extension) : Step :=
  collector.addOptions extension.name extension.options

end Collector

end ModuleOpens
