/-
# Exclusive.Script — calls as a script tells them

A script is a list of steps. A step asks something of the board, makes a call
and sees it through, hands a call to a worker, or lets a worker finish. A
worker that reaches its producer is held there until it is let go; one that
waits gets its answer when the call that it waits for has one. A producer first
takes the steps that are nested in it. Checks and producers may share a store.
-/
import ModuleOpens.Exclusive.Desk

namespace ModuleOpens.Exclusive

set_option autoImplicit false

inductive Checks where
  /-- One finding after the other, and then nothing. -/
  | scripted (findings : List (Finding String))
  /-- What the store has for the name of the call. -/
  | stored
  deriving DecidableEq, Repr

mutual

inductive Step where
  | pending
  | isPending (name : String)
  | wait
  | dump
  /-- A call, made here or handed to a worker. -/
  | call (worker : Option String) (call : ScriptedCall)
  | finish (worker : String)

/-- A call: its name, checks and argument, the steps nested in its producer, what the producer
comes back with, and whether it puts its value into the store. -/
inductive ScriptedCall where
  | mk (name : String) (checks : Checks) (argument : Nat) (nested : Option (List Step))
      (product : Product String String) (stores : Bool)

end

inductive Status where
  | producing
  | waiting
  | done
  deriving DecidableEq, Repr

inductive Report where
  | pending (count : Nat)
  | isPending (pending : Bool)
  | wait (wait : Duration)
  | dump (text : String)
  | status (status : Status)
  /-- A call with its name, its answer, how often it checked, and, when its producer ran, its
  argument and what the nested steps told. -/
  | answered (name : String) (answer : Answer String String) (checks : Nat)
      (produced : Option (Nat × Option (List Report)))
  /-- There is no such worker, or not any more. -/
  | noWorker (worker : String)

structure Worker where
  id : CallId
  call : ScriptedCall

structure Stage where
  desk : Desk String String
  store : Table String String
  workers : Table String Worker
  wait : Duration

namespace ScriptedCall

def name : ScriptedCall → String
  | .mk name _ _ _ _ _ => name

/-- What a check comes back with; checks are counted from zero. -/
def finding (store : Table String String) (count : Nat) : ScriptedCall → Finding String
  | .mk _ (.scripted findings) _ _ _ _ => findings[count]?.getD .nothing
  | .mk name .stored _ _ _ _ =>
    match store.get? name with
    | some value => .found value
    | none => .nothing

/-- The store after the producer. -/
def stored (store : Table String String) : ScriptedCall → Table String String
  | .mk name _ _ _ (.value value) true => store.set name value
  | _ => store

def product : ScriptedCall → Product String String
  | .mk _ _ _ _ product _ => product

end ScriptedCall

mutual

/-- How many steps and calls there are in a step. -/
def Step.size : Step → Nat
  | .call _ call => 1 + call.size
  | _ => 1

def ScriptedCall.size : ScriptedCall → Nat
  | .mk _ _ _ none _ _ => 1
  | .mk _ _ _ (some steps) _ _ => 1 + scriptSize steps

def scriptSize : List Step → Nat
  | [] => 0
  | step :: rest => step.size + scriptSize rest

end

namespace Stage

def start (wait : Duration) : Stage := ⟨.empty, .empty, .empty, wait⟩

def workerIds (stage : Stage) : List CallId :=
  stage.workers.entries.map fun entry => entry.2.id

/-- A call is made, up to its producer, its wait or its answer. -/
def approach (stage : Stage) (call : ScriptedCall) : CallId × Stage :=
  let (id, desk) := stage.desk.approach call.name (call.finding stage.store 0)
    (call.finding stage.store 1)
  (id, { stage with desk })

def status (stage : Stage) (id : CallId) : Status :=
  match stage.desk.phase id with
  | .producing => .producing
  | .waiting _ => .waiting
  | _ => .done

/-- The report of a call; a call without an answer has waited as long as it may. -/
def report (stage : Stage) (id : CallId) (call : ScriptedCall)
    (produced : Option (Nat × Option (List Report))) : Report :=
  .answered call.name ((stage.desk.phase id).answer?.getD .timeout) (stage.desk.checks id) produced

/-- The producer of a call comes back; whoever waits for the call gets its outcome. -/
def conclude (stage : Stage) (id : CallId) (call : ScriptedCall) : Stage :=
  let desk := stage.desk.conclude id call.product
  { stage with desk := desk.wakeAll stage.workerIds, store := call.stored stage.store }

def expire (stage : Stage) (id : CallId) : Stage :=
  { stage with desk := stage.desk.expire id }

mutual

/-- A call is seen through from where it stands. Fuel bounds the steps. -/
def seeThrough : Nat → Stage → CallId → ScriptedCall → Report × Stage
  | 0, stage, id, call => (stage.report id call none, stage)
  | fuel + 1, stage, id, .mk name checks argument nested product stores =>
    let call := ScriptedCall.mk name checks argument nested product stores
    match stage.desk.phase id with
    | .producing =>
      let (reports, stage) := match nested with
        | none => (none, stage)
        | some steps =>
          let (reports, stage) := takeAll fuel stage steps
          (some reports, stage)
      let stage := stage.conclude id call
      (stage.report id call (some (argument, reports)), stage)
    | .waiting _ =>
      let stage := stage.expire id
      (stage.report id call none, stage)
    | _ => (stage.report id call none, stage)

def take : Nat → Stage → Step → Report × Stage
  | 0, stage, _ => (.pending stage.desk.board.pending, stage)
  | fuel + 1, stage, step =>
    match step with
    | .pending => (.pending stage.desk.board.pending, stage)
    | .isPending name => (.isPending (stage.desk.board.isPending name), stage)
    | .wait => (.wait stage.wait, stage)
    | .dump => (.dump (Exclusive.dump stage.desk.board.pending stage.wait), stage)
    | .call none call =>
      let (id, stage) := stage.approach call
      seeThrough fuel stage id call
    | .call (some worker) call =>
      let (id, stage) := stage.approach call
      (.status (stage.status id),
        { stage with workers := stage.workers.set worker ⟨id, call⟩ })
    | .finish worker =>
      match stage.workers.get? worker with
      | none => (.noWorker worker, stage)
      | some { id, call } =>
        seeThrough fuel { stage with workers := stage.workers.erase worker } id call

def takeAll : Nat → Stage → List Step → List Report × Stage
  | 0, stage, _ => ([], stage)
  | _, stage, [] => ([], stage)
  | fuel + 1, stage, step :: rest =>
    let (report, stage) := take fuel stage step
    let (reports, stage) := takeAll fuel stage rest
    (report :: reports, stage)

end

/-- Every worker is let go, also those that come while others are. -/
def releaseAll (fuel : Nat) : Nat → Stage → Stage
  | 0, stage => stage
  | rounds + 1, stage =>
    match stage.workers.keys with
    | [] => stage
    | worker :: _ => releaseAll fuel rounds (take fuel stage (.finish worker)).2

end Stage

/-- A script on a new board: what its steps tell, and how many names someone is busy with
after all workers were let go. -/
def runScript (wait : Duration) (script : List Step) : List Report × Nat :=
  let fuel := 4 * scriptSize script + 4
  let (reports, stage) := Stage.takeAll fuel (.start wait) script
  (reports, (Stage.releaseAll fuel fuel stage).desk.board.pending)

end ModuleOpens.Exclusive
