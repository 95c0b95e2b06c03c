/-
# Loading.Units — a loader that defines each unit once

A loader reads the bytes of a unit from its source when the unit is first asked
for, and keeps the unit that it makes of them. Reading may load further units
through the same loader. Loads of one name go through a board, so a unit that
needs itself, however indirectly, waits in vain and is told so.

Reading is a value here: a `UnitReading` is what a source does when it is asked
for a unit, one load after the other until it answers or is torn away. A source
may read the same unit in another way each time.
-/
import ModuleOpens.Exclusive.Desk
import ModuleOpens.Graph.Handle
import ModuleOpens.Loading.Limiter

namespace ModuleOpens

set_option autoImplicit false

inductive LoadError where
  | notFound (name : String)
  | coordination (name reason : String)
  deriving DecidableEq, Repr

instance : Diagnostic LoadError where
  message
    | .notFound name => "unit " ++ name ++ " not found"
    | .coordination name reason => "failed to coordinate loading of unit " ++ name ++ ": " ++ reason

structure DefinedUnit where
  name : String
  loader : LoaderHandle
  bytes : List UInt8
  /-- The call that defined it, which tells it from any other unit of its loader. -/
  definedBy : Exclusive.CallId
  deriving DecidableEq, Repr

/-- What a load comes back with. -/
inductive LoadAnswer where
  | unit (unit : DefinedUnit)
  | failure (error : LoadError)
  | torn
  deriving DecidableEq, Repr

/-- What a source does when it is asked for a unit. -/
inductive UnitReading where
  /-- It answers, with the bytes or with nothing. -/
  | give (bytes : Option (List UInt8))
  | torn
  /-- It loads a unit through the same loader, and goes on with what comes back. -/
  | load (name : String) (next : LoadAnswer → UnitReading)

/-- A way of reading a unit that is written down beforehand. -/
structure Recipe where
  needs : List String
  /-- A unit that cannot be loaded means that this one does not exist. -/
  strict : Bool
  /-- The bytes; without them the reader is torn away. -/
  bytes : Option (List UInt8)
  deriving DecidableEq, Repr

namespace Recipe

/-- The reading that is left once only these units are still to be loaded. -/
def readingFrom (recipe : Recipe) : List String → UnitReading
  | [] =>
    match recipe.bytes with
    | some bytes => .give (some bytes)
    | none => .torn
  | name :: rest =>
    .load name fun answer =>
      match answer with
      | .unit _ => recipe.readingFrom rest
      | .failure _ => if recipe.strict then .give none else recipe.readingFrom rest
      | .torn => .torn

def reading (recipe : Recipe) : UnitReading :=
  recipe.readingFrom recipe.needs

end Recipe

/-- Where a loader finds units and resources. -/
structure UnitSource where
  /-- How a unit is read, when it is read for the time with this number, counted from zero. Along
  one run, a source that goes by anything else is such a function as well. -/
  reading : String → Nat → UnitReading
  resource : String → Option (List UInt8)
  hasResource : String → Bool
  /-- How many loads may stand inside another before the reader is torn away. -/
  nesting : Nat

namespace UnitSource

/-- A source that always reads alike, by recipes; a unit without one does not exist. A resource
exists if it is in the index, or, without an index, if it has bytes. -/
def ofTables (units : Table String Recipe) (resources : Table String (List UInt8))
    (index : Option (List String)) : UnitSource where
  reading name _ := ((units.get? name).map Recipe.reading).getD (.give none)
  resource := resources.get?
  hasResource name :=
    match index with
    | some names => names.contains name
    | none => resources.contains name
  nesting := units.size + 1

end UnitSource

/-- What happened while units were loaded. -/
inductive LoadStep where
  | read (name : String)
  | gave (name : String) (bytes : Option (List UInt8))
  /-- A load gave a unit; so many names were being loaded after it. -/
  | loaded (name : String) (unit : DefinedUnit) (pending : Nat)
  | failed (name : String) (error : LoadError) (pending : Nat)
  deriving DecidableEq, Repr

structure UnitLoader where
  handle : LoaderHandle
  listeners : Nat
  wait : Duration
  defined : Table String DefinedUnit
  /-- How often the source was asked for each unit. -/
  reads : Table String Nat
  desk : Exclusive.Desk DefinedUnit LoadError

/-- A loader at work, with what it told its listeners, what happened, and what it reports. -/
structure Loading where
  loader : UnitLoader
  told : List LoaderEvent
  steps : List LoadStep
  events : List Event

namespace UnitLoader

def new (handle : LoaderHandle) (listeners : Nat) (wait : Duration) : UnitLoader where
  handle
  listeners
  wait
  defined := .empty
  reads := .empty
  desk := .empty

def definedCount (loader : UnitLoader) : Nat :=
  loader.defined.size

def pending (loader : UnitLoader) : Nat :=
  loader.desk.board.pending

def find? (loader : UnitLoader) (name : String) : Option DefinedUnit :=
  loader.defined.get? name

/-- What a check for a unit comes back with. -/
def finding (loader : UnitLoader) (name : String) : Exclusive.Finding DefinedUnit :=
  match loader.find? name with
  | some unit => .found unit
  | none => .nothing

def answer (loader : UnitLoader) (name : String)
    (answer : Exclusive.Answer DefinedUnit LoadError) : LoadAnswer :=
  match answer.result? name loader.wait with
  | none => .torn
  | some (.ok unit) => .unit unit
  | some (.error (.failed error)) => .failure error
  | some (.error error) => .failure (.coordination name (error.message Diagnostic.message))

def event (loader : UnitLoader) (hook : LoaderHook) (name : String) : LoaderEvent :=
  ⟨hook, name, loader.handle.name⟩

end UnitLoader

namespace Loading

def start (loader : UnitLoader) : Loading := ⟨loader, [], [], []⟩

def tell (loading : Loading) (event : LoaderEvent) : Loading :=
  { loading with told := loading.told ++ [event] }

def happen (loading : Loading) (step : LoadStep) : Loading :=
  { loading with steps := loading.steps ++ [step] }

def report (loading : Loading) (event : Event) : Loading :=
  { loading with events := loading.events ++ [event] }

def withDesk (loading : Loading) (desk : Exclusive.Desk DefinedUnit LoadError) : Loading :=
  { loading with loader := { loading.loader with desk } }

/-- The source is asked for a unit: how it is read this time. -/
def ask (loading : Loading) (source : UnitSource) (name : String) : UnitReading × Loading :=
  let count := (loading.loader.reads.get? name).getD 0
  let reads := loading.loader.reads.set name (count + 1)
  let loading := { loading with loader := { loading.loader with reads } }
  (source.reading name count, loading.happen (.read name))

/-- A load of a unit has come back. One that was torn away leaves no trace. -/
def came (loading : Loading) (name : String) : LoadAnswer → Loading
  | .unit unit => loading.happen (.loaded name unit loading.loader.pending)
  | .failure error => loading.happen (.failed name error loading.loader.pending)
  | .torn => loading

def define (loading : Loading) (id : Exclusive.CallId) (name : String) (bytes : List UInt8) :
    DefinedUnit × Loading :=
  let unit : DefinedUnit := ⟨name, loading.loader.handle, bytes, id⟩
  let defined := loading.loader.defined.set name unit
  (unit, { loading with loader := { loading.loader with defined } })

/-- The producer of a call comes back, and the call gets its answer. -/
def conclude (loading : Loading) (id : Exclusive.CallId) (name : String)
    (product : Exclusive.Product DefinedUnit LoadError) : LoadAnswer × Loading :=
  let loading := loading.withDesk (loading.loader.desk.conclude id product)
  (loading.loader.answer name ((loading.loader.desk.phase id).answer?.getD .torn), loading)

/-- A call that would wait for itself waits as long as it may. -/
def giveUp (loading : Loading) (id : Exclusive.CallId) (name : String) : LoadAnswer × Loading :=
  let loading := loading.withDesk (loading.loader.desk.expire id)
  let loading := loading.report (Exclusive.gaveUp name loading.loader.wait)
  (loading.loader.answer name ((loading.loader.desk.phase id).answer?.getD .timeout), loading)

/-- What comes of a reading, its loads made by `load`. -/
def produce (load : String → Loading → LoadAnswer × Loading) (id : Exclusive.CallId)
    (name : String) : UnitReading → Loading → Exclusive.Product DefinedUnit LoadError × Loading
  | .torn, loading => (.torn, loading)
  | .give none, loading => (.failure (.notFound name), loading.happen (.gave name none))
  | .give (some bytes), loading =>
    let (unit, loading) := (loading.happen (.gave name (some bytes))).define id name bytes
    (.value unit, loading)
  | .load need next, loading =>
    let (answer, loading) := load need loading
    produce load id name (next answer) (loading.came need answer)

/-- A unit is loaded; loads nest up to a depth. -/
def load (source : UnitSource) : Nat → String → Loading → LoadAnswer × Loading
  | 0, _, loading => (.torn, loading)
  | depth + 1, name, loading =>
    let loading := loading.tell (loading.loader.event .loadUnit name)
    let finding := loading.loader.finding name
    let (id, desk) := loading.loader.desk.approach name finding finding
    let loading := loading.withDesk desk
    match desk.phase id with
    | .finished answer => (loading.loader.answer name answer, loading)
    | .producing =>
      let (reading, loading) := loading.ask source name
      let (product, loading) := produce (load source depth) id name reading loading
      loading.conclude id name product
    | _ => loading.giveUp id name

end Loading

namespace UnitLoader

/-- A unit is loaded: the answer, and the loader at its end with all that happened. -/
def load (loader : UnitLoader) (source : UnitSource) (name : String) : LoadAnswer × Loading :=
  Loading.load source (source.nesting + 1) name (.start loader)

def resource (loader : UnitLoader) (source : UnitSource) (name : String) :
    Option (List UInt8) × LoaderEvent :=
  (source.resource name, loader.event .openResource name)

def dump (loader : UnitLoader) : String :=
  "UnitLoader \x7b handle: " ++ loader.handle.dump ++ ", defined: " ++ toString loader.definedCount
    ++ ", listeners: " ++ toString loader.listeners ++ " \x7d"

/-- The place of a resource that exists. -/
def placeOf (loader : UnitLoader) (source : UnitSource) (name : String) : Option String :=
  if source.hasResource name then some (loader.handle.text ++ "!/" ++ name) else none

def resourceUrl (loader : UnitLoader) (source : UnitSource) (name : String) :
    Option String × LoaderEvent :=
  (loader.placeOf source name, loader.event .findUrl name)

def resourceUrls (loader : UnitLoader) (source : UnitSource) (name : String) :
    List String × LoaderEvent :=
  ((loader.placeOf source name).toList, loader.event .listUrls name)

end UnitLoader

end ModuleOpens
