/-
# Config — the settings of a process that opens packages

Every section has defaults, so that an empty document is a configuration.
`Config.validate` refuses a wait of zero, a declared open without packages and
an extension whose name is blank, in that order.
-/
import ModuleOpens.Check
import ModuleOpens.Duration
import ModuleOpens.Request
import ModuleOpens.Strategy.Kind

namespace ModuleOpens

set_option autoImplicit false

structure LoggingSection where
  /-- The filter to use when the environment gives none. -/
  filter : Option String
  jsonFormat : Bool
  deriving DecidableEq, Repr

/-- Which strategies are never selected. -/
structure StrategiesSection where
  disabled : List StrategyKind
  deriving DecidableEq, Repr

structure ExclusiveSection where
  waitTimeoutMs : UInt64
  deriving DecidableEq, Repr

structure ManifestSection where
  renderAddOpens : Bool
  deriving DecidableEq, Repr

/-- An open that the configuration asks for; not checked yet. -/
structure DeclaredOpen where
  module : String
  opening : String
  packages : List String
  deriving DecidableEq, Repr

structure ExtensionOption where
  name : String
  values : List String
  deriving DecidableEq, Repr

structure Extension where
  name : String
  options : List ExtensionOption
  deriving DecidableEq, Repr

structure Config where
  logging : LoggingSection
  strategies : StrategiesSection
  exclusive : ExclusiveSection
  manifest : ManifestSection
  moduleOpens : List DeclaredOpen
  extensions : List Extension
  deriving DecidableEq, Repr

/-- How long a caller waits unless told otherwise. -/
def defaultWait : Duration := .ofSeconds 5

def LoggingSection.default : LoggingSection where
  filter := none
  jsonFormat := false

def StrategiesSection.default : StrategiesSection where
  disabled := []

/-- The same in milliseconds. -/
def defaultWaitMs : UInt64 := UInt64.ofNat defaultWait.milliseconds

def ExclusiveSection.default : ExclusiveSection where
  waitTimeoutMs := defaultWaitMs

def ManifestSection.default : ManifestSection where
  renderAddOpens := true

def Config.default : Config where
  logging := .default
  strategies := .default
  exclusive := .default
  manifest := .default
  moduleOpens := []
  extensions := []

def ExclusiveSection.wait (exclusive : ExclusiveSection) : Duration :=
  .ofMilliseconds exclusive.waitTimeoutMs.toNat

inductive ConfigFault where
  | zeroWait
  /-- The declared open at this position, counted from zero, has no packages. -/
  | noPackages (position : Nat)
  | blankExtension
  deriving DecidableEq, Repr

def ConfigFault.message : ConfigFault → String
  | .zeroWait => "exclusive.wait_timeout_ms must be greater than 0"
  | .noPackages position =>
    (Fault.empty ("module_opens[" ++ toString position ++ "].packages")).message
  | .blankExtension => (Fault.empty "extension name").message

namespace Config

/-- The position of the first declared open without packages, counted from `position`. -/
def firstWithoutPackages? (position : Nat) : List DeclaredOpen → Option Nat
  | [] => none
  | declared :: rest =>
    if declared.packages = [] then some position else firstWithoutPackages? (position + 1) rest

/-- The first condition that the configuration breaks. -/
def fault? (config : Config) : Option ConfigFault :=
  if config.exclusive.waitTimeoutMs = 0 then some .zeroWait
  else match firstWithoutPackages? 0 config.moduleOpens with
    | some position => some (.noPackages position)
    | none =>
      if config.extensions.any fun extension => Text.trim extension.name == "" then
        some .blankExtension
      else none

def validate (config : Config) : Except ConfigFault Unit :=
  match config.fault? with
  | some fault => .error fault
  | none => .ok ()

end Config

end ModuleOpens
