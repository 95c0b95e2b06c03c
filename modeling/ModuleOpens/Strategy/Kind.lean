/-
# Strategy.Kind — the ways of opening packages, by the privilege they need

Three kinds need a privilege that the process was started with; the last one
only reports what it cannot do.

* `ofKeyword?_keyword`: a kind is read back from its keyword.
-/

namespace ModuleOpens

set_option autoImplicit false

inductive StrategyKind where
  /-- The host's internal interface for adding opens. -/
  | directApi
  /-- A handle to the host's private implementation, bound through a privileged lookup. -/
  | reflectiveHandle
  /-- Redefinition of modules by an instrumentation agent. -/
  | agent
  /-- No change; each request is reported. -/
  | fallback
  deriving DecidableEq, Repr

namespace StrategyKind

/-- All kinds, most privileged first. -/
def privilegeOrder : List StrategyKind :=
  [.directApi, .reflectiveHandle, .agent, .fallback]

def rank : StrategyKind → Nat
  | .directApi => 0
  | .reflectiveHandle => 1
  | .agent => 2
  | .fallback => 3

def name : StrategyKind → String
  | .directApi => "direct internal API"
  | .reflectiveHandle => "reflective handle"
  | .agent => "instrumentation agent"
  | .fallback => "fallback"

/-- The word for a kind in configuration. -/
def keyword : StrategyKind → String
  | .directApi => "direct-api"
  | .reflectiveHandle => "reflective-handle"
  | .agent => "agent"
  | .fallback => "fallback"

def label : StrategyKind → String
  | .directApi => "DirectApi"
  | .reflectiveHandle => "ReflectiveHandle"
  | .agent => "Agent"
  | .fallback => "Fallback"

/-- The kind that a word of the configuration names. -/
def ofKeyword? (word : String) : Option StrategyKind :=
  privilegeOrder.find? fun kind => kind.keyword == word

/-- The flag that makes a kind available when the process is started with it. -/
def remediation? : StrategyKind → Option String
  | .directApi => some "--add-exports=java.base/jdk.internal.module=ALL-UNNAMED"
  | .reflectiveHandle => some "--add-opens=java.base/java.lang.invoke=ALL-UNNAMED"
  | .agent => some "-XX:+EnableDynamicAgentLoading"
  | .fallback => none

def isPrivileged (kind : StrategyKind) : Bool :=
  kind != .fallback

/-- The kinds in order of privilege, repetitions kept. -/
def sort (kinds : List StrategyKind) : List StrategyKind :=
  kinds.mergeSort fun a b => a.rank ≤ b.rank

theorem ofKeyword?_keyword (kind : StrategyKind) : ofKeyword? kind.keyword = some kind := by
  cases kind <;> decide

end StrategyKind

end ModuleOpens
