/-
# Strategy.Error — why a strategy is not available, and why a pass fails

Both wrap what the host said; its words are in the chain of the error.
-/
import ModuleOpens.Graph.Error
import ModuleOpens.Strategy.Kind

namespace ModuleOpens

set_option autoImplicit false

/-- A strategy that this process cannot use. -/
inductive StrategyError where
  | internalApiInaccessible (reason : String)
  /-- The internal interface answered the probe in a way that tells nothing. -/
  | unexpectedProbe (cause : InternalCallError)
  | privilegedLookup (cause : AccessError)
  | agentInstall (cause : AccessError)
  | disabled (kind : StrategyKind)
  deriving DecidableEq, Repr

instance : Diagnostic StrategyError where
  message
    | .internalApiInaccessible reason => "internal module API is not accessible (" ++ reason ++ ")"
    | .unexpectedProbe _ => "unexpected outcome probing the internal module API"
    | .privilegedLookup _ => "failed to acquire a privileged add-opens handle"
    | .agentInstall _ => "failed to install an agent in the running process"
    | .disabled kind => "strategy '" ++ kind.name ++ "' is disabled by configuration"
  causes
    | .unexpectedProbe cause => Diagnostic.message cause :: Diagnostic.causes cause
    | .privilegedLookup cause => Diagnostic.message cause :: Diagnostic.causes cause
    | .agentInstall cause => Diagnostic.message cause :: Diagnostic.causes cause
    | _ => []

/-- A pass that the host stopped. -/
inductive PassError where
  | redefinition (module : String) (cause : MutationError)
  | addOpens (module package target : String) (cause : InternalCallError)
  deriving DecidableEq, Repr

instance : Diagnostic PassError where
  message
    | .redefinition module _ => "failed to redefine module " ++ module
    | .addOpens module package target _ =>
      "failed to open " ++ module ++ "/" ++ package ++ " to " ++ target
  causes
    | .redefinition _ cause => Diagnostic.message cause :: Diagnostic.causes cause
    | .addOpens _ _ _ cause => Diagnostic.message cause :: Diagnostic.causes cause

end ModuleOpens
