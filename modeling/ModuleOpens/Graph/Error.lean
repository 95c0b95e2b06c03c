/-
# Graph.Error — why a host does not do what it is asked

A change of the module graph is refused as a `MutationError`. The internal
interface adds failures of the call itself, and privileged capabilities may be
out of reach.
-/
import ModuleOpens.Diagnostic

namespace ModuleOpens

set_option autoImplicit false

inductive MutationError where
  /-- No such module; `module` is the text of its handle. -/
  | unknownModule (module : String)
  | unknownPackage (module package : String)
  | rejected (module reason : String)
  deriving DecidableEq, Repr

instance : Diagnostic MutationError where
  message
    | .unknownModule module => "unknown module " ++ module
    | .unknownPackage module package =>
      "package " ++ package ++ " is not in module " ++ module
    | .rejected module reason => "redefinition of module " ++ module ++ " rejected: " ++ reason

/-- A call of the internal interface that fails. -/
inductive InternalCallError where
  /-- The call went through and lacked an argument. -/
  | nullArgument
  /-- The interface is not exported to the caller. -/
  | illegalAccess (reason : String)
  | mutation (error : MutationError)
  deriving DecidableEq, Repr

instance : Diagnostic InternalCallError where
  message
    | .nullArgument => "null argument passed to internal module API"
    | .illegalAccess reason => "illegal access to internal module API: " ++ reason
    | .mutation error => Diagnostic.message error
  causes
    | .mutation error => Diagnostic.causes error
    | _ => []

/-- A privileged capability that is out of reach. -/
inductive AccessError where
  | noSuchField (field : String)
  | noSuchMethod (method : String)
  | inaccessible (reason : String)
  | attachRefused (reason : String)
  | unsupported (capability : String)
  deriving DecidableEq, Repr

instance : Diagnostic AccessError where
  message
    | .noSuchField field => "no such field: " ++ field
    | .noSuchMethod method => "no such method: " ++ method
    | .inaccessible reason => "inaccessible object: " ++ reason
    | .attachRefused reason => "agent attachment refused: " ++ reason
    | .unsupported capability => "capability not supported by this runtime: " ++ capability

end ModuleOpens
