/-
# Request.Flag — requests as values of a command-line flag

The value `module/package=target,target` asks for one request per target. The
module ends at the first slash of what stands before the first equals sign;
blanks around the value and around each target do not count. In the other
direction a request is the list of flags that a person would type for it.
-/
import ModuleOpens.Request

namespace ModuleOpens.Flag

set_option autoImplicit false

open Text (trimList splitFirst pieces)

/-- The request that one target of a flag value asks for. -/
def requestFor (value module package : String) (target : List Char) :
    Except RequestError OpenRequest :=
  let target := String.ofList (trimList target)
  if target = "" then .error (.malformedFlag value) else OpenRequest.make module target [package]

/-- The requests that a flag value asks for, in the order of its targets. -/
def parse (value : String) : Except RequestError (List OpenRequest) :=
  match splitFirst '=' (trimList value.toList) with
  | none => .error (.malformedFlag value)
  | some (source, targets) =>
    match splitFirst '/' source with
    | none => .error (.malformedFlag value)
    | some (module, package) =>
      (pieces ',' targets).mapM (requestFor value (String.ofList module) (String.ofList package))

def values (request : OpenRequest) : List String :=
  request.packages.map fun package => request.opened ++ "/" ++ package ++ "=" ++ request.opening

/-- The flags that a person would pass by hand, separated by spaces. -/
def byHand (request : OpenRequest) : String :=
  " ".intercalate ((values request).map fun value => "--add-opens=" ++ value)

end ModuleOpens.Flag
