/-
# Diagnostic — errors that carry their causes

An error is a value that says what went wrong. Its message is one line; an
error that wraps another one leaves the inner message to the chain, which joins
the message and those of its causes, outermost first.
-/

namespace ModuleOpens

set_option autoImplicit false

/-- Errors with a message of their own and the messages of their causes. -/
class Diagnostic (ε : Type) where
  message : ε → String
  /-- The messages of the causes, outermost first; none for an error that wraps nothing. -/
  causes : ε → List String := fun _ => []

namespace Diagnostic

variable {ε : Type} [Diagnostic ε]

/-- The message and those of the causes, in one line. -/
def chain (error : ε) : String :=
  ": ".intercalate (message error :: causes error)

def hasCause (error : ε) : Bool :=
  !(causes error).isEmpty

end Diagnostic

end ModuleOpens
