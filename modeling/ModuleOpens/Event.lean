/-
# Event — what a computation reports while it runs

Nothing here writes to a log. A computation returns the events it reports, in
order, beside its result; whoever runs it decides where they go.
-/

namespace ModuleOpens

set_option autoImplicit false

inductive Level where
  | warn
  | info
  | debug
  deriving DecidableEq, Repr

def Level.name : Level → String
  | .warn => "WARN"
  | .info => "INFO"
  | .debug => "DEBUG"

structure Event where
  level : Level
  text : String
  deriving DecidableEq, Repr

namespace Event

def warn (text : String) : Event := ⟨.warn, text⟩

def info (text : String) : Event := ⟨.info, text⟩

def debug (text : String) : Event := ⟨.debug, text⟩

/-- The level and the text, as a log line. -/
def line (event : Event) : String :=
  event.level.name ++ " " ++ event.text

end Event

/-- The value of `primary`, or `fallback` with a warning that says why. -/
def withFallback {ε α : Type} (primary : Except ε α) (fallback : α) (context : String)
    (describe : ε → String) : α × List Event :=
  match primary with
  | .ok value => (value, [])
  | .error cause => (fallback, [.warn (context ++ ": " ++ describe cause)])

end ModuleOpens
