/-
# Strategy.Selection — the most privileged strategy that is available

A selector tries the privileged strategies in order and settles on the first
that is available, or else on the fallback. It decides once. Only the first
failure is worth a warning; it tells which flag would help.

* `select_selected`: a selector that has decided keeps its decision and reports nothing.
-/
import ModuleOpens.Strategy.Pass

namespace ModuleOpens

set_option autoImplicit false

/-- Chooses a strategy, once. -/
structure Selector where
  disabled : List StrategyKind
  /-- The decision, once there is one. -/
  selected : Option StrategyKind
  deriving DecidableEq, Repr

namespace Selector

/-- A selector that never chooses the `disabled` strategies. The fallback stays. -/
def withDisabled (disabled : List StrategyKind) : Selector × List Event :=
  (⟨disabled.filter StrategyKind.isPrivileged, none⟩,
    if disabled.contains .fallback then
      [.warn "The fallback module reconfiguration strategy cannot be disabled"]
    else [])

def new : Selector := ⟨[], none⟩

variable {σ : Type} [Host σ]

/-- The strategy is allowed and available, with what it reports; and the host after asking. -/
def attempt (selector : Selector) (host : σ) (kind : StrategyKind) :
    Except StrategyError (List Event) × σ :=
  if selector.disabled.contains kind then (.error (.disabled kind), host) else kind.acquire host

def failureEvent (kind : StrategyKind) (error : StrategyError) (first : Bool) : Event :=
  let reason := "Module reconfiguration using the " ++ kind.name
    ++ " strategy is not available: " ++ Diagnostic.chain error
  if first then
    .warn (reason ++ ". Start the process with '" ++ kind.remediation?.getD ""
      ++ "' to enable it; trying less privileged strategies")
  else .debug reason

/-- The first of some kinds that is available, with what is reported on the way and the host
after it. `first` says that none has failed yet. -/
def choose (selector : Selector) (host : σ) (first : Bool) :
    List StrategyKind → StrategyKind × List Event × σ
  | [] => (.fallback, [.info ("No privileged module reconfiguration strategy available, "
      ++ "module opens will only be reported")], host)
  | kind :: rest =>
    match selector.attempt host kind with
    | (.ok events, host) =>
      (kind, events ++ [.info ("Reconfiguring modules using the " ++ kind.name ++ " strategy")],
        host)
    | (.error (.disabled kind), host) =>
      let (chosen, events, host) := selector.choose host first rest
      (chosen, .debug ("Skipping the " ++ kind.name ++ " strategy: disabled by configuration")
        :: events, host)
    | (.error error, host) =>
      let (chosen, events, host) := selector.choose host false rest
      (chosen, failureEvent kind error first :: events, host)

/-- The decision, made now if it was not made before. -/
def select (selector : Selector) (host : σ) : StrategyKind × Selector × List Event × σ :=
  match selector.selected with
  | some kind => (kind, selector, [], host)
  | none =>
    let privileged := StrategyKind.privilegeOrder.filter StrategyKind.isPrivileged
    let (kind, events, host) := selector.choose host true privileged
    (kind, { selector with selected := some kind }, events, host)

theorem select_selected {selector : Selector} {kind : StrategyKind}
    (decided : selector.selected = some kind) (host : σ) :
    selector.select host = (kind, selector, [], host) := by
  simp [select, decided]

def dump (selector : Selector) : String :=
  let disabled := StrategyKind.privilegeOrder.filter selector.disabled.contains
  let selected := match selector.selected with
    | none => "None"
    | some kind => "Some(" ++ kind.label ++ ")"
  "ReconfigurerFactory \x7b disabled: \x7b" ++ ", ".intercalate (disabled.map StrategyKind.label)
    ++ "\x7d, selected: " ++ selected ++ " \x7d"

end Selector

end ModuleOpens
