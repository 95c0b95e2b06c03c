/-
# Proofs.Strategy.Selection — asking a machine leaves it alone

A selector finds out which strategies are available by asking: it calls the internal
interface without arguments, and an agent attaches itself. A machine never does what
the call says, since there is nothing that it says, and no agent changes it by being
there. So selection is over before anything is opened.

* `internalAddOpens_of_missing`: a call without all of its arguments is refused;
* `host_acquire`, `host_select`: the machine after asking is the machine before;
* `select_of_selected`: what was decided once stands on every host.
-/
import ModuleOpens.Proofs.Graph.Reachable
import ModuleOpens.Strategy.Selection

namespace ModuleOpens

set_option autoImplicit false

variable {machine : Machine}

/-- The internal interface refuses a call that lacks an argument, whatever the machine was
started with. -/
theorem Machine.internalAddOpens_of_missing {source target : Option ModuleHandle}
    {package : Option String} (missing : source = none ∨ package = none ∨ target = none) :
    ∃ cause, (machine.internalAddOpens source package target).1 = .error cause := by
  unfold internalAddOpens
  split
  · rcases source, package, target with ⟨_ | source, _ | package, _ | target⟩ <;> simp_all
  · exact ⟨_, rfl⟩

/-- No machine is changed by an agent that attaches itself, or fails to. -/
theorem Machine.host_attachAgent : machine.attachAgent.2 = machine := by
  unfold attachAgent
  split <;> rfl

/-- Asking for a strategy leaves the machine as it was, whether the strategy can be had or not. -/
theorem StrategyKind.host_acquire (kind : StrategyKind) : (kind.acquire machine).2 = machine := by
  cases kind with
  | directApi =>
    obtain ⟨cause, refused⟩ : ∃ cause, (machine.internalAddOpens none none none).1 = .error cause :=
      Machine.internalAddOpens_of_missing (Or.inl rfl)
    exact Machine.internalAddOpens_refused (Prod.ext refused rfl)
  | reflectiveHandle => rfl
  | agent =>
    show Prod.snd (if machine.privileges.agentAttached then _ else _) = machine
    split
    · rfl
    · exact Machine.host_attachAgent
  | fallback => rfl

namespace Selector

variable {selector : Selector}

theorem host_attempt (kind : StrategyKind) : (selector.attempt machine kind).2 = machine := by
  unfold attempt
  split
  · rfl
  · exact kind.host_acquire

theorem host_choose (first : Bool) (kinds : List StrategyKind) :
    (selector.choose machine first kinds).2.2 = machine := by
  induction kinds generalizing first with
  | nil => rfl
  | cons kind rest ih =>
    have same : (selector.attempt machine kind).2 = machine := host_attempt kind
    unfold choose
    split
    · rename_i attempted
      rw [attempted] at same
      exact same
    · rename_i attempted
      rw [attempted] at same
      cases same
      exact ih first
    · rename_i attempted
      rw [attempted] at same
      cases same
      exact ih false

/-- Selecting a strategy leaves the machine as it was. -/
theorem host_select : (selector.select machine).2.2.2 = machine := by
  unfold select
  split
  · rfl
  · exact host_choose true _

/-- After a selection every further one, on whatever host, gives the same kind and says
nothing. -/
theorem select_of_selected {σ τ : Type} [Host σ] [Host τ] (host : σ) (other : τ) :
    let first := selector.select host
    first.2.1.select other = (first.1, first.2.1, [], other) := by
  intro first
  refine select_selected ?_ other
  show (selector.select host).2.1.selected = some (selector.select host).1
  unfold select
  split
  · assumption
  · rfl

end Selector

end ModuleOpens
