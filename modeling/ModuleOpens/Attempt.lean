/-
# Attempt — programs that may be refused

A program works on a state: it reads, checks and writes, and is refused when a
check fails. It stops there, and what it wrote before stays written. So a
program leaves the state as it found it, when it is refused, only because its
checks come before its first write.

* `on_bind`, `on_check_bind`: the rest of a program starts from what its first part leaves;
* `Reads.keepsRefused_bind`: a first part that only reads can be left out of
  account, so a program keeps the state if what writes is never refused.
-/

namespace ModuleOpens

set_option autoImplicit false

/-- Programs on a state that may be refused. -/
abbrev Attempt (σ ε : Type) : Type → Type := ExceptT ε (StateM σ)

namespace Attempt

variable {σ ε α β : Type}

/-- The answer of a program or why it was refused, and the state that it leaves either way. -/
def on (program : Attempt σ ε α) (state : σ) : Except ε α × σ :=
  (program.run.run state).run

theorem on_bind (first : Attempt σ ε α) (next : α → Attempt σ ε β) (state : σ) :
    (first >>= next).on state =
      match first.on state with
      | (.ok value, after) => (next value).on after
      | (.error cause, after) => (.error cause, after) := by
  simp only [on, ExceptT.run_bind, StateT.run_bind]
  rcases first.run.run state with ⟨_ | _, _⟩ <;> rfl

@[simp]
theorem on_get_bind (next : σ → Attempt σ ε β) (state : σ) :
    (get >>= next).on state = (next state).on state := rfl

@[simp]
theorem on_check_bind (check : Except ε α) (next : α → Attempt σ ε β) (state : σ) :
    (liftM check >>= next).on state =
      match check with
      | .ok value => (next value).on state
      | .error cause => (.error cause, state) := by
  cases check <;> rfl

/-- The rest of a program is run only when the check before it goes through. -/
theorem on_check_bind_eq_ok_iff {check : Except ε α} {next : α → Attempt σ ε β} {state after : σ}
    {result : β} :
    (liftM check >>= next).on state = (.ok result, after) ↔
      ∃ value, check = .ok value ∧ (next value).on state = (.ok result, after) := by
  rw [on_check_bind]
  cases check <;> simp

/-! ## Refused programs -/

/-- The program writes nothing. -/
def Reads (program : Attempt σ ε α) : Prop :=
  ∀ state, (program.on state).2 = state

/-- When it is refused, the program leaves the state as it found it. -/
def KeepsRefused (program : Attempt σ ε α) : Prop :=
  ∀ state cause after, program.on state = (.error cause, after) → after = state

theorem reads_get : (get : Attempt σ ε σ).Reads := fun _ => rfl

theorem reads_check (check : Except ε α) : (liftM check : Attempt σ ε α).Reads := fun _ => rfl

/-- A program that is never refused may write. -/
theorem keepsRefused_of_accepted {program : Attempt σ ε α}
    (accepted : ∀ state, ∃ value, (program.on state).1 = .ok value) : program.KeepsRefused := by
  intro state cause after refused
  obtain ⟨value, ok⟩ := accepted state
  rw [refused] at ok
  cases ok

/-- Reading first makes no difference to what a refused program leaves. -/
theorem Reads.keepsRefused_bind {first : Attempt σ ε α} {next : α → Attempt σ ε β}
    (reads : first.Reads) (rest : ∀ value, (next value).KeepsRefused) :
    (first >>= next).KeepsRefused := by
  intro state cause after refused
  obtain ⟨result, ran⟩ : ∃ result, first.on state = (result, state) :=
    ⟨_, Prod.ext rfl (reads state)⟩
  rw [on_bind, ran] at refused
  cases result with
  | ok value => exact rest value state cause after refused
  | error other =>
    cases refused
    rfl

end Attempt

end ModuleOpens
