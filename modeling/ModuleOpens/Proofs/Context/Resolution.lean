/-
# Proofs.Context.Resolution — what names stand for, in a context on a machine

Asking a context for a name changes the context, which remembers the answer,
and the machine, which counts the lookup. It changes neither the graph nor what
any name stands for, so a whole batch of questions has one meaning, that of
`resolve` before the first of them (`resolve_after`).

`Arises context machine` holds of every context that some run makes on a
machine, at every later point of the run; then every name that resolves stands
for a module of the machine (`has_of_resolve`).
-/
import ModuleOpens.Context
import ModuleOpens.Proofs.Graph.Reachable

namespace ModuleOpens

set_option autoImplicit false

namespace LoaderContext

variable {context : LoaderContext} {machine : Machine}

/-- What a name stands for: the answer that the context would give. -/
def resolve (context : LoaderContext) (machine : Machine) (name : String) : Option ModuleHandle :=
  (context.find machine name).module

/-- A remembered answer stands; otherwise the graph is asked. -/
theorem resolve_eq (context : LoaderContext) (machine : Machine) (name : String) :
    context.resolve machine name =
      if name = allUnnamed then some context.unnamed
      else (context.answers.get? name).getD (machine.graph.find context.layer name) := by
  unfold resolve find
  split
  · rfl
  · split
    · rename_i answer cached
      rw [cached]
      rfl
    · rename_i cached
      rw [cached]
      rfl

/-- The machine that was asked has counted the lookup, if there was one. -/
theorem find_host (context : LoaderContext) (machine : Machine) (name : String) :
    ∃ lookups, (context.find machine name).host = { machine with lookups } := by
  unfold find
  split
  · exact ⟨machine.lookups, rfl⟩
  · split
    · exact ⟨machine.lookups, rfl⟩
    · exact ⟨machine.lookups + 1, rfl⟩

/-- The context that was asked remembers the answer, if it had to ask. -/
theorem find_context (context : LoaderContext) (machine : Machine) (name : String) :
    (context.find machine name).context = context ∨
      (name ≠ allUnnamed ∧ context.answers.get? name = none ∧
        (context.find machine name).context =
          { context with
            answers := context.answers.set name (machine.graph.find context.layer name) }) := by
  unfold find
  split
  · exact Or.inl rfl
  · rename_i other
    split
    · exact Or.inl rfl
    · rename_i cached
      exact Or.inr ⟨other, cached, rfl⟩

/-- A question changes the meaning of no name. -/
theorem resolve_after (context : LoaderContext) (machine : Machine) (name : String) :
    (context.find machine name).context.resolve (context.find machine name).host =
      context.resolve machine := by
  obtain ⟨lookups, host⟩ := find_host context machine name
  funext other
  rw [host, resolve_eq, resolve_eq]
  rcases find_context context machine name with same | ⟨-, cached, asked⟩
  · rw [same]
  · rw [asked, Table.get?_set]
    by_cases again : other = name
    · rw [again, if_pos rfl, cached]
      rfl
    · rw [if_neg again]

/-! ## Contexts on a machine -/

/-- The context was made on a machine of some run, which has come to `machine` since. -/
inductive Arises : LoaderContext → Machine → Prop where
  | made {machine : Machine} (reachable : machine.Reachable) (loader : LoaderHandle) :
      Arises (ofLoader machine loader).1 (ofLoader machine loader).2
  | asked {context : LoaderContext} {machine : Machine} (arises : Arises context machine)
      (name : String) :
      Arises (context.find machine name).context (context.find machine name).host
  | performed {context : LoaderContext} {machine : Machine} (arises : Arises context machine)
      (operation : Operation) : Arises context (machine.perform operation)

/-- The modules that a context has come to know are modules of the machine. -/
structure Knows (context : LoaderContext) (machine : Machine) : Prop where
  sound : machine.Sound
  unnamed : machine.graph.Has context.unnamed
  answers : ∀ name module, context.answers.get? name = some (some module) →
    machine.graph.Has module

/-- The graph finds modules under their own handles. -/
theorem has_of_find (sound : machine.Sound) {layer : LayerId} {name : String}
    {module : ModuleHandle} (found : machine.graph.find layer name = some module) :
    machine.graph.Has module := by
  unfold Graph.find at found
  generalize machine.graph.layers.size = steps at found
  induction steps generalizing layer with
  | zero => cases found
  | succ steps ih =>
    unfold Graph.findWithin at found
    split at found
    · cases found
    · split at found
      · obtain ⟨record, recordFound, rfl⟩ := Option.map_eq_some_iff.1 found
        refine ⟨record, ?_, rfl⟩
        rw [sound.own_id _ _ recordFound]
        exact recordFound
      · obtain ⟨parent, -, parentFound⟩ := Option.bind_eq_some_iff.1 found
        exact ih parentFound

theorem Knows.has_of_resolve (knows : context.Knows machine) {name : String}
    {module : ModuleHandle} (resolved : context.resolve machine name = some module) :
    machine.graph.Has module := by
  rw [resolve_eq] at resolved
  split at resolved
  · cases resolved
    exact knows.unnamed
  · cases cached : context.answers.get? name with
    | none =>
      rw [cached] at resolved
      exact has_of_find knows.sound resolved
    | some answer =>
      rw [cached] at resolved
      cases resolved
      exact knows.answers name module cached

/-- The unnamed module of a loader is a module of the machine. -/
theorem has_unnamedModule (sound : machine.Sound) (loader : LoaderHandle) :
    (machine.unnamedModule loader).2.graph.Has (machine.unnamedModule loader).1 := by
  unfold Machine.unnamedModule
  split
  · rename_i id found
    exact sound.loader_unnamed _ _ found
  · refine ⟨.isolated (.unnamed machine.nextId) none [], ?_, rfl⟩
    exact (Table.get?_set ..).trans (if_pos rfl)

theorem Knows.grows {after : Machine} (knows : context.Knows machine)
    (grows : machine.Grows after) : context.Knows after where
  sound := grows.sound knows.sound
  unnamed := grows.keeps _ knows.unnamed
  answers name module cached := grows.keeps _ (knows.answers name module cached)

theorem Knows.find (knows : context.Knows machine) (name : String) :
    (context.find machine name).context.Knows (context.find machine name).host := by
  obtain ⟨lookups, host⟩ := find_host context machine name
  have after : context.Knows { machine with lookups } :=
    knows.grows (Machine.grows_of_same rfl rfl rfl (Nat.le_refl _))
  rw [host]
  rcases find_context context machine name with same | ⟨-, -, asked⟩
  · rw [same]
    exact after
  · rw [asked]
    refine ⟨after.sound, after.unnamed, fun other module cached => ?_⟩
    rw [Table.get?_set] at cached
    split at cached
    · exact has_of_find after.sound (Option.some.inj cached)
    · exact after.answers other module cached

/-- Wherever a run has come to, a context knows only modules of the machine. -/
theorem Arises.knows (arises : context.Arises machine) : context.Knows machine := by
  induction arises with
  | made reachable loader =>
    have sound := Machine.sound_of_reachable reachable
    refine ⟨(Machine.grows_perform sound (.unnamedModule loader)).sound sound,
      has_unnamedModule sound loader, ?_⟩
    intro name module cached
    cases cached
  | asked _ name ih => exact ih.find name
  | performed _ operation ih => exact ih.grows (Machine.grows_perform ih.sound operation)

end LoaderContext

end ModuleOpens
