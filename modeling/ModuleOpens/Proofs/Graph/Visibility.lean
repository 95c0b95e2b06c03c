/-
# Proofs.Graph.Visibility — added edges are seen, if their module is named

Adding edges to an unnamed module goes through and adds nothing. As an unnamed module
opens every package, `Graph.opensTo` holds of it all the same; but `Graph.readsModule`
and `Graph.exportsTo` read edges alone, and an unnamed module has none. So a reads or
exports edge that was added is seen just when its module is named, and an opens edge
always; and no later operation changes what is seen.

* `hasEdge_run_iff`: a redefinition that goes through gives its edges, for good, to a
  named module, and never to an unnamed one;
* `Extends.opensTo`: what is open stays open;
* `added_edge_seen_iff`: what is seen of an edge that was added, then and later.
-/
import ModuleOpens.Proofs.Graph.Mutations
import ModuleOpens.Proofs.Graph.Opening
import ModuleOpens.Proofs.Graph.WellFormed

namespace ModuleOpens

set_option autoImplicit false

/-! ## What is seen of a graph -/

/-- A module without edges has none of any kind. -/
theorem ModuleRecord.not_hasEdge_isolated (handle : ModuleHandle) (layer : Option LayerId)
    (packages : List String) (edge : Edge) : ¬ (isolated handle layer packages).HasEdge edge := by
  cases edge with
  | reads target => exact List.not_mem_nil
  | exports package target => exact List.not_mem_nil
  | opens package target => exact List.not_mem_nil
  | uses service => exact List.not_mem_nil
  | provides service provider => exact List.not_mem_nil

namespace Graph

variable {graph : Graph} {source target : ModuleHandle} {package : String}

/-- The number is that of a named module. -/
def NamedUnder (graph : Graph) (id : ModuleId) : Prop :=
  ∃ record, graph.modules.get? id = some record ∧ record.handle.isNamed = true

theorem readsModule_iff :
    graph.readsModule source target = true ↔ graph.HasEdge source.id (.reads target.id) := by
  unfold readsModule HasEdge
  cases graph.modules.get? source.id <;> simp [ModuleRecord.HasEdge]

theorem exportsTo_iff :
    graph.exportsTo source package target = true ↔
      graph.HasEdge source.id (.exports package target.id) := by
  unfold exportsTo HasEdge
  cases graph.modules.get? source.id <;> simp [ModuleRecord.HasEdge]

end Graph

namespace Machine

variable {machine after : Machine} {module source target : ModuleHandle} {package : String}
  {redefinition : Redefinition} {edge : Edge}

/-! ## Edges that a run keeps -/

theorem hasEdge_run (sound : machine.Sound) {source : ModuleId}
    (has : machine.graph.HasEdge source edge) (operations : List Operation) :
    (machine.run operations).graph.HasEdge source edge := by
  induction operations generalizing machine with
  | nil => exact has
  | cons operation rest ih =>
    exact ih ((grows_perform sound operation).sound sound) (hasEdge_perform sound has operation)

/-- An unnamed module gets no edges, whatever is done. -/
theorem not_hasEdge_run_of_unnamed (wellFormed : machine.WellFormed) {source : ModuleId}
    {record : ModuleRecord} (found : machine.graph.modules.get? source = some record)
    (unnamed : record.handle.isNamed = false) (operations : List Operation) :
    ¬ (machine.run operations).graph.HasEdge source edge := by
  rintro ⟨later, laterFound, has⟩
  have extended := extends_of_reaches (reaches_run machine operations) wellFormed.toSound
  obtain ⟨kept, keptFound, keeps⟩ := extended.records source record found
  cases laterFound.symm.trans keptFound
  have bare := ((wellFormed_run wellFormed operations).records source later laterFound).unnamed
    (keeps.handle ▸ unnamed)
  rw [bare] at has
  exact ModuleRecord.not_hasEdge_isolated _ _ _ edge has

/-- What is open stays open. -/
theorem Extends.opensTo (extended : machine.Extends after)
    (opens : machine.graph.opensTo source package target = true) :
    after.graph.opensTo source package target = true := by
  obtain ⟨record, found, isOpen⟩ := Graph.opensTo_iff.1 opens
  obtain ⟨later, laterFound, keeps⟩ := extended.records _ record found
  refine Graph.opensTo_iff.2 ⟨later, laterFound, ?_⟩
  rcases isOpen with unnamed | edge
  · rw [keeps.handle]
    exact Or.inl unnamed
  · exact Or.inr (keeps.opens package target.id edge)

/-! ## Edges that are added -/

theorem Redefines.wellFormed (redefines : machine.Redefines module redefinition after)
    (wellFormed : machine.WellFormed) : after.WellFormed := by
  have effect : Effect machine (.redefine module redefinition) after :=
    effect_of_redefines rfl redefines
  exact wellFormed.effect effect

/-- A redefinition that goes through gives its edges, for good, to a named module, and never to
an unnamed one. -/
theorem hasEdge_run_iff (wellFormed : machine.WellFormed)
    (redefines : machine.Redefines module redefinition after) (gives : redefinition.Gives edge)
    (later : List Operation) :
    (after.run later).graph.HasEdge module.id edge ↔ machine.graph.NamedUnder module.id := by
  have afterWellFormed := redefines.wellFormed wellFormed
  obtain ⟨change, redefined, rfl⟩ := redefines
  cases redefined with
  | unnamed record found unnamed =>
    have no : ¬ machine.graph.NamedUnder module.id := by
      rintro ⟨present, presentFound, named⟩
      cases found.symm.trans presentFound
      rw [unnamed] at named
      cases named
    exact iff_of_false (not_hasEdge_run_of_unnamed afterWellFormed found unnamed later) no
  | named record admitted =>
    refine iff_of_true ?_ ⟨record, admitted.found, admitted.named⟩
    refine hasEdge_run afterWellFormed.toSound ⟨record.extended redefinition, ?_, ?_⟩ later
    · exact (Table.get?_set ..).trans (if_pos rfl)
    · exact ModuleRecord.hasEdge_extended.2 (Or.inr gives)

/-- An opens edge that is added is seen, also on an unnamed module. -/
theorem opensTo_of_redefines (redefines : machine.Redefines source (.ofEdge package target) after) :
    after.graph.opensTo source package target = true := by
  obtain ⟨change, redefined, rfl⟩ := redefines
  cases redefined with
  | unnamed record found unnamed => exact Graph.opensTo_iff.2 ⟨record, found, Or.inl unnamed⟩
  | named record admitted =>
    refine Graph.opensTo_iff.2 ⟨_, (Table.get?_set ..).trans (if_pos rfl), Or.inr ?_⟩
    exact ModuleRecord.mem_targetsOf_extended.2
      (Or.inr (Redefinition.opens_ofEdge.2 ⟨rfl, rfl⟩))

/-- Whatever a machine was used through: a reads or exports edge whose addition goes through is
seen, then and after any further operations, just when its source is a named module; an opens edge
is seen in any case, also when the internal interface added it. -/
theorem added_edge_seen_iff (privileges : Privileges) (operations : List Operation)
    (source target : ModuleHandle) (package : String) :
    let machine := (start privileges).run operations
    (∀ count after later, machine.addReads source target = (.ok count, after) →
      ((after.run later).graph.readsModule source target = true ↔
        machine.graph.NamedUnder source.id)) ∧
    (∀ count after later, machine.addExports source package target = (.ok count, after) →
      ((after.run later).graph.exportsTo source package target = true ↔
        machine.graph.NamedUnder source.id)) ∧
    ∀ after later, machine.addOpens source package target = (.ok (), after) ∨
      machine.internalAddOpens (some source) (some package) (some target) = (.ok (), after) →
        (after.run later).graph.opensTo source package target = true := by
  intro machine
  have wellFormed : machine.WellFormed := wellFormed_run (wellFormed_start privileges) operations
  refine ⟨fun count after later added => ?_, fun count after later added => ?_,
    fun after later added => ?_⟩
  · rw [Graph.readsModule_iff]
    refine hasEdge_run_iff wellFormed (redefines_redefine added) ?_ later
    exact ⟨target, List.mem_singleton_self _, rfl⟩
  · rw [Graph.exportsTo_iff]
    refine hasEdge_run_iff wellFormed (redefines_redefine added) ?_ later
    exact ⟨(package, [target]), List.mem_singleton_self _, rfl, target,
      List.mem_singleton_self _, rfl⟩
  · have redefines : machine.Redefines source (.ofEdge package target) after := by
      rcases added with bound | called
      · exact redefines_addOpens bound
      · obtain ⟨_, _, _, ⟨⟩, ⟨⟩, ⟨⟩, internal⟩ := addOpens_of_internalAddOpens called
        exact redefines_addOpens internal
    have sound := (redefines.wellFormed wellFormed).toSound
    exact (extends_of_reaches (reaches_run after later) sound).opensTo
      (opensTo_of_redefines redefines)

/-- The unnamed module of a loader is told to read a module and to export a package to it; both
go through, and neither is seen. -/
theorem not_seen_of_unnamed :
    let machine := (start .none).run
      [.defineModule bootLayer "base" ["lang"], .newLoader "app" none]
    let unnamed := (machine.unnamedModule ⟨2, "app"⟩).1
    let base := ModuleHandle.named 1 "base"
    (∃ count after, machine.addReads unnamed base = (.ok count, after) ∧
      after.graph.readsModule unnamed base = false) ∧
    ∃ count after, machine.addExports unnamed "lang" base = (.ok count, after) ∧
      after.graph.exportsTo unnamed "lang" base = false := by
  exact ⟨⟨_, _, rfl, by decide⟩, ⟨_, _, rfl, by decide⟩⟩

end Machine

end ModuleOpens
