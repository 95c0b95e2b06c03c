/-
# Proofs.Strategy.Plan — a plan is the grouped union of the requests that resolve

What a batch of requests asks for is said without plans: `Asks` is the set of
its edges, `openedModules` the order in which modules are first met, and
`missing?` the warning of a request that does not resolve. All three take names
as they stood before the batch, since planning changes no meaning. The index of
a plan leads to where a walk through its groups does (`Indexed`).

* `Indexed.groups_add`: a group changed at its indexed position, told without positions;
* `planned_ofRequests`: the plan of a batch has just these modules, edges and
  warnings, and the machine has only counted lookups.
-/
import Mathlib.Data.List.Induction
import Mathlib.Data.List.Nodup
import ModuleOpens.Proofs.Context.Resolution
import ModuleOpens.Strategy.Plan

namespace ModuleOpens

set_option autoImplicit false

namespace LoaderContext

/-- The modules that the names of a request stand for, when both stand for one. -/
def resolveBoth (context : LoaderContext) (machine : Machine) (request : OpenRequest) :
    Option (ModuleHandle × ModuleHandle) :=
  (context.resolve machine request.opened).bind fun opened =>
    (context.resolve machine request.opening).map fun opening => (opened, opening)

/-- Some request that resolves opens `package` of `opened` to `opening`. -/
def Asks (context : LoaderContext) (machine : Machine) (requests : List OpenRequest)
    (opened : ModuleHandle) (package : String) (opening : ModuleHandle) : Prop :=
  ∃ request ∈ requests, context.resolve machine request.opened = some opened ∧
    context.resolve machine request.opening = some opening ∧ package ∈ request.packages

/-- The opened modules of the requests that resolve, in the order in which they are first met. -/
def openedModules (context : LoaderContext) (machine : Machine) (requests : List OpenRequest) :
    List ModuleHandle :=
  firstSeen (requests.filterMap fun request => (context.resolveBoth machine request).map Prod.fst)

/-- The warning that a request is skipped: it names the opened module when that one is missing,
and else the opening one. -/
def missing? (context : LoaderContext) (machine : Machine) (request : OpenRequest) :
    Option Event :=
  match context.resolve machine request.opened, context.resolve machine request.opening with
  | none, _ => some (OpenPlan.skipWarning request.opened request)
  | some _, none => some (OpenPlan.skipWarning request.opening request)
  | some _, some _ => none

variable {context : LoaderContext} {machine : Machine}

theorem resolveBoth_eq_some_iff {request : OpenRequest} {opened opening : ModuleHandle} :
    context.resolveBoth machine request = some (opened, opening) ↔
      context.resolve machine request.opened = some opened ∧
        context.resolve machine request.opening = some opening := by
  unfold resolveBoth
  cases context.resolve machine request.opened with
  | none => simp
  | some module => cases context.resolve machine request.opening <;> simp [and_comm]

/-- A module is opened when some request asks to open it. -/
theorem mem_openedModules {requests : List OpenRequest} {opened : ModuleHandle} :
    opened ∈ context.openedModules machine requests ↔
      ∃ package opening, context.Asks machine requests opened package opening := by
  simp only [openedModules, firstSeen, mem_addAll, List.not_mem_nil, false_or, List.mem_filterMap,
    Option.map_eq_some_iff, Prod.exists, exists_and_right, exists_eq_right,
    resolveBoth_eq_some_iff, Asks]
  constructor
  · rintro ⟨request, member, opening, hOpened, hOpening⟩
    obtain ⟨package, hPackage⟩ := List.exists_mem_of_ne_nil _ request.packages_ne_nil
    exact ⟨package, opening, request, member, hOpened, hOpening, hPackage⟩
  · rintro ⟨-, opening, request, member, hOpened, hOpening, -⟩
    exact ⟨request, member, opening, hOpened, hOpening⟩

theorem nodup_openedModules (requests : List OpenRequest) :
    (context.openedModules machine requests).Nodup :=
  nodup_addAll List.nodup_nil _

theorem openedModules_append (requests more : List OpenRequest) :
    context.openedModules machine (requests ++ more) =
      addAll (context.openedModules machine requests)
        (more.filterMap fun request => (context.resolveBoth machine request).map Prod.fst) := by
  rw [openedModules, List.filterMap_append, firstSeen, addAll_append]
  rfl

theorem asks_append {requests : List OpenRequest} {request : OpenRequest} {opened : ModuleHandle}
    {package : String} {opening : ModuleHandle} :
    context.Asks machine (requests ++ [request]) opened package opening ↔
      context.Asks machine requests opened package opening ∨
        (context.resolveBoth machine request = some (opened, opening) ∧
          package ∈ request.packages) := by
  simp only [Asks, List.mem_append, List.mem_singleton, or_and_right, exists_or,
    exists_eq_left, resolveBoth_eq_some_iff, and_assoc]

end LoaderContext

namespace OpenInstructions

theorem mem_addEach {instructions : OpenInstructions} {packages : List String}
    {target : ModuleHandle} {edge : OpenEdge} :
    edge ∈ (instructions.addEach packages target).edges ↔
      edge ∈ instructions.edges ∨ (edge.1 ∈ packages ∧ edge.2 = target) := by
  unfold addEach
  induction packages generalizing instructions with
  | nil => simp
  | cons package rest ih =>
    rw [List.foldl_cons, ih, add, mem_insertSorted strictOrder_edgeBefore, List.mem_cons,
      Prod.ext_iff]
    grind

theorem increasing_addEach {instructions : OpenInstructions}
    (increasing : Increasing edgeBefore instructions.edges) (packages : List String)
    (target : ModuleHandle) :
    Increasing edgeBefore (instructions.addEach packages target).edges := by
  unfold addEach
  induction packages generalizing instructions with
  | nil => exact increasing
  | cons package rest ih => exact ih (increasing_insertSorted strictOrder_edgeBefore _ increasing)

end OpenInstructions

namespace OpenPlan

/-! ## Groups as a table of instructions -/

/-- The instructions of a module, changed where they are met first; a module without
instructions gets a group at the end. -/
def alterGroup (module : ModuleHandle) (change : OpenInstructions → OpenInstructions) :
    List OpenGroup → List OpenGroup
  | [] => [⟨module, change .empty⟩]
  | group :: rest =>
    if group.module = module then ⟨module, change group.instructions⟩ :: rest
    else group :: alterGroup module change rest

/-- The instructions for a module; none for a module without a group. -/
def instructionsOf (module : ModuleHandle) (groups : List OpenGroup) : OpenInstructions :=
  ((groups.find? fun group => group.module = module).map OpenGroup.instructions).getD .empty

theorem instructionsOf_cons (module : ModuleHandle) (group : OpenGroup) (rest : List OpenGroup) :
    instructionsOf module (group :: rest) =
      if group.module = module then group.instructions else instructionsOf module rest := by
  unfold instructionsOf
  rw [List.find?_cons]
  by_cases here : group.module = module <;> simp [here]

theorem instructionsOf_alterGroup (module other : ModuleHandle)
    (change : OpenInstructions → OpenInstructions) (groups : List OpenGroup) :
    instructionsOf other (alterGroup module change groups) =
      if other = module then change (instructionsOf module groups)
      else instructionsOf other groups := by
  induction groups with
  | nil =>
    rw [alterGroup, instructionsOf_cons]
    by_cases same : other = module
    · subst same
      rw [if_pos rfl, if_pos rfl]
      rfl
    · rw [if_neg (Ne.symm same), if_neg same]
  | cons group rest ih =>
    rw [alterGroup]
    split
    · rename_i here
      subst here
      rw [instructionsOf_cons, instructionsOf_cons, instructionsOf_cons, if_pos rfl]
      by_cases same : other = group.module
      · rw [if_pos same.symm, if_pos same]
      · rw [if_neg (Ne.symm same), if_neg same, if_neg (Ne.symm same)]
    · rename_i elsewhere
      rw [instructionsOf_cons, instructionsOf_cons, instructionsOf_cons, if_neg elsewhere, ih]
      by_cases same : other = module
      · subst same
        rw [if_neg elsewhere, if_pos rfl, if_pos rfl]
      · rw [if_neg same, if_neg same]

theorem module_alterGroup (module : ModuleHandle) (change : OpenInstructions → OpenInstructions)
    (groups : List OpenGroup) :
    (alterGroup module change groups).map OpenGroup.module =
      addNew (groups.map OpenGroup.module) module := by
  induction groups with
  | nil => simp [alterGroup, addNew]
  | cons group rest ih =>
    simp only [alterGroup]
    split
    · rename_i here
      simp [addNew, here]
    · rename_i elsewhere
      simp only [List.map_cons, ih, addNew, List.mem_cons, Ne.symm elsewhere, false_or]
      split <;> rfl

/-- Each group has its module's instructions, when no module has two groups. -/
theorem instructionsOf_of_mem {groups : List OpenGroup} {group : OpenGroup}
    (nodup : (groups.map OpenGroup.module).Nodup) (member : group ∈ groups) :
    instructionsOf group.module groups = group.instructions := by
  induction groups with
  | nil => cases member
  | cons first rest ih =>
    rw [List.map_cons, List.nodup_cons] at nodup
    rw [instructionsOf_cons]
    rcases List.mem_cons.1 member with rfl | later
    · exact if_pos rfl
    · have different : first.module ≠ group.module := by
        intro same
        exact nodup.1 (same ▸ List.mem_map_of_mem later)
      rw [if_neg different]
      exact ih nodup.2 later

/-! ## Groups by position -/

/-- Changing the group at a module's position is changing the module's group. -/
theorem modify_eq_alterGroup {module : ModuleHandle} {groups : List OpenGroup} {position : Nat}
    (nodup : (groups.map OpenGroup.module).Nodup)
    (here : (groups.map OpenGroup.module)[position]? = some module)
    (change : OpenInstructions → OpenInstructions) :
    (groups.modify position fun group =>
      { group with instructions := change group.instructions }) =
        alterGroup module change groups := by
  induction groups generalizing position with
  | nil => cases here
  | cons group rest ih =>
    obtain ⟨unique, distinct⟩ := List.nodup_cons.1 nodup
    cases position with
    | zero =>
      cases here
      rw [alterGroup, if_pos rfl]
      rfl
    | succ position =>
      have later : module ∈ rest.map OpenGroup.module := List.mem_iff_getElem?.2 ⟨position, here⟩
      have different : group.module ≠ module := by
        rintro rfl
        exact unique later
      rw [alterGroup, if_neg different, ← ih distinct here]
      rfl

/-- An empty group at the end is what a module without a group has. -/
theorem alterGroup_append_empty {module : ModuleHandle} {groups : List OpenGroup}
    (absent : module ∉ groups.map OpenGroup.module)
    (change : OpenInstructions → OpenInstructions) :
    alterGroup module change (groups ++ [⟨module, .empty⟩]) = alterGroup module change groups := by
  induction groups with
  | nil => exact if_pos rfl
  | cons group rest ih =>
    rw [List.map_cons, List.mem_cons, not_or] at absent
    rw [List.cons_append, alterGroup, alterGroup, if_neg (Ne.symm absent.1),
      if_neg (Ne.symm absent.1), ih absent.2]

/-- What a list with one more value has at a position. -/
theorem getElem?_concat_eq_some_iff {α : Type} {values : List α} {last value : α}
    {position : Nat} :
    (values ++ [last])[position]? = some value ↔
      values[position]? = some value ∨ (position = values.length ∧ value = last) := by
  rcases Nat.lt_trichotomy position values.length with inside | rfl | outside
  · simp [List.getElem?_append_left inside, Nat.ne_of_lt inside]
  · simp [eq_comm]
  · have beyond : (values ++ [last])[position]? = none := by
      rw [List.getElem?_eq_none_iff, List.length_append, List.length_singleton]
      exact outside
    rw [beyond, List.getElem?_eq_none (Nat.le_of_lt outside)]
    simp [Nat.ne_of_gt outside]

theorem seat_of_some {plan : OpenPlan} {module : ModuleHandle} {position : Nat}
    (found : plan.index.get? module = some position) : plan.seat module = (position, plan) := by
  unfold seat
  rw [found]

theorem seat_of_none {plan : OpenPlan} {module : ModuleHandle}
    (missing : plan.index.get? module = none) :
    plan.seat module = (plan.groups.length, { plan with
      groups := plan.groups ++ [⟨module, .empty⟩]
      index := plan.index.set module plan.groups.length }) := by
  unfold seat
  rw [missing]

/-- A request that resolved skips nothing. -/
theorem skipped_add (plan : OpenPlan) (request : OpenRequest) (opened opening : ModuleHandle) :
    (plan.add request opened opening).skipped = plan.skipped := by
  show (plan.seat opened).2.skipped = plan.skipped
  unfold seat
  split <;> rfl

/-- The index has the position of every module that has a group, and of no other. -/
def Indexed (plan : OpenPlan) : Prop :=
  ∀ module position, plan.index.get? module = some position ↔
    (plan.groups.map OpenGroup.module)[position]? = some module

namespace Indexed

variable {plan : OpenPlan} {module : ModuleHandle}

theorem empty : OpenPlan.empty.Indexed := by
  intro module position
  simp [OpenPlan.empty]

/-- A module has one position, so it has one group. -/
theorem nodup (indexed : plan.Indexed) : (plan.groups.map OpenGroup.module).Nodup := by
  rw [List.nodup_iff_getElem?_ne_getElem?]
  intro first second before inside same
  have there := List.getElem?_eq_getElem inside
  have at_second := (indexed _ second).2 there
  have at_first := (indexed _ first).2 (same.trans there)
  rw [at_second] at at_first
  exact Nat.ne_of_gt before (Option.some.inj at_first)

theorem get?_eq_none_iff (indexed : plan.Indexed) :
    plan.index.get? module = none ↔ module ∉ plan.groups.map OpenGroup.module := by
  simp only [List.mem_iff_getElem?, ← indexed module, not_exists, Option.eq_none_iff_forall_ne_some,
    Ne]

/-- A request is added to the group of its opened module, wherever that stands. -/
theorem groups_add (indexed : plan.Indexed) (request : OpenRequest)
    (opened opening : ModuleHandle) :
    (plan.add request opened opening).groups =
      alterGroup opened (fun instructions => instructions.addEach request.packages opening)
        plan.groups := by
  show (plan.seat opened).2.groups.modify (plan.seat opened).1 _ = _
  cases found : plan.index.get? opened with
  | some position =>
    rw [seat_of_some found]
    exact modify_eq_alterGroup indexed.nodup ((indexed _ _).1 found)
      fun instructions => instructions.addEach request.packages opening
  | none =>
    have absent := indexed.get?_eq_none_iff.1 found
    rw [seat_of_none found, ← alterGroup_append_empty absent]
    apply modify_eq_alterGroup _ _ fun instructions =>
      instructions.addEach request.packages opening
    · rw [List.map_append, List.map_singleton, ← List.concat_eq_append]
      exact indexed.nodup.concat absent
    · simp

theorem modules_add (indexed : plan.Indexed) (request : OpenRequest)
    (opened opening : ModuleHandle) :
    (plan.add request opened opening).groups.map OpenGroup.module =
      addNew (plan.groups.map OpenGroup.module) opened := by
  rw [indexed.groups_add, module_alterGroup]

/-- Positions stay, and a module without a group gets the next one. -/
theorem add (indexed : plan.Indexed) (request : OpenRequest) (opened opening : ModuleHandle) :
    (plan.add request opened opening).Indexed := by
  intro module position
  rw [indexed.modules_add]
  show (plan.seat opened).2.index.get? module = some position ↔ _
  cases found : plan.index.get? opened with
  | some known =>
    have present : opened ∈ plan.groups.map OpenGroup.module :=
      List.mem_iff_getElem?.2 ⟨known, (indexed _ _).1 found⟩
    rw [seat_of_some found, addNew, if_pos present]
    exact indexed module position
  | none =>
    have absent := indexed.get?_eq_none_iff.1 found
    rw [seat_of_none found, addNew, if_neg absent, getElem?_concat_eq_some_iff, ← indexed,
      Table.get?_set, List.length_map]
    by_cases same : module = opened
    · simp [same, found, eq_comm]
    · simp [same]

end Indexed

/-! ## The plan of a batch -/

/-- A draft holds what the requests ask for. -/
structure Planned (context : LoaderContext) (machine : Machine) (requests : List OpenRequest)
    (draft : Draft Machine) : Prop where
  host : ∃ lookups, draft.host = { machine with lookups }
  resolve : draft.context.resolve draft.host = context.resolve machine
  modules : draft.plan.groups.map OpenGroup.module = context.openedModules machine requests
  edges : ∀ module package target,
    (package, target) ∈ (instructionsOf module draft.plan.groups).edges ↔
      context.Asks machine requests module package target
  increasing : ∀ module, Increasing edgeBefore (instructionsOf module draft.plan.groups).edges
  indexed : draft.plan.Indexed
  skipped : draft.plan.skipped =
    requests.countP fun request => (context.resolveBoth machine request).isNone
  events : draft.events = requests.filterMap (context.missing? machine)

variable {context : LoaderContext} {machine : Machine} {requests : List OpenRequest}
  {draft : Draft Machine}

/-- Asking for the opened module of a request, and then for its opening one. -/
structure Draft.Asked (draft : Draft Machine) (request : OpenRequest)
    (first second : LoaderContext.Resolution Machine) : Prop where
  opened : draft.context.find draft.host request.opened = first
  opening : first.context.find first.host request.opening = second

theorem Draft.Asked.add_of_opened_missing {first second : LoaderContext.Resolution Machine}
    {request : OpenRequest} (asked : draft.Asked request first second)
    (missing : first.module = none) :
    draft.add request = ⟨draft.plan.skip, first.context, first.host,
      draft.events ++ [skipWarning request.opened request]⟩ := by
  obtain ⟨rfl, -⟩ := asked
  simp only [Draft.add, missing]

theorem Draft.Asked.add_of_opening_missing {first second : LoaderContext.Resolution Machine}
    {request : OpenRequest} {opened : ModuleHandle} (asked : draft.Asked request first second)
    (found : first.module = some opened) (missing : second.module = none) :
    draft.add request = ⟨draft.plan.skip, second.context, second.host,
      draft.events ++ [skipWarning request.opening request]⟩ := by
  obtain ⟨rfl, rfl⟩ := asked
  simp only [Draft.add, found, missing]

theorem Draft.Asked.add_of_found {first second : LoaderContext.Resolution Machine}
    {request : OpenRequest} {opened opening : ModuleHandle}
    (asked : draft.Asked request first second) (found : first.module = some opened)
    (found' : second.module = some opening) :
    draft.add request = ⟨draft.plan.add request opened opening, second.context, second.host,
      draft.events⟩ := by
  obtain ⟨rfl, rfl⟩ := asked
  simp only [Draft.add, found, found']

/-- A request leaves the draft as the first question left it, or as the second did. -/
theorem Draft.Asked.leaves {first second : LoaderContext.Resolution Machine} {request : OpenRequest}
    (asked : draft.Asked request first second) :
    ((draft.add request).context = first.context ∧ (draft.add request).host = first.host) ∨
      (draft.add request).context = second.context ∧ (draft.add request).host = second.host := by
  cases opened : first.module with
  | none =>
    rw [asked.add_of_opened_missing opened]
    exact Or.inl ⟨rfl, rfl⟩
  | some openedModule =>
    cases opening : second.module with
    | none =>
      rw [asked.add_of_opening_missing opened opening]
      exact Or.inr ⟨rfl, rfl⟩
    | some openingModule =>
      rw [asked.add_of_found opened opening]
      exact Or.inr ⟨rfl, rfl⟩

/-- Both questions leave the meaning of names alone. -/
theorem Draft.Asked.spec {first second : LoaderContext.Resolution Machine} {request : OpenRequest}
    (asked : draft.Asked request first second) :
    (∃ lookups, first.host = { draft.host with lookups }) ∧
      (∃ lookups, second.host = { draft.host with lookups }) ∧
      first.context.resolve first.host = draft.context.resolve draft.host ∧
      second.context.resolve second.host = draft.context.resolve draft.host ∧
      draft.context.resolve draft.host request.opened = first.module ∧
      draft.context.resolve draft.host request.opening = second.module := by
  obtain ⟨rfl, rfl⟩ := asked
  obtain ⟨lookups, host⟩ := draft.context.find_host draft.host request.opened
  have meaning := draft.context.resolve_after draft.host request.opened
  generalize first : draft.context.find draft.host request.opened = opened at *
  obtain ⟨lookups', host'⟩ := opened.context.find_host opened.host request.opening
  have meaning' := opened.context.resolve_after opened.host request.opening
  refine ⟨⟨lookups, host⟩, ⟨lookups', by rw [host', host]⟩, meaning, meaning'.trans meaning, ?_,
    congrFun meaning.symm request.opening⟩
  rw [← first]
  rfl

/-- What one more request does to a draft, by what its names stand for. -/
structure Draft.Extended (draft after : Draft Machine) (request : OpenRequest) : Prop where
  host : ∃ lookups, after.host = { draft.host with lookups }
  resolve : after.context.resolve after.host = draft.context.resolve draft.host
  plan : after.plan = match draft.context.resolveBoth draft.host request with
    | none => draft.plan.skip
    | some (opened, opening) => draft.plan.add request opened opening
  events : after.events = draft.events ++ (draft.context.missing? draft.host request).toList

theorem Draft.extended_add (draft : Draft Machine) (request : OpenRequest) :
    draft.Extended (draft.add request) request := by
  have asked : draft.Asked request _ _ := ⟨rfl, rfl⟩
  obtain ⟨host, host', meaning, meaning', openedIs, openingIs⟩ := asked.spec
  cases opened : (draft.context.find draft.host request.opened).module with
  | none =>
    rw [asked.add_of_opened_missing opened]
    rw [opened] at openedIs
    refine ⟨host, meaning, ?_, ?_⟩
    · simp [LoaderContext.resolveBoth, openedIs]
    · simp [LoaderContext.missing?, openedIs]
  | some openedModule =>
    rw [opened] at openedIs
    cases opening : ((draft.context.find draft.host request.opened).context.find
        (draft.context.find draft.host request.opened).host request.opening).module with
    | none =>
      rw [asked.add_of_opening_missing opened opening]
      rw [opening] at openingIs
      refine ⟨host', meaning', ?_, ?_⟩
      · simp [LoaderContext.resolveBoth, openedIs, openingIs]
      · simp [LoaderContext.missing?, openedIs, openingIs]
    | some openingModule =>
      rw [asked.add_of_found opened opening]
      rw [opening] at openingIs
      refine ⟨host', meaning', ?_, ?_⟩
      · simp [LoaderContext.resolveBoth, openedIs, openingIs]
      · simp [LoaderContext.missing?, openedIs, openingIs]

theorem planned_nil (context : LoaderContext) (machine : Machine) :
    Planned context machine [] ⟨empty, context, machine, []⟩ where
  host := ⟨machine.lookups, rfl⟩
  resolve := rfl
  modules := rfl
  edges module package target := by
    simp [instructionsOf, OpenPlan.empty, OpenInstructions.empty, LoaderContext.Asks]
  increasing module := List.Pairwise.nil
  indexed := .empty
  skipped := rfl
  events := rfl

theorem Planned.add (planned : Planned context machine requests draft) (request : OpenRequest) :
    Planned context machine (requests ++ [request]) (draft.add request) := by
  obtain ⟨host, resolve, plan, events⟩ := draft.extended_add request
  obtain ⟨lookups, hostIs⟩ := host
  obtain ⟨lookups', planHost⟩ := planned.host
  have both : draft.context.resolveBoth draft.host request =
      context.resolveBoth machine request := by
    unfold LoaderContext.resolveBoth
    rw [planned.resolve]
  have warning : draft.context.missing? draft.host request = context.missing? machine request := by
    unfold LoaderContext.missing?
    rw [planned.resolve]
  rw [both] at plan
  rw [warning, planned.events] at events
  refine ⟨⟨lookups, by rw [hostIs, planHost]⟩, resolve.trans planned.resolve, ?_, ?_, ?_, ?_, ?_, ?_⟩
  · rw [LoaderContext.openedModules_append, plan]
    cases resolved : context.resolveBoth machine request with
    | none => simp [planned.modules, resolved, skip]
    | some modules => simp [planned.indexed.modules_add, planned.modules, resolved]
  · intro module package target
    rw [LoaderContext.asks_append, ← planned.edges, plan]
    cases resolved : context.resolveBoth machine request with
    | none => simp [skip]
    | some modules =>
      simp only [planned.indexed.groups_add, instructionsOf_alterGroup]
      split
      · rename_i same
        subst same
        simp [OpenInstructions.mem_addEach, Prod.ext_iff, and_comm, eq_comm]
      · rename_i other
        simp [Prod.ext_iff, Ne.symm other]
  · intro module
    rw [plan]
    cases resolved : context.resolveBoth machine request with
    | none => exact planned.increasing module
    | some modules =>
      simp only [planned.indexed.groups_add, instructionsOf_alterGroup]
      split
      · exact OpenInstructions.increasing_addEach (planned.increasing _) _ _
      · exact planned.increasing module
  · rw [plan]
    cases context.resolveBoth machine request with
    | none => exact planned.indexed
    | some modules => exact planned.indexed.add request modules.1 modules.2
  · rw [plan, List.countP_append, ← planned.skipped]
    cases resolved : context.resolveBoth machine request with
    | none => simp [resolved, skip]
    | some modules => simp [resolved, skipped_add]
  · rw [events, List.filterMap_append]
    cases skipped : context.missing? machine request <;> simp [skipped]

/-- The plan of a batch holds what its requests ask for. -/
theorem planned_ofRequests (context : LoaderContext) (machine : Machine)
    (requests : List OpenRequest) :
    Planned context machine requests (ofRequests context machine requests) := by
  induction requests using List.reverseRecOn with
  | nil => exact planned_nil context machine
  | append_singleton rest request ih =>
    unfold ofRequests at ih ⊢
    rw [List.foldl_append]
    exact ih.add request

end OpenPlan

end ModuleOpens
