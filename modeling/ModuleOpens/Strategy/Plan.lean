/-
# Strategy.Plan — requests grouped by the module that they open

Before anything is changed, a batch of requests becomes a plan: for each opened
module, in the order in which they were first met, the packages to open and the
modules to open them to. A request with a name that does not resolve is skipped
with a warning. A module's group is found through an index of positions. The
edges of a group are applied by package, and then by the number of the target.
-/
import ModuleOpens.Context
import ModuleOpens.Event

namespace ModuleOpens

set_option autoImplicit false

/-- A package to open, and the module to open it to. -/
abbrev OpenEdge := String × ModuleHandle

/-- The packages of one module to open and the modules to open them to: a set of edges, in
the order in which they are applied. -/
structure OpenInstructions where
  edges : List OpenEdge
  deriving DecidableEq, Repr

structure OpenGroup where
  module : ModuleHandle
  instructions : OpenInstructions
  deriving DecidableEq, Repr

/-- What a batch of requests comes to, and how many of them were skipped. -/
structure OpenPlan where
  groups : List OpenGroup
  /-- The position of each module's group. -/
  index : Table ModuleHandle Nat
  skipped : Nat
  deriving DecidableEq, Repr

/-- Handles by number, and then by name; no name comes before any name. -/
def handleBefore (a b : ModuleHandle) : Bool :=
  a.id < b.id || (a.id == b.id && match a.name, b.name with
    | none, some _ => true
    | some x, some y => textBefore x y
    | _, none => false)

/-- Edges by package, and then by target. -/
def edgeBefore (a b : OpenEdge) : Bool :=
  textBefore a.1 b.1 || (a.1 == b.1 && handleBefore a.2 b.2)

theorem strictOrder_handleBefore : StrictOrder handleBefore where
  irreflexive a := by
    cases h : a.name <;> simp [handleBefore, h, strictOrder_textBefore.irreflexive]
  transitive a b c := by
    obtain ⟨a, x⟩ := a
    obtain ⟨b, y⟩ := b
    obtain ⟨c, z⟩ := c
    have trans := strictOrder_textBefore.transitive
    cases x <;> cases y <;> cases z <;> simp [handleBefore] <;> grind
  trichotomous a b := by
    obtain ⟨a, x⟩ := a
    obtain ⟨b, y⟩ := b
    have tri := strictOrder_textBefore.trichotomous
    cases x <;> cases y <;> simp [handleBefore] <;> grind

theorem strictOrder_edgeBefore : StrictOrder edgeBefore where
  irreflexive a := by
    simp [edgeBefore, strictOrder_textBefore.irreflexive, strictOrder_handleBefore.irreflexive]
  transitive a b c := by
    simp only [edgeBefore, Bool.or_eq_true, Bool.and_eq_true, beq_iff_eq]
    rintro (h | ⟨h, h'⟩) (k | ⟨k, k'⟩)
    · exact Or.inl (strictOrder_textBefore.transitive _ _ _ h k)
    · exact Or.inl (k ▸ h)
    · exact Or.inl (h ▸ k)
    · exact Or.inr ⟨h.trans k, strictOrder_handleBefore.transitive _ _ _ h' k'⟩
  trichotomous a b := by
    simp only [edgeBefore, Bool.or_eq_false_iff, Bool.and_eq_false_imp, beq_iff_eq]
    rintro ⟨h, h'⟩ ⟨k, k'⟩
    have first := strictOrder_textBefore.trichotomous _ _ h k
    have second := strictOrder_handleBefore.trichotomous _ _ (h' first) (k' first.symm)
    exact Prod.ext first second

namespace OpenInstructions

def empty : OpenInstructions := ⟨[]⟩

/-- `package` is to be opened to `target` as well. -/
def add (instructions : OpenInstructions) (package : String) (target : ModuleHandle) :
    OpenInstructions :=
  ⟨insertSorted edgeBefore (package, target) instructions.edges⟩

def addEach (instructions : OpenInstructions) (packages : List String) (target : ModuleHandle) :
    OpenInstructions :=
  packages.foldl (fun instructions package => instructions.add package target) instructions

def isEmpty (instructions : OpenInstructions) : Bool :=
  instructions.edges.isEmpty

/-- The packages, each with the modules to open it to. -/
def byPackage (instructions : OpenInstructions) : Table String (List ModuleHandle) :=
  instructions.edges.foldl (fun table edge =>
    table.alter edge.1 fun present => addNew (present.getD []) edge.2) .empty

/-- The modules to open a package to; none when the package is not to be opened. -/
def targets? (instructions : OpenInstructions) (package : String) : Option (List ModuleHandle) :=
  instructions.byPackage.get? package

def toRedefinition (instructions : OpenInstructions) : Redefinition :=
  .ofOpens instructions.byPackage

/-- The redefinition adds nothing but opens. -/
def onlyOpens (instructions : OpenInstructions) : Bool :=
  instructions.toRedefinition == Redefinition.ofOpens instructions.toRedefinition.opens

end OpenInstructions

namespace OpenPlan

def empty : OpenPlan := ⟨[], .empty, 0⟩

/-- The position of a module's group, and the plan; a module without a group gets an empty one
at the end. -/
def seat (plan : OpenPlan) (module : ModuleHandle) : Nat × OpenPlan :=
  match plan.index.get? module with
  | some position => (position, plan)
  | none =>
    let position := plan.groups.length
    (position, { plan with
      groups := plan.groups ++ [⟨module, .empty⟩]
      index := plan.index.set module position })

/-- The plan with a request that resolved to `opened` and `opening`. -/
def add (plan : OpenPlan) (request : OpenRequest) (opened opening : ModuleHandle) : OpenPlan :=
  let (position, plan) := plan.seat opened
  { plan with
    groups := plan.groups.modify position fun group =>
      { group with instructions := group.instructions.addEach request.packages opening } }

def skip (plan : OpenPlan) : OpenPlan :=
  { plan with skipped := plan.skipped + 1 }

def get? (plan : OpenPlan) (module : ModuleHandle) : Option OpenInstructions :=
  (plan.index.get? module).bind fun position =>
    plan.groups[position]?.map OpenGroup.instructions

def size (plan : OpenPlan) : Nat :=
  plan.groups.length

/-- The warning that a request is skipped because `name` does not resolve. -/
def skipWarning (name : String) (request : OpenRequest) : Event :=
  .warn ("Module " ++ name ++ " not found, skipping processing of module open request: "
    ++ request.text)

/-- A plan in the making: with the context and the host that were asked for it, and the
warnings so far. -/
structure Draft (σ : Type) where
  plan : OpenPlan
  context : LoaderContext
  host : σ
  events : List Event

variable {σ : Type} [Host σ]

/-- One more request. Its opened module is resolved first; if that fails, the opening one is
not asked for. -/
def Draft.add (draft : Draft σ) (request : OpenRequest) : Draft σ :=
  let opened := draft.context.find draft.host request.opened
  match opened.module with
  | none =>
    ⟨draft.plan.skip, opened.context, opened.host,
      draft.events ++ [skipWarning request.opened request]⟩
  | some openedModule =>
    let opening := opened.context.find opened.host request.opening
    match opening.module with
    | none =>
      ⟨draft.plan.skip, opening.context, opening.host,
        draft.events ++ [skipWarning request.opening request]⟩
    | some openingModule =>
      ⟨draft.plan.add request openedModule openingModule, opening.context, opening.host,
        draft.events⟩

def ofRequests (context : LoaderContext) (host : σ) (requests : List OpenRequest) : Draft σ :=
  requests.foldl Draft.add ⟨empty, context, host, []⟩

end OpenPlan

end ModuleOpens
