/-
# Proofs.Request.Grammar — the values of the flag, told as a grammar

Without the blanks around it, a value is `module/package=target,...,target`. `Shape`
says where the signs may stand: neither in the module, no equals sign in the package,
no comma in a target. So a package and a target may hold signs at which a value is not
cut any more. Blanks around a target are part of it here, and are trimmed when it is
asked for. `Form` adds that the module, the package and the trimmed targets are names,
and that is all a value needs to be accepted.

* `parse_of_shape`: a value of this shape, read target by target;
* `parse_grammar`: the values that are accepted, what they ask for, and what the
  others are refused for.
-/
import Mathlib.Data.List.Forall2
import ModuleOpens.Proofs.Request.Flag
import ModuleOpens.Proofs.Text.Cuts

namespace ModuleOpens.Flag

set_option autoImplicit false

open Text (trimList pieces)

variable {value module package target : String} {targets : List String} {request : OpenRequest}
  {requests : List OpenRequest} {error : RequestError}

/-- The value is `module/package=target,...,target`, with blanks around it. -/
structure Shape (value module package : String) (targets : List String) : Prop where
  written : Text.Trims value (module ++ "/" ++ package ++ "=" ++ ",".intercalate targets)
  some : targets ≠ []
  slash : '/' ∉ module.toList
  equals : '=' ∉ module.toList
  later : '=' ∉ package.toList
  comma : ∀ target ∈ targets, ',' ∉ target.toList

/-- A value of this shape whose parts are names, those of the targets with blanks around them. -/
structure Form (value module package : String) (targets : List String) : Prop
    extends Shape value module package targets where
  module_name : IsName module
  package_name : IsName package
  target_name : ∀ target ∈ targets, ∃ name, Text.Trims target name ∧ IsName name

/-- The request that opens one package of a module to a target, without the blanks around it. -/
structure AsksFor (module package target : String) (request : OpenRequest) : Prop where
  opened : request.opened = module
  opening : Text.Trims target request.opening
  packages : request.packages = [package]

/-! ## Shapes -/

/-- The pieces of joined targets are the targets. -/
theorem pieces_joined (some : targets ≠ []) (comma : ∀ target ∈ targets, ',' ∉ target.toList) :
    pieces ',' (",".intercalate targets).toList = targets.map String.toList := by
  rw [Text.pieces_eq_iff, String.toList_intercalate]
  refine ⟨by simpa using some, rfl, fun part member => ?_⟩
  obtain ⟨target, isTarget, rfl⟩ := List.mem_map.1 member
  exact comma target isTarget

theorem Shape.cut (shape : Shape value module package targets) :
    Cut value module.toList package.toList (",".intercalate targets).toList where
  whole := by
    rw [Text.trims_iff.1 shape.written]
    simp
  slash := shape.slash
  equals := shape.equals
  later := shape.later

/-- A value that is cut has the shape of its parts. -/
theorem Cut.shape {module package targets : List Char} (cut : Cut value module package targets) :
    Shape value (.ofList module) (.ofList package) ((pieces ',' targets).map .ofList) := by
  obtain ⟨some, joined, free⟩ := Text.pieces_eq_iff.1 (Eq.refl (pieces ',' targets))
  have whole : (",".intercalate ((pieces ',' targets).map String.ofList)).toList = targets := by
    rw [String.toList_intercalate, List.map_map]
    simpa [Function.comp_def] using joined.symm
  refine ⟨Text.trims_iff.2 ?_, by simpa using some, ?_, ?_, ?_, fun target member => ?_⟩
  · rw [cut.whole]
    simp [whole]
  · rw [String.toList_ofList]
    exact cut.slash
  · rw [String.toList_ofList]
    exact cut.equals
  · rw [String.toList_ofList]
    exact cut.later
  · obtain ⟨piece, isPiece, rfl⟩ := List.mem_map.1 member
    rw [String.toList_ofList]
    exact free piece isPiece

theorem parse_of_shape (shape : Shape value module package targets) :
    parse value = targets.mapM fun target => requestFor value module package target.toList := by
  rw [parse_of_cut shape.cut, pieces_joined shape.some shape.comma, List.mapM_map,
    String.ofList_toList, String.ofList_toList]
  rfl

theorem parse_of_shapeless (shapeless : ¬ ∃ module package targets, Shape value module package targets) :
    parse value = .error (.malformedFlag value) := by
  refine parse_of_uncut ?_
  rintro ⟨module, package, targets, cut⟩
  exact shapeless ⟨_, _, _, cut.shape⟩

/-! ## Targets -/

theorem requestFor_eq_ok_iff_asksFor : requestFor value module package target.toList = .ok request ↔
    AsksFor module package target request := by
  rw [requestFor_eq_ok_iff]
  constructor
  · rintro ⟨opened, opening, packages⟩
    exact ⟨opened, Text.trims_iff.2 (by rw [opening, String.toList_ofList]), packages⟩
  · rintro ⟨opened, opening, packages⟩
    refine ⟨opened, ?_, packages⟩
    rw [Text.trims_iff.1 opening, String.ofList_toList]

/-- A target can be asked for when it is a name with blanks around it, and module and package are
names. -/
theorem exists_asksFor_iff : (∃ request, AsksFor module package target request) ↔
    IsName module ∧ IsName package ∧ ∃ name, Text.Trims target name ∧ IsName name := by
  constructor
  · rintro ⟨request, rfl, trims, packages⟩
    exact ⟨request.opened_name,
      request.packages_name package (packages ▸ List.mem_singleton_self package),
      request.opening, trims, request.opening_name⟩
  · rintro ⟨module_name, package_name, name, trims, isName⟩
    obtain ⟨request, made⟩ := OpenRequest.exists_make_iff.2
      ⟨module_name, isName, List.cons_ne_nil package [], List.forall_mem_singleton.2 package_name⟩
    obtain ⟨-, opened, opening, packages⟩ := OpenRequest.make_eq_ok_iff.1 made
    exact ⟨request, opened, opening ▸ trims, packages⟩

/-- A target is refused as malformed, or for the fault of a name. -/
theorem requestFor_refusal {target : List Char}
    (refused : requestFor value module package target = .error error) :
    error = .malformedFlag value ∨ ∃ fault, error = .fault fault := by
  unfold requestFor at refused
  dsimp only at refused
  split at refused
  · cases refused
    exact .inl rfl
  · obtain ⟨fault, -, rfl⟩ := OpenRequest.make_eq_error_iff.1 refused
    exact .inr ⟨fault, rfl⟩

/-! ## Values -/

/-- Every member of a list has a partner just when the list has a list of partners. -/
theorem exists_forall₂_iff {α β : Type} {related : α → β → Prop} {values : List α} :
    (∃ partners, List.Forall₂ related values partners) ↔
      ∀ value ∈ values, ∃ partner, related value partner := by
  induction values with
  | nil => simp
  | cons value rest ih =>
    rw [List.forall_mem_cons, ← ih]
    constructor
    · rintro ⟨_, _ | ⟨first, others⟩⟩
      exact ⟨⟨_, first⟩, _, others⟩
    · rintro ⟨⟨partner, first⟩, partners, others⟩
      exact ⟨partner :: partners, .cons first others⟩

theorem parse_eq_ok_iff_of_shape (shape : Shape value module package targets) :
    parse value = .ok requests ↔ List.Forall₂ (AsksFor module package) targets requests := by
  rw [parse_of_shape shape, mapM_eq_ok_iff, ← List.forall₂_eq_eq_eq, List.forall₂_map_left_iff,
    List.forall₂_map_right_iff]
  simp only [requestFor_eq_ok_iff_asksFor]

/-- The parts are names when the targets can be asked for, of which there is one at least. -/
theorem form_iff : Form value module package targets ↔ Shape value module package targets ∧
    ∃ requests, List.Forall₂ (AsksFor module package) targets requests := by
  simp only [exists_forall₂_iff, exists_asksFor_iff]
  constructor
  · intro form
    exact ⟨form.toShape,
      fun target member => ⟨form.module_name, form.package_name, form.target_name target member⟩⟩
  · rintro ⟨shape, each⟩
    obtain ⟨target, member⟩ := List.exists_mem_of_ne_nil targets shape.some
    obtain ⟨module_name, package_name, -⟩ := each target member
    exact ⟨shape, module_name, package_name, fun target member => (each target member).2.2⟩

theorem exists_form (parsed : parse value = .ok requests) :
    ∃ module package targets, Form value module package targets := by
  by_cases shapes : ∃ module package targets, Shape value module package targets
  · obtain ⟨module, package, targets, shape⟩ := shapes
    exact ⟨module, package, targets,
      form_iff.2 ⟨shape, requests, (parse_eq_ok_iff_of_shape shape).1 parsed⟩⟩
  · rw [parse_of_shapeless shapes] at parsed
    cases parsed

theorem refusal_of_error (refused : parse value = .error error) :
    error = .malformedFlag value ∨ ∃ fault, error = .fault fault := by
  by_cases shapes : ∃ module package targets, Shape value module package targets
  · obtain ⟨module, package, targets, shape⟩ := shapes
    rw [parse_of_shape shape] at refused
    obtain ⟨target, -, refused⟩ := exists_of_mapM_eq_error refused
    exact requestFor_refusal refused
  · rw [parse_of_shapeless shapes] at refused
    cases refused
    exact .inl rfl

/-- A value is accepted just when it is of the form `module/package=target,...,target`; then it asks
for one request per target, in their order. Every other value is refused as malformed, or for the
fault of a name. -/
theorem parse_grammar (value : String) :
    ((∃ requests, parse value = .ok requests) ↔
      ∃ module package targets, Form value module package targets) ∧
    (∀ module package targets, Form value module package targets → ∃ requests,
      parse value = .ok requests ∧ List.Forall₂ (AsksFor module package) targets requests) ∧
    ((¬ ∃ module package targets, Form value module package targets) → ∃ error,
      parse value = .error error ∧
        (error = .malformedFlag value ∨ ∃ fault, error = .fault fault)) := by
  have reads : ∀ module package targets, Form value module package targets → ∃ requests,
      parse value = .ok requests ∧ List.Forall₂ (AsksFor module package) targets requests := by
    intro module package targets form
    obtain ⟨shape, requests, asked⟩ := form_iff.1 form
    exact ⟨requests, (parse_eq_ok_iff_of_shape shape).2 asked, asked⟩
  refine ⟨⟨?_, ?_⟩, reads, fun formless => ?_⟩
  · rintro ⟨requests, parsed⟩
    exact exists_form parsed
  · rintro ⟨module, package, targets, form⟩
    obtain ⟨requests, parsed, -⟩ := reads module package targets form
    exact ⟨requests, parsed⟩
  · cases parsed : parse value with
    | ok requests => exact absurd (exists_form parsed) formless
    | error error => exact ⟨error, rfl, refusal_of_error parsed⟩

/-- Signs that come later stay in the package and in the target; a comma at the end is followed by
a target that is no name. -/
example :
    (parse " m/p/q= t ,u=v").toOption.map (·.map fun request => (request.packages, request.opening))
      = some [(["p/q"], "t"), (["p/q"], "u=v")] ∧ (parse "m/p=t,").toOption = none := by
  decide

end ModuleOpens.Flag
