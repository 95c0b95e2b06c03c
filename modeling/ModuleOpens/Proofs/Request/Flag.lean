/-
# Proofs.Request.Flag — which requests a flag can ask for, and how they are written

A flag value is cut at its first `=`, what stands before that at its first `/`, and
what stands after it at every `,`. So the parts that come out of a value lack some of
the separators, and not others: a target may hold `/` and `=`, a package `/` and `,`,
a module `,`. `Plain` says which a request must lack, and that it has one package.

* `parse_of_cut`, `parse_of_uncut`: what becomes of a value that is cut, and of one that
  cannot be;
* `parse_eq_ok_iff`: the values that are requests, and which ones;
* `plain_of_parse`: a request that some value asks for is plain;
* `parse_values`: a plain request is read back from the flag that is written for it.
-/
import ModuleOpens.Proofs.Graph.Change
import ModuleOpens.Request.Flag

namespace ModuleOpens

set_option autoImplicit false

/-- A list goes through a computation when every member does. -/
theorem mapM_eq_ok_iff {ε α β : Type} {step : α → Except ε β} {values : List α}
    {results : List β} : values.mapM step = .ok results ↔ values.map step = results.map .ok := by
  induction values generalizing results with
  | nil => cases results <;> simp [pure, Except.pure]
  | cons value rest ih =>
    rw [List.mapM_cons, bind_eq_ok_iff, List.map_cons]
    constructor
    · rintro ⟨first, done, others⟩
      obtain ⟨more, through, ends⟩ := bind_eq_ok_iff.1 others
      cases ends
      rw [List.map_cons, done, ih.1 through]
    · intro each
      cases results with
      | nil => cases each
      | cons first more =>
        rw [List.map_cons, List.cons.injEq] at each
        exact ⟨first, each.1, bind_eq_ok_iff.2 ⟨more, ih.2 each.2, rfl⟩⟩

/-- A list that does not go through has a member that does not. -/
theorem exists_of_mapM_eq_error {ε α β : Type} {step : α → Except ε β} {values : List α}
    {error : ε} (stopped : values.mapM step = .error error) :
    ∃ value ∈ values, step value = .error error := by
  induction values with
  | nil => cases stopped
  | cons value rest ih =>
    rw [List.mapM_cons] at stopped
    rcases bind_eq_error_iff.1 stopped with first | ⟨result, -, later⟩
    · exact ⟨value, List.mem_cons_self, first⟩
    · rcases bind_eq_error_iff.1 later with later | ⟨others, -, impossible⟩
      · obtain ⟨value, member, stops⟩ := ih later
        exact ⟨value, List.mem_cons_of_mem _ member, stops⟩
      · cases impossible

namespace Flag

open Text (trimList splitFirst pieces)

variable {value : String} {request : OpenRequest} {requests : List OpenRequest}

/-! ## Reading -/

/-- What a target asks for carries the module, the package and the trimmed target; none of them
is checked beyond what a request checks. -/
theorem requestFor_eq_ok_iff {module package : String} {target : List Char} :
    requestFor value module package target = .ok request ↔
      request.opened = module ∧ request.opening = String.ofList (trimList target) ∧
        request.packages = [package] := by
  have alone : sortedSet textBefore [package] = [package] := rfl
  unfold requestFor
  dsimp only
  split
  · rename_i missing
    refine ⟨nofun, ?_⟩
    rintro ⟨-, opening, -⟩
    exact absurd (opening.trans missing) request.opening_name.1
  · rw [OpenRequest.make_eq_ok_iff, alone]
    simp

/-- Without the blanks around it, the value is `module/package=targets`, cut at the first equals
sign and before that at the first slash. -/
structure Cut (value : String) (module package targets : List Char) : Prop where
  whole : trimList value.toList = module ++ '/' :: (package ++ '=' :: targets)
  slash : '/' ∉ module
  equals : '=' ∉ module
  later : '=' ∉ package

/-- Of a value that is cut, every target is asked for. -/
theorem parse_of_cut {module package targets : List Char}
    (cut : Cut value module package targets) :
    parse value = (pieces ',' targets).mapM
      (requestFor value (String.ofList module) (String.ofList package)) := by
  have source : '=' ∉ module ++ '/' :: package := by
    simp [cut.equals, cut.later]
  have whole : splitFirst '=' (trimList value.toList) = some (module ++ '/' :: package, targets) :=
    Text.splitFirst_eq_some_iff.2
      ⟨by rw [cut.whole, List.append_assoc, List.cons_append], source⟩
  have parts : splitFirst '/' (module ++ '/' :: package) = some (module, package) :=
    Text.splitFirst_eq_some_iff.2 ⟨rfl, cut.slash⟩
  rw [parse, whole]
  dsimp only
  rw [parts]

/-- A value that cannot be cut is malformed. -/
theorem parse_of_uncut (uncut : ¬ ∃ module package targets, Cut value module package targets) :
    parse value = .error (.malformedFlag value) := by
  unfold parse
  split
  · rfl
  · rename_i source targets whole
    split
    · rfl
    · rename_i module package parts
      obtain ⟨isWhole, free⟩ := Text.splitFirst_eq_some_iff.1 whole
      obtain ⟨rfl, slashless⟩ := Text.splitFirst_eq_some_iff.1 parts
      rw [List.mem_append, List.mem_cons, not_or, not_or] at free
      refine absurd ⟨module, package, targets, ?_, slashless, free.1, free.2.2⟩ uncut
      rw [isWhole, List.append_assoc, List.cons_append]

/-- The values that are requests: those that are cut, when each target asks for one. -/
theorem parse_eq_ok_iff : parse value = .ok requests ↔
    ∃ module package targets, Cut value module package targets ∧
      (pieces ',' targets).map (requestFor value (String.ofList module) (String.ofList package)) =
        requests.map .ok := by
  constructor
  · intro parsed
    by_cases cuts : ∃ module package targets, Cut value module package targets
    · obtain ⟨module, package, targets, cut⟩ := cuts
      rw [parse_of_cut cut] at parsed
      exact ⟨module, package, targets, cut, mapM_eq_ok_iff.1 parsed⟩
    · rw [parse_of_uncut cuts] at parsed
      cases parsed
  · rintro ⟨module, package, targets, cut, each⟩
    rw [parse_of_cut cut]
    exact mapM_eq_ok_iff.2 each

/-! ## Requests that a flag can ask for -/

/-- One package, and separators only where a value is not cut. -/
structure Plain (request : OpenRequest) : Prop where
  slash : '/' ∉ request.opened.toList
  equals : '=' ∉ request.opened.toList
  comma : ',' ∉ request.opening.toList
  package : ∃ package, request.packages = [package] ∧ '=' ∉ package.toList

/-- A request that some value asks for is plain. -/
theorem plain_of_parse (parsed : parse value = .ok requests) (member : request ∈ requests) :
    Plain request := by
  obtain ⟨module, package, targets, cut, each⟩ := parse_eq_ok_iff.1 parsed
  have asked : Except.ok request ∈ (pieces ',' targets).map
      (requestFor value (String.ofList module) (String.ofList package)) := by
    rw [each]
    exact List.mem_map_of_mem member
  obtain ⟨target, isPiece, asked⟩ := List.mem_map.1 asked
  obtain ⟨opened, opening, packages⟩ := requestFor_eq_ok_iff.1 asked
  refine ⟨?_, ?_, ?_, String.ofList package, packages, ?_⟩
  · rw [opened, String.toList_ofList]
    exact cut.slash
  · rw [opened, String.toList_ofList]
    exact cut.equals
  · intro comma
    rw [opening, String.toList_ofList] at comma
    exact Text.not_mem_of_mem_pieces isPiece (Text.mem_of_mem_trimList comma)
  · rw [String.toList_ofList]
    exact cut.later

/-! ## Writing, and reading again -/

/-- A value as it is written loses nothing when it is trimmed. -/
theorem trimList_written {module package target : String} (moduleName : IsName module)
    (packageName : IsName package) (targetName : IsName target) :
    trimList (module ++ "/" ++ package ++ "=" ++ target).toList =
      module.toList ++ '/' :: (package.toList ++ '=' :: target.toList) := by
  have written : (module ++ "/" ++ package ++ "=" ++ target).toList =
      module.toList ++ '/' :: (package.toList ++ '=' :: target.toList) := by
    simp
  rw [written]
  apply Text.trimList_of_forall
  intro c member
  simp only [List.mem_append, List.mem_cons] at member
  rcases member with inModule | rfl | inPackage | rfl | inTarget
  · exact moduleName.2 c inModule
  · decide
  · exact packageName.2 c inPackage
  · decide
  · exact targetName.2 c inTarget

/-- A plain request is written as one flag, and that flag asks for it alone. -/
theorem parse_values (plain : Plain request) : (values request).map parse = [.ok [request]] := by
  obtain ⟨package, packages, equalless⟩ := plain.package
  have packageName : IsName package :=
    request.packages_name package (packages ▸ List.mem_singleton_self package)
  have written := trimList_written request.opened_name packageName request.opening_name
  have target : trimList request.opening.toList = request.opening.toList :=
    Text.trimList_of_forall request.opening_name.2
  rw [values, packages, List.map_singleton, List.map_singleton, List.cons.injEq]
  refine ⟨parse_eq_ok_iff.2
    ⟨_, _, _, ⟨written, plain.slash, plain.equals, equalless⟩, ?_⟩, rfl⟩
  rw [Text.pieces_of_not_mem plain.comma, List.map_singleton, List.map_singleton, List.cons.injEq]
  refine ⟨requestFor_eq_ok_iff.2 ⟨?_, ?_, ?_⟩, rfl⟩
  · rw [String.ofList_toList]
  · rw [target, String.ofList_toList]
  · rw [packages, String.ofList_toList]

end Flag

end ModuleOpens
