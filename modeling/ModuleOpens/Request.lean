/-
# Request — which packages of a module to open, and to whom

A request names a module, the module that its packages are opened to, and the
packages. The name `ALL-UNNAMED` stands for the unnamed module of whichever
loader does the opening. Requests are made by `OpenRequest.make`, which checks
every name; the packages are kept as a strictly increasing list.

* `make_eq_ok_iff`, `exists_make_iff`: which arguments make which request;
* `make_eq_error_iff`: why others make none;
* `make_self`: a request is what its own fields make.
-/
import ModuleOpens.Check
import ModuleOpens.Diagnostic
import ModuleOpens.Sorted

namespace ModuleOpens

set_option autoImplicit false

/-- The opening module that stands for the unnamed module of the loader at hand. -/
def allUnnamed : String := "ALL-UNNAMED"

/-- It is a usable name itself, so a request may say it. -/
theorem isName_allUnnamed : IsName allUnnamed := by
  decide

inductive RequestError where
  /-- A name or the list of packages broke a condition. -/
  | fault (broken : Fault)
  /-- A flag value is not of the form `module/package=target[,target]`. -/
  | malformedFlag (value : String)
  /-- A producer gave this reason. -/
  | refused (reason : String)
  deriving DecidableEq, Repr

/-- The reason alone. -/
def RequestError.detail : RequestError → String
  | .fault broken => broken.message
  | .malformedFlag value =>
    "malformed add-opens value '" ++ value ++ "', expected module/package=target[,target]"
  | .refused reason => reason

instance : Diagnostic RequestError where
  message error := "invalid argument: " ++ error.detail

/-- Open `packages` of the module `opened` to the module `opening`. -/
structure OpenRequest where
  opened : String
  opening : String
  packages : List String
  opened_name : IsName opened
  opening_name : IsName opening
  packages_name : ∀ package ∈ packages, IsName package
  packages_ne_nil : packages ≠ []
  packages_increasing : Increasing textBefore packages
  deriving DecidableEq, Repr

namespace OpenRequest

/-- The fault of the first argument that has one. -/
def firstFault? (opened opening : String) (packages : List String) : Option Fault :=
  (nameFault? "opened module name" opened).or <|
    (nameFault? "opening module name" opening).or <|
      if packages = [] then some (.empty "package names")
      else packages.findSome? (nameFault? "package name")

/-- Arguments without a fault are usable names and at least one package. -/
theorem firstFault?_eq_none_iff {opened opening : String} {packages : List String} :
    firstFault? opened opening packages = none ↔
      IsName opened ∧ IsName opening ∧ packages ≠ [] ∧ ∀ package ∈ packages, IsName package := by
  unfold firstFault?
  rw [Option.or_eq_none_iff, Option.or_eq_none_iff, nameFault?_eq_none_iff, nameFault?_eq_none_iff]
  split
  · simp_all
  · simp_all [nameFault?_eq_none_iff]

/-- The request with these names and the set of these packages. -/
def make (opened opening : String) (packages : List String) : Except RequestError OpenRequest :=
  match h : firstFault? opened opening packages with
  | some fault => .error (.fault fault)
  | none =>
    have names := firstFault?_eq_none_iff.1 h
    .ok {
      opened
      opening
      packages := sortedSet textBefore packages
      opened_name := names.1
      opening_name := names.2.1
      packages_name := fun package hp =>
        names.2.2.2 package ((mem_sortedSet strictOrder_textBefore).1 hp)
      packages_ne_nil := fun hnil => by
        obtain ⟨package, hp⟩ := List.exists_mem_of_ne_nil packages names.2.2.1
        have := (mem_sortedSet strictOrder_textBefore).2 hp
        rw [hnil] at this
        cases this
      packages_increasing := increasing_sortedSet strictOrder_textBefore packages
    }

def toAllUnnamed (opened : String) (packages : List String) : Except RequestError OpenRequest :=
  make opened allUnnamed packages

/-- Two requests with the same names and packages are equal. -/
theorem ext_fields {a b : OpenRequest} (opened : a.opened = b.opened)
    (opening : a.opening = b.opening) (packages : a.packages = b.packages) : a = b := by
  cases a
  cases b
  simp_all

/-- Arguments make a request just when they have no fault; it carries the names
and the set of the packages. -/
theorem make_eq_ok_iff {opened opening : String} {packages : List String} {request : OpenRequest} :
    make opened opening packages = .ok request ↔
      packages ≠ [] ∧ request.opened = opened ∧ request.opening = opening ∧
        request.packages = sortedSet textBefore packages := by
  unfold make
  constructor
  · intro h
    split at h
    · cases h
    · rename_i names
      injection h with h
      subst h
      exact ⟨(firstFault?_eq_none_iff.1 names).2.2.1, rfl, rfl, rfl⟩
  · rintro ⟨nonempty, rfl, rfl, same⟩
    have names : firstFault? request.opened request.opening packages = none :=
      firstFault?_eq_none_iff.2 ⟨request.opened_name, request.opening_name, nonempty,
        fun package hp => request.packages_name package
          (same ▸ (mem_sortedSet strictOrder_textBefore).2 hp)⟩
    split
    · rename_i fault h
      rw [names] at h
      cases h
    · exact congrArg Except.ok (ext_fields rfl rfl same.symm)

/-- Arguments that are usable names, with at least one package, make a request; no others do. -/
theorem exists_make_iff {opened opening : String} {packages : List String} :
    (∃ request, make opened opening packages = .ok request) ↔
      IsName opened ∧ IsName opening ∧ packages ≠ [] ∧ ∀ package ∈ packages, IsName package := by
  rw [← firstFault?_eq_none_iff]
  unfold make
  split
  · rename_i fault h
    simp [h]
  · rename_i none
    exact iff_of_true ⟨_, rfl⟩ none

/-- Arguments that make no request are refused for their first fault. -/
theorem make_eq_error_iff {opened opening : String} {packages : List String}
    {error : RequestError} : make opened opening packages = .error error ↔
      ∃ fault, firstFault? opened opening packages = some fault ∧ error = .fault fault := by
  unfold make
  split
  · rename_i fault h
    simp [h, eq_comm]
  · rename_i none
    simp [none]

/-- A request is what its own fields make. -/
theorem make_self (request : OpenRequest) :
    make request.opened request.opening request.packages = .ok request :=
  make_eq_ok_iff.2 ⟨request.packages_ne_nil, rfl, rfl,
    (sortedSet_eq_self strictOrder_textBefore request.packages_increasing).symm⟩

def opensToUnnamed (request : OpenRequest) : Bool :=
  request.opening == allUnnamed

/-- The packages with their module, as a manifest writes them: `module/package`. -/
def manifestEntries (request : OpenRequest) : List String :=
  request.packages.map fun package => request.opened ++ "/" ++ package

/-- The text of a request: `module/\x7bpackage,package\x7d -> target`. -/
def text (request : OpenRequest) : String :=
  request.opened ++ "/\x7b" ++ ",".intercalate request.packages ++ "\x7d -> " ++ request.opening

/-- By the opened module, then the opening one, then the packages as a list. -/
def order (a b : OpenRequest) : Ordering :=
  (compare a.opened b.opened).then <|
    (compare a.opening b.opening).then (compare a.packages b.packages)

/-- The requests in increasing order; equal ones stay in their order. -/
def sort (requests : List OpenRequest) : List OpenRequest :=
  requests.mergeSort fun a b => (order a b).isLE

end OpenRequest

end ModuleOpens
