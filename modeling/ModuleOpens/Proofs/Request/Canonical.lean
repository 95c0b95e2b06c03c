/-
# Proofs.Request.Canonical — requests in JSON have a checked, canonical form

A document tells of a request which module to open, to which one, and which packages
(`Describes`): the first and the last must be there, each known member comes once at
most, other members may stand anywhere between them, and the order does not matter. A
text that states so much is a request just when the three are fit for one; what it is
written as again depends on the modules and on the set of packages alone.

* `ofJson_toJson`: a request is read back from what is written for it;
* `ofJson_of_states`, `exists_states_of_ofJson`: a text is read as what it states, checked;
* `validated_canonical_form`: both, and when two texts are written the same.
-/
import ModuleOpens.Proofs.Document.Fields
import ModuleOpens.Proofs.Document.JsonReadBack
import ModuleOpens.Request.Codec

namespace ModuleOpens.OpenRequest

set_option autoImplicit false

open Document (ofText ofTexts valuesOf)

/-- What is asked for, not checked yet. -/
structure Unchecked where
  opened : String
  /-- None when it is not named. -/
  opening : Option String
  packages : List String

namespace Unchecked

/-- The opening module, `ALL-UNNAMED` when it is not named. -/
def openingName (asked : Unchecked) : String :=
  asked.opening.getD allUnnamed

/-- The request, if the names and the packages are fit for one. -/
def check (asked : Unchecked) : Except RequestError OpenRequest :=
  make asked.opened asked.openingName asked.packages

/-- Two requests are the same when their modules are, and their sets of packages. -/
theorem check_eq_iff {asked other : Unchecked} {a b : OpenRequest} (made : asked.check = .ok a)
    (made' : other.check = .ok b) :
    a = b ↔ asked.opened = other.opened ∧ asked.openingName = other.openingName ∧
      ∀ package, package ∈ asked.packages ↔ package ∈ other.packages := by
  obtain ⟨-, opened, opening, packages⟩ := make_eq_ok_iff.1 made
  obtain ⟨-, opened', opening', packages'⟩ := make_eq_ok_iff.1 made'
  rw [← sortedSet_eq_iff strictOrder_textBefore, ← opened, ← opened', ← opening, ← opening',
    ← packages, ← packages']
  constructor
  · rintro rfl
    exact ⟨rfl, rfl, rfl⟩
  · rintro ⟨opened, opening, packages⟩
    exact ext_fields opened opening packages

end Unchecked

variable {document : Document} {asked : Unchecked} {opened opening text : String}
  {packages : List String} {request : OpenRequest}

/-- The document is a record that gives both modules and the packages, or the list of the three. -/
inductive Describes : Document → Unchecked → Prop
  | record {members : List (Option String × Document)} {asked : Unchecked}
    (keyed : ∀ member ∈ members, member.1 ≠ none)
    (opened : valuesOf "opened_module" members = [ofText asked.opened])
    (opening : valuesOf "opening_module" members = (asked.opening.map ofText).toList)
    (packages : valuesOf "packages" members = [ofTexts asked.packages]) :
    Describes (.record members) asked
  | list (opened opening : String) (packages : List String) :
    Describes (.list [ofText opened, ofText opening, ofTexts packages]) ⟨opened, opening, packages⟩

/-- The text is JSON for what is asked for. -/
def States (text : String) (asked : Unchecked) : Prop :=
  ∃ document, Json.parse text = some document ∧ Describes document asked

/-! ## Documents -/

/-- The three fields, when they are found. -/
theorem arguments?_eq_some_iff_fields : arguments? document = some (opened, opening, packages) ↔
    ∃ fields, document.fields? .json fieldNames = some fields ∧
      fields.get? "opened_module" = some (ofText opened) ∧
      (fields.get? "opening_module" = some (ofText opening) ∨
        fields.get? "opening_module" = none ∧ allUnnamed = opening) ∧
      fields.get? "packages" = some (ofTexts packages) := by
  simp only [arguments?, Fields.readRequired, Fields.readOr, Option.bind_eq_bind,
    Option.bind_eq_some_iff, Fields.read_eq_some_iff, Document.asText?_eq_some_iff,
    Document.asList?_asText?_eq_some_iff]
  simp only [reduceCtorEq, and_false, or_false, exists_eq_right, Option.some.injEq, pure,
    Prod.mk.injEq]
  constructor
  · rintro ⟨fields, read, _, isOpened, _, isOpening, _, arePackages, rfl, rfl, rfl⟩
    exact ⟨fields, read, isOpened, isOpening, arePackages⟩
  · rintro ⟨fields, read, isOpened, isOpening, arePackages⟩
    exact ⟨fields, read, _, isOpened, _, isOpening, _, arePackages, rfl, rfl, rfl⟩

/-- A list asks for what its items say, which must be all three. -/
theorem arguments?_list_eq_some_iff {items : List Document} :
    arguments? (.list items) = some (opened, opening, packages) ↔
      items = [ofText opened, ofText opening, ofTexts packages] := by
  rw [arguments?_eq_some_iff_fields]
  constructor
  · rintro ⟨fields, read, isOpened, isOpening, arePackages⟩
    match items with
    -- with fewer items no packages are found, and more are refused
    | [] | [_] | [_, _] =>
      cases read
      cases arePackages
    | [first, second, third] =>
      cases read
      cases isOpened
      cases arePackages
      rcases isOpening with given | ⟨missing, -⟩
      · cases given
        rfl
      · cases missing
    | _ :: _ :: _ :: _ :: _ =>
      rw [Document.fields?, Document.positionalFields, if_pos ⟨rfl, by simp [fieldNames]⟩] at read
      cases read
  · rintro rfl
    exact ⟨_, rfl, rfl, .inl rfl, rfl⟩

/-- A record asks for what its members say, whichever way they are arranged. -/
theorem arguments?_record_eq_some_iff {members : List (Option String × Document)} :
    arguments? (.record members) = some (opened, opening, packages) ↔
      (∀ member ∈ members, member.1 ≠ none) ∧
        valuesOf "opened_module" members = [ofText opened] ∧
        (valuesOf "opening_module" members = [ofText opening] ∨
          valuesOf "opening_module" members = [] ∧ allUnnamed = opening) ∧
        valuesOf "packages" members = [ofTexts packages] := by
  rw [arguments?_eq_some_iff_fields]
  constructor
  · rintro ⟨fields, read, isOpened, isOpening, arePackages⟩
    have keyed := (Document.exists_fields?_iff.1 ⟨fields, read⟩).1
    have found {name : String} (known : name ∈ fieldNames) :
        valuesOf name members = (fields.get? name).toList :=
      (Document.get?_of_fields? read known).symm
    rw [found (by decide), found (by decide), found (by decide), isOpened, arePackages]
    refine ⟨keyed, rfl, ?_, rfl⟩
    rcases isOpening with given | ⟨missing, same⟩
    · rw [given]
      exact .inl rfl
    · rw [missing]
      exact .inr ⟨rfl, same⟩
  · rintro ⟨keyed, isOpened, isOpening, arePackages⟩
    have once : ∀ name ∈ fieldNames, (valuesOf name members).length ≤ 1 := by
      simp only [fieldNames, List.forall_mem_cons, isOpened, arePackages]
      refine ⟨Nat.le_refl 1, ?_, Nat.le_refl 1, by simp⟩
      rcases isOpening with given | ⟨missing, -⟩
      · rw [given]
        exact Nat.le_refl 1
      · rw [missing]
        exact Nat.zero_le 1
    obtain ⟨fields, read⟩ := Document.exists_fields?_iff.2 ⟨keyed, once⟩
    have found {name : String} (known : name ∈ fieldNames) :
        (fields.get? name).toList = valuesOf name members :=
      Document.get?_of_fields? read known
    refine ⟨fields, read, ?_, ?_, ?_⟩
    · simpa using (found (by decide)).trans isOpened
    · refine isOpening.imp (fun given => ?_) (And.imp_left fun missing => ?_)
      · simpa using (found (by decide)).trans given
      · simpa using (found (by decide)).trans missing
    · simpa using (found (by decide)).trans arePackages

/-- The arguments of a document are what it describes, the opening module being filled in. -/
theorem arguments?_of_describes (describes : Describes document asked) :
    arguments? document = some (asked.opened, asked.openingName, asked.packages) := by
  cases describes with
  | record keyed isOpened isOpening arePackages =>
    refine arguments?_record_eq_some_iff.2 ⟨keyed, isOpened, ?_, arePackages⟩
    rw [isOpening, Unchecked.openingName]
    cases asked.opening with
    | none => exact .inr ⟨rfl, rfl⟩
    | some opening => exact .inl rfl
  | list opened opening packages => exact arguments?_list_eq_some_iff.2 rfl

/-- A document without a description has no arguments. -/
theorem exists_describes_of_arguments?
    (read : arguments? document = some (opened, opening, packages)) :
    ∃ asked, Describes document asked ∧ asked.opened = opened ∧
      asked.openingName = opening ∧ asked.packages = packages := by
  match document with
  | .record members =>
    obtain ⟨keyed, isOpened, isOpening, arePackages⟩ := arguments?_record_eq_some_iff.1 read
    rcases isOpening with given | ⟨missing, same⟩
    · exact ⟨⟨opened, some opening, packages⟩, .record keyed isOpened given arePackages,
        rfl, rfl, rfl⟩
    · exact ⟨⟨opened, none, packages⟩, .record keyed isOpened missing arePackages,
        rfl, same, rfl⟩
  | .list items =>
    obtain rfl := arguments?_list_eq_some_iff.1 read
    exact ⟨_, .list opened opening packages, rfl, rfl, rfl⟩

/-! ## Texts -/

/-- A text is read as what it states, if that is fit for a request. -/
theorem ofJson_of_states (states : States text asked) :
    ofJson text = asked.check.mapError .invalid := by
  obtain ⟨document, parsed, describes⟩ := states
  obtain ⟨rest, read, ended⟩ := Json.parse_eq_some_iff.1 parsed
  simp only [ofJson, read, arguments?_of_describes describes, ended, if_true, Unchecked.check]
  cases make asked.opened asked.openingName asked.packages <;> rfl

/-- A text that is read states what was asked for. -/
theorem exists_states_of_ofJson (read : ofJson text = .ok request) :
    ∃ asked, States text asked ∧ asked.check = .ok request := by
  unfold ofJson at read
  split at read
  · cases read
  · rename_i document rest first
    split at read
    · cases read
    · rename_i opened opening packages arguments
      split at read
      · cases read
      · rename_i made made_eq
        split at read
        · rename_i ended
          cases read
          obtain ⟨asked, describes, rfl, rfl, rfl⟩ := exists_describes_of_arguments? arguments
          exact ⟨asked, ⟨document, Json.parse_eq_some_iff.2 ⟨rest, first, ended⟩, describes⟩,
            made_eq⟩
        · cases read

/-- No text of a request is without content. -/
theorem exact_toDocument (request : OpenRequest) : request.toDocument.Exact := by
  refine .members ?_
  simp only [List.forall_mem_cons]
  exact ⟨.text _, .text _, Document.exact_ofTexts _, by simp⟩

/-- What is written for a request names its modules and its packages. -/
theorem states_toJson (request : OpenRequest) :
    States request.toJson ⟨request.opened, some request.opening, request.packages⟩ :=
  ⟨request.toDocument, Json.parse_compact request.exact_toDocument,
    .record (Document.keyed_ofMembers _) rfl rfl rfl⟩

/-- A request is read back from what is written for it. -/
theorem ofJson_toJson (request : OpenRequest) : ofJson request.toJson = .ok request := by
  rw [ofJson_of_states request.states_toJson]
  exact congrArg (Except.mapError ReadError.invalid) request.make_self

theorem toJson_injective : Function.Injective toJson := by
  intro a b same
  have back := a.ofJson_toJson
  rw [same, b.ofJson_toJson] at back
  exact (Except.ok.inj back).symm

/-- The JSON form of a request is a canonical one, and checked.

A request is read back from what is written for it. Every request that is read is one that its
text asks for and that passes the checks: its modules and packages are usable names, and there
is a package. A text that asks for something is refused just for the fault that `make` finds
in it, when the opening module is `ALL-UNNAMED` unless it is named. Two texts that are read are
written the same again just when they ask for the same opened module, the same opening module
and the same set of packages. -/
theorem validated_canonical_form :
    (∀ request, ofJson (toJson request) = .ok request) ∧
    (∀ text request, ofJson text = .ok request →
      (IsName request.opened ∧ IsName request.opening ∧ request.packages ≠ [] ∧
        ∀ package ∈ request.packages, IsName package) ∧
      ∃ asked, States text asked ∧
        make asked.opened (asked.opening.getD allUnnamed) asked.packages = .ok request) ∧
    (∀ text asked, States text asked →
      ofJson text = (make asked.opened (asked.opening.getD allUnnamed) asked.packages).mapError
        .invalid) ∧
    ∀ text text' asked asked' request request', States text asked → States text' asked' →
      ofJson text = .ok request → ofJson text' = .ok request' →
      (request.toJson = request'.toJson ↔ asked.opened = asked'.opened ∧
        asked.opening.getD allUnnamed = asked'.opening.getD allUnnamed ∧
        ∀ package, package ∈ asked.packages ↔ package ∈ asked'.packages) := by
  refine ⟨ofJson_toJson, fun text request read => ?_, fun text asked => ofJson_of_states,
    fun text text' asked asked' request request' states states' read read' => ?_⟩
  · exact ⟨⟨request.opened_name, request.opening_name, request.packages_ne_nil,
      request.packages_name⟩, exists_states_of_ofJson read⟩
  · have made {text asked request} (states : States text asked) (read : ofJson text = .ok request) :
        asked.check = .ok request := by
      rw [ofJson_of_states states] at read
      cases checked : asked.check with
      | ok found =>
        rw [checked] at read
        exact congrArg Except.ok (Except.ok.inj read)
      | error fault =>
        rw [checked] at read
        cases read
    rw [toJson_injective.eq_iff]
    exact Unchecked.check_eq_iff (made states read) (made states' read')

end ModuleOpens.OpenRequest
