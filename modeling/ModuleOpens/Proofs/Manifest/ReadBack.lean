/-
# Proofs.Manifest.ReadBack — the attribute value, taken apart again

The value joins its entries by spaces, and an entry joins a module and a package
by a slash. A name holds no blank, so the spaces part the entries again
(`shown_ofRequests`). But a name may hold a slash: an entry is cut at its first
one, which is the one between module and package just when the module's name has
none (`readPair?_entryText_iff`).

* `shown_reads_back_iff`: the pairs of the requests are read back, all of them and
  nothing else, just when no request opens a module with a slash in its name;
* `not_nodup_shown_of_slash`: with such names, two pairs may even show as one entry.
-/
import Mathlib.Data.List.Nodup
import Mathlib.Data.Option.Basic
import ModuleOpens.Manifest
import ModuleOpens.Proofs.Text.Words

namespace ModuleOpens

set_option autoImplicit false

namespace Requirements

/-- The entries that the attribute shows, between its spaces; none, when there is no value. -/
def shown (requirements : Requirements) : List String :=
  match requirements.value? with
  | none => []
  | some value => (value.toList.splitOn ' ').map String.ofList

/-- The module and the package of an entry, before and after its first slash. -/
def readPair? (entry : String) : Option (String × String) :=
  (Text.splitFirst '/' entry.toList).map fun parts =>
    (String.ofList parts.1, String.ofList parts.2)

variable {requests : List OpenRequest} {pair : String × String}

/-! ## The entries -/

/-- The entries are the pairs of the requests. -/
theorem mem_entries : pair ∈ (ofRequests requests).entries ↔
    ∃ request ∈ requests, pair.1 = request.opened ∧ pair.2 ∈ request.packages := by
  rw [ofRequests, mem_sortedSet strictOrder_textPairBefore, List.mem_flatMap]
  apply exists_congr
  intro request
  apply and_congr_right
  intro _
  rw [pairs, List.mem_map]
  constructor
  · rintro ⟨package, member, rfl⟩
    exact ⟨rfl, member⟩
  · rintro ⟨opened, member⟩
    exact ⟨pair.2, member, Prod.ext opened.symm rfl⟩

theorem nodup_entries (requests : List OpenRequest) : (ofRequests requests).entries.Nodup := by
  have increasing := increasing_sortedSet strictOrder_textPairBefore (requests.flatMap pairs)
  refine List.Pairwise.imp ?_ increasing
  rintro first second before rfl
  rw [strictOrder_textPairBefore.irreflexive] at before
  cases before

/-- What the requests open, module and package, are names. -/
theorem isName_of_mem_entries (member : pair ∈ (ofRequests requests).entries) :
    IsName pair.1 ∧ IsName pair.2 := by
  obtain ⟨request, -, opened, package⟩ := mem_entries.1 member
  rw [opened]
  exact ⟨request.opened_name, request.packages_name pair.2 package⟩

/-! ## Their texts -/

theorem toList_entryText (pair : String × String) :
    (entryText pair).toList = pair.1.toList ++ '/' :: pair.2.toList := by
  simp [entryText]

theorem space_not_mem_entryText (member : pair ∈ (ofRequests requests).entries) :
    ' ' ∉ (entryText pair).toList := by
  obtain ⟨module, package⟩ := isName_of_mem_entries member
  have inModule := space_not_mem_of_isName module
  have inPackage := space_not_mem_of_isName package
  simp [toList_entryText, inModule, inPackage]

/-- The spaces of the value part the texts of the entries. -/
theorem shown_ofRequests (requests : List OpenRequest) :
    (ofRequests requests).shown = (ofRequests requests).entries.map entryText := by
  have spaceless : ∀ text ∈ (ofRequests requests).entries.map entryText, ' ' ∉ text.toList := by
    intro text isText
    obtain ⟨pair, member, rfl⟩ := List.mem_map.1 isText
    exact space_not_mem_entryText member
  unfold shown value? isEmpty
  cases entries : (ofRequests requests).entries with
  | nil => rfl
  | cons first rest =>
    rw [entries] at spaceless
    exact Text.words_intercalate (by simp) spaceless

/-! ## Reading an entry -/

/-- A module that is read has no slash in its name. -/
theorem slash_not_mem_of_readPair? {entry : String} (read : readPair? entry = some pair) :
    '/' ∉ pair.1.toList := by
  obtain ⟨⟨before, after⟩, split, rfl⟩ := Option.map_eq_some_iff.1 read
  rw [String.toList_ofList]
  exact (Text.splitFirst_eq_some_iff.1 split).2

/-- A pair is read from its text just when the module has no slash in its name. -/
theorem readPair?_entryText_iff :
    readPair? (entryText pair) = some pair ↔ '/' ∉ pair.1.toList := by
  refine ⟨slash_not_mem_of_readPair?, fun slashless => ?_⟩
  have split : Text.splitFirst '/' (entryText pair).toList =
      some (pair.1.toList, pair.2.toList) :=
    Text.splitFirst_eq_some_iff.2 ⟨toList_entryText pair, slashless⟩
  rw [readPair?, split]
  simp

/-- Every entry is read back as the pair that it is the text of, when no module has a slash. -/
theorem map_readPair?_shown (slashless : ∀ request ∈ requests, '/' ∉ request.opened.toList) :
    (ofRequests requests).shown.map readPair? = (ofRequests requests).entries.map some := by
  rw [shown_ofRequests, List.map_map]
  apply List.map_congr_left
  intro pair member
  obtain ⟨request, isRequest, opened, -⟩ := mem_entries.1 member
  exact readPair?_entryText_iff.2 (opened ▸ slashless request isRequest)

/-- The attribute shows as many entries as there are pairs. Read back, they are the pairs of the
requests, and nothing else, just when no request opens a module with a slash in its name; and then
no entry comes twice, and each is read back as the pair in its place. -/
theorem shown_reads_back_iff (requests : List OpenRequest) :
    let requirements := ofRequests requests
    let slashless := ∀ request ∈ requests, '/' ∉ request.opened.toList
    requirements.shown.length = requirements.size ∧
      ((∀ pair, some pair ∈ requirements.shown.map readPair? ↔
          ∃ request ∈ requests, pair.1 = request.opened ∧ pair.2 ∈ request.packages) ↔
        slashless) ∧
      (slashless → requirements.shown.Nodup ∧
        requirements.shown.map readPair? = requirements.entries.map some) := by
  intro requirements slashless
  refine ⟨?_, ⟨?_, ?_⟩, ?_⟩
  · rw [shown_ofRequests, List.length_map]
    rfl
  · intro same request isRequest
    obtain ⟨package, isPackage⟩ := List.exists_mem_of_ne_nil _ request.packages_ne_nil
    have read := (same (request.opened, package)).2 ⟨request, isRequest, rfl, isPackage⟩
    obtain ⟨entry, -, read⟩ := List.mem_map.1 read
    exact slash_not_mem_of_readPair? read
  · intro free pair
    rw [map_readPair?_shown free, List.mem_map_of_injective (Option.some_injective _)]
    exact mem_entries
  · intro free
    have read := map_readPair?_shown free
    refine ⟨?_, read⟩
    apply List.Nodup.of_map readPair?
    rw [read]
    exact (nodup_entries requests).map (Option.some_injective _)

/-- A request to open one package of a module to the loader at hand. -/
def single (opened package : String) (openedName : IsName opened) (packageName : IsName package) :
    OpenRequest where
  opened
  opening := allUnnamed
  packages := [package]
  opened_name := openedName
  opening_name := isName_allUnnamed
  packages_name := List.forall_mem_singleton.2 packageName
  packages_ne_nil := List.cons_ne_nil _ _
  packages_increasing := List.pairwise_singleton _ _

/-- The package `c` of the module `a/b` and the package `b/c` of the module `a` show as the same
entry, and the first of them is not read back. -/
theorem not_nodup_shown_of_slash :
    let first := single "a/b" "c" (by decide) (by decide)
    let second := single "a" "b/c" (by decide) (by decide)
    let shown := (ofRequests [first, second]).shown
    (ofRequests [first, second]).size = 2 ∧ ¬ shown.Nodup ∧
      some ("a/b", "c") ∉ shown.map readPair? := by
  decide

end Requirements

end ModuleOpens
