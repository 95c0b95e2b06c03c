/-
# Proofs.Manifest.Value — the attribute value depends on the pairs alone

The entries of some requests are the pairs of module and package that they open, in
increasing order. There is only one such list for a set of pairs, so the order of the
requests, repetitions among them, how packages are spread over requests of one module,
and whom they open to are not seen in the value (`value?_congr`). The order is the one
of the pairs, module first; the texts `module/package` may stand in another one,
because a name may go on with a character that comes before the slash.

* `increasing_entries`: the order, said of the names;
* `value?_ofRequests`: the value is the texts of the entries, with spaces between them;
* `value_of_pairs`: all of this in one.
-/
import ModuleOpens.Proofs.Manifest.ReadBack

namespace ModuleOpens

set_option autoImplicit false

theorem textPairBefore_iff {a b : String × String} :
    textPairBefore a b = true ↔ a.1 < b.1 ∨ a.1 = b.1 ∧ a.2 < b.2 := by
  simp [textPairBefore, textBefore]

namespace Requirements

/-- The pairs of module and package that some requests open. -/
def opensOf (requests : List OpenRequest) : Set (String × String) :=
  {pair | ∃ request ∈ requests, pair.1 = request.opened ∧ pair.2 ∈ request.packages}

variable {requests others : List OpenRequest}

theorem increasing_entries (requests : List OpenRequest) :
    (ofRequests requests).entries.Pairwise fun a b => a.1 < b.1 ∨ a.1 = b.1 ∧ a.2 < b.2 :=
  (increasing_sortedSet strictOrder_textPairBefore (requests.flatMap pairs)).imp
    textPairBefore_iff.1

/-- Every request opens a package, so only no requests open none. -/
theorem entries_eq_nil_iff : (ofRequests requests).entries = [] ↔ requests = [] := by
  constructor
  · intro empty
    cases requests with
    | nil => rfl
    | cons request rest =>
      obtain ⟨package, isPackage⟩ := List.exists_mem_of_ne_nil _ request.packages_ne_nil
      have member : (request.opened, package) ∈ (ofRequests (request :: rest)).entries :=
        mem_entries.2 ⟨request, List.mem_cons_self, rfl, isPackage⟩
      rw [empty] at member
      cases member
  · rintro rfl
    rfl

theorem value?_ofRequests (nonempty : requests ≠ []) : (ofRequests requests).value? =
    some (" ".intercalate ((ofRequests requests).entries.map entryText)) := by
  have filled : (ofRequests requests).isEmpty = false := by
    rw [isEmpty, List.isEmpty_eq_false_iff]
    exact fun empty => nonempty (entries_eq_nil_iff.1 empty)
  rw [value?, filled]
  rfl

/-- Requests that open the same pairs have the same entries, and so the same value. -/
theorem value?_congr (same : opensOf others = opensOf requests) :
    (ofRequests others).value? = (ofRequests requests).value? := by
  have entries : (ofRequests others).entries = (ofRequests requests).entries := by
    refine eq_of_mem_iff strictOrder_textPairBefore
      (increasing_sortedSet strictOrder_textPairBefore _)
      (increasing_sortedSet strictOrder_textPairBefore _) fun pair => ?_
    exact mem_entries.trans ((Set.ext_iff.1 same pair).trans mem_entries.symm)
  rw [show ofRequests others = ofRequests requests from congrArg Requirements.mk entries]

/-- A dot comes before a slash: the module `java.base` comes before `java.base.extra`, and the
texts of their entries the other way round. -/
theorem not_increasing_entryText :
    let longer := single "java.base.extra" "a.pkg" (by decide) (by decide)
    let shorter := single "java.base" "z.pkg" (by decide) (by decide)
    ¬ ((ofRequests [longer, shorter]).entries.map entryText).Pairwise (· < ·) := by
  decide

/-- There is no value just when there are no requests. Otherwise it is the text of every pair that
they open, each once, in increasing order of module and then package, with spaces between them. So
it depends on the set of the pairs alone; and it is not the order of the texts. -/
theorem value_of_pairs (requests : List OpenRequest) :
    let requirements := ofRequests requests
    (requirements.value? = none ↔ requests = []) ∧
      (∃ pairs : List (String × String), pairs.Nodup ∧
        (∀ pair, pair ∈ pairs ↔ pair ∈ opensOf requests) ∧
        (pairs.Pairwise fun a b => a.1 < b.1 ∨ a.1 = b.1 ∧ a.2 < b.2) ∧
        ∀ value, requirements.value? = some value ↔ requests ≠ [] ∧
          value = " ".intercalate (pairs.map fun pair => pair.1 ++ "/" ++ pair.2)) ∧
      (∀ others, opensOf others = opensOf requests →
        (ofRequests others).value? = requirements.value?) ∧
      ∃ others, ¬ ((ofRequests others).entries.map entryText).Pairwise (· < ·) := by
  intro requirements
  have absent : requirements.value? = none ↔ requests = [] :=
    value?_eq_none_iff.trans entries_eq_nil_iff
  refine ⟨absent, ⟨requirements.entries, nodup_entries requests, fun pair => mem_entries,
    increasing_entries requests, fun value => ?_⟩, fun others => value?_congr, _,
    not_increasing_entryText⟩
  by_cases nonempty : requests = []
  · rw [absent.2 nonempty]
    exact iff_of_false nofun fun ⟨other, _⟩ => other nonempty
  · rw [value?_ofRequests nonempty, Option.some_inj]
    exact ⟨fun same => ⟨nonempty, same.symm⟩, fun ⟨_, same⟩ => same.symm⟩

end Requirements

end ModuleOpens
