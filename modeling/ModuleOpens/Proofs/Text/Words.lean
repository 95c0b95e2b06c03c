/-
# Proofs.Text.Words — texts joined by spaces, and taken apart again

The value of a manifest attribute and the flags of a warning are words with spaces
between them. Words without spaces are found again by cutting at every space.

* `words_intercalate`: the words of joined words.
-/
namespace ModuleOpens.Text

set_option autoImplicit false

/-- The parts of a text between its spaces. -/
def words (text : String) : List String :=
  (text.toList.splitOn ' ').map String.ofList

/-- Words joined by spaces are found again when they have none themselves. -/
theorem words_intercalate {texts : List String} (nonempty : texts ≠ [])
    (spaceless : ∀ text ∈ texts, ' ' ∉ text.toList) : words (" ".intercalate texts) = texts := by
  have parts : (" ".intercalate texts).toList = [' '].intercalate (texts.map String.toList) :=
    String.toList_intercalate
  have free : ∀ part ∈ texts.map String.toList, ' ' ∉ part := by
    intro part isPart
    obtain ⟨text, member, rfl⟩ := List.mem_map.1 isPart
    exact spaceless text member
  have split := List.splitOn_intercalate ' ' free (by simpa using nonempty)
  rw [words, parts, split, List.map_map]
  simp [Function.comp_def]

/-- What stands in a joined text stands in one of its parts, or joins them. -/
theorem mem_intercalate {c : Char} {joint : List Char} {parts : List (List Char)}
    (member : c ∈ joint.intercalate parts) : c ∈ joint ∨ ∃ part ∈ parts, c ∈ part := by
  induction parts with
  | nil => simp at member
  | cons first rest ih =>
    cases rest with
    | nil =>
      rw [List.intercalate_singleton] at member
      exact Or.inr ⟨first, List.mem_cons_self, member⟩
    | cons second others =>
      rw [List.intercalate_cons_cons, List.mem_append, List.mem_append] at member
      rcases member with (inFirst | inJoint) | later
      · exact Or.inr ⟨first, List.mem_cons_self, inFirst⟩
      · exact Or.inl inJoint
      · rcases ih later with inJoint | ⟨part, isPart, inPart⟩
        · exact Or.inl inJoint
        · exact Or.inr ⟨part, List.mem_cons_of_mem _ isPart, inPart⟩

end ModuleOpens.Text
