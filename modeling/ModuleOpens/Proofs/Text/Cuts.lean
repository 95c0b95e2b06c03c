/-
# Proofs.Text.Cuts — what is left of a text that is trimmed or cut

Trimming a text and cutting it at a separator are told by what they start from: a
text is blanks, what is left of it, and blanks again, where what is left has no
blank at its ends; and a text is its pieces joined by the separator, where no piece
has one. Both descriptions have exactly one answer.

* `trims_iff`: what is left between the blanks is what trimming gives;
* `pieces_eq_iff`: the pieces of a text.
-/
import ModuleOpens.Text.Blank

namespace ModuleOpens.Text

set_option autoImplicit false

variable {before core after : List Char}

/-- `core` is what is left of `text` without the blanks at its ends. -/
structure Trims (text core : String) : Prop where
  around : ∃ before after, text = before ++ core ++ after ∧
    (∀ c ∈ before.toList, isBlank c = true) ∧ ∀ c ∈ after.toList, isBlank c = true
  first : ∀ c ∈ core.toList.head?, isBlank c = false
  last : ∀ c ∈ core.toList.getLast?, isBlank c = false

/-- Blanks around a text that has none at its ends are trimmed, and nothing else. -/
theorem trimList_around (leading : ∀ c ∈ before, isBlank c = true)
    (trailing : ∀ c ∈ after, isBlank c = true) (first : ∀ c ∈ core.head?, isBlank c = false)
    (last : ∀ c ∈ core.getLast?, isBlank c = false) : trimList (before ++ core ++ after) = core := by
  have behind : ∀ c ∈ after.reverse, isBlank c = true := by simpa using trailing
  have back : core.reverse.dropWhile isBlank = core.reverse :=
    dropWhile_eq_self (by simpa using last)
  have front : (core ++ after).dropWhile isBlank = core ++ after ∨ core = [] := by
    cases core with
    | nil => exact .inr rfl
    | cons c rest => exact .inl (dropWhile_eq_self (by simpa using first))
  rw [trimList, List.append_assoc, List.dropWhile_append_of_pos leading]
  rcases front with kept | rfl
  · rw [kept, List.reverse_append, List.dropWhile_append_of_pos behind, back, List.reverse_reverse]
  · rw [List.nil_append, ← List.append_nil after, List.dropWhile_append_of_pos trailing]
    rfl

/-- A text is its leading blanks and the rest, which does not begin with one. -/
theorem exists_leading (text : List Char) :
    ∃ before, text = before ++ text.dropWhile isBlank ∧ (∀ c ∈ before, isBlank c = true) ∧
      ∀ c ∈ (text.dropWhile isBlank).head?, isBlank c = false := by
  refine ⟨text.takeWhile isBlank, List.takeWhile_append_dropWhile.symm,
    List.all_eq_true.1 List.all_takeWhile, fun c first => ?_⟩
  have none := List.head?_dropWhile_not isBlank text
  rwa [Option.mem_def.1 first] at none

/-- What is left of a text is what trimming gives. -/
theorem trims_iff {text core : String} : Trims text core ↔ trimList text.toList = core.toList := by
  constructor
  · rintro ⟨⟨before, after, rfl, leading, trailing⟩, first, last⟩
    rw [String.toList_append, String.toList_append]
    exact trimList_around leading trailing first last
  · intro trimmed
    obtain ⟨before, front, leading, starts⟩ := exists_leading text.toList
    obtain ⟨behind, back, trailing, ends⟩ :=
      exists_leading (text.toList.dropWhile isBlank).reverse
    have left : core.toList.reverse =
        (text.toList.dropWhile isBlank).reverse.dropWhile isBlank := by
      rw [← trimmed, trimList, List.reverse_reverse]
    have whole : text.toList.dropWhile isBlank = core.toList ++ behind.reverse := by
      rw [← left] at back
      rw [← List.reverse_reverse (text.toList.dropWhile isBlank), back, List.reverse_append,
        List.reverse_reverse]
    refine ⟨⟨.ofList before, .ofList behind.reverse, ?_, ?_, ?_⟩, ?_, ?_⟩
    · rw [← String.toList_inj, String.toList_append, String.toList_append, String.toList_ofList,
        String.toList_ofList, List.append_assoc, ← whole]
      exact front
    · rwa [String.toList_ofList]
    · rw [String.toList_ofList]
      exact fun c member => trailing c (List.mem_reverse.1 member)
    · intro c first
      refine starts c ?_
      rw [whole, List.head?_append, Option.mem_def.1 first]
      rfl
    · rw [← left] at ends
      simpa using ends

/-- Cutting at a separator is what the library's splitting at it does. -/
theorem pieces_eq_splitOn (separator : Char) (text : List Char) :
    pieces separator text = text.splitOn separator := by
  induction text with
  | nil => rw [pieces, List.splitOn_nil]
  | cons c rest ih =>
    have split : (c :: rest).splitOn separator = if (c == separator) = true then
        [] :: rest.splitOn separator else (rest.splitOn separator).modifyHead (List.cons c) :=
      List.splitOnP_cons_eq_if_modifyHead c rest
    rw [split, pieces, ih]
    simp only [beq_iff_eq]
    cases some : rest.splitOn separator with
    | nil => exact absurd some (List.splitOn_ne_nil separator rest)
    | cons first others => rfl

/-- The pieces of a text, joined again, are the text; no other parts without separators are. -/
theorem pieces_eq_iff {separator : Char} {text : List Char} {parts : List (List Char)} :
    pieces separator text = parts ↔
      parts ≠ [] ∧ text = [separator].intercalate parts ∧ ∀ part ∈ parts, separator ∉ part := by
  constructor
  · rintro rfl
    refine ⟨?_, ?_, fun part member => not_mem_of_mem_pieces member⟩
    · rw [pieces_eq_splitOn]
      exact List.splitOn_ne_nil separator text
    · rw [pieces_eq_splitOn, List.intercalate_splitOn]
  · rintro ⟨some, rfl, free⟩
    rw [pieces_eq_splitOn, List.splitOn_intercalate separator free some]

end ModuleOpens.Text
