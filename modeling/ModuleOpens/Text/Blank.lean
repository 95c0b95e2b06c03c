/-
# Text.Blank — which characters are blank

A character is blank when it has the Unicode property `White_Space`: twenty-five
code points in ten ranges. Names of modules and packages hold no blank, and
values read from options lose the blanks around them.

* `isBlank_of_isWhitespace`: every ASCII blank that core knows is one of them;
* `trimList_eq_self`: text without blanks at its ends is left alone;
* `splitFirst_eq_some_iff`, `not_mem_of_mem_pieces`: which separators are left in the
  parts of a text.
-/
import ModuleOpens.Text.Ranges

namespace ModuleOpens.Text

set_option autoImplicit false

/-- The ranges of `White_Space`, both ends included. -/
def blankRanges : Ranges :=
  [(0x09, 0x0D), (0x20, 0x20), (0x85, 0x85), (0xA0, 0xA0), (0x1680, 0x1680),
    (0x2000, 0x200A), (0x2028, 0x2029), (0x202F, 0x202F), (0x205F, 0x205F), (0x3000, 0x3000)]

/-- The character has the property `White_Space`. -/
def isBlank (c : Char) : Bool :=
  blankRanges.contains c.toNat

/-- The characters without the blanks at either end. -/
def trimList (text : List Char) : List Char :=
  ((text.dropWhile isBlank).reverse.dropWhile isBlank).reverse

def trim (text : String) : String :=
  String.ofList (trimList text.toList)

/-- The characters before and after the first `separator`; `none` when there is none. -/
def splitFirst (separator : Char) : List Char → Option (List Char × List Char)
  | [] => none
  | c :: rest =>
    if c = separator then some ([], rest)
    else (splitFirst separator rest).map fun (before, after) => (c :: before, after)

/-- The pieces between the separators: one more than there are separators. -/
def pieces (separator : Char) : List Char → List (List Char)
  | [] => [[]]
  | c :: rest =>
    if c = separator then [] :: pieces separator rest
    else match pieces separator rest with
      | [] => [[c]]
      | first :: others => (c :: first) :: others

theorem isBlank_of_isWhitespace (c : Char) (h : c.isWhitespace) : isBlank c := by
  simp only [Char.isWhitespace, Bool.or_eq_true, decide_eq_true_eq] at h
  rcases h with ((rfl | rfl) | rfl) | rfl <;> decide

theorem dropWhile_eq_self {text : List Char} (h : ∀ c ∈ text.head?, isBlank c = false) :
    text.dropWhile isBlank = text := by
  cases text with
  | nil => rfl
  | cons c rest => simp [h c (by simp)]

theorem trimList_eq_self {text : List Char} (first : ∀ c ∈ text.head?, isBlank c = false)
    (last : ∀ c ∈ text.getLast?, isBlank c = false) : trimList text = text := by
  unfold trimList
  rw [dropWhile_eq_self first, dropWhile_eq_self (by simpa using last), List.reverse_reverse]

/-- Splitting at the first separator loses nothing, and the part before has none. -/
theorem splitFirst_eq_some_iff {separator : Char} {text before after : List Char} :
    splitFirst separator text = some (before, after) ↔
      text = before ++ separator :: after ∧ separator ∉ before := by
  induction text generalizing before with
  | nil => simp [splitFirst]
  | cons c rest ih =>
    by_cases hc : c = separator
    · subst hc
      cases before with
      | nil => simp [splitFirst]
      | cons b bs =>
        simp only [splitFirst, if_pos, List.cons_append, List.cons.injEq, List.mem_cons, not_or]
        constructor
        · intro h
          simp at h
        · rintro ⟨⟨h, _⟩, hne, _⟩
          exact absurd h hne
    · simp only [splitFirst, if_neg hc, Option.map_eq_some_iff, Prod.exists, Prod.mk.injEq]
      constructor
      · rintro ⟨b, a, hba, rfl, rfl⟩
        obtain ⟨rfl, hb⟩ := ih.1 hba
        exact ⟨rfl, by simp [hb, Ne.symm hc]⟩
      · rintro ⟨heq, hb⟩
        cases before with
        | nil => simp only [List.nil_append, List.cons.injEq] at heq; exact absurd heq.1 hc
        | cons b bs =>
          simp only [List.cons_append, List.cons.injEq] at heq
          obtain ⟨rfl, rfl⟩ := heq
          exact ⟨bs, after, ih.2 ⟨rfl, fun h => hb (List.mem_cons_of_mem _ h)⟩, rfl, rfl⟩

theorem trimList_of_forall {text : List Char} (solid : ∀ c ∈ text, isBlank c = false) :
    trimList text = text :=
  trimList_eq_self (fun c first => solid c (List.mem_of_mem_head? first))
    (fun c last => solid c (List.mem_of_getLast? last))

theorem mem_of_mem_trimList {text : List Char} {c : Char} (member : c ∈ trimList text) :
    c ∈ text := by
  rw [trimList, List.mem_reverse] at member
  have front := (List.dropWhile_sublist _).subset member
  rw [List.mem_reverse] at front
  exact (List.dropWhile_sublist _).subset front

/-- Text without separators is one piece. -/
theorem pieces_of_not_mem {separator : Char} {text : List Char} (free : separator ∉ text) :
    pieces separator text = [text] := by
  induction text with
  | nil => rfl
  | cons c rest ih =>
    rw [List.mem_cons, not_or] at free
    rw [pieces, if_neg (Ne.symm free.1), ih free.2]

/-- No piece has a separator. -/
theorem not_mem_of_mem_pieces {separator : Char} {text piece : List Char}
    (member : piece ∈ pieces separator text) : separator ∉ piece := by
  induction text generalizing piece with
  | nil =>
    rw [pieces, List.mem_singleton] at member
    simp [member]
  | cons c rest ih =>
    by_cases hc : c = separator
    · rw [pieces, if_pos hc] at member
      rcases List.mem_cons.1 member with rfl | later
      · simp
      · exact ih later
    · rw [pieces, if_neg hc] at member
      cases split : pieces separator rest with
      | nil =>
        rw [split] at member
        simp_all [Ne.symm hc]
      | cons first others =>
        rw [split] at member ih
        rcases List.mem_cons.1 member with rfl | later
        · have free := ih List.mem_cons_self
          simp [Ne.symm hc, free]
        · exact ih (List.mem_cons_of_mem _ later)

end ModuleOpens.Text
