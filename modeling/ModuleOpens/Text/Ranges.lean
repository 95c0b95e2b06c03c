/-
# Text.Ranges — classes of characters as ranges of code points

A class of characters is a list of closed ranges of code points. The ranges
ascend and no two of them touch, so a search ends at the first range that begins
above the code point, and texts in ASCII are decided by the first few ranges.

* `contains_iff`: the search finds exactly what lies in one of the ranges.
-/

namespace ModuleOpens.Text

set_option autoImplicit false

/-- Closed ranges of code points. -/
abbrev Ranges := List (Nat × Nat)

namespace Ranges

/-- A range holds the code point. -/
def contains : Ranges → Nat → Bool
  | [], _ => false
  | (low, high) :: rest, code =>
    if code < low then false else if code ≤ high then true else contains rest code

/-- The ranges begin at `floor` or above, none is empty, and between two of them something is
left out. -/
def ascendsFrom (floor : Nat) : Ranges → Bool
  | [] => true
  | (low, high) :: rest => floor ≤ low && low ≤ high && ascendsFrom (high + 2) rest

theorem le_of_ascendsFrom {ranges : Ranges} {floor : Nat} (h : ascendsFrom floor ranges)
    {range : Nat × Nat} (member : range ∈ ranges) : floor ≤ range.1 := by
  induction ranges generalizing floor with
  | nil => simp at member
  | cons first rest ih =>
    simp only [ascendsFrom, Bool.and_eq_true, decide_eq_true_eq] at h
    obtain ⟨⟨hf, hl⟩, hr⟩ := h
    rcases List.mem_cons.1 member with rfl | inRest
    · exact hf
    · have := ih hr inRest
      omega

/-- The search misses nothing, and finds nothing else. -/
theorem contains_iff {ranges : Ranges} {floor : Nat} (h : ascendsFrom floor ranges) (code : Nat) :
    contains ranges code = true ↔ ∃ range ∈ ranges, range.1 ≤ code ∧ code ≤ range.2 := by
  induction ranges generalizing floor with
  | nil => simp [contains]
  | cons first rest ih =>
    have beyond : ∀ range ∈ rest, first.2 + 2 ≤ range.1 := fun range member => by
      simp only [ascendsFrom, Bool.and_eq_true] at h
      exact le_of_ascendsFrom h.2 member
    simp only [ascendsFrom, Bool.and_eq_true, decide_eq_true_eq] at h
    obtain ⟨⟨-, hl⟩, hr⟩ := h
    simp only [contains, List.mem_cons, exists_eq_or_imp]
    split
    · rename_i below
      simp only [Bool.false_eq_true, false_iff, not_or, not_exists, not_and]
      refine ⟨by omega, fun range member low => ?_⟩
      have := beyond range member
      omega
    · split
      · simp_all
      · rw [ih hr]
        constructor
        · exact Or.inr
        · rintro (inFirst | inRest)
          · omega
          · exact inRest

end Ranges

end ModuleOpens.Text
