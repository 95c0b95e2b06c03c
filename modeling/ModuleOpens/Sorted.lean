/-
# Sorted — finite sets as strictly increasing lists

A finite set of values with a strict order is kept as the list of its members
in increasing order, each once. `before` is the order; `StrictOrder before`
says that it is one.

* `mem_insertSorted`: insertion adds its element and nothing else;
* `increasing_insertSorted`: insertion keeps the list strictly increasing;
* `sortedSet_eq_self`: a strictly increasing list is its own sorted set;
* `eq_of_mem_iff`: two strictly increasing lists with the same members are equal;
* `sortedSet_eq_iff`: so are the sorted sets of two lists with the same members.
-/

namespace ModuleOpens

set_option autoImplicit false

/-- `before` orders any two distinct values one way and not the other. -/
structure StrictOrder {α : Type} (before : α → α → Bool) : Prop where
  irreflexive : ∀ a, before a a = false
  transitive : ∀ a b c, before a b → before b c → before a c
  trichotomous : ∀ a b, before a b = false → before b a = false → a = b

variable {α : Type}

/-- `value` at its place in a strictly increasing list. -/
def insertSorted (before : α → α → Bool) (value : α) : List α → List α
  | [] => [value]
  | first :: rest =>
    if before value first then value :: first :: rest
    else if before first value then first :: insertSorted before value rest
    else first :: rest

/-- The members of a list in increasing order, each once. -/
def sortedSet (before : α → α → Bool) (values : List α) : List α :=
  values.foldl (fun set value => insertSorted before value set) []

/-- Each member of the list comes before all later ones. -/
def Increasing (before : α → α → Bool) (values : List α) : Prop :=
  values.Pairwise fun a b => before a b = true

theorem mem_insertSorted {before : α → α → Bool} (order : StrictOrder before) {value x : α}
    {values : List α} : x ∈ insertSorted before value values ↔ x = value ∨ x ∈ values := by
  induction values with
  | nil => simp [insertSorted]
  | cons first rest ih =>
    unfold insertSorted
    split
    · simp
    · split
      · simp only [List.mem_cons, ih]
        grind
      · rename_i h₁ h₂
        have same := order.trichotomous value first (by simpa using h₁) (by simpa using h₂)
        simp [same]

theorem increasing_insertSorted {before : α → α → Bool} (order : StrictOrder before) (value : α)
    {values : List α} (increasing : Increasing before values) :
    Increasing before (insertSorted before value values) := by
  induction values with
  | nil => simp [insertSorted, Increasing]
  | cons first rest ih =>
    unfold Increasing at increasing ⊢
    rw [List.pairwise_cons] at increasing
    unfold insertSorted
    split
    · rename_i h
      rw [List.pairwise_cons, List.pairwise_cons]
      refine ⟨fun x hx => ?_, increasing⟩
      rcases List.mem_cons.1 hx with rfl | hx
      · exact h
      · exact order.transitive _ _ _ h (increasing.1 x hx)
    · split
      · rename_i h
        rw [List.pairwise_cons]
        refine ⟨fun x hx => ?_, ih increasing.2⟩
        rcases (mem_insertSorted order).1 hx with rfl | hx
        · exact h
        · exact increasing.1 x hx
      · exact List.pairwise_cons.2 increasing

theorem mem_foldl_insertSorted {before : α → α → Bool} (order : StrictOrder before) {x : α}
    (values set : List α) :
    x ∈ values.foldl (fun set value => insertSorted before value set) set ↔
      x ∈ set ∨ x ∈ values := by
  induction values generalizing set with
  | nil => simp
  | cons value rest ih =>
    rw [List.foldl_cons, ih, mem_insertSorted order, List.mem_cons]
    grind

/-- A sorted set has the members of the list that it is made of. -/
theorem mem_sortedSet {before : α → α → Bool} (order : StrictOrder before) {x : α}
    {values : List α} : x ∈ sortedSet before values ↔ x ∈ values := by
  simp [sortedSet, mem_foldl_insertSorted order]

theorem increasing_foldl_insertSorted {before : α → α → Bool} (order : StrictOrder before)
    (values set : List α) (increasing : Increasing before set) :
    Increasing before (values.foldl (fun set value => insertSorted before value set) set) := by
  induction values generalizing set with
  | nil => exact increasing
  | cons value rest ih => exact ih _ (increasing_insertSorted order value increasing)

/-- A sorted set is strictly increasing. -/
theorem increasing_sortedSet {before : α → α → Bool} (order : StrictOrder before)
    (values : List α) : Increasing before (sortedSet before values) :=
  increasing_foldl_insertSorted order values [] List.Pairwise.nil

/-- Strictly increasing lists with the same members are equal. -/
theorem eq_of_mem_iff {before : α → α → Bool} (order : StrictOrder before) {xs ys : List α}
    (hx : Increasing before xs) (hy : Increasing before ys) (same : ∀ a, a ∈ xs ↔ a ∈ ys) :
    xs = ys := by
  induction xs generalizing ys with
  | nil =>
    cases ys with
    | nil => rfl
    | cons y ys => exact absurd ((same y).2 (by simp)) (by simp)
  | cons x xs ih =>
    cases ys with
    | nil => exact absurd ((same x).1 (by simp)) (by simp)
    | cons y ys =>
      obtain ⟨hxs, hxt⟩ := List.pairwise_cons.1 hx
      obtain ⟨hys, hyt⟩ := List.pairwise_cons.1 hy
      have head : x = y := by
        rcases List.mem_cons.1 ((same x).1 (by simp)) with h | h
        · exact h
        · rcases List.mem_cons.1 ((same y).2 (by simp)) with h' | h'
          · exact h'.symm
          · have := order.transitive _ _ _ (hys x h) (hxs y h')
            rw [order.irreflexive] at this
            cases this
      subst head
      refine congrArg (List.cons x) (ih hxt hyt fun a => ?_)
      constructor
      · intro ha
        rcases List.mem_cons.1 ((same a).1 (List.mem_cons_of_mem _ ha)) with rfl | h
        · have := hxs a ha
          rw [order.irreflexive] at this
          cases this
        · exact h
      · intro ha
        rcases List.mem_cons.1 ((same a).2 (List.mem_cons_of_mem _ ha)) with rfl | h
        · have := hys a ha
          rw [order.irreflexive] at this
          cases this
        · exact h

/-- A strictly increasing list is its own sorted set. -/
theorem sortedSet_eq_self {before : α → α → Bool} (order : StrictOrder before) {values : List α}
    (increasing : Increasing before values) : sortedSet before values = values :=
  eq_of_mem_iff order (increasing_sortedSet order values) increasing fun _ => mem_sortedSet order

/-- Lists have the same sorted set when they have the same members. -/
theorem sortedSet_eq_iff {before : α → α → Bool} (order : StrictOrder before) {xs ys : List α} :
    sortedSet before xs = sortedSet before ys ↔ ∀ a, a ∈ xs ↔ a ∈ ys := by
  constructor
  · intro same a
    have listed : a ∈ sortedSet before xs ↔ a ∈ sortedSet before ys := by rw [same]
    rwa [mem_sortedSet order, mem_sortedSet order] at listed
  · intro same
    refine eq_of_mem_iff order (increasing_sortedSet order xs) (increasing_sortedSet order ys) ?_
    intro a
    rw [mem_sortedSet order, mem_sortedSet order, same]

/-- The order of texts by code points. -/
def textBefore (a b : String) : Bool :=
  decide (a < b)

theorem strictOrder_textBefore : StrictOrder textBefore where
  irreflexive a := by
    simp only [textBefore, decide_eq_false_iff_not]
    exact String.lt_irrefl a
  transitive a b c := by
    simp only [textBefore, decide_eq_true_eq]
    exact String.lt_trans
  trichotomous a b := by
    simp only [textBefore, decide_eq_false_iff_not]
    intro h₁ h₂
    exact String.le_antisymm h₂ h₁

/-- Pairs of texts, by the first text and then by the second. -/
def textPairBefore (a b : String × String) : Bool :=
  textBefore a.1 b.1 || (a.1 == b.1 && textBefore a.2 b.2)

theorem strictOrder_textPairBefore : StrictOrder textPairBefore where
  irreflexive a := by
    simp [textPairBefore, strictOrder_textBefore.irreflexive]
  transitive a b c := by
    simp only [textPairBefore, Bool.or_eq_true, Bool.and_eq_true, beq_iff_eq]
    rintro (h | ⟨h, h'⟩) (k | ⟨k, k'⟩)
    · exact Or.inl (strictOrder_textBefore.transitive _ _ _ h k)
    · exact Or.inl (k ▸ h)
    · exact Or.inl (h ▸ k)
    · exact Or.inr ⟨h.trans k, strictOrder_textBefore.transitive _ _ _ h' k'⟩
  trichotomous a b := by
    simp only [textPairBefore, Bool.or_eq_false_iff, Bool.and_eq_false_imp, beq_iff_eq]
    rintro ⟨h, h'⟩ ⟨k, k'⟩
    have first := strictOrder_textBefore.trichotomous _ _ h k
    have second := strictOrder_textBefore.trichotomous _ _ (h' first) (k' first.symm)
    exact Prod.ext first second

end ModuleOpens
