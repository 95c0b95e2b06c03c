/-
# Distinct — lists without repetition, in order of first appearance

`addNew` puts a value at the end of a list unless it is there already;
`firstSeen` keeps the first appearance of every value of a list, and `countNew`
says how many values a list adds.

* `mem_addNew`, `nodup_addNew`: the value is added, and nothing is repeated;
* `mem_addAll`, `nodup_addAll`: the same for a whole list;
* `length_addAll`: a list grows by the values that are new;
* `firstSeen_eq_eraseDups`: the first appearances are what the library's removal
  of repetitions keeps.
-/

namespace ModuleOpens

set_option autoImplicit false

variable {α : Type} [DecidableEq α]

/-- `values` with `value` at the end, unless it is among them. -/
def addNew (values : List α) (value : α) : List α :=
  if value ∈ values then values else values ++ [value]

/-- `values` with those of `more` that are new, in order. -/
def addAll (values more : List α) : List α :=
  more.foldl addNew values

/-- How many of `more` are new beside `values`; a value that comes again is not. -/
def countNew (values : List α) : List α → Nat
  | [] => 0
  | value :: more => (if value ∈ values then 0 else 1) + countNew (addNew values value) more

/-- The first appearance of each value. -/
def firstSeen (values : List α) : List α :=
  addAll [] values

@[simp]
theorem mem_addNew {values : List α} {value x : α} :
    x ∈ addNew values value ↔ x ∈ values ∨ x = value := by
  unfold addNew
  split
  · grind
  · simp

theorem nodup_addNew {values : List α} (nodup : values.Nodup) (value : α) :
    (addNew values value).Nodup := by
  unfold addNew
  split
  · exact nodup
  · rw [List.nodup_append]
    refine ⟨nodup, by simp, ?_⟩
    grind

theorem length_addNew (values : List α) (value : α) :
    (addNew values value).length = values.length + if value ∈ values then 0 else 1 := by
  unfold addNew
  split <;> simp

@[simp]
theorem addAll_nil (values : List α) : addAll values [] = values := rfl

@[simp]
theorem addAll_cons (values : List α) (value : α) (more : List α) :
    addAll values (value :: more) = addAll (addNew values value) more := rfl

theorem addAll_append (values more further : List α) :
    addAll values (more ++ further) = addAll (addAll values more) further := by
  simp [addAll]

@[simp]
theorem mem_addAll {values more : List α} {x : α} :
    x ∈ addAll values more ↔ x ∈ values ∨ x ∈ more := by
  induction more generalizing values with
  | nil => simp
  | cons value more ih => rw [addAll_cons, ih, mem_addNew, List.mem_cons, or_assoc]

/-- A list grows by the values that are new. -/
theorem length_addAll (values more : List α) :
    (addAll values more).length = values.length + countNew values more := by
  induction more generalizing values with
  | nil => rfl
  | cons value more ih =>
    rw [addAll_cons, ih, length_addNew, countNew]
    omega

theorem countNew_append (values more further : List α) :
    countNew values (more ++ further) =
      countNew values more + countNew (addAll values more) further := by
  induction more generalizing values with
  | nil => simp [countNew]
  | cons value more ih =>
    rw [List.cons_append, countNew, countNew, ih, addAll_cons, Nat.add_assoc]

/-- What is added is the first appearance of each value that is new. -/
theorem addAll_eq_append (values more : List α) :
    addAll values more = values ++ (more.filter (· ∉ values)).eraseDups := by
  induction more generalizing values with
  | nil => simp
  | cons value more ih =>
    rw [addAll_cons, ih]
    by_cases known : value ∈ values
    · rw [addNew, if_pos known, List.filter_cons_of_neg (by simpa using known)]
    · have later : more.filter (· ∉ values ++ [value])
          = (more.filter (· ∉ values)).filter fun x => !x == value := by
        rw [List.filter_filter]
        exact List.filter_congr fun x _ => by by_cases same : x = value <;> simp [same]
      rw [addNew, if_neg known, List.filter_cons_of_pos (by simpa using known),
        List.eraseDups_cons, later, List.append_assoc, List.singleton_append]

theorem firstSeen_eq_eraseDups (values : List α) : firstSeen values = values.eraseDups := by
  have every : values.filter (· ∉ []) = values := List.filter_eq_self.2 (by simp)
  rw [firstSeen, addAll_eq_append, List.nil_append, every]

theorem nodup_addAll {values : List α} (nodup : values.Nodup) (more : List α) :
    (addAll values more).Nodup := by
  induction more generalizing values with
  | nil => exact nodup
  | cons value more ih => exact ih (nodup_addNew nodup value)

end ModuleOpens
