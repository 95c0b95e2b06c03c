/-
# Table — finite maps that remember the order of their keys

A table is a list of keys with their values. Reading looks at the first entry
of a key; writing replaces that entry in place, or puts a new one at the end.
So the keys stand in the order in which they were first written.

* `get?_set`: the last value written to a key is the one that is read;
* `exchange_eq`: an exchange reads the old value and writes the new one;
* `get?_erase_self`: an erased key is gone, when keys are distinct;
* `get?_eq_some_iff`: what is read are the entries, when keys are distinct;
* `keys_set`: writing adds the key unless it was there, and moves none.
-/
import ModuleOpens.Distinct

namespace ModuleOpens

set_option autoImplicit false

/-- A finite map from `κ` to `α`, in the order in which its keys were first written. -/
structure Table (κ α : Type) where
  entries : List (κ × α)
  deriving DecidableEq, Repr

namespace Table

variable {κ α : Type} [DecidableEq κ]

def empty : Table κ α :=
  ⟨[]⟩

instance : Inhabited (Table κ α) := ⟨empty⟩

/-- The value of the first entry of `key`. -/
def lookup (key : κ) : List (κ × α) → Option α
  | [] => none
  | (k, value) :: rest => if k = key then some value else lookup key rest

/-- The entries with `value` for `key`: in the place of its first entry, or else at the end. -/
def write (key : κ) (value : α) : List (κ × α) → List (κ × α)
  | [] => [(key, value)]
  | (k, old) :: rest => if k = key then (k, value) :: rest else (k, old) :: write key value rest

/-- The entries that `write` leaves, and before them the value that it replaces, if there is one. -/
def exchangeIn (key : κ) (value : α) : List (κ × α) → Option α × List (κ × α)
  | [] => (none, [(key, value)])
  | (k, old) :: rest =>
    if k = key then (some old, (k, value) :: rest)
    else
      let (previous, rest) := exchangeIn key value rest
      (previous, (k, old) :: rest)

def remove (key : κ) : List (κ × α) → List (κ × α)
  | [] => []
  | (k, value) :: rest => if k = key then rest else (k, value) :: remove key rest

def get? (table : Table κ α) (key : κ) : Option α :=
  lookup key table.entries

def contains (table : Table κ α) (key : κ) : Bool :=
  (table.get? key).isSome

def set (table : Table κ α) (key : κ) (value : α) : Table κ α :=
  ⟨write key value table.entries⟩

/-- `key` is set to `value`; what it had before comes back. -/
def exchange (table : Table κ α) (key : κ) (value : α) : Option α × Table κ α :=
  let (previous, entries) := exchangeIn key value table.entries
  (previous, ⟨entries⟩)

def erase (table : Table κ α) (key : κ) : Table κ α :=
  ⟨remove key table.entries⟩

/-- `key` gets the value that `change` makes of its present one. -/
def alter (table : Table κ α) (key : κ) (change : Option α → α) : Table κ α :=
  table.set key (change (table.get? key))

omit [DecidableEq κ] in
/-- The keys, in the order in which they were first written. -/
def keys (table : Table κ α) : List κ :=
  table.entries.map Prod.fst

omit [DecidableEq κ] in
def size (table : Table κ α) : Nat :=
  table.entries.length

/-- The table that the entries write, one after the other. -/
def ofList (entries : List (κ × α)) : Table κ α :=
  entries.foldl (fun table entry => table.set entry.1 entry.2) empty

theorem lookup_write (key other : κ) (value : α) (entries : List (κ × α)) :
    lookup other (write key value entries) =
      if other = key then some value else lookup other entries := by
  induction entries with
  | nil => simp only [write, lookup]; grind
  | cons entry rest ih =>
    obtain ⟨k, old⟩ := entry
    simp only [write]
    split <;> simp only [lookup] <;> grind

@[simp]
theorem get?_set (table : Table κ α) (key other : κ) (value : α) :
    (table.set key value).get? other = if other = key then some value else table.get? other :=
  lookup_write key other value table.entries

@[simp]
theorem get?_empty (key : κ) : (empty : Table κ α).get? key = none := rfl

theorem exchangeIn_eq (key : κ) (value : α) (entries : List (κ × α)) :
    exchangeIn key value entries = (lookup key entries, write key value entries) := by
  induction entries with
  | nil => rfl
  | cons entry rest ih =>
    obtain ⟨k, old⟩ := entry
    simp only [exchangeIn, lookup, write, ih]
    split <;> rfl

/-- What comes back is the value that could be read before. -/
theorem exchange_eq (table : Table κ α) (key : κ) (value : α) :
    table.exchange key value = (table.get? key, table.set key value) := by
  rw [exchange, exchangeIn_eq]
  rfl

theorem get?_alter (table : Table κ α) (key other : κ) (change : Option α → α) :
    (table.alter key change).get? other =
      if other = key then some (change (table.get? key)) else table.get? other :=
  get?_set table key other _

theorem lookup_remove_of_ne {key other : κ} (h : other ≠ key) (entries : List (κ × α)) :
    lookup other (remove key entries) = lookup other entries := by
  induction entries with
  | nil => rfl
  | cons entry rest ih =>
    obtain ⟨k, old⟩ := entry
    simp only [remove]
    split <;> simp only [lookup] <;> grind

/-- Erasing a key leaves the others alone. -/
theorem get?_erase_of_ne {key other : κ} (h : other ≠ key) (table : Table κ α) :
    (table.erase key).get? other = table.get? other :=
  lookup_remove_of_ne h table.entries

theorem lookup_eq_none_iff {key : κ} {entries : List (κ × α)} :
    lookup key entries = none ↔ key ∉ entries.map Prod.fst := by
  induction entries with
  | nil => simp [lookup]
  | cons entry rest ih =>
    obtain ⟨k, old⟩ := entry
    simp only [lookup]
    split <;> simp_all [eq_comm]

/-- The keys are those that have a value. -/
theorem mem_keys_iff {table : Table κ α} {key : κ} :
    key ∈ table.keys ↔ ∃ value, table.get? key = some value := by
  rw [← Option.ne_none_iff_exists', Ne, get?, lookup_eq_none_iff, Decidable.not_not]
  rfl

/-- A table without values has no entries. -/
theorem size_eq_zero_of_get? {table : Table κ α} (nothing : ∀ key, table.get? key = none) :
    table.size = 0 := by
  obtain ⟨entries⟩ := table
  cases entries with
  | nil => rfl
  | cons entry rest =>
    have key : entry.1 ∈ (⟨entry :: rest⟩ : Table κ α).keys := List.mem_cons_self
    obtain ⟨value, present⟩ := mem_keys_iff.1 key
    cases (nothing entry.1).symm.trans present

theorem lookup_remove_self {key : κ} {entries : List (κ × α)}
    (nodup : (entries.map Prod.fst).Nodup) : lookup key (remove key entries) = none := by
  induction entries with
  | nil => rfl
  | cons entry rest ih =>
    obtain ⟨k, old⟩ := entry
    rw [List.map_cons, List.nodup_cons] at nodup
    simp only [remove]
    split
    · rename_i h
      subst h
      exact lookup_eq_none_iff.2 nodup.1
    · rename_i h
      simp only [lookup, if_neg h]
      exact ih nodup.2

/-- An erased key is gone, when keys are distinct. -/
theorem get?_erase_self {table : Table κ α} (nodup : table.keys.Nodup) (key : κ) :
    (table.erase key).get? key = none :=
  lookup_remove_self nodup

theorem remove_sublist (key : κ) (entries : List (κ × α)) :
    (remove key entries).Sublist entries := by
  induction entries with
  | nil => exact List.Sublist.refl []
  | cons entry rest ih =>
    obtain ⟨k, old⟩ := entry
    simp only [remove]
    split
    · exact List.sublist_cons_self ..
    · exact ih.cons_cons _

/-- Erasing repeats no key. -/
theorem nodup_keys_erase {table : Table κ α} (nodup : table.keys.Nodup) (key : κ) :
    (table.erase key).keys.Nodup :=
  nodup.sublist ((remove_sublist key table.entries).map Prod.fst)

theorem keys_write (key : κ) (value : α) (entries : List (κ × α)) :
    (write key value entries).map Prod.fst = addNew (entries.map Prod.fst) key := by
  induction entries with
  | nil => simp [write, addNew]
  | cons entry rest ih =>
    obtain ⟨k, old⟩ := entry
    simp only [write]
    split
    · rename_i h
      subst h
      simp [addNew]
    · rename_i h
      rw [List.map_cons, ih, List.map_cons]
      have other : key ≠ k := fun e => h e.symm
      by_cases present : key ∈ rest.map Prod.fst
      · rw [addNew, if_pos present, addNew, if_pos (List.mem_cons_of_mem _ present)]
      · have absent : key ∉ k :: rest.map Prod.fst := by
          simp only [List.mem_cons, not_or]
          exact ⟨other, present⟩
        rw [addNew, if_neg present, addNew, if_neg absent]
        rfl

/-- Writing adds the key at the end unless it was there, and moves none. -/
theorem keys_set (table : Table κ α) (key : κ) (value : α) :
    (table.set key value).keys = addNew table.keys key :=
  keys_write key value table.entries

theorem nodup_keys_set {table : Table κ α} (nodup : table.keys.Nodup) (key : κ) (value : α) :
    (table.set key value).keys.Nodup := by
  rw [keys_set]
  exact nodup_addNew nodup key

theorem mem_of_lookup {key : κ} {value : α} {entries : List (κ × α)}
    (present : lookup key entries = some value) : (key, value) ∈ entries := by
  induction entries with
  | nil => cases present
  | cons entry rest ih =>
    obtain ⟨k, old⟩ := entry
    simp only [lookup] at present
    split at present
    · rename_i h
      cases present
      exact h ▸ List.mem_cons_self
    · exact List.mem_cons_of_mem _ (ih present)

theorem lookup_of_mem {key : κ} {value : α} {entries : List (κ × α)}
    (nodup : (entries.map Prod.fst).Nodup) (member : (key, value) ∈ entries) :
    lookup key entries = some value := by
  induction entries with
  | nil => cases member
  | cons entry rest ih =>
    obtain ⟨k, old⟩ := entry
    rw [List.map_cons, List.nodup_cons] at nodup
    simp only [lookup]
    rcases List.mem_cons.1 member with same | later
    · cases same
      rw [if_pos rfl]
    · have distinct : k ≠ key := by
        rintro rfl
        exact nodup.1 (List.mem_map.2 ⟨_, later, rfl⟩)
      rw [if_neg distinct]
      exact ih nodup.2 later

/-- What is read of a table are its entries, when keys are distinct. -/
theorem get?_eq_some_iff {table : Table κ α} (nodup : table.keys.Nodup) {key : κ} {value : α} :
    table.get? key = some value ↔ (key, value) ∈ table.entries :=
  ⟨mem_of_lookup, lookup_of_mem nodup⟩

theorem mem_of_mem_write {key : κ} {value : α} {entries : List (κ × α)} {entry : κ × α}
    (member : entry ∈ write key value entries) : entry = (key, value) ∨ entry ∈ entries := by
  induction entries with
  | nil => exact Or.inl (List.mem_singleton.1 member)
  | cons first rest ih =>
    obtain ⟨k, old⟩ := first
    simp only [write] at member
    split at member
    · rename_i h
      subst h
      rcases List.mem_cons.1 member with same | there
      · exact Or.inl same
      · exact Or.inr (List.mem_cons_of_mem _ there)
    · rcases List.mem_cons.1 member with same | there
      · exact Or.inr (same ▸ List.mem_cons_self)
      · exact (ih there).imp id (List.mem_cons_of_mem _)

theorem write_write (key : κ) (first second : α) (entries : List (κ × α)) :
    write key second (write key first entries) = write key second entries := by
  induction entries with
  | nil => simp [write]
  | cons entry rest ih =>
    obtain ⟨k, old⟩ := entry
    by_cases h : k = key
    · simp [write, h]
    · simp [write, h, ih]

/-- Only the last of two values written to a key counts. -/
theorem set_set (table : Table κ α) (key : κ) (first second : α) :
    (table.set key first).set key second = table.set key second :=
  congrArg Table.mk (write_write key first second table.entries)

theorem write_of_lookup {key : κ} {value : α} {entries : List (κ × α)}
    (present : lookup key entries = some value) : write key value entries = entries := by
  induction entries with
  | nil => cases present
  | cons entry rest ih =>
    obtain ⟨k, old⟩ := entry
    simp only [lookup] at present
    simp only [write]
    split
    · rename_i h
      rw [if_pos h] at present
      cases present
      rfl
    · rename_i h
      rw [if_neg h] at present
      rw [ih present]

/-- Writing what is there changes nothing. -/
theorem set_of_get? {table : Table κ α} {key : κ} {value : α}
    (present : table.get? key = some value) : table.set key value = table :=
  congrArg Table.mk (write_of_lookup present)

theorem write_comm {key other : κ} (distinct : key ≠ other) (value more : α)
    {entries : List (κ × α)} (present : key ∈ entries.map Prod.fst) :
    write key value (write other more entries) = write other more (write key value entries) := by
  induction entries with
  | nil => cases present
  | cons entry rest ih =>
    obtain ⟨k, old⟩ := entry
    rw [List.map_cons, List.mem_cons] at present
    by_cases first : k = key
    · have last : k ≠ other := first ▸ distinct
      simp [write, first, distinct]
    · have there := present.resolve_left (Ne.symm first)
      by_cases last : k = other
      · simp [write, last, Ne.symm distinct]
      · simp [write, first, last, ih there]

/-- Writes to two keys may be exchanged when the first key has its place already. -/
theorem set_comm {key other : κ} (distinct : key ≠ other) (value more : α) {table : Table κ α}
    (present : key ∈ table.keys) :
    (table.set other more).set key value = (table.set key value).set other more :=
  congrArg Table.mk (write_comm distinct value more present)

end Table

end ModuleOpens
