/-
# Proofs.Graph.Edges — tables of edges, as they are read and as they are counted

A record keeps its edges as tables of targets. Adding targets to an entry is
read back at that entry alone, and raises the count by the targets that are
new. The counts are sums over the entries of a table, so both facts come from
what writing one entry does.

* `get?_extendEntry`, `countIn_extendEntry`: one entry extended;
* `getD_extendTable`, `mem_targetsOf_extendTable`: what a whole table adds;
* `forall_extendTable`: what extending an entry keeps holds of a whole table;
* `extendEntry_comm`: entries extended in either order;
* `edgeCount_withOpens`, `edgeCount_extended`: one more opens edge counts when it is new, and
  a redefinition by the edges that are.
-/
import ModuleOpens.Graph.Change

namespace ModuleOpens

set_option autoImplicit false

/-- Writing one entry changes a sum over all entries by what it writes and replaces. -/
theorem total_write {κ α : Type} [DecidableEq κ] (size : α → Nat) (key : κ) (value : α)
    (entries : List (κ × α)) :
    total ((Table.write key value entries).map fun entry => size entry.2)
        + ((Table.lookup key entries).map size).getD 0 =
      total (entries.map fun entry => size entry.2) + size value := by
  induction entries with
  | nil => simp [Table.write, Table.lookup, total]
  | cons entry rest ih =>
    obtain ⟨k, old⟩ := entry
    by_cases here : k = key
    · simp only [Table.write, Table.lookup, if_pos here, List.map_cons, total, Option.map_some,
        Option.getD_some]
      omega
    · simp only [Table.write, Table.lookup, if_neg here, List.map_cons, total]
      omega

namespace ModuleRecord

/-- All values that some entries give for a key, in order. -/
def valuesFor {α : Type} (key : String) (entries : List (String × List α)) : List α :=
  (entries.filter fun entry => entry.1 = key).flatMap Prod.snd

theorem valuesFor_cons {α : Type} (key : String) (entry : String × List α)
    (rest : List (String × List α)) :
    valuesFor key (entry :: rest) =
      (if entry.1 = key then entry.2 else []) ++ valuesFor key rest := by
  unfold valuesFor
  by_cases same : entry.1 = key <;> simp [same]

/-- When each key has one entry, these are the values of the entry. -/
theorem valuesFor_eq_getD {α : Type} {table : Table String (List α)} (nodup : table.keys.Nodup)
    (key : String) : valuesFor key table.entries = (table.get? key).getD [] := by
  obtain ⟨entries⟩ := table
  show valuesFor key entries = (Table.lookup key entries).getD []
  induction entries with
  | nil => rfl
  | cons entry rest ih =>
    obtain ⟨k, values⟩ := entry
    obtain ⟨unique, distinct⟩ := List.nodup_cons.1 nodup
    rw [valuesFor_cons, ih distinct, Table.lookup]
    split
    · rename_i same
      rw [Table.lookup_eq_none_iff.2 (same ▸ unique)]
      exact List.append_nil values
    · rfl

section Extend

variable {α : Type} [DecidableEq α]

theorem extendEntry_eq_set (edges : Table String (List α)) (key : String) (values : List α) :
    extendEntry edges key values = edges.set key (addAll ((edges.get? key).getD []) values) := rfl

theorem get?_extendEntry (edges : Table String (List α)) (key other : String) (values : List α) :
    (extendEntry edges key values).get? other =
      if other = key then some (addAll ((edges.get? key).getD []) values)
      else edges.get? other :=
  Table.get?_alter edges key other _

theorem keys_extendEntry (edges : Table String (List α)) (key : String) (values : List α) :
    (extendEntry edges key values).keys = addNew edges.keys key :=
  Table.keys_set edges key _

/-- The count rises by the values that are new. -/
theorem countIn_extendEntry (edges : Table String (List α)) (key : String) (values : List α) :
    countIn (extendEntry edges key values) + ((edges.get? key).getD []).length =
      countIn edges + (addAll ((edges.get? key).getD []) values).length := by
  have sum := total_write List.length key (addAll ((edges.get? key).getD []) values) edges.entries
  unfold countIn extendEntry Table.alter Table.set
  rw [← sum]
  unfold Table.get?
  cases Table.lookup key edges.entries <;> rfl

/-- The count rises by the values of all entries that are new. -/
theorem countIn_extendTable (edges : Table String (List α)) (more : List (String × List α)) :
    countIn (extendTable edges more) = countIn edges + countNewIn edges more := by
  induction more generalizing edges with
  | nil => rfl
  | cons entry rest ih =>
    have first := countIn_extendEntry edges entry.1 entry.2
    have new := length_addAll ((edges.get? entry.1).getD []) entry.2
    show countIn (extendTable (extendEntry edges entry.1 entry.2) rest) = _
    rw [ih, countNewIn]
    omega

/-- What holds of every entry holds after some are extended, if extending an entry keeps it and
an entry may begin with it. -/
theorem forall_extendTable {holds : String → List α → Prop} {edges : Table String (List α)}
    {more : List (String × List α)}
    (begins : ∀ entry ∈ more, holds entry.1 (addAll [] entry.2))
    (keeps : ∀ entry ∈ more, ∀ present, holds entry.1 present →
      holds entry.1 (addAll present entry.2))
    (initially : ∀ key values, edges.get? key = some values → holds key values) :
    ∀ key values, (extendTable edges more).get? key = some values → holds key values := by
  induction more generalizing edges with
  | nil => exact initially
  | cons entry rest ih =>
    apply ih (fun other member => begins other (List.mem_cons_of_mem _ member))
      (fun other member => keeps other (List.mem_cons_of_mem _ member))
    intro key values found
    rw [get?_extendEntry] at found
    split at found
    · rename_i same
      cases found
      rw [same]
      cases present : edges.get? entry.1 with
      | none => exact begins entry List.mem_cons_self
      | some old => exact keeps entry List.mem_cons_self old (initially _ old present)
    · exact initially key values found

/-- What a key has, after all entries of `more` were added. -/
theorem getD_extendTable (edges : Table String (List α)) (more : List (String × List α))
    (key : String) :
    ((extendTable edges more).get? key).getD [] =
      addAll ((edges.get? key).getD []) (valuesFor key more) := by
  induction more generalizing edges with
  | nil => rfl
  | cons entry rest ih =>
    show ((extendTable (extendEntry edges entry.1 entry.2) rest).get? key).getD [] = _
    rw [ih, get?_extendEntry, valuesFor_cons]
    by_cases same : key = entry.1
    · simp [same, addAll_append]
    · simp [same, Ne.symm same]

/-- The values of a key, after all entries of `more` were added. -/
theorem mem_extendTable {edges : Table String (List α)} {more : List (String × List α)}
    {key : String} {value : α} :
    value ∈ ((extendTable edges more).get? key).getD [] ↔
      value ∈ (edges.get? key).getD [] ∨ ∃ entry ∈ more, entry.1 = key ∧ value ∈ entry.2 := by
  rw [getD_extendTable, mem_addAll]
  simp [valuesFor, and_assoc]

/-- Extending entries repeats no key. -/
theorem nodup_keys_extendTable {edges : Table String (List α)} (nodup : edges.keys.Nodup)
    (more : List (String × List α)) : (extendTable edges more).keys.Nodup := by
  induction more generalizing edges with
  | nil => exact nodup
  | cons entry rest ih =>
    apply ih
    rw [keys_extendEntry]
    exact nodup_addNew nodup entry.1

/-- Values may be added to an entry in two portions. -/
theorem extendEntry_extendEntry (edges : Table String (List α)) (key : String)
    (values more : List α) :
    extendEntry (extendEntry edges key values) key more =
      extendEntry edges key (values ++ more) := by
  simp only [extendEntry_eq_set, Table.get?_set, if_true, Option.getD_some, Table.set_set,
    addAll_append]

/-- Two entries may be extended in either order, when the first has its place already. -/
theorem extendEntry_comm {edges : Table String (List α)} {key other : String}
    (distinct : key ≠ other) (present : key ∈ edges.keys) (values more : List α) :
    extendEntry (extendEntry edges other more) key values =
      extendEntry (extendEntry edges key values) other more := by
  simp only [extendEntry_eq_set, Table.get?_set, if_neg distinct, if_neg (Ne.symm distinct)]
  exact Table.set_comm distinct _ _ present

end Extend

/-- The targets of a package, after the modules of some handles were added. -/
theorem mem_targetsOf_extendTable {edges : Table String (List ModuleId)}
    {more : List (String × List ModuleHandle)} {package : String} {target : ModuleId} :
    target ∈ targetsOf (extendTable edges (idsOf more)) package ↔
      target ∈ targetsOf edges package ∨
        ∃ entry ∈ more, entry.1 = package ∧ ∃ handle ∈ entry.2, handle.id = target := by
  unfold targetsOf
  rw [mem_extendTable]
  apply or_congr_right
  constructor
  · rintro ⟨entry, member, named, isTarget⟩
    obtain ⟨asked, isAsked, rfl⟩ := List.mem_map.1 member
    exact ⟨asked, isAsked, named, List.mem_map.1 isTarget⟩
  · rintro ⟨asked, isAsked, named, isTarget⟩
    exact ⟨_, List.mem_map_of_mem isAsked, named, List.mem_map.2 isTarget⟩

/-! ## One opens edge -/

variable {record : ModuleRecord}

/-- The new edge is read back, and so are the old ones. -/
theorem mem_targetsOf_withOpens {package other : String} {target present : ModuleId} :
    present ∈ targetsOf (record.withOpens package target).opens other ↔
      present ∈ targetsOf record.opens other ∨ (other = package ∧ present = target) := by
  unfold targetsOf withOpens
  rw [get?_extendEntry]
  by_cases here : other = package
  · subst here
    simp
  · simp [here]

/-- An opens edge counts when it is new. -/
theorem edgeCount_withOpens (record : ModuleRecord) (package : String) (target : ModuleId) :
    (record.withOpens package target).edgeCount =
      record.edgeCount + if target ∈ targetsOf record.opens package then 0 else 1 := by
  have count := countIn_extendEntry record.opens package [target]
  rw [addAll_cons, addAll_nil, length_addNew] at count
  unfold edgeCount withOpens targetsOf
  dsimp only
  omega

/-! ## A redefinition -/

/-- A redefined module has its edges and those of the redefinition that are new. -/
theorem edgeCount_extended (record : ModuleRecord) (redefinition : Redefinition) :
    (record.extended redefinition).edgeCount = record.edgeCount + record.newEdges redefinition := by
  have reads := length_addAll record.reads (redefinition.reads.map ModuleHandle.id)
  have exports := countIn_extendTable record.exports (idsOf redefinition.exports.entries)
  have opens := countIn_extendTable record.opens (idsOf redefinition.opens.entries)
  have uses := length_addAll record.uses redefinition.uses
  have provides := countIn_extendTable record.provides redefinition.provides.entries
  simp only [edgeCount, extended, newEdges]
  omega

end ModuleRecord

end ModuleOpens
