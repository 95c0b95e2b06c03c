/-
# Proofs.Manifest.Attributes — attributes under any insertions and renderings

Whatever is done to attributes, it writes at most one value to one key. So they are
told by the list of what was written: the keys in the order of their first writes,
and for each the value of its last one (`Holds`). One change adds its write to that
list, and changes one after the other add theirs. A rendering writes `Add-Opens` and
nothing else; done again it finds its own value there.

* `Holds.performAll`: attributes after any changes hold what was written;
* `rendered`: what a rendering does to the attributes that it meets;
* `attributes_of_changes`: the two together, with the text that is printed.
-/
import ModuleOpens.Manifest

namespace ModuleOpens

set_option autoImplicit false

namespace Attributes

/-- The keys, in their order. -/
def keys (attributes : Attributes) : List String :=
  attributes.table.keys

/-- Something that may be done to attributes. -/
inductive Change where
  | insert (key value : String)
  | render (requirements : Requirements)

/-- The attributes after a change. -/
def perform (attributes : Attributes) : Change → Attributes
  | .insert key value => (attributes.insert key value).2
  | .render requirements => (attributes.render requirements).1

/-- The attributes after changes, one after the other. -/
def performAll (attributes : Attributes) (changes : List Change) : Attributes :=
  changes.foldl perform attributes

/-- The key that a change writes, with the value, if it writes any. -/
def Change.written? : Change → Option (String × String)
  | .insert key value => some (key, value)
  | .render requirements => requirements.value?.map fun value => (addOpensAttribute, value)

/-- The last value that was written to a key. -/
def lastValue? (key : String) (writes : List (String × String)) : Option String :=
  (writes.filter fun write => write.1 = key).getLast?.map Prod.snd

/-- The attributes are what these writes make of none. -/
structure Holds (attributes : Attributes) (writes : List (String × String)) : Prop where
  keys : attributes.keys = firstSeen (writes.map Prod.fst)
  values : ∀ key, attributes.get? key = lastValue? key writes

/-- What comes of rendering requirements into attributes. -/
structure Rendered (requirements : Requirements) (before after : Attributes)
    (events : List Event) : Prop where
  /-- Every other attribute has the value that it had. -/
  others : ∀ key, key ≠ addOpensAttribute → after.get? key = before.get? key
  /-- The attributes that there were keep their places; `Add-Opens` comes last if it is new. -/
  order : after.keys = before.keys ∨
    addOpensAttribute ∉ before.keys ∧ after.keys = before.keys ++ [addOpensAttribute]
  /-- With entries, `Add-Opens` has their value. -/
  value : requirements.entries ≠ [] →
    ∃ value, requirements.value? = some value ∧ after.get? addOpensAttribute = some value
  /-- Without entries nothing changes. -/
  unchanged : requirements.entries = [] → after = before
  /-- There is one warning when a value is overwritten, about that value, and none otherwise. -/
  warned : (events.filter fun event => event.level = .warn) =
    if requirements.entries = [] then []
    else ((before.get? addOpensAttribute).map overwritten).toList
  /-- Rendered once more, the attributes stay as they are. -/
  again : (after.render requirements).1 = after

variable {attributes : Attributes} {requirements : Requirements}
  {writes : List (String × String)}

/-! ## One change -/

theorem keys_written (attributes : Attributes) (key value : String) :
    (⟨attributes.table.set key value⟩ : Attributes).keys = addNew attributes.keys key :=
  Table.keys_set attributes.table key value

theorem get?_written (attributes : Attributes) (key other value : String) :
    (⟨attributes.table.set key value⟩ : Attributes).get? other =
      if other = key then some value else attributes.get? other :=
  Table.get?_set attributes.table key other value

theorem insert_eq (attributes : Attributes) (key value : String) :
    attributes.insert key value = (attributes.get? key, ⟨attributes.table.set key value⟩) := by
  rw [insert, Table.exchange_eq]
  rfl

theorem render_of_none (attributes : Attributes) (nothing : requirements.value? = none) :
    attributes.render requirements =
      (attributes, [.debug ("No module opens required, not writing " ++ addOpensAttribute)]) := by
  rw [render, nothing]

theorem render_of_some (attributes : Attributes) {value : String}
    (shown : requirements.value? = some value) :
    attributes.render requirements =
      (⟨attributes.table.set addOpensAttribute value⟩,
        ((attributes.get? addOpensAttribute).map overwritten).toList) := by
  rw [render, shown]
  dsimp only
  rw [insert_eq]

/-- A change sets the key that it writes, and does nothing else. -/
theorem perform_eq (attributes : Attributes) (change : Change) :
    attributes.perform change =
      change.written?.elim attributes fun write => ⟨attributes.table.set write.1 write.2⟩ := by
  cases change with
  | insert key value =>
    rw [perform, insert_eq]
    rfl
  | render requirements =>
    rw [perform, Change.written?]
    cases shown : requirements.value? with
    | none =>
      rw [render_of_none _ shown]
      rfl
    | some value =>
      rw [render_of_some _ shown]
      rfl

/-! ## What was written -/

theorem lastValue?_append_singleton (key : String) (writes : List (String × String))
    (write : String × String) : lastValue? key (writes ++ [write]) =
      if key = write.1 then some write.2 else lastValue? key writes := by
  rw [lastValue?, List.filter_append]
  by_cases same : key = write.1
  · rw [if_pos same, List.filter_cons_of_pos (by simp [same]), List.filter_nil,
      List.getLast?_concat]
    rfl
  · rw [if_neg same, List.filter_cons_of_neg (by simpa using Ne.symm same), List.filter_nil,
      List.append_nil, lastValue?]

theorem holds_empty : Holds empty [] where
  keys := rfl
  values _ := rfl

theorem Holds.nodup (holds : Holds attributes writes) : attributes.keys.Nodup := by
  rw [holds.keys]
  exact nodup_addAll List.nodup_nil _

theorem Holds.write (holds : Holds attributes writes) (write : String × String) :
    Holds ⟨attributes.table.set write.1 write.2⟩ (writes ++ [write]) where
  keys := by
    rw [keys_written, holds.keys, List.map_append, firstSeen, firstSeen, addAll_append]
    rfl
  values key := by
    rw [get?_written, lastValue?_append_singleton, holds.values]

theorem Holds.perform (holds : Holds attributes writes) (change : Change) :
    Holds (attributes.perform change) (writes ++ change.written?.toList) := by
  rw [perform_eq]
  cases change.written? with
  | none => simpa using holds
  | some write => exact holds.write write

/-- Attributes after more changes hold what was written before, and then what these write. -/
theorem Holds.performAll (holds : Holds attributes writes) (changes : List Change) :
    Holds (attributes.performAll changes) (writes ++ changes.filterMap Change.written?) := by
  induction changes generalizing attributes writes with
  | nil =>
    rw [List.filterMap_nil, List.append_nil]
    exact holds
  | cons change rest ih =>
    have later := ih (holds.perform change)
    rw [List.append_assoc] at later
    rw [List.filterMap_cons]
    cases written : change.written? <;> rwa [written] at later

/-! ## Renderings -/

/-- Rendering the same requirements twice is rendering them once. -/
theorem render_render (attributes : Attributes) (requirements : Requirements) :
    ((attributes.render requirements).1.render requirements).1 =
      (attributes.render requirements).1 := by
  cases shown : requirements.value? with
  | none => rw [render_of_none _ shown, render_of_none _ shown]
  | some value =>
    rw [render_of_some _ shown, render_of_some _ shown]
    exact congrArg Attributes.mk (Table.set_set attributes.table addOpensAttribute value value)

/-- What a rendering does to the attributes that it meets, whatever they are. -/
theorem rendered (attributes : Attributes) (requirements : Requirements) :
    Rendered requirements attributes (attributes.render requirements).1
      (attributes.render requirements).2 := by
  cases shown : requirements.value? with
  | none =>
    have empty := Requirements.value?_eq_none_iff.1 shown
    have again := render_render attributes requirements
    rw [render_of_none attributes shown] at again ⊢
    exact {
      others := fun _ _ => rfl
      order := .inl rfl
      value := fun filled => absurd empty filled
      unchanged := fun _ => rfl
      warned := (if_pos empty).symm
      again := again }
  | some value =>
    have filled : requirements.entries ≠ [] := by
      intro empty
      rw [Requirements.value?_eq_none_iff.2 empty] at shown
      cases shown
    have again := render_render attributes requirements
    rw [render_of_some attributes shown] at again ⊢
    exact {
      others := fun key other => by rw [get?_written, if_neg other]
      order := by
        rw [keys_written, addNew]
        by_cases there : addOpensAttribute ∈ attributes.keys
        · exact .inl (if_pos there)
        · exact .inr ⟨there, if_neg there⟩
      value := fun _ => ⟨value, shown, by rw [get?_written, if_pos rfl]⟩
      unchanged := fun empty => absurd empty filled
      warned := by
        rw [if_neg filled]
        cases attributes.get? addOpensAttribute <;> rfl
      again := again }

/-- Attributes that anything was done to, one change after the other, are a map in the order of
insertion: each key once, in the order of their first writes, and with the last value written to
it, which is what an insertion gives back. Their text has one line for each, in that order. And a
rendering of any requirements changes `Add-Opens` alone. -/
theorem attributes_of_changes (changes : List Change) :
    let attributes := empty.performAll changes
    let writes := changes.filterMap Change.written?
    attributes.keys.Nodup ∧ attributes.keys = (writes.map Prod.fst).eraseDups ∧
      (∀ key, attributes.get? key = lastValue? key writes) ∧
      (∀ key value, (attributes.insert key value).1 = lastValue? key writes) ∧
      (∃ lines : List (String × String), lines.map Prod.fst = attributes.keys ∧
        (∀ line ∈ lines, attributes.get? line.1 = some line.2) ∧
        attributes.text =
          String.join (lines.map fun line => line.1 ++ ": " ++ line.2 ++ "\n")) ∧
      ∀ requirements, Rendered requirements attributes (attributes.render requirements).1
        (attributes.render requirements).2 := by
  intro attributes writes
  have holds : Holds attributes writes := holds_empty.performAll changes
  refine ⟨holds.nodup, ?_, holds.values, ?_, ?_, rendered attributes⟩
  · rw [holds.keys, firstSeen_eq_eraseDups]
  · intro key value
    rw [insert_eq]
    exact holds.values key
  · refine ⟨attributes.table.entries, rfl, ?_, ?_⟩
    · intro line member
      exact (Table.get?_eq_some_iff holds.nodup).2 member
    · rfl

/-- What was set by hand is overwritten in its place. -/
example : (empty.performAll [.insert "Main" "app", .insert addOpensAttribute "base/io",
    .insert "Agent" "on", .render ⟨[("base", "nio")]⟩]).text =
      "Main: app\nAdd-Opens: base/nio\nAgent: on\n" := by
  decide

end Attributes

end ModuleOpens
