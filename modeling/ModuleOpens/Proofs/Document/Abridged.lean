/-
# Proofs.Document.Abridged — records with members left out and others added

Some members of a record have a default. A record may be abridged: members whose
value is their default are left out, the values of others are abridged in their
turn, and members under names that mean nothing are added anywhere. `MemberForm`
says of one member how it may be abridged; forms nest, so this goes to any depth.

* `exists_fields?_of_abridged`: a decoder finds for each of its fields something
  that abridges the value, or nothing when the value is the default;
* `readOr_of_covers`, `readRequired_of_whole`: so each field decodes to what was
  written;
* `asList?_of_abridged`: a list decodes to what was written when each item does.
-/
import Mathlib.Data.List.Forall2
import ModuleOpens.Proofs.Document.Fields

namespace ModuleOpens.Document

set_option autoImplicit false

/-- A member of a record, and how it may be abridged. -/
structure MemberForm where
  name : String
  /-- The value that may be left out. -/
  default : Option Document
  /-- What may stand in the place of a value. -/
  Abridged : Document → Document → Prop

/-- A member whose value stays as it is, unless it is left out. -/
def MemberForm.whole (name : String) (default : Option Document) : MemberForm :=
  ⟨name, default, Eq⟩

/-- Members in order, some of them left out, and others added under names other than `names`. -/
inductive AbridgedMembers (names : List String) :
    List MemberForm → List (String × Document) → List (String × Document) → Prop
  | nil : AbridgedMembers names [] [] []
  | keep {form : MemberForm} {forms : List MemberForm} {value short : Document}
      {members shorter : List (String × Document)} :
      form.Abridged value short → AbridgedMembers names forms members shorter →
      AbridgedMembers names (form :: forms) ((form.name, value) :: members)
        ((form.name, short) :: shorter)
  | leave {form : MemberForm} {forms : List MemberForm} {value : Document}
      {members shorter : List (String × Document)} :
      form.default = some value → AbridgedMembers names forms members shorter →
      AbridgedMembers names (form :: forms) ((form.name, value) :: members) shorter
  | add {forms : List MemberForm} {key : String} {value : Document}
      {members shorter : List (String × Document)} :
      key ∉ names → AbridgedMembers names forms members shorter →
      AbridgedMembers names forms members ((key, value) :: shorter)

/-- The names of the members. -/
def namesOf (forms : List MemberForm) : List String :=
  forms.map MemberForm.name

/-- A record of members with these forms, and the same one abridged. -/
def AbridgedRecord (forms : List MemberForm) (full short : Document) : Prop :=
  ∃ members shorter, full = .ofMembers members ∧ short = .ofMembers shorter ∧
    AbridgedMembers (namesOf forms) forms members shorter

/-- A list, and another one whose items abridge its items, one by one. -/
def AbridgedEach (Abridged : Document → Document → Prop) (full short : Document) : Prop :=
  ∃ items shorter, full = .list items ∧ short = .list shorter ∧
    List.Forall₂ Abridged items shorter

/-- A list of written items abridges itself, when each of them does. -/
theorem abridgedEach_self {α : Type} {encode : α → Document}
    {Abridged : Document → Document → Prop} (self : ∀ item, Abridged (encode item) (encode item))
    (items : List α) :
    AbridgedEach Abridged (.list (items.map encode)) (.list (items.map encode)) := by
  refine ⟨_, _, rfl, rfl, List.forall₂_same.2 fun document written => ?_⟩
  obtain ⟨item, _, rfl⟩ := List.mem_map.1 written
  exact self item

/-- What is given for a member stands for the value: something that abridges it, or nothing when
it is the default. -/
def MemberForm.Covers (form : MemberForm) (value : Document) (given : List Document) : Prop :=
  (∃ short, given = [short] ∧ form.Abridged value short) ∨ given = [] ∧ form.default = some value

variable {names : List String} {forms : List MemberForm}
  {members shorter : List (String × Document)} {name : String} {short : Document}
  {fields : Fields}

/-! ## The fields of an abridged record -/

namespace AbridgedMembers

theorem length_eq (abridged : AbridgedMembers names forms members shorter) :
    forms.length = members.length := by
  induction abridged with
  | nil => rfl
  | keep _ _ ih => rw [List.length_cons, List.length_cons, ih]
  | leave _ _ ih => rw [List.length_cons, List.length_cons, ih]
  | add _ _ ih => exact ih

/-- Nothing is given under a name that other members have. -/
theorem valuesOf_eq_nil (abridged : AbridgedMembers names forms members shorter)
    (known : name ∈ names) (other : name ∉ namesOf forms) :
    valuesOf name (shorter.map fun member => (some member.1, member.2)) = [] := by
  induction abridged with
  | nil => rfl
  | keep _ _ ih =>
    rw [namesOf, List.map_cons, List.mem_cons, not_or] at other
    rw [List.map_cons, valuesOf_cons_of_ne (by simpa using Ne.symm other.1), ih other.2]
  | leave _ _ ih => exact ih fun isLater => other (List.mem_cons_of_mem _ isLater)
  | @add _ key _ _ _ unknown _ ih =>
    have apart : some key ≠ some name := fun same => unknown (Option.some.inj same ▸ known)
    rw [List.map_cons, valuesOf_cons_of_ne apart, ih other]

/-- What is left of each member stands for its value. -/
theorem covers (abridged : AbridgedMembers names forms members shorter)
    (known : ∀ form ∈ forms, form.name ∈ names) (distinct : (namesOf forms).Nodup) :
    ∀ pair ∈ forms.zip members, pair.1.Covers pair.2.2
      (valuesOf pair.1.name (shorter.map fun member => (some member.1, member.2))) := by
  induction abridged with
  | nil => simp
  | @keep form forms value short members shorter isShort rest ih =>
    rw [List.forall_mem_cons] at known
    rw [namesOf, List.map_cons, List.nodup_cons] at distinct
    rw [List.zip_cons_cons, List.forall_mem_cons, List.map_cons]
    refine ⟨.inl ⟨short, ?_, isShort⟩, fun pair later => ?_⟩
    · rw [valuesOf_cons_self, rest.valuesOf_eq_nil known.1 distinct.1]
    · have apart : some form.name ≠ some pair.1.name := fun same =>
        distinct.1 (Option.some.inj same ▸ List.mem_map_of_mem (List.of_mem_zip later).1)
      rw [valuesOf_cons_of_ne apart]
      exact ih known.2 distinct.2 pair later
  | leave silent rest ih =>
    rw [List.forall_mem_cons] at known
    rw [namesOf, List.map_cons, List.nodup_cons] at distinct
    rw [List.zip_cons_cons, List.forall_mem_cons]
    exact ⟨.inr ⟨rest.valuesOf_eq_nil known.1 distinct.1, silent⟩, ih known.2 distinct.2⟩
  | @add _ key _ _ _ unknown rest ih =>
    intro pair present
    have apart : some key ≠ some pair.1.name := fun same =>
      unknown (Option.some.inj same ▸ known pair.1 (List.of_mem_zip present).1)
    rw [List.map_cons, valuesOf_cons_of_ne apart]
    exact ih known distinct pair present

end AbridgedMembers

theorem ofMembers_injective : Function.Injective ofMembers := by
  have keyed : Function.Injective fun member : String × Document => (some member.1, member.2) := by
    rintro ⟨name, value⟩ ⟨_, _⟩ ⟨⟩
    rfl
  intro members shorter same
  exact keyed.list_map (Document.record.inj same)

theorem MemberForm.Covers.length_le {form : MemberForm} {value : Document}
    {given : List Document} (covers : form.Covers value given) : given.length ≤ 1 := by
  rcases covers with ⟨short, rfl, -⟩ | ⟨rfl, -⟩
  · exact Nat.le_refl 1
  · exact Nat.zero_le 1

/-- A decoder of an abridged record finds what stands for the values. -/
theorem exists_fields?_of_abridged (format : DocumentFormat) (names : List String)
    (known : namesOf forms = names) (distinct : names.Nodup)
    (abridged : AbridgedRecord forms (.ofMembers members) short) :
    ∃ fields, short.fields? format names = some fields ∧
      ∀ pair ∈ forms.zip members, pair.1.Covers pair.2.2 (fields.get? pair.1.name).toList := by
  subst known
  obtain ⟨_, shorter, same, rfl, abridged⟩ := abridged
  obtain rfl := ofMembers_injective same
  have known : ∀ form ∈ forms, form.name ∈ namesOf forms := fun form => List.mem_map_of_mem
  have covers := abridged.covers known distinct
  have once : ∀ name ∈ namesOf forms, (valuesOf name
      (shorter.map fun member => (some member.1, member.2))).length ≤ 1 := by
    intro name isName
    rw [namesOf, ← List.map_fst_zip (Nat.le_of_eq abridged.length_eq), List.map_map] at isName
    obtain ⟨pair, present, rfl⟩ := List.mem_map.1 isName
    exact (covers pair present).length_le
  obtain ⟨fields, read⟩ := exists_fields?_iff.2 ⟨keyed_ofMembers shorter, once⟩
  refine ⟨fields, read, fun pair present => ?_⟩
  rw [get?_of_fields? read (known pair.1 (List.of_mem_zip present).1)]
  exact covers pair present

/-! ## Reading what stands for a value -/

section Reading

variable {α : Type} {encode : α → Document} {decode : Document → Option α}
  {Abridged : Document → Document → Prop} {default item : α}

/-- A field with a default decodes to what was written. -/
theorem readOr_of_covers (back : ∀ item, decode (encode item) = some item)
    (kept : ∀ short, Abridged (encode item) short → decode short = some item)
    (covers : (MemberForm.mk name (some (encode default)) Abridged).Covers (encode item)
      (fields.get? name).toList) :
    fields.readOr name decode default = some item := by
  rw [Fields.readOr, Fields.read_eq_some_iff]
  rcases covers with ⟨short, given, isShort⟩ | ⟨missing, silent⟩
  · exact .inl ⟨short, by simpa using given, kept short isShort⟩
  · refine .inr ⟨by simpa using missing, ?_⟩
    rw [← back default, Option.some.inj silent, back item]

theorem readOr_of_whole (back : ∀ item, decode (encode item) = some item)
    (covers : (MemberForm.whole name (some (encode default))).Covers (encode item)
      (fields.get? name).toList) :
    fields.readOr name decode default = some item :=
  readOr_of_covers back (fun _ same => by rw [← same, back item]) covers

/-- A field without a default is given. -/
theorem readRequired_of_whole (back : ∀ item, decode (encode item) = some item)
    (covers : (MemberForm.whole name none).Covers (encode item) (fields.get? name).toList) :
    fields.readRequired name decode = some item := by
  rw [Fields.readRequired, Fields.read_eq_some_iff]
  rcases covers with ⟨_, given, rfl⟩ | ⟨-, silent⟩
  · exact .inl ⟨encode item, by simpa using given, back item⟩
  · cases silent

/-- A list decodes to the items that were written, when each of its items does. -/
theorem asList?_of_abridged
    (each : ∀ item short, Abridged (encode item) short → decode short = some item)
    (items : List α) (abridged : AbridgedEach Abridged (.list (items.map encode)) short) :
    short.asList? decode = some items := by
  obtain ⟨_, shorter, same, rfl, abridged⟩ := abridged
  cases same
  change shorter.mapM decode = some items
  induction items generalizing shorter with
  | nil =>
    cases abridged
    rfl
  | cons item items ih =>
    cases abridged with
    | cons first rest => simp [List.mapM_cons, each item _ first, ih _ rest]

end Reading

end ModuleOpens.Document
