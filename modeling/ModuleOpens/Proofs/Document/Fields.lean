/-
# Proofs.Document.Fields — the fields of a record, and their values decoded

A record has fields when every key has content and no known name is given twice;
then a known name has the value that the record gives it, wherever it stands and
whatever stands beside it. `valuesOf` collects what a record gives to a name.

* `exists_fields?_iff`, `get?_of_fields?`: which records have fields, and which;
* `asList?_map`: a list of written items decodes to the items;
* `asUInt64?_toNat`: a number of 64 bits is decoded whole.
-/
import ModuleOpens.Document.Decode

namespace ModuleOpens

set_option autoImplicit false

/-- What a field reads: the value decoded when it is given, or else what stands for it. -/
theorem Fields.read_eq_some_iff {α : Type} {fields : Fields} {name : String}
    {decode : Document → Option α} {absent : Option α} {value : α} :
    fields.read name decode absent = some value ↔
      (∃ document, fields.get? name = some document ∧ decode document = some value) ∨
        fields.get? name = none ∧ absent = some value := by
  unfold read
  cases fields.get? name <;> simp

namespace Document

variable {format : DocumentFormat} {names : List String} {name : String}
  {members : List (Option String × Document)} {fields all : Fields}

/-! ## The fields of a record -/

/-- The values that a record gives to a name. -/
def valuesOf (name : String) (members : List (Option String × Document)) : List Document :=
  (members.filter fun member => member.1 == some name).map Prod.snd

@[simp]
theorem valuesOf_nil (name : String) : valuesOf name [] = [] := rfl

theorem valuesOf_cons_self (name : String) (value : Document)
    (rest : List (Option String × Document)) :
    valuesOf name ((some name, value) :: rest) = value :: valuesOf name rest := by
  simp [valuesOf]

theorem valuesOf_cons_of_ne {key : Option String} (other : key ≠ some name) (value : Document)
    (rest : List (Option String × Document)) :
    valuesOf name ((key, value) :: rest) = valuesOf name rest := by
  simp [valuesOf, other]

/-- A new field adds its value to what is there already. -/
theorem get?_set_append {key : String} (fresh : fields.get? key = none) (name : String)
    (value : Document) (rest : List (Option String × Document)) :
    ((fields.set key value).get? name).toList ++ valuesOf name rest =
      (fields.get? name).toList ++ valuesOf name ((some key, value) :: rest) := by
  by_cases same : name = key
  · subst same
    rw [Table.get?_set, if_pos rfl, fresh, valuesOf_cons_self]
    rfl
  · rw [Table.get?_set, if_neg same, valuesOf_cons_of_ne (by simpa using Ne.symm same)]

/-- The fields that are read hold what they held before, and what the record gives. -/
theorem get?_of_knownMembers (read : knownMembers names fields members = some all)
    (known : name ∈ names) :
    (all.get? name).toList = (fields.get? name).toList ++ valuesOf name members := by
  induction members generalizing fields with
  | nil =>
    cases read
    rw [valuesOf_nil, List.append_nil]
  | cons member rest ih =>
    obtain ⟨_ | key, value⟩ := member
    · cases read
    · rw [knownMembers] at read
      split at read
      · split at read
        · cases read
        · rename_i fresh
          rw [ih read, get?_set_append (by simpa [Table.contains] using fresh)]
      · rename_i unknown
        have other : some key ≠ some name := by
          rintro ⟨rfl⟩
          exact unknown known
        rw [ih read, valuesOf_cons_of_ne other]

/-- Members are read just when every key has content and no known name comes twice, those that
were there before included. -/
theorem exists_knownMembers_iff (fields : Fields) :
    (∃ all, knownMembers names fields members = some all) ↔
      (∀ member ∈ members, member.1 ≠ none) ∧
        ∀ name ∈ names, ((fields.get? name).toList ++ valuesOf name members).length ≤ 1 := by
  induction members generalizing fields with
  | nil =>
    refine iff_of_true ⟨fields, rfl⟩ ⟨by simp, fun name _ => ?_⟩
    cases fields.get? name <;> simp
  | cons member rest ih =>
    obtain ⟨_ | key, value⟩ := member
    · simp [knownMembers]
    · rw [List.forall_mem_cons, knownMembers]
      by_cases known : key ∈ names
      · rw [if_pos known]
        cases there : fields.get? key with
        | some given =>
          have contained : fields.contains key = true := by simp [Table.contains, there]
          rw [if_pos contained]
          refine iff_of_false (by simp) fun ⟨_, once⟩ => ?_
          have twice := once key known
          rw [there, valuesOf_cons_self] at twice
          simp at twice
        | none =>
          have fresh : ¬ fields.contains key = true := by simp [Table.contains, there]
          rw [if_neg fresh, ih]
          simp only [get?_set_append there, ne_eq, reduceCtorEq, not_false_eq_true, true_and]
      · have others : ∀ name ∈ names,
            valuesOf name ((some key, value) :: rest) = valuesOf name rest := by
          intro name isKnown
          refine valuesOf_cons_of_ne ?_ value rest
          rintro ⟨rfl⟩
          exact known isKnown
        rw [if_neg known, ih]
        simp +contextual [others]

/-- Records with content in every key and no known name twice have fields, no others do. -/
theorem exists_fields?_iff : (∃ fields, (record members).fields? format names = some fields) ↔
    (∀ member ∈ members, member.1 ≠ none) ∧ ∀ name ∈ names, (valuesOf name members).length ≤ 1 :=
  exists_knownMembers_iff .empty

/-- The field of a known name is what the record gives to it. -/
theorem get?_of_fields? (read : (record members).fields? format names = some fields)
    (known : name ∈ names) : (fields.get? name).toList = valuesOf name members :=
  get?_of_knownMembers read known

/-- The keys of a written record have content. -/
theorem keyed_ofMembers (members : List (String × Document)) :
    ∀ member ∈ members.map fun member => (some member.1, member.2), member.1 ≠ none := by
  intro keyed isKeyed
  obtain ⟨member, _, rfl⟩ := List.mem_map.1 isKeyed
  exact Option.some_ne_none member.1

/-! ## Values -/

theorem asText?_eq_some_iff {document : Document} {content : String} :
    document.asText? = some content ↔ document = ofText content := by
  cases document <;> simp [asText?, ofText]

theorem asText?_ofText (content : String) : (ofText content).asText? = some content := rfl

/-- A list of written items decodes to the items. -/
theorem asList?_map {α : Type} {decode : Document → Option α} {encode : α → Document}
    (back : ∀ item, decode (encode item) = some item) (items : List α) :
    (Document.list (items.map encode)).asList? decode = some items := by
  have each : ∀ items : List α, (items.map encode).mapM decode = some items := by
    intro items
    induction items with
    | nil => rfl
    | cons item items ih => simp [List.mapM_cons, back, ih]
  exact each items

theorem asList?_ofTexts (contents : List String) :
    (ofTexts contents).asList? asText? = some contents :=
  asList?_map asText?_ofText contents

/-- Only a list of texts decodes to texts. -/
theorem asList?_asText?_eq_some_iff {document : Document} {contents : List String} :
    document.asList? asText? = some contents ↔ document = ofTexts contents := by
  refine ⟨fun read => ?_, fun written => written ▸ asList?_ofTexts contents⟩
  obtain ⟨items, rfl⟩ : ∃ items, document = .list items := by
    cases document <;> first | exact ⟨_, rfl⟩ | cases read
  refine congrArg Document.list ?_
  change items.mapM asText? = some contents at read
  induction items generalizing contents with
  | nil =>
    cases read
    rfl
  | cons item items ih =>
    simp only [List.mapM_cons, Option.bind_eq_bind, Option.bind_eq_some_iff, asText?_eq_some_iff]
      at read
    obtain ⟨first, rfl, others, later, same⟩ := read
    cases same
    rw [ih later, List.map_cons]

theorem asBool?_bool (value : Bool) : (Document.bool value).asBool? = some value := rfl

/-- A number of 64 bits is decoded whole. -/
theorem asUInt64?_toNat (value : UInt64) :
    (Document.integer (.ofNat value.toNat)).asUInt64? = some value := by
  rw [asUInt64?, if_pos value.toNat_lt, UInt64.ofNat_toNat]

theorem asOptionalText?_elim (content : Option String) :
    (content.elim Document.null ofText).asOptionalText? = some content := by
  cases content <;> rfl

end Document

end ModuleOpens
