/-
# Proofs.Document.JsonReadBack — written JSON documents are read back

A writer's layout puts nothing but blanks before items and members and around
the colon, and the reader skips blanks wherever they may stand. So what is
written for a document is read back as that document, in the compact form and
in the indented one, for documents whose texts and keys have content and whose
numbers are integers. The reader's fuel falls by one for each nesting and each
item, and what is written for either has a character of its own: the length of
the text is always enough.

* `parse_pretty`, `parse_compact`: the document of a written text.
-/
import ModuleOpens.Proofs.Document.JsonLexemes

namespace ModuleOpens

set_option autoImplicit false

/-- Every text and key of the document has content, and every number is an integer. -/
inductive Document.Exact : Document → Prop
  | null : Exact .null
  | bool (value : Bool) : Exact (.bool value)
  | integer (value : Int) : Exact (.integer value)
  | text (content : String) : Exact (.ofText content)
  | list {items : List Document} (exact : ∀ item ∈ items, Exact item) : Exact (.list items)
  | members {members : List (String × Document)} (exact : ∀ member ∈ members, Exact member.2) :
    Exact (.ofMembers members)

theorem Document.exact_list_map {α : Type} {encode : α → Document}
    (exact : ∀ item, (encode item).Exact) (items : List α) :
    (Document.list (items.map encode)).Exact := by
  refine .list fun document member => ?_
  obtain ⟨item, _, rfl⟩ := List.mem_map.1 member
  exact exact item

theorem Document.exact_ofTexts (contents : List String) : (Document.ofTexts contents).Exact :=
  exact_list_map .text contents

namespace Json

/-! ## Blanks -/

/-- The layout puts blanks where the reader skips them, and one colon. -/
structure Layout.Neutral (layout : Layout) : Prop where
  lead : ∀ depth, ∀ c ∈ layout.lead depth, isBlank c = true
  colon : ∃ after, layout.colon = ':' :: after ∧ ∀ c ∈ after, isBlank c = true

theorem Layout.neutral_compact : Layout.compact.Neutral where
  lead _ _ member := absurd member List.not_mem_nil
  colon := ⟨[], rfl, fun _ member => absurd member List.not_mem_nil⟩

theorem Layout.neutral_pretty : Layout.pretty.Neutral where
  lead depth c member := by
    rcases List.mem_cons.1 member with rfl | member
    · rfl
    · rw [List.eq_of_mem_replicate member]
      rfl
  colon := ⟨[' '], rfl, fun c member => by rw [List.mem_singleton.1 member]; rfl⟩

variable {layout : Layout} {blanks : List Char}

theorem skipBlanks_append (blank : ∀ c ∈ blanks, isBlank c = true) (text : List Char) :
    skipBlanks (blanks ++ text) = skipBlanks text :=
  List.dropWhile_append_of_pos blank

theorem skipBlanks_cons {c : Char} (solid : isBlank c = false) (text : List Char) :
    skipBlanks (c :: text) = c :: text := by
  simp [skipBlanks, solid]

theorem read_append (blank : ∀ c ∈ blanks, isBlank c = true) (fuel : Nat) (text : List Char) :
    read fuel (blanks ++ text) = read fuel text := by
  cases fuel with
  | zero => rfl
  | succ fuel => simp only [read, skipBlanks_append blank]

theorem readItems_append (blank : ∀ c ∈ blanks, isBlank c = true) (fuel : Nat)
    (text : List Char) : readItems fuel (blanks ++ text) = readItems fuel text := by
  cases fuel with
  | zero => rfl
  | succ fuel => simp only [readItems, read_append blank]

theorem readMembers_append (blank : ∀ c ∈ blanks, isBlank c = true) (fuel : Nat)
    (text : List Char) : readMembers fuel (blanks ++ text) = readMembers fuel text := by
  cases fuel with
  | zero => rfl
  | succ fuel => simp only [readMembers, skipBlanks_append blank]

theorem endsNumber_append (blank : ∀ c ∈ blanks, isBlank c = true) {rest : List Char}
    (ends : EndsNumber rest) : EndsNumber (blanks ++ rest) := by
  cases blanks with
  | nil => exact ends
  | cons c blanks =>
    rintro d ⟨⟩
    have h := blank c List.mem_cons_self
    simp only [isBlank, Bool.or_eq_true, beq_iff_eq] at h
    rcases h with ((rfl | rfl) | rfl) | rfl <;> decide

theorem endsNumber_cons {c : Char} (other : c.isDigit = false ∧ c ≠ '.' ∧ c ≠ 'e' ∧ c ≠ 'E')
    (rest : List Char) : EndsNumber (c :: rest) := by
  rintro d ⟨⟩
  exact other

/-! ## Single documents -/

/-- What is written for the document is read back, with what stands behind it. -/
def ReadsBack (layout : Layout) (document : Document) : Prop :=
  ∀ depth fuel rest, (write layout depth document).length ≤ fuel → EndsNumber rest →
    read fuel (write layout depth document ++ rest) = some (document, rest)

/-- What is written for the document begins with something that is no blank and closes
nothing. -/
def Starts (layout : Layout) (document : Document) : Prop :=
  ∀ depth, ∃ c more, write layout depth document = c :: more ∧ isBlank c = false ∧ c ≠ ']'

/-- An integer begins with a digit or a minus sign, and with nothing else that the reader
looks for. -/
theorem integerChars_eq_cons (value : Int) :
    ∃ c more, integerChars value = c :: more ∧ (c.isDigit = true ∨ c = '-') := by
  cases value with
  | ofNat n =>
    obtain ⟨c, more, written, digit⟩ := digitsOf_eq_cons n
    exact ⟨c, more, written, .inl digit⟩
  | negSucc n => exact ⟨'-', digitsOf (n + 1), rfl, .inr rfl⟩

theorem isBlank_eq_false_of_digit {c : Char} (start : c.isDigit = true ∨ c = '-') :
    isBlank c = false := by
  refine Bool.eq_false_iff.2 fun blank => ?_
  simp only [isBlank, Bool.or_eq_true, beq_iff_eq] at blank
  rcases blank with ((rfl | rfl) | rfl) | rfl <;> exact absurd start (by decide)

theorem read_of_digit {c : Char} (start : c.isDigit = true ∨ c = '-') (fuel : Nat)
    (more : List Char) : read (fuel + 1) (c :: more) = readNumber (c :: more) := by
  rw [read, skipBlanks_cons (isBlank_eq_false_of_digit start)]
  split
  case h_7 => rfl
  all_goals
    rename_i same
    cases same
    exact absurd start (by decide)

theorem starts_integer (value : Int) : Starts layout (.integer value) := by
  intro depth
  obtain ⟨c, more, written, start⟩ := integerChars_eq_cons value
  refine ⟨c, more, by rw [write, written], isBlank_eq_false_of_digit start, ?_⟩
  rintro rfl
  exact absurd start (by decide)

theorem readsBack_integer (value : Int) : ReadsBack layout (.integer value) := by
  intro depth fuel rest enough ends
  obtain ⟨c, more, written, start⟩ := integerChars_eq_cons value
  rw [write] at enough ⊢
  cases fuel with
  | zero => simp [written] at enough
  | succ fuel =>
    have number := readNumber_integerChars value ends
    rw [written, List.cons_append] at number ⊢
    rw [read_of_digit start, number]

theorem readsBack_text (content : String) : ReadsBack layout (.ofText content) := by
  intro depth fuel rest enough ends
  cases fuel with
  | zero => simp [Document.ofText, write, textChars] at enough
  | succ fuel =>
    simp only [Document.ofText, write, textChars, List.cons_append, List.append_assoc, read,
      List.nil_append, Option.getD_some]
    rw [skipBlanks_cons (by decide)]
    simp only [readText_escaped, Option.map_some]

/-! ## Lists and records -/

theorem endsNumber_writeItems (layout : Layout) (depth : Nat) (items : List Document) {rest : List Char}
    (ends : EndsNumber rest) : EndsNumber (writeItems layout depth items ++ rest) := by
  cases items with
  | nil => exact ends
  | cons item items => exact endsNumber_cons (by decide) _

theorem endsNumber_writeMembers (layout : Layout) (depth : Nat)
    (members : List (Option String × Document)) {rest : List Char} (ends : EndsNumber rest) :
    EndsNumber (writeMembers layout depth members ++ rest) := by
  cases members with
  | nil => exact ends
  | cons member members => exact endsNumber_cons (by decide) _

/-- The items of a list are read back up to its bracket, by induction on the items that
follow the first. -/
theorem readItems_written (neutral : layout.Neutral) (blank : ∀ c ∈ blanks, isBlank c = true)
    (depth : Nat) (rest : List Char) {items : List Document} :
    ∀ (item : Document) (fuel : Nat), (∀ each ∈ item :: items, ReadsBack layout each) →
      (write layout depth item).length + (writeItems layout depth items).length < fuel →
      readItems fuel (write layout depth item ++ (writeItems layout depth items
        ++ (blanks ++ ']' :: rest))) = some (item :: items, rest) := by
  have close : EndsNumber (blanks ++ ']' :: rest) :=
    endsNumber_append blank (endsNumber_cons (by decide) rest)
  induction items with
  | nil =>
    intro item fuel back enough
    obtain _ | fuel := fuel
    · exact absurd enough (Nat.not_lt_zero _)
    · have first := back item List.mem_cons_self depth fuel _ (by omega) close
      simp only [writeItems, List.nil_append, readItems, first, skipBlanks_append blank]
      rw [skipBlanks_cons (by decide)]
      rfl
  | cons next items ih =>
    intro item fuel back enough
    obtain _ | fuel := fuel
    · exact absurd enough (Nat.not_lt_zero _)
    · have first := back item List.mem_cons_self depth fuel _ (by omega)
        (endsNumber_writeItems layout depth (next :: items) close)
      have others := ih next fuel (fun each member => back each (List.mem_cons_of_mem _ member))
        (by simp only [writeItems, List.length_cons, List.length_append] at enough; omega)
      simp only [readItems, first]
      simp only [writeItems, List.cons_append, List.append_assoc]
      rw [skipBlanks_cons (by decide)]
      simp only [readItems_append (neutral.lead depth), others, Option.map_some]

/-- One member is read up to what stands behind its value, which decides whether others
follow. -/
theorem readMembers_member (neutral : layout.Neutral) {depth fuel : Nat} (key : String)
    {value : Document} {tail : List Char} (back : ReadsBack layout value)
    (enough : (write layout depth value).length ≤ fuel) (ends : EndsNumber tail)
    {result : Option (List (Option String × Document) × List Char)}
    (follows : (match skipBlanks tail with
      | ',' :: rest =>
        (readMembers fuel rest).map fun (members, rest) => ((some key, value) :: members, rest)
      | '\x7d' :: rest => some ([(some key, value)], rest)
      | _ => none) = result) :
    readMembers (fuel + 1)
      (textChars (some key) ++ (layout.colon ++ (write layout depth value ++ tail))) = result := by
  obtain ⟨after, colon, afterBlank⟩ := neutral.colon
  simp only [textChars, Option.getD_some, List.cons_append, List.append_assoc, readMembers,
    List.nil_append, colon]
  rw [skipBlanks_cons (by decide)]
  simp only [readText_escaped]
  rw [skipBlanks_cons (by decide)]
  simp only [read_append afterBlank, back depth fuel tail enough ends]
  exact follows

/-- The members of a record are read back up to its brace, by induction on the members that
follow the first. -/
theorem readMembers_written (neutral : layout.Neutral) (blank : ∀ c ∈ blanks, isBlank c = true)
    (depth : Nat) (rest : List Char) {members : List (String × Document)} :
    ∀ (key : String) (value : Document) (fuel : Nat),
      (∀ each ∈ (key, value) :: members, ReadsBack layout each.2) →
      (write layout depth value).length + (writeMembers layout depth
        (members.map fun member => (some member.1, member.2))).length < fuel →
      readMembers fuel (textChars (some key) ++ (layout.colon ++ (write layout depth value
        ++ (writeMembers layout depth (members.map fun member => (some member.1, member.2))
        ++ (blanks ++ '\x7d' :: rest))))) =
      some (((key, value) :: members).map fun member => (some member.1, member.2), rest) := by
  have close : EndsNumber (blanks ++ '\x7d' :: rest) :=
    endsNumber_append blank (endsNumber_cons (by decide) rest)
  induction members with
  | nil =>
    intro key value fuel back enough
    obtain _ | fuel := fuel
    · exact absurd enough (Nat.not_lt_zero _)
    · have first : ReadsBack layout value := back (key, value) List.mem_cons_self
      refine readMembers_member neutral key first (by omega)
        (endsNumber_writeMembers layout depth _ close) ?_
      simp only [List.map_nil, writeMembers, List.nil_append, skipBlanks_append blank]
      rw [skipBlanks_cons (by decide)]
      rfl
  | cons next members ih =>
    intro key value fuel back enough
    obtain _ | fuel := fuel
    · exact absurd enough (Nat.not_lt_zero _)
    · have first : ReadsBack layout value := back (key, value) List.mem_cons_self
      have others := ih next.1 next.2 fuel
        (fun each member => back each (List.mem_cons_of_mem _ member))
        (by
          simp only [List.map_cons, writeMembers, List.length_cons, List.length_append] at enough
          omega)
      refine readMembers_member neutral key first (by omega)
        (endsNumber_writeMembers layout depth _ close) ?_
      simp only [List.map_cons, writeMembers, List.cons_append, List.append_assoc]
      rw [skipBlanks_cons (by decide)]
      simp only [readMembers_append (neutral.lead depth), others, Option.map_some]
      rfl

/-! ## Whole documents -/

theorem starts_of_exact {document : Document} (exact : document.Exact) :
    Starts layout document := by
  intro depth
  cases exact with
  | null => exact ⟨'n', _, rfl, by decide, by decide⟩
  | bool value => cases value <;> exact ⟨_, _, rfl, by decide, by decide⟩
  | integer value => exact starts_integer value depth
  | text content => exact ⟨'"', _, rfl, by decide, by decide⟩
  | @list items _ => cases items <;> exact ⟨'[', _, rfl, by decide, by decide⟩
  | @members members _ => cases members <;> exact ⟨'\x7b', _, rfl, by decide, by decide⟩

/-- What is written between brackets is longer than what is written for the items. -/
theorem readsBack_list (neutral : layout.Neutral) {items : List Document}
    (starts : ∀ item ∈ items, Starts layout item) (back : ∀ item ∈ items, ReadsBack layout item) :
    ReadsBack layout (.list items) := by
  intro depth fuel rest enough _
  obtain _ | fuel := fuel
  · cases items <;> simp [write] at enough
  · cases items with
    | nil =>
      rw [write, List.cons_append, read, skipBlanks_cons (by decide)]
      rfl
    | cons item items =>
      obtain ⟨c, more, first, solid, other⟩ := starts item List.mem_cons_self (depth + 1)
      have whole := readItems_written neutral (neutral.lead depth) (depth + 1) rest
        _ fuel back
        (by simp only [write, List.length_cons, List.length_append] at enough; omega)
      simp only [write, List.cons_append, List.append_assoc, List.nil_append] at whole ⊢
      rw [read, skipBlanks_cons (by decide)]
      simp only [skipBlanks_append (neutral.lead (depth + 1))]
      rw [first, List.cons_append] at whole ⊢
      rw [skipBlanks_cons solid]
      split
      · rename_i same
        exact absurd (List.cons.inj same).1 other
      · rw [whole]
        rfl

theorem readsBack_members (neutral : layout.Neutral) {members : List (String × Document)}
    (back : ∀ member ∈ members, ReadsBack layout member.2) :
    ReadsBack layout (.ofMembers members) := by
  intro depth fuel rest enough _
  obtain _ | fuel := fuel
  · cases members <;> simp [Document.ofMembers, write] at enough
  · cases members with
    | nil => 
      rw [Document.ofMembers, List.map_nil, write, List.cons_append, read,
        skipBlanks_cons (by decide)]
      rfl
    | cons member members => 
      have whole := readMembers_written neutral (neutral.lead depth) (depth + 1) rest
        _ _ fuel back
        (by 
          simp only [Document.ofMembers, List.map_cons, write, List.length_cons, 
            List.length_append] at enough
          omega)
      simp only [Document.ofMembers, List.map_cons, write, List.cons_append, List.append_assoc,
        List.nil_append] at whole ⊢
      rw [read, skipBlanks_cons (by decide)]
      simp only [skipBlanks_append (neutral.lead (depth + 1))]
      simp only [textChars, List.cons_append] at whole ⊢
      rw [skipBlanks_cons (by decide)]
      split
      · rename_i same
        exact absurd (List.cons.inj same).1 (by decide)
      · rw [whole]
        rfl

theorem readsBack_of_exact (neutral : layout.Neutral) {document : Document}
    (exact : document.Exact) : ReadsBack layout document := by
  induction exact with
  | null =>
    intro depth fuel rest enough ends
    obtain _ | fuel := fuel
    · simp [write] at enough
    · rfl
  | bool value =>
    intro depth fuel rest enough ends
    obtain _ | fuel := fuel
    · cases value <;> simp [write] at enough
    · cases value <;> rfl
  | integer value => exact readsBack_integer value
  | text content => exact readsBack_text content
  | list exact back =>
    exact readsBack_list neutral (fun item member => starts_of_exact (exact item member)) back
  | members exact back => exact readsBack_members neutral back

/-- The document of a text is its first one, when nothing but blanks follows. -/
theorem parse_eq_some_iff {text : String} {document : Document} :
    parse text = some document ↔
      ∃ rest, readFirst text.toList = some (document, rest) ∧ atEnd rest = true := by
  simp [parse, Option.bind_eq_some_iff]

/-- The first document of a written text, when nothing follows. -/
theorem parse_write (neutral : layout.Neutral) {document : Document} (exact : document.Exact) :
    parse (String.ofList (write layout 0 document)) = some document := by
  have whole := readsBack_of_exact neutral exact 0 (2 * (write layout 0 document).length + 1) []
    (by omega) (by rintro c ⟨⟩)
  rw [List.append_nil] at whole
  rw [parse, String.toList_ofList, readFirst, whole]
  rfl

/-- The document of a text with one item or member to a line. -/
theorem parse_pretty {document : Document} (exact : document.Exact) :
    parse (pretty document) = some document :=
  parse_write Layout.neutral_pretty exact

/-- The document of a text without blanks. -/
theorem parse_compact {document : Document} (exact : document.Exact) :
    parse (compact document) = some document :=
  parse_write Layout.neutral_compact exact

end Json

end ModuleOpens
