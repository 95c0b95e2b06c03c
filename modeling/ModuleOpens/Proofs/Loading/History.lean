/-
# Proofs.Loading.History — what a loader's history tells

The steps of a loader fall into passages: the source is asked, it answers and the
load that asked comes back with that answer, or a load comes back without asking.
A passage is about one name, and only the one in which the source gives bytes
defines anything, of a name that had no unit. `Tells` says that a history is made
of passages and what they defined; what holds of a whole history is read off it
by induction on the passages.

* `Tells.loaded_iff`: the units that are defined are those that some load gave;
* `Tells.later`: once bytes or a unit came for a name, every later step about it
  is a load that gives the unit;
* `Tells.after_missed`, `Tells.before_failed`: what stands next to an answer
  without bytes, and to a failure.
-/
import ModuleOpens.Loading.Units
import Mathlib.Data.Set.Card

namespace ModuleOpens

set_option autoImplicit false

namespace LoadStep

/-- The unit that a step is about. -/
def name : LoadStep → String
  | .read name => name
  | .gave name _ => name
  | .loaded name _ _ => name
  | .failed name _ _ => name

/-- Bytes or a unit came. -/
def Brings : LoadStep → Prop
  | .gave _ (some _) => True
  | .loaded _ _ _ => True
  | _ => False

end LoadStep

/-- The steps about one name that stand together, with the units that are defined before them
and after. -/
inductive Passage (handle : LoaderHandle) (defined : Table String DefinedUnit) :
    List LoadStep → Table String DefinedUnit → Prop
  /-- The source is asked for a unit that there is not. -/
  | read {name : String} (unknown : defined.get? name = none) :
    Passage handle defined [.read name] defined
  /-- It gives nothing, and the load that asked fails. -/
  | missed {name : String} (unknown : defined.get? name = none) (pending : Nat) :
    Passage handle defined [.gave name none, .failed name (.notFound name) pending] defined
  /-- It gives bytes, and the load that asked gives the unit that is made of them. -/
  | made {unit : DefinedUnit} (unknown : defined.get? unit.name = none)
    (own : unit.loader = handle) (pending : Nat) :
    Passage handle defined
      [.gave unit.name (some unit.bytes), .loaded unit.name unit pending]
      (defined.set unit.name unit)
  /-- A load gives the unit that there is. -/
  | found {name : String} {unit : DefinedUnit} (known : defined.get? name = some unit)
    (pending : Nat) : Passage handle defined [.loaded name unit pending] defined
  /-- A load waits in vain for the one that it stands in. -/
  | refused {name : String} (unknown : defined.get? name = none) (reason : String)
    (pending : Nat) :
    Passage handle defined [.failed name (.coordination name reason) pending] defined

/-- The history is made of passages, and these units are defined at its end. -/
inductive Tells (handle : LoaderHandle) : List LoadStep → Table String DefinedUnit → Prop
  | start : Tells handle [] .empty
  | append {history steps : List LoadStep} {defined after : Table String DefinedUnit}
    (tells : Tells handle history defined) (passage : Passage handle defined steps after) :
    Tells handle (history ++ steps) after

variable {handle : LoaderHandle} {history steps before rest : List LoadStep}
  {defined after : Table String DefinedUnit} {name : String} {unit : DefinedUnit}

/-! ## One passage -/

/-- A passage about a name that had a unit is a load that gives it. -/
theorem Passage.found_of_known (passage : Passage handle defined steps after)
    (known : defined.get? name = some unit) {step : LoadStep} (member : step ∈ steps)
    (about : step.name = name) : ∃ pending, step = .loaded name unit pending := by
  cases passage with
  | found same pending =>
    rw [List.mem_singleton.1 member] at about ⊢
    cases about
    cases same.symm.trans known
    exact ⟨pending, rfl⟩
  | read unknown =>
    rw [List.mem_singleton.1 member] at about
    cases about
    cases unknown.symm.trans known
  | refused unknown reason pending =>
    rw [List.mem_singleton.1 member] at about
    cases about
    cases unknown.symm.trans known
  | missed unknown pending =>
    rcases List.mem_pair.1 member with rfl | rfl <;>
    · cases about
      cases unknown.symm.trans known
  | made unknown own pending =>
    rcases List.mem_pair.1 member with rfl | rfl <;>
    · cases about
      cases unknown.symm.trans known

/-- What a passage defines it defines for good. -/
theorem Passage.get?_of_known (passage : Passage handle defined steps after)
    (known : defined.get? name = some unit) : after.get? name = some unit := by
  cases passage with
  | @made made unknown own pending =>
    rw [Table.get?_set, if_neg]
    · exact known
    · rintro rfl
      cases unknown.symm.trans known
  | _ => exact known

/-- What is defined after a passage was defined before it, or is what the passage tells. -/
theorem Passage.known_or_made (passage : Passage handle defined steps after)
    (known : after.get? name = some unit) :
    defined.get? name = some unit ∨
      unit.name = name ∧ unit.loader = handle ∧ defined.get? name = none ∧
        ∃ pending, steps = [.gave name (some unit.bytes), .loaded name unit pending] := by
  cases passage with
  | @made made unknown own pending =>
    rw [Table.get?_set] at known
    by_cases same : name = made.name
    · rw [if_pos same] at known
      cases known
      subst same
      exact .inr ⟨rfl, own, unknown, pending, rfl⟩
    · rw [if_neg same] at known
      exact .inl known
  | _ => exact .inl known

/-- A step of a passage that brings bytes or a unit is about a name that has a unit after it. -/
theorem Passage.known_of_brings (passage : Passage handle defined steps after) {step : LoadStep}
    (member : step ∈ steps) (brings : step.Brings) :
    ∃ unit, after.get? step.name = some unit ∧
      (∀ bytes, step = .gave step.name (some bytes) → unit.bytes = bytes) ∧
      ∀ given pending, step = .loaded step.name given pending → unit = given := by
  cases passage with
  | @made made unknown own pending =>
    have known : (defined.set made.name made).get? made.name = some made := by
      rw [Table.get?_set, if_pos rfl]
    rcases List.mem_pair.1 member with rfl | rfl
    · refine ⟨made, known, ?_, ?_⟩
      · rintro bytes ⟨⟩
        rfl
      · rintro given more ⟨⟩
    · refine ⟨made, known, ?_, ?_⟩
      · rintro bytes ⟨⟩
      · rintro given more ⟨⟩
        rfl
  | @found name unit known pending =>
    rw [List.mem_singleton.1 member]
    refine ⟨unit, known, ?_, ?_⟩
    · rintro bytes ⟨⟩
    · rintro given more ⟨⟩
      rfl
  | read unknown =>
    rw [List.mem_singleton.1 member] at brings
    cases brings
  | refused unknown reason pending =>
    rw [List.mem_singleton.1 member] at brings
    cases brings
  | missed unknown pending =>
    rcases List.mem_pair.1 member with rfl | rfl <;> cases brings

/-- Within a passage, too, nothing but loads of the unit comes after the bytes. -/
theorem Passage.later (passage : Passage handle defined steps after) :
    steps.Pairwise fun earlier later => earlier.Brings → later.name = earlier.name →
      ∃ unit pending, later = .loaded earlier.name unit pending := by
  cases passage with
  | @made made unknown own pending =>
    refine List.pairwise_pair.2 fun _ _ => ?_
    exact ⟨made, pending, rfl⟩
  | missed unknown pending => exact List.pairwise_pair.2 fun brings => nomatch brings
  | _ => exact List.pairwise_singleton _ _

/-- An answer without bytes is followed by the failure of the load that asked. -/
theorem Passage.after_missed (passage : Passage handle defined steps after)
    (split : steps = before ++ .gave name none :: rest) :
    ∃ pending more, rest = .failed name (.notFound name) pending :: more := by
  cases passage with
  | missed unknown pending =>
    rcases List.cons_eq_append_iff.1 split with ⟨rfl, same⟩ | ⟨front, rfl, same⟩
    · cases same
      exact ⟨pending, [], rfl⟩
    · rcases List.cons_eq_append_iff.1 same with ⟨-, other⟩ | ⟨_, -, nothing⟩
      · cases other
      · simp at nothing
  | _ => simp [List.cons_eq_append_iff] at split

/-- A load fails because the source gave nothing, or because it waits for the one that it
stands in. -/
theorem Passage.before_failed (passage : Passage handle defined steps after) {error : LoadError}
    {pending : Nat} (split : steps = before ++ .failed name error pending :: rest) :
    (error = .notFound name ∧ before = [.gave name none]) ∨
      ∃ reason, error = .coordination name reason := by
  cases passage with
  | missed unknown pending =>
    rcases List.cons_eq_append_iff.1 split with ⟨-, other⟩ | ⟨front, rfl, same⟩
    · cases other
    · rcases List.cons_eq_append_iff.1 same with ⟨rfl, other⟩ | ⟨_, -, nothing⟩
      · cases other
        exact .inl ⟨rfl, rfl⟩
      · simp at nothing
  | refused unknown reason pending =>
    rcases List.cons_eq_append_iff.1 split with ⟨rfl, same⟩ | ⟨_, -, nothing⟩
    · cases same
      exact .inr ⟨reason, rfl⟩
    · simp at nothing
  | _ => simp [List.cons_eq_append_iff] at split

/-! ## Whole histories -/

theorem Tells.known_of_brings (tells : Tells handle history defined) {step : LoadStep}
    (member : step ∈ history) (brings : step.Brings) :
    ∃ unit, defined.get? step.name = some unit ∧
      (∀ bytes, step = .gave step.name (some bytes) → unit.bytes = bytes) ∧
      ∀ given pending, step = .loaded step.name given pending → unit = given := by
  induction tells with
  | start => cases member
  | append tells passage ih =>
    rcases List.mem_append.1 member with old | new
    · obtain ⟨unit, known, same⟩ := ih old
      exact ⟨unit, passage.get?_of_known known, same⟩
    · exact passage.known_of_brings new brings

/-- Every defined unit is made of bytes that the source gave, and some load gave it. -/
theorem Tells.told_of_known (tells : Tells handle history defined)
    (known : defined.get? name = some unit) :
    unit.name = name ∧ unit.loader = handle ∧ .gave name (some unit.bytes) ∈ history ∧
      ∃ pending, .loaded name unit pending ∈ history := by
  induction tells with
  | start => cases known
  | append tells passage ih =>
    rcases passage.known_or_made known with old | ⟨named, own, -, pending, rfl⟩
    · obtain ⟨named, own, gave, pending, loaded⟩ := ih old
      exact ⟨named, own, List.mem_append_left _ gave, pending, List.mem_append_left _ loaded⟩
    · exact ⟨named, own, by simp, pending, by simp⟩

/-- The units that are defined are those that some load gave. -/
theorem Tells.loaded_iff (tells : Tells handle history defined) :
    (∃ pending, .loaded name unit pending ∈ history) ↔ defined.get? name = some unit := by
  constructor
  · rintro ⟨pending, member⟩
    obtain ⟨given, known, -, same⟩ := tells.known_of_brings member trivial
    rw [← same unit pending rfl]
    exact known
  · exact fun known => (tells.told_of_known known).2.2.2

theorem Tells.nodup (tells : Tells handle history defined) : defined.keys.Nodup := by
  induction tells with
  | start => exact List.nodup_nil
  | append tells passage ih =>
    cases passage with
    | made unknown own pending => exact Table.nodup_keys_set ih _ _
    | _ => exact ih

/-- As many names have a unit as there are names that some load gave a unit for. -/
theorem Tells.encard_loaded (tells : Tells handle history defined) :
    {name | ∃ unit pending, LoadStep.loaded name unit pending ∈ history}.encard = defined.size := by
  have listed : {name | ∃ unit pending, LoadStep.loaded name unit pending ∈ history} =
      (defined.keys.toFinset : Set String) := by
    ext name
    simp only [Set.mem_ofPred_eq, List.coe_toFinset, tells.loaded_iff, Table.mem_keys_iff]
  rw [listed, Set.encard_coe_eq_coe_finsetCard, List.toFinset_card_of_nodup tells.nodup]
  simp [Table.keys, Table.size]

/-- Once bytes or a unit came for a name, every later step about it is a load that gives the
unit. -/
theorem Tells.later (tells : Tells handle history defined) :
    history.Pairwise fun earlier later => earlier.Brings → later.name = earlier.name →
      ∃ unit pending, later = .loaded earlier.name unit pending := by
  induction tells with
  | start => exact List.Pairwise.nil
  | append tells passage ih =>
    refine List.pairwise_append.2 ⟨ih, passage.later, ?_⟩
    intro earlier old later new brings about
    obtain ⟨unit, known, -⟩ := tells.known_of_brings old brings
    obtain ⟨pending, given⟩ := passage.found_of_known known new about
    exact ⟨unit, pending, given⟩

/-- A step of a history that goes on stands in what there was, or in what was added. -/
theorem split_append {step : LoadStep} (split : history ++ steps = before ++ step :: rest) :
    (∃ more, history = before ++ step :: more ∧ rest = more ++ steps) ∨
      ∃ front, before = history ++ front ∧ steps = front ++ step :: rest := by
  rcases List.append_eq_append_iff.1 split with ⟨front, same, added⟩ | ⟨more, same, added⟩
  · exact .inr ⟨front, same, added⟩
  · rcases List.cons_eq_append_iff.1 added with ⟨rfl, added⟩ | ⟨left, rfl, added⟩
    · exact .inr ⟨[], by simpa using same.symm, added.symm⟩
    · exact .inl ⟨left, same, (List.cons.inj added).2⟩

theorem Tells.after_missed (tells : Tells handle history defined) {rest : List LoadStep}
    (split : history = before ++ .gave name none :: rest) :
    ∃ pending more, rest = .failed name (.notFound name) pending :: more := by
  induction tells generalizing rest with
  | start => simp at split
  | append tells passage ih =>
    rcases split_append split with ⟨more, old, rfl⟩ | ⟨front, -, new⟩
    · obtain ⟨pending, between, rfl⟩ := ih old
      exact ⟨pending, _, List.cons_append⟩
    · exact passage.after_missed new

theorem Tells.before_failed (tells : Tells handle history defined) {error : LoadError}
    {pending : Nat} {before rest : List LoadStep}
    (split : history = before ++ .failed name error pending :: rest) :
    (error = .notFound name ∧ ∃ front, before = front ++ [.gave name none]) ∨
      ∃ reason, error = .coordination name reason := by
  induction tells generalizing rest with
  | start => simp at split
  | @append history _ _ _ tells passage ih =>
    rcases split_append split with ⟨more, old, -⟩ | ⟨front, rfl, new⟩
    · exact ih old
    · rcases passage.before_failed new with ⟨missing, rfl⟩ | refused
      · exact .inl ⟨missing, history, rfl⟩
      · exact .inr refused

end ModuleOpens
