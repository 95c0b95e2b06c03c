/-
# Proofs.Context.Frozen — a name keeps the answer that it got first

A context is asked for names, one by one or by the batches that are planned in it, and
its machine is used for other things in between: modules are defined that would change
the answers, or hide others. A `Question` records one asking, with the session that
it found and the one that it left. A batch is nothing but questions, one after the other
(`chain_batch`), so a batch with other uses of the machine between its questions is a run of
single questions.

What a context remembers is its log of questions: each of them fits those before it
(`Question.Fits`), and the keys of the table are the names in the log, but for that of all
unnamed modules (`Recalls`).

* `asked_ask`: a question is answered in one of three ways;
* `Recalls.ask`, `Recalls.run`: what one question keeps, and so a run;
* `size_run`: the context remembers one name more for every lookup that it makes;
* `answers_frozen`: so a name has the answer that the machine gave when it was first asked for,
  and the machine was asked once.
-/
import Mathlib.Data.Finset.Card
import ModuleOpens.Proofs.Strategy.Plan

namespace ModuleOpens

set_option autoImplicit false

/-- A context with the machine that it asks. -/
structure Session where
  context : LoaderContext
  machine : Machine

/-- One asking for a name: the session that it found, the answer, and the session that it left. -/
structure Question where
  name : String
  found : Session
  answer : Option ModuleHandle
  left : Session

/-- One use of a session. -/
inductive Use where
  /-- The context is asked for a name. -/
  | find (name : String)
  /-- A batch is planned in the context. -/
  | plan (requests : List OpenRequest)
  /-- The machine is used past the context. -/
  | perform (operation : Operation)

namespace Session

/-- A session with a new context of a loader. -/
def ofLoader (machine : Machine) (loader : LoaderHandle) : Session :=
  ⟨(LoaderContext.ofLoader machine loader).1, (LoaderContext.ofLoader machine loader).2⟩

/-- The context is asked for a name. -/
def ask (session : Session) (name : String) : Question :=
  let resolution := session.context.find session.machine name
  ⟨name, session, resolution.module, ⟨resolution.context, resolution.host⟩⟩

/-- What a draft has come to. -/
def ofDraft (draft : OpenPlan.Draft Machine) : Session :=
  ⟨draft.context, draft.host⟩

/-- The session after a use. -/
def step (session : Session) : Use → Session
  | .find name => (session.ask name).left
  | .plan requests => ofDraft (OpenPlan.ofRequests session.context session.machine requests)
  | .perform operation => { session with machine := session.machine.perform operation }

/-- The session after a run. -/
def run (session : Session) (uses : List Use) : Session :=
  uses.foldl step session

/-- The questions of one request: the opening module is not asked for when there is no opened
one. -/
def questionsOf (session : Session) (request : OpenRequest) : List Question :=
  match (session.ask request.opened).answer with
  | none => [session.ask request.opened]
  | some _ =>
    [session.ask request.opened, (session.ask request.opened).left.ask request.opening]

/-- The questions of the requests that are still to come. -/
def questionsOfAll (draft : OpenPlan.Draft Machine) : List OpenRequest → List Question
  | [] => []
  | request :: rest =>
    (ofDraft draft).questionsOf request ++ questionsOfAll (draft.add request) rest

/-- The questions of one use. -/
def questions (session : Session) : Use → List Question
  | .find name => [session.ask name]
  | .plan requests => questionsOfAll ⟨.empty, session.context, session.machine, []⟩ requests
  | .perform _ => []

/-- The questions of a run. -/
def log (session : Session) : List Use → List Question
  | [] => []
  | use :: rest => session.questions use ++ (session.step use).log rest

/-- How many lookups the machine answers for the context in one use. -/
def lookupsBy (session : Session) : Use → Nat
  | .perform _ => 0
  | use => (session.step use).machine.lookups - session.machine.lookups

/-- How many lookups the machine answers for the context in a run. -/
def lookupsMade (session : Session) : List Use → Nat
  | [] => 0
  | use :: rest => session.lookupsBy use + (session.step use).lookupsMade rest

variable {session after : Session} {name : String} {question : Question}
  {log more : List Question}

/-! ## One question -/

/-- The ways in which a question is answered: with the unnamed module, from memory, or by the
machine. -/
inductive Asked (session : Session) (name : String) : Question → Prop where
  | special (isSpecial : name = allUnnamed) :
      Asked session name ⟨name, session, some session.context.unnamed, session⟩
  | remembered (other : name ≠ allUnnamed) (answer : Option ModuleHandle)
      (known : session.context.answers.get? name = some answer) :
      Asked session name ⟨name, session, answer, session⟩
  | looked (other : name ≠ allUnnamed) (unknown : session.context.answers.get? name = none) :
      Asked session name
        ⟨name, session, (session.machine.findModule session.context.layer name).1,
          { context := { session.context with
              answers := session.context.answers.set name
                (session.machine.findModule session.context.layer name).1 }
            machine := (session.machine.findModule session.context.layer name).2 }⟩

theorem asked_ask (session : Session) (name : String) : session.Asked name (session.ask name) := by
  unfold ask
  by_cases special : name = allUnnamed
  · subst special
    rw [LoaderContext.find_allUnnamed]
    exact .special rfl
  · cases known : session.context.answers.get? name with
    | some answer =>
      rw [LoaderContext.find_cached special known]
      exact .remembered special answer known
    | none =>
      unfold LoaderContext.find
      rw [if_neg special, known]
      exact .looked special known

/-- The context remembers one name more for every lookup that it makes. -/
def Counts (before after : Session) : Prop :=
  ∃ made, after.machine.lookups = before.machine.lookups + made ∧
    after.context.size = before.context.size + made

theorem Asked.counts (asked : session.Asked name question) : session.Counts question.left := by
  cases asked with
  | special isSpecial => exact ⟨0, rfl, rfl⟩
  | remembered other answer known => exact ⟨0, rfl, rfl⟩
  | looked other unknown =>
    refine ⟨1, rfl, ?_⟩
    have absent : name ∉ session.context.answers.keys := Table.lookup_eq_none_iff.1 unknown
    have keys := congrArg List.length (Table.keys_set session.context.answers name
      (session.machine.findModule session.context.layer name).1)
    rwa [length_addNew, if_neg absent, Table.keys, Table.keys, List.length_map,
      List.length_map] at keys

/-! ## Questions one after the other -/

/-- The questions lead from one session to the other, and nothing else happens. -/
inductive Chain : Session → List Question → Session → Prop where
  | done (session : Session) : Chain session [] session
  | ask (session after : Session) (name : String) (rest : List Question)
      (chain : Chain (session.ask name).left rest after) :
      Chain session (session.ask name :: rest) after

theorem Chain.append {middle : Session} (first : Chain session log middle)
    (second : Chain middle more after) : Chain session (log ++ more) after := by
  induction first with
  | done session => exact second
  | ask session middle name rest chain ih =>
    exact .ask session after name (rest ++ more) (ih second)

/-- One request is its questions. -/
theorem chain_request (draft : OpenPlan.Draft Machine) (request : OpenRequest) :
    Chain (ofDraft draft) ((ofDraft draft).questionsOf request) (ofDraft (draft.add request)) := by
  have asked : draft.Asked request _ _ := ⟨rfl, rfl⟩
  unfold questionsOf
  cases opened : (draft.context.find draft.host request.opened).module with
  | none =>
    have answer : ((ofDraft draft).ask request.opened).answer = none := opened
    rw [answer, asked.add_of_opened_missing opened]
    exact .ask _ _ request.opened [] (.done _)
  | some openedModule =>
    have answer : ((ofDraft draft).ask request.opened).answer = some openedModule := opened
    have both : Chain (ofDraft draft) [(ofDraft draft).ask request.opened,
        ((ofDraft draft).ask request.opened).left.ask request.opening]
        (((ofDraft draft).ask request.opened).left.ask request.opening).left :=
      .ask _ _ request.opened _ (.ask _ _ request.opening [] (.done _))
    rw [answer]
    cases opening : ((draft.context.find draft.host request.opened).context.find
        (draft.context.find draft.host request.opened).host request.opening).module with
    | none =>
      rw [asked.add_of_opening_missing opened opening]
      exact both
    | some openingModule =>
      rw [asked.add_of_found opened opening]
      exact both

/-- A batch is its questions. -/
theorem chain_batch (draft : OpenPlan.Draft Machine) (requests : List OpenRequest) :
    Chain (ofDraft draft) (questionsOfAll draft requests)
      (ofDraft (requests.foldl OpenPlan.Draft.add draft)) := by
  induction requests generalizing draft with
  | nil => exact .done _
  | cons request rest ih => exact (chain_request draft request).append (ih (draft.add request))

/-- A use of the context is its questions; any other use leaves the context alone. -/
theorem chain_step (session : Session) (use : Use) :
    Chain session (session.questions use) (session.step use) ∨
      ∃ operation, use = .perform operation := by
  cases use with
  | find name => exact Or.inl (.ask session _ name [] (.done _))
  | plan requests =>
    exact Or.inl (chain_batch ⟨.empty, session.context, session.machine, []⟩ requests)
  | perform operation => exact Or.inr ⟨operation, rfl⟩

theorem Chain.counts (chain : Chain session log after) : session.Counts after := by
  induction chain with
  | done session => exact ⟨0, rfl, rfl⟩
  | ask session after name rest chain ih =>
    obtain ⟨made, lookups, size⟩ := (asked_ask session name).counts
    obtain ⟨more, lookups', size'⟩ := ih
    exact ⟨made + more, by omega, by omega⟩

theorem size_step (session : Session) (use : Use) :
    (session.step use).context.size = session.context.size + session.lookupsBy use := by
  rcases chain_step session use with chain | ⟨operation, rfl⟩
  · obtain ⟨made, lookups, size⟩ := chain.counts
    cases use with
    | find name =>
      show _ = _ + ((session.step (.find name)).machine.lookups - session.machine.lookups)
      omega
    | plan requests =>
      show _ = _ + ((session.step (.plan requests)).machine.lookups - session.machine.lookups)
      omega
    | perform operation => rfl
  · rfl

/-- The context remembers as many names more as it made lookups. -/
theorem size_run (session : Session) (uses : List Use) :
    (session.run uses).context.size = session.context.size + session.lookupsMade uses := by
  induction uses generalizing session with
  | nil => rfl
  | cons use rest ih =>
    show ((session.step use).run rest).context.size = _
    rw [ih, size_step, lookupsMade, Nat.add_assoc]

end Session

/-! ## What a context remembers -/

/-- What holds of the values of a list, each with those before it, and of one more value. -/
theorem forall_split_concat {α : Type} {holds : List α → α → Prop} {values : List α} {last : α}
    (each : ∀ earlier value later, values = earlier ++ value :: later → holds earlier value)
    (holdsLast : holds values last) (earlier : List α) (value : α) (later : List α)
    (split : values ++ [last] = earlier ++ value :: later) : holds earlier value := by
  rcases List.eq_nil_or_concat later with rfl | ⟨rest, final, rfl⟩
  · obtain ⟨rfl, same⟩ := List.append_inj' split rfl
    cases same
    exact holdsLast
  · rw [List.concat_eq_append, ← List.cons_append, ← List.append_assoc] at split
    exact each earlier value rest (List.append_inj' split rfl).1

/-- What holds of a question, by those that were asked before it. -/
structure Question.Fits (unnamed : ModuleHandle) (layer : LayerId) (earlier : List Question)
    (question : Question) : Prop where
  special : question.name = allUnnamed →
    question.answer = some unnamed ∧ question.left = question.found
  first : question.name ≠ allUnnamed → (∀ other ∈ earlier, other.name ≠ question.name) →
    question.answer = (question.found.machine.findModule layer question.name).1
  again : ∀ other ∈ earlier, other.name = question.name →
    question.answer = other.answer ∧ question.left = question.found

/-- What a context remembers are the questions that it was asked. -/
structure LoaderContext.Recalls (unnamed : ModuleHandle) (layer : LayerId) (log : List Question)
    (context : LoaderContext) : Prop where
  sameUnnamed : context.unnamed = unnamed
  sameLayer : context.layer = layer
  nodup : context.answers.keys.Nodup
  keys : ∀ name, name ∈ context.answers.keys ↔
    name ≠ allUnnamed ∧ ∃ question ∈ log, question.name = name
  answered : ∀ question ∈ log, question.name ≠ allUnnamed →
    context.answers.get? question.name = some question.answer
  fits : ∀ earlier question later, log = earlier ++ question :: later →
    question.Fits unnamed layer earlier

namespace LoaderContext.Recalls

variable {session after : Session} {context : LoaderContext} {unnamed : ModuleHandle}
  {layer : LayerId} {log more : List Question} {question : Question} {name : String}

/-- A name that the context was asked for is one that it remembers. -/
theorem mem_keys (recalls : Recalls unnamed layer log context) (other : name ≠ allUnnamed)
    (member : question ∈ log) (same : question.name = name) : name ∈ context.answers.keys :=
  (recalls.keys name).2 ⟨other, question, member, same⟩

/-- A question fits those that the context was asked before. -/
theorem fits_asked (recalls : Recalls unnamed layer log session.context)
    (asked : session.Asked name question) : question.Fits unnamed layer log := by
  cases asked with
  | special isSpecial =>
    refine ⟨fun _ => ⟨congrArg some recalls.sameUnnamed, rfl⟩,
      fun other => absurd isSpecial other, ?_⟩
    intro before member same
    obtain ⟨earlier, later, split⟩ := List.append_of_mem member
    obtain ⟨answer, -⟩ := (recalls.fits earlier before later split).special (same.trans isSpecial)
    exact ⟨(congrArg some recalls.sameUnnamed).trans answer.symm, rfl⟩
  | remembered other answer known =>
    refine ⟨fun special => absurd special other, fun _ none => ?_, ?_⟩
    · obtain ⟨-, before, member, same⟩ :=
        (recalls.keys name).1 (Table.mem_keys_iff.2 ⟨answer, known⟩)
      exact absurd same (none before member)
    · intro before member same
      have answered := recalls.answered before member (same ▸ other)
      rw [same, known] at answered
      exact ⟨Option.some.inj answered, rfl⟩
  | looked other unknown =>
    refine ⟨fun special => absurd special other, fun _ _ => by rw [← recalls.sameLayer], ?_⟩
    intro before member same
    exact absurd (recalls.mem_keys other member same) (Table.lookup_eq_none_iff.1 unknown)

/-- What one question keeps. -/
theorem ask (recalls : Recalls unnamed layer log session.context) (name : String) :
    Recalls unnamed layer (log ++ [session.ask name]) (session.ask name).left.context := by
  have asked := session.asked_ask name
  have fits := forall_split_concat recalls.fits (recalls.fits_asked asked)
  have names (question : Question) (other : String) :
      (∃ asked ∈ log ++ [question], asked.name = other) ↔
        (∃ asked ∈ log, asked.name = other) ∨ question.name = other := by
    simp [or_and_right, exists_or]
  generalize session.ask name = question at asked fits ⊢
  cases asked with
  | special isSpecial =>
    refine ⟨recalls.sameUnnamed, recalls.sameLayer, recalls.nodup, fun other => ?_, ?_, fits⟩
    · rw [names, recalls.keys]
      grind
    · refine List.forall_mem_append.2 ⟨recalls.answered, List.forall_mem_singleton.2 ?_⟩
      exact fun other => absurd isSpecial other
  | remembered ordinary answer known =>
    have present : name ∈ session.context.answers.keys := Table.mem_keys_iff.2 ⟨answer, known⟩
    refine ⟨recalls.sameUnnamed, recalls.sameLayer, recalls.nodup, fun other => ?_, ?_, fits⟩
    · have old := (recalls.keys name).1 present
      rw [names, recalls.keys]
      grind
    · exact List.forall_mem_append.2 ⟨recalls.answered, List.forall_mem_singleton.2 fun _ => known⟩
  | looked ordinary unknown =>
    refine ⟨recalls.sameUnnamed, recalls.sameLayer, Table.nodup_keys_set recalls.nodup _ _,
      fun other => ?_, ?_, fits⟩
    · rw [names, Table.keys_set, mem_addNew, recalls.keys]
      grind
    · refine List.forall_mem_append.2
        ⟨fun before member other => ?_, List.forall_mem_singleton.2 ?_⟩
      · have distinct : before.name ≠ name := fun same =>
          Table.lookup_eq_none_iff.1 unknown (recalls.mem_keys ordinary member same)
        rw [Table.get?_set, if_neg distinct]
        exact recalls.answered before member other
      · exact fun _ => (Table.get?_set ..).trans (if_pos rfl)

theorem chain (recalls : Recalls unnamed layer log session.context)
    (chain : Session.Chain session more after) :
    Recalls unnamed layer (log ++ more) after.context := by
  induction chain generalizing log with
  | done session =>
    rw [List.append_nil]
    exact recalls
  | ask session after name rest chain ih =>
    have next := ih (recalls.ask name)
    rwa [List.append_assoc] at next

/-- Whatever a session is used for, its context remembers the questions. -/
theorem run (recalls : Recalls unnamed layer log session.context) (uses : List Use) :
    Recalls unnamed layer (log ++ session.log uses) (session.run uses).context := by
  induction uses generalizing session log with
  | nil =>
    rw [Session.log, List.append_nil]
    exact recalls
  | cons use rest ih =>
    rw [Session.log, ← List.append_assoc]
    apply ih
    rcases session.chain_step use with chain | ⟨operation, rfl⟩
    · exact recalls.chain chain
    · rw [Session.questions, List.append_nil]
      exact recalls

/-- The context remembers as many names as it was asked for, but for that of all unnamed
modules. -/
theorem size_eq_card (recalls : Recalls unnamed layer log context) :
    context.size = ((log.map Question.name).toFinset.erase allUnnamed).card := by
  have names : (log.map Question.name).toFinset.erase allUnnamed =
      context.answers.keys.toFinset := by
    ext name
    simp [recalls.keys]
  rw [names, List.toFinset_card_of_nodup recalls.nodup, Table.keys, List.length_map]
  rfl

end LoaderContext.Recalls

namespace Session

theorem recalls_ofLoader (machine : Machine) (loader : LoaderHandle) :
    LoaderContext.Recalls (ofLoader machine loader).context.unnamed
      (ofLoader machine loader).context.layer [] (ofLoader machine loader).context where
  sameUnnamed := rfl
  sameLayer := rfl
  nodup := List.nodup_nil
  keys name := iff_of_false List.not_mem_nil (by rintro ⟨-, question, member, -⟩; cases member)
  answered question member := by cases member
  fits earlier question later split := by
    cases earlier <;> cases split

/-- Whatever a context is asked for, and whatever its machine is used for in between: the name of
all unnamed modules stands for the module that the context captured, and nobody is asked; of any
other name, the first question gets what the machine finds then, in the layer that the context
captured, and all later ones the same answer from memory; and the context has made as many lookups
as there are other names that it was asked for, which is how many names it remembers. -/
theorem answers_frozen (machine : Machine) (loader : LoaderHandle) (uses : List Use) :
    let start := ofLoader machine loader
    let log := start.log uses
    (∀ question ∈ log, question.name = allUnnamed →
      question.answer = some start.context.unnamed ∧ question.left = question.found) ∧
    (∀ earlier first later, log = earlier ++ first :: later → first.name ≠ allUnnamed →
      (∀ question ∈ earlier, question.name ≠ first.name) →
        first.answer = (first.found.machine.findModule start.context.layer first.name).1 ∧
        ∀ question ∈ later, question.name = first.name →
          question.answer = first.answer ∧ question.left = question.found) ∧
    start.lookupsMade uses = (start.run uses).context.size ∧
    (start.run uses).context.size = ((log.map Question.name).toFinset.erase allUnnamed).card := by
  intro start log
  have recalls : LoaderContext.Recalls start.context.unnamed start.context.layer log
      (start.run uses).context := (recalls_ofLoader machine loader).run uses
  refine ⟨?_, ?_, ?_, recalls.size_eq_card⟩
  · intro question member special
    obtain ⟨earlier, later, split⟩ := List.append_of_mem member
    exact (recalls.fits earlier question later split).special special
  · intro earlier first later split other none
    refine ⟨(recalls.fits earlier first later split).first other none, ?_⟩
    intro question member same
    obtain ⟨between, rest, split'⟩ := List.append_of_mem member
    have later : log = (earlier ++ first :: between) ++ question :: rest := by
      rw [split, split', List.append_assoc, List.cons_append]
    exact (recalls.fits _ question rest later).again first (by simp) same.symm
  · have size := start.size_run uses
    have empty : start.context.size = 0 := rfl
    omega

/-- A name that was missed is missed still when a module of that name is defined. -/
example :
    let defined := Use.perform (.defineModule bootLayer "late" [])
    let start := ofLoader (.start .none) ⟨1, "app"⟩
    (start.log [.find "late", defined, .find "late"]).map Question.answer = [none, none] := by
  decide

end Session

end ModuleOpens
