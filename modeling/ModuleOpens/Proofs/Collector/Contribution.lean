/-
# Proofs.Collector.Contribution — what a collector holds after sources that may fail

A collector keeps what it holds twice, as a list and as a set, and asks the set
whether a request is new. `InStep` says that the two agree and that the list repeats
nothing; then every source adds to the list what is new of its contribution, and
reports how much that is, or else the first of its problems. `Step.Settles` says so
of one step: `settle problems value` is the value, or the first of the problems.

A source that fails may still have contributed: an extension keeps what its values
asked for before the first that is refused (`readable`), and nothing of that value.

* `settles_tell`: one source of any kind;
* `takes_told`: any sources, one after the other;
* `batch_of_contributions`: what is collected of any sources, and what each step
  returns.
-/
import ModuleOpens.Collector

namespace ModuleOpens

set_option autoImplicit false

/-! ## The first of several problems -/

section Settle

variable {ε α β : Type}

/-- The value, unless there are problems; then the first of them. -/
def settle : List ε → α → Except ε α
  | [], value => .ok value
  | problem :: _, _ => .error problem

@[simp]
theorem settle_nil (value : α) : settle ([] : List ε) value = .ok value := rfl

@[simp]
theorem settle_cons (problem : ε) (problems : List ε) (value : α) :
    settle (problem :: problems) value = .error problem := rfl

/-- Problems that come up later are reported when there were none before. -/
theorem settle_bind {γ : Type} (problems further : List ε) (value : α) (next : α → γ) :
    (settle problems value >>= fun x => settle further (next x))
      = settle (problems ++ further) (next value) := by
  cases problems <;> rfl

theorem settle_map (change : α → β) (problems : List ε) (value : α) :
    (settle problems value).map change = settle problems (change value) := by
  cases problems <;> rfl

theorem settle_mapError {ζ : Type} (wrap : ε → ζ) (problems : List ε) (value : α) :
    settle (problems.map wrap) value = (settle problems value).mapError wrap := by
  cases problems <;> rfl

theorem settle_eq_ok_iff {problems : List ε} {value x : α} :
    settle problems value = .ok x ↔ problems = [] ∧ value = x := by
  cases problems <;> simp

theorem settle_eq_error_iff {problems : List ε} {value : α} {problem : ε} :
    settle problems value = .error problem ↔ problems.head? = some problem := by
  cases problems <;> simp

/-- What is wrong with a result: its error, if it is one. -/
def rejected : Except ε α → List ε
  | .ok _ => []
  | .error problem => [problem]

theorem rejected_eq_nil_iff {result : Except ε α} :
    rejected result = [] ↔ ∃ value, result = .ok value := by
  cases result <;> simp [rejected]

/-- The values of a result; none, if it is an error. -/
def accepted (result : Except ε (List α)) : List α :=
  result.toOption.getD []

end Settle

/-- The request that a declared open asks for. -/
def DeclaredOpen.request (declared : DeclaredOpen) : Except RequestError OpenRequest :=
  OpenRequest.make declared.module declared.opening declared.packages

namespace Collector

variable {collector before between after : Collector} {request : OpenRequest}
  {requests further : List OpenRequest} {values others : List String}

/-! ## What flag values ask for -/

/-- The values of the options that ask for opens, in order. -/
def flagValues (options : List ExtensionOption) : List String :=
  (options.filter asksForOpens).flatMap (·.values)

theorem flagValues_cons_of_asks {option : ExtensionOption} (asked : asksForOpens option = true)
    (rest : List ExtensionOption) :
    flagValues (option :: rest) = option.values ++ flagValues rest := by
  rw [flagValues, List.filter_cons_of_pos asked, List.flatMap_cons, flagValues]

theorem flagValues_cons_of_not_asks {option : ExtensionOption}
    (other : ¬ asksForOpens option = true) (rest : List ExtensionOption) :
    flagValues (option :: rest) = flagValues rest := by
  rw [flagValues, List.filter_cons_of_neg other, flagValues]

/-- The values are those of options with one of the two names. -/
theorem forall_flagValues_iff (options : List ExtensionOption) (holds : String → Prop) :
    (∀ value ∈ flagValues options, holds value) ↔ ∀ option ∈ options,
      option.name = "add-opens" ∨ option.name = "--add-opens" →
        ∀ value ∈ option.values, holds value := by
  simp only [flagValues, asksForOpens, List.mem_flatMap, List.mem_filter, Bool.or_eq_true,
    beq_iff_eq]
  constructor
  · intro every option listed named value given
    exact every value ⟨option, ⟨listed, named⟩, given⟩
  · rintro every value ⟨option, ⟨listed, named⟩, given⟩
    exact every option listed named value given

/-- What is wrong with the values, in order. -/
def refusals (values : List String) : List RequestError :=
  values.flatMap fun value => rejected (Flag.parse value)

/-- The values before the first that is refused. -/
def readable (values : List String) : List String :=
  values.takeWhile fun value => (Flag.parse value).isOk

/-- The requests of the values before the first that is refused. -/
def readableRequests (values : List String) : List OpenRequest :=
  (readable values).flatMap fun value => accepted (Flag.parse value)

theorem refusals_append (values others : List String) :
    refusals (values ++ others) = refusals values ++ refusals others :=
  List.flatMap_append

/-- Where none is refused, all are read, and those that come after them. -/
theorem readable_append_of_refusals (unrefused : refusals values = []) :
    readable (values ++ others) = values ++ readable others := by
  refine List.takeWhile_append_of_pos fun value member => ?_
  obtain ⟨requests, parsed⟩ :=
    rejected_eq_nil_iff.1 (List.flatMap_eq_nil_iff.1 unrefused value member)
  rw [parsed]
  rfl

theorem readable_of_refusals (unrefused : refusals values = []) : readable values = values := by
  have alone : readable (values ++ []) = values ++ [] := readable_append_of_refusals unrefused
  rwa [List.append_nil] at alone

theorem readableRequests_append_of_refusals (unrefused : refusals values = []) :
    readableRequests (values ++ others) = readableRequests values ++ readableRequests others := by
  rw [readableRequests, readable_append_of_refusals unrefused, List.flatMap_append,
    readableRequests, readable_of_refusals unrefused, readableRequests]

/-- After a value that is refused, no other is read. -/
theorem readableRequests_append_of_refused (refused : refusals values ≠ []) :
    readableRequests (values ++ others) = readableRequests values := by
  suffices readable (values ++ others) = readable values by
    rw [readableRequests, this, readableRequests]
  induction values with
  | nil => exact absurd rfl refused
  | cons value rest ih =>
    cases parsed : Flag.parse value with
    | error error => simp [readable, parsed, Except.isOk, Except.toBool]
    | ok requests =>
      have later : refusals rest ≠ [] := by
        simpa [refusals, parsed, rejected] using refused
      simpa [readable, parsed, Except.isOk, Except.toBool] using ih later

/-! ## The list and the set -/

/-- The list and the set hold the same requests, each of them once. -/
structure InStep (collector : Collector) : Prop where
  nodup : collector.requests.Nodup
  distinct : collector.seen.Nodup
  mem_seen : ∀ request, request ∈ collector.seen ↔ request ∈ collector.requests

theorem inStep_empty : InStep empty where
  nodup := List.nodup_nil
  distinct := List.nodup_nil
  mem_seen _ := Iff.rfl

/-- `after` is `before` with what is new of `requests`. -/
structure Takes (before after : Collector) (requests : List OpenRequest) : Prop where
  requests : after.requests = addAll before.requests requests
  inStep : after.InStep

theorem Takes.refl (inStep : collector.InStep) : Takes collector collector [] :=
  ⟨rfl, inStep⟩

theorem Takes.trans (first : Takes before between requests) (second : Takes between after further) :
    Takes before after (requests ++ further) where
  requests := by rw [second.requests, first.requests, addAll_append]
  inStep := second.inStep

/-- What a collector grew by. -/
theorem Takes.size (takes : Takes before after requests) :
    after.size = before.size + countNew before.requests requests := by
  rw [Collector.size, takes.requests, length_addAll, Collector.size]

/-- A request is pushed as what it is to the list, though only the set is asked. -/
theorem takes_push (inStep : collector.InStep) (request : OpenRequest) :
    Takes collector (collector.push request).1 [request] ∧
      (collector.push request).2.toNat = countNew collector.requests [request] := by
  have appended : addAll collector.requests [request] = addNew collector.requests request := rfl
  have counted : countNew collector.requests [request] =
      if request ∈ collector.requests then 0 else 1 := Nat.add_zero _
  rw [counted]
  unfold push
  by_cases known : request ∈ collector.seen
  · have listed := (inStep.mem_seen request).1 known
    rw [if_pos known, if_pos listed]
    refine ⟨⟨?_, inStep⟩, rfl⟩
    rw [appended, addNew, if_pos listed]
  · have unlisted := mt (inStep.mem_seen request).2 known
    have grown : collector.requests ++ [request] = addNew collector.requests request := by
      rw [addNew, if_neg unlisted]
    rw [if_neg known, if_neg unlisted]
    refine ⟨⟨grown.trans appended.symm, ?_, nodup_addNew inStep.distinct request, ?_⟩, rfl⟩
    · rw [grown]
      exact nodup_addNew inStep.nodup request
    · intro other
      rw [grown, mem_addNew, mem_addNew, inStep.mem_seen]

theorem takes_extend (inStep : collector.InStep) (requests : List OpenRequest) :
    Takes collector (collector.extend requests).1 requests ∧
      (collector.extend requests).2 = countNew collector.requests requests := by
  induction requests generalizing collector with
  | nil => exact ⟨.refl inStep, rfl⟩
  | cons request rest ih =>
    obtain ⟨pushed, new⟩ := takes_push inStep request
    obtain ⟨extended, more⟩ := ih pushed.inStep
    refine ⟨pushed.trans extended, ?_⟩
    rw [extend]
    dsimp only
    rw [new, more, pushed.requests, ← countNew_append, List.singleton_append]

/-! ## Steps -/

/-- The step adds what is new of `requests`, and returns how many that are, or else the first of
`problems`. -/
structure Step.Settles (step : Step) (before : Collector) (problems : List RequestError)
    (requests : List OpenRequest) : Prop where
  takes : Takes before step.collector requests
  added : step.added = settle problems (countNew before.requests requests)

theorem settles_add (inStep : collector.InStep) (request : OpenRequest) :
    (collector.add request).Settles collector [] [request] := by
  obtain ⟨takes, new⟩ := takes_push inStep request
  exact ⟨takes, congrArg Except.ok new⟩

theorem settles_extend (inStep : collector.InStep) (requests : List OpenRequest) :
    (Step.done (collector.extend requests)).Settles collector [] requests := by
  obtain ⟨takes, added⟩ := takes_extend inStep requests
  exact ⟨takes, congrArg Except.ok added⟩

theorem settles_collectFrom (inStep : collector.InStep) (producer : Producer) :
    (collector.collectFrom producer).Settles collector (rejected producer.requests)
      (accepted producer.requests) := by
  unfold collectFrom
  cases producer.requests with
  | error error => exact ⟨.refl inStep, rfl⟩
  | ok requests =>
    obtain ⟨takes, added⟩ := takes_extend inStep requests
    exact ⟨takes, congrArg Except.ok added⟩

theorem settles_addDeclared (inStep : collector.InStep) (declared : DeclaredOpen) :
    (collector.addDeclared declared).Settles collector (rejected declared.request)
      declared.request.toOption.toList := by
  unfold addDeclared DeclaredOpen.request
  cases OpenRequest.make declared.module declared.opening declared.packages with
  | error error => exact ⟨.refl inStep, rfl⟩
  | ok request => exact settles_add inStep request

/-- Flag values, by induction on them: each is read as a whole before anything of it is
collected. -/
theorem settles_addValues (inStep : collector.InStep) (values : List String) :
    Takes collector (collector.addValues values).1 (readableRequests values) ∧
      (collector.addValues values).2 =
        settle (refusals values) (countNew collector.requests (readableRequests values)) := by
  induction values generalizing collector with
  | nil => exact ⟨.refl inStep, rfl⟩
  | cons value rest ih =>
    cases parsed : Flag.parse value with
    | error error =>
      have nothing : readableRequests (value :: rest) = [] := by
        simp [readableRequests, readable, parsed, Except.isOk, Except.toBool]
      have refused : refusals (value :: rest) = error :: refusals rest := by
        simp [refusals, parsed, rejected]
      simp only [addValues, parsed, nothing, refused, settle_cons]
      exact ⟨.refl inStep, trivial⟩
    | ok requests =>
      have first : readableRequests (value :: rest) = requests ++ readableRequests rest := by
        simp [readableRequests, readable, parsed, Except.isOk, Except.toBool, accepted,
          Except.toOption]
      have unrefused : refusals (value :: rest) = refusals rest := by
        simp [refusals, parsed, rejected]
      obtain ⟨extended, added⟩ := takes_extend inStep requests
      obtain ⟨others, more⟩ := ih extended.inStep
      simp only [addValues, parsed, first, unrefused]
      refine ⟨extended.trans others, ?_⟩
      rw [more, settle_map, added, extended.requests, ← countNew_append]

/-- The options of an extension, by induction on them: the values of those that ask for opens are
read as if they stood in one list. -/
theorem settles_addOptions (inStep : collector.InStep) (extension : String)
    (options : List ExtensionOption) :
    (collector.addOptions extension options).Settles collector (refusals (flagValues options))
      (readableRequests (flagValues options)) := by
  induction options generalizing collector with
  | nil => exact ⟨.refl inStep, rfl⟩
  | cons option rest ih =>
    rw [addOptions]
    split
    · rename_i asked
      rw [flagValues_cons_of_asks asked, refusals_append]
      obtain ⟨taken, settled⟩ := settles_addValues inStep option.values
      split
      · rename_i after error read
        rw [read] at taken settled
        have first := settle_eq_error_iff.1 settled.symm
        have refused : refusals option.values ≠ [] := by
          rintro nothing
          rw [nothing] at first
          cases first
        rw [readableRequests_append_of_refused refused]
        refine ⟨taken, (settle_eq_error_iff.2 ?_).symm⟩
        rw [List.head?_append, first]
        rfl
      · rename_i after added read
        rw [read] at taken settled
        obtain ⟨unrefused, counted⟩ := settle_eq_ok_iff.1 settled.symm
        have others := ih taken.inStep
        rw [readableRequests_append_of_refusals unrefused, unrefused, List.nil_append]
        refine ⟨taken.trans others.takes, ?_⟩
        dsimp only
        rw [others.added, settle_map, ← counted, taken.requests, ← countNew_append]
    · rename_i other
      rw [flagValues_cons_of_not_asks other]
      exact ⟨(ih inStep).takes, (ih inStep).added⟩

/-! ## Sources -/

/-- Something that a collector may be told. -/
inductive Source where
  | ofRequest (request : OpenRequest)
  | ofRequests (requests : List OpenRequest)
  | ofProducer (producer : Producer)
  | ofDeclared (declared : DeclaredOpen)
  | ofExtension (extension : Extension)

/-- The step that a source is for a collector. -/
def Source.tell (source : Source) (collector : Collector) : Step :=
  match source with
  | .ofRequest request => collector.add request
  | .ofRequests requests => .done (collector.extend requests)
  | .ofProducer producer => collector.collectFrom producer
  | .ofDeclared declared => collector.addDeclared declared
  | .ofExtension extension => collector.addExtension extension

/-- What is wrong with a source, in the order in which it is looked at. -/
def Source.problems : Source → List RequestError
  | .ofRequest _ => []
  | .ofRequests _ => []
  | .ofProducer producer => rejected producer.requests
  | .ofDeclared declared => rejected declared.request
  | .ofExtension extension => refusals (flagValues extension.options)

/-- What a source contributes, also when it fails. -/
def Source.contribution : Source → List OpenRequest
  | .ofRequest request => [request]
  | .ofRequests requests => requests
  | .ofProducer producer => accepted producer.requests
  | .ofDeclared declared => declared.request.toOption.toList
  | .ofExtension extension => readableRequests (flagValues extension.options)

theorem settles_tell (inStep : collector.InStep) (source : Source) :
    (source.tell collector).Settles collector source.problems source.contribution := by
  cases source with
  | ofRequest request => exact settles_add inStep request
  | ofRequests requests => exact settles_extend inStep requests
  | ofProducer producer => exact settles_collectFrom inStep producer
  | ofDeclared declared => exact settles_addDeclared inStep declared
  | ofExtension extension => exact settles_addOptions inStep extension.name extension.options

/-- A collector after sources, told one after the other whatever became of those before. -/
def told (collector : Collector) (sources : List Source) : Collector :=
  sources.foldl (fun collector source => (source.tell collector).collector) collector

theorem takes_told (inStep : collector.InStep) (sources : List Source) :
    Takes collector (collector.told sources) (sources.flatMap Source.contribution) := by
  induction sources generalizing collector with
  | nil => exact .refl inStep
  | cons source rest ih =>
    have first := (settles_tell inStep source).takes
    exact first.trans (ih first.inStep)

/-- Whatever a new collector is told, and whatever of it fails: it holds no request twice, its
list and its set hold the same requests, and its batch is what the sources contribute, each request
at its first appearance. A source that has a problem fails for the first of them; any other returns
how much the collector grew. -/
theorem batch_of_contributions (sources : List Source) :
    let collector := empty.told sources
    collector.finish.Nodup ∧ collector.seen.Perm collector.finish ∧
    collector.finish = (sources.flatMap Source.contribution).eraseDups ∧
    ∀ earlier source later, sources = earlier ++ source :: later →
      let before := empty.told earlier
      let step := source.tell before
      (∀ error, step.added = .error error ↔ source.problems.head? = some error) ∧
      ∀ added, step.added = .ok added → step.collector.size = before.size + added := by
  intro collector
  have takes : Takes empty collector (sources.flatMap Source.contribution) :=
    takes_told inStep_empty sources
  refine ⟨takes.inStep.nodup, ?_, ?_, ?_⟩
  · exact (List.perm_ext_iff_of_nodup takes.inStep.distinct takes.inStep.nodup).2
      takes.inStep.mem_seen
  · rw [finish, takes.requests, ← firstSeen_eq_eraseDups]
    rfl
  · intro earlier source later _ before step
    have settles := settles_tell (takes_told inStep_empty earlier).inStep source
    refine ⟨fun error => ?_, fun added succeeds => ?_⟩
    · rw [settles.added]
      exact settle_eq_error_iff
    · rw [settles.added] at succeeds
      rw [settles.takes.size, (settle_eq_ok_iff.1 succeeds).2]

end Collector

end ModuleOpens
