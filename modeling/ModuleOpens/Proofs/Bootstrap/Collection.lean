/-
# Proofs.Bootstrap.Collection — the batch of a configured bootstrap, or what is wrong first

The making of a bootstrap checks the whole configuration, and then asks the declared
opens, the options of the extensions and the producers for their requests, in that
order; it stops at the first thing that is wrong. What a source asks for and what is
wrong with it do not depend on what was collected before, so a whole collection
settles the problems of its sources, one source after another. Of a source that fails,
what it contributed before does not matter here: there is no batch then.

* `gathers_foldl_then`: sources of one kind, collected one after another;
* `gathers_collect`: all sources;
* `bootstrap_make`: the bootstrap, with the checks of the configuration;
* `host_make`: the host is at hand all the time, and left alone;
* `batch_or_first_problem`: when there is a bootstrap, what its batch is and which
  error is reported otherwise.
-/
import ModuleOpens.Bootstrap
import ModuleOpens.Proofs.Collector.Contribution

namespace ModuleOpens

set_option autoImplicit false

/-! ## What each source asks for -/

namespace Collector

/-- The requests after a step, or why it failed. -/
def Step.outcome (step : Step) : Except RequestError (List OpenRequest) :=
  step.added.map fun _ => step.collector.requests

/-- From any collector in step, the step settles `problems` and collects `requests`. -/
def Contributes (step : Collector → Step) (problems : List RequestError)
    (requests : List OpenRequest) : Prop :=
  ∀ collector, collector.InStep → (step collector).collector.InStep ∧
    (step collector).outcome = settle problems (addAll collector.requests requests)

theorem Step.Settles.outcome_eq {step : Step} {before : Collector} {problems : List RequestError}
    {requests : List OpenRequest} (settles : step.Settles before problems requests) :
    step.outcome = settle problems (addAll before.requests requests) := by
  rw [Step.outcome, settles.added, settle_map, settles.takes.requests]

theorem contributes_addDeclared (declared : DeclaredOpen) :
    Contributes (·.addDeclared declared) (rejected declared.request)
      declared.request.toOption.toList := by
  intro collector inStep
  have settles := settles_addDeclared inStep declared
  exact ⟨settles.takes.inStep, settles.outcome_eq⟩

theorem contributes_collectFrom (producer : Producer) :
    Contributes (·.collectFrom producer) (rejected producer.requests)
      (accepted producer.requests) := by
  intro collector inStep
  have settles := settles_collectFrom inStep producer
  exact ⟨settles.takes.inStep, settles.outcome_eq⟩

/-- An extension none of whose values is refused contributes what all of them ask for. -/
theorem contributes_addExtension (extension : Extension) :
    Contributes (·.addExtension extension)
      ((flagValues extension.options).flatMap fun value => rejected (Flag.parse value))
      ((flagValues extension.options).flatMap fun value => accepted (Flag.parse value)) := by
  intro collector inStep
  have settles := settles_addOptions inStep extension.name extension.options
  refine ⟨settles.takes.inStep, settles.outcome_eq.trans ?_⟩
  change settle (refusals (flagValues extension.options)) _ =
    settle (refusals (flagValues extension.options)) _
  cases refused : refusals (flagValues extension.options) with
  | nil => rw [readableRequests, readable_of_refusals refused]
  | cons error errors => rfl

end Collector

/-! ## The checks of the configuration -/

namespace Config

/-- Every condition that the configuration breaks, in the order of the checks. -/
def faults (config : Config) : List ConfigFault :=
  (if config.exclusive.waitTimeoutMs = 0 then [.zeroWait] else [])
    ++ (config.moduleOpens.zipIdx.filter (·.1.packages = [])).map (.noPackages ·.2)
    ++ (config.extensions.filter (Text.trim ·.name == "")).map fun _ => .blankExtension

theorem firstWithoutPackages?_eq (position : Nat) (declared : List DeclaredOpen) :
    firstWithoutPackages? position declared
      = (((declared.zipIdx position).filter (·.1.packages = [])).map (·.2)).head? := by
  induction declared generalizing position with
  | nil => rfl
  | cons declared rest ih =>
    rw [firstWithoutPackages?, List.zipIdx_cons]
    split
    · rename_i without
      rw [List.filter_cons_of_pos (by simpa using without)]
      rfl
    · rename_i packages
      rw [List.filter_cons_of_neg (by simpa using packages), ih]

/-- The condition that is reported is the first that is broken. -/
theorem fault?_eq_head? (config : Config) : config.fault? = config.faults.head? := by
  unfold fault? faults
  split
  · rfl
  · rw [firstWithoutPackages?_eq, List.nil_append, List.head?_append, List.head?_map,
      List.head?_map]
    cases (config.moduleOpens.zipIdx.filter (·.1.packages = [])).head? with
    | some entry => rfl
    | none =>
      cases blank : config.extensions.filter (Text.trim ·.name == "") with
      | nil => rw [if_neg (by simpa using blank)]; rfl
      | cons extension rest =>
        have listed : extension ∈ config.extensions.filter (Text.trim ·.name == "") := by
          rw [blank]
          exact List.mem_cons_self
        rw [if_pos (List.any_eq_true.2 ⟨extension, List.mem_filter.1 listed⟩)]
        rfl

theorem validate_eq_settle (config : Config) : config.validate = settle config.faults () := by
  rw [validate, fault?_eq_head?]
  cases config.faults <;> rfl

end Config

namespace Bootstrap

variable {σ : Type} {host : σ}

/-! ## The whole collection -/

/-- What is collected, or the error that ended the collection. -/
def Collection.outcome (collection : Collection σ) : Except BootstrapError (List OpenRequest) :=
  settle collection.error.toList collection.collector.requests

/-- What is collected so far is in step, and it is `requests`, or the first of `problems` ended
the collection; the host is what it was at the start. -/
structure Collection.Gathers (collection : Collection σ) (host : σ)
    (problems : List BootstrapError) (requests : List OpenRequest) : Prop where
  inStep : collection.collector.InStep
  outcome : collection.outcome = settle problems requests
  host : collection.host = host

/-- A step that has no use for the host leaves it, whether the collection goes on or has ended. -/
theorem host_then_leaving (collection : Collection σ) (step : Collector → Collector.Step)
    (wrap : RequestError → BootstrapError) :
    (collection.then (leaving step) wrap).host = collection.host := by
  unfold Collection.then leaving
  cases collection.error with
  | some error => rfl
  | none =>
    dsimp only
    split <;> rfl

theorem gathers_then {step : Collector → Collector.Step} {problems : List RequestError}
    {requests : List OpenRequest} (contributes : Collector.Contributes step problems requests)
    {collection : Collection σ} {before : List BootstrapError} {collected : List OpenRequest}
    (gathers : collection.Gathers host before collected) (wrap : RequestError → BootstrapError) :
    (collection.then (leaving step) wrap).Gathers host (before ++ problems.map wrap)
      (addAll collected requests) := by
  obtain ⟨inStep, outcome, same⟩ := gathers
  have host := (host_then_leaving collection step wrap).trans same
  obtain ⟨kept, settles⟩ := contributes collection.collector inStep
  cases ended : collection.error with
  | none =>
    rw [Collection.outcome, ended] at outcome
    obtain ⟨unproblematic, same⟩ := settle_eq_ok_iff.1 outcome.symm
    have wrapped : (collection.then (leaving step) wrap).outcome
        = (step collection.collector).outcome.mapError wrap := by
      unfold Collection.then leaving Collector.Step.outcome Collection.outcome
      rw [ended]
      dsimp only
      cases (step collection.collector).added <;> rfl
    refine ⟨?_, ?_, host⟩
    · unfold Collection.then leaving
      rw [ended]
      dsimp only
      split <;> exact kept
    · rw [wrapped, settles, ← settle_mapError, unproblematic, same, List.nil_append]
  | some error =>
    rw [Collection.outcome, ended] at outcome
    have first := settle_eq_error_iff.1 outcome.symm
    have stopped : collection.then (leaving step) wrap = collection := by
      unfold Collection.then
      rw [ended]
    rw [stopped] at host ⊢
    refine ⟨inStep, ?_, host⟩
    rw [Collection.outcome, ended]
    refine (settle_eq_error_iff.2 ?_).symm
    rw [List.head?_append, first]
    rfl

/-- Sources of one kind, collected one after another, settle their problems and collect
their requests. -/
theorem gathers_foldl_then {α : Type} {step : α → Collector → Collector.Step}
    {problems : α → List RequestError} {requests : α → List OpenRequest}
    (contributes : ∀ source,
      Collector.Contributes (step source) (problems source) (requests source))
    (wrap : α → RequestError → BootstrapError) (sources : List α) {collection : Collection σ}
    {before : List BootstrapError} {collected : List OpenRequest}
    (gathers : collection.Gathers host before collected) :
    (sources.foldl (fun collection source =>
        collection.then (leaving (step source)) (wrap source)) collection).Gathers host
      (before ++ sources.flatMap fun source => (problems source).map (wrap source))
      (addAll collected (sources.flatMap requests)) := by
  induction sources generalizing collection before collected with
  | nil => simpa using gathers
  | cons source rest ih =>
    have others := ih (gathers_then (contributes source) gathers (wrap source))
    rwa [List.append_assoc, ← addAll_append] at others

/-- What is wrong with the sources of requests, in the order in which they are asked. -/
def sourceProblems (config : Config) (producers : List Producer) : List BootstrapError :=
  config.moduleOpens.flatMap (fun declared =>
      (rejected declared.request).map (.declared declared.module))
    ++ config.extensions.flatMap (fun extension =>
      ((Collector.flagValues extension.options).flatMap fun value =>
        rejected (Flag.parse value)).map (.extension extension.name))
    ++ producers.flatMap fun producer => (rejected producer.requests).map (.producer producer.name)

/-- What the sources ask for, in the order in which they are asked. -/
def asked (config : Config) (producers : List Producer) : List OpenRequest :=
  config.moduleOpens.flatMap (fun declared => declared.request.toOption.toList)
    ++ config.extensions.flatMap (fun extension =>
      (Collector.flagValues extension.options).flatMap fun value =>
        accepted (Flag.parse value))
    ++ producers.flatMap fun producer => accepted producer.requests

theorem gathers_collect [Host σ] (config : Config) (producers : List Producer) (host : σ) :
    (collect config producers host).Gathers host (sourceProblems config producers)
      (asked config producers).eraseDups := by
  have start : Collection.Gathers ⟨host, .empty, [], none⟩ host [] [] :=
    ⟨Collector.inStep_empty, rfl, rfl⟩
  have declared := gathers_foldl_then Collector.contributes_addDeclared
    (fun declared => .declared declared.module) config.moduleOpens start
  have extended := gathers_foldl_then Collector.contributes_addExtension
    (fun extension => .extension extension.name) config.extensions declared
  have produced := gathers_foldl_then Collector.contributes_collectFrom
    (fun producer => .producer producer.name) producers extended
  rw [← firstSeen_eq_eraseDups, firstSeen, asked, addAll_append, addAll_append, sourceProblems]
  exact produced

/-- Everything that is wrong with a configuration and producers, in the order in which it
is looked at. -/
def problems (config : Config) (producers : List Producer) : List BootstrapError :=
  config.faults.map .invalid ++ sourceProblems config producers

/-- The bootstrap of a configuration that has no problems. -/
def configured (config : Config) (producers : List Producer) : Bootstrap where
  selector := (Selector.withDisabled config.strategies.disabled).1
  requests := (asked config producers).eraseDups
  wait := config.exclusive.wait
  rendersManifest := config.manifest.renderAddOpens

theorem bootstrap_make [Host σ] (config : Config) (producers : List Producer) (host : σ) :
    (make config producers host).bootstrap
      = settle (problems config producers) (configured config producers) := by
  have phases : (make config producers host).bootstrap
      = settle (config.faults.map .invalid) () >>= fun _ =>
        (collect config producers host).outcome >>= fun requests =>
          settle [] { configured config producers with requests } := by
    unfold make Collection.outcome
    rw [Config.fault?_eq_head?]
    cases config.faults with
    | cons fault faults => rfl
    | nil =>
      dsimp only [List.head?_nil]
      cases (collect config producers host).error <;> rfl
  rw [phases, (gathers_collect config producers host).outcome, settle_bind, settle_bind,
    List.append_nil]
  rfl

/-- The making leaves the host as it was, whatever stops it. -/
theorem host_make [Host σ] (config : Config) (producers : List Producer) (host : σ) :
    (make config producers host).host = host := by
  have collected : (collect config producers host).host = host :=
    (gathers_collect config producers host).host
  unfold make
  cases config.fault? with
  | some fault => rfl
  | none =>
    dsimp only
    cases (collect config producers host).error with
    | some error => exact collected
    | none => exact collected

/-! ## The batch, or the first problem -/

theorem sourceProblems_eq_nil_iff {config : Config} {producers : List Producer} :
    sourceProblems config producers = [] ↔
      (∀ declared ∈ config.moduleOpens, ∃ request, declared.request = .ok request) ∧
      (∀ extension ∈ config.extensions, ∀ option ∈ extension.options,
        option.name = "add-opens" ∨ option.name = "--add-opens" →
          ∀ value ∈ option.values, ∃ requests, Flag.parse value = .ok requests) ∧
      ∀ producer ∈ producers, ∃ requests, producer.requests = .ok requests := by
  simp only [sourceProblems, List.append_eq_nil_iff, List.flatMap_eq_nil_iff, List.map_eq_nil_iff,
    rejected_eq_nil_iff, Collector.forall_flagValues_iff, and_assoc]

/-- A bootstrap is made just when the configuration is valid and every declared open, every
value of an option that asks for opens and every producer gives requests. Its batch is what
they ask for, in that order, each request at its first appearance. Otherwise the error is the
first problem, the checks of the configuration coming before every source. The host is left
as it was: nothing was looked up or changed on it, and on any other host the same is made. -/
theorem batch_or_first_problem [Host σ] (config : Config) (producers : List Producer) (host : σ) :
    ((∃ bootstrap, (make config producers host).bootstrap = .ok bootstrap) ↔
      config.validate = .ok () ∧
      (∀ declared ∈ config.moduleOpens, ∃ request, declared.request = .ok request) ∧
      (∀ extension ∈ config.extensions, ∀ option ∈ extension.options,
        option.name = "add-opens" ∨ option.name = "--add-opens" →
          ∀ value ∈ option.values, ∃ requests, Flag.parse value = .ok requests) ∧
      ∀ producer ∈ producers, ∃ requests, producer.requests = .ok requests) ∧
    (∀ bootstrap, (make config producers host).bootstrap = .ok bootstrap →
      bootstrap.requests = (asked config producers).eraseDups) ∧
    (∀ error, (make config producers host).bootstrap = .error error ↔
      (problems config producers).head? = some error) ∧
    (make config producers host).host = host ∧
    ∀ {τ : Type} [Host τ] (other : τ),
      (make config producers other).bootstrap = (make config producers host).bootstrap := by
  rw [bootstrap_make]
  refine ⟨?_, fun bootstrap same => ?_, fun error => settle_eq_error_iff,
    host_make config producers host, fun other => bootstrap_make config producers other⟩
  · rw [← sourceProblems_eq_nil_iff, Config.validate_eq_settle]
    simp [settle_eq_ok_iff, problems]
  · rw [← (settle_eq_ok_iff.1 same).2]
    rfl

end Bootstrap

end ModuleOpens
