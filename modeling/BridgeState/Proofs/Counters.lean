import BridgeState.Proofs.Calls
import BridgeState.Proofs.Growth
import BridgeState.Proofs.Outcomes

/-!
# Counters mirror the run

The metrics of an engine are told of an event twice: of each diagnostic as it is reported, and of
the outcome behind it. Over calls of any kind, those that fail among them, both agree with what was
applied: every counter is the number of the events that it stands for and of the diagnostics of its
kind, and what is no event is not counted.
-/

namespace BridgeState

set_option autoImplicit false

theorem Event.kind_eq_list_iff (event : Event) :
    event.kind = .validatorsListMessage ↔
      ∃ messageId proposalId hostAddresses threshold,
        event.body = .validatorList messageId proposalId hostAddresses threshold := by
  obtain ⟨blockNumber, body⟩ := event
  cases body with
  | validatorList messageId proposalId hostAddresses threshold =>
      exact iff_of_true rfl ⟨messageId, proposalId, hostAddresses, threshold, rfl⟩
  | transfer direction => cases direction <;> simp [kind, EventBody.kind]
  | status change => cases change <;> simp [kind, EventBody.kind, StatusEvent.kind]
  | control change => cases change <;> simp [kind, EventBody.kind, ControlEvent.kind]
  | account chain action => cases chain <;> cases action <;> simp [kind, EventBody.kind]
  | candidate action => cases action <;> simp [kind, EventBody.kind]
  | limits | limitProposal | limitApproval | listProposal => simp [kind, EventBody.kind]

theorem Event.rejection_eq (event : Event) :
    event.rejection = if event.kind = .validatorsListMessage then (.reconciliationFailed, .error)
      else (.transitionRejected, .warning) := by
  obtain ⟨blockNumber, body⟩ := event
  by_cases list : Event.kind ⟨blockNumber, body⟩ = .validatorsListMessage
  · obtain ⟨messageId, proposalId, hostAddresses, threshold, rfl⟩ := (kind_eq_list_iff _).mp list
    rfl
  · rw [if_neg list]
    cases body with
    | validatorList => exact absurd rfl list
    | _ => rfl

theorem Event.missing_proposal_of_not_list {event : Event}
    (notList : event.kind ≠ .validatorsListMessage) (store : Store) :
    event.missingProposal? store = none := by
  obtain ⟨blockNumber, body⟩ := event
  cases body with
  | validatorList => exact absurd rfl notList
  | _ => rfl

theorem list_not_ignored {event : Event} (list : event.kind = .validatorsListMessage)
    (store : Store) : (event.apply store).value ≠ .ignored := by
  obtain ⟨blockNumber, body⟩ := event
  obtain ⟨messageId, proposalId, hostAddresses, threshold, rfl⟩ :=
    (Event.kind_eq_list_iff _).mp list
  cases complete : (store.resolution (hostAddresses.map HexString.text)).complete with
  | true =>
      have does := Rule.resolved_list_does blockNumber messageId proposalId hostAddresses threshold
        store complete _ rfl
      have value := congrArg Ran.value does.run
      rcases Outcome.of_approval_cases (store.load .validatorsListMessages messageId.text)
        (Rule.resolvedList blockNumber messageId proposalId hostAddresses threshold store)
        (store.load .candidatesValidatorsProposals proposalId.text)
        with created | updated | unchanged
      · simp [Event.apply, Event.script, value, created]
      · simp [Event.apply, Event.script, value, updated]
      · simp [Event.apply, Event.script, value, unchanged]
  | false =>
      have does := Rule.unresolved_list_does blockNumber messageId proposalId hostAddresses
        threshold store complete
      have value := congrArg Ran.value does.run
      simp [Event.apply, Event.script, value]

structure RunStep where
  before : Store
  event : Event

/-- The events of a run, each with the store that the ones before it leave. -/
def Store.steps : List Event → Store → List RunStep
  | [], _ => []
  | event :: rest, store => ⟨store, event⟩ :: steps rest (event.apply store).store

namespace RunStep

def outcome (step : RunStep) : Outcome :=
  (step.event.apply step.before).value

def told (step : RunStep) : List Diagnostic :=
  (step.event.apply step.before).diagnostics

def isList (step : RunStep) : Bool :=
  decide (step.event.kind = .validatorsListMessage)

/-- The list of validators is stored, but the proposal that it names is not. -/
def lacksProposal (step : RunStep) : Bool :=
  step.isList && decide (step.outcome ≠ .rejected) &&
    (step.event.missingProposal? step.before).isSome

/-- How many diagnostics of a kind the steps are told of by. -/
def faults (steps : List RunStep) : DiagnosticKind → Nat
  | .reconciliationFailed =>
    steps.countP fun step => decide (step.outcome = .rejected) && step.isList
  | .transitionRejected =>
    steps.countP fun step => decide (step.outcome = .rejected) && !step.isList
  | .unknownTarget =>
    steps.countP (fun step => decide (step.outcome = .ignored)) + steps.countP lacksProposal

theorem count_of_only_missing {missing : Option HexString} {told : List Diagnostic}
    (only : OnlyMissing missing told) (kind : DiagnosticKind) :
    (told.map Diagnostic.kind).count kind =
      if kind = .unknownTarget ∧ missing.isSome = true then 1 else 0 := by
  cases missing with
  | none =>
      rw [show told = [] from only]
      simp
  | some proposalId =>
      obtain ⟨diagnostic, isTold, isKind, _⟩ := only
      rw [isTold, List.map_singleton, isKind]
      cases kind <;> rfl

theorem lacks_proposal_eq {step : RunStep} (notRejected : step.outcome ≠ .rejected) :
    step.lacksProposal = (step.event.missingProposal? step.before).isSome := by
  by_cases list : step.event.kind = .validatorsListMessage
  · simp [lacksProposal, isList, list, notRejected]
  · simp [lacksProposal, isList, list, Event.missing_proposal_of_not_list list]

theorem told_count (step : RunStep) (kind : DiagnosticKind) :
    (step.told.map Diagnostic.kind).count kind = faults [step] kind := by
  have describes : step.outcome.Describes step.event step.before
      (step.event.apply step.before).store step.told :=
    outcome_describes step.event step.before
  -- Of an event that is neither, at most the missing proposal of a list is told.
  have stored (notRejected : step.outcome ≠ .rejected) (notIgnored : step.outcome ≠ .ignored)
      (only : OnlyMissing (step.event.missingProposal? step.before) step.told) :
      (step.told.map Diagnostic.kind).count kind = faults [step] kind := by
    rw [count_of_only_missing only]
    cases kind <;> simp [faults, notRejected, notIgnored, lacks_proposal_eq notRejected]
  cases isOutcome : step.outcome with
  | created =>
      rw [isOutcome] at describes stored
      exact stored (by decide) (by decide) describes.2
  | updated =>
      rw [isOutcome] at describes stored
      exact stored (by decide) (by decide) describes.2
  | unchanged =>
      rw [isOutcome] at describes stored
      exact stored (by decide) (by decide) describes
  | ignored =>
      rw [isOutcome] at describes
      obtain ⟨-, diagnostic, isTold, isKind, -⟩ := describes
      have notList : step.event.kind ≠ .validatorsListMessage :=
        fun list => list_not_ignored list step.before isOutcome
      rw [isTold, List.map_singleton, isKind]
      cases kind <;> simp [faults, isOutcome, lacksProposal, isList, notList]
  | rejected =>
      rw [isOutcome] at describes
      obtain ⟨-, diagnostic, isTold, isRejection⟩ := describes
      have isKind : diagnostic.kind = step.event.rejection.1 := congrArg Prod.fst isRejection
      rw [isTold, List.map_singleton, isKind, Event.rejection_eq]
      by_cases list : step.event.kind = .validatorsListMessage <;>
        cases kind <;> simp [faults, isOutcome, lacksProposal, isList, list]

theorem faults_append (earlier later : List RunStep) (kind : DiagnosticKind) :
    faults (earlier ++ later) kind = faults earlier kind + faults later kind := by
  cases kind with
  | reconciliationFailed | transitionRejected => exact List.countP_append
  | unknownTarget =>
      simp only [faults, List.countP_append]
      omega

theorem count_told (steps : List RunStep) (kind : DiagnosticKind) :
    ((steps.flatMap told).map Diagnostic.kind).count kind = faults steps kind := by
  induction steps with
  | nil => cases kind <;> rfl
  | cons step rest ih =>
      rw [List.flatMap_cons, List.map_append, List.count_append, told_count, ih, ← faults_append]
      rfl

end RunStep

theorem DiagnosticKind.count_all (kinds : List DiagnosticKind) :
    kinds.count .reconciliationFailed + kinds.count .unknownTarget +
      kinds.count .transitionRejected = kinds.length := by
  induction kinds with
  | nil => rfl
  | cons kind rest ih =>
      simp only [List.count_cons, List.length_cons]
      cases kind <;> simp <;> omega

namespace Metrics

/-- What is counted of each event that was applied. -/
structure CountsSteps (steps : List RunStep) (metrics : Metrics) : Prop where
  applied : metrics.eventsApplied = steps.length
  outcomes : metrics.outcomes = Tally.ofList (steps.map fun step => Named.name step.outcome)
  kinds : metrics.eventsByKind = Tally.ofList (steps.map fun step => step.event.kindName)
  lastBlock : metrics.lastBlockNumber =
    steps.getLast?.map fun step => (step.event.blockNumber : Int)

def counter (metrics : Metrics) : DiagnosticKind → Nat
  | .reconciliationFailed => metrics.reconciliationFailures
  | .unknownTarget => metrics.unknownTargets
  | .transitionRejected => metrics.rejectedTransitions

def CountsDiagnostics (diagnostics : List Diagnostic) (metrics : Metrics) : Prop :=
  ∀ kind, metrics.counter kind = (diagnostics.map Diagnostic.kind).count kind

section Records

variable {metrics : Metrics} {steps : List RunStep} {diagnostics : List Diagnostic}

theorem CountsSteps.record_diagnostic (counts : metrics.CountsSteps steps) (kind : DiagnosticKind) :
    (metrics.recordDiagnostic kind).CountsSteps steps := by
  cases kind <;> exact ⟨counts.applied, counts.outcomes, counts.kinds, counts.lastBlock⟩

theorem CountsDiagnostics.record_diagnostic (counts : metrics.CountsDiagnostics diagnostics)
    (diagnostic : Diagnostic) :
    (metrics.recordDiagnostic diagnostic.kind).CountsDiagnostics (diagnostics ++ [diagnostic]) := by
  intro kind
  have before := counts kind
  rw [List.map_append, List.count_append, ← before, List.map_singleton]
  cases diagnostic.kind <;> cases kind <;> rfl

theorem CountsSteps.record_apply (counts : metrics.CountsSteps steps) (step : RunStep)
    (latency : Latency) :
    (metrics.recordApply step.event.kindName (Named.name step.outcome) step.event.blockNumber
      latency).CountsSteps (steps ++ [step]) where
  applied := by
    rw [List.length_append, ← counts.applied]
    rfl
  outcomes := by
    rw [List.map_append, Tally.ofList, List.foldl_append, ← Tally.ofList, ← counts.outcomes]
    rfl
  kinds := by
    rw [List.map_append, Tally.ofList, List.foldl_append, ← Tally.ofList, ← counts.kinds]
    rfl
  lastBlock := by
    rw [List.getLast?_concat]
    rfl

theorem CountsDiagnostics.record_apply (counts : metrics.CountsDiagnostics diagnostics)
    (kind outcome : String) (block : Int) (latency : Latency) :
    (metrics.recordApply kind outcome block latency).CountsDiagnostics diagnostics := by
  intro told
  rw [← counts told]
  cases told <;> rfl

end Records

end Metrics

namespace Engine

/-- The engine has metrics, which have counted the steps and the diagnostics that it keeps. -/
def Counts (steps : List RunStep) (engine : Engine Store) : Prop :=
  ∃ metrics, engine.metrics = some metrics ∧ metrics.CountsSteps steps ∧
    metrics.CountsDiagnostics engine.diagnostics

theorem Counts.report {engine : Engine Store} {steps : List RunStep} (counts : engine.Counts steps)
    (diagnostic : Diagnostic) : (engine.report diagnostic).Counts steps := by
  obtain ⟨metrics, isMetrics, ofSteps, ofDiagnostics⟩ := counts
  refine ⟨metrics.recordDiagnostic diagnostic.kind, ?_, ofSteps.record_diagnostic _,
    ofDiagnostics.record_diagnostic diagnostic⟩
  rw [report_eq]
  exact congrArg (Option.map _) isMetrics

theorem Counts.report_all {engine : Engine Store} {steps : List RunStep}
    (counts : engine.Counts steps) (diagnostics : List Diagnostic) :
    (diagnostics.foldl (fun engine diagnostic => engine.report diagnostic) engine).Counts
      steps := by
  induction diagnostics generalizing engine with
  | nil => exact counts
  | cons diagnostic rest ih => exact ih (counts.report diagnostic)

theorem Counts.apply {engine : Engine Store} {steps : List RunStep} (counts : engine.Counts steps)
    (event : Event) : (engine.apply event).2.Counts (steps ++ [⟨engine.state, event⟩]) := by
  -- The diagnostics are counted as they are told, the outcome behind all of them.
  have moved : Counts steps { engine with state := (event.apply engine.state).store } := counts
  obtain ⟨metrics, isMetrics, ofSteps, ofDiagnostics⟩ :=
    moved.report_all (event.apply engine.state).diagnostics
  simp only [Engine.apply, perform_store event.script engine]
  refine ⟨_, congrArg (Option.map _) isMetrics, ofSteps.record_apply ⟨engine.state, event⟩ _, ?_⟩
  exact ofDiagnostics.record_apply _ _ _ _

theorem apply_events_cons (event : Event) (rest : List Event) (engine : Engine Store) :
    (engine.applyEvents (event :: rest)).2 = ((engine.apply event).2.applyEvents rest).2 := by
  simp only [applyEvents, applyEach, Engine.apply, perform_store event.script engine]

theorem Counts.apply_events {engine : Engine Store} {steps : List RunStep}
    (counts : engine.Counts steps) (events : List Event) :
    (engine.applyEvents events).2.Counts (steps ++ engine.state.steps events) := by
  induction events generalizing engine steps with
  | nil =>
      rw [Store.steps, List.append_nil]
      exact counts
  | cons event rest ih =>
      have later := ih (counts.apply event)
      rw [(apply_in_memory event engine).2, List.append_assoc] at later
      rw [apply_events_cons]
      exact later

theorem told_of_apply_events (events : List Event) (engine : Engine Store) :
    (engine.applyEvents events).2.diagnostics =
      engine.diagnostics ++ (engine.state.steps events).flatMap RunStep.told := by
  induction events generalizing engine with
  | nil => exact (List.append_nil _).symm
  | cons event rest ih =>
      rw [apply_events_cons, ih, (apply_in_memory event engine).2, (gives_apply event engine).2,
        List.append_assoc]
      rfl

end Engine

theorem Store.apply_all_eq_steps (events : List Event) (store : Store) :
    (store.applyAll events).1.map Applied.outcome = (store.steps events).map RunStep.outcome := by
  induction events generalizing store with
  | nil => rfl
  | cons event rest ih => exact congrArg (List.cons _) (ih (event.apply store).store)

/-- The metrics agree with the steps of a run and with the diagnostics of it. -/
structure Metrics.Mirrors (steps : List RunStep) (diagnostics : List Diagnostic)
    (metrics : Metrics) : Prop where
  applied : metrics.eventsApplied = steps.length
  totalOutcomes : Tally.total metrics.outcomes = steps.length
  outcomes : ∀ outcome, Tally.get (Named.name outcome) metrics.outcomes =
    (steps.map RunStep.outcome).count outcome
  totalKinds : Tally.total metrics.eventsByKind = steps.length
  kinds : ∀ kind, Tally.get (Named.name kind) metrics.eventsByKind =
    (steps.map fun step => step.event.kind).count kind
  lastBlock : metrics.lastBlockNumber =
    steps.getLast?.map fun step => (step.event.blockNumber : Int)
  reconciliationsTold : metrics.reconciliationFailures =
    (diagnostics.map Diagnostic.kind).count .reconciliationFailed
  targetsTold : metrics.unknownTargets = (diagnostics.map Diagnostic.kind).count .unknownTarget
  transitionsTold : metrics.rejectedTransitions =
    (diagnostics.map Diagnostic.kind).count .transitionRejected
  allTold : metrics.reconciliationFailures + metrics.unknownTargets + metrics.rejectedTransitions =
    diagnostics.length
  rejectedLists : metrics.reconciliationFailures =
    steps.countP fun step => decide (step.outcome = .rejected) && step.isList
  rejectedOthers : metrics.rejectedTransitions =
    steps.countP fun step => decide (step.outcome = .rejected) && !step.isList
  unknown : metrics.unknownTargets =
    steps.countP (fun step => decide (step.outcome = .ignored)) + steps.countP RunStep.lacksProposal

theorem Metrics.mirrors_of_counts {metrics : Metrics} {steps : List RunStep}
    (ofSteps : metrics.CountsSteps steps)
    (ofDiagnostics : metrics.CountsDiagnostics (steps.flatMap RunStep.told)) :
    metrics.Mirrors steps (steps.flatMap RunStep.told) where
  applied := ofSteps.applied
  totalOutcomes := by rw [ofSteps.outcomes, Tally.total_of_list, List.length_map]
  outcomes outcome := by
    have apart := Named.name_injective Outcome.ofName?_name
    rw [ofSteps.outcomes, Tally.get_of_list, ← List.count_map_of_injective _ _ apart, List.map_map]
    rfl
  totalKinds := by rw [ofSteps.kinds, Tally.total_of_list, List.length_map]
  kinds kind := by
    have apart := Named.name_injective EventKind.ofName?_name
    rw [ofSteps.kinds, Tally.get_of_list, ← List.count_map_of_injective _ _ apart, List.map_map]
    rfl
  lastBlock := ofSteps.lastBlock
  reconciliationsTold := ofDiagnostics .reconciliationFailed
  targetsTold := ofDiagnostics .unknownTarget
  transitionsTold := ofDiagnostics .transitionRejected
  allTold := by
    have all := DiagnosticKind.count_all ((steps.flatMap RunStep.told).map Diagnostic.kind)
    rw [← ofDiagnostics, ← ofDiagnostics, ← ofDiagnostics, List.length_map] at all
    exact all
  rejectedLists := (ofDiagnostics .reconciliationFailed).trans (RunStep.count_told steps _)
  rejectedOthers := (ofDiagnostics .transitionRejected).trans (RunStep.count_told steps _)
  unknown := (ofDiagnostics .unknownTarget).trans (RunStep.count_told steps _)

namespace Engine

/-- An engine with metrics of its own, of which nothing is counted yet. -/
def fresh (store : Store) (latency : Latency) : Engine Store :=
  { start store (some .zero) with latency }

theorem counts_fresh (store : Store) (latency : Latency) : (fresh store latency).Counts [] :=
  ⟨.zero, rfl, ⟨rfl, rfl, rfl, rfl⟩, fun kind => by cases kind <;> rfl⟩

/-- Whatever calls are made of an engine with fresh metrics: the metrics mirror the outcomes and the
diagnostics of the events that the calls applied, and a call that fails leaves the engine as it was
before what is no event. -/
theorem metrics_mirror_run (store : Store) (latency : Latency) (calls : List Call) :
    let steps := store.steps (calls.flatMap Call.events)
    let after := ((fresh store latency).calls calls).2
    ((fresh store latency).calls calls).1.flatMap Answer.outcomes = steps.map RunStep.outcome ∧
      (∃ metrics, after.metrics = some metrics ∧ metrics.Mirrors steps after.diagnostics) ∧
      ∀ earlier call later fault, calls = earlier ++ call :: later →
        let engine := ((fresh store latency).calls earlier).2
        (engine.call call).1.fault = some fault →
        ∃ before bad rest, call.given = before ++ bad :: rest ∧ bad.read = .error fault ∧
          (engine.call (.all before)).1.fault = none ∧
          (engine.call call).2 = (engine.call (.all before)).2 := by
  intro steps after
  obtain ⟨outcomes, isAfter⟩ := calls_in_memory calls (fresh store latency)
  have applied := (apply_events_in_memory (calls.flatMap Call.events) (fresh store latency)).1
  have told := told_of_apply_events (calls.flatMap Call.events) (fresh store latency)
  obtain ⟨metrics, isMetrics, ofSteps, ofDiagnostics⟩ :=
    (counts_fresh store latency).apply_events (calls.flatMap Call.events)
  refine ⟨?_, ⟨metrics, ?_, ?_⟩, ?_⟩
  · rw [outcomes, applied]
    exact Store.apply_all_eq_steps _ store
  · exact (congrArg Engine.metrics isAfter).trans isMetrics
  · rw [told] at ofDiagnostics
    have toldAfter : after.diagnostics = steps.flatMap RunStep.told :=
      (congrArg Engine.diagnostics isAfter).trans told
    rw [toldAfter]
    exact Metrics.mirrors_of_counts ofSteps ofDiagnostics
  · intro earlier call later fault _ engine failed
    exact engine.call_failed call failed

/-- A batch fails at its second item, behind a call that fails at its only one. -/
theorem metrics_mirror_run_unknown :
    let transfer : Given :=
      .parsed ⟨5, .transfer .hostToGuest ⟨.sample, .sampleOther, .sampleOther, 12, none⟩⟩
    let call := Call.all [transfer, .unknown (.str "Other"), transfer]
    let engine := ((fresh Store.empty .zero).calls [.one (.raw .null)]).2
    (engine.call call).1.fault = some (.noHandler (.str "Other")) ∧
      ∃ before bad rest, call.given = before ++ bad :: rest ∧
        bad.read = .error (.noHandler (.str "Other")) ∧
        (engine.call (.all before)).1.fault = none ∧
        (engine.call call).2 = (engine.call (.all before)).2 := by
  intro transfer call engine
  have failed : (engine.call call).1.fault = some (.noHandler (.str "Other")) := rfl
  obtain ⟨-, -, restored⟩ :=
    metrics_mirror_run Store.empty .zero ([.one (.raw .null)] ++ [call])
  exact ⟨failed, restored [.one (.raw .null)] call [] _ rfl failed⟩

end Engine

end BridgeState
