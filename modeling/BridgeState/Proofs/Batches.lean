import BridgeState.Proofs.History

/-!
# Batches

What a batch leaves and tells does not depend on the clock; engines are compared without what does. A
batch in several parts, one applied behind the other up to the first that stops, leaves what the whole
batch leaves, and the counts of the parts add up to its counts.
-/

namespace BridgeState

set_option autoImplicit false

namespace Metrics

def untimed (metrics : Metrics) : Metrics :=
  { metrics with samples := [] }

theorem untimed_record_diagnostic (kind : DiagnosticKind) (metrics : Metrics) :
    (metrics.recordDiagnostic kind).untimed = metrics.untimed.recordDiagnostic kind := by
  cases kind <;> rfl

end Metrics

namespace Tally

theorem get_of_list_from (name : String) (names : List String) (tally : Tally) :
    get name (names.foldl (fun tally name => add name tally) tally) =
      get name tally + names.count name := by
  induction names generalizing tally with
  | nil => rfl
  | cons first rest ih =>
      rw [List.foldl_cons, ih, get_add, List.count_cons]
      by_cases same : name = first
      · simp only [same, beq_self_eq_true, if_true]
        omega
      · have apart : (first == name) = false := beq_false_of_ne (Ne.symm same)
        simp only [same, apart, Bool.false_eq_true, if_false]
        omega

theorem get_of_list (name : String) (names : List String) :
    get name (ofList names) = names.count name :=
  (get_of_list_from name names []).trans (Nat.zero_add _)

theorem total_of_list_from (names : List String) (tally : Tally) :
    total (names.foldl (fun tally name => add name tally) tally) = total tally + names.length := by
  induction names generalizing tally with
  | nil => rfl
  | cons first rest ih =>
      rw [List.foldl_cons, ih, total_add, List.length_cons]
      omega

theorem total_of_list (names : List String) : total (ofList names) = names.length :=
  (total_of_list_from names []).trans (Nat.zero_add _)

end Tally

namespace Engine

variable {σ ι ε : Type}

def untimed (engine : Engine σ) : Engine σ :=
  { engine with metrics := engine.metrics.map Metrics.untimed, latency := .zero }

theorem untimed_timed (started stopped : Binary64) (engine : Engine σ) :
    (engine.timed started stopped).untimed = engine.untimed :=
  rfl

theorem untimed_report (diagnostic : Diagnostic) (engine : Engine σ) :
    (engine.report diagnostic).untimed = engine.untimed.report diagnostic := by
  obtain ⟨state, metrics, diagnostics, latency⟩ := engine
  cases metrics with
  | none => rfl
  | some metrics =>
      have counted := metrics.untimed_record_diagnostic diagnostic.kind
      simp only [report_eq, untimed, Option.map_some, counted]

theorem untimed_record_apply (event : Event) (outcome : Outcome) {first second : Engine σ}
    (alike : first.untimed = second.untimed) :
    (first.recordApply event outcome).untimed = (second.recordApply event outcome).untimed := by
  have drop (engine : Engine σ) : (engine.recordApply event outcome).untimed =
      (engine.untimed.recordApply event outcome).untimed := by
    obtain ⟨state, metrics, diagnostics, latency⟩ := engine
    cases metrics with
    | none => simp only [recordApply, untimed, Option.map_none]
    | some metrics =>
        simp only [recordApply, untimed, Option.map_some, Metrics.untimed, Metrics.recordApply]
  rw [drop first, drop second, alike]

theorem diagnostics_since_append {first second third : Engine σ}
    (grown : first.diagnostics <+: second.diagnostics)
    (further : second.diagnostics <+: third.diagnostics) :
    third.diagnosticsSince first =
      second.diagnosticsSince first ++ third.diagnosticsSince second := by
  obtain ⟨told, isSecond⟩ := grown
  obtain ⟨toldLater, isThird⟩ := further
  simp only [diagnosticsSince, ← isThird, ← isSecond, List.drop_left]
  rw [List.append_assoc, List.drop_left]

theorem untimed_diagnostics_since {first second first' second' : Engine σ}
    (before : first.untimed = second.untimed) (after : first'.untimed = second'.untimed) :
    first'.diagnosticsSince first = second'.diagnosticsSince second := by
  have told := congrArg diagnostics before
  have toldAfter := congrArg diagnostics after
  simp only [untimed] at told toldAfter
  rw [diagnosticsSince, diagnosticsSince, told, toldAfter]

variable [Backend σ]

theorem untimed_perform {α : Type} (script : Script α) (engine : Engine σ) :
    perform script engine.untimed =
      ((perform script engine).1, (perform script engine).2.untimed) := by
  induction script generalizing engine with
  | done value => rfl
  | load collection id next ih =>
      have sameState : engine.untimed.state = engine.state := rfl
      simp only [perform, sameState]
      match Backend.load collection id engine.state with
      | (.ok row, state) => exact ih row { engine with state }
      | (.error fault, state) => rfl
  | save collection row next ih =>
      have sameState : engine.untimed.state = engine.state := rfl
      simp only [perform, sameState]
      match Backend.save collection row engine.state with
      | (.ok (), state) => exact ih { engine with state }
      | (.error fault, state) => rfl
  | report diagnostic next ih =>
      have reported := ih (engine.report diagnostic)
      rw [untimed_report] at reported
      exact reported

section Steps

variable {read : ι → Except ε Event} {item : ι} {event : Event} {engine after : Engine σ}

theorem apply_each_unreadable {cause : ε} (unread : read item = .error cause) (rest : List ι) :
    applyEach read (item :: rest) engine = (⟨[], some (.unreadable cause)⟩, engine) := by
  simp only [applyEach, unread]

theorem apply_each_failed {fault : StoreFault} (isEvent : read item = .ok event)
    (performed : perform event.script engine = (.error fault, after)) (rest : List ι) :
    applyEach read (item :: rest) engine = (⟨[], some (.failed fault)⟩, after) := by
  simp only [applyEach, isEvent, performed]

theorem apply_each_applied {outcome : Outcome} (isEvent : read item = .ok event)
    (performed : perform event.script engine = (.ok outcome, after)) (rest : List ι) :
    applyEach read (item :: rest) engine =
      ((applyEach read rest (after.recordApply event outcome)).1.behind ⟨event, outcome⟩,
        (applyEach read rest (after.recordApply event outcome)).2) := by
  simp only [applyEach, isEvent, performed]

end Steps

/-- A batch does the same whatever the clock says. -/
theorem untimed_apply_each (read : ι → Except ε Event) (items : List ι) {first second : Engine σ}
    (alike : first.untimed = second.untimed) :
    (applyEach read items first).1 = (applyEach read items second).1 ∧
      (applyEach read items first).2.untimed = (applyEach read items second).2.untimed := by
  induction items generalizing first second with
  | nil => exact ⟨rfl, alike⟩
  | cons item rest ih =>
      cases isEvent : read item with
      | error cause =>
          rw [apply_each_unreadable isEvent, apply_each_unreadable isEvent]
          exact ⟨rfl, alike⟩
      | ok event =>
          have both := untimed_perform event.script first
          rw [alike, untimed_perform event.script second] at both
          obtain ⟨sameResult, sameAfter⟩ := Prod.mk.inj both
          rcases performed : perform event.script first with ⟨result, after⟩
          rcases performed' : perform event.script second with ⟨result', after'⟩
          rw [performed, performed'] at sameResult sameAfter
          obtain rfl : result' = result := sameResult
          cases result' with
          | error fault =>
              rw [apply_each_failed isEvent performed, apply_each_failed isEvent performed']
              exact ⟨rfl, sameAfter.symm⟩
          | ok outcome =>
              rw [apply_each_applied isEvent performed, apply_each_applied isEvent performed']
              obtain ⟨batch, last⟩ := ih (untimed_record_apply event outcome sameAfter.symm)
              exact ⟨congrArg (Batch.behind ⟨event, outcome⟩) batch, last⟩

theorem diagnostics_perform {α : Type} (script : Script α) (engine : Engine σ) :
    engine.diagnostics <+: (perform script engine).2.diagnostics := by
  induction script generalizing engine with
  | done value => exact List.prefix_refl _
  | load collection id next ih =>
      simp only [perform]
      match Backend.load collection id engine.state with
      | (.ok row, state) => exact ih row { engine with state }
      | (.error fault, state) => exact List.prefix_refl _
  | save collection row next ih =>
      simp only [perform]
      match Backend.save collection row engine.state with
      | (.ok (), state) => exact ih { engine with state }
      | (.error fault, state) => exact List.prefix_refl _
  | report diagnostic next ih =>
      exact (List.prefix_append _ _).trans (ih (engine.report diagnostic))

/-- Diagnostics are only ever added. -/
theorem diagnostics_apply_each (read : ι → Except ε Event) (items : List ι) (engine : Engine σ) :
    engine.diagnostics <+: (applyEach read items engine).2.diagnostics := by
  induction items generalizing engine with
  | nil => exact List.prefix_refl _
  | cons item rest ih =>
      cases isEvent : read item with
      | error cause => simp only [apply_each_unreadable isEvent, List.prefix_refl]
      | ok event =>
          have told := diagnostics_perform event.script engine
          rcases performed : perform event.script engine with ⟨result, after⟩
          rw [performed] at told
          cases result with
          | error fault =>
              rw [apply_each_failed isEvent performed]
              exact told
          | ok outcome =>
              rw [apply_each_applied isEvent performed]
              exact told.trans (ih (after.recordApply event outcome))

/-- Applies parts of a batch one behind the other, up to the first that stops. Each part comes with
the diagnostics that it told. -/
def applyParts (read : ι → Except ε Event) :
    List (List ι) → Engine σ → List (Batch ε × List Diagnostic) × Engine σ
  | [], engine => ([], engine)
  | part :: rest, engine =>
    let (batch, after) := applyEach read part engine
    match batch.halt with
    | some _ => ([(batch, after.diagnosticsSince engine)], after)
    | none =>
      let (parts, last) := applyParts read rest after
      ((batch, after.diagnosticsSince engine) :: parts, last)

/-- What the parts of a batch do, taken together, is what the batch does as a whole. -/
theorem apply_parts_eq_flatten (read : ι → Except ε Event) (parts : List (List ι))
    (engine : Engine σ) :
    let whole := applyEach read parts.flatten engine
    let split := applyParts read parts engine
    split.2 = whole.2 ∧
      (split.1.map fun part => part.1.applied).flatten = whole.1.applied ∧
      (split.1.map Prod.snd).flatten = whole.2.diagnosticsSince engine ∧
      (whole.1.halt = none → split.1.length = parts.length ∧
        ∀ part ∈ split.1, part.1.halt = none) := by
  induction parts generalizing engine with
  | nil => simp [applyEach, applyParts, diagnosticsSince]
  | cons part rest ih =>
      have grown := diagnostics_apply_each read part engine
      simp only [List.flatten_cons, applyEach_append, applyParts]
      rcases applied : applyEach read part engine with ⟨⟨events, halt⟩, after⟩
      cases halt with
      | some halt => simp
      | none =>
          rw [applied] at grown
          obtain ⟨sameLast, sameEvents, sameTold, complete⟩ := ih after
          have further := diagnostics_apply_each read rest.flatten after
          have told := diagnostics_since_append grown further
          simp only at sameLast sameEvents sameTold complete told ⊢
          refine ⟨sameLast, ?_, ?_, ?_⟩
          · simp only [List.map_cons, List.flatten_cons, sameEvents]
          · simp only [List.map_cons, List.flatten_cons, sameTold, told]
          · intro noHalt
            obtain ⟨length, none⟩ := complete noHalt
            simp only [List.length_cons, length, List.mem_cons, forall_eq_or_imp, true_and]
            exact none

/-- Of the parts of a batch that stops, the last stops as the batch does and no other does. -/
theorem apply_parts_halted (read : ι → Except ε Event) (parts : List (List ι)) (engine : Engine σ)
    (halt : Halt ε) (stopped : (applyEach read parts.flatten engine).1.halt = some halt) :
    ∃ before last, (applyParts read parts engine).1 = before ++ [last] ∧
      (∀ part ∈ before, part.1.halt = none) ∧ last.1.halt = some halt := by
  induction parts generalizing engine with
  | nil => cases stopped
  | cons part rest ih =>
      rw [List.flatten_cons, applyEach_append] at stopped
      rcases applied : applyEach read part engine with ⟨⟨events, partHalt⟩, after⟩
      rw [applied] at stopped
      cases partHalt with
      | some partHalt =>
          refine ⟨[], (⟨events, some partHalt⟩, after.diagnosticsSince engine), ?_, ?_, stopped⟩
          · simp only [applyParts, applied, List.nil_append]
          · intro part none
            cases none
      | none =>
          obtain ⟨before, last, split, complete, lastStops⟩ := ih after stopped
          refine ⟨(⟨events, none⟩, after.diagnosticsSince engine) :: before, last, ?_, ?_, lastStops⟩
          · simp only [applyParts, applied, split, List.cons_append]
          · exact List.forall_mem_cons.mpr ⟨rfl, complete⟩

end Engine

namespace Summary

def total (count : Summary → Nat) (summaries : List Summary) : Nat :=
  (summaries.map count).foldr (· + ·) 0

section Parts

variable {ε : Type} (parts : List (Batch ε × List Diagnostic))

def ofParts : List Summary :=
  parts.map fun part => part.1.summary part.2.length

theorem total_event_count :
    total eventCount (ofParts parts) = (parts.map fun part => part.1.applied).flatten.length := by
  induction parts with
  | nil => rfl
  | cons part rest ih =>
      rw [List.map_cons, List.flatten_cons, List.length_append, ← ih]
      rfl

theorem total_diagnostic_count :
    total diagnosticCount (ofParts parts) = (parts.map Prod.snd).flatten.length := by
  induction parts with
  | nil => rfl
  | cons part rest ih =>
      rw [List.map_cons, List.flatten_cons, List.length_append, ← ih]
      rfl

theorem total_outcome (name : String) :
    total (fun summary => Tally.get name summary.outcomes) (ofParts parts) =
      ((parts.map fun part => part.1.applied).flatten.map
        fun applied => Named.name applied.outcome).count name := by
  induction parts with
  | nil => rfl
  | cons part rest ih =>
      rw [List.map_cons, List.flatten_cons, List.map_append, List.count_append, ← ih]
      exact congrArg (· + _) (Tally.get_of_list name part.1.outcomeNames)

end Parts

end Summary

end BridgeState
