import BridgeState.Event.Codec
import BridgeState.Metrics
import BridgeState.Rule.Event
import BridgeState.Store.Backend

/-!
# The engine

An engine applies events to a backend, one at a time, and keeps the diagnostics and, if it has them,
the metrics. `Engine.apply` takes an event, `Engine.applyJson` any JSON value that should be one. An
event that is refused leaves the engine as it was; a fault of the backend keeps what was told and
saved before it.
-/

namespace BridgeState

set_option autoImplicit false

structure Engine (σ : Type) where
  state : σ
  metrics : Option Metrics
  diagnostics : List Diagnostic
  /-- How long an application is taken to last; who has a clock sets it. -/
  latency : Latency

inductive EngineFault where
  | malformed (event : MalformedEvent)
  | noHandler (kind : Json)
  | store (fault : StoreFault)

def EngineFault.message : EngineFault → Text
  | .malformed event => event.message
  | .noHandler kind => s!"no handler for event kind {kind.literal}"
  | .store fault => fault.message

namespace Engine

variable {σ : Type}

def start (state : σ) (metrics : Option Metrics) : Engine σ :=
  ⟨state, metrics, [], .zero⟩

/-- The engine with a clock that shows these readings before and behind an application. -/
def timed (started stopped : Binary64) (engine : Engine σ) : Engine σ :=
  { engine with latency := .elapsed started stopped }

def report (diagnostic : Diagnostic) (engine : Engine σ) : Engine σ :=
  { engine with
    diagnostics := engine.diagnostics ++ [diagnostic]
    metrics := engine.metrics.map (Metrics.recordCode (Named.name diagnostic.kind)) }

theorem report_eq (diagnostic : Diagnostic) (engine : Engine σ) :
    engine.report diagnostic = { engine with
      diagnostics := engine.diagnostics ++ [diagnostic]
      metrics := engine.metrics.map (Metrics.recordDiagnostic diagnostic.kind) } := by
  simp only [report, funext (Metrics.recordCode_name diagnostic.kind)]

/-- Runs a script on the backend, up to its first fault. -/
def perform [Backend σ] {α : Type} : Script α → Engine σ → Except StoreFault α × Engine σ
  | .done value, engine => (.ok value, engine)
  | .load collection id next, engine =>
    match Backend.load collection id engine.state with
    | (.ok row, state) => perform (next row) { engine with state }
    | (.error fault, state) => (.error fault, { engine with state })
  | .save collection row next, engine =>
    match Backend.save collection row engine.state with
    | (.ok (), state) => perform next { engine with state }
    | (.error fault, state) => (.error fault, { engine with state })
  | .report diagnostic next, engine => perform next (engine.report diagnostic)

def recordApply (event : Event) (outcome : Outcome) (engine : Engine σ) : Engine σ :=
  { engine with
    metrics := engine.metrics.map
      (Metrics.recordApply event.kindName (Named.name outcome) event.blockNumber engine.latency) }

def apply [Backend σ] (event : Event) (engine : Engine σ) :
    Except EngineFault Outcome × Engine σ :=
  match perform event.script engine with
  | (.ok outcome, engine) => (.ok outcome, engine.recordApply event outcome)
  | (.error fault, engine) => (.error (.store fault), engine)

def applyJson [Backend σ] (input : Json) (engine : Engine σ) :
    Except EngineFault Outcome × Engine σ :=
  match Event.parse input with
  | .ok event => engine.apply event
  | .error malformed => (.error (.malformed malformed), engine)

/-- An object that is no event of a known kind is refused. -/
def applyUnknown (kind : Json) (engine : Engine σ) : Except EngineFault Outcome × Engine σ :=
  (.error (.noHandler kind), engine)

/-- Applies an event and keeps neither diagnostics nor metrics. -/
def applyQuietly [Backend σ] (event : Event) (engine : Engine σ) :
    Except EngineFault Outcome × Engine σ :=
  match perform event.script (start engine.state none) with
  | (.ok outcome, quiet) => (.ok outcome, { engine with state := quiet.state })
  | (.error fault, quiet) => (.error (.store fault), { engine with state := quiet.state })

def resolve [Backend σ] (addresses : List String) (engine : Engine σ) :
    Except StoreFault Resolution × Engine σ :=
  perform (Rule.resolve addresses) engine

/-- On a store in memory a script does what `Script.run` says, and tells its diagnostics in
order. -/
theorem perform_store {α : Type} (script : Script α) (engine : Engine Store) :
    perform script engine =
      (.ok (script.run engine.state).value,
        (script.run engine.state).diagnostics.foldl (fun engine diagnostic => engine.report diagnostic)
          { engine with state := (script.run engine.state).store }) := by
  induction script generalizing engine with
  | done value => rfl
  | load collection id next ih => exact ih _ engine
  | save collection row next ih => exact ih _
  | report diagnostic next ih => exact ih _

end Engine

end BridgeState
