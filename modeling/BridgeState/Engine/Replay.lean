import BridgeState.Engine.Batch

/-!
# Replays

A replay goes through a list of objects, keeps its position, and counts each event as it is applied. It
ends with a summary, or with the position of the first object that is no event; what was applied before
it stays applied.
-/

namespace BridgeState

set_option autoImplicit false

namespace Summary

def zero : Summary :=
  ⟨0, [], none, 0⟩

def counting (applied : Applied) (counted : Summary) : Summary where
  eventCount := counted.eventCount + 1
  outcomes := Tally.add (Named.name applied.outcome) counted.outcomes
  lastBlockNumber := some applied.event.blockNumber
  diagnosticCount := counted.diagnosticCount

end Summary

/-- What a replay ends with: a summary, the position of an object that is no event, or a fault of the
backend. -/
inductive ReplayEnd where
  | finished (summary : Summary)
  | malformed (position : Nat) (problem : MalformedEvent)
  | failed (fault : StoreFault)

namespace Engine

variable {σ : Type} [Backend σ]

def replayFrom : Nat → Summary → List Json → Engine σ → ReplayEnd × Engine σ
  | _, counted, [], engine => (.finished counted, engine)
  | position, counted, input :: rest, engine =>
    match Event.parse input with
    | .error problem => (.malformed position problem, engine)
    | .ok event =>
      match perform event.script engine with
      | (.error fault, engine) => (.failed fault, engine)
      | (.ok outcome, engine) =>
        replayFrom (position + 1) (counted.counting ⟨event, outcome⟩) rest
          (engine.recordApply event outcome)

/-- Applies objects in order and sums up, with the diagnostics that were told meanwhile. -/
def replay (inputs : List Json) (engine : Engine σ) : ReplayEnd × Engine σ :=
  match replayFrom 0 .zero inputs engine with
  | (.finished counted, after) =>
    (.finished { counted with diagnosticCount := (after.diagnosticsSince engine).length }, after)
  | stopped => stopped

end Engine

end BridgeState
