import BridgeState.Json.Value
import BridgeState.Vocabulary

/-!
# Outcomes and diagnostics

Applying an event has exactly one outcome. What is unusual but no failure is told in a diagnostic:
a target that is not stored, a move that is not allowed, a list of validators that cannot be
resolved.
-/

namespace BridgeState

set_option autoImplicit false

/-- What applying one event did to the records. -/
inductive Outcome where
  | created
  | updated
  | unchanged
  | ignored
  | rejected
deriving Repr, DecidableEq

instance : Named Outcome where
  all := [.created, .updated, .unchanged, .ignored, .rejected]
  name
    | .created => "CREATED"
    | .updated => "UPDATED"
    | .unchanged => "UNCHANGED"
    | .ignored => "IGNORED"
    | .rejected => "REJECTED"

theorem Outcome.ofName?_name (outcome : Outcome) :
    Named.ofName? (Named.name outcome) = some outcome := by
  cases outcome <;> rfl

inductive Severity where
  | warning
  | error
deriving Repr, DecidableEq

instance : Named Severity where
  all := [.warning, .error]
  name
    | .warning => "WARNING"
    | .error => "ERROR"

inductive DiagnosticKind where
  | unknownTarget
  | transitionRejected
  | reconciliationFailed
deriving Repr, DecidableEq

instance : Named DiagnosticKind where
  all := [.unknownTarget, .transitionRejected, .reconciliationFailed]
  name
    | .unknownTarget => "unknown_target"
    | .transitionRejected => "transition_rejected"
    | .reconciliationFailed => "reconciliation_failed"

structure Diagnostic where
  kind : DiagnosticKind
  severity : Severity
  eventKind : String
  blockNumber : Nat
  targetId : Text
  addresses : List String
  message : Text
deriving Repr, DecidableEq

def Diagnostic.toJson (diagnostic : Diagnostic) : Json :=
  .obj [("kind", .str (Named.name diagnostic.kind)),
    ("severity", .str (Named.name diagnostic.severity)), ("event_kind", .str diagnostic.eventKind),
    ("block_number", .nat diagnostic.blockNumber), ("target_id", .str diagnostic.targetId),
    ("addresses", .arr (diagnostic.addresses.map Json.string)), ("message", .str diagnostic.message)]

end BridgeState
