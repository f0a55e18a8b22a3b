import BridgeState.Store.Backend

/-!
# Health

A health report lists checks. The program itself is always alive; a backend is healthy if it tells
the number of its messages and the highest of their blocks.
-/

namespace BridgeState

set_option autoImplicit false

inductive Check where
  | alive
  | backend (name : String) (messageCount : Cell) (lastMessageBlock : Json)
  | failing (error : String)

namespace Check

def healthy : Check → Bool
  | .failing _ => false
  | _ => true

def statusName (check : Check) : String :=
  if check.healthy then "healthy" else "unhealthy"

def details : Check → List (String × Cell)
  | .alive => []
  | .backend name messageCount lastMessageBlock =>
    [("backend", .plain (.str name)), ("message_count", messageCount),
     ("last_message_block", .plain lastMessageBlock)]
  | .failing error => [("error", .plain (.str error))]

def cells (check : Check) : List (String × Cell) :=
  ("status", .plain (.str check.statusName)) :: check.details

end Check

abbrev HealthReport : Type :=
  List (String × Check)

namespace HealthReport

def healthy (report : HealthReport) : Bool :=
  report.all fun check => check.2.healthy

def checkJson (check : Check) : Except Unwritable Json := do
  let members ← check.cells.mapM fun cell => return (Text.ofString cell.1, ← cell.2.json)
  return .obj members

def checks (report : HealthReport) : Except Unwritable Json := do
  let members ← report.mapM fun check => return (Text.ofString check.1, ← checkJson check.2)
  return .obj members

def alive : HealthReport :=
  [("liveness", .alive)]

def ofBackend {σ : Type} [Backend σ] (state : σ) : HealthReport × σ :=
  let (check, state) : Check × σ :=
    match Backend.count .messages none state with
    | (.error fault, state) => (.failing fault.message, state)
    | (.ok count, state) =>
      match Backend.maxBlock .messages state with
      | (.error fault, state) => (.failing fault.message, state)
      | (.ok block, state) => (.backend (Backend.name state) count block, state)
  (alive ++ [("entity_store", check)], state)

end HealthReport

end BridgeState
