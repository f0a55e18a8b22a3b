import BridgeState.Engine.Batch
import BridgeState.Http.Body

/-!
# Taking in events

The events of a batch are applied one by one. An event that is malformed refuses the batch from there
on: the events before it stay applied, and the response tells how many they are.
-/

namespace BridgeState.Http

set_option autoImplicit false

/-- What became of a batch: the events applied, the position it came to, and the fault that stopped
it there. -/
structure Ingest where
  applied : List Applied
  position : Nat
  fault : Option EngineFault

namespace Ingest

def behind (first : Applied) (ingest : Ingest) : Ingest :=
  { ingest with applied := first :: ingest.applied }

def resultsFrom (index : Nat) : List Applied → List Json
  | [] => []
  | applied :: rest =>
    .obj [("index", .nat index), ("kind", .str applied.event.kindName),
      ("block_number", .nat applied.event.blockNumber), ("outcome", .word applied.outcome)]
      :: resultsFrom (index + 1) rest

def summary (ingest : Ingest) (diagnostics : List Diagnostic) : Json :=
  .obj [("applied", .nat ingest.applied.length), ("results", .arr (resultsFrom 0 ingest.applied)),
    ("diagnostics", .arr (diagnostics.map Diagnostic.toJson)),
    ("last_block_number",
      .ofOption .nat (ingest.applied.getLast?.map fun applied => applied.event.blockNumber))]

def refusal (ingest : Ingest) (problem : MalformedEvent) : Json :=
  .obj [("message", .str problem.message), ("index", .nat ingest.position),
    ("applied", .nat ingest.applied.length), ("errors", Complaint.listJson problem.complaints)]

end Ingest

section Ingest

variable {σ : Type} [Backend σ]

/-- Reads and applies events in order from a position on, up to the first that fails. -/
def ingestFrom : Nat → List Json → Engine σ → Ingest × Engine σ
  | position, [], engine => (⟨[], position, none⟩, engine)
  | position, input :: rest, engine =>
    match Event.parse input with
    | .error problem => (⟨[], position, some (.malformed problem)⟩, engine)
    | .ok event =>
      match engine.apply event with
      | (.error fault, engine) => (⟨[], position, some fault⟩, engine)
      | (.ok outcome, engine) =>
        let (result, engine) := ingestFrom (position + 1) rest engine
        (result.behind ⟨event, outcome⟩, engine)

def ingestAnswer (contentType : Option String) (body : String) (engine : Engine σ) :
    Except ServiceFault Response × Engine σ :=
  match readBatch contentType body with
  | .error refusal => (.ok refusal, engine)
  | .ok events =>
    let (result, after) := ingestFrom 0 events engine
    match result.fault with
    | none => (.ok (.ok (result.summary (after.diagnosticsSince engine))), after)
    | some (.malformed problem) => (.ok (.refused 422 (result.refusal problem)), after)
    | some fault => (.error (.engine fault), after)

end Ingest

end BridgeState.Http
