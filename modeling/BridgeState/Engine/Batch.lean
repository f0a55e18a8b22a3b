import BridgeState.Engine.Basic

/-!
# Batches

`Engine.applyEach` applies a list of items in order, each of which is read as an event just before it
is applied, and stops at the first item that cannot be read or that the backend fails on; what came
before stays applied. A `Batch` tells what was applied and why it stopped; the position of the item
that stopped it is the number of events applied. Batches applied one after the other are one batch:
`Engine.applyEach_append`.
-/

namespace BridgeState

set_option autoImplicit false

structure Applied where
  event : Event
  outcome : Outcome
deriving Repr, DecidableEq

inductive Halt (ε : Type) where
  | unreadable (cause : ε)
  | failed (fault : StoreFault)

structure Batch (ε : Type) where
  applied : List Applied
  halt : Option (Halt ε)

/-- What a batch did, in numbers. -/
structure Summary where
  eventCount : Nat
  outcomes : Tally
  lastBlockNumber : Option Nat
  diagnosticCount : Nat
deriving Repr, DecidableEq

namespace Batch

variable {ε : Type}

def behind (first : Applied) (batch : Batch ε) : Batch ε :=
  { batch with applied := first :: batch.applied }

def outcomeNames (batch : Batch ε) : List String :=
  batch.applied.map fun applied => Named.name applied.outcome

def lastBlock (batch : Batch ε) : Option Nat :=
  batch.applied.getLast?.map fun applied => applied.event.blockNumber

def summary (batch : Batch ε) (diagnosticCount : Nat) : Summary where
  eventCount := batch.applied.length
  outcomes := Tally.ofList batch.outcomeNames
  lastBlockNumber := batch.lastBlock
  diagnosticCount := diagnosticCount

end Batch

namespace Engine

variable {σ ι ε : Type} [Backend σ]

def applyEach (read : ι → Except ε Event) : List ι → Engine σ → Batch ε × Engine σ
  | [], engine => (⟨[], none⟩, engine)
  | item :: rest, engine =>
    match read item with
    | .error cause => (⟨[], some (.unreadable cause)⟩, engine)
    | .ok event =>
      match perform event.script engine with
      | (.error fault, engine) => (⟨[], some (.failed fault)⟩, engine)
      | (.ok outcome, engine) =>
        let (batch, engine) := applyEach read rest (engine.recordApply event outcome)
        (batch.behind ⟨event, outcome⟩, engine)

def applyEvents (events : List Event) (engine : Engine σ) : Batch Empty × Engine σ :=
  applyEach Except.ok events engine

def applyJsons (inputs : List Json) (engine : Engine σ) : Batch MalformedEvent × Engine σ :=
  applyEach Event.parse inputs engine

def diagnosticsSince (engine earlier : Engine σ) : List Diagnostic :=
  engine.diagnostics.drop earlier.diagnostics.length

theorem applyEach_append (read : ι → Except ε Event) (first second : List ι)
    (engine : Engine σ) :
    applyEach read (first ++ second) engine =
      match applyEach read first engine with
      | (⟨applied, some halt⟩, engine) => (⟨applied, some halt⟩, engine)
      | (⟨applied, none⟩, engine) =>
        let (batch, engine) := applyEach read second engine
        (⟨applied ++ batch.applied, batch.halt⟩, engine) := by
  induction first generalizing engine with
  | nil => rfl
  | cons item rest ih =>
    simp only [List.cons_append, applyEach]
    cases read item with
    | error cause => rfl
    | ok event =>
      simp only
      match performed : perform event.script engine with
      | (.error fault, after) => rfl
      | (.ok outcome, after) =>
        simp only [ih]
        match applyEach read rest (after.recordApply event outcome) with
        | (⟨applied, some halt⟩, last) => rfl
        | (⟨applied, none⟩, last) => rfl

end Engine

end BridgeState
