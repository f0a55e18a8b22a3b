import BridgeState.Console.Run
import BridgeState.Database.Absent
import BridgeState.Proofs.Calls
import Mathlib.Data.List.Forall2

/-!
# Replayed texts

A text that is replayed into a fresh store in memory is numbered by its lines, blank ones included,
while what is applied of it is numbered by its events. If an event stands in every line that is not
blank, all of them are applied and the report counts them. Otherwise the first line without an event
ends the replay: what stands before it is applied, nothing else is, and the report names that line
and counts the events before it.
-/

namespace BridgeState

set_option autoImplicit false

/-! ## Counts by name -/

namespace Tally

def names (tally : Tally) : List String :=
  tally.map Prod.fst

end Tally

/-! ## Engines on a site -/

namespace Engine

variable {σ ι ε : Type} [Server σ]

end Engine

/-! ## Batches of events -/

namespace Console

open Text

/-! ## Lines -/

def content (line : List Char) : List Char :=
  trim isStrippable line

def Holds (line : List Char) (event : Event) : Prop :=
  ∃ value, Json.read (String.ofList (content line)) = .ok value ∧ Event.parse value = .ok event

def written (lines : List (List Char)) : List (List Char) :=
  lines.filter fun line => content line != []

def countLine (entry : String × Nat) : Text :=
  s!"  {entry.1}: {entry.2}"

def lastBlockLine (events : List Event) : Text :=
  s!"Last block: {(Json.ofOption Json.nat (events.getLast?.map Event.blockNumber)).literal}"

structure Report.Counts (report : Report) (events : List Event) (diagnostics : List Diagnostic) :
    Prop where
  exitCode : report.exitCode = 0
  errors : report.errors = []
  output : ∃ counts : Tally,
    report.output = ↑s!"Applied {events.length} events" :: counts.map countLine ++
      [lastBlockLine events] ++ diagnosticLines diagnostics ∧
    counts.total = events.length ∧
    ∀ entry ∈ counts, entry.2 = ((History.outcomes events).map Named.name).count entry.1

def fresh : Engine Store :=
  .start .empty (some .zero)

section Replay

variable {σ : Type} [Server σ] (server : σ) {lines : List (List Char)}

end Replay

end Console

end BridgeState
