import BridgeState.Console.Report
import BridgeState.Engine.Batch
import BridgeState.Text.Lines

/-!
# Replaying a text

A text holds one event a line. Lines are read one at a time, each just before its event is applied;
blank lines hold nothing, but are counted. The first line that cannot be read ends the replay, and
the report tells its number and how many events went before it.
-/

namespace BridgeState.Console

set_option autoImplicit false

open Text

structure NumberedLine where
  number : Nat
  text : String
deriving Repr, DecidableEq

/-- The lines that are not blank, without their blank ends, numbered on from a number. -/
def numberedFrom (number : Nat) : List (List Char) → List NumberedLine
  | [] => []
  | line :: rest =>
    match trim isStrippable line with
    | [] => numberedFrom (number + 1) rest
    | text => ⟨number, String.ofList text⟩ :: numberedFrom (number + 1) rest

def numberedLines (text : String) : List NumberedLine :=
  numberedFrom 1 (lines text.toList)

inductive LineFault where
  | notJson (number : Nat) (problem : Json.ReadProblem)
  | malformed (number : Nat) (event : MalformedEvent)

def NumberedLine.event (line : NumberedLine) : Except LineFault Event := do
  let value ← (Json.read line.text).mapError (.notJson line.number)
  (Event.parse value).mapError (.malformed line.number)

def complaintLine (complaint : Complaint) : Text :=
  let place := String.intercalate "." (complaint.path.map PathStep.text)
  s!"  {place}: {complaint.fault.message}"

def malformedReport (applied number : Nat) (event : MalformedEvent) : Report :=
  .failure <| (s!"ERROR: line {number}: " ++ event.message) :: event.complaints.map complaintLine
    ++ ([s!"Stopped after {applied} events"] : List Text)

/-- What is printed of a line that cannot be read. A line with values nested too deep ends the run. -/
def unreadableReport (number : Nat) : Json.ReadProblem → Except RunFault Report
  | .grammar fault _ =>
    .ok (.failure [s!"ERROR: line {number}: invalid JSON ({fault.message})"])
  | .integerTooLong digits =>
    .ok (.failure [s!"ERROR: {(Json.ReadProblem.integerTooLong digits).reason}"])
  | .tooDeep container => .error (.nesting container)

def LineFault.report (applied : Nat) : LineFault → Except RunFault Report
  | .notJson number problem => unreadableReport number problem
  | .malformed number event => .ok (malformedReport applied number event)

def tallyLines (tally : Tally) : List Text :=
  (tally.mergeSort fun first second => first.1 ≤ second.1).map fun entry =>
    s!"  {entry.1}: {entry.2}"

def diagnosticLine (diagnostic : Diagnostic) : Text :=
  s!"  [{Named.name diagnostic.severity}] block {diagnostic.blockNumber}: " ++ diagnostic.message

def diagnosticLines (diagnostics : List Diagnostic) : List Text :=
  if diagnostics.isEmpty then []
  else "" :: ↑s!"{diagnostics.length} diagnostics:" :: diagnostics.map diagnosticLine

def summaryLines (summary : Summary) : List Text :=
  let lastBlock := Json.ofOption Json.nat summary.lastBlockNumber
  ↑s!"Applied {summary.eventCount} events" :: tallyLines summary.outcomes
    ++ ([s!"Last block: {lastBlock.literal}"] : List Text)

/-- Whether a fault is about what a row holds, and so is reported like a line that cannot be
read. -/
def isUnreadable : StoreFault → Bool
  | .unreadableRow _ _ => true
  | .unreadableBody _ (.tooDeep _) => false
  | .unreadableBody _ _ => true
  | _ => false

def replayReport (batch : Batch LineFault) (diagnostics : List Diagnostic) :
    Except RunFault Report :=
  match batch.halt with
  | none =>
    .ok (.success (summaryLines (batch.summary diagnostics.length)
      ++ diagnosticLines diagnostics))
  | some (.unreadable fault) => fault.report batch.applied.length
  | some (.failed fault) =>
    if isUnreadable fault then .ok (.failure [s!"ERROR: {fault.message}"])
    else .error (.store fault)

def replay {σ : Type} [Backend σ] (text : String) (engine : Engine σ) :
    Except RunFault Report × Engine σ :=
  let (batch, after) := Engine.applyEach NumberedLine.event (numberedLines text) engine
  (replayReport batch (after.diagnosticsSince engine), after)

end BridgeState.Console
