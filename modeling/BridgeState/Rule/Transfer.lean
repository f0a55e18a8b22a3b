import BridgeState.Event.Basic
import BridgeState.Script

/-!
# Transfers

A transfer is created pending and moves on by the table `MessageStatus.successors`; which status
confirms it depends on its direction. A creation for an id that is taken changes nothing, an event
for an id that is not stored is ignored, and a move that is not allowed is rejected.
-/

namespace BridgeState

set_option autoImplicit false

def MessageStatus.successors : MessageStatus → List MessageStatus
  | .pending => [.approved, .confirmed, .withdrawalConfirmed, .canceled]
  | .approved => [.confirmed, .withdrawalConfirmed, .canceled]
  | .confirmed => []
  | .withdrawalConfirmed => []
  | .canceled => []

def Direction.confirmation : Direction → MessageStatus
  | .hostToGuest => .confirmed
  | .guestToHost => .withdrawalConfirmed

def MessageStatus.isConfirmation (status : MessageStatus) : Bool :=
  (Named.all : List Direction).any fun direction => direction.confirmation == status

inductive Refusal where
  | noMove (current target : MessageStatus)
  | otherConfirmation (direction : Direction) (target : MessageStatus)
deriving Repr, DecidableEq

def Refusal.message : Refusal → String
  | .noMove current target => s!"cannot move from {Named.name current} to {Named.name target}"
  | .otherConfirmation direction target =>
    s!"{Named.name direction} message confirms as {Named.name direction.confirmation}, not {Named.name target}"

/-- Why a transfer in the given state may not move to the target, if it may not. -/
def MessageStatus.refusal (current : MessageStatus) (direction : Direction)
    (target : MessageStatus) : Option Refusal :=
  if !current.successors.contains target then some (.noMove current target)
  else if target.isConfirmation && target != direction.confirmation then
    some (.otherConfirmation direction target)
  else none

def StatusEvent.target : StatusEvent → MessageStatus
  | .approved => .approved
  | .confirmed => .confirmed
  | .withdrawalConfirmed => .withdrawalConfirmed
  | .cancelConfirmed => .canceled
  | .reverted => .canceled

/-- Saves a row unless its id is taken. -/
def createOnce (collection : Collection) (row : collection.Row) : Script Outcome := do
  let existing ← Script.loaded collection (Record.id row)
  if existing.isSome then
    return .unchanged
  else
    Script.saving collection row
    return .created

def unknownTarget (kind : EventKind) (blockNumber : Nat) (targetId message : Text) :
    Diagnostic where
  kind := .unknownTarget
  severity := .warning
  eventKind := Named.name kind
  blockNumber := blockNumber
  targetId := targetId
  addresses := []
  message := message

namespace Rule

def pendingMessage (blockNumber : Nat) (direction : Direction) (transfer : Transfer) : Message where
  id := transfer.messageId.text
  blockNumber := blockNumber
  originAddress := transfer.sender
  destinationAddress := transfer.recipient
  amount := transfer.amount
  token := transfer.token
  status := .pending
  direction := direction

def transfer (blockNumber : Nat) (direction : Direction) (transfer : Transfer) : Script Outcome :=
  createOnce .messages (pendingMessage blockNumber direction transfer)

def moveRejected (blockNumber : Nat) (change : StatusEvent) (id : Text) (refusal : Refusal) :
    Diagnostic where
  kind := .transitionRejected
  severity := .warning
  eventKind := Named.name change.kind
  blockNumber := blockNumber
  targetId := id
  addresses := []
  message := s!"{Named.name change.kind} rejected for message " ++ id ++ s!": {refusal.message}"

def status (blockNumber : Nat) (change : StatusEvent) (messageId : HexString) :
    Script Outcome := do
  match ← Script.loaded .messages messageId.text with
  | none =>
    Script.reporting (unknownTarget change.kind blockNumber messageId.text
      s!"{Named.name change.kind} for unknown message {messageId.text}")
    return .ignored
  | some message =>
    if message.status = change.target then
      return .unchanged
    else
      match message.status.refusal message.direction change.target with
      | some refusal =>
        Script.reporting (moveRejected blockNumber change message.id refusal)
        return .rejected
      | none =>
        Script.saving .messages { message with status := change.target }
        return .updated

end Rule

end BridgeState
