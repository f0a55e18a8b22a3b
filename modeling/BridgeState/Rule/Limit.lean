import BridgeState.Identifier
import BridgeState.Rule.Transfer

/-!
# Limits

Setting limits writes the snapshot of its block and the ten present limits, each of which names that
snapshot. The id of a snapshot is derived from its block, so setting the limits of a block again
replaces it. A proposal is created pending and approved once.
-/

namespace BridgeState.Rule

set_option autoImplicit false

def limitProposal (blockNumber : Nat) (proposalId sender : HexString) (values : LimitValues) :
    Script Outcome :=
  createOnce .limitProposals
    { id := proposalId.text, blockNumber, values, proposerAddress := sender, status := .pending }

def limitApproval (blockNumber : Nat) (proposalId : HexString) : Script Outcome := do
  match ← Script.loaded .limitProposals proposalId.text with
  | none =>
    Script.reporting (unknownTarget .proposalApproved blockNumber proposalId.text
      s!"{Named.name EventKind.proposalApproved} for unknown limit proposal {proposalId.text}")
    return .ignored
  | some proposal =>
    if proposal.status = .approved then
      return .unchanged
    else
      Script.saving .limitProposals { proposal with status := .approved }
      return .updated

def limitSnapshot (blockNumber : Nat) (values : LimitValues) : LimitMessage where
  id := (Identifier.limitMessageId blockNumber).text
  blockNumber := blockNumber
  values := values

def presentLimit (blockNumber : Nat) (values : LimitValues) (kind : LimitKind) : Limit where
  id := Named.name kind
  blockNumber := blockNumber
  value := values.get kind
  messageId := Identifier.limitMessageId blockNumber

def saveLimits (blockNumber : Nat) (values : LimitValues) : List LimitKind → Script Unit
  | [] => pure ()
  | kind :: rest => do
    Script.saving .limits (presentLimit blockNumber values kind)
    saveLimits blockNumber values rest

def limits (blockNumber : Nat) (values : LimitValues) : Script Outcome := do
  let snapshot := limitSnapshot blockNumber values
  let existing ← Script.loaded .limitMessages snapshot.id
  Script.saving .limitMessages snapshot
  saveLimits blockNumber values Named.all
  match existing with
  | none => return .created
  | some previous => return if previous = snapshot then .unchanged else .updated

end BridgeState.Rule
