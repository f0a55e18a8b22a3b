import BridgeState.Rule.Control

/-!
# Validators

The registry gives every host address its guest address and whether it is a candidate at present. A
list of validators is stored only if every host address is resolved; the whole list is resolved
before anything is saved, and a list that is not resolved is rejected with every address at fault.
-/

namespace BridgeState

set_option autoImplicit false

inductive Unresolved where
  | unknown
  | inactive
deriving Repr, DecidableEq

instance : Named Unresolved where
  all := [.unknown, .inactive]
  name
    | .unknown => "unknown"
    | .inactive => "inactive"

structure Resolution where
  guestAddresses : List HexString
  failures : List (String × Unresolved)
deriving Repr, DecidableEq

namespace Resolution

def complete (resolution : Resolution) : Bool :=
  resolution.failures.isEmpty

def failedAddresses (resolution : Resolution) : List String :=
  resolution.failures.map Prod.fst

def details (resolution : Resolution) : String :=
  String.intercalate ", " (resolution.failures.map fun failure =>
    s!"{failure.1} ({Named.name failure.2})")

def add (address : String) (candidate : Option CandidateValidator) (rest : Resolution) :
    Resolution :=
  match candidate with
  | none => { rest with failures := (address, .unknown) :: rest.failures }
  | some candidate =>
    if candidate.active then
      { rest with guestAddresses := candidate.guestAddress :: rest.guestAddresses }
    else { rest with failures := (address, .inactive) :: rest.failures }

end Resolution

namespace Rule

def resolve : List String → Script Resolution
  | [] => return ⟨[], []⟩
  | address :: rest => do
    let candidate ← Script.loaded .candidateValidators address
    return (← resolve rest).add address candidate

def candidateAudit (blockNumber : Nat) (action : ValidatorAction)
    (messageId hostAddress guestAddress : HexString) : CandidateValidatorMessage where
  id := messageId.text
  blockNumber := blockNumber
  hostAddress := hostAddress
  guestAddress := guestAddress
  action := action

def candidateState (blockNumber : Nat) (action : ValidatorAction)
    (hostAddress guestAddress : HexString) : CandidateValidator where
  id := hostAddress.text
  blockNumber := blockNumber
  guestAddress := guestAddress
  active := action == .add

def candidate (blockNumber : Nat) (action : ValidatorAction)
    (messageId hostAddress guestAddress : HexString) : Script Outcome := do
  let audit ← createOnce .candidateValidatorMessages
    (candidateAudit blockNumber action messageId hostAddress guestAddress)
  let state := candidateState blockNumber action hostAddress guestAddress
  let existing ← Script.loaded .candidateValidators state.id
  Script.saving .candidateValidators state
  return .ofProjection audit (existing == some state)

def listProposal (blockNumber : Nat) (proposalId : HexString) (hostAddresses : List HexString) :
    Script Outcome :=
  createOnce .candidatesValidatorsProposals
    { id := proposalId.text, blockNumber, status := .pending, hostAddresses }

def listRejected (blockNumber : Nat) (messageId proposalId : HexString) (resolution : Resolution) :
    Diagnostic where
  kind := .reconciliationFailed
  severity := .error
  eventKind := Named.name EventKind.validatorsListMessage
  blockNumber := blockNumber
  targetId := proposalId.text
  addresses := resolution.failedAddresses
  message := s!"Validator list {messageId.text} for proposal {proposalId.text} not reconciled: {resolution.details}"

/-- Approves the proposal of a list that was stored; a proposal that is not stored is told, and one
newly approved makes the event a change. -/
def approveListProposal (blockNumber : Nat) (messageId proposalId : HexString)
    (outcome : Outcome) : Script Outcome := do
  match ← Script.loaded .candidatesValidatorsProposals proposalId.text with
  | none =>
    Script.reporting (unknownTarget .validatorsListMessage blockNumber proposalId.text
      s!"Validator list {messageId.text} references unknown proposal {proposalId.text}")
    return outcome
  | some proposal =>
    if proposal.status = .approved then
      return outcome
    else
      Script.saving .candidatesValidatorsProposals { proposal with status := .approved }
      return if outcome = .unchanged then .updated else outcome

def storedList (blockNumber : Nat) (messageId proposalId : HexString)
    (guestAddresses : List HexString) (threshold : Nat) : ValidatorsListMessage where
  id := messageId.text
  blockNumber := blockNumber
  proposalId := proposalId
  guestAddresses := guestAddresses
  threshold := threshold

def validatorList (blockNumber : Nat) (messageId proposalId : HexString)
    (hostAddresses : List HexString) (threshold : Nat) : Script Outcome := do
  let resolution ← resolve (hostAddresses.map HexString.text)
  if resolution.complete then
    let list := storedList blockNumber messageId proposalId resolution.guestAddresses threshold
    let existing ← Script.loaded .validatorsListMessages list.id
    Script.saving .validatorsListMessages list
    let outcome : Outcome := match existing with
      | none => .created
      | some previous => if previous = list then .unchanged else .updated
    approveListProposal blockNumber messageId proposalId outcome
  else
    Script.reporting (listRejected blockNumber messageId proposalId resolution)
    return .rejected

end Rule

end BridgeState
