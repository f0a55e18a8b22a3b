import BridgeState.Entity.Basic

/-!
# Bridge events

An event is a block number and what happened in it. The twenty-four kinds of contract events fall
into ten families, each with the data that its members carry; `Event.kind` gives the kind back and
`Event.targetId` the id of the record the event is about.
-/

namespace BridgeState

set_option autoImplicit false

inductive EventKind where
  | relayMessage
  | withdrawMessage
  | approvedRelayMessage
  | confirmMessage
  | confirmWithdrawMessage
  | confirmCancelMessage
  | revertMessage
  | bridgeStarted
  | bridgeStopped
  | bridgePaused
  | bridgeResumed
  | bridgePausedByVolume
  | bridgeStartedByVolume
  | hostAccountPaused
  | hostAccountResumed
  | guestAccountPaused
  | guestAccountResumed
  | setNewLimits
  | proposalCreated
  | proposalApproved
  | validatorAdded
  | validatorRemoved
  | validatorsListProposalCreated
  | validatorsListMessage
deriving Repr, DecidableEq

instance : Named EventKind where
  all := [.relayMessage, .withdrawMessage, .approvedRelayMessage, .confirmMessage,
    .confirmWithdrawMessage, .confirmCancelMessage, .revertMessage, .bridgeStarted,
    .bridgeStopped, .bridgePaused, .bridgeResumed, .bridgePausedByVolume,
    .bridgeStartedByVolume, .hostAccountPaused, .hostAccountResumed, .guestAccountPaused,
    .guestAccountResumed, .setNewLimits, .proposalCreated, .proposalApproved, .validatorAdded,
    .validatorRemoved, .validatorsListProposalCreated, .validatorsListMessage]
  name
    | .relayMessage => "RelayMessage"
    | .withdrawMessage => "WithdrawMessage"
    | .approvedRelayMessage => "ApprovedRelayMessage"
    | .confirmMessage => "ConfirmMessage"
    | .confirmWithdrawMessage => "ConfirmWithdrawMessage"
    | .confirmCancelMessage => "ConfirmCancelMessage"
    | .revertMessage => "RevertMessage"
    | .bridgeStarted => "BridgeStarted"
    | .bridgeStopped => "BridgeStopped"
    | .bridgePaused => "BridgePaused"
    | .bridgeResumed => "BridgeResumed"
    | .bridgePausedByVolume => "BridgePausedByVolume"
    | .bridgeStartedByVolume => "BridgeStartedByVolume"
    | .hostAccountPaused => "HostAccountPausedMessage"
    | .hostAccountResumed => "HostAccountResumedMessage"
    | .guestAccountPaused => "GuestAccountPausedMessage"
    | .guestAccountResumed => "GuestAccountResumedMessage"
    | .setNewLimits => "SetNewLimits"
    | .proposalCreated => "ProposalCreated"
    | .proposalApproved => "ProposalApproved"
    | .validatorAdded => "ValidatorAdded"
    | .validatorRemoved => "ValidatorRemoved"
    | .validatorsListProposalCreated => "ValidatorsListProposalCreated"
    | .validatorsListMessage => "ValidatorsListMessage"

theorem EventKind.ofName?_name (kind : EventKind) :
    Named.ofName? (Named.name kind) = some kind := by
  cases kind <;> rfl

structure Transfer where
  messageId : HexString
  sender : HexString
  recipient : HexString
  amount : Nat
  token : Option Text
deriving Repr, DecidableEq

inductive StatusEvent where
  | approved
  | confirmed
  | withdrawalConfirmed
  | cancelConfirmed
  | reverted
deriving Repr, DecidableEq

inductive ControlEvent where
  | started
  | stopped
  | paused
  | resumed
  | pausedByVolume
  | startedByVolume
deriving Repr, DecidableEq

inductive EventBody where
  | transfer (direction : Direction) (transfer : Transfer)
  | status (change : StatusEvent) (messageId : HexString)
  | control (change : ControlEvent) (messageId : HexString)
  | account (chain : ChainKind) (action : AccountAction) (messageId address : HexString)
      (timestamp : Nat)
  | limits (values : LimitValues)
  | limitProposal (proposalId sender : HexString) (values : LimitValues)
  | limitApproval (proposalId : HexString)
  | candidate (action : ValidatorAction) (messageId hostAddress guestAddress : HexString)
  | listProposal (proposalId : HexString) (hostAddresses : List HexString)
  | validatorList (messageId proposalId : HexString) (hostAddresses : List HexString)
      (threshold : Nat)
deriving Repr, DecidableEq

structure Event where
  blockNumber : Nat
  body : EventBody
deriving Repr, DecidableEq

def StatusEvent.kind : StatusEvent → EventKind
  | .approved => .approvedRelayMessage
  | .confirmed => .confirmMessage
  | .withdrawalConfirmed => .confirmWithdrawMessage
  | .cancelConfirmed => .confirmCancelMessage
  | .reverted => .revertMessage

def ControlEvent.kind : ControlEvent → EventKind
  | .started => .bridgeStarted
  | .stopped => .bridgeStopped
  | .paused => .bridgePaused
  | .resumed => .bridgeResumed
  | .pausedByVolume => .bridgePausedByVolume
  | .startedByVolume => .bridgeStartedByVolume

def EventBody.kind : EventBody → EventKind
  | .transfer .hostToGuest _ => .relayMessage
  | .transfer .guestToHost _ => .withdrawMessage
  | .status change _ => change.kind
  | .control change _ => change.kind
  | .account .host .pause _ _ _ => .hostAccountPaused
  | .account .host .resume _ _ _ => .hostAccountResumed
  | .account .guest .pause _ _ _ => .guestAccountPaused
  | .account .guest .resume _ _ _ => .guestAccountResumed
  | .limits _ => .setNewLimits
  | .limitProposal _ _ _ => .proposalCreated
  | .limitApproval _ => .proposalApproved
  | .candidate .add _ _ _ => .validatorAdded
  | .candidate .remove _ _ _ => .validatorRemoved
  | .listProposal _ _ => .validatorsListProposalCreated
  | .validatorList _ _ _ _ => .validatorsListMessage

namespace Event

def kind (event : Event) : EventKind :=
  event.body.kind

def kindName (event : Event) : String :=
  Named.name event.kind

/-- The id of the record that the event is about: its message id, or else its proposal id. -/
def targetId (event : Event) : String :=
  match event.body with
  | .transfer _ transfer => transfer.messageId.text
  | .status _ messageId => messageId.text
  | .control _ messageId => messageId.text
  | .account _ _ messageId _ _ => messageId.text
  | .limits _ => ""
  | .limitProposal proposalId _ _ => proposalId.text
  | .limitApproval proposalId => proposalId.text
  | .candidate _ messageId _ _ => messageId.text
  | .listProposal proposalId _ => proposalId.text
  | .validatorList messageId _ _ _ => messageId.text

end Event

end BridgeState
