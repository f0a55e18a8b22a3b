import BridgeState.Entity.Codec
import BridgeState.Event.Basic
import BridgeState.Json.Writer

/-!
# Events as JSON objects

`Event.parse` reads an event from a JSON value: the member `kind` selects what the other members
must be, and members that the kind does not know are ignored. What cannot be read is a
`MalformedEvent` with every complaint about it. `Event.encode` writes an event as the object of its
fields.
-/

namespace BridgeState

set_option autoImplicit false

/-- A value that is no event, and why: it is no object, or its members are not those of an event of
the kind it shows. -/
inductive MalformedEvent where
  | notObject (kindName : String)
  | invalid (shownKind : Text) (complaints : List Complaint)

namespace MalformedEvent

def message : MalformedEvent → Text
  | .notObject kindName => s!"event must be a JSON object, got {kindName}"
  | .invalid shownKind complaints =>
    "malformed " ++ shownKind ++ s!" event: {complaints.length} validation error(s)"

def complaints : MalformedEvent → List Complaint
  | .notObject _ => []
  | .invalid _ complaints => complaints

end MalformedEvent

namespace EventBody

open Decoder

def decodeTransfer (direction : Direction) (members : Members) : Checked EventBody :=
  (fun messageId sender recipient amount token =>
    .transfer direction ⟨messageId, sender, recipient, amount, token⟩)
    <$> required "message_id" hex members
    <*> required "sender" hex members
    <*> required "recipient" hex members
    <*> required "amount" natural members
    <*> optional "token" none (nullable string) members

def decodeStatus (change : StatusEvent) (members : Members) : Checked EventBody :=
  .status change <$> required "message_id" hex members

def decodeControl (change : ControlEvent) (members : Members) : Checked EventBody :=
  .control change <$> required "message_id" hex members

def decodeAccount (chain : ChainKind) (action : AccountAction) (members : Members) :
    Checked EventBody :=
  .account chain action
    <$> required "message_id" hex members
    <*> required "address" hex members
    <*> required "timestamp" natural members

def decodeCandidate (action : ValidatorAction) (members : Members) : Checked EventBody :=
  .candidate action
    <$> required "message_id" hex members
    <*> required "host_address" hex members
    <*> required "guest_address" hex members

end EventBody

namespace Event

open Decoder

def decodePlain (decodeBody : Members → Checked EventBody) (members : Members) : Checked Event :=
  Event.mk <$> required "block_number" natural members <*> decodeBody members

/-- The members of an event of the given kind; limits stand before all other fields. -/
def decode (kind : EventKind) (members : Members) : Checked Event :=
  match kind with
  | .relayMessage => decodePlain (EventBody.decodeTransfer .hostToGuest) members
  | .withdrawMessage => decodePlain (EventBody.decodeTransfer .guestToHost) members
  | .approvedRelayMessage => decodePlain (EventBody.decodeStatus .approved) members
  | .confirmMessage => decodePlain (EventBody.decodeStatus .confirmed) members
  | .confirmWithdrawMessage => decodePlain (EventBody.decodeStatus .withdrawalConfirmed) members
  | .confirmCancelMessage => decodePlain (EventBody.decodeStatus .cancelConfirmed) members
  | .revertMessage => decodePlain (EventBody.decodeStatus .reverted) members
  | .bridgeStarted => decodePlain (EventBody.decodeControl .started) members
  | .bridgeStopped => decodePlain (EventBody.decodeControl .stopped) members
  | .bridgePaused => decodePlain (EventBody.decodeControl .paused) members
  | .bridgeResumed => decodePlain (EventBody.decodeControl .resumed) members
  | .bridgePausedByVolume => decodePlain (EventBody.decodeControl .pausedByVolume) members
  | .bridgeStartedByVolume => decodePlain (EventBody.decodeControl .startedByVolume) members
  | .hostAccountPaused => decodePlain (EventBody.decodeAccount .host .pause) members
  | .hostAccountResumed => decodePlain (EventBody.decodeAccount .host .resume) members
  | .guestAccountPaused => decodePlain (EventBody.decodeAccount .guest .pause) members
  | .guestAccountResumed => decodePlain (EventBody.decodeAccount .guest .resume) members
  | .setNewLimits =>
    (fun values blockNumber => ⟨blockNumber, .limits values⟩)
      <$> LimitValues.decode members
      <*> required "block_number" natural members
  | .proposalCreated =>
    (fun values blockNumber proposalId sender =>
      ⟨blockNumber, .limitProposal proposalId sender values⟩)
      <$> LimitValues.decode members
      <*> required "block_number" natural members
      <*> required "proposal_id" hex members
      <*> required "sender" hex members
  | .proposalApproved =>
    decodePlain (fun members => .limitApproval <$> required "proposal_id" hex members) members
  | .validatorAdded => decodePlain (EventBody.decodeCandidate .add) members
  | .validatorRemoved => decodePlain (EventBody.decodeCandidate .remove) members
  | .validatorsListProposalCreated =>
    decodePlain (fun members =>
      .listProposal
        <$> required "proposal_id" hex members
        <*> required "host_addresses" (list hex) members) members
  | .validatorsListMessage =>
    decodePlain (fun members =>
      .validatorList
        <$> required "message_id" hex members
        <*> required "proposal_id" hex members
        <*> required "host_addresses" (list hex) members
        <*> required "threshold" natural members) members

def kindOfTag? : Json → Option EventKind
  | .str text => text.toString?.bind Named.ofName?
  | _ => none

/-- The members of an event whose kind is one of its members. -/
def decodeTagged (members : Members) : Checked Event :=
  match Json.lookup "kind" members with
  | none => .fail .noTag (.obj members)
  | some tag =>
    match kindOfTag? tag with
    | some kind => (decode kind members).under (.field (Named.name kind))
    | none =>
      .fail (.unknownTag tag.display.shown (Named.names EventKind)) (.obj members)

def shownKind (members : Members) : Text :=
  match Json.lookup "kind" members with
  | some tag => tag.display
  | none => "<missing>"

def parse : Json → Except MalformedEvent Event
  | .obj members =>
    match decodeTagged members with
    | .valid event => .ok event
    | .invalid complaints => .error (.invalid (shownKind members) complaints)
  | other => .error (.notObject other.kindName)

/-- The members of an event behind its kind and block number. -/
def bodyMembers : EventBody → Members
  | .transfer _ transfer =>
    [("message_id", .hex transfer.messageId), ("sender", .hex transfer.sender),
     ("recipient", .hex transfer.recipient), ("amount", .nat transfer.amount),
     ("token", .ofOption .str transfer.token)]
  | .status _ messageId => [("message_id", .hex messageId)]
  | .control _ messageId => [("message_id", .hex messageId)]
  | .account _ _ messageId address timestamp =>
    [("message_id", .hex messageId), ("address", .hex address), ("timestamp", .nat timestamp)]
  | .limits values => values.encode
  | .limitProposal proposalId sender values =>
    values.encode ++ ([("proposal_id", .hex proposalId), ("sender", .hex sender)] : Members)
  | .limitApproval proposalId => [("proposal_id", .hex proposalId)]
  | .candidate _ messageId hostAddress guestAddress =>
    [("message_id", .hex messageId), ("host_address", .hex hostAddress),
     ("guest_address", .hex guestAddress)]
  | .listProposal proposalId hostAddresses =>
    [("proposal_id", .hex proposalId), ("host_addresses", .hexes hostAddresses)]
  | .validatorList messageId proposalId hostAddresses threshold =>
    [("message_id", .hex messageId), ("proposal_id", .hex proposalId),
     ("host_addresses", .hexes hostAddresses), ("threshold", .nat threshold)]

def encodeMembers (event : Event) : Members :=
  ("kind", .str event.kindName) :: ("block_number", .nat event.blockNumber)
    :: bodyMembers event.body

def encode (event : Event) : Json :=
  .obj event.encodeMembers

end Event

end BridgeState
