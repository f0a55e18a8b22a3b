import BridgeState.Rule.Transfer

/-!
# Control of the bridge and of accounts

A control event leaves one audit record, which the first event of its id decides. An account event
also sets the present state of its address, which the last event decides.
-/

namespace BridgeState

set_option autoImplicit false

def ControlEvent.action : ControlEvent → BridgeAction
  | .started => .start
  | .stopped => .stop
  | .paused => .pause
  | .resumed => .resume
  | .pausedByVolume => .pause
  | .startedByVolume => .resume

def ChainKind.outward : ChainKind → Direction
  | .host => .hostToGuest
  | .guest => .guestToHost

def AccountAction.result : AccountAction → AccountStatus
  | .pause => .blocked
  | .resume => .active

/-- The outcome of an event that wrote an audit record and set a present state: a new audit record
decides it, or else whether the state was already so. -/
def Outcome.ofProjection (audit : Outcome) (same : Bool) : Outcome :=
  if audit = .created then .created else if same then .unchanged else .updated

namespace Rule

def control (blockNumber : Nat) (change : ControlEvent) (messageId : HexString) :
    Script Outcome :=
  createOnce .bridgeMessages
    { id := messageId.text, blockNumber, action := change.action, status := .pending }

def accountAudit (blockNumber : Nat) (chain : ChainKind) (action : AccountAction)
    (messageId address : HexString) (timestamp : Nat) : AccountMessage where
  id := messageId.text
  blockNumber := blockNumber
  action := action
  direction := chain.outward
  address := address
  timestamp := timestamp

def accountState (blockNumber : Nat) (chain : ChainKind) (action : AccountAction)
    (messageId address : HexString) (timestamp : Nat) : Account where
  id := address.text
  blockNumber := blockNumber
  messageId := messageId
  kind := chain
  status := action.result
  timestamp := timestamp

def account (blockNumber : Nat) (chain : ChainKind) (action : AccountAction)
    (messageId address : HexString) (timestamp : Nat) : Script Outcome := do
  let audit ← createOnce .accountMessages
    (accountAudit blockNumber chain action messageId address timestamp)
  let state := accountState blockNumber chain action messageId address timestamp
  let existing ← Script.loaded .accounts state.id
  Script.saving .accounts state
  return .ofProjection audit (existing == some state)

end Rule

end BridgeState
