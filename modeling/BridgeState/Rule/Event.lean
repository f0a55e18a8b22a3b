import BridgeState.Rule.Limit
import BridgeState.Rule.Validator

/-!
# What each event does

`Event.script` gives every event the script of its family.
-/

namespace BridgeState

set_option autoImplicit false

def Event.script (event : Event) : Script Outcome :=
  let blockNumber := event.blockNumber
  match event.body with
  | .transfer direction transfer => Rule.transfer blockNumber direction transfer
  | .status change messageId => Rule.status blockNumber change messageId
  | .control change messageId => Rule.control blockNumber change messageId
  | .account chain action messageId address timestamp =>
    Rule.account blockNumber chain action messageId address timestamp
  | .limits values => Rule.limits blockNumber values
  | .limitProposal proposalId sender values =>
    Rule.limitProposal blockNumber proposalId sender values
  | .limitApproval proposalId => Rule.limitApproval blockNumber proposalId
  | .candidate action messageId hostAddress guestAddress =>
    Rule.candidate blockNumber action messageId hostAddress guestAddress
  | .listProposal proposalId hostAddresses =>
    Rule.listProposal blockNumber proposalId hostAddresses
  | .validatorList messageId proposalId hostAddresses threshold =>
    Rule.validatorList blockNumber messageId proposalId hostAddresses threshold

def Event.apply (event : Event) (store : Store) : Ran Outcome :=
  event.script.run store

end BridgeState
