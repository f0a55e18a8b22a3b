import BridgeState.Hex
import BridgeState.Vocabulary

/-!
# Stored records

One structure for each of the eleven collections. Ids are any texts, as a stored row may have any id;
addresses and references are in normal form and numbers are not negative by their types. `Record`
is what storing and paging need of a row: its id, the block it belongs to, and the status it can be
filtered by, if its collection has one. `Collection.Row` names the structure of a collection.
-/

namespace BridgeState

set_option autoImplicit false

class Record (α : Type) where
  id : α → Text
  block : α → Nat
  status : α → Option String

structure LimitValues where
  minHostTransactionValue : Nat
  maxHostTransactionValue : Nat
  dayHostMaxLimit : Nat
  dayHostMaxLimitForOneAddress : Nat
  maxHostPendingTransactionLimit : Nat
  minGuestTransactionValue : Nat
  maxGuestTransactionValue : Nat
  dayGuestMaxLimit : Nat
  dayGuestMaxLimitForOneAddress : Nat
  maxGuestPendingTransactionLimit : Nat
deriving Repr, DecidableEq

def LimitValues.get (values : LimitValues) : LimitKind → Nat
  | .minHostTransactionValue => values.minHostTransactionValue
  | .maxHostTransactionValue => values.maxHostTransactionValue
  | .dayHostMaxLimit => values.dayHostMaxLimit
  | .dayHostMaxLimitForOneAddress => values.dayHostMaxLimitForOneAddress
  | .maxHostPendingTransactionLimit => values.maxHostPendingTransactionLimit
  | .minGuestTransactionValue => values.minGuestTransactionValue
  | .maxGuestTransactionValue => values.maxGuestTransactionValue
  | .dayGuestMaxLimit => values.dayGuestMaxLimit
  | .dayGuestMaxLimitForOneAddress => values.dayGuestMaxLimitForOneAddress
  | .maxGuestPendingTransactionLimit => values.maxGuestPendingTransactionLimit

structure Message where
  id : Text
  blockNumber : Nat
  originAddress : HexString
  destinationAddress : HexString
  amount : Nat
  token : Option Text
  status : MessageStatus
  direction : Direction
deriving Repr, DecidableEq

structure BridgeMessage where
  id : Text
  blockNumber : Nat
  action : BridgeAction
  status : BridgeMessageStatus
deriving Repr, DecidableEq

/-- The audit record of one pause or resumption of an account. -/
structure AccountMessage where
  id : Text
  blockNumber : Nat
  action : AccountAction
  direction : Direction
  address : HexString
  timestamp : Nat
deriving Repr, DecidableEq

structure Account where
  id : Text
  blockNumber : Nat
  messageId : HexString
  kind : ChainKind
  status : AccountStatus
  timestamp : Nat
deriving Repr, DecidableEq

structure LimitProposal where
  id : Text
  blockNumber : Nat
  values : LimitValues
  proposerAddress : HexString
  status : ProposalStatus
deriving Repr, DecidableEq

structure LimitMessage where
  id : Text
  blockNumber : Nat
  values : LimitValues
deriving Repr, DecidableEq

structure Limit where
  id : Text
  blockNumber : Nat
  value : Nat
  messageId : HexString
deriving Repr, DecidableEq

/-- A host address, its guest address, and whether it is a candidate at present. -/
structure CandidateValidator where
  id : Text
  blockNumber : Nat
  guestAddress : HexString
  active : Bool
deriving Repr, DecidableEq

structure CandidateValidatorMessage where
  id : Text
  blockNumber : Nat
  hostAddress : HexString
  guestAddress : HexString
  action : ValidatorAction
deriving Repr, DecidableEq

structure CandidatesValidatorsProposal where
  id : Text
  blockNumber : Nat
  status : ProposalStatus
  hostAddresses : List HexString
deriving Repr, DecidableEq

/-- A list of validators by guest address, stored only when every host address was resolved. -/
structure ValidatorsListMessage where
  id : Text
  blockNumber : Nat
  proposalId : HexString
  guestAddresses : List HexString
  threshold : Nat
deriving Repr, DecidableEq

instance : Record Message where
  id row := row.id
  block row := row.blockNumber
  status row := some (Named.name row.status)

instance : Record BridgeMessage where
  id row := row.id
  block row := row.blockNumber
  status row := some (Named.name row.status)

instance : Record AccountMessage where
  id row := row.id
  block row := row.blockNumber
  status _ := none

instance : Record Account where
  id row := row.id
  block row := row.blockNumber
  status row := some (Named.name row.status)

instance : Record LimitProposal where
  id row := row.id
  block row := row.blockNumber
  status row := some (Named.name row.status)

instance : Record LimitMessage where
  id row := row.id
  block row := row.blockNumber
  status _ := none

instance : Record Limit where
  id row := row.id
  block row := row.blockNumber
  status _ := none

instance : Record CandidateValidator where
  id row := row.id
  block row := row.blockNumber
  status row := some (Named.name (ValidatorState.ofActive row.active))

instance : Record CandidateValidatorMessage where
  id row := row.id
  block row := row.blockNumber
  status _ := none

instance : Record CandidatesValidatorsProposal where
  id row := row.id
  block row := row.blockNumber
  status row := some (Named.name row.status)

instance : Record ValidatorsListMessage where
  id row := row.id
  block row := row.blockNumber
  status _ := none

inductive Collection where
  | messages
  | bridgeMessages
  | accountMessages
  | accounts
  | limitProposals
  | limitMessages
  | limits
  | candidateValidators
  | candidateValidatorMessages
  | candidatesValidatorsProposals
  | validatorsListMessages
deriving Repr, DecidableEq

instance : Named Collection where
  all := [.messages, .bridgeMessages, .accountMessages, .accounts, .limitProposals, .limitMessages,
    .limits, .candidateValidators, .candidateValidatorMessages, .candidatesValidatorsProposals,
    .validatorsListMessages]
  name
    | .messages => "messages"
    | .bridgeMessages => "bridge_messages"
    | .accountMessages => "account_messages"
    | .accounts => "accounts"
    | .limitProposals => "limit_proposals"
    | .limitMessages => "limit_messages"
    | .limits => "limits"
    | .candidateValidators => "candidate_validators"
    | .candidateValidatorMessages => "candidate_validator_messages"
    | .candidatesValidatorsProposals => "candidates_validators_proposals"
    | .validatorsListMessages => "validators_list_messages"

theorem Collection.ofName?_name (collection : Collection) :
    Named.ofName? (Named.name collection) = some collection := by
  cases collection <;> rfl

theorem Collection.mem_all (collection : Collection) :
    collection ∈ (Named.all : List Collection) := by
  cases collection <;> decide

namespace Collection

def recordName : Collection → String
  | .messages => "Message"
  | .bridgeMessages => "BridgeMessage"
  | .accountMessages => "AccountMessage"
  | .accounts => "Account"
  | .limitProposals => "LimitProposal"
  | .limitMessages => "LimitMessage"
  | .limits => "Limit"
  | .candidateValidators => "CandidateValidator"
  | .candidateValidatorMessages => "CandidateValidatorMessage"
  | .candidatesValidatorsProposals => "CandidatesValidatorsProposal"
  | .validatorsListMessages => "ValidatorsListMessage"

@[reducible] def Row : Collection → Type
  | .messages => Message
  | .bridgeMessages => BridgeMessage
  | .accountMessages => AccountMessage
  | .accounts => Account
  | .limitProposals => LimitProposal
  | .limitMessages => LimitMessage
  | .limits => Limit
  | .candidateValidators => CandidateValidator
  | .candidateValidatorMessages => CandidateValidatorMessage
  | .candidatesValidatorsProposals => CandidatesValidatorsProposal
  | .validatorsListMessages => ValidatorsListMessage

instance : (collection : Collection) → Record collection.Row
  | .messages => inferInstanceAs (Record Message)
  | .bridgeMessages => inferInstanceAs (Record BridgeMessage)
  | .accountMessages => inferInstanceAs (Record AccountMessage)
  | .accounts => inferInstanceAs (Record Account)
  | .limitProposals => inferInstanceAs (Record LimitProposal)
  | .limitMessages => inferInstanceAs (Record LimitMessage)
  | .limits => inferInstanceAs (Record Limit)
  | .candidateValidators => inferInstanceAs (Record CandidateValidator)
  | .candidateValidatorMessages => inferInstanceAs (Record CandidateValidatorMessage)
  | .candidatesValidatorsProposals => inferInstanceAs (Record CandidatesValidatorsProposal)
  | .validatorsListMessages => inferInstanceAs (Record ValidatorsListMessage)

instance : (collection : Collection) → DecidableEq collection.Row
  | .messages => inferInstanceAs (DecidableEq Message)
  | .bridgeMessages => inferInstanceAs (DecidableEq BridgeMessage)
  | .accountMessages => inferInstanceAs (DecidableEq AccountMessage)
  | .accounts => inferInstanceAs (DecidableEq Account)
  | .limitProposals => inferInstanceAs (DecidableEq LimitProposal)
  | .limitMessages => inferInstanceAs (DecidableEq LimitMessage)
  | .limits => inferInstanceAs (DecidableEq Limit)
  | .candidateValidators => inferInstanceAs (DecidableEq CandidateValidator)
  | .candidateValidatorMessages => inferInstanceAs (DecidableEq CandidateValidatorMessage)
  | .candidatesValidatorsProposals => inferInstanceAs (DecidableEq CandidatesValidatorsProposal)
  | .validatorsListMessages => inferInstanceAs (DecidableEq ValidatorsListMessage)

/-- The limits that a row carries, if rows of its collection carry limits. -/
def limitValues? : (collection : Collection) → collection.Row → Option LimitValues
  | .limitProposals, row => some row.values
  | .limitMessages, row => some row.values
  | _, _ => none

end Collection

/-- A row together with the collection whose structure it has. -/
structure AnyRow where
  collection : Collection
  row : collection.Row

end BridgeState
