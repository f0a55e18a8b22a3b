import BridgeState.Entity.Basic
import BridgeState.Schema.Decoder

/-!
# Records as JSON objects

Every kind of row has a decoder from the members of an object and an encoder back. Members that the
row does not know are ignored; members and complaints come in the order of the fields, the ten limits
before all others where a row has them. Decoding what was encoded gives the row back.
-/

namespace BridgeState

set_option autoImplicit false

/-- A row that can be read from an object and written as one. -/
class Coded (α : Type) where
  decode : Members → Checked α
  encode : α → Members

namespace LimitValues

def decode (members : Members) : Checked LimitValues :=
  LimitValues.mk
    <$> required "min_host_transaction_value" Decoder.natural members
    <*> required "max_host_transaction_value" Decoder.natural members
    <*> required "day_host_max_limit" Decoder.natural members
    <*> required "day_host_max_limit_for_one_address" Decoder.natural members
    <*> required "max_host_pending_transaction_limit" Decoder.natural members
    <*> required "min_guest_transaction_value" Decoder.natural members
    <*> required "max_guest_transaction_value" Decoder.natural members
    <*> required "day_guest_max_limit" Decoder.natural members
    <*> required "day_guest_max_limit_for_one_address" Decoder.natural members
    <*> required "max_guest_pending_transaction_limit" Decoder.natural members

def encode (values : LimitValues) : Members :=
  (Named.all : List LimitKind).map fun kind => (kind.fieldName, Json.nat (values.get kind))

end LimitValues

def Json.hex (value : HexString) : Json :=
  .str value.text

def Json.word {α : Type} [Named α] (value : α) : Json :=
  .str (Named.name value)

def Json.hexes (values : List HexString) : Json :=
  .arr (values.map Json.hex)

instance : Coded Message where
  decode members :=
    Message.mk
      <$> required "id" Decoder.string members
      <*> required "block_number" Decoder.natural members
      <*> required "origin_address" Decoder.hex members
      <*> required "destination_address" Decoder.hex members
      <*> required "amount" Decoder.natural members
      <*> optional "token" none (Decoder.nullable Decoder.string) members
      <*> optional "status" .pending (Decoder.word MessageStatus) members
      <*> required "direction" (Decoder.word Direction) members
  encode row :=
    [("id", .str row.id), ("block_number", .nat row.blockNumber),
     ("origin_address", .hex row.originAddress),
     ("destination_address", .hex row.destinationAddress), ("amount", .nat row.amount),
     ("token", .ofOption .str row.token), ("status", .word row.status),
     ("direction", .word row.direction)]

instance : Coded BridgeMessage where
  decode members :=
    BridgeMessage.mk
      <$> required "id" Decoder.string members
      <*> required "block_number" Decoder.natural members
      <*> required "action" (Decoder.word BridgeAction) members
      <*> optional "status" .pending (Decoder.word BridgeMessageStatus) members
  encode row :=
    [("id", .str row.id), ("block_number", .nat row.blockNumber), ("action", .word row.action),
     ("status", .word row.status)]

instance : Coded AccountMessage where
  decode members :=
    AccountMessage.mk
      <$> required "id" Decoder.string members
      <*> required "block_number" Decoder.natural members
      <*> required "action" (Decoder.word AccountAction) members
      <*> required "direction" (Decoder.word Direction) members
      <*> required "address" Decoder.hex members
      <*> required "timestamp" Decoder.natural members
  encode row :=
    [("id", .str row.id), ("block_number", .nat row.blockNumber), ("action", .word row.action),
     ("direction", .word row.direction), ("address", .hex row.address),
     ("timestamp", .nat row.timestamp)]

instance : Coded Account where
  decode members :=
    Account.mk
      <$> required "id" Decoder.string members
      <*> required "block_number" Decoder.natural members
      <*> required "message_id" Decoder.hex members
      <*> required "kind" (Decoder.word ChainKind) members
      <*> required "status" (Decoder.word AccountStatus) members
      <*> required "timestamp" Decoder.natural members
  encode row :=
    [("id", .str row.id), ("block_number", .nat row.blockNumber),
     ("message_id", .hex row.messageId), ("kind", .word row.kind), ("status", .word row.status),
     ("timestamp", .nat row.timestamp)]

instance : Coded LimitProposal where
  decode members :=
    (fun values id blockNumber proposerAddress status =>
      LimitProposal.mk id blockNumber values proposerAddress status)
      <$> LimitValues.decode members
      <*> required "id" Decoder.string members
      <*> required "block_number" Decoder.natural members
      <*> required "proposer_address" Decoder.hex members
      <*> optional "status" .pending (Decoder.word ProposalStatus) members
  encode row :=
    row.values.encode ++
      ([("id", .str row.id), ("block_number", .nat row.blockNumber),
        ("proposer_address", .hex row.proposerAddress), ("status", .word row.status)] : Members)

instance : Coded LimitMessage where
  decode members :=
    (fun values id blockNumber => LimitMessage.mk id blockNumber values)
      <$> LimitValues.decode members
      <*> required "id" Decoder.string members
      <*> required "block_number" Decoder.natural members
  encode row :=
    row.values.encode ++
      ([("id", .str row.id), ("block_number", .nat row.blockNumber)] : Members)

instance : Coded Limit where
  decode members :=
    Limit.mk
      <$> required "id" Decoder.string members
      <*> required "block_number" Decoder.natural members
      <*> required "value" Decoder.natural members
      <*> required "message_id" Decoder.hex members
  encode row :=
    [("id", .str row.id), ("block_number", .nat row.blockNumber), ("value", .nat row.value),
     ("message_id", .hex row.messageId)]

instance : Coded CandidateValidator where
  decode members :=
    CandidateValidator.mk
      <$> required "id" Decoder.string members
      <*> required "block_number" Decoder.natural members
      <*> required "guest_address" Decoder.hex members
      <*> required "active" Decoder.boolean members
  encode row :=
    [("id", .str row.id), ("block_number", .nat row.blockNumber),
     ("guest_address", .hex row.guestAddress), ("active", .bool row.active)]

instance : Coded CandidateValidatorMessage where
  decode members :=
    CandidateValidatorMessage.mk
      <$> required "id" Decoder.string members
      <*> required "block_number" Decoder.natural members
      <*> required "host_address" Decoder.hex members
      <*> required "guest_address" Decoder.hex members
      <*> required "action" (Decoder.word ValidatorAction) members
  encode row :=
    [("id", .str row.id), ("block_number", .nat row.blockNumber),
     ("host_address", .hex row.hostAddress), ("guest_address", .hex row.guestAddress),
     ("action", .word row.action)]

instance : Coded CandidatesValidatorsProposal where
  decode members :=
    CandidatesValidatorsProposal.mk
      <$> required "id" Decoder.string members
      <*> required "block_number" Decoder.natural members
      <*> optional "status" .pending (Decoder.word ProposalStatus) members
      <*> optional "host_addresses" [] (Decoder.list Decoder.hex) members
  encode row :=
    [("id", .str row.id), ("block_number", .nat row.blockNumber), ("status", .word row.status),
     ("host_addresses", .hexes row.hostAddresses)]

instance : Coded ValidatorsListMessage where
  decode members :=
    ValidatorsListMessage.mk
      <$> required "id" Decoder.string members
      <*> required "block_number" Decoder.natural members
      <*> required "proposal_id" Decoder.hex members
      <*> required "guest_addresses" (Decoder.list Decoder.hex) members
      <*> required "threshold" Decoder.natural members
  encode row :=
    [("id", .str row.id), ("block_number", .nat row.blockNumber),
     ("proposal_id", .hex row.proposalId), ("guest_addresses", .hexes row.guestAddresses),
     ("threshold", .nat row.threshold)]

instance : (collection : Collection) → Coded collection.Row
  | .messages => inferInstanceAs (Coded Message)
  | .bridgeMessages => inferInstanceAs (Coded BridgeMessage)
  | .accountMessages => inferInstanceAs (Coded AccountMessage)
  | .accounts => inferInstanceAs (Coded Account)
  | .limitProposals => inferInstanceAs (Coded LimitProposal)
  | .limitMessages => inferInstanceAs (Coded LimitMessage)
  | .limits => inferInstanceAs (Coded Limit)
  | .candidateValidators => inferInstanceAs (Coded CandidateValidator)
  | .candidateValidatorMessages => inferInstanceAs (Coded CandidateValidatorMessage)
  | .candidatesValidatorsProposals => inferInstanceAs (Coded CandidatesValidatorsProposal)
  | .validatorsListMessages => inferInstanceAs (Coded ValidatorsListMessage)

def Collection.encodeRow (collection : Collection) (row : collection.Row) : Json :=
  .obj (Coded.encode row)

def Collection.decodeRow (collection : Collection) : Json → Checked collection.Row
  | .obj members => Coded.decode members
  | other => .fail (.notRecord collection.recordName) other

end BridgeState
