import BridgeState.Engine.Basic
import BridgeState.Text.Blank

/-!
# A demonstration

A short history of a bridge, told line by line: a transfer that is relayed, approved and confirmed;
an account that is paused; limits that the same block sets twice; and a list of validators that is
refused until every one of them is a candidate.
-/

namespace BridgeState.Demonstration

set_option autoImplicit false

open Text

def rule : String :=
  String.ofList (List.replicate 60 '=')

def heading (text : String) : List String :=
  [rule, text, rule]

def messageId : String :=
  "0x" ++ String.ofList (List.replicate 64 'a')

def hostSender : String :=
  "0x" ++ String.ofList (List.replicate 40 '1')

def guestRecipient : String :=
  "0x" ++ String.ofList (List.replicate 64 '2')

def event (kind : EventKind) (block : Nat) (fields : Members) : Json :=
  .obj (("kind", .word kind) :: ("block_number", .nat block) :: fields)

def texts (list : List String) : Json :=
  .arr (list.map Json.string)

/-- Applies an event; the text is its outcome, or why there is none. -/
def applied (event : Json) (engine : Engine Store) : String × Engine Store :=
  match engine.applyJson event with
  | (.ok outcome, engine) => (Named.name outcome, engine)
  | (.error fault, engine) => (fault.message.shown, engine)

def appliedAll (events : List Json) (engine : Engine Store) : Engine Store :=
  events.foldl (fun engine event => (applied event engine).2) engine

def shown {α : Type} (tell : α → String) (row : Option α) : String :=
  (row.map tell).getD "nothing"

def messageStatus (store : Store) : String :=
  shown (fun message : Message => Named.name message.status) (store.load .messages messageId)

def proposalStatus (store : Store) : String :=
  let status := shown (fun proposal : CandidatesValidatorsProposal => Named.name proposal.status)
    (store.load .candidatesValidatorsProposals "0xcc")
  s!"   Proposal status: {status}"

def transferEvents : List (EventKind × Json) :=
  [(.relayMessage, event .relayMessage 100
      [("message_id", .str messageId), ("sender", .str hostSender),
       ("recipient", .str guestRecipient), ("amount", .nat 1000)]),
   (.approvedRelayMessage, event .approvedRelayMessage 101 [("message_id", .str messageId)]),
   (.confirmMessage, event .confirmMessage 102 [("message_id", .str messageId)])]

def transferLines : List (EventKind × Json) → Engine Store → List String × Engine Store
  | [], engine => ([], engine)
  | (kind, event) :: rest, engine =>
    let (outcome, engine) := applied event engine
    let line :=
      s!"[{padded 9 outcome}] {padded 22 (Named.name kind)} -> {messageStatus engine.state}"
    let (lines, engine) := transferLines rest engine
    (line :: lines, engine)

def transferPart (engine : Engine Store) : List String × Engine Store :=
  let (lines, engine) := transferLines transferEvents engine
  (heading "STEP 1: RELAY -> APPROVE -> CONFIRM" ++ lines ++ [""], engine)

def accountLine (account : Account) : String :=
  s!"Account {account.id.shown}: {Named.name account.status} ({Named.name account.kind})"

def accountPart (engine : Engine Store) : List String × Engine Store :=
  let (_, engine) := applied (event .hostAccountPaused 103
    [("message_id", .str "0x0a"), ("address", .str hostSender),
     ("timestamp", .nat 1700000000)]) engine
  let line := shown accountLine (engine.state.load .accounts hostSender)
  (heading "STEP 2: HOST ACCOUNT PAUSED" ++ [line, ""], engine)

def limitsEvent : Json :=
  event .setNewLimits 104 <| (Named.all : List LimitKind).mapIdx fun index kind =>
    (Text.ofString kind.fieldName, .nat ((index + 1) * Nat.pow 10 18))

def limitLine (limit : Limit) : String :=
  s!"   {padded 38 limit.id.shown} {limit.value}"

def limitPart (engine : Engine Store) : List String × Engine Store :=
  let engine := appliedAll [limitsEvent, limitsEvent] engine
  let snapshots := engine.state.count .limitMessages none
  (heading "STEP 3: SET NEW LIMITS"
    ++ [s!"Snapshot id: {(Identifier.limitMessageId 104).text}",
        s!"Snapshots stored after replaying block 104 twice: {snapshots}"]
    ++ (engine.state.list .limits .standard).map limitLine ++ [""], engine)

def candidateEvent (block : Nat) (messageId host guest : String) : Json :=
  event .validatorAdded block
    [("message_id", .str messageId), ("host_address", .str host), ("guest_address", .str guest)]

def listEvent (block : Nat) : Json :=
  event .validatorsListMessage block
    [("message_id", .str "0xee"), ("proposal_id", .str "0xcc"),
     ("host_addresses", texts ["0x01", "0x02"]), ("threshold", .nat 2)]

def guestList (store : Store) : String :=
  shown (fun list : ValidatorsListMessage => (Json.hexes list.guestAddresses).literal)
    (store.load .validatorsListMessages "0xee")

def validatorPart (engine : Engine Store) : List String × Engine Store :=
  let engine := appliedAll
    [candidateEvent 105 "0xf1" "0x01" "0xa1",
     event .validatorsListProposalCreated 106
       [("proposal_id", .str "0xcc"), ("host_addresses", texts ["0x01", "0x02"])]] engine
  let (early, engine) := applied (listEvent 107) engine
  let pending := proposalStatus engine.state
  let (late, engine) := applied (listEvent 109)
    (appliedAll [candidateEvent 108 "0xf2" "0x02" "0xb2"] engine)
  (heading "STEP 4: VALIDATOR LIST (ALL-OR-NOTHING)"
    ++ [s!"[{early}] 0x02 is not a candidate yet", pending,
        s!"[{late}] guest list {guestList engine.state}", proposalStatus engine.state, ""], engine)

def diagnosticPart (engine : Engine Store) : List String :=
  rule :: s!"Diagnostics raised: {engine.diagnostics.length}"
    :: engine.diagnostics.map (fun diagnostic =>
        s!"   [{Named.name diagnostic.severity}] {diagnostic.message.shown}")
    ++ [rule]

def lines : List String :=
  let engine := Engine.start Store.empty none
  let (transfer, engine) := transferPart engine
  let (account, engine) := accountPart engine
  let (limit, engine) := limitPart engine
  let (validator, engine) := validatorPart engine
  heading "Bridge Indexer - State Reconstruction Demonstration" ++ [""]
    ++ transfer ++ account ++ limit ++ validator ++ diagnosticPart engine

end BridgeState.Demonstration
