import BridgeState.Proofs.History
import BridgeState.Proofs.RecordCodec
import BridgeState.Proofs.Salts

/-!
# Events applied with every check

The rules are functions of the words of the bridge and build rows of the type that their collection
has. An `Attempt` does the same with nothing taken for granted: what handles an event is looked up
under its kind, a status, a direction or an action is looked up in a table, every row is decoded
from the object of its fields, its id is derived from any value, and every save compares the
collection of the row. Each of these can fail, but for no event does any of them: an attempt at an
event is its script.
-/

namespace BridgeState

set_option autoImplicit false

inductive AttemptFault where
  | noHandler (kindName : String)
  | otherEvent (kind : EventKind)
  | noEntry
  | noId (fault : Identifier.IdentifierFault)
  | invalidRecord (recordName : String) (complaints : List Complaint)
  | wrongRecord (given expected : Collection)

abbrev Attempt (α : Type) : Type :=
  ExceptT AttemptFault Script α

namespace Attempt

def entry {κ β : Type} [BEq κ] (table : List (κ × β)) (key : κ) : Attempt β :=
  match table.lookup key with
  | some value => pure value
  | none => throw .noEntry

/-- The row of that collection from the object of its fields. -/
def decoded (collection : Collection) (members : Members) : Attempt collection.Row :=
  match collection.decodeRow (.obj members) with
  | .valid row => pure row
  | .invalid complaints => throw (.invalidRecord collection.recordName complaints)

/-- Saves a row of any collection, if it is one of this collection. -/
def saved (collection : Collection) (row : AnyRow) : Attempt Unit :=
  if same : row.collection = collection then
    liftM (Script.saving collection (same ▸ row.row))
  else throw (.wrongRecord row.collection collection)

def createdOnce (collection : Collection) (row : AnyRow) : Attempt Outcome := do
  let existing ← Script.loaded collection (Record.id row.row)
  if existing.isSome then
    return .unchanged
  else
    saved collection row
    return .created

def derivedId (salt : String) (block : Json) : Attempt HexString :=
  match Identifier.deriveFrom salt block with
  | .ok id => pure id
  | .error fault => throw (.noId fault)

/-! ## Tables -/

def successors : List (MessageStatus × List MessageStatus) :=
  [(.pending, [.approved, .confirmed, .withdrawalConfirmed, .canceled]),
   (.approved, [.confirmed, .withdrawalConfirmed, .canceled]),
   (.confirmed, []), (.withdrawalConfirmed, []), (.canceled, [])]

def confirmations : List (Direction × MessageStatus) :=
  [(.hostToGuest, .confirmed), (.guestToHost, .withdrawalConfirmed)]

def statuses : List (EventKind × MessageStatus) :=
  [(.approvedRelayMessage, .approved), (.confirmMessage, .confirmed),
   (.confirmWithdrawMessage, .withdrawalConfirmed), (.revertMessage, .canceled),
   (.confirmCancelMessage, .canceled)]

def bridgeActions : List (EventKind × BridgeAction) :=
  [(.bridgeStarted, .start), (.bridgeStopped, .stop), (.bridgePaused, .pause),
   (.bridgeResumed, .resume), (.bridgePausedByVolume, .pause), (.bridgeStartedByVolume, .resume)]

def accountControls : List (EventKind × AccountAction × Direction × ChainKind) :=
  [(.hostAccountPaused, .pause, .hostToGuest, .host),
   (.hostAccountResumed, .resume, .hostToGuest, .host),
   (.guestAccountPaused, .pause, .guestToHost, .guest),
   (.guestAccountResumed, .resume, .guestToHost, .guest)]

def accountStatuses : List (AccountAction × AccountStatus) :=
  [(.pause, .blocked), (.resume, .active)]

/-! ## Handlers -/

abbrev Handler : Type :=
  Event → Attempt Outcome

def createMessage : Handler := fun event =>
  match event.body with
  | .transfer _ transfer => do
    let direction : Direction := if event.kind = .relayMessage then .hostToGuest else .guestToHost
    let message ← decoded .messages
      [("id", .hex transfer.messageId), ("block_number", .nat event.blockNumber),
       ("origin_address", .hex transfer.sender), ("destination_address", .hex transfer.recipient),
       ("amount", .nat transfer.amount), ("token", .ofOption .str transfer.token),
       ("status", .word MessageStatus.pending), ("direction", .word direction)]
    createdOnce .messages ⟨.messages, message⟩
  | _ => throw (.otherEvent event.kind)

/-- Why a message may not move to a status, by the tables. -/
def refusal (message : Message) (target : MessageStatus) : Attempt (Option Refusal) := do
  let allowed ← entry successors message.status
  if !allowed.contains target then
    return some (.noMove message.status target)
  else
    let expected ← entry confirmations message.direction
    if (confirmations.map Prod.snd).contains target && target != expected then
      return some (.otherConfirmation message.direction target)
    else
      return none

def changeStatus : Handler := fun event =>
  match event.body with
  | .status change messageId => do
    let target ← entry statuses event.kind
    match ← Script.loaded .messages messageId.text with
    | none =>
      Script.reporting (unknownTarget event.kind event.blockNumber messageId.text
        s!"{Named.name event.kind} for unknown message {messageId.text}")
      return .ignored
    | some message =>
      if message.status = target then
        return .unchanged
      else
        match ← refusal message target with
        | some refusal =>
          Script.reporting (Rule.moveRejected event.blockNumber change message.id refusal)
          return .rejected
        | none =>
          saved .messages ⟨.messages, { message with status := target }⟩
          return .updated
  | _ => throw (.otherEvent event.kind)

def createBridgeMessage : Handler := fun event =>
  match event.body with
  | .control _ messageId => do
    let action ← entry bridgeActions event.kind
    let message ← decoded .bridgeMessages
      [("id", .hex messageId), ("block_number", .nat event.blockNumber), ("action", .word action)]
    createdOnce .bridgeMessages ⟨.bridgeMessages, message⟩
  | _ => throw (.otherEvent event.kind)

def applyAccount : Handler := fun event =>
  match event.body with
  | .account _ _ messageId address timestamp => do
    let (action, direction, chain) ← entry accountControls event.kind
    let audit ← decoded .accountMessages
      [("id", .hex messageId), ("block_number", .nat event.blockNumber), ("action", .word action),
       ("direction", .word direction), ("address", .hex address), ("timestamp", .nat timestamp)]
    let outcome ← createdOnce .accountMessages ⟨.accountMessages, audit⟩
    let status ← entry accountStatuses action
    let account ← decoded .accounts
      [("id", .hex address), ("block_number", .nat event.blockNumber),
       ("message_id", .hex messageId), ("kind", .word chain), ("status", .word status),
       ("timestamp", .nat timestamp)]
    let existing ← Script.loaded .accounts account.id
    saved .accounts ⟨.accounts, account⟩
    return .ofProjection outcome (existing == some account)
  | _ => throw (.otherEvent event.kind)

def limitFields (values : LimitValues) : Members :=
  (Named.all : List LimitKind).map fun kind => (kind.fieldName, .nat (values.get kind))

def createLimitProposal : Handler := fun event =>
  match event.body with
  | .limitProposal proposalId sender values => do
    let proposal ← decoded .limitProposals
      (limitFields values ++ ([("id", .hex proposalId), ("block_number", .nat event.blockNumber),
        ("proposer_address", .hex sender), ("status", .word ProposalStatus.pending)] : Members))
    createdOnce .limitProposals ⟨.limitProposals, proposal⟩
  | _ => throw (.otherEvent event.kind)

def approveLimitProposal : Handler := fun event =>
  match event.body with
  | .limitApproval proposalId => do
    match ← Script.loaded .limitProposals proposalId.text with
    | none =>
      Script.reporting (unknownTarget event.kind event.blockNumber proposalId.text
        s!"{Named.name EventKind.proposalApproved} for unknown limit proposal {proposalId.text}")
      return .ignored
    | some proposal =>
      if proposal.status = .approved then
        return .unchanged
      else
        saved .limitProposals ⟨.limitProposals, { proposal with status := .approved }⟩
        return .updated
  | _ => throw (.otherEvent event.kind)

def setPresentLimits (blockNumber : Nat) (values : LimitValues) (messageId : HexString) :
    List LimitKind → Attempt Unit
  | [] => pure ()
  | kind :: rest => do
    let limit ← decoded .limits
      [("id", .str (Named.name kind : String)), ("block_number", .nat blockNumber),
       ("value", .nat (values.get kind)), ("message_id", .hex messageId)]
    saved .limits ⟨.limits, limit⟩
    setPresentLimits blockNumber values messageId rest

def setLimits : Handler := fun event =>
  match event.body with
  | .limits values => do
    let messageId ← derivedId Identifier.limitSalt (.nat event.blockNumber)
    let existing ← Script.loaded .limitMessages messageId.text
    let snapshot ← decoded .limitMessages
      (limitFields values ++
        ([("id", .hex messageId), ("block_number", .nat event.blockNumber)] : Members))
    saved .limitMessages ⟨.limitMessages, snapshot⟩
    setPresentLimits event.blockNumber values messageId Named.all
    match existing with
    | none => return .created
    | some previous => return if previous = snapshot then .unchanged else .updated
  | _ => throw (.otherEvent event.kind)

def applyCandidate : Handler := fun event =>
  match event.body with
  | .candidate _ messageId hostAddress guestAddress => do
    let added := decide (event.kind = .validatorAdded)
    let action : ValidatorAction := if added then .add else .remove
    let audit ← decoded .candidateValidatorMessages
      [("id", .hex messageId), ("block_number", .nat event.blockNumber),
       ("host_address", .hex hostAddress), ("guest_address", .hex guestAddress),
       ("action", .word action)]
    let outcome ← createdOnce .candidateValidatorMessages ⟨.candidateValidatorMessages, audit⟩
    let candidate ← decoded .candidateValidators
      [("id", .hex hostAddress), ("block_number", .nat event.blockNumber),
       ("guest_address", .hex guestAddress), ("active", .bool added)]
    let existing ← Script.loaded .candidateValidators candidate.id
    saved .candidateValidators ⟨.candidateValidators, candidate⟩
    return .ofProjection outcome (existing == some candidate)
  | _ => throw (.otherEvent event.kind)

def createListProposal : Handler := fun event =>
  match event.body with
  | .listProposal proposalId hostAddresses => do
    let proposal ← decoded .candidatesValidatorsProposals
      [("id", .hex proposalId), ("block_number", .nat event.blockNumber),
       ("status", .word ProposalStatus.pending), ("host_addresses", .hexes hostAddresses)]
    createdOnce .candidatesValidatorsProposals ⟨.candidatesValidatorsProposals, proposal⟩
  | _ => throw (.otherEvent event.kind)

def approveListProposal (blockNumber : Nat) (messageId proposalId : HexString)
    (outcome : Outcome) : Attempt Outcome := do
  match ← Script.loaded .candidatesValidatorsProposals proposalId.text with
  | none =>
    Script.reporting (unknownTarget .validatorsListMessage blockNumber proposalId.text
      s!"Validator list {messageId.text} references unknown proposal {proposalId.text}")
    return outcome
  | some proposal =>
    if proposal.status = .approved then
      return outcome
    else
      saved .candidatesValidatorsProposals
        ⟨.candidatesValidatorsProposals, { proposal with status := .approved }⟩
      return if outcome = .unchanged then .updated else outcome

def reconcileList : Handler := fun event =>
  match event.body with
  | .validatorList messageId proposalId hostAddresses threshold => do
    let resolution ← Rule.resolve (hostAddresses.map HexString.text)
    if resolution.complete then
      let list ← decoded .validatorsListMessages
        [("id", .hex messageId), ("block_number", .nat event.blockNumber),
         ("proposal_id", .hex proposalId), ("guest_addresses", .hexes resolution.guestAddresses),
         ("threshold", .nat threshold)]
      let existing ← Script.loaded .validatorsListMessages list.id
      saved .validatorsListMessages ⟨.validatorsListMessages, list⟩
      let outcome : Outcome := match existing with
        | none => .created
        | some previous => if previous = list then .unchanged else .updated
      approveListProposal event.blockNumber messageId proposalId outcome
    else
      Script.reporting (Rule.listRejected event.blockNumber messageId proposalId resolution)
      return .rejected
  | _ => throw (.otherEvent event.kind)

def handlers : List (EventKind × Handler) :=
  [(.relayMessage, createMessage), (.withdrawMessage, createMessage),
   (.approvedRelayMessage, changeStatus), (.confirmMessage, changeStatus),
   (.confirmWithdrawMessage, changeStatus), (.confirmCancelMessage, changeStatus),
   (.revertMessage, changeStatus), (.bridgeStarted, createBridgeMessage),
   (.bridgeStopped, createBridgeMessage), (.bridgePaused, createBridgeMessage),
   (.bridgeResumed, createBridgeMessage), (.bridgePausedByVolume, createBridgeMessage),
   (.bridgeStartedByVolume, createBridgeMessage), (.hostAccountPaused, applyAccount),
   (.hostAccountResumed, applyAccount), (.guestAccountPaused, applyAccount),
   (.guestAccountResumed, applyAccount), (.setNewLimits, setLimits),
   (.proposalCreated, createLimitProposal), (.proposalApproved, approveLimitProposal),
   (.validatorAdded, applyCandidate), (.validatorRemoved, applyCandidate),
   (.validatorsListProposalCreated, createListProposal),
   (.validatorsListMessage, reconcileList)]

end Attempt

/-- Applies an event by what the table of handlers has for the kind that its tag names. -/
def Event.attempt (event : Event) : Attempt Outcome :=
  match (Named.ofName? event.kindName).bind fun kind => Attempt.handlers.lookup kind with
  | some handler => handler event
  | none => throw (.noHandler event.kindName)

theorem Script.bind_assoc {α β γ : Type} (script : Script α) (next : α → Script β)
    (last : β → Script γ) :
    (script.bind next).bind last = script.bind fun value => (next value).bind last := by
  induction script with
  | done value => rfl
  | load collection id more ih => exact congrArg (Script.load collection id) (funext ih)
  | save collection row more ih => exact congrArg (Script.save collection row) ih
  | report diagnostic more ih => exact congrArg (Script.report diagnostic) ih

namespace Attempt

def Runs {α : Type} (attempt : Attempt α) (script : Script α) : Prop :=
  attempt.run = script.bind fun value => .done (.ok value)

namespace Runs

variable {α β : Type}

theorem of_value (value : α) : Runs (pure value) (pure value) := rfl

theorem of_script (script : Script α) : Runs (liftM script) script := rfl

theorem followed {attempt : Attempt α} {script : Script α} {more : α → Attempt β}
    {next : α → Script β} (first : attempt.Runs script)
    (rest : ∀ value, (more value).Runs (next value)) :
    Runs (attempt >>= more) (script >>= next) := by
  have inside : (fun value => (more value).run) =
      fun value => (next value).bind fun result => .done (.ok result) := funext rest
  calc (attempt >>= more).run
      = attempt.run.bind (ExceptT.bindCont more) := rfl
    _ = script.bind fun value => (more value).run := by
      rw [first, Script.bind_assoc]
      rfl
    _ = (script.bind next).bind fun result => .done (.ok result) := by
      rw [inside, Script.bind_assoc]

/-- A step that gives a value at once is left out. -/
theorem known {attempt : Attempt α} {value : α} {more : α → Attempt β} {script : Script β}
    (isValue : attempt = pure value) (rest : (more value).Runs script) :
    Runs (attempt >>= more) script := by
  subst isValue
  exact rest

end Runs

theorem entry_of_lookup {κ β : Type} [BEq κ] {table : List (κ × β)} {key : κ} {value : β}
    (found : table.lookup key = some value) : entry table key = pure value := by
  simp only [entry, found]

/-- Whatever object has the members of a row gives this row. -/
theorem decoded_of_same (collection : Collection) (row : collection.Row) {members : Members}
    (same : SameMembers members (Coded.encode row)) : decoded collection members = pure row := by
  simp only [decoded, collection.decode_of_same row members same]

theorem saved_runs (collection : Collection) (row : collection.Row) :
    (saved collection ⟨collection, row⟩).Runs (Script.saving collection row) := by
  simp only [saved, dite_true]
  exact .of_script _

theorem created_once_runs (collection : Collection) (row : collection.Row) :
    (createdOnce collection ⟨collection, row⟩).Runs (createOnce collection row) := by
  refine .followed (.of_script _) fun existing => ?_
  cases existing.isSome with
  | true => exact .of_value _
  | false => exact .followed (saved_runs collection row) fun _ => .of_value _

theorem derived_id_of_block (blockNumber : Nat) :
    derivedId Identifier.limitSalt (.nat blockNumber) =
      pure (Identifier.limitMessageId blockNumber) := by
  simp only [derivedId, Identifier.deriveFrom_nat, Identifier.derive_limitSalt]

theorem create_message_runs (blockNumber : Nat) (direction : Direction) (transfer : Transfer) :
    Runs (createMessage ⟨blockNumber, .transfer direction transfer⟩)
      (Rule.transfer blockNumber direction transfer) := by
  refine .known (decoded_of_same .messages (Rule.pendingMessage blockNumber direction transfer) ?_)
    (created_once_runs _ _)
  intro name
  cases direction <;> rfl

theorem refusal_known (message : Message) (target : MessageStatus) :
    refusal message target = pure (message.status.refusal message.direction target) := by
  obtain ⟨id, blockNumber, origin, destination, amount, token, status, direction⟩ := message
  cases status <;> cases direction <;> cases target <;> rfl

theorem change_status_runs (blockNumber : Nat) (change : StatusEvent) (messageId : HexString) :
    Runs (changeStatus ⟨blockNumber, .status change messageId⟩)
      (Rule.status blockNumber change messageId) := by
  have target : statuses.lookup change.kind = some change.target := by cases change <;> rfl
  refine .known (entry_of_lookup target) (.followed (.of_script _) fun found => ?_)
  cases found with
  | none => exact .followed (.of_script _) fun _ => .of_value _
  | some message =>
      by_cases already : message.status = change.target
      · simp only [already, if_true]
        exact .of_value _
      · simp only [already, if_false]
        refine .known (refusal_known message change.target) ?_
        cases message.status.refusal message.direction change.target with
        | some refusal => exact .followed (.of_script _) fun _ => .of_value _
        | none => exact .followed (saved_runs _ _) fun _ => .of_value _

/-- The status of a control record is pending where the object has none. -/
theorem decoded_pending (messageId : HexString) (blockNumber : Nat) (action : BridgeAction) :
    decoded .bridgeMessages
        [("id", .hex messageId), ("block_number", .nat blockNumber), ("action", .word action)] =
      pure { id := messageId.text, blockNumber, action, status := .pending } := by
  have read : (Coded.decode
      [("id", .hex messageId), ("block_number", .nat blockNumber), ("action", .word action)] :
        Checked BridgeMessage) =
      .valid { id := messageId.text, blockNumber, action, status := .pending } := by
    simp [Coded.decode, required, optional, Json.lookup, Json.hex, Decoder.string_str,
      Decoder.word_word, BridgeAction.ofName?_name]
  have decodes : Collection.bridgeMessages.decodeRow (.obj
      [("id", .hex messageId), ("block_number", .nat blockNumber), ("action", .word action)]) =
      .valid { id := messageId.text, blockNumber, action, status := .pending } := read
  simp only [decoded, decodes]

theorem create_bridge_message_runs (blockNumber : Nat) (change : ControlEvent)
    (messageId : HexString) :
    Runs (createBridgeMessage ⟨blockNumber, .control change messageId⟩)
      (Rule.control blockNumber change messageId) := by
  have action : bridgeActions.lookup change.kind = some change.action := by cases change <;> rfl
  refine .known (entry_of_lookup action) ?_
  exact .known (decoded_pending messageId blockNumber change.action) (created_once_runs _ _)

theorem apply_account_runs (blockNumber : Nat) (chain : ChainKind) (action : AccountAction)
    (messageId address : HexString) (timestamp : Nat) :
    Runs (applyAccount ⟨blockNumber, .account chain action messageId address timestamp⟩)
      (Rule.account blockNumber chain action messageId address timestamp) := by
  have control : accountControls.lookup (Event.kind
      ⟨blockNumber, .account chain action messageId address timestamp⟩) =
        some (action, chain.outward, chain) := by
    cases chain <;> cases action <;> rfl
  have status : accountStatuses.lookup action = some action.result := by cases action <;> rfl
  have audited := decoded_of_same .accountMessages
    (Rule.accountAudit blockNumber chain action messageId address timestamp) fun _ => rfl
  have projected := decoded_of_same .accounts
    (Rule.accountState blockNumber chain action messageId address timestamp) fun _ => rfl
  refine .known (entry_of_lookup control) (.known audited ?_)
  refine .followed (created_once_runs _ _) fun outcome => ?_
  refine .known (entry_of_lookup status) (.known projected ?_)
  refine .followed (.of_script _) fun existing => ?_
  exact .followed (saved_runs _ _) fun _ => .of_value _

theorem create_limit_proposal_runs (blockNumber : Nat) (proposalId sender : HexString)
    (values : LimitValues) :
    Runs (createLimitProposal ⟨blockNumber, .limitProposal proposalId sender values⟩)
      (Rule.limitProposal blockNumber proposalId sender values) := by
  refine .known (decoded_of_same .limitProposals
    ⟨proposalId.text, blockNumber, values, sender, .pending⟩ fun _ => rfl) ?_
  exact created_once_runs _ _

theorem approve_limit_proposal_runs (blockNumber : Nat) (proposalId : HexString) :
    Runs (approveLimitProposal ⟨blockNumber, .limitApproval proposalId⟩)
      (Rule.limitApproval blockNumber proposalId) := by
  refine .followed (.of_script _) fun found => ?_
  cases found with
  | none => exact .followed (.of_script _) fun _ => .of_value _
  | some proposal =>
      by_cases already : proposal.status = .approved
      · simp only [already, if_true]
        exact .of_value _
      · simp only [already, if_false]
        exact .followed (saved_runs _ _) fun _ => .of_value _

theorem set_present_limits_runs (blockNumber : Nat) (values : LimitValues)
    (kinds : List LimitKind) :
    Runs (setPresentLimits blockNumber values (Identifier.limitMessageId blockNumber) kinds)
      (Rule.saveLimits blockNumber values kinds) := by
  induction kinds with
  | nil => exact .of_value ()
  | cons kind rest ih =>
      have present := decoded_of_same .limits (Rule.presentLimit blockNumber values kind) fun _ => rfl
      exact .known present (.followed (saved_runs _ _) fun _ => ih)

theorem set_limits_runs (blockNumber : Nat) (values : LimitValues) :
    Runs (setLimits ⟨blockNumber, .limits values⟩) (Rule.limits blockNumber values) := by
  have snapshot := decoded_of_same .limitMessages (Rule.limitSnapshot blockNumber values)
    fun _ => rfl
  refine .known (derived_id_of_block blockNumber) ?_
  refine .followed (.of_script _) fun existing => ?_
  refine .known snapshot ?_
  refine .followed (saved_runs _ _) fun _ => ?_
  refine .followed (set_present_limits_runs _ _ _) fun _ => ?_
  cases existing with
  | none => exact .of_value _
  | some previous => exact .of_value _

theorem apply_candidate_runs (blockNumber : Nat) (action : ValidatorAction)
    (messageId hostAddress guestAddress : HexString) :
    Runs (applyCandidate ⟨blockNumber, .candidate action messageId hostAddress guestAddress⟩)
      (Rule.candidate blockNumber action messageId hostAddress guestAddress) := by
  have audited := decoded_of_same .candidateValidatorMessages
    (Rule.candidateAudit blockNumber action messageId hostAddress guestAddress) fun _ => rfl
  have projected := decoded_of_same .candidateValidators
    (Rule.candidateState blockNumber action hostAddress guestAddress) fun _ => rfl
  -- Whether the kind of the event is an addition is decided by its action.
  cases action
  all_goals
    refine .known audited ?_
    refine .followed (created_once_runs _ _) fun outcome => ?_
    refine .known projected ?_
    refine .followed (.of_script _) fun existing => ?_
    exact .followed (saved_runs _ _) fun _ => .of_value _

theorem create_list_proposal_runs (blockNumber : Nat) (proposalId : HexString)
    (hostAddresses : List HexString) :
    Runs (createListProposal ⟨blockNumber, .listProposal proposalId hostAddresses⟩)
      (Rule.listProposal blockNumber proposalId hostAddresses) := by
  refine .known (decoded_of_same .candidatesValidatorsProposals
    ⟨proposalId.text, blockNumber, .pending, hostAddresses⟩ fun _ => rfl) ?_
  exact created_once_runs _ _

theorem approve_list_proposal_runs (blockNumber : Nat) (messageId proposalId : HexString)
    (outcome : Outcome) :
    Runs (approveListProposal blockNumber messageId proposalId outcome)
      (Rule.approveListProposal blockNumber messageId proposalId outcome) := by
  refine .followed (.of_script _) fun found => ?_
  cases found with
  | none => exact .followed (.of_script _) fun _ => .of_value _
  | some proposal =>
      by_cases already : proposal.status = .approved
      · simp only [already, if_true]
        exact .of_value _
      · simp only [already, if_false]
        exact .followed (saved_runs _ _) fun _ => .of_value _

theorem reconcile_list_runs (blockNumber : Nat) (messageId proposalId : HexString)
    (hostAddresses : List HexString) (threshold : Nat) :
    Runs (reconcileList ⟨blockNumber, .validatorList messageId proposalId hostAddresses threshold⟩)
      (Rule.validatorList blockNumber messageId proposalId hostAddresses threshold) := by
  refine .followed (.of_script _) fun resolution => ?_
  by_cases complete : resolution.complete = true
  · simp only [complete, if_true]
    have stored := decoded_of_same .validatorsListMessages
      (Rule.storedList blockNumber messageId proposalId resolution.guestAddresses threshold)
      fun _ => rfl
    refine .known stored ?_
    refine .followed (.of_script _) fun existing => ?_
    exact .followed (saved_runs _ _) fun _ => approve_list_proposal_runs _ _ _ _
  · simp only [complete]
    exact .followed (.of_script _) fun _ => .of_value _

end Attempt

/-- An attempt at an event is its script: nothing that the attempt looks up, derives, decodes or
compares is ever missing or wrong. -/
theorem Event.attempt_runs (event : Event) : event.attempt.Runs event.script := by
  have named : Named.ofName? event.kindName = some event.kind := EventKind.ofName?_name event.kind
  simp only [Event.attempt, named, Option.bind_some]
  obtain ⟨blockNumber, body⟩ := event
  cases body with
  | transfer direction transfer =>
      have handled := Attempt.create_message_runs blockNumber direction transfer
      cases direction <;> exact handled
  | status change messageId =>
      have handled := Attempt.change_status_runs blockNumber change messageId
      cases change <;> exact handled
  | control change messageId =>
      have handled := Attempt.create_bridge_message_runs blockNumber change messageId
      cases change <;> exact handled
  | account chain action messageId address timestamp =>
      have handled :=
        Attempt.apply_account_runs blockNumber chain action messageId address timestamp
      cases chain <;> cases action <;> exact handled
  | limits values => exact Attempt.set_limits_runs blockNumber values
  | limitProposal proposalId sender values =>
      exact Attempt.create_limit_proposal_runs blockNumber proposalId sender values
  | limitApproval proposalId => exact Attempt.approve_limit_proposal_runs blockNumber proposalId
  | candidate action messageId hostAddress guestAddress =>
      have handled :=
        Attempt.apply_candidate_runs blockNumber action messageId hostAddress guestAddress
      cases action <;> exact handled
  | listProposal proposalId hostAddresses =>
      exact Attempt.create_list_proposal_runs blockNumber proposalId hostAddresses
  | validatorList messageId proposalId hostAddresses threshold =>
      exact Attempt.reconcile_list_runs blockNumber messageId proposalId hostAddresses threshold

theorem Attempt.Runs.run_eq {α : Type} {attempt : Attempt α} {script : Script α}
    (runs : attempt.Runs script) (store : Store) :
    attempt.run.run store =
      ⟨.ok (script.run store).value, (script.run store).store, (script.run store).diagnostics⟩ := by
  rw [runs, Script.run_bind]
  simp only [Script.run, List.append_nil]

namespace Engine

/-- An event that was read never fails to be applied in memory. The attempt at it finds a handler and
every entry that it looks up, derives every id, decodes every row and saves each where it belongs;
applying the event has the outcome of the attempt and leaves what it leaves. Every row that is
stored then is a valid one of its collection. -/
theorem parsed_event_applies (input : Json) (event : Event) (parsed : Event.parse input = .ok event)
    (engine : Engine Store) :
    ∃ outcome after,
      perform event.attempt.run engine = (.ok (.ok outcome), after) ∧
      engine.applyJson input = (.ok outcome, after.recordApply event outcome) ∧
      ∀ collection, ∀ row ∈ (after.state.table collection).rows,
        collection.decodeRow (collection.encodeRow row) = .valid row := by
  have attempted := perform_store event.attempt.run engine
  rw [event.attempt_runs.run_eq] at attempted
  refine ⟨_, _, attempted, ?_, fun collection row _ => collection.decode_encode row⟩
  simp only [applyJson, parsed, apply, perform_store event.script engine]

/-- A transfer whose id is not in normal form and whose amount is a text. -/
def relayInput : Json :=
  .obj [("kind", .str "RelayMessage"), ("block_number", .int 5), ("message_id", .str " 0X0A "),
    ("sender", .str "0x0b"), ("recipient", .str "0x0b"), ("amount", .str "12")]

theorem parse_relay_input : Event.parse relayInput =
    .ok ⟨5, .transfer .hostToGuest ⟨.sample, .sampleOther, .sampleOther, 12, none⟩⟩ := by
  have read : (Event.parse relayInput).toOption =
      some ⟨5, .transfer .hostToGuest ⟨.sample, .sampleOther, .sampleOther, 12, none⟩⟩ := by
    decide +kernel
  match parsed : Event.parse relayInput with
  | .error _ =>
      rw [parsed] at read
      cases read
  | .ok event =>
      rw [parsed] at read
      exact congrArg Except.ok (Option.some.inj read)

theorem parsed_event_applies_relay :
    ∃ event outcome after, Event.parse relayInput = .ok event ∧
      perform event.attempt.run (start Store.empty none) = (.ok (.ok outcome), after) ∧
      (start Store.empty none).applyJson relayInput =
        (.ok outcome, after.recordApply event outcome) := by
  obtain ⟨outcome, after, attempted, applied, _⟩ :=
    parsed_event_applies relayInput _ parse_relay_input (start Store.empty none)
  exact ⟨_, outcome, after, parse_relay_input, attempted, applied⟩

end Engine

end BridgeState
