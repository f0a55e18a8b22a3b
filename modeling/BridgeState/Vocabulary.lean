/-!
# The words of the bridge

The closed vocabularies of the bridge, each with the name under which it is written. `Named` gives
a vocabulary its list of words in declaration order; `Named.ofName?` reads a name back, and the
lemmas `ofName?_name` say that it reads exactly what was written.
-/

namespace BridgeState

set_option autoImplicit false

/-- A closed vocabulary: its words in declaration order and how each is written. -/
class Named (α : Type) where
  all : List α
  name : α → String

def Named.ofName? {α : Type} [Named α] (text : String) : Option α :=
  (Named.all : List α).find? fun word => Named.name word == text

/-- A word that a name gives has that name. -/
theorem Named.name_of_ofName? {α : Type} [Named α] (text : String) (word : α)
    (isWord : Named.ofName? text = some word) : text = Named.name word := by
  have found := List.find?_some (p := fun word => Named.name word == text) isWord
  exact (beq_iff_eq.mp found).symm

def Named.names (α : Type) [Named α] : List String :=
  (Named.all : List α).map Named.name

inductive Direction where
  | hostToGuest
  | guestToHost
deriving Repr, DecidableEq

instance : Named Direction where
  all := [.hostToGuest, .guestToHost]
  name
    | .hostToGuest => "ETH2SUB"
    | .guestToHost => "SUB2ETH"

theorem Direction.ofName?_name (direction : Direction) :
    Named.ofName? (Named.name direction) = some direction := by
  cases direction <;> rfl

inductive MessageStatus where
  | pending
  | approved
  | confirmed
  | withdrawalConfirmed
  | canceled
deriving Repr, DecidableEq

instance : Named MessageStatus where
  all := [.pending, .approved, .confirmed, .withdrawalConfirmed, .canceled]
  name
    | .pending => "PENDING"
    | .approved => "APPROVED"
    | .confirmed => "CONFIRMED"
    | .withdrawalConfirmed => "CONFIRMED_WITHDRAW"
    | .canceled => "CANCELED"

theorem MessageStatus.ofName?_name (status : MessageStatus) :
    Named.ofName? (Named.name status) = some status := by
  cases status <;> rfl

inductive BridgeAction where
  | start
  | stop
  | pause
  | resume
deriving Repr, DecidableEq

instance : Named BridgeAction where
  all := [.start, .stop, .pause, .resume]
  name
    | .start => "START"
    | .stop => "STOP"
    | .pause => "PAUSE"
    | .resume => "RESUME"

theorem BridgeAction.ofName?_name (action : BridgeAction) :
    Named.ofName? (Named.name action) = some action := by
  cases action <;> rfl

/-- Control records are single-shot: nothing moves them on. -/
inductive BridgeMessageStatus where
  | pending
deriving Repr, DecidableEq

instance : Named BridgeMessageStatus where
  all := [.pending]
  name
    | .pending => "PENDING"

theorem BridgeMessageStatus.ofName?_name (status : BridgeMessageStatus) :
    Named.ofName? (Named.name status) = some status := by
  cases status; rfl

inductive AccountAction where
  | pause
  | resume
deriving Repr, DecidableEq

instance : Named AccountAction where
  all := [.pause, .resume]
  name
    | .pause => "PAUSE"
    | .resume => "RESUME"

theorem AccountAction.ofName?_name (action : AccountAction) :
    Named.ofName? (Named.name action) = some action := by
  cases action <;> rfl

inductive AccountStatus where
  | active
  | blocked
deriving Repr, DecidableEq

instance : Named AccountStatus where
  all := [.active, .blocked]
  name
    | .active => "ACTIVE"
    | .blocked => "BLOCKED"

theorem AccountStatus.ofName?_name (status : AccountStatus) :
    Named.ofName? (Named.name status) = some status := by
  cases status <;> rfl

inductive ChainKind where
  | host
  | guest
deriving Repr, DecidableEq

instance : Named ChainKind where
  all := [.host, .guest]
  name
    | .host => "ETH"
    | .guest => "SUB"

theorem ChainKind.ofName?_name (chain : ChainKind) :
    Named.ofName? (Named.name chain) = some chain := by
  cases chain <;> rfl

inductive ProposalStatus where
  | pending
  | approved
deriving Repr, DecidableEq

instance : Named ProposalStatus where
  all := [.pending, .approved]
  name
    | .pending => "PENDING"
    | .approved => "APPROVED"

theorem ProposalStatus.ofName?_name (status : ProposalStatus) :
    Named.ofName? (Named.name status) = some status := by
  cases status <;> rfl

inductive ValidatorAction where
  | add
  | remove
deriving Repr, DecidableEq

instance : Named ValidatorAction where
  all := [.add, .remove]
  name
    | .add => "ADD"
    | .remove => "REMOVE"

theorem ValidatorAction.ofName?_name (action : ValidatorAction) :
    Named.ofName? (Named.name action) = some action := by
  cases action <;> rfl

inductive ValidatorState where
  | active
  | inactive
deriving Repr, DecidableEq

instance : Named ValidatorState where
  all := [.active, .inactive]
  name
    | .active => "ACTIVE"
    | .inactive => "INACTIVE"

theorem ValidatorState.ofName?_name (state : ValidatorState) :
    Named.ofName? (Named.name state) = some state := by
  cases state <;> rfl

def ValidatorState.ofActive (active : Bool) : ValidatorState :=
  if active then .active else .inactive

inductive LimitKind where
  | minHostTransactionValue
  | maxHostTransactionValue
  | dayHostMaxLimit
  | dayHostMaxLimitForOneAddress
  | maxHostPendingTransactionLimit
  | minGuestTransactionValue
  | maxGuestTransactionValue
  | dayGuestMaxLimit
  | dayGuestMaxLimitForOneAddress
  | maxGuestPendingTransactionLimit
deriving Repr, DecidableEq

instance : Named LimitKind where
  all := [.minHostTransactionValue, .maxHostTransactionValue, .dayHostMaxLimit,
    .dayHostMaxLimitForOneAddress, .maxHostPendingTransactionLimit, .minGuestTransactionValue,
    .maxGuestTransactionValue, .dayGuestMaxLimit, .dayGuestMaxLimitForOneAddress,
    .maxGuestPendingTransactionLimit]
  name
    | .minHostTransactionValue => "MIN_HOST_TRANSACTION_VALUE"
    | .maxHostTransactionValue => "MAX_HOST_TRANSACTION_VALUE"
    | .dayHostMaxLimit => "DAY_HOST_MAX_LIMIT"
    | .dayHostMaxLimitForOneAddress => "DAY_HOST_MAX_LIMIT_FOR_ONE_ADDRESS"
    | .maxHostPendingTransactionLimit => "MAX_HOST_PENDING_TRANSACTION_LIMIT"
    | .minGuestTransactionValue => "MIN_GUEST_TRANSACTION_VALUE"
    | .maxGuestTransactionValue => "MAX_GUEST_TRANSACTION_VALUE"
    | .dayGuestMaxLimit => "DAY_GUEST_MAX_LIMIT"
    | .dayGuestMaxLimitForOneAddress => "DAY_GUEST_MAX_LIMIT_FOR_ONE_ADDRESS"
    | .maxGuestPendingTransactionLimit => "MAX_GUEST_PENDING_TRANSACTION_LIMIT"

theorem LimitKind.ofName?_name (kind : LimitKind) :
    Named.ofName? (Named.name kind) = some kind := by
  cases kind <;> rfl

theorem LimitKind.mem_all (kind : LimitKind) : kind ∈ (Named.all : List LimitKind) := by
  cases kind <;> decide

/-- The field of an event or a proposal that carries a limit's value. -/
def LimitKind.fieldName : LimitKind → String
  | .minHostTransactionValue => "min_host_transaction_value"
  | .maxHostTransactionValue => "max_host_transaction_value"
  | .dayHostMaxLimit => "day_host_max_limit"
  | .dayHostMaxLimitForOneAddress => "day_host_max_limit_for_one_address"
  | .maxHostPendingTransactionLimit => "max_host_pending_transaction_limit"
  | .minGuestTransactionValue => "min_guest_transaction_value"
  | .maxGuestTransactionValue => "max_guest_transaction_value"
  | .dayGuestMaxLimit => "day_guest_max_limit"
  | .dayGuestMaxLimitForOneAddress => "day_guest_max_limit_for_one_address"
  | .maxGuestPendingTransactionLimit => "max_guest_pending_transaction_limit"

end BridgeState
