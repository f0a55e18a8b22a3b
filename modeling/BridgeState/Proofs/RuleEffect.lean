import BridgeState.Proofs.Effect
import BridgeState.Rule.Event

/-!
# What each rule does

One statement for each rule: the outcome of its script on a store, the effects that the script has
on it, and the diagnostics that it tells.
-/

namespace BridgeState

set_option autoImplicit false

/-- A script run on a store has the given outcome, effects and diagnostics, and saves what the
effects save, in the same order. -/
structure Script.Does {α : Type} (script : Script α) (store : Store) (value : α)
    (effects : List Effect) (diagnostics : List Diagnostic) : Prop where
  run : script.run store = ⟨value, Effect.performAll effects store, diagnostics⟩
  writes : script.writes store = Effect.writesAll effects store

namespace Script

variable {α β : Type}

theorem Does.value_run {script : Script α} {store : Store} {value : α} {effects : List Effect}
    {diagnostics : List Diagnostic} (does : script.Does store value effects diagnostics) :
    (script.run store).value = value := by
  rw [does.run]

theorem pure_eq_done (value : α) : (pure value : Script α) = .done value := rfl

@[simp] theorem do_eq_bind (script : Script α) (next : α → Script β) :
    (script >>= next) = script.bind next := rfl

theorem Does.of_done (value : α) (store : Store) : (Script.done value).Does store value [] [] :=
  ⟨rfl, rfl⟩

theorem Does.bind {script : Script α} {next : α → Script β} {store : Store} {value : α} {result : β}
    {before after : List Effect} {told more : List Diagnostic}
    (early : script.Does store value before told)
    (late : (next value).Does (Effect.performAll before store) result after more) :
    (script >>= next).Does store result (before ++ after) (told ++ more) where
  run := by
    rw [do_eq_bind, run_bind, early.run]
    simp only [late.run, Effect.perform_all_append]
  writes := by
    rw [do_eq_bind, writes_bind, early.run, early.writes, late.writes, Effect.writes_all_append]

theorem loaded_does (collection : Collection) (id : Text) (store : Store) :
    (Script.loaded collection id).Does store (store.load collection id) [] [] :=
  ⟨rfl, rfl⟩

section Steps

variable {script : Script α} {store : Store} {value : α} {effects : List Effect}
  {diagnostics : List Diagnostic}

theorem Does.of_load {collection : Collection} {id : Text}
    {next : Option collection.Row → Script α}
    (rest : (next (store.load collection id)).Does store value effects diagnostics) :
    (Script.load collection id next).Does store value effects diagnostics :=
  ⟨rest.run, rest.writes⟩

theorem Does.of_report (diagnostic : Diagnostic)
    (rest : script.Does store value effects diagnostics) :
    (Script.report diagnostic script).Does store value effects (diagnostic :: diagnostics) where
  run := by simp only [Script.run, rest.run]
  writes := rest.writes

theorem Does.of_saved {collection : Collection} (row : collection.Row)
    (rest : script.Does (Effect.performAll [.last collection row] store) value effects
      diagnostics) :
    (Script.save collection row script).Does store value (.last collection row :: effects)
      diagnostics where
  run := rest.run
  writes := by
    have later := rest.writes
    simp only [Script.writes, Effect.writesAll, Effect.writes, List.singleton_append]
    exact congrArg (List.cons _) later

theorem Does.then_return (does : script.Does store value effects diagnostics) (result : α → β) :
    (script >>= fun value => pure (result value)).Does store (result value) effects
      diagnostics where
  run := by
    rw [do_eq_bind, run_bind, does.run]
    simp [pure_eq_done, Script.run]
  writes := by
    rw [do_eq_bind, writes_bind, does.writes]
    simp [pure_eq_done, Script.writes]

/-- An effect that finds nothing to change may stand for nothing done. -/
theorem Does.of_idle {effect : Effect} (idle : effect.writes store = []) :
    (Script.done value).Does store value [effect] [] where
  run := by simp [Script.run, Effect.performAll, Effect.perform, idle, Store.saveAll]
  writes := by simp [Script.writes, Effect.writesAll, idle]

theorem Does.of_save {effect : Effect} {collection : Collection} {row : collection.Row}
    (saves : effect.writes store = [⟨collection, row⟩]) :
    (Script.save collection row (.done value)).Does store value [effect] [] where
  run := by simp [Script.run, Effect.performAll, Effect.perform, saves, Store.saveAll]
  writes := by simp [Script.writes, Effect.writesAll, saves]

end Steps

end Script

theorem create_once_does (collection : Collection) (row : collection.Row) (store : Store) :
    (createOnce collection row).Does store
      (if (store.load collection (Record.id row)).isSome then .unchanged else .created)
      [.first collection row] [] := by
  refine Script.Does.of_load ?_
  cases found : store.load collection (Record.id row) with
  | none => exact .of_save (Effect.writes_first_free found)
  | some old => exact .of_idle (Effect.writes_first_taken found)

/-- The status behind a status event: the one it asks for, unless the move is refused. -/
def MessageStatus.moved (direction : Direction) (change : StatusEvent) (status : MessageStatus) :
    MessageStatus :=
  if status.refusal direction change.target = none then change.target else status

theorem MessageStatus.moved_moved (direction : Direction) (change : StatusEvent)
    (status : MessageStatus) :
    (status.moved direction change).moved direction change = status.moved direction change := by
  cases direction <;> cases change <;> cases status <;> rfl

/-- A move to the status that a transfer already has is refused. -/
theorem MessageStatus.refusal_self (direction : Direction) (status : MessageStatus) :
    status.refusal direction status = some (.noMove status status) := by
  cases status <;> rfl

namespace Change

def move (change : StatusEvent) : Change .messages where
  result message := { message with status := message.status.moved message.direction change }
  id_result _ := rfl
  result_result message := by simp only [MessageStatus.moved_moved]

def approveLimits : Change .limitProposals where
  result proposal := { proposal with status := .approved }
  id_result _ := rfl
  result_result _ := rfl

def approveList : Change .candidatesValidatorsProposals where
  result proposal := { proposal with status := .approved }
  id_result _ := rfl
  result_result _ := rfl

end Change

/-- The outcome of replacing a row: whether there was one and whether it was the same. -/
def Outcome.ofReplaced {α : Type} [DecidableEq α] (old : Option α) (new : α) : Outcome :=
  match old with
  | none => .created
  | some previous => if previous = new then .unchanged else .updated

/-- The outcome of storing a list behind the approval of its proposal: a list that was the same is a
change if the proposal was not approved before. -/
def Outcome.ofApproval (replaced : Outcome) (proposal : Option CandidatesValidatorsProposal) :
    Outcome :=
  match proposal with
  | none => replaced
  | some proposal =>
    if proposal.status = .approved then replaced
    else if replaced = .unchanged then .updated else replaced

theorem Outcome.of_replaced_cases {α : Type} [DecidableEq α] (old : Option α) (new : α) :
    Outcome.ofReplaced old new = .created ∨ Outcome.ofReplaced old new = .updated ∨
      Outcome.ofReplaced old new = .unchanged := by
  unfold Outcome.ofReplaced
  split
  · exact Or.inl rfl
  · split <;> simp

theorem Outcome.of_replaced_created_iff {α : Type} [DecidableEq α] (old : Option α) (new : α) :
    Outcome.ofReplaced old new = .created ↔ old = none := by
  cases old with
  | none => simp [Outcome.ofReplaced]
  | some row =>
      by_cases same : row = new
      · simp [Outcome.ofReplaced, same]
      · simp [Outcome.ofReplaced, same]

/-- A list that is stored is neither ignored nor rejected, whatever becomes of its proposal. -/
theorem Outcome.of_approval_cases (old : Option ValidatorsListMessage)
    (new : ValidatorsListMessage) (proposal : Option CandidatesValidatorsProposal) :
    Outcome.ofApproval (.ofReplaced old new) proposal = .created ∨
      Outcome.ofApproval (.ofReplaced old new) proposal = .updated ∨
      Outcome.ofApproval (.ofReplaced old new) proposal = .unchanged := by
  have replaced := Outcome.of_replaced_cases old new
  unfold Outcome.ofApproval
  split
  · exact replaced
  · split
    · exact replaced
    · split
      · simp
      · exact replaced

theorem Outcome.of_approval_created_iff (replaced : Outcome)
    (proposal : Option CandidatesValidatorsProposal) :
    Outcome.ofApproval replaced proposal = .created ↔ replaced = .created := by
  unfold Outcome.ofApproval
  split
  · rfl
  · split
    · rfl
    · split
      · simp_all
      · rfl

theorem Outcome.of_projection_created_iff (audit : Outcome) (same : Bool) :
    Outcome.ofProjection audit same = .created ↔ audit = .created := by
  cases audit <;> cases same <;> simp [Outcome.ofProjection]

def Store.resolution (addresses : List String) (store : Store) : Resolution :=
  addresses.foldr
    (fun address rest => rest.add address (store.load .candidateValidators address)) ⟨[], []⟩

theorem resolution_cons (address : String) (rest : List String) (store : Store) :
    store.resolution (address :: rest) =
      (store.resolution rest).add address (store.load .candidateValidators address) := rfl

/-- The guest address that the registry gives a host, if it is a candidate at present. -/
def Store.guest? (address : String) (store : Store) : Option HexString :=
  ((store.load .candidateValidators address).filter CandidateValidator.active).map
    CandidateValidator.guestAddress

def Store.hasActive (address : String) (store : Store) : Bool :=
  (store.load .candidateValidators address).any CandidateValidator.active

/-- The hosts of a list that are not candidates at present. -/
def Store.offenders (addresses : List String) (store : Store) : List String :=
  addresses.filter fun address => !store.hasActive address

/-- What is wrong with an offender: it was never a candidate, or it is none at present. -/
def Store.offence (address : String) (store : Store) : Unresolved :=
  if (store.load .candidateValidators address).isNone then .unknown else .inactive

theorem guest_isSome (address : String) (store : Store) :
    (store.guest? address).isSome = store.hasActive address := by
  cases found : store.load .candidateValidators address with
  | none => simp [Store.guest?, Store.hasActive, found]
  | some candidate =>
      cases active : candidate.active <;>
        simp [Store.guest?, Store.hasActive, Option.filter, found, active]

/-- Each host is resolved on its own: it adds either its guest address or its offence. -/
theorem resolution_eq (addresses : List String) (store : Store) :
    store.resolution addresses =
      ⟨addresses.filterMap fun address => store.guest? address,
        (store.offenders addresses).map fun address => (address, store.offence address)⟩ := by
  induction addresses with
  | nil => rfl
  | cons address rest ih =>
      rw [resolution_cons, ih]
      cases found : store.load .candidateValidators address with
      | none =>
          simp [Resolution.add, Store.offenders, Store.hasActive, Store.offence, Store.guest?,
            found]
      | some candidate =>
          cases active : candidate.active with
          | false =>
              simp [Resolution.add, Store.offenders, Store.hasActive, Store.offence, Store.guest?,
                Option.filter, found, active]
          | true =>
              simp [Resolution.add, Store.offenders, Store.hasActive, Store.guest?, Option.filter,
                found, active]

theorem resolution_complete_iff_no_offenders (addresses : List String) (store : Store) :
    (store.resolution addresses).complete = true ↔ store.offenders addresses = [] := by
  rw [Resolution.complete, List.isEmpty_iff, resolution_eq, List.map_eq_nil_iff]

theorem resolution_complete_iff_active (addresses : List String) (store : Store) :
    (store.resolution addresses).complete = true ↔
      ∀ address ∈ addresses, store.hasActive address = true := by
  rw [resolution_complete_iff_no_offenders, Store.offenders, List.filter_eq_nil_iff]
  simp

/-- A resolved list has the guest addresses of its hosts, in their order. -/
theorem resolution_guests (addresses : List String) (store : Store)
    (complete : (store.resolution addresses).complete = true) :
    addresses.map (fun address => store.guest? address) =
      (store.resolution addresses).guestAddresses.map some := by
  rw [resolution_eq, List.map_filterMap, ← List.filterMap_eq_map]
  apply List.filterMap_congr
  intro address member
  have active := (resolution_complete_iff_active addresses store).mp complete address member
  rw [← guest_isSome] at active
  obtain ⟨guest, isGuest⟩ := Option.isSome_iff_exists.mp active
  simp [isGuest]

/-- The guest addresses of a list of hosts, if the registry gives all of them one. -/
def Store.guests? (addresses : List String) (store : Store) : Option (List HexString) :=
  addresses.mapM fun address => store.guest? address

/-- A resolution is complete if every host has a guest address, and then consists of them. -/
theorem guests_eq_resolution (addresses : List String) (store : Store) :
    store.guests? addresses =
      if (store.resolution addresses).complete then
        some (store.resolution addresses).guestAddresses
      else none := by
  induction addresses with
  | nil => rfl
  | cons address rest ih =>
      rw [Store.guests?, List.mapM_cons, ← Store.guests?, ih, resolution_cons]
      cases found : store.load .candidateValidators address with
      | none => simp [Store.guest?, found, Resolution.add, Resolution.complete]
      | some candidate =>
          cases active : candidate.active with
          | false =>
              simp [Store.guest?, found, Resolution.add, Resolution.complete, Option.filter, active]
          | true =>
              cases failures : (store.resolution rest).failures <;>
                simp [Store.guest?, found, Resolution.add, Resolution.complete, Option.filter,
                  active, failures]

namespace Rule

theorem account_does (blockNumber : Nat) (chain : ChainKind) (action : AccountAction)
    (messageId address : HexString) (timestamp : Nat) (store : Store) :
    (account blockNumber chain action messageId address timestamp).Does store
      (.ofProjection
        (if (store.load .accountMessages messageId.text).isSome then .unchanged else .created)
        (store.load .accounts address.text ==
          some (accountState blockNumber chain action messageId address timestamp)))
      [.first .accountMessages
        (accountAudit blockNumber chain action messageId address timestamp),
       .last .accounts (accountState blockNumber chain action messageId address timestamp)] [] := by
  have audited := create_once_does .accountMessages
    (accountAudit blockNumber chain action messageId address timestamp) store
  have untouched : (Effect.performAll [.first .accountMessages
      (accountAudit blockNumber chain action messageId address timestamp)] store).load .accounts
      address.text = store.load .accounts address.text :=
    Effect.row_at_perform_ne _ store ⟨.accounts, address.text⟩ (by simp [Effect.place])
  have loaded := Script.loaded_does .accounts (address.text : Text) (Effect.performAll
    [.first .accountMessages (accountAudit blockNumber chain action messageId address timestamp)]
    store)
  rw [untouched] at loaded
  exact audited.bind (loaded.bind (.of_saved _ (.of_done _ _)))

theorem status_does (blockNumber : Nat) (change : StatusEvent) (messageId : HexString)
    (store : Store) :
    (status blockNumber change messageId).Does store
      (match store.load .messages messageId.text with
        | none => .ignored
        | some message =>
          if message.status = change.target then .unchanged
          else if message.status.refusal message.direction change.target = none then .updated
          else .rejected)
      [.alter .messages messageId.text (.move change)]
      (match store.load .messages messageId.text with
        | none =>
          [unknownTarget change.kind blockNumber messageId.text
            s!"{Named.name change.kind} for unknown message {messageId.text}"]
        | some message =>
          if message.status = change.target then []
          else ((message.status.refusal message.direction change.target).map
            (moveRejected blockNumber change message.id)).toList) := by
  refine Script.Does.of_load ?_
  cases found : store.load .messages messageId.text with
  | none => exact .of_report _ (.of_idle (Effect.writes_alter_absent found))
  | some message =>
      by_cases same : message.status = change.target
      · have unmoved : (Change.move change).result message = message := by
          simp [Change.move, MessageStatus.moved, MessageStatus.refusal_self, ← same]
        simp only [Script.bind, same, if_true]
        exact .of_idle (Effect.writes_alter_same found unmoved)
      · cases refused : message.status.refusal message.direction change.target with
        | some refusal =>
            simp only [Script.bind, same, if_false, refused]
            have unmoved : (Change.move change).result message = message := by
              simp [Change.move, MessageStatus.moved, refused]
            exact .of_report _ (.of_idle (Effect.writes_alter_same found unmoved))
        | none =>
            simp only [Script.bind, same, if_false, refused]
            have moved : (Change.move change).result message =
                { message with status := change.target } := by
              simp [Change.move, MessageStatus.moved, refused]
            have differs : (Change.move change).result message ≠ message := by
              rw [moved]
              exact fun equal => same (congrArg Message.status equal).symm
            have saves := Effect.writes_alter_moved found differs
            rw [moved] at saves
            exact .of_save saves

theorem limit_approval_does (blockNumber : Nat) (proposalId : HexString) (store : Store) :
    (limitApproval blockNumber proposalId).Does store
      (match store.load .limitProposals proposalId.text with
        | none => .ignored
        | some proposal => if proposal.status = .approved then .unchanged else .updated)
      [.alter .limitProposals proposalId.text .approveLimits]
      (match store.load .limitProposals proposalId.text with
        | none =>
          [unknownTarget .proposalApproved blockNumber proposalId.text
            s!"{Named.name EventKind.proposalApproved} for unknown limit proposal {proposalId.text}"]
        | some _ => []) := by
  refine Script.Does.of_load ?_
  cases found : store.load .limitProposals proposalId.text with
  | none => exact .of_report _ (.of_idle (Effect.writes_alter_absent found))
  | some proposal =>
      by_cases approved : proposal.status = .approved
      · have unmoved : Change.approveLimits.result proposal = proposal := by
          simp [Change.approveLimits, ← approved]
        simp only [Script.bind, approved, if_true]
        exact .of_idle (Effect.writes_alter_same found unmoved)
      · have differs : Change.approveLimits.result proposal ≠ proposal :=
          fun equal => approved (congrArg LimitProposal.status equal).symm
        simp only [Script.bind, approved, if_false]
        exact .of_save (Effect.writes_alter_moved found differs)

theorem save_limits_does (blockNumber : Nat) (values : LimitValues) (kinds : List LimitKind)
    (store : Store) :
    (saveLimits blockNumber values kinds).Does store ()
      (kinds.map fun kind => .last .limits (presentLimit blockNumber values kind)) [] := by
  induction kinds generalizing store with
  | nil => exact .of_done () store
  | cons kind rest ih => exact .of_saved _ (ih _)

theorem limits_does (blockNumber : Nat) (values : LimitValues) (store : Store) :
    (limits blockNumber values).Does store
      (.ofReplaced (store.load .limitMessages (limitSnapshot blockNumber values).id)
        (limitSnapshot blockNumber values))
      (.last .limitMessages (limitSnapshot blockNumber values) ::
        (Named.all : List LimitKind).map fun kind =>
          .last .limits (presentLimit blockNumber values kind)) [] := by
  have written (outcome : Outcome) :
      (Script.saving .limitMessages (limitSnapshot blockNumber values) >>= fun _ =>
        saveLimits blockNumber values Named.all >>= fun _ => pure outcome).Does store outcome
        (.last .limitMessages (limitSnapshot blockNumber values) ::
          (Named.all : List LimitKind).map fun kind =>
            .last .limits (presentLimit blockNumber values kind)) [] := by
    have kinds := (save_limits_does blockNumber values Named.all (Effect.performAll
      [.last .limitMessages (limitSnapshot blockNumber values)] store)).then_return fun _ => outcome
    exact .of_saved _ kinds
  refine Script.Does.of_load ?_
  cases store.load .limitMessages (limitSnapshot blockNumber values).id with
  | none => exact written .created
  | some previous =>
      exact written (if previous = limitSnapshot blockNumber values then .unchanged else .updated)

theorem candidate_does (blockNumber : Nat) (action : ValidatorAction)
    (messageId hostAddress guestAddress : HexString) (store : Store) :
    (candidate blockNumber action messageId hostAddress guestAddress).Does store
      (.ofProjection
        (if (store.load .candidateValidatorMessages messageId.text).isSome then .unchanged
          else .created)
        (store.load .candidateValidators hostAddress.text ==
          some (candidateState blockNumber action hostAddress guestAddress)))
      [.first .candidateValidatorMessages
        (candidateAudit blockNumber action messageId hostAddress guestAddress),
       .last .candidateValidators (candidateState blockNumber action hostAddress guestAddress)]
      [] := by
  have audited := create_once_does .candidateValidatorMessages
    (candidateAudit blockNumber action messageId hostAddress guestAddress) store
  have untouched : (Effect.performAll [.first .candidateValidatorMessages
      (candidateAudit blockNumber action messageId hostAddress guestAddress)] store).load
      .candidateValidators hostAddress.text =
        store.load .candidateValidators hostAddress.text :=
    Effect.row_at_perform_ne _ store ⟨.candidateValidators, hostAddress.text⟩
      (by simp [Effect.place])
  have loaded := Script.loaded_does .candidateValidators (hostAddress.text : Text)
    (Effect.performAll [.first .candidateValidatorMessages
      (candidateAudit blockNumber action messageId hostAddress guestAddress)] store)
  rw [untouched] at loaded
  exact audited.bind (loaded.bind (.of_saved _ (.of_done _ _)))

theorem resolve_does (addresses : List String) (store : Store) :
    (resolve addresses).Does store (store.resolution addresses) [] [] := by
  induction addresses with
  | nil => exact .of_done _ store
  | cons address rest ih =>
      exact .of_load (ih.then_return fun resolution =>
        resolution.add address (store.load .candidateValidators address))

theorem approve_list_proposal_does (blockNumber : Nat) (messageId proposalId : HexString)
    (outcome : Outcome) (store : Store) :
    (approveListProposal blockNumber messageId proposalId outcome).Does store
      (.ofApproval outcome (store.load .candidatesValidatorsProposals proposalId.text))
      [.alter .candidatesValidatorsProposals proposalId.text .approveList]
      (match store.load .candidatesValidatorsProposals proposalId.text with
        | none =>
          [unknownTarget .validatorsListMessage blockNumber proposalId.text
            s!"Validator list {messageId.text} references unknown proposal {proposalId.text}"]
        | some _ => []) := by
  refine Script.Does.of_load ?_
  cases found : store.load .candidatesValidatorsProposals proposalId.text with
  | none => exact .of_report _ (.of_idle (Effect.writes_alter_absent found))
  | some proposal =>
      by_cases approved : proposal.status = .approved
      · have unmoved : Change.approveList.result proposal = proposal := by
          simp [Change.approveList, ← approved]
        simp only [Script.bind, Outcome.ofApproval, approved, if_true]
        exact .of_idle (Effect.writes_alter_same found unmoved)
      · have differs : Change.approveList.result proposal ≠ proposal :=
          fun equal => approved (congrArg CandidatesValidatorsProposal.status equal).symm
        simp only [Script.bind, Outcome.ofApproval, approved, if_false]
        exact .of_save (Effect.writes_alter_moved found differs)

/-- The list that is stored if the registry resolves all its addresses. -/
def resolvedList (blockNumber : Nat) (messageId proposalId : HexString)
    (hostAddresses : List HexString) (threshold : Nat) (store : Store) : ValidatorsListMessage :=
  storedList blockNumber messageId proposalId
    (store.resolution (hostAddresses.map HexString.text)).guestAddresses threshold

/-- A list whose addresses are all resolved is stored, and its proposal is approved. -/
theorem resolved_list_does (blockNumber : Nat) (messageId proposalId : HexString)
    (hostAddresses : List HexString) (threshold : Nat) (store : Store)
    (complete : (store.resolution (hostAddresses.map HexString.text)).complete = true)
    (replaced : Outcome)
    (isReplaced : replaced = .ofReplaced (store.load .validatorsListMessages messageId.text)
      (resolvedList blockNumber messageId proposalId hostAddresses threshold store)) :
    (validatorList blockNumber messageId proposalId hostAddresses threshold).Does store
      (.ofApproval replaced (store.load .candidatesValidatorsProposals proposalId.text))
      [.last .validatorsListMessages
        (resolvedList blockNumber messageId proposalId hostAddresses threshold store),
       .alter .candidatesValidatorsProposals proposalId.text .approveList]
      (match store.load .candidatesValidatorsProposals proposalId.text with
        | none =>
          [unknownTarget .validatorsListMessage blockNumber proposalId.text
            s!"Validator list {messageId.text} references unknown proposal {proposalId.text}"]
        | some _ => []) := by
  have untouched : (Effect.performAll [.last .validatorsListMessages
      (resolvedList blockNumber messageId proposalId hostAddresses threshold store)] store).load
      .candidatesValidatorsProposals proposalId.text =
        store.load .candidatesValidatorsProposals proposalId.text :=
    Effect.row_at_perform_ne _ store ⟨.candidatesValidatorsProposals, proposalId.text⟩
      (by simp [Effect.place])
  have approved := approve_list_proposal_does blockNumber messageId proposalId replaced
    (Effect.performAll [.last .validatorsListMessages
      (resolvedList blockNumber messageId proposalId hostAddresses threshold store)] store)
  rw [untouched] at approved
  have loaded : (Effect.performAll [] store).load .validatorsListMessages
      (resolvedList blockNumber messageId proposalId hostAddresses threshold store).id =
        store.load .validatorsListMessages messageId.text := rfl
  refine (resolve_does (hostAddresses.map HexString.text) store).bind ?_
  simp only [complete, if_true]
  refine .of_load (.of_saved _ ?_)
  simp only [resolvedList] at loaded isReplaced
  rw [loaded]
  subst isReplaced
  -- The script decides the outcome where it loads, the rule only behind it.
  generalize store.load .validatorsListMessages messageId.text = old at approved ⊢
  cases old with
  | none => exact approved
  | some previous => exact approved

/-- A list with an address that is not resolved is told and changes nothing. -/
theorem unresolved_list_does (blockNumber : Nat) (messageId proposalId : HexString)
    (hostAddresses : List HexString) (threshold : Nat) (store : Store)
    (incomplete : (store.resolution (hostAddresses.map HexString.text)).complete = false) :
    (validatorList blockNumber messageId proposalId hostAddresses threshold).Does store .rejected []
      [listRejected blockNumber messageId proposalId
        (store.resolution (hostAddresses.map HexString.text))] := by
  refine (resolve_does (hostAddresses.map HexString.text) store).bind ?_
  simp only [incomplete]
  exact .of_report _ (.of_done _ store)

end Rule

end BridgeState
