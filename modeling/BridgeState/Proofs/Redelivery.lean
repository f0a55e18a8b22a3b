import BridgeState.Proofs.Retry
import BridgeState.Proofs.Unchanged

/-!
# Events that come twice

An event that comes a second time finds its own effects done: rows that it creates or sets are
there, and a status that it moves has been moved, or is refused again. So it leaves every answer of
the store as it is and is told of as before; what was a change the first time is none the second.
-/

namespace BridgeState

set_option autoImplicit false

/-- The outcome of an event that comes again right behind itself. -/
def Outcome.again : Outcome → Outcome
  | .created | .updated | .unchanged => .unchanged
  | .ignored => .ignored
  | .rejected => .rejected

theorem Outcome.again_of_replaced {α : Type} [DecidableEq α] (old : Option α) (new : α) :
    (Outcome.ofReplaced old new).again = .unchanged := by
  rcases Outcome.of_replaced_cases old new with created | updated | unchanged
  · rw [created]; rfl
  · rw [updated]; rfl
  · rw [unchanged]; rfl

theorem Outcome.again_of_approval (old : Option ValidatorsListMessage)
    (new : ValidatorsListMessage) (proposal : Option CandidatesValidatorsProposal) :
    (Outcome.ofApproval (.ofReplaced old new) proposal).again = .unchanged := by
  rcases Outcome.of_approval_cases old new proposal with created | updated | unchanged
  · rw [created]; rfl
  · rw [updated]; rfl
  · rw [unchanged]; rfl

theorem Outcome.again_of_projection (taken same : Bool) :
    (Outcome.ofProjection (if taken then .unchanged else .created) same).again = .unchanged := by
  cases taken <;> cases same <;> rfl

theorem effects_behind (event : Event) (store : Store) :
    event.effects (event.apply store).store = event.effects store := by
  rw [apply_store]
  exact effects_behind_some event store (event.effects store) [] (List.append_nil _).symm

theorem store_apply_again (event : Event) (store : Store) :
    (event.apply (event.apply store).store).store = (event.apply store).store := by
  have again := apply_store event (event.apply store).store
  rw [effects_behind, apply_store event store] at again
  rw [apply_store event store, again]
  exact Effect.perform_all_idempotent _ store (effects_distinct event store)

/-- Right behind itself the event changes no more and is told of in the same way. -/
structure Event.Repeats (event : Event) (store : Store) : Prop where
  value : (event.apply (event.apply store).store).value = (event.apply store).value.again
  told : (event.apply (event.apply store).store).diagnostics = (event.apply store).diagnostics

section Rules

variable {event : Event} {store : Store}

theorem repeats_of_does {value again : Outcome} {effects effectsAgain : List Effect}
    {told : List Diagnostic} (first : event.script.Does store value effects told)
    (second : event.script.Does (event.apply store).store again effectsAgain told)
    (isAgain : again = value.again) : event.Repeats store where
  value := by
    have value := congrArg Ran.value first.run
    have valueAgain := congrArg Ran.value second.run
    exact valueAgain.trans (isAgain.trans (congrArg Outcome.again value.symm))
  told := by
    have told := congrArg Ran.diagnostics first.run
    exact (congrArg Ran.diagnostics second.run).trans told.symm

theorem repeats_create_once (collection : Collection) (row : collection.Row)
    (isScript : event.script = createOnce collection row)
    (isEffect : event.effects store = [.first collection row]) : event.Repeats store := by
  have first := create_once_does collection row store
  have second := create_once_does collection row (event.apply store).store
  rw [load_apply_first (by simp [isEffect])] at second
  rw [← isScript] at first second
  refine repeats_of_does first second ?_
  cases store.load collection (Record.id row) <;> rfl

/-- The rules that keep an audit record and set a present state. -/
theorem repeats_projection (audited projected : Collection) (audit : audited.Row)
    (state : projected.Row)
    (does : ∀ store, event.script.Does store
      (.ofProjection
        (if (store.load audited (Record.id audit)).isSome then .unchanged else .created)
        (store.load projected (Record.id state) == some state))
      [.first audited audit, .last projected state] [])
    (isEffects : event.effects store = [.first audited audit, .last projected state]) :
    event.Repeats store := by
  have second := does (event.apply store).store
  rw [load_apply_first (by simp [isEffects]), load_apply_last (by simp [isEffects])] at second
  refine repeats_of_does (does store) second ?_
  rw [Outcome.again_of_projection]
  simp [Outcome.ofProjection]

end Rules

section Bodies

variable (blockNumber : Nat) (store : Store)

theorem repeats_status (change : StatusEvent) (messageId : HexString) :
    Event.Repeats ⟨blockNumber, .status change messageId⟩ store := by
  have first := Rule.status_does blockNumber change messageId store
  have second := Rule.status_does blockNumber change messageId
    (Event.apply ⟨blockNumber, .status change messageId⟩ store).store
  have behind : (Event.apply ⟨blockNumber, .status change messageId⟩ store).store.load .messages
      messageId.text = (store.load .messages messageId.text).map (Change.move change).result :=
    load_apply_alter List.mem_cons_self
  rw [behind] at second
  cases found : store.load .messages messageId.text with
  | none =>
      rw [found] at first second
      exact repeats_of_does first second rfl
  | some message =>
      rw [found, Option.map_some] at second
      rw [found] at first
      cases refused : message.status.refusal message.direction change.target with
      | some refusal =>
          have unmoved : (Change.move change).result message = message := by
            simp [Change.move, MessageStatus.moved, refused]
          rw [unmoved] at second
          refine repeats_of_does first second ?_
          by_cases same : message.status = change.target
          · simp [same, Outcome.again]
          · simp [same, refused, Outcome.again]
      | none =>
          have moved : (Change.move change).result message =
              { message with status := change.target } := by
            simp [Change.move, MessageStatus.moved, refused]
          have apart : message.status ≠ change.target := by
            intro same
            rw [← same, MessageStatus.refusal_self] at refused
            cases refused
          rw [moved] at second
          simp only [apart, refused, if_false, if_true, Option.map_none, Option.toList_none]
            at first
          simp only [if_true] at second
          exact repeats_of_does first second rfl

theorem repeats_limits (values : LimitValues) :
    Event.Repeats ⟨blockNumber, .limits values⟩ store := by
  have first := Rule.limits_does blockNumber values store
  have second := Rule.limits_does blockNumber values
    (Event.apply ⟨blockNumber, .limits values⟩ store).store
  have behind : (Event.apply ⟨blockNumber, .limits values⟩ store).store.load .limitMessages
      (Rule.limitSnapshot blockNumber values).id = some (Rule.limitSnapshot blockNumber values) :=
    row_at_apply_mem _ store (.last .limitMessages (Rule.limitSnapshot blockNumber values))
      List.mem_cons_self
  rw [behind] at second
  refine repeats_of_does first second ?_
  rw [Outcome.again_of_replaced]
  simp [Outcome.ofReplaced]

theorem repeats_limit_approval (proposalId : HexString) :
    Event.Repeats ⟨blockNumber, .limitApproval proposalId⟩ store := by
  have first := Rule.limit_approval_does blockNumber proposalId store
  have second := Rule.limit_approval_does blockNumber proposalId
    (Event.apply ⟨blockNumber, .limitApproval proposalId⟩ store).store
  have behind : (Event.apply ⟨blockNumber, .limitApproval proposalId⟩ store).store.load
      .limitProposals proposalId.text =
        (store.load .limitProposals proposalId.text).map Change.approveLimits.result :=
    load_apply_alter List.mem_cons_self
  rw [behind] at second
  cases found : store.load .limitProposals proposalId.text with
  | none =>
      rw [found] at first second
      exact repeats_of_does first second rfl
  | some proposal =>
      rw [found] at first second
      refine repeats_of_does first second ?_
      by_cases approved : proposal.status = .approved
      · simp [approved, Change.approveLimits, Outcome.again]
      · simp [approved, Change.approveLimits, Outcome.again]

section List

variable (messageId proposalId : HexString) (hostAddresses : List HexString) (threshold : Nat)

/-- A list leaves the registry alone, so hosts are resolved behind it as before. -/
theorem resolution_behind_list (addresses : List String) :
    (Event.apply ⟨blockNumber, .validatorList messageId proposalId hostAddresses threshold⟩
        store).store.resolution addresses = store.resolution addresses := by
  have registry (host : Text) :
      (Event.apply ⟨blockNumber, .validatorList messageId proposalId hostAddresses threshold⟩
        store).store.load .candidateValidators host = store.load .candidateValidators host :=
    load_apply_untouched _ store _ host (by simp [EventBody.touched])
  simp only [Store.resolution, registry]

theorem repeats_rejected_list
    (incomplete : (store.resolution (hostAddresses.map HexString.text)).complete = false) :
    Event.Repeats ⟨blockNumber, .validatorList messageId proposalId hostAddresses threshold⟩
      store := by
  have first := Rule.unresolved_list_does blockNumber messageId proposalId hostAddresses threshold
    store incomplete
  have value : (Event.apply
      ⟨blockNumber, .validatorList messageId proposalId hostAddresses threshold⟩ store).value =
        .rejected := congrArg Ran.value first.run
  have untouched : (Event.apply
      ⟨blockNumber, .validatorList messageId proposalId hostAddresses threshold⟩ store).store =
        store := congrArg Ran.store first.run
  constructor
  · rw [untouched, value]
    rfl
  · rw [untouched]

theorem repeats_stored_list
    (complete : (store.resolution (hostAddresses.map HexString.text)).complete = true) :
    Event.Repeats ⟨blockNumber, .validatorList messageId proposalId hostAddresses threshold⟩
      store := by
  have first := Rule.resolved_list_does blockNumber messageId proposalId hostAddresses threshold
    store complete _ rfl
  have resolution := resolution_behind_list blockNumber store messageId proposalId hostAddresses
    threshold (hostAddresses.map HexString.text)
  generalize isEvent : (⟨blockNumber, .validatorList messageId proposalId hostAddresses threshold⟩ :
    Event) = event at resolution ⊢
  have isScript : event.script =
      Rule.validatorList blockNumber messageId proposalId hostAddresses threshold := by
    rw [← isEvent]
    rfl
  have effects : event.effects store =
      [.last .validatorsListMessages
        (Rule.resolvedList blockNumber messageId proposalId hostAddresses threshold store),
       .alter .candidatesValidatorsProposals proposalId.text .approveList] := by
    simp only [← isEvent, Event.effects, complete, if_true]
  have sameList : Rule.resolvedList blockNumber messageId proposalId hostAddresses threshold
      (event.apply store).store =
        Rule.resolvedList blockNumber messageId proposalId hostAddresses threshold store := by
    simp only [Rule.resolvedList, resolution]
  have listBehind : (event.apply store).store.load .validatorsListMessages messageId.text =
      some (Rule.resolvedList blockNumber messageId proposalId hostAddresses threshold store) :=
    row_at_apply_mem event store (.last .validatorsListMessages
      (Rule.resolvedList blockNumber messageId proposalId hostAddresses threshold store))
      (by simp [effects])
  have proposalBehind : (event.apply store).store.load .candidatesValidatorsProposals
      proposalId.text = (store.load .candidatesValidatorsProposals proposalId.text).map
        Change.approveList.result :=
    load_apply_alter (by simp [effects])
  have second := Rule.resolved_list_does blockNumber messageId proposalId hostAddresses threshold
    (event.apply store).store (by rw [resolution, complete]) .unchanged
    (by rw [sameList, listBehind]; simp [Outcome.ofReplaced])
  rw [proposalBehind] at second
  rw [← isScript] at first second
  cases found : store.load .candidatesValidatorsProposals proposalId.text with
  | none =>
      rw [found] at first second
      exact repeats_of_does first second (Outcome.again_of_approval _ _ none).symm
  | some proposal =>
      rw [found] at first second
      refine repeats_of_does first second ?_
      rw [Outcome.again_of_approval]
      simp [Outcome.ofApproval, Change.approveList]

end List

end Bodies

theorem event_repeats (event : Event) (store : Store) : event.Repeats store := by
  obtain ⟨blockNumber, body⟩ := event
  cases body with
  | transfer direction transfer => exact repeats_create_once .messages _ rfl rfl
  | status change messageId => exact repeats_status blockNumber store change messageId
  | control change messageId => exact repeats_create_once .bridgeMessages _ rfl rfl
  | account chain action messageId address timestamp =>
      exact repeats_projection .accountMessages .accounts
        (Rule.accountAudit blockNumber chain action messageId address timestamp)
        (Rule.accountState blockNumber chain action messageId address timestamp)
        (Rule.account_does blockNumber chain action messageId address timestamp) rfl
  | limits values => exact repeats_limits blockNumber store values
  | limitProposal proposalId sender values => exact repeats_create_once .limitProposals _ rfl rfl
  | limitApproval proposalId => exact repeats_limit_approval blockNumber store proposalId
  | candidate action messageId hostAddress guestAddress =>
      exact repeats_projection .candidateValidatorMessages .candidateValidators
        (Rule.candidateAudit blockNumber action messageId hostAddress guestAddress)
        (Rule.candidateState blockNumber action hostAddress guestAddress)
        (Rule.candidate_does blockNumber action messageId hostAddress guestAddress) rfl
  | listProposal proposalId hostAddresses =>
      exact repeats_create_once .candidatesValidatorsProposals _ rfl rfl
  | validatorList messageId proposalId hostAddresses threshold =>
      cases complete : (store.resolution (hostAddresses.map HexString.text)).complete with
      | true =>
          exact repeats_stored_list blockNumber store messageId proposalId hostAddresses threshold
            complete
      | false =>
          exact repeats_rejected_list blockNumber store messageId proposalId hostAddresses
            threshold complete

namespace Engine

/-- An event that is applied a second time right behind the first leaves every answer of the store
as it is and is told of by the same diagnostics. It is unchanged if it was created, updated or
unchanged, and ignored or rejected if it was that. -/
theorem redelivery_is_idle (event : Event) (engine : Engine Store) :
    ((engine.apply event).2.apply event).2.state.SameReads (engine.apply event).2.state ∧
      ∃ outcome told, engine.Gives event outcome told ∧
        (engine.apply event).2.Gives event outcome.again told := by
  have behind := (apply_in_memory event engine).2
  constructor
  · rw [Store.same_reads_iff, (apply_in_memory event (engine.apply event).2).2, behind]
    exact store_apply_again event engine.state
  · have repeats := event_repeats event engine.state
    have second := gives_apply event (engine.apply event).2
    rw [behind, repeats.value, repeats.told] at second
    exact ⟨_, _, gives_apply event engine, second⟩

end Engine

end BridgeState
