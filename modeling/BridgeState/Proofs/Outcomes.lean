import BridgeState.Proofs.Unchanged

/-!
# What an outcome says

The outcome of an event, the rows that it changes and what is told of it agree. An event that is
ignored or rejected changes nothing and is told of once. An event that creates or updates changes at
least one row. Of an event that is neither ignored nor rejected nothing is told, but that the
proposal which a stored list names is not stored. Whatever is told names the event's kind and block.
-/

namespace BridgeState

set_option autoImplicit false

/-- A row is stored afterwards that was not stored so before. -/
def Store.Gains (before after : Store) : Prop :=
  ∃ collection id row, after.load collection id = some row ∧ before.load collection id ≠ some row

/-- The proposal that a list of validators names, if it is not stored. -/
def Event.missingProposal? (event : Event) (store : Store) : Option HexString :=
  match event.body with
  | .validatorList _ proposalId _ _ =>
    if (store.load .candidatesValidatorsProposals proposalId.text).isSome then none
    else some proposalId
  | _ => none

def Event.rejection (event : Event) : DiagnosticKind × Severity :=
  match event.body with
  | .validatorList _ _ _ _ => (.reconciliationFailed, .error)
  | _ => (.transitionRejected, .warning)

/-- Nothing is told but that a proposal is not stored. -/
def OnlyMissing (missing : Option HexString) (told : List Diagnostic) : Prop :=
  match missing with
  | none => told = []
  | some proposalId =>
    ∃ diagnostic, told = [diagnostic] ∧ diagnostic.kind = .unknownTarget ∧
      diagnostic.targetId = proposalId.text

/-- The stores around an event and what was told of it are as its outcome says. -/
def Outcome.Describes (event : Event) (before after : Store) (told : List Diagnostic) :
    Outcome → Prop
  | .created => before.Gains after ∧ OnlyMissing (event.missingProposal? before) told
  | .updated => before.Gains after ∧ OnlyMissing (event.missingProposal? before) told
  | .unchanged => OnlyMissing (event.missingProposal? before) told
  | .ignored =>
    after = before ∧ ∃ diagnostic, told = [diagnostic] ∧ diagnostic.kind = .unknownTarget ∧
      diagnostic.severity = .warning
  | .rejected =>
    after = before ∧ ∃ diagnostic, told = [diagnostic] ∧
      (diagnostic.kind, diagnostic.severity) = event.rejection

theorem Effect.update_eq_some_of_active (effect : Effect) (store : Store)
    (active : ¬effect.Idle store) :
    ∃ row, effect.update (store.rowAt effect.place) = some row := by
  cases updated : effect.update (store.rowAt effect.place) with
  | some row => exact ⟨row, rfl⟩
  | none =>
      cases effect with
      | first collection row => simp [Effect.update] at updated
      | last collection row => simp [Effect.update] at updated
      | alter collection id change =>
          have absent : store.rowAt (alter collection id change).place = none :=
            Option.map_eq_none_iff.mp updated
          exact absurd (by rw [Idle, updated, absent]) active

/-- An effect that is not idle leaves a row that was not there before. -/
theorem gains_of_active (event : Event) (store : Store) (effect : Effect)
    (member : effect ∈ event.effects store) (active : ¬effect.Idle store) :
    store.Gains (event.apply store).store := by
  obtain ⟨row, updated⟩ := effect.update_eq_some_of_active store active
  have after := row_at_apply_mem event store effect member
  refine ⟨effect.place.collection, effect.place.id, row, after.trans updated, fun before => ?_⟩
  exact active (updated.trans before.symm)

section Rules

variable {event : Event} {store : Store}

theorem outcome_describes_of_does {value : Outcome} {effects : List Effect}
    {told : List Diagnostic} (does : event.script.Does store value effects told)
    (describes : value.Describes event store (event.apply store).store told) :
    (event.apply store).value.Describes event store (event.apply store).store
      (event.apply store).diagnostics := by
  have sameValue : (event.apply store).value = value := congrArg Ran.value does.run
  have sameTold : (event.apply store).diagnostics = told := congrArg Ran.diagnostics does.run
  rw [sameValue, sameTold]
  exact describes

theorem describes_create_once (collection : Collection) (row : collection.Row)
    (isScript : event.script = createOnce collection row)
    (isEffect : event.effects store = [.first collection row])
    (noMissing : event.missingProposal? store = none) :
    (event.apply store).value.Describes event store (event.apply store).store
      (event.apply store).diagnostics := by
  have does := create_once_does collection row store
  rw [← isScript] at does
  refine outcome_describes_of_does does ?_
  cases found : store.load collection (Record.id row) with
  | some old => simp [Outcome.Describes, OnlyMissing, noMissing]
  | none =>
      refine ⟨gains_of_active event store (.first collection row) (by simp [isEffect]) ?_, ?_⟩
      · intro idle
        have updated : none.or (some row) = none := found ▸ idle
        cases updated
      · simp [OnlyMissing, noMissing]

/-- The rules that keep an audit record and set a present state. -/
theorem describes_projection (audited projected : Collection) (audit : audited.Row)
    (state : projected.Row)
    (does : event.script.Does store
      (.ofProjection
        (if (store.load audited (Record.id audit)).isSome then .unchanged else .created)
        (store.load projected (Record.id state) == some state))
      [.first audited audit, .last projected state] [])
    (isEffects : event.effects store = [.first audited audit, .last projected state])
    (noMissing : event.missingProposal? store = none) :
    (event.apply store).value.Describes event store (event.apply store).store
      (event.apply store).diagnostics := by
  refine outcome_describes_of_does does ?_
  have nothing : OnlyMissing (event.missingProposal? store) [] := by simp [OnlyMissing, noMissing]
  cases taken : store.load audited (Record.id audit) with
  | none =>
      refine ⟨gains_of_active event store (.first audited audit) (by simp [isEffects]) ?_, nothing⟩
      intro idle
      have updated : none.or (some audit) = none := taken ▸ idle
      cases updated
  | some old =>
      by_cases same : store.load projected (Record.id state) = some state
      · simpa [same, Outcome.ofProjection, Outcome.Describes] using nothing
      · have gains := gains_of_active event store (.last projected state) (by simp [isEffects])
          fun idle => same (Effect.idle_last_iff.mp idle)
        simpa [same, Outcome.ofProjection, Outcome.Describes] using And.intro gains nothing

end Rules

/-- What the outcome of a list that is stored says, whether the list was new, replaced another or was
there. -/
theorem Outcome.describes_of_stored {event : Event} {before after : Store}
    {told : List Diagnostic} {old : Option ValidatorsListMessage} {new : ValidatorsListMessage}
    {proposal : Option CandidatesValidatorsProposal}
    (gains : Outcome.ofApproval (.ofReplaced old new) proposal ≠ .unchanged → before.Gains after)
    (missing : OnlyMissing (event.missingProposal? before) told) :
    (Outcome.ofApproval (.ofReplaced old new) proposal).Describes event before after told := by
  rcases Outcome.of_approval_cases old new proposal with created | updated | unchanged
  · rw [created] at gains ⊢
    exact ⟨gains (by simp), missing⟩
  · rw [updated] at gains ⊢
    exact ⟨gains (by simp), missing⟩
  · rw [unchanged]
    exact missing

section Bodies

variable (blockNumber : Nat) (store : Store)

theorem describes_status (change : StatusEvent) (messageId : HexString) :
    (Event.apply ⟨blockNumber, .status change messageId⟩ store).value.Describes
      ⟨blockNumber, .status change messageId⟩ store
      (Event.apply ⟨blockNumber, .status change messageId⟩ store).store
      (Event.apply ⟨blockNumber, .status change messageId⟩ store).diagnostics := by
  refine outcome_describes_of_does (Rule.status_does blockNumber change messageId store) ?_
  have untouched (unmoved : ∀ message, store.load .messages messageId.text = some message →
      (Change.move change).result message = message) :
      (Event.apply ⟨blockNumber, .status change messageId⟩ store).store = store := by
    rw [apply_store_eq_self_iff]
    intro effect member
    rw [List.mem_singleton.mp member]
    exact Effect.idle_alter unmoved
  cases found : store.load .messages messageId.text with
  | none =>
      refine ⟨untouched (by simp [found]), _, rfl, rfl, rfl⟩
  | some message =>
      by_cases same : message.status = change.target
      · simp [same, Outcome.Describes, OnlyMissing, Event.missingProposal?]
      · cases refused : message.status.refusal message.direction change.target with
        | some refusal =>
            have unmoved : (Change.move change).result message = message := by
              simp [Change.move, MessageStatus.moved, refused]
            simp only [same, if_false, refused, reduceCtorEq]
            exact ⟨untouched (by simpa [found] using unmoved), _, rfl, rfl⟩
        | none =>
            have active : ¬(Effect.alter .messages messageId.text (.move change)).Idle store := by
              intro idle
              have kept : (store.load .messages messageId.text).map (Change.move change).result =
                  store.load .messages messageId.text := idle
              rw [found] at kept
              have moved := congrArg Message.status (Option.some.inj kept)
              simp only [Change.move, MessageStatus.moved, refused, if_true] at moved
              exact same moved.symm
            have gains := gains_of_active ⟨blockNumber, .status change messageId⟩ store _
              List.mem_cons_self active
            simpa [same, refused, Outcome.Describes, OnlyMissing, Event.missingProposal?] using gains

theorem describes_limit_approval (proposalId : HexString) :
    (Event.apply ⟨blockNumber, .limitApproval proposalId⟩ store).value.Describes
      ⟨blockNumber, .limitApproval proposalId⟩ store
      (Event.apply ⟨blockNumber, .limitApproval proposalId⟩ store).store
      (Event.apply ⟨blockNumber, .limitApproval proposalId⟩ store).diagnostics := by
  refine outcome_describes_of_does (Rule.limit_approval_does blockNumber proposalId store) ?_
  cases found : store.load .limitProposals proposalId.text with
  | none =>
      refine ⟨?_, _, rfl, rfl, rfl⟩
      rw [apply_store_eq_self_iff]
      intro effect member
      rw [List.mem_singleton.mp member]
      exact Effect.idle_alter (by simp [found])
  | some proposal =>
      by_cases approved : proposal.status = .approved
      · simp [approved, Outcome.Describes, OnlyMissing, Event.missingProposal?]
      · have active : ¬(Effect.alter .limitProposals proposalId.text .approveLimits).Idle store := by
          intro idle
          have kept : (store.load .limitProposals proposalId.text).map
              Change.approveLimits.result = store.load .limitProposals proposalId.text := idle
          rw [found] at kept
          exact approved (congrArg LimitProposal.status (Option.some.inj kept)).symm
        have gains := gains_of_active ⟨blockNumber, .limitApproval proposalId⟩ store _
          List.mem_cons_self active
        simpa [approved, Outcome.Describes, OnlyMissing, Event.missingProposal?] using gains

theorem describes_limits (values : LimitValues) :
    (Event.apply ⟨blockNumber, .limits values⟩ store).value.Describes
      ⟨blockNumber, .limits values⟩ store
      (Event.apply ⟨blockNumber, .limits values⟩ store).store
      (Event.apply ⟨blockNumber, .limits values⟩ store).diagnostics := by
  refine outcome_describes_of_does (Rule.limits_does blockNumber values store) ?_
  have nothing : OnlyMissing
      (Event.missingProposal? ⟨blockNumber, .limits values⟩ store) [] := rfl
  by_cases same : store.load .limitMessages (Rule.limitSnapshot blockNumber values).id =
      some (Rule.limitSnapshot blockNumber values)
  · simpa [same, Outcome.ofReplaced, Outcome.Describes] using nothing
  · have gains := gains_of_active ⟨blockNumber, .limits values⟩ store _ List.mem_cons_self
      fun idle => same (Effect.idle_last_iff.mp idle)
    cases found : store.load .limitMessages (Rule.limitSnapshot blockNumber values).id with
    | none => exact ⟨gains, nothing⟩
    | some previous =>
        have differs : previous ≠ Rule.limitSnapshot blockNumber values :=
          fun equal => same (found.trans (congrArg some equal))
        simpa [differs, Outcome.ofReplaced, Outcome.Describes] using And.intro gains nothing

/-- A list that is stored is a change unless it and the approval of its proposal were there. -/
theorem active_of_list_changed {messageId proposalId : HexString} {hostAddresses : List HexString}
    {threshold : Nat}
    (complete : (store.resolution (hostAddresses.map HexString.text)).complete = true)
    (changed : Outcome.ofApproval
      (.ofReplaced (store.load .validatorsListMessages messageId.text)
        (Rule.resolvedList blockNumber messageId proposalId hostAddresses threshold store))
      (store.load .candidatesValidatorsProposals proposalId.text) ≠ .unchanged) :
    ∃ effect ∈ Event.effects
      ⟨blockNumber, .validatorList messageId proposalId hostAddresses threshold⟩ store,
      ¬effect.Idle store := by
  by_contra noneActive
  push Not at noneActive
  simp only [Event.effects, complete, if_true, List.forall_mem_cons] at noneActive
  obtain ⟨listIdle, approvalIdle, _⟩ := noneActive
  have stored : store.load .validatorsListMessages messageId.text =
      some (Rule.resolvedList blockNumber messageId proposalId hostAddresses threshold store) :=
    Effect.idle_last_iff.mp listIdle
  have kept : (store.load .candidatesValidatorsProposals proposalId.text).map
      Change.approveList.result = store.load .candidatesValidatorsProposals proposalId.text :=
    approvalIdle
  apply changed
  rw [stored]
  cases found : store.load .candidatesValidatorsProposals proposalId.text with
  | none => simp [Outcome.ofApproval, Outcome.ofReplaced]
  | some proposal =>
      rw [found] at kept
      have approved : proposal.status = .approved :=
        (congrArg CandidatesValidatorsProposal.status (Option.some.inj kept)).symm
      simp [Outcome.ofApproval, Outcome.ofReplaced, approved]

theorem describes_validator_list (messageId proposalId : HexString)
    (hostAddresses : List HexString) (threshold : Nat) :
    (Event.apply ⟨blockNumber, .validatorList messageId proposalId hostAddresses threshold⟩
        store).value.Describes
      ⟨blockNumber, .validatorList messageId proposalId hostAddresses threshold⟩ store
      (Event.apply ⟨blockNumber, .validatorList messageId proposalId hostAddresses threshold⟩
        store).store
      (Event.apply ⟨blockNumber, .validatorList messageId proposalId hostAddresses threshold⟩
        store).diagnostics := by
  cases complete : (store.resolution (hostAddresses.map HexString.text)).complete with
  | false =>
      refine outcome_describes_of_does (Rule.unresolved_list_does blockNumber messageId proposalId
        hostAddresses threshold store complete) ⟨?_, _, rfl, rfl⟩
      rw [apply_store_eq_self_iff]
      simp [Event.effects, complete]
  | true =>
      have does := Rule.resolved_list_does blockNumber messageId proposalId hostAddresses threshold
        store complete _ rfl
      refine outcome_describes_of_does does (Outcome.describes_of_stored ?_ ?_)
      · intro changed
        obtain ⟨effect, member, active⟩ := active_of_list_changed blockNumber store complete changed
        exact gains_of_active _ store effect member active
      · cases found : store.load .candidatesValidatorsProposals proposalId.text with
        | none =>
            have missing : Event.missingProposal?
                ⟨blockNumber, .validatorList messageId proposalId hostAddresses threshold⟩ store =
                  some proposalId := by
              simp [Event.missingProposal?, found]
            rw [missing]
            exact ⟨_, rfl, rfl, rfl⟩
        | some proposal => simp [OnlyMissing, Event.missingProposal?, found]

end Bodies

theorem outcome_describes (event : Event) (store : Store) :
    (event.apply store).value.Describes event store (event.apply store).store
      (event.apply store).diagnostics := by
  obtain ⟨blockNumber, body⟩ := event
  cases body with
  | transfer | control | limitProposal | listProposal =>
      exact describes_create_once _ _ rfl rfl rfl
  | status change messageId => exact describes_status blockNumber store change messageId
  | account chain action messageId address timestamp =>
      exact describes_projection .accountMessages .accounts
        (Rule.accountAudit blockNumber chain action messageId address timestamp)
        (Rule.accountState blockNumber chain action messageId address timestamp)
        (Rule.account_does blockNumber chain action messageId address timestamp store) rfl rfl
  | limits values => exact describes_limits blockNumber store values
  | limitApproval proposalId => exact describes_limit_approval blockNumber store proposalId
  | candidate action messageId hostAddress guestAddress =>
      exact describes_projection .candidateValidatorMessages .candidateValidators
        (Rule.candidateAudit blockNumber action messageId hostAddress guestAddress)
        (Rule.candidateState blockNumber action hostAddress guestAddress)
        (Rule.candidate_does blockNumber action messageId hostAddress guestAddress store) rfl rfl
  | validatorList messageId proposalId hostAddresses threshold =>
      exact describes_validator_list blockNumber store messageId proposalId hostAddresses threshold

/-- What may be told of an event: a target that is missing, a move that is refused, or a list that is
not resolved. -/
inductive Event.Tells (event : Event) : Diagnostic → Prop where
  | missing (target : HexString) (message : String) :
      event.Tells (unknownTarget event.kind event.blockNumber target.text message)
  | refused (change : StatusEvent) (target : HexString) (refusal : Refusal)
      (isChange : change.kind = event.kind) :
      event.Tells (Rule.moveRejected event.blockNumber change target.text refusal)
  | unresolved (messageId proposalId : HexString) (resolution : Resolution)
      (isList : event.kind = .validatorsListMessage) :
      event.Tells (Rule.listRejected event.blockNumber messageId proposalId resolution)

theorem tells_of_mem_diagnostics (event : Event) (store : Store) (diagnostic : Diagnostic)
    (told : diagnostic ∈ (event.apply store).diagnostics) : event.Tells diagnostic := by
  have known {value : Outcome} {effects : List Effect} {diagnostics : List Diagnostic}
      (does : event.script.Does store value effects diagnostics) : diagnostic ∈ diagnostics := by
    simpa only [Event.apply, does.run] using told
  obtain ⟨blockNumber, body⟩ := event
  cases body with
  | transfer | control | limitProposal | listProposal =>
      have none := known (create_once_does _ _ store)
      simp at none
  | status change messageId =>
      have among := known (Rule.status_does blockNumber change messageId store)
      split at among
      · rw [List.mem_singleton.mp among]
        exact .missing messageId _
      · rename_i message found
        split at among
        · simp at among
        · obtain ⟨refusal, _, isRejection⟩ :=
            Option.map_eq_some_iff.mp (Option.mem_toList.mp among)
          have sameId : message.id = messageId.text := Store.id_of_load found
          rw [← isRejection, sameId]
          exact .refused change messageId refusal rfl
  | account chain action messageId address timestamp =>
      have none := known (Rule.account_does blockNumber chain action messageId address timestamp
        store)
      simp at none
  | limits values =>
      have none := known (Rule.limits_does blockNumber values store)
      simp at none
  | limitApproval proposalId =>
      have among := known (Rule.limit_approval_does blockNumber proposalId store)
      split at among
      · rw [List.mem_singleton.mp among]
        exact .missing proposalId _
      · simp at among
  | candidate action messageId hostAddress guestAddress =>
      have none := known (Rule.candidate_does blockNumber action messageId hostAddress guestAddress
        store)
      simp at none
  | validatorList messageId proposalId hostAddresses threshold =>
      cases complete : (store.resolution (hostAddresses.map HexString.text)).complete with
      | false =>
          have among := known (Rule.unresolved_list_does blockNumber messageId proposalId
            hostAddresses threshold store complete)
          rw [List.mem_singleton.mp among]
          exact .unresolved messageId proposalId _ rfl
      | true =>
          have among := known (Rule.resolved_list_does blockNumber messageId proposalId
            hostAddresses threshold store complete _ rfl)
          split at among
          · rw [List.mem_singleton.mp among]
            exact .missing proposalId _
          · simp at among

/-- Whatever is told of an event names its kind and its block. -/
theorem Event.Tells.names_event {event : Event} {diagnostic : Diagnostic}
    (tells : event.Tells diagnostic) :
    diagnostic.eventKind = event.kindName ∧ diagnostic.blockNumber = event.blockNumber := by
  cases tells with
  | missing target message => exact ⟨rfl, rfl⟩
  | refused change target refusal isChange => exact ⟨congrArg Named.name isChange, rfl⟩
  | unresolved messageId proposalId resolution isList =>
      exact ⟨congrArg Named.name isList.symm, rfl⟩

namespace Engine

/-- An event that is ignored or rejected leaves every answer of the store as it was and is told of
once; one that creates or updates leaves a row that was not there before; of one that is neither
ignored nor rejected nothing is told, but that the proposal named by a stored list is missing.
What is told names the event's kind and block, and comes behind what was told earlier. -/
theorem outcome_agrees_with_effect (event : Event) (engine : Engine Store) :
    ∃ outcome told, engine.Gives event outcome told ∧
      (outcome = .ignored →
        (engine.apply event).2.state.SameReads engine.state ∧ ∃ diagnostic, told = [diagnostic] ∧
          diagnostic.kind = .unknownTarget ∧ diagnostic.severity = .warning) ∧
      (outcome = .rejected →
        (engine.apply event).2.state.SameReads engine.state ∧ ∃ diagnostic, told = [diagnostic] ∧
          (diagnostic.kind, diagnostic.severity) = event.rejection) ∧
      (outcome = .created ∨ outcome = .updated →
        engine.state.Gains (engine.apply event).2.state) ∧
      (outcome = .created ∨ outcome = .updated ∨ outcome = .unchanged →
        OnlyMissing (event.missingProposal? engine.state) told) ∧
      ∀ diagnostic ∈ told,
        diagnostic.eventKind = event.kindName ∧ diagnostic.blockNumber = event.blockNumber := by
  have describes := outcome_describes event engine.state
  rw [← (apply_in_memory event engine).2] at describes
  refine ⟨_, _, gives_apply event engine, ?_, ?_, ?_, ?_, fun diagnostic told =>
    (tells_of_mem_diagnostics event engine.state diagnostic told).names_event⟩
  · intro ignored
    rw [ignored] at describes
    exact ⟨(Store.same_reads_iff _ _).mpr describes.1, describes.2⟩
  · intro rejected
    rw [rejected] at describes
    exact ⟨(Store.same_reads_iff _ _).mpr describes.1, describes.2⟩
  · rintro (created | updated)
    · rw [created] at describes
      exact describes.1
    · rw [updated] at describes
      exact describes.1
  · rintro (created | updated | unchanged)
    · rw [created] at describes
      exact describes.2
    · rw [updated] at describes
      exact describes.2
    · rw [unchanged] at describes
      exact describes

/-- A list is stored whose proposal is missing. -/
theorem outcome_agrees_with_effect_missing :
    ∃ outcome told,
      (History.run [⟨1, .candidate .add .sample .sample .sample⟩]).2.Gives
          ⟨2, .validatorList .sample .sampleOther [.sample] 1⟩ outcome told ∧
        outcome = .created ∧
        (History.run [⟨1, .candidate .add .sample .sample .sample⟩]).2.state.Gains
          ((History.run [⟨1, .candidate .add .sample .sample .sample⟩]).2.apply
            ⟨2, .validatorList .sample .sampleOther [.sample] 1⟩).2.state ∧
        ∃ diagnostic, told = [diagnostic] ∧ diagnostic.kind = .unknownTarget ∧
          diagnostic.targetId = HexString.sampleOther.text := by
  obtain ⟨outcome, told, gives, _, _, gains, missing, _⟩ :=
    outcome_agrees_with_effect ⟨2, .validatorList .sample .sampleOther [.sample] 1⟩
      (History.run [⟨1, .candidate .add .sample .sample .sample⟩]).2
  have created : outcome = .created := by
    have applied := (apply_in_memory ⟨2, .validatorList .sample .sampleOther [.sample] 1⟩
      (History.run [⟨1, .candidate .add .sample .sample .sample⟩]).2).1
    exact Except.ok.inj (gives.1.symm.trans applied)
  exact ⟨outcome, told, gives, created, gains (Or.inl created), missing (Or.inl created)⟩

end Engine

end BridgeState
