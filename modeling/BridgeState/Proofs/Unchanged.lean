import BridgeState.Proofs.Limits

/-!
# What an unchanged outcome says of the store

An event that is told to have changed nothing leaves every answer of the store as it was, except
where it sets limits: the outcome then looks at the snapshot of the block alone, and the present
limits are set again even if a later event had set them to something else.
-/

namespace BridgeState

set_option autoImplicit false

/-- Two stores answer every question in the same way. -/
structure Store.SameReads (one other : Store) : Prop where
  load : ∀ collection id, one.load collection id = other.load collection id
  list : ∀ collection query, one.list collection query = other.list collection query
  count : ∀ collection status, one.count collection status = other.count collection status
  maxBlock : ∀ collection, one.maxBlock collection = other.maxBlock collection

theorem Store.same_reads_iff (one other : Store) : one.SameReads other ↔ one = other := by
  constructor
  · intro same
    exact Store.ext_load same.load
  · intro equal
    subst equal
    exact ⟨fun _ _ => rfl, fun _ _ => rfl, fun _ _ => rfl, fun _ => rfl⟩

theorem Outcome.of_replaced_unchanged {α : Type} [DecidableEq α] {old : Option α} {new : α}
    (unchanged : Outcome.ofReplaced old new = .unchanged) : old = some new := by
  cases old with
  | none => cases unchanged
  | some previous =>
      by_cases same : previous = new
      · rw [same]
      · simp [Outcome.ofReplaced, same] at unchanged

theorem Outcome.of_projection_unchanged {taken same : Bool}
    (unchanged : Outcome.ofProjection (if taken then .unchanged else .created) same = .unchanged) :
    taken = true ∧ same = true := by
  cases taken <;> cases same <;> simp_all [Outcome.ofProjection]

theorem Outcome.of_approval_unchanged {replaced : Outcome}
    {proposal : Option CandidatesValidatorsProposal}
    (unchanged : Outcome.ofApproval replaced proposal = .unchanged) :
    replaced = .unchanged ∧ ∀ found, proposal = some found → found.status = .approved := by
  cases proposal with
  | none => exact ⟨unchanged, by simp⟩
  | some found =>
      by_cases approved : found.status = .approved
      · simp only [Outcome.ofApproval, approved, if_true] at unchanged
        exact ⟨unchanged, fun other same => Option.some.inj same ▸ approved⟩
      · by_cases same : replaced = .unchanged
        · simp [Outcome.ofApproval, approved, same] at unchanged
        · simp only [Outcome.ofApproval, approved, same, if_false] at unchanged

theorem taken_of_create_once {collection : Collection} {row : collection.Row} {store : Store}
    (unchanged : ((createOnce collection row).run store).value = .unchanged) :
    (store.load collection (Record.id row)).isSome = true := by
  rw [(create_once_does collection row store).run] at unchanged
  cases taken : (store.load collection (Record.id row)).isSome with
  | true => rfl
  | false => simp [taken] at unchanged

/-- An audit record and a state that are told to be unchanged are both there already. -/
theorem idle_of_projection (audited projected : Collection) (audit : audited.Row)
    (state : projected.Row) (store : Store)
    (unchanged : Outcome.ofProjection
      (if (store.load audited (Record.id audit)).isSome then .unchanged else .created)
      (store.load projected (Record.id state) == some state) = .unchanged)
    (effect : Effect) (member : effect ∈ [.first audited audit, .last projected state]) :
    effect.Idle store := by
  obtain ⟨taken, same⟩ := Outcome.of_projection_unchanged unchanged
  simp only [List.mem_cons, List.not_mem_nil, or_false] at member
  rcases member with isAudit | isState
  · rw [isAudit]
    exact Effect.idle_first taken
  · rw [isState]
    exact Effect.idle_last_iff.mpr (eq_of_beq same)

/-- An event that is told to be unchanged changes no row but the present limits. -/
theorem idle_of_unchanged (event : Event) (store : Store)
    (unchanged : (event.apply store).value = .unchanged)
    (effect : Effect) (member : effect ∈ event.effects store)
    (noLimit : effect.place.collection ≠ .limits) : effect.Idle store := by
  obtain ⟨blockNumber, body⟩ := event
  cases body with
  | transfer | control | limitProposal | listProposal =>
      rw [List.mem_singleton.mp member]
      exact Effect.idle_first (taken_of_create_once unchanged)
  | status change messageId =>
      rw [List.mem_singleton.mp member]
      apply Effect.idle_alter
      intro message found
      have value := (Rule.status_does blockNumber change messageId store).value_run.symm.trans
        unchanged
      by_cases same : message.status = change.target
      · simp [Change.move, MessageStatus.moved, ← same]
      · by_cases allowed : message.status.refusal message.direction change.target = none
        · simp [found, same, allowed] at value
        · simp [found, same, allowed] at value
  | limitApproval proposalId =>
      rw [List.mem_singleton.mp member]
      apply Effect.idle_alter
      intro proposal found
      have value := (Rule.limit_approval_does blockNumber proposalId store).value_run.symm.trans
        unchanged
      by_cases approved : proposal.status = .approved
      · simp [Change.approveLimits, ← approved]
      · simp [found, approved] at value
  | account chain action messageId address timestamp =>
      have value := (Rule.account_does blockNumber chain action messageId address timestamp
        store).value_run.symm.trans unchanged
      exact idle_of_projection .accountMessages .accounts
        (Rule.accountAudit blockNumber chain action messageId address timestamp)
        (Rule.accountState blockNumber chain action messageId address timestamp) store value effect
        member
  | candidate action messageId hostAddress guestAddress =>
      have value := (Rule.candidate_does blockNumber action messageId hostAddress guestAddress
        store).value_run.symm.trans unchanged
      exact idle_of_projection .candidateValidatorMessages .candidateValidators
        (Rule.candidateAudit blockNumber action messageId hostAddress guestAddress)
        (Rule.candidateState blockNumber action hostAddress guestAddress) store value effect member
  | limits values =>
      have value := (Rule.limits_does blockNumber values store).value_run.symm.trans unchanged
      rcases List.mem_cons.mp member with isSnapshot | isLimit
      · rw [isSnapshot]
        exact Effect.idle_last_iff.mpr (Outcome.of_replaced_unchanged value)
      · obtain ⟨kind, _, isKind⟩ := List.mem_map.mp isLimit
        rw [← isKind] at noLimit
        exact absurd rfl noLimit
  | validatorList messageId proposalId hostAddresses threshold =>
      cases complete : (store.resolution (hostAddresses.map HexString.text)).complete with
      | false => simp [Event.effects, complete] at member
      | true =>
          have value := (Rule.resolved_list_does blockNumber messageId proposalId hostAddresses
            threshold store complete _ rfl).value_run.symm.trans unchanged
          obtain ⟨replaced, approved⟩ := Outcome.of_approval_unchanged value
          simp only [Event.effects, complete, if_true, List.mem_cons, List.not_mem_nil,
            or_false] at member
          rcases member with isList | isApproval
          · rw [isList]
            exact Effect.idle_last_iff.mpr (Outcome.of_replaced_unchanged replaced)
          · rw [isApproval]
            apply Effect.idle_alter
            intro proposal found
            simp [Change.approveList, ← approved proposal found]

theorem limit_of_effect (event : Event) (store : Store) (effect : Effect)
    (member : effect ∈ event.effects store) (isLimit : effect.place.collection = .limits) :
    ∃ values kind, event.body = .limits values ∧
      effect = .last .limits (Rule.presentLimit event.blockNumber values kind) := by
  have touches := touched_of_mem_effects event store effect member
  rw [isLimit] at touches
  obtain ⟨blockNumber, body⟩ := event
  cases body with
  | limits values =>
      rcases List.mem_cons.mp member with isSnapshot | isSetting
      · rw [isSnapshot] at isLimit
        cases isLimit
      · obtain ⟨kind, _, isKind⟩ := List.mem_map.mp isSetting
        exact ⟨values, kind, rfl, isKind.symm⟩
  | _ => simp [EventBody.touched] at touches

/-- An event that is told to be unchanged leaves the store as it is if and only if it sets no limits
or finds the present limits as it would set them. -/
theorem store_same_iff_of_unchanged (event : Event) (store : Store)
    (unchanged : (event.apply store).value = .unchanged) :
    (event.apply store).store = store ↔ ∀ values, event.body = .limits values →
      ∀ kind, store.load .limits (Named.name kind : String) =
        some (Rule.presentLimit event.blockNumber values kind) := by
  rw [apply_store_eq_self_iff]
  constructor
  · intro idle values isLimits kind
    have member : Effect.last .limits (Rule.presentLimit event.blockNumber values kind) ∈
        event.effects store := by
      rw [Event.effects, isLimits]
      exact List.mem_cons_of_mem _ (List.mem_map.mpr ⟨kind, LimitKind.mem_all kind, rfl⟩)
    exact Effect.idle_last_iff.mp (idle _ member)
  · intro present effect member
    by_cases isLimit : effect.place.collection = .limits
    · obtain ⟨values, kind, isLimits, isEffect⟩ := limit_of_effect event store effect member isLimit
      rw [isEffect]
      exact Effect.idle_last_iff.mpr (present values isLimits kind)
    · exact idle_of_unchanged event store unchanged effect member isLimit

namespace History

/-- An event that is told to be unchanged behind a history leaves every answer of the store as it
was if and only if it is no setting of limits or repeats the last one. -/
theorem unchanged_same_reads_iff (events : List Event) (event : Event)
    (unchanged : ((run events).2.apply event).1 = .ok .unchanged) :
    ((run events).2.apply event).2.state.SameReads (store events) ↔
      ∀ values, event.body = .limits values →
        lastSetting events = some ⟨event.blockNumber, values⟩ := by
  obtain ⟨outcome, after⟩ := apply_behind events event
  rw [outcome, Except.ok.injEq] at unchanged
  rw [Store.same_reads_iff, after, store_append_one,
    store_same_iff_of_unchanged event (store events) unchanged]
  exact forall₂_congr fun values _ => load_limits_iff events ⟨event.blockNumber, values⟩

/-- Setting the limits of a block twice in a row. -/
theorem unchanged_same_reads_iff_repeated :
    ((run [⟨5, .limits (.each 1)⟩]).2.apply ⟨5, .limits (.each 1)⟩).1 = .ok .unchanged ∧
      ((run [⟨5, .limits (.each 1)⟩]).2.apply ⟨5, .limits (.each 1)⟩).2.state.SameReads
        (store [⟨5, .limits (.each 1)⟩]) := by
  have value := limits_unchanged_of_snapshot ⟨5, .each 1⟩ (store [⟨5, .limits (.each 1)⟩]) (by
    rw [load_snapshot]
    simp [Event.snapshot?, Event.limitSetting?, Option.filter])
  have unchanged := (apply_behind [⟨5, .limits (.each 1)⟩] ⟨5, .limits (.each 1)⟩).1.trans
    (congrArg Except.ok value)
  refine ⟨unchanged, (unchanged_same_reads_iff [⟨5, .limits (.each 1)⟩]
    ⟨5, .limits (.each 1)⟩ unchanged).mpr fun values isLimits => ?_⟩
  rw [← EventBody.limits.inj isLimits]
  rfl

/-- The limits of a block are set, those of a later block are set to something else, and the first
event comes again: it is told to be unchanged and sets all present limits back. -/
theorem unchanged_with_limits_set_back :
    ((run [⟨5, .limits (.each 1)⟩, ⟨6, .limits (.each 2)⟩]).2.apply
        ⟨5, .limits (.each 1)⟩).1 = .ok .unchanged ∧
      ¬((run [⟨5, .limits (.each 1)⟩, ⟨6, .limits (.each 2)⟩]).2.apply
          ⟨5, .limits (.each 1)⟩).2.state.SameReads
        (store [⟨5, .limits (.each 1)⟩, ⟨6, .limits (.each 2)⟩]) := by
  obtain ⟨outcome, after⟩ := apply_behind [⟨5, .limits (.each 1)⟩, ⟨6, .limits (.each 2)⟩]
    ⟨5, .limits (.each 1)⟩
  have otherDigest : Identifier.limitMessageId 6 ≠ Identifier.limitMessageId 5 := by
    decide +kernel
  have otherId : (LimitSetting.mk 6 (.each 2)).snapshot.id ≠
      (LimitSetting.mk 5 (.each 1)).snapshot.id :=
    fun same => otherDigest (HexString.ext_text (Text.ofString_injective same))
  have value := limits_unchanged_of_snapshot ⟨5, .each 1⟩
    (store [⟨5, .limits (.each 1)⟩, ⟨6, .limits (.each 2)⟩]) (by
      rw [load_snapshot]
      simp [Event.snapshot?, Event.limitSetting?, Option.filter, otherId])
  refine ⟨outcome.trans (congrArg Except.ok value), fun same => ?_⟩
  rw [after] at same
  have row := same.load .limits (Named.name LimitKind.dayHostMaxLimit : String)
  rw [load_limit, load_limit] at row
  cases row

end History

end BridgeState
