import BridgeState.Proofs.History

/-!
# Audit records and present states

Events that control the bridge, an account or a candidate leave an audit record under their message
id; those of the last two families also set the present state of an address or of a host. The record
is decided by the first event of its id and the state by the last event of its key. So an event
whose message id was used before leaves the record alone and still moves the state.
-/

namespace BridgeState

set_option autoImplicit false

def Event.controlAudit? (event : Event) : Option BridgeMessage :=
  match event.body with
  | .control change messageId => some
    { id := messageId.text
      blockNumber := event.blockNumber
      action := match change with
        | .started => .start
        | .stopped => .stop
        | .paused | .pausedByVolume => .pause
        | .resumed | .startedByVolume => .resume
      status := .pending }
  | _ => none

def Event.accountAudit? (event : Event) : Option AccountMessage :=
  match event.body with
  | .account chain action messageId address timestamp => some
    { id := messageId.text
      blockNumber := event.blockNumber
      action
      direction := match chain with
        | .host => .hostToGuest
        | .guest => .guestToHost
      address
      timestamp }
  | _ => none

def Event.accountState? (event : Event) : Option Account :=
  match event.body with
  | .account chain action messageId address timestamp => some
    { id := address.text
      blockNumber := event.blockNumber
      messageId
      kind := chain
      status := match action with
        | .pause => .blocked
        | .resume => .active
      timestamp }
  | _ => none

def Event.candidateAudit? (event : Event) : Option CandidateValidatorMessage :=
  match event.body with
  | .candidate action messageId hostAddress guestAddress => some
    { id := messageId.text, blockNumber := event.blockNumber, hostAddress, guestAddress, action }
  | _ => none

def Event.candidateState? (event : Event) : Option CandidateValidator :=
  match event.body with
  | .candidate action _ hostAddress guestAddress => some
    { id := hostAddress.text
      blockNumber := event.blockNumber
      guestAddress
      active := match action with
        | .add => true
        | .remove => false }
  | _ => none

section Own

variable (event : Event) (store : Store)

theorem effects_on_bridge_messages : event.effectsOn .bridgeMessages store =
    (event.controlAudit?.map (Effect.first .bridgeMessages)).toList := by
  obtain ⟨blockNumber, body⟩ := event
  cases body with
  | control change messageId => cases change <;> rfl
  | _ => exact effects_on_untouched _ store _ (by simp [EventBody.touched])

theorem effects_on_account_messages : event.effectsOn .accountMessages store =
    (event.accountAudit?.map (Effect.first .accountMessages)).toList := by
  obtain ⟨blockNumber, body⟩ := event
  cases body with
  | account chain action messageId address timestamp => cases chain <;> rfl
  | _ => exact effects_on_untouched _ store _ (by simp [EventBody.touched])

theorem effects_on_accounts : event.effectsOn .accounts store =
    (event.accountState?.map (Effect.last .accounts)).toList := by
  obtain ⟨blockNumber, body⟩ := event
  cases body with
  | account chain action messageId address timestamp => cases action <;> rfl
  | _ => exact effects_on_untouched _ store _ (by simp [EventBody.touched])

theorem effects_on_candidate_messages : event.effectsOn .candidateValidatorMessages store =
    (event.candidateAudit?.map (Effect.first .candidateValidatorMessages)).toList := by
  obtain ⟨blockNumber, body⟩ := event
  cases body with
  | candidate action messageId hostAddress guestAddress => rfl
  | _ => exact effects_on_untouched _ store _ (by simp [EventBody.touched])

theorem effects_on_candidates : event.effectsOn .candidateValidators store =
    (event.candidateState?.map (Effect.last .candidateValidators)).toList := by
  obtain ⟨blockNumber, body⟩ := event
  cases body with
  | candidate action messageId hostAddress guestAddress => cases action <;> rfl
  | _ => exact effects_on_untouched _ store _ (by simp [EventBody.touched])

end Own

namespace History

/-- Behind the history a row is stored if and only if an event built one of its id, and it is the
one that was built first. -/
structure KeepsFirst (collection : Collection) (row? : Event → Option collection.Row)
    (events : List Event) : Prop where
  stored_iff : ∀ id, ((store events).load collection id).isSome = true ↔
    ∃ event ∈ events, ∃ row, row? event = some row ∧ Record.id row = id
  first : ∀ earlier event later row, events = earlier ++ event :: later → row? event = some row →
    (∀ other ∈ earlier, ∀ before, row? other = some before → Record.id before ≠ Record.id row) →
    (store events).load collection (Record.id row) = some row

/-- Behind the history a row is stored if and only if an event built one of its id, and it is the
one that was built last. -/
structure FollowsLast (collection : Collection) (row? : Event → Option collection.Row)
    (events : List Event) : Prop where
  stored_iff : ∀ id, ((store events).load collection id).isSome = true ↔
    ∃ event ∈ events, ∃ row, row? event = some row ∧ Record.id row = id
  last : ∀ earlier event later row, events = earlier ++ event :: later → row? event = some row →
    (∀ other ∈ later, ∀ behind, row? other = some behind → Record.id behind ≠ Record.id row) →
    (store events).load collection (Record.id row) = some row

section Built

variable {collection : Collection} {row? : Event → Option collection.Row}

theorem keeps_first_of_own
    (own : ∀ event store, event.effectsOn collection store =
      ((row? event).map (Effect.first collection)).toList) (events : List Event) :
    KeepsFirst collection row? events where
  stored_iff id := by
    rw [load_eq_head_built own, List.isSome_head?, built_ne_nil_iff]
  first := by
    intro earlier event later row split builds first
    rw [load_eq_head_built own, split, built_split earlier later event row builds,
      (built_eq_nil_iff _ earlier).mpr first]
    rfl

theorem follows_last_of_own
    (own : ∀ event store, event.effectsOn collection store =
      ((row? event).map (Effect.last collection)).toList) (events : List Event) :
    FollowsLast collection row? events where
  stored_iff id := by
    rw [load_eq_last_built own, List.getLast?_isSome, built_ne_nil_iff]
  last := by
    intro earlier event later row split builds last
    rw [load_eq_last_built own, split, built_split earlier later event row builds,
      (built_eq_nil_iff _ later).mpr last]
    simp

end Built

theorem reused_id_moves_state {audited projected : Collection}
    {audit? : Event → Option audited.Row} {state? : Event → Option projected.Row}
    (ownAudit : ∀ event store, event.effectsOn audited store =
      ((audit? event).map (Effect.first audited)).toList)
    (ownState : ∀ event store, event.effectsOn projected store =
      ((state? event).map (Effect.last projected)).toList)
    (events : List Event) (event : Event) (audit : audited.Row) (state : projected.Row)
    (leaves : audit? event = some audit) (sets : state? event = some state) (old : audited.Row)
    (taken : (store events).load audited (Record.id audit) = some old) :
    (store (events ++ [event])).load audited (Record.id audit) = some old ∧
      (store (events ++ [event])).load projected (Record.id state) = some state := by
  have leavesOne : event.effectsOn audited (store events) = [.first audited audit] := by
    simp [ownAudit, leaves]
  have setsOne : event.effectsOn projected (store events) = [.last projected state] := by
    simp [ownState, sets]
  rw [store_append_one]
  constructor
  · rw [load_apply_own_first leavesOne, taken]
    rfl
  · rw [load_apply_own_last setsOne]
    simp [Option.filter]

theorem audit_of_account_state (event : Event) (account : Account)
    (sets : event.accountState? = some account) :
    ∃ audit, event.accountAudit? = some audit ∧ audit.id = account.messageId.text := by
  obtain ⟨blockNumber, body⟩ := event
  cases body with
  | account chain action messageId address timestamp =>
      cases sets
      exact ⟨_, rfl, rfl⟩
  | _ => cases sets

/-- The audit record that the state of an account names is always there. -/
theorem account_message_stored (events : List Event) (id : Text) (account : Account)
    (stored : (store events).load .accounts id = some account) :
    ((store events).load .accountMessages account.messageId.text).isSome = true := by
  have last := (load_eq_last_built effects_on_accounts events id).symm.trans stored
  have inBuilt := List.mem_of_getLast? last
  rw [mem_built_iff] at inBuilt
  obtain ⟨event, member, sets, _⟩ := inBuilt
  obtain ⟨audit, leaves, sameId⟩ := audit_of_account_state event account sets
  have audits := keeps_first_of_own effects_on_account_messages events
  exact (audits.stored_iff _).mpr ⟨event, member, audit, leaves, sameId⟩

/-- An audit record of the bridge, of an account or of a candidate is that of the first event of its
message id; the state of an account or of a candidate is that of the last event of its address or
host. An event whose message id is taken leaves the record and moves the state, and the record that
the state of an account names is always stored. -/
theorem audits_keep_first_states_follow_last (events : List Event) :
    KeepsFirst .bridgeMessages Event.controlAudit? events ∧
    KeepsFirst .accountMessages Event.accountAudit? events ∧
    KeepsFirst .candidateValidatorMessages Event.candidateAudit? events ∧
    FollowsLast .accounts Event.accountState? events ∧
    FollowsLast .candidateValidators Event.candidateState? events ∧
    (∀ event audit state old, event.accountAudit? = some audit →
      event.accountState? = some state →
      (store events).load .accountMessages audit.id = some old →
      (store (events ++ [event])).load .accountMessages audit.id = some old ∧
        (store (events ++ [event])).load .accounts state.id = some state) ∧
    (∀ event audit state old, event.candidateAudit? = some audit →
      event.candidateState? = some state →
      (store events).load .candidateValidatorMessages audit.id = some old →
      (store (events ++ [event])).load .candidateValidatorMessages audit.id = some old ∧
        (store (events ++ [event])).load .candidateValidators state.id = some state) ∧
    ∀ id account, (store events).load .accounts id = some account →
      ((store events).load .accountMessages account.messageId.text).isSome = true := by
  refine ⟨keeps_first_of_own effects_on_bridge_messages events,
    keeps_first_of_own effects_on_account_messages events,
    keeps_first_of_own effects_on_candidate_messages events,
    follows_last_of_own effects_on_accounts events,
    follows_last_of_own effects_on_candidates events, ?_, ?_, account_message_stored events⟩
  · intro event audit state old leaves sets taken
    exact reused_id_moves_state effects_on_account_messages effects_on_accounts events event audit
      state leaves sets old taken
  · intro event audit state old leaves sets taken
    exact reused_id_moves_state effects_on_candidate_messages effects_on_candidates events event
      audit state leaves sets old taken

open HexString in
/-- The message id of a pause on the host comes again with a resumption on the guest. -/
theorem audits_keep_first_states_follow_last_reused :
    (store ([⟨1, .account .host .pause sample sample 5⟩] ++
        [⟨2, .account .guest .resume sample sampleOther 6⟩])).load .accountMessages sample.text =
          some ⟨sample.text, 1, .pause, .hostToGuest, sample, 5⟩ ∧
      (store ([⟨1, .account .host .pause sample sample 5⟩] ++
        [⟨2, .account .guest .resume sample sampleOther 6⟩])).load .accounts sampleOther.text =
          some ⟨sampleOther.text, 2, sample, .guest, .active, 6⟩ := by
  obtain ⟨_, audits, _, _, _, moves, _⟩ :=
    audits_keep_first_states_follow_last [⟨1, .account .host .pause sample sample 5⟩]
  have taken := audits.first [] ⟨1, .account .host .pause sample sample 5⟩ [] _ rfl rfl (by simp)
  exact moves ⟨2, .account .guest .resume sample sampleOther 6⟩ _ _ _ rfl rfl taken

end History

end BridgeState
