import BridgeState.Proofs.Audits

/-!
# Lists of validators and the registry

The registry holds for every host what the last addition or removal of it said. A list of validators
is rejected if and only if the last event of one of its hosts, at that moment, is not an addition.
Otherwise it is stored with the guest address that each host was last added with, and stays until a
list of the same id is stored.
-/

namespace BridgeState

set_option autoImplicit false

structure Registration where
  blockNumber : Nat
  action : ValidatorAction
  guestAddress : HexString
deriving Repr, DecidableEq

def Event.registration? (host : HexString) (event : Event) : Option Registration :=
  match event.body with
  | .candidate action _ hostAddress guestAddress =>
    if hostAddress = host then some ⟨event.blockNumber, action, guestAddress⟩ else none
  | _ => none

def Event.addition? (host : HexString) (event : Event) : Option HexString :=
  match event.body with
  | .candidate .add _ hostAddress guestAddress =>
    if hostAddress = host then some guestAddress else none
  | _ => none

def Registration.row (host : HexString) (registration : Registration) : CandidateValidator :=
  ⟨host.text, registration.blockNumber, registration.guestAddress, registration.action == .add⟩

theorem registration_row (event : Event) (host : HexString) :
    (event.registration? host).map (Registration.row host) =
      event.candidateState?.filter fun candidate => candidate.id = (host.text : Text) := by
  obtain ⟨blockNumber, body⟩ := event
  cases body with
  | candidate action messageId hostAddress guestAddress =>
      by_cases same : hostAddress = host
      · subst same
        cases action <;> simp [Event.registration?, Event.candidateState?, Registration.row,
          Option.filter]
      · simp [Event.registration?, Event.candidateState?, Option.filter, same]
  | _ => rfl

namespace History

def latestRegistration (events : List Event) (host : HexString) : Option Registration :=
  (events.filterMap (Event.registration? host)).getLast?

def latestAddition (events : List Event) (host : HexString) : Option HexString :=
  (events.filterMap (Event.addition? host)).getLast?

/-- The invariant of the registry. -/
theorem load_candidate (events : List Event) (host : HexString) :
    (store events).load .candidateValidators host.text =
      (latestRegistration events host).map (Registration.row host) := by
  have registrations : (events.filterMap (Event.registration? host)).map (Registration.row host) =
      @built .candidateValidators Event.candidateState? host.text events := by
    rw [List.map_filterMap]
    simp only [registration_row]
    rfl
  rw [latestRegistration, ← List.getLast?_map, registrations]
  exact load_eq_last_built effects_on_candidates events host.text

theorem latest_addition_of_registration (events : List Event) (host : HexString)
    (registration : Registration)
    (latest : latestRegistration events host = some registration)
    (added : registration.action = .add) :
    latestAddition events host = some registration.guestAddress := by
  obtain ⟨before, split⟩ := List.getLast?_eq_some_iff.mp latest
  have additions : events.filterMap (Event.addition? host) =
      (events.filterMap (Event.registration? host)).filterMap fun registration =>
        if registration.action = .add then some registration.guestAddress else none := by
    rw [List.filterMap_filterMap]
    congr 1
    funext event
    obtain ⟨blockNumber, body⟩ := event
    cases body with
    | candidate action messageId hostAddress guestAddress =>
        cases action <;> by_cases same : hostAddress = host <;>
          simp [Event.addition?, Event.registration?, same]
    | _ => rfl
  rw [latestAddition, additions, split]
  simp [added]

end History

section Step

variable (blockNumber : Nat) (messageId proposalId : HexString) (hostAddresses : List HexString)
  (threshold : Nat) (store : Store)

theorem list_rejected_iff :
    (Event.apply ⟨blockNumber, .validatorList messageId proposalId hostAddresses threshold⟩
        store).value = .rejected ↔
      (store.resolution (hostAddresses.map HexString.text)).complete = false := by
  cases complete : (store.resolution (hostAddresses.map HexString.text)).complete with
  | false =>
      have does := Rule.unresolved_list_does blockNumber messageId proposalId hostAddresses
        threshold store complete
      exact iff_of_true does.value_run rfl
  | true =>
      have does := Rule.resolved_list_does blockNumber messageId proposalId hostAddresses threshold
        store complete _ rfl
      apply iff_of_false _ (by simp)
      intro rejected
      have value := does.value_run.symm.trans rejected
      simpa [value] using Outcome.of_approval_cases
        (store.load .validatorsListMessages messageId.text)
        (Rule.resolvedList blockNumber messageId proposalId hostAddresses threshold store)
        (store.load .candidatesValidatorsProposals proposalId.text)

theorem load_list_of_resolved
    (complete : (store.resolution (hostAddresses.map HexString.text)).complete = true) :
    (Event.apply ⟨blockNumber, .validatorList messageId proposalId hostAddresses threshold⟩
        store).store.load .validatorsListMessages messageId.text =
      some (Rule.resolvedList blockNumber messageId proposalId hostAddresses threshold store) := by
  refine row_at_apply_mem _ store (.last .validatorsListMessages
    (Rule.resolvedList blockNumber messageId proposalId hostAddresses threshold store)) ?_
  simp only [Event.effects, complete, if_true]
  exact List.mem_cons_self

end Step

/-- A stored list is left alone by every event but a list of its id that is not rejected. -/
theorem load_list_of_other (event : Event) (store : Store) (id : Text)
    (other : ∀ messageId proposalId hostAddresses threshold,
      event.body = .validatorList messageId proposalId hostAddresses threshold →
      (messageId.text : Text) = id → (event.apply store).value = .rejected) :
    (event.apply store).store.load .validatorsListMessages id =
      store.load .validatorsListMessages id := by
  obtain ⟨blockNumber, body⟩ := event
  cases body with
  | validatorList messageId proposalId hostAddresses threshold =>
      apply row_at_apply_ne _ store ⟨.validatorsListMessages, id⟩
      intro effect member same
      cases complete : (store.resolution (hostAddresses.map HexString.text)).complete with
      | false => simp [Event.effects, complete] at member
      | true =>
          simp only [Event.effects, complete, if_true, List.mem_cons, List.not_mem_nil,
            or_false] at member
          rcases member with isList | isApproval
          · rw [isList] at same
            have rejected := other messageId proposalId hostAddresses threshold rfl
              (congrArg Place.id same).symm
            rw [list_rejected_iff, complete] at rejected
            cases rejected
          · rw [isApproval] at same
            exact absurd (congrArg Place.collection same) (by simp [Effect.place])
  | _ => exact load_apply_untouched _ store _ _ (by simp [EventBody.touched])

namespace History

open HexString

/-- At that position of the history a list of that id is stored. -/
def ListStored (events : List Event) (id : Text) (position : Nat) : Prop :=
  ∃ blockNumber messageId proposalId hostAddresses threshold,
    events[position]? =
      some ⟨blockNumber, .validatorList messageId proposalId hostAddresses threshold⟩ ∧
    (messageId.text : Text) = id ∧ (outcomes events)[position]? ≠ some .rejected

theorem resolution_complete_iff_added (events : List Event) (hostAddresses : List HexString) :
    ((store events).resolution (hostAddresses.map HexString.text)).complete = true ↔
      ∀ host ∈ hostAddresses, ∃ registration,
        latestRegistration events host = some registration ∧ registration.action = .add := by
  rw [resolution_complete_iff_active, List.forall_mem_map]
  refine forall₂_congr fun host _ => ?_
  rw [Store.hasActive, load_candidate]
  cases latestRegistration events host with
  | none => simp
  | some registration => simp [Registration.row]

theorem list_rejected_at_iff (events : List Event) (position blockNumber : Nat)
    (messageId proposalId : HexString) (hostAddresses : List HexString) (threshold : Nat)
    (present : events[position]? =
      some ⟨blockNumber, .validatorList messageId proposalId hostAddresses threshold⟩) :
    (outcomes events)[position]? = some .rejected ↔
      ((store (events.take position)).resolution
        (hostAddresses.map HexString.text)).complete = false := by
  rw [outcome_at_position events position _ present, Option.some.injEq, list_rejected_iff]

/-- Events that store no list of an id leave the list of that id. -/
theorem load_list_append (earlier later : List Event) (id : Text)
    (never : ∀ position, earlier.length ≤ position → ¬ListStored (earlier ++ later) id position) :
    (store (earlier ++ later)).load .validatorsListMessages id =
      (store earlier).load .validatorsListMessages id := by
  apply load_append_kept earlier later
  intro before event after split
  apply load_list_of_other
  intro messageId proposalId hostAddresses threshold isList sameId
  by_contra notRejected
  have regroup : earlier ++ later = (earlier ++ before) ++ event :: after := by
    rw [split, List.append_assoc]
  refine never (earlier ++ before).length (by simp) ?_
  refine ⟨event.blockNumber, messageId, proposalId, hostAddresses, threshold, ?_, sameId, ?_⟩
  · rw [regroup, List.getElem?_append_right (Nat.le_refl _), Nat.sub_self, ← isList]
    rfl
  · rw [regroup, outcome_at]
    simpa using notRejected

theorem load_list_stored (events : List Event) (position blockNumber : Nat)
    (messageId proposalId : HexString) (hostAddresses : List HexString) (threshold : Nat)
    (present : events[position]? =
      some ⟨blockNumber, .validatorList messageId proposalId hostAddresses threshold⟩)
    (stored : (outcomes events)[position]? ≠ some .rejected) :
    (store (events.take (position + 1))).load .validatorsListMessages messageId.text =
      some (Rule.resolvedList blockNumber messageId proposalId hostAddresses threshold
        (store (events.take position))) := by
  rw [ne_eq, list_rejected_at_iff events position blockNumber messageId proposalId hostAddresses
    threshold present, Bool.not_eq_false] at stored
  rw [List.take_add_one, present, Option.toList_some, store_append_one]
  exact load_list_of_resolved blockNumber messageId proposalId hostAddresses threshold _ stored

theorem list_rejected_iff_registrations (events : List Event) (position blockNumber : Nat)
    (messageId proposalId : HexString) (hostAddresses : List HexString) (threshold : Nat)
    (present : events[position]? =
      some ⟨blockNumber, .validatorList messageId proposalId hostAddresses threshold⟩) :
    (outcomes events)[position]? = some .rejected ↔
      ∃ host ∈ hostAddresses, latestRegistration (events.take position) host = none ∨
        ∃ registration, latestRegistration (events.take position) host = some registration ∧
          registration.action = .remove := by
  rw [list_rejected_at_iff events position blockNumber messageId proposalId hostAddresses
    threshold present, ← Bool.not_eq_true, resolution_complete_iff_added]
  simp only [not_forall, exists_prop]
  refine exists_congr fun host => and_congr_right fun _ => ?_
  cases latestRegistration (events.take position) host with
  | none => simp
  | some registration => cases isAction : registration.action <;> simp [isAction]

theorem load_list_isSome_iff (events : List Event) (id : Text) :
    ((store events).load .validatorsListMessages id).isSome = true ↔
      ∃ position, ListStored events id position := by
  constructor
  · intro stored
    by_contra never
    have untouched := load_list_append [] events id fun position _ isStored =>
      never ⟨position, isStored⟩
    rw [List.nil_append] at untouched
    rw [untouched] at stored
    cases stored
  · rintro ⟨position, blockNumber, messageId, proposalId, hostAddresses, threshold, present,
      sameId, accepted⟩
    subst sameId
    have stored := load_list_stored events position blockNumber messageId proposalId hostAddresses
      threshold present accepted
    have stays := row_stays_stored (events.take (position + 1)) (events.drop (position + 1))
      (Option.isSome_of_eq_some stored)
    rw [List.take_append_drop] at stays
    exact stays

/-- The list stored last for an id is the stored one, with the guest address that each host was last
added with before. -/
theorem load_list_of_last (events : List Event) (position blockNumber : Nat)
    (messageId proposalId : HexString) (hostAddresses : List HexString) (threshold : Nat)
    (present : events[position]? =
      some ⟨blockNumber, .validatorList messageId proposalId hostAddresses threshold⟩)
    (accepted : (outcomes events)[position]? ≠ some .rejected)
    (last : ∀ later, position < later → ¬ListStored events messageId.text later) :
    ∃ guestAddresses : List HexString,
      hostAddresses.map (latestAddition (events.take position)) = guestAddresses.map some ∧
      (store events).load .validatorsListMessages messageId.text =
        some ⟨messageId.text, blockNumber, proposalId, guestAddresses, threshold⟩ := by
  have inside := (List.getElem?_eq_some_iff.mp present).1
  have kept := load_list_append (events.take (position + 1)) (events.drop (position + 1))
    messageId.text (by
      intro later after
      rw [List.length_take] at after
      rw [List.take_append_drop]
      exact last later (by omega))
  have stored := load_list_stored events position blockNumber messageId proposalId hostAddresses
    threshold present accepted
  rw [List.take_append_drop] at kept
  refine ⟨_, ?_, kept.trans stored⟩
  rw [ne_eq, list_rejected_at_iff events position blockNumber messageId proposalId hostAddresses
    threshold present, Bool.not_eq_false] at accepted
  rw [← resolution_guests _ _ accepted, List.map_map]
  apply List.map_congr_left
  intro host member
  obtain ⟨registration, latest, added⟩ :=
    (resolution_complete_iff_added _ hostAddresses).mp accepted host member
  rw [latest_addition_of_registration _ host registration latest added, Function.comp_apply,
    Store.guest?, load_candidate, latest]
  simp [Registration.row, Option.filter, added]

/-- A list of validators is rejected if and only if one of its hosts has not been added last. A list
is stored if and only if one of its id was not rejected; the last of these decides it, with the
guest address that each host was last added with before. No other event changes it. -/
theorem validator_lists_follow_registry (events : List Event) :
    (∀ position blockNumber messageId proposalId hostAddresses threshold,
      events[position]? =
        some ⟨blockNumber, .validatorList messageId proposalId hostAddresses threshold⟩ →
      ((outcomes events)[position]? = some .rejected ↔
        ∃ host ∈ hostAddresses, latestRegistration (events.take position) host = none ∨
          ∃ registration, latestRegistration (events.take position) host = some registration ∧
            registration.action = .remove)) ∧
    (∀ id, ((store events).load .validatorsListMessages id).isSome = true ↔
      ∃ position, ListStored events id position) ∧
    (∀ position blockNumber messageId proposalId hostAddresses threshold,
      events[position]? =
        some ⟨blockNumber, .validatorList messageId proposalId hostAddresses threshold⟩ →
      (outcomes events)[position]? ≠ some .rejected →
      (∀ later, position < later → ¬ListStored events messageId.text later) →
      ∃ guestAddresses : List HexString,
        hostAddresses.map (latestAddition (events.take position)) = guestAddresses.map some ∧
        (store events).load .validatorsListMessages messageId.text =
          some ⟨messageId.text, blockNumber, proposalId, guestAddresses, threshold⟩) ∧
    (∀ later id,
      (∀ position, events.length ≤ position → ¬ListStored (events ++ later) id position) →
      (store (events ++ later)).load .validatorsListMessages id =
        (store events).load .validatorsListMessages id) :=
  ⟨list_rejected_iff_registrations events, load_list_isSome_iff events, load_list_of_last events,
    load_list_append events⟩

/-- The host of the list is removed and added again before the list, and removed behind it. -/
theorem validator_lists_follow_registry_readded :
    ∃ guestAddresses : List HexString,
      [some sample, some sample] = guestAddresses.map some ∧
      (store [⟨1, .candidate .remove sample sample sample⟩,
        ⟨2, .candidate .add sample sample sample⟩,
        ⟨3, .validatorList sample sample [sample, sample] 2⟩,
        ⟨4, .candidate .remove sample sample sample⟩]).load .validatorsListMessages
          sample.text = some ⟨sample.text, 3, sample, guestAddresses, 2⟩ :=
  (validator_lists_follow_registry [⟨1, .candidate .remove sample sample sample⟩,
      ⟨2, .candidate .add sample sample sample⟩,
      ⟨3, .validatorList sample sample [sample, sample] 2⟩,
      ⟨4, .candidate .remove sample sample sample⟩]).2.2.1 2 3 sample sample [sample, sample] 2
    rfl (by decide +kernel) (by
      rintro later after ⟨_, _, _, _, _, isList, _⟩
      match later with
      | 3 => simp at isList
      | later + 4 => simp at isList)

end History

end BridgeState
