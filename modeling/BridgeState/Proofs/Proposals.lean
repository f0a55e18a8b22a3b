import BridgeState.Proofs.ValidatorLists

/-!
# Proposals and their approval

A proposal is stored pending by the first event that creates it and keeps the data of that event. A
proposal of limits is approved by an approval that comes behind its creation, a proposal of
validators by a list that names it, comes behind its creation and is not rejected. Nothing else
approves it, and nothing takes the approval back.
-/

namespace BridgeState

set_option autoImplicit false

/-- How the proposals of a collection are created and approved. No event has another effect on
them. -/
structure ProposalRule (collection : Collection) where
  proposal? : Event → Option collection.Row
  approval? : Event → Store → Option Text
  approval : Change collection
  own : ∀ event store, event.effectsOn collection store =
    match proposal? event with
    | some row => [.first collection row]
    | none => ((approval? event store).map fun id => .alter collection id approval).toList

namespace ProposalRule

open History

variable {collection : Collection} (rule : ProposalRule collection)

def Approves (id : Text) (event : Event) (store : Store) : Prop :=
  rule.proposal? event = none ∧ rule.approval? event store = some id

section Step

variable {event : Event} {store : Store} {id : Text}

theorem load_apply_proposed {row : collection.Row} (proposes : rule.proposal? event = some row) :
    (event.apply store).store.load collection id =
      (store.load collection id).or ((some row).filter fun row => Record.id row = id) := by
  apply load_apply_own_first
  rw [rule.own, proposes]

theorem load_apply_approved (approves : rule.Approves id event store) :
    (event.apply store).store.load collection id =
      (store.load collection id).map rule.approval.result := by
  have own : event.effectsOn collection store = [.alter collection id rule.approval] := by
    rw [rule.own, approves.1, approves.2]
    rfl
  rw [load_apply_own_alter own, if_pos rfl]

theorem load_apply_other (noProposal : rule.proposal? event = none)
    (other : ¬rule.Approves id event store) :
    (event.apply store).store.load collection id = store.load collection id := by
  have own := rule.own event store
  rw [noProposal] at own
  cases approval : rule.approval? event store with
  | none =>
      rw [approval] at own
      exact load_apply_beside own id (by simp)
  | some target =>
      rw [approval] at own
      have apart : target ≠ id := by
        intro same
        exact other ⟨noProposal, same ▸ approval⟩
      rw [load_apply_own_alter own, if_neg apart]

/-- A stored proposal is left alone by every event but an approval of it. -/
theorem load_apply_kept {row : collection.Row} (found : store.load collection id = some row)
    (other : ¬rule.Approves id event store) :
    (event.apply store).store.load collection id = some row := by
  cases proposal : rule.proposal? event with
  | none => rw [rule.load_apply_other proposal other, found]
  | some new =>
      rw [rule.load_apply_proposed proposal, found]
      rfl

/-- Where no proposal is stored, an event leaves one if and only if it creates it. -/
theorem load_apply_absent (absent : store.load collection id = none) (row : collection.Row) :
    (event.apply store).store.load collection id = some row ↔
      rule.proposal? event = some row ∧ Record.id row = id := by
  cases proposal : rule.proposal? event with
  | some new =>
      rw [rule.load_apply_proposed proposal, absent, Option.none_or, Option.filter_eq_some_iff]
      simp
  | none =>
      refine iff_of_false ?_ (by simp)
      by_cases approves : rule.Approves id event store
      · rw [rule.load_apply_approved approves, absent]
        simp
      · rw [rule.load_apply_other proposal approves, absent]
        simp

end Step

/-- Behind the earlier events, one of the later events approves the proposal. -/
def ApprovedIn (earlier later : List Event) (id : Text) : Prop :=
  ∃ before event after, later = before ++ event :: after ∧
    rule.Approves id event (store (earlier ++ before))

theorem not_approved_in_nil (earlier : List Event) (id : Text) :
    ¬rule.ApprovedIn earlier [] id := by
  rintro ⟨before, event, after, split, _⟩
  simp at split

theorem approved_in_append_one (earlier later : List Event) (event : Event) (id : Text) :
    rule.ApprovedIn earlier (later ++ [event]) id ↔
      rule.ApprovedIn earlier later id ∨ rule.Approves id event (store (earlier ++ later)) := by
  constructor
  · rintro ⟨before, cause, after, split, approves⟩
    rcases List.eq_nil_or_concat after with isLast | ⟨middle, last, isBefore⟩
    · subst isLast
      obtain ⟨sameBefore, sameEvent⟩ := List.append_inj' split rfl
      cases sameEvent
      exact Or.inr (sameBefore ▸ approves)
    · subst isBefore
      rw [List.concat_eq_append, ← List.cons_append, ← List.append_assoc] at split
      obtain ⟨sameBefore, _⟩ := List.append_inj' split rfl
      exact Or.inl ⟨before, cause, middle, sameBefore, approves⟩
  · rintro (⟨before, cause, after, split, approves⟩ | approves)
    · exact ⟨before, cause, after ++ [event], by simp [split], approves⟩
    · exact ⟨later, event, [], rfl, approves⟩

/-- A stored proposal is approved by the events behind it if and only if one of them approves it,
and stays as it is if none does. -/
theorem load_since (earlier later : List Event) (id : Text) (row : collection.Row)
    (found : (store earlier).load collection id = some row) :
    (rule.ApprovedIn earlier later id →
      (store (earlier ++ later)).load collection id = some (rule.approval.result row)) ∧
    (¬rule.ApprovedIn earlier later id →
      (store (earlier ++ later)).load collection id = some row) := by
  induction later using List.reverseRecOn with
  | nil =>
      rw [List.append_nil]
      exact ⟨fun approved => absurd approved (rule.not_approved_in_nil earlier id), fun _ => found⟩
  | append_singleton later event ih =>
      obtain ⟨ifApproved, ifNot⟩ := ih
      rw [approved_in_append_one, ← List.append_assoc, store_append_one]
      by_cases approves : rule.Approves id event (store (earlier ++ later))
      · refine ⟨fun _ => ?_, fun never => absurd (Or.inr approves) never⟩
        rw [rule.load_apply_approved approves]
        by_cases before : rule.ApprovedIn earlier later id
        · rw [ifApproved before, Option.map_some, rule.approval.result_result]
        · rw [ifNot before, Option.map_some]
      · refine ⟨fun approved => ?_, fun never => ?_⟩
        · exact rule.load_apply_kept (ifApproved (approved.resolve_right approves)) approves
        · exact rule.load_apply_kept (ifNot fun before => never (Or.inl before)) approves

theorem approved_stays (earlier later : List Event) (id : Text) (row : collection.Row)
    (found : (store earlier).load collection id = some row)
    (approved : rule.approval.result row = row) :
    (store (earlier ++ later)).load collection id = some row := by
  obtain ⟨ifApproved, ifNot⟩ := rule.load_since earlier later id row found
  by_cases again : rule.ApprovedIn earlier later id
  · rw [ifApproved again, approved]
  · exact ifNot again

theorem stored_iff_proposed (events : List Event) (id : Text) :
    ((store events).load collection id).isSome = true ↔
      ∃ event ∈ events, ∃ row, rule.proposal? event = some row ∧ Record.id row = id := by
  induction events using List.reverseRecOn with
  | nil => exact iff_of_false (by simp [load_nil]) (by simp)
  | append_singleton events event ih =>
      simp only [List.mem_append, List.mem_singleton, or_and_right, exists_or, exists_eq_left, ← ih]
      rw [store_append_one]
      cases found : (store events).load collection id with
      | none =>
          rw [Option.isSome_iff_exists]
          simp only [rule.load_apply_absent found, Option.isSome_none, Bool.false_eq_true, false_or]
      | some row =>
          refine iff_of_true ?_ (Or.inl rfl)
          exact row_stays event _ collection id (Option.isSome_of_eq_some found)

/-- The first event that creates a proposal decides all of it but its status. -/
theorem load_since_first (earlier later : List Event) (event : Event) (row : collection.Row)
    (proposes : rule.proposal? event = some row)
    (first : ∀ other ∈ earlier, ∀ before, rule.proposal? other = some before →
      Record.id before ≠ Record.id row)
    (withStatus : ProposalStatus → collection.Row) (pending : withStatus .pending = row)
    (approved : withStatus .approved = rule.approval.result row) :
    ∃ status, (store (earlier ++ event :: later)).load collection (Record.id row) =
        some (withStatus status) ∧
      (status = .approved ↔ rule.ApprovedIn (earlier ++ [event]) later (Record.id row)) := by
  have absent : (store earlier).load collection (Record.id row) = none := by
    rw [← Option.not_isSome_iff_eq_none, rule.stored_iff_proposed]
    rintro ⟨other, member, before, isBefore, sameId⟩
    exact first other member before isBefore sameId
  have created : (store (earlier ++ [event])).load collection (Record.id row) = some row := by
    rw [store_append_one, rule.load_apply_absent absent]
    exact ⟨proposes, rfl⟩
  obtain ⟨ifApproved, ifNot⟩ :=
    rule.load_since (earlier ++ [event]) later (Record.id row) row created
  rw [List.append_assoc, List.singleton_append] at ifApproved ifNot
  by_cases behind : rule.ApprovedIn (earlier ++ [event]) later (Record.id row)
  · exact ⟨.approved, by rw [approved, ifApproved behind], iff_of_true rfl behind⟩
  · exact ⟨.pending, by rw [pending, ifNot behind], iff_of_false (by simp) behind⟩

/-- A stored proposal that no event creates as it is has been approved. -/
theorem approved_in_of_altered (events : List Event) (id : Text) (row : collection.Row)
    (found : (store events).load collection id = some row)
    (altered : ∀ event, rule.proposal? event ≠ some row) : rule.ApprovedIn [] events id := by
  induction events using List.reverseRecOn with
  | nil => exact absurd found (by simp [load_nil])
  | append_singleton events event ih =>
      rw [approved_in_append_one, List.nil_append]
      rw [store_append_one] at found
      by_cases approves : rule.Approves id event (store events)
      · exact Or.inr approves
      · cases before : (store events).load collection id with
        | none => exact absurd ((rule.load_apply_absent before row).mp found).1 (altered event)
        | some old =>
            have kept := (rule.load_apply_kept before approves).symm.trans found
            exact Or.inl (ih (before.trans kept))

end ProposalRule

def Event.limitProposal? (event : Event) : Option LimitProposal :=
  match event.body with
  | .limitProposal proposalId sender values => some
    { id := proposalId.text
      blockNumber := event.blockNumber
      values
      proposerAddress := sender
      status := .pending }
  | _ => none

def Event.listProposal? (event : Event) : Option CandidatesValidatorsProposal :=
  match event.body with
  | .listProposal proposalId hostAddresses => some
    { id := proposalId.text, blockNumber := event.blockNumber, status := .pending, hostAddresses }
  | _ => none

theorem limit_proposal_pending (event : Event) (proposal : LimitProposal)
    (proposes : event.limitProposal? = some proposal) : proposal.status = .pending := by
  obtain ⟨blockNumber, body⟩ := event
  cases body <;> cases proposes
  rfl

theorem list_proposal_pending (event : Event) (proposal : CandidatesValidatorsProposal)
    (proposes : event.listProposal? = some proposal) : proposal.status = .pending := by
  obtain ⟨blockNumber, body⟩ := event
  cases body <;> cases proposes
  rfl

def limitRule : ProposalRule .limitProposals where
  proposal? := Event.limitProposal?
  approval? event _ :=
    match event.body with
    | .limitApproval proposalId => some proposalId.text
    | _ => none
  approval := .approveLimits
  own event store := by
    obtain ⟨blockNumber, body⟩ := event
    cases body with
    | limitProposal proposalId sender values => rfl
    | limitApproval proposalId => rfl
    | _ => exact effects_on_untouched _ store _ (by simp [EventBody.touched])

def listRule : ProposalRule .candidatesValidatorsProposals where
  proposal? := Event.listProposal?
  approval? event store :=
    match event.body with
    | .validatorList _ proposalId _ _ =>
      if (event.apply store).value = .rejected then none else some proposalId.text
    | _ => none
  approval := .approveList
  own event store := by
    obtain ⟨blockNumber, body⟩ := event
    cases body with
    | listProposal proposalId hostAddresses => rfl
    | validatorList messageId proposalId hostAddresses threshold =>
        simp only [list_rejected_iff]
        cases complete : (store.resolution (hostAddresses.map HexString.text)).complete with
        | true => simp [Event.listProposal?, Event.effectsOn, Event.effects, complete, Effect.place]
        | false => simp [Event.listProposal?, Event.effectsOn, Event.effects, complete]
    | _ => exact effects_on_untouched _ store _ (by simp [EventBody.touched])

section Approvals

variable (id : Text) (event : Event) (store : Store)

theorem limit_approves_iff : limitRule.Approves id event store ↔
    ∃ proposalId, event.body = .limitApproval proposalId ∧ (proposalId.text : Text) = id := by
  obtain ⟨blockNumber, body⟩ := event
  cases body <;> simp [ProposalRule.Approves, limitRule, Event.limitProposal?]

theorem list_approves_iff : listRule.Approves id event store ↔
    (event.apply store).value ≠ .rejected ∧ ∃ messageId proposalId hostAddresses threshold,
      event.body = .validatorList messageId proposalId hostAddresses threshold ∧
      (proposalId.text : Text) = id := by
  obtain ⟨blockNumber, body⟩ := event
  cases body with
  | validatorList messageId proposalId hostAddresses threshold =>
      simp [ProposalRule.Approves, listRule, Event.listProposal?]
  | _ => simp [ProposalRule.Approves, listRule, Event.listProposal?]

end Approvals

namespace History

open HexString

theorem limit_approved_in_iff (earlier later : List Event) (id : Text) :
    limitRule.ApprovedIn earlier later id ↔ ∃ event ∈ later, ∃ proposalId,
      event.body = .limitApproval proposalId ∧ (proposalId.text : Text) = id := by
  simp only [ProposalRule.ApprovedIn, limit_approves_iff]
  constructor
  · rintro ⟨before, event, after, split, approves⟩
    exact ⟨event, by simp [split], approves⟩
  · rintro ⟨event, member, approves⟩
    obtain ⟨before, after, split⟩ := List.append_of_mem member
    exact ⟨before, event, after, split, approves⟩

/-- At that position of the history a list that names the proposal is not rejected. -/
def ListAccepted (events : List Event) (messageId proposalId : HexString) (position : Nat) : Prop :=
  ∃ blockNumber hostAddresses threshold,
    events[position]? =
      some ⟨blockNumber, .validatorList messageId proposalId hostAddresses threshold⟩ ∧
    (outcomes events)[position]? ≠ some .rejected

theorem list_approved_in_iff (earlier later : List Event) (id : Text) :
    listRule.ApprovedIn earlier later id ↔ ∃ position messageId proposalId,
      earlier.length ≤ position ∧ ListAccepted (earlier ++ later) messageId proposalId position ∧
      (proposalId.text : Text) = id := by
  simp only [ProposalRule.ApprovedIn, list_approves_iff]
  constructor
  · rintro ⟨before, event, after, split, accepted, messageId, proposalId, hostAddresses, threshold,
      isList, sameId⟩
    have regroup : earlier ++ later = (earlier ++ before) ++ event :: after := by
      rw [split, List.append_assoc]
    refine ⟨(earlier ++ before).length, messageId, proposalId, by simp, ?_, sameId⟩
    refine ⟨event.blockNumber, hostAddresses, threshold, ?_, ?_⟩
    · rw [regroup, List.getElem?_append_right (Nat.le_refl _), Nat.sub_self, ← isList]
      rfl
    · rw [regroup, outcome_at]
      simpa using accepted
  · rintro ⟨position, messageId, proposalId, behind,
      ⟨blockNumber, hostAddresses, threshold, present, accepted⟩, sameId⟩
    rw [outcome_at_position _ position _ present] at accepted
    have sameBefore : (earlier ++ later).take position =
        earlier ++ later.take (position - earlier.length) := by
      rw [List.take_append, List.take_of_length_le behind]
    rw [List.getElem?_append_right behind] at present
    obtain ⟨split, _⟩ := split_at_position present
    refine ⟨_, _, _, split, ?_, messageId, proposalId, hostAddresses, threshold, rfl, sameId⟩
    rw [← sameBefore]
    exact fun rejected => accepted (congrArg some rejected)

theorem limit_proposal_since_first (earlier later : List Event) (event : Event)
    (proposal : LimitProposal) (proposes : event.limitProposal? = some proposal)
    (first : ∀ other ∈ earlier, ∀ before, other.limitProposal? = some before →
      before.id ≠ proposal.id) :
    ∃ status, (store (earlier ++ event :: later)).load .limitProposals proposal.id =
        some { proposal with status } ∧
      (status = .approved ↔ ∃ approval ∈ later, ∃ proposalId,
        approval.body = .limitApproval proposalId ∧ (proposalId.text : Text) = proposal.id) := by
  have pending : { proposal with status := .pending } = proposal := by
    rw [← limit_proposal_pending event proposal proposes]
  obtain ⟨status, stored, approved⟩ := limitRule.load_since_first earlier later event proposal
    proposes first (fun status => { proposal with status }) pending rfl
  exact ⟨status, stored, approved.trans (limit_approved_in_iff _ later proposal.id)⟩

theorem list_proposal_since_first (earlier later : List Event) (event : Event)
    (proposal : CandidatesValidatorsProposal) (proposes : event.listProposal? = some proposal)
    (first : ∀ other ∈ earlier, ∀ before, other.listProposal? = some before →
      before.id ≠ proposal.id) :
    ∃ status, (store (earlier ++ event :: later)).load .candidatesValidatorsProposals proposal.id =
        some { proposal with status } ∧
      (status = .approved ↔ ∃ position messageId proposalId, earlier.length < position ∧
        ListAccepted (earlier ++ event :: later) messageId proposalId position ∧
        (proposalId.text : Text) = proposal.id) := by
  have pending : { proposal with status := .pending } = proposal := by
    rw [← list_proposal_pending event proposal proposes]
  obtain ⟨status, stored, approved⟩ := listRule.load_since_first earlier later event proposal
    proposes first (fun status => { proposal with status }) pending rfl
  refine ⟨status, stored, approved.trans ?_⟩
  have accepted := list_approved_in_iff (earlier ++ [event]) later proposal.id
  rwa [List.append_assoc, List.singleton_append, List.length_append, List.length_singleton]
    at accepted

/-- A proposal is stored if and only if an event creates it, and keeps the data of the first that
does. It is approved if and only if an approval of its id, or a list that names it and is not
rejected, comes behind that event, and stays so whatever comes later. -/
theorem proposals_approved_since_creation (events : List Event) :
    (∀ id, ((store events).load .limitProposals id).isSome = true ↔
      ∃ event ∈ events, ∃ proposal, event.limitProposal? = some proposal ∧ proposal.id = id) ∧
    (∀ id, ((store events).load .candidatesValidatorsProposals id).isSome = true ↔
      ∃ event ∈ events, ∃ proposal, event.listProposal? = some proposal ∧ proposal.id = id) ∧
    (∀ earlier event later proposal, events = earlier ++ event :: later →
      event.limitProposal? = some proposal →
      (∀ other ∈ earlier, ∀ before, other.limitProposal? = some before →
        before.id ≠ proposal.id) →
      ∃ status, (store events).load .limitProposals proposal.id = some { proposal with status } ∧
        (status = .approved ↔ ∃ approval ∈ later, ∃ proposalId,
          approval.body = .limitApproval proposalId ∧ (proposalId.text : Text) = proposal.id)) ∧
    (∀ earlier event later proposal, events = earlier ++ event :: later →
      event.listProposal? = some proposal →
      (∀ other ∈ earlier, ∀ before, other.listProposal? = some before →
        before.id ≠ proposal.id) →
      ∃ status, (store events).load .candidatesValidatorsProposals proposal.id =
          some { proposal with status } ∧
        (status = .approved ↔ ∃ position messageId proposalId, earlier.length < position ∧
          ListAccepted events messageId proposalId position ∧
          (proposalId.text : Text) = proposal.id)) ∧
    (∀ later id proposal, (store events).load .limitProposals id = some proposal →
      proposal.status = .approved →
      (store (events ++ later)).load .limitProposals id = some proposal) ∧
    (∀ later id proposal, (store events).load .candidatesValidatorsProposals id = some proposal →
      proposal.status = .approved →
      (store (events ++ later)).load .candidatesValidatorsProposals id = some proposal) := by
  refine ⟨limitRule.stored_iff_proposed events, listRule.stored_iff_proposed events, ?_, ?_, ?_, ?_⟩
  · intro earlier event later proposal split proposes first
    subst split
    exact limit_proposal_since_first earlier later event proposal proposes first
  · intro earlier event later proposal split proposes first
    subst split
    exact list_proposal_since_first earlier later event proposal proposes first
  · intro later id proposal found approved
    exact limitRule.approved_stays events later id proposal found (by
      simp [limitRule, Change.approveLimits, ← approved])
  · intro later id proposal found approved
    exact listRule.approved_stays events later id proposal found (by
      simp [listRule, Change.approveList, ← approved])

/-- A list names the proposal before its creation, one behind it approves it, and neither a second
creation nor a rejected list changes it. -/
theorem proposals_approved_since_creation_named_before :
    (store ([⟨1, .validatorList sampleOther sample [] 0⟩] ++ ⟨2, .listProposal sample []⟩ ::
        [⟨3, .validatorList sample sample [] 0⟩, ⟨4, .listProposal sample [sample]⟩,
          ⟨5, .validatorList sample sample [sample] 1⟩])).load .candidatesValidatorsProposals
      sample.text = some ⟨sample.text, 2, .approved, []⟩ := by
  obtain ⟨_, _, _, since, _⟩ := proposals_approved_since_creation
    ([⟨1, .validatorList sampleOther sample [] 0⟩] ++ ⟨2, .listProposal sample []⟩ ::
        [⟨3, .validatorList sample sample [] 0⟩, ⟨4, .listProposal sample [sample]⟩,
          ⟨5, .validatorList sample sample [sample] 1⟩])
  obtain ⟨status, stored, approved⟩ := since [⟨1, .validatorList sampleOther sample [] 0⟩] _ _ _ rfl
    rfl (by simp [Event.listProposal?])
  have accepted : status = .approved := approved.mpr
    ⟨2, sample, sample, by simp, ⟨3, [], 0, rfl, by decide +kernel⟩, rfl⟩
  rw [accepted] at stored
  exact stored

end History

end BridgeState
