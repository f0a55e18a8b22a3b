import BridgeState.Proofs.Proposals
import Mathlib.Data.Nat.Find

/-!
# Lists behind approved proposals

Every approved proposal of validators was approved by a list. Lists are stored by message id and
proposals by their own, so a later list that reuses the message id for another proposal takes the
first list away and leaves the approval. A stored list names a proposal as long as one of the lists
that named it has not been replaced in this way.
-/

namespace BridgeState.History

set_option autoImplicit false

open HexString

theorem list_stored_iff (events : List Event) (id : Text) (position : Nat) :
    ListStored events id position ↔ ∃ messageId proposalId, (messageId.text : Text) = id ∧
      ListAccepted events messageId proposalId position := by
  constructor
  · rintro ⟨blockNumber, messageId, proposalId, hosts, threshold, present, sameId, accepted⟩
    exact ⟨messageId, proposalId, sameId, blockNumber, hosts, threshold, present, accepted⟩
  · rintro ⟨messageId, proposalId, sameId, blockNumber, hosts, threshold, present, accepted⟩
    exact ⟨blockNumber, messageId, proposalId, hosts, threshold, present, sameId, accepted⟩

theorem ListAccepted.same_proposal {events : List Event} {messageId one other : HexString}
    {position : Nat} (first : ListAccepted events messageId one position)
    (second : ListAccepted events messageId other position) : one = other := by
  obtain ⟨_, _, _, isOne, _⟩ := first
  obtain ⟨_, _, _, isOther, _⟩ := second
  have same := isOne.symm.trans isOther
  simp only [Option.some.injEq, Event.mk.injEq, EventBody.validatorList.injEq] at same
  exact same.2.2.1

/-- Of the lists that are stored for an id there is a last one. -/
theorem exists_last_stored (events : List Event) (id : Text) (position : Nat)
    (stored : ListStored events id position) :
    ∃ last, position ≤ last ∧ ListStored events id last ∧
      ∀ later, last < later → ¬ListStored events id later := by
  classical
  have bounded : ∀ position, ListStored events id position → position ≤ events.length := by
    rintro position ⟨_, _, _, _, _, present, _⟩
    exact Nat.le_of_lt (List.getElem?_eq_some_iff.mp present).1
  have inside := bounded position stored
  refine ⟨Nat.findGreatest (ListStored events id) events.length,
    Nat.le_findGreatest inside stored, Nat.findGreatest_spec inside stored, ?_⟩
  intro later behind isStored
  exact Nat.findGreatest_is_greatest behind (bounded later isStored) isStored

/-- The list that is accepted last for a message id is stored and names its proposal. -/
theorem list_of_last_accepted (events : List Event) (messageId proposalId : HexString)
    (position : Nat) (accepted : ListAccepted events messageId proposalId position)
    (last : ∀ later, position < later → ¬ListStored events messageId.text later) :
    ∃ list, (store events).load .validatorsListMessages messageId.text = some list ∧
      list.proposalId = proposalId := by
  obtain ⟨blockNumber, hostAddresses, threshold, present, notRejected⟩ := accepted
  obtain ⟨guestAddresses, _, stored⟩ := load_list_of_last events position blockNumber messageId
    proposalId hostAddresses threshold present notRejected last
  exact ⟨_, stored, rfl⟩

/-- A stored list names a proposal if and only if one of the lists that named it was not replaced by
a list of the same message id for another proposal. -/
theorem list_names_iff (events : List Event) (id : Text) :
    (∃ listId list, (store events).load .validatorsListMessages listId = some list ∧
      (list.proposalId.text : Text) = id) ↔
    ∃ position messageId proposalId, ListAccepted events messageId proposalId position ∧
      (proposalId.text : Text) = id ∧ ∀ later other, position < later →
        ListAccepted events messageId other later → other = proposalId := by
  constructor
  · rintro ⟨listId, list, found, names⟩
    obtain ⟨first, isStored⟩ :=
      (load_list_isSome_iff events listId).mp (Option.isSome_of_eq_some found)
    obtain ⟨position, _, storedLast, last⟩ := exists_last_stored events listId first isStored
    obtain ⟨messageId, proposalId, sameId, accepted⟩ :=
      (list_stored_iff events listId position).mp storedLast
    subst sameId
    obtain ⟨stored, isList, ofProposal⟩ :=
      list_of_last_accepted events messageId proposalId position accepted last
    have same : list = stored := Option.some.inj (found.symm.trans isList)
    refine ⟨position, messageId, proposalId, accepted, by rw [← ofProposal, ← same, names], ?_⟩
    intro later other behind acceptedLater
    exact absurd ((list_stored_iff events _ later).mpr ⟨messageId, other, rfl, acceptedLater⟩)
      (last later behind)
  · rintro ⟨position, messageId, proposalId, accepted, names, kept⟩
    obtain ⟨last, atLeast, storedLast, isLast⟩ := exists_last_stored events messageId.text position
      ((list_stored_iff events _ position).mpr ⟨messageId, proposalId, rfl, accepted⟩)
    obtain ⟨sameMessage, other, sameId, acceptedLast⟩ :=
      (list_stored_iff events _ last).mp storedLast
    rw [Text.ofString_inj, text_inj] at sameId
    subst sameId
    obtain ⟨list, isList, ofProposal⟩ :=
      list_of_last_accepted events sameMessage other last acceptedLast isLast
    -- The last list of the message id is the given one or comes behind it.
    have same : other = proposalId := by
      rcases Nat.eq_or_lt_of_le atLeast with isSame | behind
      · subst isSame
        exact acceptedLast.same_proposal accepted
      · exact kept last other behind acceptedLast
    exact ⟨_, list, isList, by rw [ofProposal, same, names]⟩

/-- An approved proposal was named by a list that was not rejected. A stored list names it still if
and only if one such list was not replaced by a list of its message id for another proposal. -/
theorem approved_proposal_backed_unless_replaced (events : List Event) (id : Text)
    (proposal : CandidatesValidatorsProposal)
    (stored : (store events).load .candidatesValidatorsProposals id = some proposal)
    (approved : proposal.status = .approved) :
    (∃ position messageId proposalId, ListAccepted events messageId proposalId position ∧
      (proposalId.text : Text) = proposal.id) ∧
    ((∃ listId list, (store events).load .validatorsListMessages listId = some list ∧
        (list.proposalId.text : Text) = proposal.id) ↔
      ∃ position messageId proposalId, ListAccepted events messageId proposalId position ∧
        (proposalId.text : Text) = proposal.id ∧ ∀ later other, position < later →
          ListAccepted events messageId other later → other = proposalId) := by
  refine ⟨?_, list_names_iff events proposal.id⟩
  have altered : ∀ event, listRule.proposal? event ≠ some proposal := by
    intro event proposes
    rw [list_proposal_pending event proposal proposes] at approved
    cases approved
  have sameId : proposal.id = id := Store.id_of_load stored
  have caused := listRule.approved_in_of_altered events id proposal stored altered
  obtain ⟨position, messageId, proposalId, _, accepted, names⟩ :=
    (list_approved_in_iff [] events id).mp caused
  exact ⟨position, messageId, proposalId, accepted, names.trans sameId.symm⟩

/-- A list that names the proposal again under the same message id replaces none of it. -/
theorem approved_proposal_backed_unless_replaced_repeated :
    ∃ listId list, (store [⟨1, .listProposal sample []⟩, ⟨2, .validatorList sample sample [] 0⟩,
        ⟨3, .validatorList sample sample [] 5⟩]).load .validatorsListMessages listId = some list ∧
      (list.proposalId.text : Text) = sample.text := by
  obtain ⟨_, backed⟩ := approved_proposal_backed_unless_replaced
    [⟨1, .listProposal sample []⟩, ⟨2, .validatorList sample sample [] 0⟩,
      ⟨3, .validatorList sample sample [] 5⟩] sample.text ⟨sample.text, 1, .approved, []⟩
    (by decide +kernel) rfl
  refine backed.mpr ⟨1, sample, sample, ⟨2, [], 0, rfl, by decide +kernel⟩, rfl, ?_⟩
  rintro later other behind ⟨_, _, _, present, _⟩
  match later with
  | 2 =>
      cases present
      rfl
  | later + 3 => simp at present

/-- The message id of the list that approved a proposal is used again for another proposal. -/
theorem approved_without_list :
    ∃ proposal, (store [⟨1, .listProposal sample []⟩, ⟨1, .validatorList sample sample [] 0⟩,
        ⟨1, .listProposal sampleOther []⟩,
        ⟨1, .validatorList sample sampleOther [] 0⟩]).load .candidatesValidatorsProposals
          sample.text = some proposal ∧
      proposal.status = .approved ∧
      ¬∃ listId list, (store [⟨1, .listProposal sample []⟩, ⟨1, .validatorList sample sample [] 0⟩,
        ⟨1, .listProposal sampleOther []⟩,
        ⟨1, .validatorList sample sampleOther [] 0⟩]).load .validatorsListMessages listId =
          some list ∧ (list.proposalId.text : Text) = proposal.id := by
  refine ⟨⟨sample.text, 1, .approved, []⟩, by decide +kernel, rfl, ?_⟩
  rintro ⟨listId, list, found, names⟩
  have inTable := ((Table.load_eq_some_iff _ _ _).mp found).1
  have others : ∀ list ∈ ((store [⟨1, .listProposal sample []⟩,
      ⟨1, .validatorList sample sample [] 0⟩, ⟨1, .listProposal sampleOther []⟩,
      ⟨1, .validatorList sample sampleOther [] 0⟩]).table .validatorsListMessages).rows,
      (list.proposalId.text : Text) ≠ sample.text := by
    decide +kernel
  exact others list inTable names

end BridgeState.History
