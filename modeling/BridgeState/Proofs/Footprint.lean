import BridgeState.Proofs.Unchanged
import Mathlib.Data.Set.BooleanAlgebra
import Mathlib.Data.Set.Insert
import Mathlib.Order.CompletePartialOrder

/-!
# Independent events

The footprint of an event is the set of places that it may load or save a row at. A script that
stays within a set of places touches no row outside it, and what it gives depends on no row outside
it either. So two events of disjoint footprints do not notice each other: in either order they leave
the same store, have the same outcomes and are told of by the same diagnostics.
-/

namespace BridgeState

set_option autoImplicit false

def EventBody.footprint : EventBody → Set Place
  | .transfer _ created => {⟨.messages, created.messageId.text⟩}
  | .status _ messageId => {⟨.messages, messageId.text⟩}
  | .control _ messageId => {⟨.bridgeMessages, messageId.text⟩}
  | .account _ _ messageId address _ =>
    {⟨.accountMessages, messageId.text⟩, ⟨.accounts, address.text⟩}
  | .limits _ => {place | place.collection = .limitMessages ∨ place.collection = .limits}
  | .limitProposal proposalId _ _ => {⟨.limitProposals, proposalId.text⟩}
  | .limitApproval proposalId => {⟨.limitProposals, proposalId.text⟩}
  | .candidate _ messageId hostAddress _ =>
    {⟨.candidateValidatorMessages, messageId.text⟩, ⟨.candidateValidators, hostAddress.text⟩}
  | .listProposal proposalId _ => {⟨.candidatesValidatorsProposals, proposalId.text⟩}
  | .validatorList messageId proposalId hostAddresses _ =>
    {place | (∃ host ∈ hostAddresses, place = ⟨.candidateValidators, host.text⟩) ∨
      place = ⟨.validatorsListMessages, messageId.text⟩ ∨
      place = ⟨.candidatesValidatorsProposals, proposalId.text⟩}

def Store.AgreeOn (places : Set Place) (one other : Store) : Prop :=
  ∀ place ∈ places, one.rowAt place = other.rowAt place

theorem Store.AgreeOn.save {places : Set Place} {one other : Store}
    (agree : one.AgreeOn places other) (row : AnyRow) :
    (one.save row.collection row.row).AgreeOn places (other.save row.collection row.row) := by
  intro here inside
  by_cases saved : here = ⟨row.collection, Record.id row.row⟩
  · subst saved
    simp only [Store.rowAt, Store.load_save, if_true]
  · rw [Store.row_at_save_ne row one here saved, Store.row_at_save_ne row other here saved]
    exact agree here inside

namespace Script

variable {α β : Type}

/-- Whatever rows the script finds, it loads and saves at these places only. A row that it finds has
the id that it asked for. -/
def Within (places : Set Place) : Script α → Prop
  | .done _ => True
  | .load collection id next =>
    ⟨collection, id⟩ ∈ places ∧ ∀ row : Option collection.Row,
      (∀ found, row = some found → Record.id found = id) → Within places (next row)
  | .save collection row next => ⟨collection, Record.id row⟩ ∈ places ∧ Within places next
  | .report _ next => Within places next

theorem Within.bind {places : Set Place} {script : Script α} {next : α → Script β}
    (early : script.Within places) (late : ∀ value, (next value).Within places) :
    (script >>= next).Within places := by
  rw [do_eq_bind]
  induction script with
  | done value => exact late value
  | load collection id more ih => exact ⟨early.1, fun row known => ih row (early.2 row known)⟩
  | save collection row more ih => exact ⟨early.1, ih early.2⟩
  | report diagnostic more ih => exact ih early

/-- A script leaves the rows outside its places alone. -/
theorem row_at_run_outside {places : Set Place} (script : Script α) (store : Store)
    (within : script.Within places) (here : Place) (outside : here ∉ places) :
    (script.run store).store.rowAt here = store.rowAt here := by
  induction script generalizing store with
  | done value => rfl
  | load collection id next ih => exact ih _ store (within.2 _ fun _ => Store.id_of_load)
  | save collection row next ih =>
      have apart : here ≠ ⟨collection, Record.id row⟩ := fun same => outside (same ▸ within.1)
      exact (ih _ within.2).trans (Store.row_at_save_ne ⟨collection, row⟩ store here apart)
  | report diagnostic next ih => exact ih store within

/-- What a script gives, and the rows that it leaves at its places, depend on the rows at its places
alone. -/
theorem run_agree {places : Set Place} (script : Script α) (one other : Store)
    (within : script.Within places) (agree : one.AgreeOn places other) :
    (script.run one).value = (script.run other).value ∧
      (script.run one).diagnostics = (script.run other).diagnostics ∧
      (script.run one).store.AgreeOn places (script.run other).store := by
  induction script generalizing one other with
  | done value => exact ⟨rfl, rfl, agree⟩
  | load collection id next ih =>
      have sameRow : one.load collection id = other.load collection id :=
        agree ⟨collection, id⟩ within.1
      simp only [run, sameRow]
      exact ih _ one other (within.2 _ fun _ => Store.id_of_load) agree
  | save collection row next ih => exact ih _ _ within.2 (agree.save ⟨collection, row⟩)
  | report diagnostic next ih =>
      obtain ⟨value, diagnostics, stores⟩ := ih one other within agree
      exact ⟨value, congrArg (List.cons diagnostic) diagnostics, stores⟩

end Script

section Rules

variable {places : Set Place}

theorem create_once_within (collection : Collection) (row : collection.Row)
    (inside : ⟨collection, Record.id row⟩ ∈ places) :
    (createOnce collection row).Within places := by
  refine ⟨inside, fun old _ => ?_⟩
  cases old with
  | none => exact ⟨inside, trivial⟩
  | some old => exact trivial

/-- The rules that keep an audit record and set a present state. -/
theorem projection_within (audited projected : Collection) (audit : audited.Row)
    (state : projected.Row) (auditInside : ⟨audited, Record.id audit⟩ ∈ places)
    (stateInside : ⟨projected, Record.id state⟩ ∈ places)
    (outcome : Outcome → Option projected.Row → Outcome) :
    (createOnce audited audit >>= fun audit =>
      Script.loaded projected (Record.id state) >>= fun existing =>
        Script.saving projected state >>= fun _ => pure (outcome audit existing)).Within
      places :=
  (create_once_within audited audit auditInside).bind fun _ =>
    ⟨stateInside, fun _ _ => ⟨stateInside, trivial⟩⟩

theorem status_within (blockNumber : Nat) (change : StatusEvent) (messageId : HexString)
    (inside : ⟨.messages, messageId.text⟩ ∈ places) :
    (Rule.status blockNumber change messageId).Within places := by
  refine ⟨inside, fun row known => ?_⟩
  cases row with
  | none => exact trivial
  | some message =>
      simp only [Script.bind]
      split
      · exact trivial
      · split
        · exact trivial
        · have sameId : message.id = messageId.text := known message rfl
          exact ⟨sameId ▸ inside, trivial⟩

theorem limit_approval_within (blockNumber : Nat) (proposalId : HexString)
    (inside : ⟨.limitProposals, proposalId.text⟩ ∈ places) :
    (Rule.limitApproval blockNumber proposalId).Within places := by
  refine ⟨inside, fun row known => ?_⟩
  cases row with
  | none => exact trivial
  | some proposal =>
      simp only [Script.bind]
      split
      · exact trivial
      · have sameId : proposal.id = proposalId.text := known proposal rfl
        exact ⟨sameId ▸ inside, trivial⟩

theorem save_limits_within (blockNumber : Nat) (values : LimitValues) (kinds : List LimitKind)
    (inside : ∀ id, ⟨.limits, id⟩ ∈ places) :
    (Rule.saveLimits blockNumber values kinds).Within places := by
  induction kinds with
  | nil => exact trivial
  | cons kind rest ih => exact ⟨inside _, ih⟩

theorem resolve_within (addresses : List String)
    (inside : ∀ address ∈ addresses, ⟨.candidateValidators, Text.ofString address⟩ ∈ places) :
    (Rule.resolve addresses).Within places := by
  induction addresses with
  | nil => exact trivial
  | cons address rest ih =>
      refine ⟨inside address List.mem_cons_self, fun candidate _ => ?_⟩
      exact (ih fun other member => inside other (List.mem_cons_of_mem _ member)).bind
        fun _ => trivial

theorem approve_list_proposal_within (blockNumber : Nat) (messageId proposalId : HexString)
    (outcome : Outcome) (inside : ⟨.candidatesValidatorsProposals, proposalId.text⟩ ∈ places) :
    (Rule.approveListProposal blockNumber messageId proposalId outcome).Within places := by
  refine ⟨inside, fun row known => ?_⟩
  cases row with
  | none => exact trivial
  | some proposal =>
      simp only [Script.bind]
      split
      · exact trivial
      · have sameId : proposal.id = proposalId.text := known proposal rfl
        exact ⟨sameId ▸ inside, trivial⟩

end Rules

/-- Every event loads and saves within its footprint. -/
theorem script_within (event : Event) : event.script.Within event.body.footprint := by
  obtain ⟨blockNumber, body⟩ := event
  cases body with
  | transfer direction transfer => exact create_once_within _ _ rfl
  | status change messageId => exact status_within blockNumber change messageId rfl
  | control change messageId => exact create_once_within _ _ rfl
  | account chain action messageId address timestamp =>
      exact projection_within .accountMessages .accounts _ _ (Or.inl rfl) (Or.inr rfl) _
  | limits values =>
      refine ⟨Or.inl rfl, fun existing _ => ⟨Or.inl rfl, ?_⟩⟩
      refine (save_limits_within blockNumber values Named.all fun _ => Or.inr rfl).bind fun _ => ?_
      cases existing <;> exact trivial
  | limitProposal proposalId sender values => exact create_once_within _ _ rfl
  | limitApproval proposalId => exact limit_approval_within blockNumber proposalId rfl
  | candidate action messageId hostAddress guestAddress =>
      exact projection_within .candidateValidatorMessages .candidateValidators _ _ (Or.inl rfl)
        (Or.inr rfl) _
  | listProposal proposalId hostAddresses => exact create_once_within _ _ rfl
  | validatorList messageId proposalId hostAddresses threshold =>
      have hosts : (Rule.resolve (hostAddresses.map HexString.text)).Within
          (EventBody.validatorList messageId proposalId hostAddresses threshold).footprint := by
        apply resolve_within
        intro address member
        obtain ⟨host, listed, isHost⟩ := List.mem_map.mp member
        exact Or.inl ⟨host, listed, by rw [isHost]⟩
      refine hosts.bind fun resolution => ?_
      split
      · refine ⟨Or.inr (Or.inl rfl), fun existing _ => ⟨Or.inr (Or.inl rfl), ?_⟩⟩
        exact approve_list_proposal_within blockNumber messageId proposalId _ (Or.inr (Or.inr rfl))
      · exact trivial

theorem row_at_apply_outside (event : Event) (store : Store) (here : Place)
    (outside : here ∉ event.body.footprint) :
    (event.apply store).store.rowAt here = store.rowAt here :=
  event.script.row_at_run_outside store (script_within event) here outside

/-- An event finds its footprint as it was behind an event of another footprint. -/
theorem agree_behind_independent (one other : Event) (store : Store)
    (apart : Disjoint one.body.footprint other.body.footprint) :
    (other.apply store).store.AgreeOn one.body.footprint store := by
  intro here inside
  exact row_at_apply_outside other store here (Set.disjoint_left.mp apart inside)

theorem row_at_apply_comm (one other : Event) (store : Store) (here : Place)
    (apart : Disjoint one.body.footprint other.body.footprint)
    (outside : here ∉ other.body.footprint) :
    (other.apply (one.apply store).store).store.rowAt here =
      (one.apply (other.apply store).store).store.rowAt here := by
  rw [row_at_apply_outside other _ here outside]
  by_cases inside : here ∈ one.body.footprint
  · obtain ⟨_, _, rows⟩ := one.script.run_agree _ _ (script_within one)
      (agree_behind_independent one other store apart)
    exact (rows here inside).symm
  · rw [row_at_apply_outside one _ here inside, row_at_apply_outside one _ here inside,
      row_at_apply_outside other _ here outside]

theorem store_apply_comm (one other : Event) (store : Store)
    (apart : Disjoint one.body.footprint other.body.footprint) :
    (other.apply (one.apply store).store).store = (one.apply (other.apply store).store).store := by
  apply Store.ext_row_at
  intro here
  by_cases inOther : here ∈ other.body.footprint
  · have notInOne : here ∉ one.body.footprint := Set.disjoint_right.mp apart inOther
    exact (row_at_apply_comm other one store here apart.symm notInOne).symm
  · exact row_at_apply_comm one other store here apart inOther

namespace Engine

theorem gives_behind_independent (one other : Event) (engine : Engine Store)
    (apart : Disjoint one.body.footprint other.body.footprint) :
    (engine.apply other).2.Gives one (one.apply engine.state).value
      (one.apply engine.state).diagnostics := by
  have gives := gives_apply one (engine.apply other).2
  rw [(apply_in_memory other engine).2] at gives
  obtain ⟨value, diagnostics, _⟩ := one.script.run_agree _ _ (script_within one)
    (agree_behind_independent one other engine.state apart)
  simp only [Event.apply] at gives value diagnostics ⊢
  rwa [value, diagnostics] at gives

/-- Events of disjoint footprints leave, in either order, stores that answer every question in the
same way, and each of them has the same outcome and is told of by the same diagnostics. -/
theorem independent_events_commute (one other : Event) (engine : Engine Store)
    (apart : Disjoint one.body.footprint other.body.footprint) :
    ((engine.apply one).2.apply other).2.state.SameReads
        ((engine.apply other).2.apply one).2.state ∧
      ∃ outcome told otherOutcome otherTold,
        engine.Gives one outcome told ∧ (engine.apply other).2.Gives one outcome told ∧
          engine.Gives other otherOutcome otherTold ∧
          (engine.apply one).2.Gives other otherOutcome otherTold := by
  constructor
  · rw [Store.same_reads_iff]
    simp only [(apply_in_memory _ _).2]
    exact store_apply_comm one other engine.state apart
  · exact ⟨_, _, _, _, gives_apply one engine, gives_behind_independent one other engine apart,
      gives_apply other engine, gives_behind_independent other one engine apart.symm⟩

def withTwoHosts : Engine Store :=
  (History.run [⟨1, .candidate .add .sample .sample .sample⟩,
    ⟨2, .candidate .add .sampleOther .sampleOther .sample⟩]).2

/-- One host is removed and a list of the other is stored. -/
theorem independent_events_commute_registry :
    Disjoint (EventBody.candidate .remove .sample .sample .sample).footprint
        (EventBody.validatorList .sample .sample [.sampleOther] 1).footprint ∧
      ((withTwoHosts.apply ⟨3, .candidate .remove .sample .sample .sample⟩).2.apply
          ⟨4, .validatorList .sample .sample [.sampleOther] 1⟩).2.state.SameReads
        ((withTwoHosts.apply ⟨4, .validatorList .sample .sample [.sampleOther] 1⟩).2.apply
          ⟨3, .candidate .remove .sample .sample .sample⟩).2.state ∧
      ∃ outcome told otherOutcome otherTold,
        withTwoHosts.Gives ⟨3, .candidate .remove .sample .sample .sample⟩ outcome told ∧
          (withTwoHosts.apply ⟨4, .validatorList .sample .sample [.sampleOther] 1⟩).2.Gives
            ⟨3, .candidate .remove .sample .sample .sample⟩ outcome told ∧
          withTwoHosts.Gives ⟨4, .validatorList .sample .sample [.sampleOther] 1⟩ otherOutcome
            otherTold ∧
          (withTwoHosts.apply ⟨3, .candidate .remove .sample .sample .sample⟩).2.Gives
            ⟨4, .validatorList .sample .sample [.sampleOther] 1⟩ otherOutcome otherTold := by
  have apart : Disjoint (EventBody.candidate .remove .sample .sample .sample).footprint
      (EventBody.validatorList .sample .sample [.sampleOther] 1).footprint := by
    rw [Set.disjoint_left]
    rintro here (rfl | rfl)
    · simp [EventBody.footprint]
    · simp [EventBody.footprint, HexString.sample, HexString.sampleOther]
  exact ⟨apart, independent_events_commute ⟨3, .candidate .remove .sample .sample .sample⟩
    ⟨4, .validatorList .sample .sample [.sampleOther] 1⟩ withTwoHosts apart⟩

end Engine

end BridgeState
