import BridgeState.Proofs.ValidatorLists

/-!
# Reconciliation

A list of validators is reconciled with the registry as a whole. Its offenders are the hosts that
are not candidates at present, in their order and with their repetitions. The resolution of the list
accounts for all of its hosts: it names each offender with its reason, and has a guest address for
each of the others. With an offender nothing is stored and one diagnostic names all of them; without
one the list is stored, its proposal is approved, and no other row is touched.
-/

namespace BridgeState

set_option autoImplicit false

/-- A resolution tells of every address either its guest address or what is wrong with it, and is
complete if it has as many guest addresses as there are addresses. -/
structure Resolution.Accounts (addresses : List String) (store : Store)
    (resolution : Resolution) : Prop where
  guests : resolution.guestAddresses = addresses.filterMap fun address => store.guest? address
  failures : resolution.failures =
    (store.offenders addresses).map fun address => (address, store.offence address)
  lengths : resolution.guestAddresses.length + resolution.failures.length = addresses.length
  complete_iff :
    resolution.complete = true ↔ resolution.guestAddresses.length = addresses.length

/-- A list was stored: its row is there, its proposal is approved if there is one, and every other
row is as it was. -/
structure Store.Reconciled (before after : Store) (list : ValidatorsListMessage) : Prop where
  stored : after.load .validatorsListMessages list.id = some list
  approved : after.load .candidatesValidatorsProposals list.proposalId.text =
    (before.load .candidatesValidatorsProposals list.proposalId.text).map fun proposal =>
      { proposal with status := .approved }
  kept : ∀ here : Place, here ≠ ⟨.validatorsListMessages, list.id⟩ →
    here ≠ ⟨.candidatesValidatorsProposals, list.proposalId.text⟩ →
    after.rowAt here = before.rowAt here

def Store.offences (addresses : List String) (store : Store) : String :=
  String.intercalate ", " ((store.offenders addresses).map fun address =>
    s!"{address} ({Named.name (store.offence address)})")

def Store.reconciliationFailure (blockNumber : Nat) (messageId proposalId : HexString)
    (addresses : List String) (store : Store) : Diagnostic where
  kind := .reconciliationFailed
  severity := .error
  eventKind := "ValidatorsListMessage"
  blockNumber := blockNumber
  targetId := proposalId.text
  addresses := store.offenders addresses
  message := s!"Validator list {messageId.text} for proposal {proposalId.text} not reconciled: {store.offences addresses}"

theorem resolution_lengths (addresses : List String) (store : Store) :
    (store.resolution addresses).guestAddresses.length +
      (store.resolution addresses).failures.length = addresses.length := by
  have split := List.length_eq_countP_add_countP (store.hasActive ·) (l := addresses)
  rw [resolution_eq, List.length_map, List.length_filterMap_eq_countP]
  simp only [guest_isSome, Store.offenders, ← List.countP_eq_length_filter]
  simpa using split.symm

theorem resolution_accounts (addresses : List String) (store : Store) :
    (store.resolution addresses).Accounts addresses store where
  guests := by rw [resolution_eq]
  failures := by rw [resolution_eq]
  lengths := resolution_lengths addresses store
  complete_iff := by
    have lengths := resolution_lengths addresses store
    rw [Resolution.complete, List.isEmpty_iff, ← List.length_eq_zero_iff]
    omega

/-- The rule words its diagnostic by the failures of the resolution. -/
theorem list_rejected_eq (blockNumber : Nat) (messageId proposalId : HexString)
    (addresses : List String) (store : Store) :
    Rule.listRejected blockNumber messageId proposalId (store.resolution addresses) =
      store.reconciliationFailure blockNumber messageId proposalId addresses := by
  simp only [Rule.listRejected, Store.reconciliationFailure, Store.offences,
    Resolution.failedAddresses, Resolution.details, resolution_eq, List.map_map, Function.comp_def,
    List.map_id']
  rfl

section Step

variable (blockNumber : Nat) (messageId proposalId : HexString) (hosts : List HexString)
  (threshold : Nat) (store : Store)

theorem list_does_of_offenders (offended : store.offenders (hosts.map HexString.text) ≠ []) :
    (Rule.validatorList blockNumber messageId proposalId hosts threshold).Does store .rejected []
      [store.reconciliationFailure blockNumber messageId proposalId
        (hosts.map HexString.text)] := by
  have incomplete : (store.resolution (hosts.map HexString.text)).complete = false := by
    rw [← Bool.not_eq_true, resolution_complete_iff_no_offenders]
    exact offended
  rw [← list_rejected_eq]
  exact Rule.unresolved_list_does blockNumber messageId proposalId hosts threshold store incomplete

theorem list_outcome_of_no_offenders (clean : store.offenders (hosts.map HexString.text) = []) :
    (Event.apply ⟨blockNumber, .validatorList messageId proposalId hosts threshold⟩
      store).value ∈ [Outcome.created, .updated, .unchanged] := by
  have complete := (resolution_complete_iff_no_offenders _ store).mpr clean
  have does := Rule.resolved_list_does blockNumber messageId proposalId hosts threshold store
    complete _ rfl
  have value : (Event.apply ⟨blockNumber, .validatorList messageId proposalId hosts threshold⟩
      store).value = _ := does.value_run
  rw [value]
  simpa using Outcome.of_approval_cases (store.load .validatorsListMessages messageId.text)
    (Rule.resolvedList blockNumber messageId proposalId hosts threshold store)
    (store.load .candidatesValidatorsProposals proposalId.text)

theorem reconciled_of_no_offenders (clean : store.offenders (hosts.map HexString.text) = []) :
    store.Reconciled
      (Event.apply ⟨blockNumber, .validatorList messageId proposalId hosts threshold⟩ store).store
      (Rule.resolvedList blockNumber messageId proposalId hosts threshold store) := by
  have complete := (resolution_complete_iff_no_offenders _ store).mpr clean
  have effects : Event.effects
      ⟨blockNumber, .validatorList messageId proposalId hosts threshold⟩ store =
        [.last .validatorsListMessages
          (Rule.resolvedList blockNumber messageId proposalId hosts threshold store),
         .alter .candidatesValidatorsProposals proposalId.text .approveList] := by
    simp only [Event.effects, complete, if_true]
  have approves : .alter .candidatesValidatorsProposals proposalId.text .approveList ∈
      Event.effects ⟨blockNumber, .validatorList messageId proposalId hosts threshold⟩ store := by
    rw [effects]
    exact List.mem_cons_of_mem _ List.mem_cons_self
  refine ⟨?_, load_apply_alter approves, fun here notList notProposal => ?_⟩
  · exact load_list_of_resolved blockNumber messageId proposalId hosts threshold store complete
  · apply row_at_apply_ne
    rw [effects]
    simpa using ⟨notList, notProposal⟩

end Step

namespace Engine

theorem resolve_in_memory (addresses : List String) (engine : Engine Store) :
    engine.resolve addresses = (.ok (engine.state.resolution addresses), engine) := by
  rw [resolve, perform_store, (Rule.resolve_does addresses engine.state).run]
  rfl

/-- A list is reconciled as a whole. Its resolution names every offender, in order and with
repetitions, and translates all other hosts. With an offender the list is rejected, the store stays
as it is, and one diagnostic tells all offenders with their reasons. Without one the list is stored
with the guest address of each host, its proposal is approved, and every other row stays. -/
theorem reconciliation_is_all_or_nothing (blockNumber : Nat) (messageId proposalId : HexString)
    (hosts : List HexString) (threshold : Nat) (engine : Engine Store) :
    (∃ resolution, engine.resolve (hosts.map HexString.text) = (.ok resolution, engine) ∧
      resolution.Accounts (hosts.map HexString.text) engine.state) ∧
    (engine.state.offenders (hosts.map HexString.text) ≠ [] →
      engine.Gives ⟨blockNumber, .validatorList messageId proposalId hosts threshold⟩ .rejected
        [engine.state.reconciliationFailure blockNumber messageId proposalId
          (hosts.map HexString.text)] ∧
      (engine.apply ⟨blockNumber, .validatorList messageId proposalId hosts threshold⟩).2.state =
        engine.state) ∧
    (engine.state.offenders (hosts.map HexString.text) = [] →
      ∃ outcome after guestAddresses,
        engine.apply ⟨blockNumber, .validatorList messageId proposalId hosts threshold⟩ =
          (.ok outcome, after) ∧
        outcome ∈ [Outcome.created, .updated, .unchanged] ∧
        hosts.map (fun host => engine.state.guest? host.text) = guestAddresses.map some ∧
        engine.state.Reconciled after.state
          ⟨messageId.text, blockNumber, proposalId, guestAddresses, threshold⟩) := by
  have gives := gives_apply
    ⟨blockNumber, .validatorList messageId proposalId hosts threshold⟩ engine
  have applied := apply_in_memory
    ⟨blockNumber, .validatorList messageId proposalId hosts threshold⟩ engine
  refine ⟨⟨_, resolve_in_memory _ engine, resolution_accounts _ engine.state⟩,
    fun offended => ?_, fun clean => ?_⟩
  · have does := list_does_of_offenders blockNumber messageId proposalId hosts threshold
      engine.state offended
    have ran : Event.apply ⟨blockNumber, .validatorList messageId proposalId hosts threshold⟩
      engine.state = _ := does.run
    rw [ran] at gives applied
    exact ⟨gives, applied.2⟩
  · have complete := (resolution_complete_iff_no_offenders _ engine.state).mpr clean
    have guests := resolution_guests _ engine.state complete
    rw [List.map_map] at guests
    refine ⟨_, _, _, Prod.ext applied.1 rfl, list_outcome_of_no_offenders _ _ _ _ _ _ clean,
      guests, ?_⟩
    rw [applied.2]
    exact reconciled_of_no_offenders blockNumber messageId proposalId hosts threshold _ clean

/-- The list of a host and a removed one is rejected, the list of the host twice is stored. -/
theorem reconciliation_is_all_or_nothing_removed :
    let registry := (History.run [⟨1, .listProposal .sample [.sample]⟩,
      ⟨2, .candidate .add .sample .sample .sampleOther⟩,
      ⟨3, .candidate .remove .sampleOther .sampleOther .sample⟩]).2
    registry.Gives ⟨4, .validatorList .sample .sample [.sample, .sampleOther] 1⟩ .rejected
      [registry.state.reconciliationFailure 4 .sample .sample ["0x0a", "0x0b"]] ∧
    ∃ outcome after guestAddresses,
      registry.apply ⟨4, .validatorList .sample .sample [.sample, .sample] 1⟩ =
        (.ok outcome, after) ∧
      [some .sampleOther, some .sampleOther] = guestAddresses.map some ∧
      registry.state.Reconciled after.state
        ⟨HexString.sample.text, 4, .sample, guestAddresses, 1⟩ := by
  intro registry
  have rejected := (reconciliation_is_all_or_nothing 4 .sample .sample [.sample, .sampleOther] 1
    registry).2.1 (by decide +kernel)
  obtain ⟨outcome, after, guestAddresses, applied, _, guests, reconciled⟩ :=
    (reconciliation_is_all_or_nothing 4 .sample .sample [.sample, .sample] 1 registry).2.2
      (by decide +kernel)
  have known : registry.state.guest? HexString.sample.text = some .sampleOther := by
    decide +kernel
  refine ⟨rejected.1, outcome, after, guestAddresses, applied, ?_, reconciled⟩
  rw [← guests, List.map_cons, List.map_singleton, known]

end Engine

end BridgeState
