import BridgeState.Proofs.Batches
import Mathlib.Data.List.Count

/-!
# What is created is counted

An event that creates something stores the record of it in one of eight collections. It is told to
have created something if and only if one of these collections has one row more behind it, and none
has fewer. So the summary of a batch counts as created by how much these collections have grown.
-/

namespace BridgeState

set_option autoImplicit false

theorem Table.length_save {α : Type} [Record α] (row : α) (table : Table α) :
    (table.save row).rows.length =
      table.rows.length + if (table.load (Record.id row)).isNone then 1 else 0 := by
  have split := table.rows.length_eq_length_filter_add fun other => Record.id other = Record.id row
  have others : (table.rows.filter fun other => !decide (Record.id other = Record.id row)) =
      without (Record.id row) table.rows :=
    List.filter_congr fun other _ => by
      by_cases same : Record.id other = Record.id row <;> simp [same]
  rw [filter_id, others] at split
  have saved : (table.save row).rows.length = (without (Record.id row) table.rows).length + 1 :=
    length_insertRow row _
  cases found : table.load (Record.id row) with
  | none =>
      rw [found, Option.toList_none, List.length_nil] at split
      simp only [Option.isNone_none, if_true]
      omega
  | some old =>
      rw [found, Option.toList_some, List.length_singleton] at split
      simp only [Option.isNone_some, Bool.false_eq_true, if_false]
      omega

theorem Store.count_save (collection other : Collection) (row : collection.Row) (store : Store) :
    (store.save collection row).count other none =
      store.count other none +
        if other = collection ∧ store.load collection (Record.id row) = none then 1 else 0 := by
  by_cases same : other = collection
  · subst same
    simp only [count, table_save_self, true_and, ← Option.isNone_iff_eq_none]
    exact Table.length_save row _
  · simp only [count, table_save_ne _ _ _ _ same, same, false_and, if_false, Nat.add_zero]

namespace Effect

def adds (store : Store) (effect : Effect) : Bool :=
  (store.rowAt effect.place).isNone && (effect.update none).isSome

theorem adds_iff (effect : Effect) (store : Store) :
    effect.adds store = true ↔
      store.rowAt effect.place = none ∧ (effect.perform store).rowAt effect.place ≠ none := by
  rw [row_at_perform_self, adds, Bool.and_eq_true, Option.isNone_iff_eq_none]
  refine and_congr_right fun free => ?_
  rw [free, Option.isSome_iff_ne_none]

theorem count_perform (effect : Effect) (store : Store) (collection : Collection) :
    (effect.perform store).count collection none =
      store.count collection none +
        if collection = effect.place.collection ∧ effect.adds store = true then 1 else 0 := by
  simp only [adds_iff]
  match rows : effect.writes store with
  | [] =>
      have same : effect.perform store = store := by
        rw [perform, rows]
        rfl
      rw [same, if_neg fun added => added.2.2 added.2.1, Nat.add_zero]
  | [row] =>
      have atPlace := place_of_mem_writes effect store row (by simp [rows])
      have saved : effect.perform store = store.save row.collection row.row := by
        rw [perform, rows]
        rfl
      have there : (store.save row.collection row.row).rowAt
          ⟨row.collection, Record.id row.row⟩ ≠ none := by
        rw [Store.rowAt, Store.load_save, if_pos rfl]
        simp
      rw [saved, Store.count_save, ← atPlace]
      simp only [there, ne_eq, not_false_eq_true, and_true]
      rfl
  | _ :: _ :: _ =>
      have few := writes_length_le_one effect store
      simp [rows] at few

end Effect

/-- The collections that keep a record of what an event creates. -/
def Collection.recorded : List Collection :=
  [.messages, .bridgeMessages, .accountMessages, .limitProposals, .limitMessages,
    .candidateValidatorMessages, .candidatesValidatorsProposals, .validatorsListMessages]

def Store.recordCount (store : Store) : Nat :=
  (Collection.recorded.map fun collection => store.count collection none).foldr (· + ·) 0

namespace Effect

/-- The effect adds a row to a collection that keeps a record. -/
def records (store : Store) (effect : Effect) : Bool :=
  decide (effect.place.collection ∈ Collection.recorded) && effect.adds store

theorem total_count_perform (effect : Effect) (store : Store) (collections : List Collection)
    (distinct : collections.Nodup) :
    (collections.map fun collection => (effect.perform store).count collection none).foldr
        (· + ·) 0 =
      (collections.map fun collection => store.count collection none).foldr (· + ·) 0 +
        if effect.place.collection ∈ collections ∧ effect.adds store = true then 1 else 0 := by
  induction collections with
  | nil => simp
  | cons collection rest ih =>
      rw [List.nodup_cons] at distinct
      rw [List.map_cons, List.foldr_cons, ih distinct.2, count_perform, List.map_cons,
        List.foldr_cons]
      simp only [List.mem_cons]
      by_cases here : collection = effect.place.collection
      · -- No collection stands in the list twice, so this is the only one that grows.
        have elsewhere : effect.place.collection ∉ rest := here ▸ distinct.1
        simp only [here, elsewhere, true_and, false_and, or_false, if_false]
        omega
      · simp only [here, Ne.symm here, false_and, false_or, if_false]
        omega

theorem record_count_perform (effect : Effect) (store : Store) :
    (effect.perform store).recordCount =
      store.recordCount + if effect.records store then 1 else 0 := by
  have distinct : Collection.recorded.Nodup := by decide
  have total := total_count_perform effect store Collection.recorded distinct
  simp only [records, Bool.and_eq_true, decide_eq_true_eq]
  exact total

theorem records_perform_ne (effect other : Effect) (store : Store)
    (apart : effect.place ≠ other.place) :
    effect.records (other.perform store) = effect.records store := by
  rw [records, adds, row_at_perform_ne other store effect.place apart]
  rfl

theorem record_count_perform_all (effects : List Effect) (store : Store)
    (distinct : (effects.map place).Nodup) :
    (performAll effects store).recordCount =
      store.recordCount + effects.countP (records store) := by
  induction effects generalizing store with
  | nil => rfl
  | cons first rest ih =>
      rw [List.map_cons, List.nodup_cons] at distinct
      -- The first effect is on a place of its own, so the others add what they added without it.
      have sameRest :
          rest.countP (records (first.perform store)) = rest.countP (records store) := by
        refine List.countP_congr fun other member => ?_
        have apart : other.place ≠ first.place :=
          fun same => distinct.1 (same ▸ List.mem_map_of_mem member)
        rw [records_perform_ne other first store apart]
      change (performAll rest (first.perform store)).recordCount = _
      rw [ih (first.perform store) distinct.2, sameRest, record_count_perform, List.countP_cons]
      omega

theorem records_iff {effect : Effect} {store : Store}
    (recorded : effect.place.collection ∈ Collection.recorded)
    (makes : (effect.update none).isSome = true) :
    effect.records store = true ↔ store.rowAt effect.place = none := by
  rw [records, adds, makes, decide_eq_true recorded, Bool.true_and, Bool.and_true,
    Option.isNone_iff_eq_none]

theorem records_last_unrecorded {collection : Collection} {store : Store} (row : collection.Row)
    (unrecorded : collection ∉ Collection.recorded) :
    (last collection row).records store = false := by
  rw [records, Bool.and_eq_false_iff]
  exact Or.inl (decide_eq_false unrecorded)

theorem records_alter {collection : Collection} {store : Store} (id : Text)
    (change : Change collection) : (alter collection id change).records store = false := by
  rw [records, adds, Bool.and_eq_false_iff, Bool.and_eq_false_iff]
  exact Or.inr (Or.inr rfl)

end Effect

/-- The event adds one record if it is told to have created something, and else none. -/
def Event.RecordsCreated (event : Event) (store : Store) : Prop :=
  (event.effects store).countP (Effect.records store) =
    if (event.apply store).value = .created then 1 else 0

section Events

variable {event : Event} {store : Store} {value : Outcome} {told : List Diagnostic}

/-- The first effect of an event adds the record of what it creates, the others add none. -/
theorem created_recorded_of_does {first : Effect} {rest : List Effect}
    (does : event.script.Does store value (first :: rest) told)
    (isEffects : event.effects store = first :: rest)
    (recorded : first.place.collection ∈ Collection.recorded)
    (makes : (first.update none).isSome = true)
    (created : value = .created ↔ store.rowAt first.place = none)
    (others : ∀ effect ∈ rest, effect.records store = false) :
    event.RecordsCreated store := by
  have sameValue : (event.apply store).value = value := congrArg Ran.value does.run
  have none : rest.countP (Effect.records store) = 0 :=
    List.countP_eq_zero.mpr fun effect member => Bool.eq_false_iff.mp (others effect member)
  rw [Event.RecordsCreated, isEffects, sameValue, List.countP_cons, none, Nat.zero_add]
  simp only [Effect.records_iff recorded makes, created]

theorem created_recorded_of_once (collection : Collection) (row : collection.Row)
    (isScript : event.script = createOnce collection row)
    (isEffects : event.effects store = [.first collection row])
    (recorded : collection ∈ Collection.recorded) :
    event.RecordsCreated store := by
  have does := create_once_does collection row store
  rw [← isScript] at does
  refine created_recorded_of_does does isEffects recorded rfl ?_ (by simp)
  change _ ↔ store.load collection (Record.id row) = none
  cases store.load collection (Record.id row) <;> simp

/-- The rules that keep an audit record and set a present state. -/
theorem created_recorded_of_projection (audited projected : Collection) (audit : audited.Row)
    (state : projected.Row) (same : Bool)
    (does : event.script.Does store
      (.ofProjection
        (if (store.load audited (Record.id audit)).isSome then .unchanged else .created) same)
      [.first audited audit, .last projected state] [])
    (isEffects : event.effects store = [.first audited audit, .last projected state])
    (recorded : audited ∈ Collection.recorded) (unrecorded : projected ∉ Collection.recorded) :
    event.RecordsCreated store := by
  refine created_recorded_of_does does isEffects recorded rfl ?_ ?_
  · change _ ↔ store.load audited (Record.id audit) = none
    rw [Outcome.of_projection_created_iff]
    cases store.load audited (Record.id audit) <;> simp
  · exact List.forall_mem_singleton.mpr (Effect.records_last_unrecorded state unrecorded)

theorem created_recorded_of_alter {collection : Collection} {id : Text} {change : Change collection}
    (does : event.script.Does store value [.alter collection id change] told)
    (isEffects : event.effects store = [.alter collection id change])
    (notCreated : value ≠ .created) :
    event.RecordsCreated store := by
  have sameValue : (event.apply store).value = value := congrArg Ran.value does.run
  rw [Event.RecordsCreated, isEffects, sameValue, if_neg notCreated, List.countP_singleton,
    Effect.records_alter]
  rfl

end Events

theorem created_recorded (event : Event) (store : Store) : event.RecordsCreated store := by
  obtain ⟨blockNumber, body⟩ := event
  cases body with
  | transfer | control | limitProposal | listProposal =>
      exact created_recorded_of_once _ _ rfl rfl (by decide)
  | status change messageId =>
      refine created_recorded_of_alter (Rule.status_does blockNumber change messageId store) rfl ?_
      split
      · decide
      · split
        · decide
        · split <;> decide
  | limitApproval proposalId =>
      refine created_recorded_of_alter
        (Rule.limit_approval_does blockNumber proposalId store) rfl ?_
      split
      · decide
      · split <;> decide
  | account chain action messageId address timestamp =>
      exact created_recorded_of_projection .accountMessages .accounts
        (Rule.accountAudit blockNumber chain action messageId address timestamp) _ _
        (Rule.account_does blockNumber chain action messageId address timestamp store) rfl
        (by decide) (by decide)
  | candidate action messageId hostAddress guestAddress =>
      exact created_recorded_of_projection .candidateValidatorMessages .candidateValidators
        (Rule.candidateAudit blockNumber action messageId hostAddress guestAddress) _ _
        (Rule.candidate_does blockNumber action messageId hostAddress guestAddress store) rfl
        (by decide) (by decide)
  | limits values =>
      have recorded : Collection.limitMessages ∈ Collection.recorded := by decide
      refine created_recorded_of_does (Rule.limits_does blockNumber values store) rfl recorded rfl
        (Outcome.of_replaced_created_iff _ _) ?_
      intro effect member
      obtain ⟨kind, _, isKind⟩ := List.mem_map.mp member
      rw [← isKind]
      exact Effect.records_last_unrecorded _ (by decide)
  | validatorList messageId proposalId hostAddresses threshold =>
      cases complete : (store.resolution (hostAddresses.map HexString.text)).complete with
      | true =>
          have recorded : Collection.validatorsListMessages ∈ Collection.recorded := by decide
          refine created_recorded_of_does (Rule.resolved_list_does blockNumber messageId proposalId
            hostAddresses threshold store complete _ rfl) ?_ recorded rfl ?_ ?_
          · simp only [Event.effects, complete, if_true]
          · rw [Outcome.of_approval_created_iff, Outcome.of_replaced_created_iff]
            rfl
          · exact List.forall_mem_singleton.mpr (Effect.records_alter _ _)
      | false =>
          have does := Rule.unresolved_list_does blockNumber messageId proposalId hostAddresses
            threshold store complete
          have rejected : (Event.apply
              ⟨blockNumber, .validatorList messageId proposalId hostAddresses threshold⟩
                store).value = .rejected := congrArg Ran.value does.run
          rw [Event.RecordsCreated, rejected]
          simp [Event.effects, complete]

theorem record_count_apply (event : Event) (store : Store) :
    (event.apply store).store.recordCount =
      store.recordCount + if (event.apply store).value = .created then 1 else 0 := by
  rw [apply_store, Effect.record_count_perform_all _ _ (effects_distinct event store),
    created_recorded]

namespace Store

theorem record_count_replay (events : List Event) (store : Store) :
    (store.replay events).recordCount =
      store.recordCount + ((store.applyAll events).1.map Applied.outcome).count .created := by
  induction events generalizing store with
  | nil => rfl
  | cons event rest ih =>
      have grown := ih (event.apply store).store
      rw [record_count_apply] at grown
      simp only [replay, applyAll, List.map_cons, List.count_cons, beq_iff_eq] at grown ⊢
      omega

end Store

namespace Engine

/-- The summary of a batch counts its events, each by one outcome; it counts as created by how much
the collections that keep records have grown; and no row that was stored before is missing. -/
theorem summary_accounts_for_store (events : List Event) (engine : Engine Store) :
    let batch := (engine.applyEvents events).1
    let after := (engine.applyEvents events).2
    let summary := batch.summary (after.diagnosticsSince engine).length
    batch.halt = none ∧ summary.eventCount = events.length ∧
      summary.eventCount = Tally.total summary.outcomes ∧
      after.state.recordCount =
        engine.state.recordCount + Tally.get (Named.name Outcome.created) summary.outcomes ∧
      ∀ collection id, (engine.state.load collection id).isSome = true →
        (after.state.load collection id).isSome = true := by
  intro batch after summary
  obtain ⟨isBatch, isState⟩ := apply_events_in_memory events engine
  have applied : batch.applied = (engine.state.applyAll events).1 := congrArg Batch.applied isBatch
  have state : after.state = engine.state.replay events := isState
  refine ⟨congrArg Batch.halt isBatch, ?_, ?_, ?_, ?_⟩
  · exact (congrArg List.length applied).trans (Store.apply_all_length events engine.state)
  · exact ((Tally.total_of_list batch.outcomeNames).trans (List.length_map _)).symm
  · have created : Tally.get (Named.name Outcome.created) summary.outcomes =
        ((engine.state.applyAll events).1.map Applied.outcome).count .created := by
      have apart := Named.name_injective Outcome.ofName?_name
      rw [← applied, ← List.count_map_of_injective _ _ apart, List.map_map]
      exact Tally.get_of_list _ batch.outcomeNames
    rw [created, state]
    exact Store.record_count_replay events engine.state
  · intro collection id stored
    rw [state]
    exact Store.row_stays_replay events engine.state stored

end Engine

end BridgeState
