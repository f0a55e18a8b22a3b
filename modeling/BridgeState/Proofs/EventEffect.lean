import BridgeState.Proofs.RuleEffect
import Mathlib.Data.List.Nodup

/-!
# What each event does

`Event.effects` lists the effects of an event on a store. They depend on the store only where a list
of validators is resolved by the registry, and no two of them are on one place. An event leaves the
collections that its family does not touch as they are; what it may do to a row of the others is one
of the cases of `row_step`. Where an event has a single effect on a collection, that effect decides
every row of it.
-/

namespace BridgeState

set_option autoImplicit false

def Event.effects (event : Event) (store : Store) : List Effect :=
  let blockNumber := event.blockNumber
  match event.body with
  | .transfer direction transfer =>
    [.first .messages (Rule.pendingMessage blockNumber direction transfer)]
  | .status change messageId => [.alter .messages messageId.text (.move change)]
  | .control change messageId =>
    [.first .bridgeMessages
      { id := messageId.text, blockNumber, action := change.action, status := .pending }]
  | .account chain action messageId address timestamp =>
    [.first .accountMessages
      (Rule.accountAudit blockNumber chain action messageId address timestamp),
     .last .accounts (Rule.accountState blockNumber chain action messageId address timestamp)]
  | .limits values =>
    .last .limitMessages (Rule.limitSnapshot blockNumber values) ::
      (Named.all : List LimitKind).map fun kind =>
        .last .limits (Rule.presentLimit blockNumber values kind)
  | .limitProposal proposalId sender values =>
    [.first .limitProposals
      { id := proposalId.text, blockNumber, values, proposerAddress := sender, status := .pending }]
  | .limitApproval proposalId => [.alter .limitProposals proposalId.text .approveLimits]
  | .candidate action messageId hostAddress guestAddress =>
    [.first .candidateValidatorMessages
      (Rule.candidateAudit blockNumber action messageId hostAddress guestAddress),
     .last .candidateValidators
      (Rule.candidateState blockNumber action hostAddress guestAddress)]
  | .listProposal proposalId hostAddresses =>
    [.first .candidatesValidatorsProposals
      { id := proposalId.text, blockNumber, status := .pending, hostAddresses }]
  | .validatorList messageId proposalId hostAddresses threshold =>
    if (store.resolution (hostAddresses.map HexString.text)).complete then
      [.last .validatorsListMessages
        (Rule.resolvedList blockNumber messageId proposalId hostAddresses threshold store),
       .alter .candidatesValidatorsProposals proposalId.text .approveList]
    else []

theorem event_does (event : Event) (store : Store) :
    event.script.Does store (event.apply store).value (event.effects store)
      (event.apply store).diagnostics := by
  have known {value : Outcome} {diagnostics : List Diagnostic}
      (does : event.script.Does store value (event.effects store) diagnostics) :
      event.script.Does store (event.apply store).value (event.effects store)
        (event.apply store).diagnostics := by
    simpa only [Event.apply, does.run] using does
  obtain ⟨blockNumber, body⟩ := event
  cases body with
  | transfer direction transfer => exact known (create_once_does .messages _ store)
  | status change messageId => exact known (Rule.status_does blockNumber change messageId store)
  | control change messageId => exact known (create_once_does .bridgeMessages _ store)
  | account chain action messageId address timestamp =>
      exact known (Rule.account_does blockNumber chain action messageId address timestamp store)
  | limits values => exact known (Rule.limits_does blockNumber values store)
  | limitProposal proposalId sender values =>
      exact known (create_once_does .limitProposals _ store)
  | limitApproval proposalId => exact known (Rule.limit_approval_does blockNumber proposalId store)
  | candidate action messageId hostAddress guestAddress =>
      exact known
        (Rule.candidate_does blockNumber action messageId hostAddress guestAddress store)
  | listProposal proposalId hostAddresses =>
      exact known (create_once_does .candidatesValidatorsProposals _ store)
  | validatorList messageId proposalId hostAddresses threshold =>
      cases complete : (store.resolution (hostAddresses.map HexString.text)).complete with
      | true =>
          have does := Rule.resolved_list_does blockNumber messageId proposalId hostAddresses
            threshold store complete _ rfl
          exact known (by simp only [Event.effects, complete, if_true]; exact does)
      | false =>
          have does := Rule.unresolved_list_does blockNumber messageId proposalId hostAddresses
            threshold store complete
          exact known (by simp only [Event.effects, complete]; exact does)

theorem apply_store (event : Event) (store : Store) :
    (event.apply store).store = Effect.performAll (event.effects store) store :=
  congrArg Ran.store (event_does event store).run

/-- Words whose names are read back have different names. -/
theorem Named.name_injective {α : Type} [Named α]
    (back : ∀ word : α, Named.ofName? (Named.name word) = some word) :
    Function.Injective (Named.name : α → String) := by
  intro one other same
  have read : some one = some other := by rw [← back one, same, back other]
  exact Option.some.inj read

/-- No event has two effects on one place. -/
theorem effects_distinct (event : Event) (store : Store) :
    ((event.effects store).map Effect.place).Nodup := by
  obtain ⟨blockNumber, body⟩ := event
  cases body with
  | limits values =>
      have distinctKinds : (Named.all : List LimitKind).Nodup := by decide
      simp only [Event.effects, List.map_cons, List.map_map, List.nodup_cons]
      constructor
      · simp [Effect.place]
      · apply distinctKinds.map
        intro one other same
        have sameId : Text.ofString (Named.name one) = Text.ofString (Named.name other) :=
          congrArg Place.id same
        exact Named.name_injective LimitKind.ofName?_name (Text.ofString_injective sameId)
  | validatorList messageId proposalId hostAddresses threshold =>
      simp only [Event.effects]
      split
      · simp [Effect.place]
      · simp
  | _ => simp [Event.effects, Effect.place]

theorem row_at_apply_mem (event : Event) (store : Store) (effect : Effect)
    (member : effect ∈ event.effects store) :
    (event.apply store).store.rowAt effect.place = effect.update (store.rowAt effect.place) := by
  rw [apply_store]
  exact Effect.row_at_perform_all_mem _ store (effects_distinct event store) effect member

section Members

variable {event : Event} {store : Store} {collection : Collection}

theorem load_apply_first {row : collection.Row}
    (member : .first collection row ∈ event.effects store) :
    (event.apply store).store.load collection (Record.id row) =
      (store.load collection (Record.id row)).or (some row) :=
  row_at_apply_mem event store (.first collection row) member

theorem load_apply_last {row : collection.Row}
    (member : .last collection row ∈ event.effects store) :
    (event.apply store).store.load collection (Record.id row) = some row :=
  row_at_apply_mem event store (.last collection row) member

theorem load_apply_alter {id : Text} {change : Change collection}
    (member : .alter collection id change ∈ event.effects store) :
    (event.apply store).store.load collection id =
      (store.load collection id).map change.result :=
  row_at_apply_mem event store (.alter collection id change) member

end Members

theorem row_at_apply_ne (event : Event) (store : Store) (here : Place)
    (apart : ∀ effect ∈ event.effects store, here ≠ effect.place) :
    (event.apply store).store.rowAt here = store.rowAt here := by
  rw [apply_store]
  exact Effect.row_at_perform_all_ne _ store here apart

/-- An event either has an effect on a row or leaves it as it is. -/
theorem effect_or_kept (event : Event) (store : Store) (collection : Collection) (id : Text) :
    (∃ effect ∈ event.effects store, (⟨collection, id⟩ : Place) = effect.place) ∨
      (event.apply store).store.load collection id = store.load collection id := by
  by_cases inside : ∃ effect ∈ event.effects store, (⟨collection, id⟩ : Place) = effect.place
  · exact Or.inl inside
  · refine Or.inr (row_at_apply_ne event store ⟨collection, id⟩ fun effect member atPlace => ?_)
    exact inside ⟨effect, member, atPlace⟩

theorem apply_store_eq_self_iff (event : Event) (store : Store) :
    (event.apply store).store = store ↔ ∀ effect ∈ event.effects store, effect.Idle store := by
  rw [apply_store]
  exact Effect.perform_all_eq_self_iff _ store (effects_distinct event store)

def EventBody.touched : EventBody → List Collection
  | .transfer _ _ => [.messages]
  | .status _ _ => [.messages]
  | .control _ _ => [.bridgeMessages]
  | .account _ _ _ _ _ => [.accountMessages, .accounts]
  | .limits _ => [.limitMessages, .limits]
  | .limitProposal _ _ _ => [.limitProposals]
  | .limitApproval _ => [.limitProposals]
  | .candidate _ _ _ _ => [.candidateValidatorMessages, .candidateValidators]
  | .listProposal _ _ => [.candidatesValidatorsProposals]
  | .validatorList _ _ _ _ => [.validatorsListMessages, .candidatesValidatorsProposals]

theorem Effect.of_mem_pair {motive : Effect → Prop} {one other effect : Effect}
    (ofOne : motive one) (ofOther : motive other) (pair : effect ∈ [one, other]) :
    motive effect := by
  simp only [List.mem_cons, List.not_mem_nil, or_false] at pair
  rcases pair with isOne | isOther
  · exact isOne ▸ ofOne
  · exact isOther ▸ ofOther

theorem touched_of_mem_effects (event : Event) (store : Store) (effect : Effect)
    (member : effect ∈ event.effects store) :
    effect.place.collection ∈ event.body.touched := by
  have ofPair {one other : Effect} (pair : effect ∈ [one, other]) :
      effect.place.collection ∈ [one.place.collection, other.place.collection] := by
    refine Effect.of_mem_pair (motive := fun effect => effect.place.collection ∈ _) ?_ ?_ pair
    · exact List.mem_cons_self
    · exact List.mem_cons_of_mem _ List.mem_cons_self
  obtain ⟨blockNumber, body⟩ := event
  cases body with
  | account chain action messageId address timestamp => exact ofPair member
  | candidate action messageId hostAddress guestAddress => exact ofPair member
  | limits values =>
      rcases List.mem_cons.mp member with isSnapshot | isLimit
      · simp [isSnapshot, Effect.place, EventBody.touched]
      · obtain ⟨kind, _, isKind⟩ := List.mem_map.mp isLimit
        simp [← isKind, Effect.place, EventBody.touched]
  | validatorList messageId proposalId hostAddresses threshold =>
      simp only [Event.effects] at member
      split at member
      · exact ofPair member
      · simp at member
  | _ =>
      rw [List.mem_singleton.mp member]
      simp [Effect.place, EventBody.touched]

/-- In these collections the last event that sets a row decides it. Elsewhere a row stays once it is
created, and no more than its status changes. -/
def Collection.isProjection : Collection → Bool
  | .accounts | .limitMessages | .limits | .candidateValidators | .validatorsListMessages => true
  | .messages | .bridgeMessages | .accountMessages | .limitProposals
  | .candidateValidatorMessages | .candidatesValidatorsProposals => false

/-- The changes that events make of rows. -/
inductive Change.OfEvent : {collection : Collection} → Change collection → Prop
  | move (change : StatusEvent) : (move change).OfEvent
  | approveLimits : approveLimits.OfEvent
  | approveList : approveList.OfEvent

/-- The effects that an event may have, by the collection that they are on. A row that is created or
set has the block of the event. -/
inductive Effect.OfEvent (event : Event) : Effect → Prop
  | first {collection : Collection} (row : collection.Row)
      (stays : collection.isProjection = false) (block : Record.block row = event.blockNumber) :
      OfEvent event (.first collection row)
  | last {collection : Collection} (row : collection.Row)
      (projects : collection.isProjection = true)
      (block : Record.block row = event.blockNumber) : OfEvent event (.last collection row)
  | alter {collection : Collection} (id : Text) {change : Change collection}
      (changes : change.OfEvent) : OfEvent event (.alter collection id change)

theorem effect_of_event (event : Event) (store : Store) (effect : Effect)
    (member : effect ∈ event.effects store) : effect.OfEvent event := by
  obtain ⟨blockNumber, body⟩ := event
  cases body with
  | account chain action messageId address timestamp =>
      exact Effect.of_mem_pair (.first _ rfl rfl) (.last _ rfl rfl) member
  | candidate action messageId hostAddress guestAddress =>
      exact Effect.of_mem_pair (.first _ rfl rfl) (.last _ rfl rfl) member
  | limits values =>
      rcases List.mem_cons.mp member with isSnapshot | isLimit
      · rw [isSnapshot]
        exact .last _ rfl rfl
      · obtain ⟨kind, _, isKind⟩ := List.mem_map.mp isLimit
        rw [← isKind]
        exact .last _ rfl rfl
  | validatorList messageId proposalId hostAddresses threshold =>
      simp only [Event.effects] at member
      split at member
      · exact Effect.of_mem_pair (.last _ rfl rfl) (.alter _ .approveList) member
      · simp at member
  | status change messageId =>
      rw [List.mem_singleton.mp member]
      exact .alter _ (.move change)
  | limitApproval proposalId =>
      rw [List.mem_singleton.mp member]
      exact .alter _ .approveLimits
  | transfer | control | limitProposal | listProposal =>
      rw [List.mem_singleton.mp member]
      exact .first _ rfl rfl

inductive RowStep (event : Event) {collection : Collection} :
    Option collection.Row → Option collection.Row → Prop
  | kept (old : Option collection.Row) : RowStep event old old
  | created {row : collection.Row} (stays : collection.isProjection = false)
      (block : Record.block row = event.blockNumber) : RowStep event none (some row)
  | set (old : Option collection.Row) {row : collection.Row}
      (projects : collection.isProjection = true)
      (block : Record.block row = event.blockNumber) : RowStep event old (some row)
  | changed (row : collection.Row) {change : Change collection} (changes : change.OfEvent) :
      RowStep event (some row) (some (change.result row))

theorem row_step (event : Event) (store : Store) (collection : Collection) (id : Text) :
    RowStep event (store.load collection id) ((event.apply store).store.load collection id) := by
  obtain ⟨effect, member, atPlace⟩ | same := effect_or_kept event store collection id
  · cases effect_of_event event store effect member with
    | first row stays block =>
        cases atPlace
        rw [load_apply_first member]
        cases store.load collection (Record.id row) with
        | none => exact .created stays block
        | some old => exact .kept (some old)
    | last row projects block =>
        cases atPlace
        rw [load_apply_last member]
        exact .set _ projects block
    | alter id changes =>
        cases atPlace
        rw [load_apply_alter member]
        cases store.load collection id with
        | none => exact .kept none
        | some row => exact .changed row changes
  · rw [same]
    exact .kept _

/-- No event deletes a row. -/
theorem row_stays (event : Event) (store : Store) (collection : Collection) (id : Text)
    (stored : (store.load collection id).isSome = true) :
    ((event.apply store).store.load collection id).isSome = true := by
  obtain ⟨row, found⟩ := Option.isSome_iff_exists.mp stored
  have step := row_step event store collection id
  rw [found] at step
  generalize (event.apply store).store.load collection id = new at step
  cases step <;> rfl

theorem load_apply_untouched (event : Event) (store : Store) (collection : Collection) (id : Text)
    (untouched : collection ∉ event.body.touched) :
    (event.apply store).store.load collection id = store.load collection id := by
  apply row_at_apply_ne event store ⟨collection, id⟩
  intro effect member same
  have touches := touched_of_mem_effects event store effect member
  rw [← same] at touches
  exact untouched touches

/-- The effects of an event on the rows of one collection. -/
def Event.effectsOn (collection : Collection) (event : Event) (store : Store) : List Effect :=
  (event.effects store).filter fun effect => effect.place.collection = collection

theorem effects_on_untouched (event : Event) (store : Store) (collection : Collection)
    (untouched : collection ∉ event.body.touched) : event.effectsOn collection store = [] := by
  rw [Event.effectsOn, List.filter_eq_nil_iff]
  intro effect member
  have touches := touched_of_mem_effects event store effect member
  simp only [decide_eq_true_eq]
  intro same
  exact untouched (same ▸ touches)

section EffectsOn

variable {event : Event} {store : Store} {collection : Collection}

theorem load_apply_beside {effects : List Effect}
    (own : event.effectsOn collection store = effects) (id : Text)
    (apart : ∀ effect ∈ effects, (⟨collection, id⟩ : Place) ≠ effect.place) :
    (event.apply store).store.load collection id = store.load collection id := by
  apply row_at_apply_ne event store ⟨collection, id⟩
  intro effect member atPlace
  have inside : effect ∈ event.effectsOn collection store :=
    List.mem_filter.mpr ⟨member, by simp [← atPlace]⟩
  exact apart effect (own ▸ inside) atPlace

theorem mem_effects_of_own {effect : Effect} (own : event.effectsOn collection store = [effect]) :
    effect ∈ event.effects store := by
  have inside : effect ∈ event.effectsOn collection store := by simp [own]
  exact List.mem_of_mem_filter inside

theorem load_apply_own_first {row : collection.Row}
    (own : event.effectsOn collection store = [.first collection row]) (id : Text) :
    (event.apply store).store.load collection id =
      (store.load collection id).or ((some row).filter fun row => Record.id row = id) := by
  by_cases same : Record.id row = id
  · subst same
    rw [load_apply_first (mem_effects_of_own own)]
    simp [Option.filter]
  · have apart : (⟨collection, id⟩ : Place) ≠ ⟨collection, Record.id row⟩ :=
      fun atPlace => same (congrArg Place.id atPlace).symm
    rw [load_apply_beside own id (List.forall_mem_singleton.mpr apart)]
    simp [Option.filter, same]

theorem load_apply_own_last {row : collection.Row}
    (own : event.effectsOn collection store = [.last collection row]) (id : Text) :
    (event.apply store).store.load collection id =
      ((some row).filter fun row => Record.id row = id).or (store.load collection id) := by
  by_cases same : Record.id row = id
  · subst same
    rw [load_apply_last (mem_effects_of_own own)]
    simp [Option.filter]
  · have apart : (⟨collection, id⟩ : Place) ≠ ⟨collection, Record.id row⟩ :=
      fun atPlace => same (congrArg Place.id atPlace).symm
    rw [load_apply_beside own id (List.forall_mem_singleton.mpr apart)]
    simp [Option.filter, same]

theorem load_apply_own_alter {target : Text} {change : Change collection}
    (own : event.effectsOn collection store = [.alter collection target change]) (id : Text) :
    (event.apply store).store.load collection id =
      if target = id then (store.load collection id).map change.result
      else store.load collection id := by
  by_cases same : target = id
  · subst same
    rw [load_apply_alter (mem_effects_of_own own), if_pos rfl]
  · have apart : (⟨collection, id⟩ : Place) ≠ ⟨collection, target⟩ :=
      fun atPlace => same (congrArg Place.id atPlace).symm
    rw [load_apply_beside own id (List.forall_mem_singleton.mpr apart), if_neg same]

end EffectsOn

def EventBody.hosts : EventBody → List HexString
  | .validatorList _ _ hostAddresses _ => hostAddresses
  | _ => []

/-- The effects of an event depend on the store only by what the registry makes of the hosts that it
lists. -/
theorem effects_of_guests (event : Event) {one other : Store}
    (guests : one.guests? (event.body.hosts.map HexString.text) =
      other.guests? (event.body.hosts.map HexString.text)) :
    event.effects one = event.effects other := by
  obtain ⟨blockNumber, body⟩ := event
  cases body with
  | validatorList messageId proposalId hostAddresses threshold =>
      simp only [EventBody.hosts, guests_eq_resolution] at guests
      simp only [Event.effects, Rule.resolvedList]
      split at guests <;> split at guests
      · simp_all
      · cases guests
      · cases guests
      · simp_all
  | _ => rfl

/-- The registry alone decides how an event depends on the store. -/
theorem effects_of_registry (event : Event) {one other : Store}
    (registry : ∀ host,
      one.load .candidateValidators host = other.load .candidateValidators host) :
    event.effects one = event.effects other := by
  apply effects_of_guests
  simp only [Store.guests?, Store.guest?, registry]

end BridgeState
