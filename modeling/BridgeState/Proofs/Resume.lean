import BridgeState.Proofs.Watermark
import Mathlib.Data.List.TakeWhile

/-!
# Resuming from the watermark

Who resumes from the watermark feeds the store again with events that it has seen. A row that stays
once it is created takes them without a change, and a row that the last event decides ends as it
was, if every event goes by what it went by the first time: a target that was stored, the guest
addresses of the hosts of a list. Where the store holds later events of the watermark's block, that
may fail, and then the resumed store differs.
-/

namespace BridgeState

set_option autoImplicit false

theorem row_at_apply_congr (event : Event) {one other : Store} (here : Place)
    (effects : event.effects one = event.effects other)
    (row : one.rowAt here = other.rowAt here) :
    (event.apply one).store.rowAt here = (event.apply other).store.rowAt here := by
  by_cases inside : ∃ effect ∈ event.effects one, here = effect.place
  · obtain ⟨effect, member, isHere⟩ := inside
    subst isHere
    rw [row_at_apply_mem event one effect member,
      row_at_apply_mem event other effect (effects ▸ member), row]
  · have apart : ∀ effect ∈ event.effects one, here ≠ effect.place :=
      fun effect member isHere => inside ⟨effect, member, isHere⟩
    rw [row_at_apply_ne event one here apart, row_at_apply_ne event other here (effects ▸ apart),
      row]

theorem load_replay_congr (events : List Event) (one other : Store)
    (registry : ∀ host,
      one.load .candidateValidators host = other.load .candidateValidators host)
    {collection : Collection} {id : Text}
    (row : one.load collection id = other.load collection id) :
    (one.replay events).load collection id = (other.replay events).load collection id := by
  induction events generalizing one other with
  | nil => exact row
  | cons event rest ih =>
      -- The registry goes through the induction with the row: a list of the rest is judged by it.
      have effects := effects_of_registry event registry
      apply ih
      · exact fun host =>
          row_at_apply_congr event ⟨.candidateValidators, host⟩ effects (registry host)
      · exact row_at_apply_congr event ⟨collection, id⟩ effects row

def EventBody.target? : EventBody → Option Place
  | .status _ messageId => some ⟨.messages, messageId.text⟩
  | .limitApproval proposalId => some ⟨.limitProposals, proposalId.text⟩
  | .validatorList _ proposalId _ _ => some ⟨.candidatesValidatorsProposals, proposalId.text⟩
  | _ => none

theorem target_of_alter {event : Event} {store : Store} {collection : Collection} {id : Text}
    {change : Change collection} (member : .alter collection id change ∈ event.effects store) :
    event.body.target? = some ⟨collection, id⟩ := by
  obtain ⟨blockNumber, body⟩ := event
  cases body with
  | status | limitApproval => cases List.mem_singleton.mp member; rfl
  | validatorList messageId proposalId hostAddresses threshold =>
      simp only [Event.effects] at member
      split at member
      · simp only [List.mem_cons, reduceCtorEq, List.not_mem_nil, or_false, false_or] at member
        cases member
        rfl
      · simp at member
  | _ => simp [Event.effects] at member

/-- As far as a collection is concerned, an event finds in a second store what it found in a first
one: no target that was not there, and a registry that makes the same of the hosts that it lists. -/
structure Event.FindsSame (collection : Collection) (event : Event) (first second : Store) :
    Prop where
  target : ∀ place, event.body.target? = some place → place.collection = collection →
    (second.rowAt place).isSome = true → (first.rowAt place).isSome = true
  guests : collection ∈ event.body.touched →
    first.guests? (event.body.hosts.map HexString.text) =
      second.guests? (event.body.hosts.map HexString.text)

namespace Change

def keep (collection : Collection) : Change collection where
  result row := row
  id_result _ := rfl
  result_result _ := rfl

/-- A row that the change does not change is not changed by it behind the change of an event
either. -/
def Stable {collection : Collection} (change : Change collection) : Prop :=
  ∀ other : Change collection, other.OfEvent → ∀ row, change.result row = row →
    change.result (other.result row) = other.result row

theorem stable_keep (collection : Collection) : (keep collection).Stable :=
  fun _ _ _ _ => rfl

/-- A status that an event does not move on from is followed by no status that it moves on from. -/
theorem moved_behind (direction : Direction) (change other : StatusEvent) (status : MessageStatus)
    (unmoved : status.moved direction change = status) :
    (status.moved direction other).moved direction change = status.moved direction other := by
  revert unmoved
  cases direction <;> cases change <;> cases other <;> cases status <;> decide

theorem OfEvent.stable {collection : Collection} {change : Change collection}
    (changes : change.OfEvent) : change.Stable := by
  intro other others row unchanged
  cases changes with
  | move change =>
      cases others with
      | move other =>
          have unmoved : row.status.moved row.direction change = row.status :=
            congrArg Message.status unchanged
          exact congrArg (fun status => ({ row with status } : Message))
            (moved_behind row.direction change other row.status unmoved)
  | approveLimits => cases others; rfl
  | approveList => cases others; rfl

end Change

namespace Store

/-- The row under the id is stored, and the change does not change it. -/
def Settled {collection : Collection} (id : Text) (change : Change collection) (store : Store) :
    Prop :=
  ∃ row, store.load collection id = some row ∧ change.result row = row

theorem settled_keep_iff {collection : Collection} (id : Text) (store : Store) :
    store.Settled id (.keep collection) ↔ (store.load collection id).isSome = true := by
  rw [Option.isSome_iff_exists]
  exact exists_congr fun row => and_iff_left rfl

end Store

section Settled

variable {event : Event} {store : Store} {collection : Collection}

theorem settled_by_first {row : collection.Row}
    (member : .first collection row ∈ event.effects store) :
    (event.apply store).store.Settled (Record.id row) (.keep collection) := by
  rw [Store.settled_keep_iff, load_apply_first member]
  simp

theorem settled_by_alter {id : Text} {change : Change collection}
    (member : .alter collection id change ∈ event.effects store)
    (stored : (store.load collection id).isSome = true) :
    (event.apply store).store.Settled id change := by
  obtain ⟨row, found⟩ := Option.isSome_iff_exists.mp stored
  exact ⟨change.result row, by rw [load_apply_alter member, found]; rfl, change.result_result row⟩

theorem settled_apply {id : Text} {change : Change collection} (event : Event)
    (stays : collection.isProjection = false) (stable : change.Stable)
    (settled : store.Settled id change) : (event.apply store).store.Settled id change := by
  obtain ⟨row, found, unchanged⟩ := settled
  have step := row_step event store collection id
  rw [found] at step
  generalize after : (event.apply store).store.load collection id = new at step
  cases step with
  | kept => exact ⟨row, after, unchanged⟩
  | set _ projects => simp [stays] at projects
  | changed _ changes => exact ⟨_, after, stable _ changes row unchanged⟩

theorem settled_replay {id : Text} {change : Change collection} (events : List Event)
    (stays : collection.isProjection = false) (stable : change.Stable)
    (settled : store.Settled id change) : (store.replay events).Settled id change := by
  induction events using List.reverseRecOn with
  | nil => exact settled
  | append_singleton events event ih =>
      rw [Store.replay_append_one]
      exact settled_apply event stays stable ih

end Settled

theorem Event.FindsSame.effects {collection : Collection} {event : Event} {first second : Store}
    (finds : event.FindsSame collection first second) {store : Store} {effect : Effect} {id : Text}
    (member : effect ∈ event.effects store) (atPlace : (⟨collection, id⟩ : Place) = effect.place) :
    event.effects first = event.effects second := by
  have touches := touched_of_mem_effects event store effect member
  rw [← atPlace] at touches
  exact effects_of_guests event (finds.guests touches)

/-- The collections whose rows no event changes by a target or by the hosts of a list. -/
def Collection.selfContained : List Collection :=
  [.bridgeMessages, .accountMessages, .accounts, .limitMessages, .limits, .candidateValidators,
    .candidateValidatorMessages]

theorem Event.finds_same_of_self_contained {collection : Collection}
    (selfContained : collection ∈ Collection.selfContained) (event : Event) (first second : Store) :
    event.FindsSame collection first second := by
  obtain ⟨blockNumber, body⟩ := event
  refine ⟨fun place isTarget ofCollection => ?_, fun touches => ?_⟩
  · subst ofCollection
    cases body <;> cases isTarget <;> simp [Collection.selfContained] at selfContained
  · cases body with
    | validatorList messageId proposalId hostAddresses threshold =>
        simp only [EventBody.touched, List.mem_cons, List.not_mem_nil, or_false] at touches
        rcases touches with isList | isProposal
        · simp [isList, Collection.selfContained] at selfContained
        · simp [isProposal, Collection.selfContained] at selfContained
    | _ => rfl

/-- Each of the events finds in the second store what it finds in the first one, both as the events
before it leave them. -/
def FindSame (collection : Collection) : List Event → Store → Store → Prop
  | [], _, _ => True
  | event :: rest, first, second =>
    event.FindsSame collection first second ∧
      FindSame collection rest (event.apply first).store (event.apply second).store

theorem find_same_append {collection : Collection} (earlier later : List Event)
    (first second : Store) :
    FindSame collection (earlier ++ later) first second ↔
      FindSame collection earlier first second ∧
        FindSame collection later (first.replay earlier) (second.replay earlier) := by
  induction earlier generalizing first second with
  | nil => simp [FindSame, Store.replay, Store.applyAll]
  | cons event rest ih =>
      simp only [List.cons_append, FindSame, ih, and_assoc]
      rfl

theorem find_same_of_self_contained {collection : Collection}
    (selfContained : collection ∈ Collection.selfContained) (events : List Event)
    (first second : Store) : FindSame collection events first second := by
  induction events generalizing first second with
  | nil => trivial
  | cons event rest ih =>
      exact ⟨event.finds_same_of_self_contained selfContained first second, ih _ _⟩

/-- Where rows stay, events that find again what they found change nothing. -/
theorem load_replay_again_of_stays {collection : Collection} (events : List Event) (store : Store)
    (stays : collection.isProjection = false)
    (finds : FindSame collection events store (store.replay events)) (id : Text) :
    ((store.replay events).replay events).load collection id =
      (store.replay events).load collection id := by
  apply Store.load_replay_kept
  intro before event after split reached
  obtain ⟨_, same, _⟩ := (find_same_append before (event :: after) store (store.replay events)).mp
    (by rwa [← split])
  -- What the event settled the first time is settled still behind the events that came after it.
  have settled {id : Text} {change : Change collection} (stable : change.Stable)
      (now : (event.apply (store.replay before)).store.Settled id change) :
      (store.replay events).Settled id change := by
    rw [split, Store.replay_cons]
    exact settled_replay after stays stable now
  obtain ⟨effect, member, atPlace⟩ | kept :=
    effect_or_kept event ((store.replay events).replay before) collection id
  · have early := same.effects member atPlace ▸ member
    cases effect_of_event event _ effect member with
    | first row =>
        cases atPlace
        obtain ⟨old, found, _⟩ := settled (Change.stable_keep collection) (settled_by_first early)
        rw [load_apply_first member, reached, found]
        rfl
    | last row projects =>
        cases atPlace
        simp [stays] at projects
    | alter id changes =>
        cases atPlace
        rw [load_apply_alter member]
        cases now : ((store.replay events).replay before).load collection id with
        | none => rfl
        | some row =>
            -- A target that was stored the first time too was changed then.
            have stored := same.target ⟨collection, id⟩ (target_of_alter member) rfl
              (Option.isSome_iff_exists.mpr ⟨row, now⟩)
            obtain ⟨last, found, unchanged⟩ :=
              settled changes.stable (settled_by_alter early stored)
            rw [now, found] at reached
            cases reached
            exact congrArg some unchanged
  · exact kept

theorem stays_of_changes {collection : Collection} {change : Change collection}
    (changes : change.OfEvent) : collection.isProjection = false := by
  cases changes <;> rfl

theorem load_apply_of_projects {event : Event} {one other : Store} {effect : Effect}
    {collection : Collection} {id : Text} (projects : collection.isProjection = true)
    (inOne : effect ∈ event.effects one) (inOther : effect ∈ event.effects other)
    (atPlace : (⟨collection, id⟩ : Place) = effect.place) :
    (event.apply one).store.load collection id = (event.apply other).store.load collection id := by
  cases effect_of_event event one effect inOne with
  | first row stays =>
      cases atPlace
      simp [stays] at projects
  | last row =>
      cases atPlace
      rw [load_apply_last inOne, load_apply_last inOther]
  | alter id changes =>
      cases atPlace
      simp [stays_of_changes changes] at projects

/-- Where the last event decides, events that find the same in two stores leave the same row, or
they leave the rows that were there. -/
theorem load_replay_of_projects {collection : Collection} (events : List Event) (one other : Store)
    (projects : collection.isProjection = true)
    (finds : FindSame collection events one other) (id : Text) :
    (one.replay events).load collection id = (other.replay events).load collection id ∨
      ((one.replay events).load collection id = one.load collection id ∧
        (other.replay events).load collection id = other.load collection id) := by
  induction events using List.reverseRecOn with
  | nil => exact Or.inr ⟨rfl, rfl⟩
  | append_singleton events event ih =>
      obtain ⟨findsBefore, same, _⟩ := (find_same_append events [event] one other).mp finds
      have before := ih findsBefore
      rw [Store.replay_append_one, Store.replay_append_one]
      obtain ⟨effect, member, atPlace⟩ | oneKept :=
        effect_or_kept event (one.replay events) collection id
      · have inOther := same.effects member atPlace ▸ member
        exact Or.inl (load_apply_of_projects projects member inOther atPlace)
      · obtain ⟨effect, member, atPlace⟩ | otherKept :=
          effect_or_kept event (other.replay events) collection id
        · have inOne := same.effects member atPlace ▸ member
          exact Or.inl (load_apply_of_projects projects inOne member atPlace)
        · rw [oneKept, otherKept]
          exact before

/-- Fed again to the store that they left, events that find again what they found leave a collection
as it was. -/
theorem load_replay_again {collection : Collection} (events : List Event) (store : Store)
    (finds : FindSame collection events store (store.replay events)) (id : Text) :
    ((store.replay events).replay events).load collection id =
      (store.replay events).load collection id := by
  cases isProjection : collection.isProjection with
  | false => exact load_replay_again_of_stays events store isProjection finds id
  | true =>
      obtain same | ⟨_, kept⟩ :=
        load_replay_of_projects events store (store.replay events) isProjection finds id
      · exact same.symm
      · exact kept

/-- The block of the event is below the watermark, if there is one. -/
def Event.isBelow (watermark : Option Nat) (event : Event) : Bool :=
  watermark.any fun block => event.blockNumber < block

namespace History

/-- The events from the first one on that is not below the watermark. -/
def resumption (watermark : Option Nat) (events : List Event) : List Event :=
  events.dropWhile (Event.isBelow watermark)

/-- The events of a history that are fed to its store again. -/
def fedAgain (before : List Event) : List Event :=
  resumption (store before).watermark before

/-- The events of a history before those that are fed to its store again. -/
def fedOnce (before : List Event) : List Event :=
  before.takeWhile (Event.isBelow (store before).watermark)

/-- The engine that has resumed from the watermark of a history, up to the end of the stream. -/
def resumed (before after : List Event) : Engine Store :=
  ((Engine.start (store before) none).applyEvents
    (resumption (store before).watermark (before ++ after))).2

theorem resumption_append (before after : List Event) :
    resumption (store before).watermark (before ++ after) = fedAgain before ++ after := by
  unfold fedAgain resumption
  rw [List.dropWhile_append]
  split
  · rename_i isEmpty
    have allBelow := List.isEmpty_iff.mp isEmpty
    rw [allBelow, List.nil_append]
    cases highest : (store before).watermark with
    | none => cases after <;> rfl
    | some block =>
        obtain ⟨event, member, atBlock⟩ := event_of_watermark before block highest
        have below := List.dropWhile_eq_nil_iff.mp allBelow event member
        simp [Event.isBelow, highest, atBlock] at below
  · rfl

theorem store_resumed (before after : List Event) :
    (resumed before after).state = ((store before).replay (fedAgain before)).replay after := by
  rw [resumed, (apply_events_in_memory _ _).2, resumption_append]
  exact Store.replay_append _ _ _

theorem store_fed_again (before : List Event) :
    (store (fedOnce before)).replay (fedAgain before) = store before := by
  rw [← store_append, fedOnce, fedAgain, resumption, List.takeWhile_append_dropWhile]

theorem load_fed_again (before : List Event) {collection : Collection}
    (finds : FindSame collection (fedAgain before) (store (fedOnce before)) (store before))
    (id : Text) :
    ((store before).replay (fedAgain before)).load collection id =
      (store before).load collection id := by
  rw [← store_fed_again before] at finds
  have again := load_replay_again (fedAgain before) (store (fedOnce before)) finds id
  rwa [store_fed_again before] at again

theorem table_resumed (before after : List Event) (collection : Collection)
    (finds : FindSame collection (fedAgain before) (store (fedOnce before)) (store before)) :
    (resumed before after).state.table collection = (store (before ++ after)).table collection := by
  apply Table.ext_load
  intro id
  -- The registry is always reproduced, so the events of the rest have the same effects.
  have registry (host : Text) :
      ((store before).replay (fedAgain before)).load .candidateValidators host =
        (store before).load .candidateValidators host :=
    load_fed_again before
      (find_same_of_self_contained (by simp [Collection.selfContained]) _ _ _) host
  rw [store_resumed, store_append]
  exact load_replay_congr after _ _ registry (load_fed_again before finds id)

/-- The overview tells the watermark. Who resumes from it reproduces every collection for which the
events that are fed again find what they found the first time, and always those whose rows no event
changes by a target or by the hosts of a list. -/
theorem resumed_reproduces (before after : List Event) :
    (∃ collections, Http.syncAnswer (store before) = (.ok (.ok (.obj
        [("collections", .obj collections),
          ("last_block_number", .ofOption .nat (store before).watermark)])), store before)) ∧
      (∀ collection,
        FindSame collection (fedAgain before) (store (fedOnce before)) (store before) →
        (resumed before after).state.table collection =
          (store (before ++ after)).table collection) ∧
      ∀ collection ∈ Collection.selfContained,
        (resumed before after).state.table collection =
          (store (before ++ after)).table collection :=
  ⟨⟨_, Http.sync_answer_in_memory (store before)⟩, table_resumed before after,
    fun collection selfContained => table_resumed before after collection
      (find_same_of_self_contained selfContained _ _ _)⟩

/-- A list of one host is stored, and a host is added in the same block. -/
def listThenAddition (host guest : HexString) : List Event :=
  [⟨4, .listProposal .sample [.sample]⟩, ⟨4, .candidate .add .sample .sample .sample⟩,
    ⟨5, .validatorList .sample .sample [.sample] 1⟩,
    ⟨5, .candidate .add .sampleOther host guest⟩]

def proposalBehind : Event :=
  ⟨6, .listProposal .sampleOther []⟩

/-- The host that is added behind the list is another one. -/
theorem resumed_reproduces_list :
    FindSame .candidatesValidatorsProposals (fedAgain (listThenAddition .sampleOther .sample))
        (store (fedOnce (listThenAddition .sampleOther .sample)))
        (store (listThenAddition .sampleOther .sample)) ∧
      (resumed (listThenAddition .sampleOther .sample) [proposalBehind]).state.table
          .candidatesValidatorsProposals =
        (store (listThenAddition .sampleOther .sample ++ [proposalBehind])).table
          .candidatesValidatorsProposals := by
  have again : fedAgain (listThenAddition .sampleOther .sample) =
      [⟨5, .validatorList .sample .sample [.sample] 1⟩,
        ⟨5, .candidate .add .sampleOther .sampleOther .sample⟩] := by decide +kernel
  have finds : FindSame .candidatesValidatorsProposals
      (fedAgain (listThenAddition .sampleOther .sample))
      (store (fedOnce (listThenAddition .sampleOther .sample)))
      (store (listThenAddition .sampleOther .sample)) := by
    rw [again]
    refine ⟨⟨?_, fun _ => ?_⟩, ⟨?_, fun _ => rfl⟩, trivial⟩
    · rintro place ⟨⟩ _ _
      decide +kernel
    · decide +kernel
    · rintro place ⟨⟩
  exact ⟨finds, (resumed_reproduces _ [proposalBehind]).2.1 _ finds⟩

/-- The host of the list itself is added again behind it, with another guest address: the list that
is fed again is stored with that one. -/
theorem resumed_with_other_guest :
    (listThenAddition .sample .sampleOther ++ [proposalBehind]).Pairwise
        (fun one other => one.blockNumber ≤ other.blockNumber) ∧
      (store (listThenAddition .sample .sampleOther)).watermark = some 5 ∧
      (store (listThenAddition .sample .sampleOther ++ [proposalBehind])).load
        .validatorsListMessages HexString.sample.text =
          some ⟨HexString.sample.text, 5, .sample, [.sample], 1⟩ ∧
      (resumed (listThenAddition .sample .sampleOther) [proposalBehind]).state.load
        .validatorsListMessages HexString.sample.text =
          some ⟨HexString.sample.text, 5, .sample, [.sampleOther], 1⟩ := by
  decide +kernel

end History

end BridgeState
