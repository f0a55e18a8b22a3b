import BridgeState.Engine.Batch
import BridgeState.Proofs.EventEffect
import Mathlib.Data.List.Induction

/-!
# Histories

A history is a list of events that an engine applies in order to the empty store in memory. All of
them are applied; the store and the outcomes are what `Event.apply` makes of one after the other. A
row that only one kind of event writes is what the last of these events wrote, or what the first
wrote if each writes only where nothing is.
-/

namespace BridgeState

set_option autoImplicit false

namespace Engine

theorem state_report_all (diagnostics : List Diagnostic) (engine : Engine Store) :
    (diagnostics.foldl (fun engine diagnostic => engine.report diagnostic) engine).state =
      engine.state := by
  induction diagnostics generalizing engine with
  | nil => rfl
  | cons diagnostic rest ih => exact ih (engine.report diagnostic)

/-- A script never fails in memory, and leaves the store that it leaves without an engine. -/
theorem perform_in_memory {α : Type} (script : Script α) (engine : Engine Store) :
    ∃ after : Engine Store, perform script engine = (.ok (script.run engine.state).value, after) ∧
      after.state = (script.run engine.state).store :=
  ⟨_, perform_store script engine, state_report_all _ _⟩

theorem apply_in_memory (event : Event) (engine : Engine Store) :
    (engine.apply event).1 = .ok (event.apply engine.state).value ∧
      (engine.apply event).2.state = (event.apply engine.state).store := by
  obtain ⟨after, performed, state⟩ := perform_in_memory event.script engine
  simp only [Engine.apply, performed]
  exact ⟨rfl, state⟩

theorem diagnostics_report_all (diagnostics : List Diagnostic) (engine : Engine Store) :
    (diagnostics.foldl (fun engine diagnostic => engine.report diagnostic) engine).diagnostics =
      engine.diagnostics ++ diagnostics := by
  induction diagnostics generalizing engine with
  | nil => exact (List.append_nil _).symm
  | cons diagnostic rest ih => exact (ih (engine.report diagnostic)).trans (by simp [report])

/-- Applied to the engine, the event has the outcome and is told of by the diagnostics, which come
behind all earlier ones. -/
def Gives (engine : Engine Store) (event : Event) (outcome : Outcome) (told : List Diagnostic) :
    Prop :=
  (engine.apply event).1 = .ok outcome ∧
    (engine.apply event).2.diagnostics = engine.diagnostics ++ told

theorem gives_apply (event : Event) (engine : Engine Store) :
    engine.Gives event (event.apply engine.state).value (event.apply engine.state).diagnostics := by
  refine ⟨(apply_in_memory event engine).1, ?_⟩
  simp only [Engine.apply, perform_store event.script engine]
  exact diagnostics_report_all _ _

end Engine

def HexString.sample : HexString := ⟨"0x0a", by decide⟩

def HexString.sampleOther : HexString := ⟨"0x0b", by decide⟩

/-- The outcomes and the store behind events that are applied in order. -/
def Store.applyAll : List Event → Store → List Applied × Store
  | [], store => ([], store)
  | event :: rest, store =>
    let (applied, last) := applyAll rest (event.apply store).store
    (⟨event, (event.apply store).value⟩ :: applied, last)

/-- In memory every event of a batch is applied. -/
theorem apply_events_in_memory (events : List Event) (engine : Engine Store) :
    (engine.applyEvents events).1 = ⟨(engine.state.applyAll events).1, none⟩ ∧
      (engine.applyEvents events).2.state = (engine.state.applyAll events).2 := by
  induction events generalizing engine with
  | nil => exact ⟨rfl, rfl⟩
  | cons event rest ih =>
      obtain ⟨after, performed, state⟩ := Engine.perform_in_memory event.script engine
      obtain ⟨batch, last⟩ :=
        ih (after.recordApply event (event.script.run engine.state).value)
      have sameState : (after.recordApply event (event.script.run engine.state).value).state =
          (event.apply engine.state).store := state
      rw [sameState] at batch last
      simp only [Engine.applyEvents] at batch last ⊢
      simp only [Engine.applyEach, performed, Store.applyAll]
      exact ⟨by rw [batch]; rfl, last⟩

namespace History

def run (events : List Event) : Batch Empty × Engine Store :=
  (Engine.start Store.empty none).applyEvents events

def store (events : List Event) : Store :=
  (run events).2.state

def outcomes (events : List Event) : List Outcome :=
  (run events).1.applied.map Applied.outcome

theorem store_eq_apply_all (events : List Event) :
    store events = (Store.empty.applyAll events).2 :=
  (apply_events_in_memory events (Engine.start Store.empty none)).2

theorem outcomes_eq_apply_all (events : List Event) :
    outcomes events = (Store.empty.applyAll events).1.map Applied.outcome := by
  rw [outcomes, run, (apply_events_in_memory events (Engine.start Store.empty none)).1]
  rfl

end History

theorem Store.apply_all_append (before after : List Event) (store : Store) :
    store.applyAll (before ++ after) =
      ((store.applyAll before).1 ++ ((store.applyAll before).2.applyAll after).1,
        ((store.applyAll before).2.applyAll after).2) := by
  induction before generalizing store with
  | nil => rfl
  | cons event rest ih => simp only [List.cons_append, Store.applyAll, ih]

theorem Store.apply_all_length (events : List Event) (store : Store) :
    (store.applyAll events).1.length = events.length := by
  induction events generalizing store with
  | nil => rfl
  | cons event rest ih => simp only [Store.applyAll, List.length_cons, ih]

namespace Store

/-- The store behind events that are applied in order. -/
def replay (events : List Event) (store : Store) : Store :=
  (store.applyAll events).2

theorem replay_append (earlier later : List Event) (store : Store) :
    store.replay (earlier ++ later) = (store.replay earlier).replay later := by
  simp only [replay, apply_all_append]

theorem replay_append_one (events : List Event) (event : Event) (store : Store) :
    store.replay (events ++ [event]) = (event.apply (store.replay events)).store :=
  replay_append events [event] store

theorem replay_cons (earlier later : List Event) (event : Event) (store : Store) :
    store.replay (earlier ++ event :: later) =
      (event.apply (store.replay earlier)).store.replay later :=
  replay_append earlier (event :: later) store

/-- A row that each of the events leaves as it is, if the ones before it did, stays as it is. -/
theorem load_replay_kept {collection : Collection} {id : Text} (events : List Event) (store : Store)
    (kept : ∀ before event after, events = before ++ event :: after →
      (store.replay before).load collection id = store.load collection id →
      (event.apply (store.replay before)).store.load collection id =
        (store.replay before).load collection id) :
    (store.replay events).load collection id = store.load collection id := by
  induction events using List.reverseRecOn with
  | nil => rfl
  | append_singleton events event ih =>
      have before := ih fun before other after split =>
        kept before other (after ++ [event]) (by rw [split, List.append_assoc, List.cons_append])
      rw [replay_append_one]
      exact (kept events event [] rfl before).trans before

/-- Events that are applied in order delete no row. -/
theorem row_stays_replay (events : List Event) (store : Store) {collection : Collection} {id : Text}
    (stored : (store.load collection id).isSome = true) :
    ((store.replay events).load collection id).isSome = true := by
  induction events generalizing store with
  | nil => exact stored
  | cons event rest ih => exact ih _ (row_stays event store collection id stored)

end Store

namespace History

theorem store_append (earlier later : List Event) :
    store (earlier ++ later) = (store earlier).replay later := by
  simp only [store_eq_apply_all, Store.apply_all_append, Store.replay]

theorem store_append_one (events : List Event) (event : Event) :
    store (events ++ [event]) = (event.apply (store events)).store :=
  store_append events [event]

theorem load_nil (collection : Collection) (id : Text) : (store []).load collection id = none := by
  cases collection <;> rfl

theorem row_stays_stored (earlier later : List Event) {collection : Collection} {id : Text}
    (stored : ((store earlier).load collection id).isSome = true) :
    ((store (earlier ++ later)).load collection id).isSome = true := by
  rw [store_append]
  exact Store.row_stays_replay later (store earlier) stored

theorem apply_behind (events : List Event) (event : Event) :
    ((run events).2.apply event).1 = .ok (event.apply (store events)).value ∧
      ((run events).2.apply event).2.state = store (events ++ [event]) := by
  rw [store_append_one]
  exact Engine.apply_in_memory event (run events).2

/-- The outcome of an event is decided by the store behind the events before it. -/
theorem outcome_at (earlier later : List Event) (event : Event) :
    (outcomes (earlier ++ event :: later))[earlier.length]? =
      some (event.apply (store earlier)).value := by
  have length := Store.apply_all_length earlier Store.empty
  rw [outcomes_eq_apply_all, Store.apply_all_append, store_eq_apply_all, List.map_append,
    List.getElem?_append_right (by simp [length]), List.length_map, length, Nat.sub_self]
  rfl

theorem split_at_position {events : List Event} {position : Nat} {event : Event}
    (present : events[position]? = some event) :
    events = events.take position ++ event :: events.drop (position + 1) ∧
      (events.take position).length = position := by
  obtain ⟨inside, isEvent⟩ := List.getElem?_eq_some_iff.mp present
  constructor
  · rw [← isEvent, ← List.drop_eq_getElem_cons inside, List.take_append_drop]
  · rw [List.length_take]
    omega

theorem outcome_at_position (events : List Event) (position : Nat) (event : Event)
    (present : events[position]? = some event) :
    (outcomes events)[position]? = some (event.apply (store (events.take position))).value := by
  obtain ⟨split, length⟩ := split_at_position present
  have outcome := outcome_at (events.take position) (events.drop (position + 1)) event
  rw [← split, length] at outcome
  exact outcome

theorem load_append_kept {collection : Collection} {id : Text} (earlier later : List Event)
    (kept : ∀ before event after, later = before ++ event :: after →
      (event.apply (store (earlier ++ before))).store.load collection id =
        (store (earlier ++ before)).load collection id) :
    (store (earlier ++ later)).load collection id = (store earlier).load collection id := by
  rw [store_append]
  apply Store.load_replay_kept
  intro before event after split _
  rw [← store_append]
  exact kept before event after split

/-- A row that only certain events write, each regardless of what was there, is what the last of
them wrote. -/
theorem load_last_write {collection : Collection} {id : Text}
    (write : Event → Option collection.Row)
    (writes : ∀ event store, (event.apply store).store.load collection id =
      (write event).or (store.load collection id)) (events : List Event) :
    (store events).load collection id = (events.filterMap write).getLast? := by
  induction events using List.reverseRecOn with
  | nil => exact load_nil collection id
  | append_singleton events event ih =>
      rw [store_append_one, writes, ih, List.filterMap_append, List.getLast?_append]
      cases wrote : write event with
      | none => simp [wrote]
      | some row => simp [wrote]

/-- A row that only certain events write, each unless one is there, is what the first of them
wrote. -/
theorem load_first_write {collection : Collection} {id : Text}
    (write : Event → Option collection.Row)
    (writes : ∀ (event : Event) (store : Store), (event.apply store).store.load collection id =
      (store.load collection id).or (write event)) (events : List Event) :
    (store events).load collection id = (events.filterMap write).head? := by
  induction events using List.reverseRecOn with
  | nil => exact load_nil collection id
  | append_singleton events event ih =>
      rw [store_append_one, writes, ih, List.filterMap_append, List.head?_append]
      cases wrote : write event with
      | none => simp [wrote]
      | some row => simp [wrote]

/-- The rows that the events build for an id, in order. -/
def built {collection : Collection} (row? : Event → Option collection.Row) (id : Text)
    (events : List Event) : List collection.Row :=
  events.filterMap fun event => (row? event).filter fun row => Record.id row = id

section Built

variable {collection : Collection} {row? : Event → Option collection.Row}

theorem mem_built_iff (id : Text) (events : List Event) (row : collection.Row) :
    row ∈ built row? id events ↔
      ∃ event ∈ events, row? event = some row ∧ Record.id row = id := by
  simp only [built, List.mem_filterMap, Option.filter_eq_some_iff, decide_eq_true_eq]

theorem built_eq_nil_iff (id : Text) (events : List Event) :
    built row? id events = [] ↔
      ∀ event ∈ events, ∀ row, row? event = some row → Record.id row ≠ id := by
  simp only [built, List.filterMap_eq_nil_iff, Option.filter_eq_none_iff, decide_eq_true_eq]

theorem built_ne_nil_iff (id : Text) (events : List Event) :
    built row? id events ≠ [] ↔
      ∃ event ∈ events, ∃ row, row? event = some row ∧ Record.id row = id := by
  rw [ne_eq, built_eq_nil_iff]
  push Not
  rfl

theorem built_split (earlier later : List Event) (event : Event) (row : collection.Row)
    (builds : row? event = some row) :
    built row? (Record.id row) (earlier ++ event :: later) =
      built row? (Record.id row) earlier ++ row :: built row? (Record.id row) later := by
  simp [built, builds, Option.filter]

theorem load_eq_head_built
    (own : ∀ event store, event.effectsOn collection store =
      ((row? event).map (Effect.first collection)).toList) (events : List Event) (id : Text) :
    (store events).load collection id = (built row? id events).head? := by
  apply load_first_write
  intro event store
  cases builds : row? event with
  | none =>
      have none : event.effectsOn collection store = [] := by simp [own, builds]
      rw [load_apply_beside none id (by simp)]
      simp
  | some row => exact load_apply_own_first (by simp [own, builds]) id

theorem load_eq_last_built
    (own : ∀ event store, event.effectsOn collection store =
      ((row? event).map (Effect.last collection)).toList) (events : List Event) (id : Text) :
    (store events).load collection id = (built row? id events).getLast? := by
  apply load_last_write
  intro event store
  cases builds : row? event with
  | none =>
      have none : event.effectsOn collection store = [] := by simp [own, builds]
      rw [load_apply_beside none id (by simp)]
      simp
  | some row => exact load_apply_own_last (by simp [own, builds]) id

end Built

end History

end BridgeState
