import BridgeState.Proofs.Batches

/-!
# Calls

What an engine is asked to apply comes by itself or in a batch. It may be an event, an object for
whose kind there is no handler, or a JSON value that should be an event. A call applies what can be
read up to the first thing that is no event, at which it fails: in memory the engine is then as it
was before that, and calls one behind the other apply all the events that they read, in order.
-/

namespace BridgeState

set_option autoImplicit false

inductive Given where
  | parsed (event : Event)
  | unknown (kind : Json)
  | raw (input : Json)

def Given.read : Given → Except EngineFault Event
  | .parsed event => .ok event
  | .unknown kind => .error (.noHandler kind)
  | .raw input => (Event.parse input).mapError .malformed

inductive Call where
  | one (given : Given)
  | all (given : List Given)

def Call.given : Call → List Given
  | .one given => [given]
  | .all given => given

/-- The outcomes of the events that a call applied, and the fault that it ended with. -/
structure Answer where
  outcomes : List Outcome
  fault : Option EngineFault

namespace Halt

def fault : Halt EngineFault → EngineFault
  | .unreadable fault => fault
  | .failed fault => .store fault

end Halt

namespace Engine

variable {σ ι ε : Type}

/-- The events that are read up to the first item that is none. -/
def readable (read : ι → Except ε Event) : List ι → List Event
  | [] => []
  | item :: rest =>
    match read item with
    | .ok event => event :: readable read rest
    | .error _ => []

section Backend

variable [Backend σ]

def give (given : Given) (engine : Engine σ) : Except EngineFault Outcome × Engine σ :=
  match given with
  | .parsed event => engine.apply event
  | .unknown kind => engine.applyUnknown kind
  | .raw input => engine.applyJson input

def call : Call → Engine σ → Answer × Engine σ
  | .one given, engine =>
    match engine.give given with
    | (.ok outcome, after) => (⟨[outcome], none⟩, after)
    | (.error fault, after) => (⟨[], some fault⟩, after)
  | .all given, engine =>
    let (batch, after) := applyEach Given.read given engine
    (⟨batch.applied.map Applied.outcome, batch.halt.map Halt.fault⟩, after)

/-- Calls one behind the other; one that fails does not keep the next from being made. -/
def calls : List Call → Engine σ → List Answer × Engine σ
  | [], engine => ([], engine)
  | call :: rest, engine =>
    let (answer, after) := engine.call call
    let (answers, last) := calls rest after
    (answer :: answers, last)

theorem give_unreadable {given : Given} {fault : EngineFault} (unread : given.read = .error fault)
    (engine : Engine σ) : engine.give given = (.error fault, engine) := by
  cases given with
  | parsed event => cases unread
  | unknown kind =>
      obtain rfl := Except.error.inj unread
      rfl
  | raw input =>
      simp only [Given.read] at unread
      cases parsed : Event.parse input with
      | ok event =>
          rw [parsed] at unread
          cases unread
      | error malformed =>
          rw [parsed] at unread
          obtain rfl := Except.error.inj unread
          simp only [give, applyJson, parsed]

theorem give_readable {given : Given} {event : Event} (isEvent : given.read = .ok event)
    (engine : Engine σ) : engine.give given = engine.apply event := by
  cases given with
  | parsed other =>
      obtain rfl := Except.ok.inj isEvent
      rfl
  | unknown kind => cases isEvent
  | raw input =>
      simp only [Given.read] at isEvent
      cases parsed : Event.parse input with
      | ok other =>
          rw [parsed] at isEvent
          obtain rfl := Except.ok.inj isEvent
          simp only [give, applyJson, parsed]
      | error malformed =>
          rw [parsed] at isEvent
          cases isEvent

/-- What is given by itself is applied as a batch of one. -/
theorem call_eq_batch (call : Call) (engine : Engine σ) :
    engine.call call = engine.call (.all call.given) := by
  cases call with
  | all given => rfl
  | one given =>
      simp only [Engine.call, Call.given]
      cases isEvent : given.read with
      | error fault =>
          rw [give_unreadable isEvent, apply_each_unreadable isEvent]
          rfl
      | ok event =>
          rw [give_readable isEvent]
          simp only [apply]
          rcases performed : perform event.script engine with ⟨result, after⟩
          cases result with
          | error fault =>
              rw [apply_each_failed isEvent performed]
              rfl
          | ok outcome =>
              rw [apply_each_applied isEvent performed]
              rfl

end Backend

section InMemory

/-- In memory a batch applies the events that are read up to the first item that is none. -/
theorem apply_each_eq_readable (read : ι → Except ε Event) (items : List ι)
    (engine : Engine Store) :
    (applyEach read items engine).1.applied = (engine.applyEvents (readable read items)).1.applied ∧
      (applyEach read items engine).2 = (engine.applyEvents (readable read items)).2 := by
  induction items generalizing engine with
  | nil => exact ⟨rfl, rfl⟩
  | cons item rest ih =>
      cases isEvent : read item with
      | error cause =>
          rw [apply_each_unreadable isEvent]
          simp only [readable, isEvent]
          exact ⟨rfl, rfl⟩
      | ok event =>
          obtain ⟨after, performed, _⟩ := perform_in_memory event.script engine
          have known : (Except.ok event : Except Empty Event) = .ok event := rfl
          simp only [readable, isEvent, applyEvents]
          rw [apply_each_applied isEvent performed, apply_each_applied known performed]
          obtain ⟨applied, last⟩ :=
            ih (after.recordApply event (event.script.run engine.state).value)
          exact ⟨congrArg (List.cons _) applied, last⟩

/-- In memory a batch stops only at an item that is no event, and leaves the engine as the items
before it do. -/
theorem apply_each_halted (read : ι → Except ε Event) (items : List ι) (engine : Engine Store)
    {halt : Halt ε} (halted : (applyEach read items engine).1.halt = some halt) :
    ∃ before bad rest cause, items = before ++ bad :: rest ∧ read bad = .error cause ∧
      halt = .unreadable cause ∧ (applyEach read before engine).1.halt = none ∧
      (applyEach read items engine).2 = (applyEach read before engine).2 := by
  induction items generalizing engine with
  | nil => cases halted
  | cons item rest ih =>
      cases isEvent : read item with
      | error cause =>
          rw [apply_each_unreadable isEvent] at halted ⊢
          exact ⟨[], item, rest, cause, rfl, isEvent, (Option.some.inj halted).symm, rfl, rfl⟩
      | ok event =>
          obtain ⟨after, performed, _⟩ := perform_in_memory event.script engine
          rw [apply_each_applied isEvent performed] at halted ⊢
          obtain ⟨before, bad, later, cause, split, unread, isCause, noHalt, same⟩ := ih _ halted
          refine ⟨item :: before, bad, later, cause, ?_, unread, isCause, ?_, ?_⟩
          · rw [split, List.cons_append]
          · rw [apply_each_applied isEvent performed]
            exact noHalt
          · rw [apply_each_applied isEvent performed]
            exact same

theorem apply_events_append (earlier later : List Event) (engine : Engine Store) :
    (engine.applyEvents (earlier ++ later)).1.applied =
        (engine.applyEvents earlier).1.applied ++
          ((engine.applyEvents earlier).2.applyEvents later).1.applied ∧
      (engine.applyEvents (earlier ++ later)).2 =
        ((engine.applyEvents earlier).2.applyEvents later).2 := by
  have complete := (apply_events_in_memory earlier engine).1
  simp only [applyEvents] at complete ⊢
  rw [applyEach_append]
  rcases applied : applyEach Except.ok earlier engine with ⟨⟨events, halt⟩, after⟩
  rw [applied] at complete
  obtain ⟨-, rfl⟩ := Batch.mk.inj complete
  exact ⟨rfl, rfl⟩

theorem state_apply_events (events : List Event) (engine : Engine Store) :
    (engine.applyEvents events).2.state = engine.state.replay events :=
  (apply_events_in_memory events engine).2

end InMemory

end Engine

/-- The events that a call reads up to the first thing that is none. -/
def Call.events (call : Call) : List Event :=
  Engine.readable Given.read call.given

namespace Engine

theorem call_in_memory (call : Call) (engine : Engine Store) :
    (engine.call call).1.outcomes = (engine.applyEvents call.events).1.applied.map Applied.outcome ∧
      (engine.call call).2 = (engine.applyEvents call.events).2 := by
  obtain ⟨applied, after⟩ := apply_each_eq_readable Given.read call.given engine
  rw [call_eq_batch]
  exact ⟨congrArg (List.map Applied.outcome) applied, after⟩

/-- In memory calls leave what a batch of the events that they read leaves, with the same
outcomes. -/
theorem calls_in_memory (calls : List Call) (engine : Engine Store) :
    (engine.calls calls).1.flatMap Answer.outcomes =
        (engine.applyEvents (calls.flatMap Call.events)).1.applied.map Applied.outcome ∧
      (engine.calls calls).2 = (engine.applyEvents (calls.flatMap Call.events)).2 := by
  induction calls generalizing engine with
  | nil => exact ⟨rfl, rfl⟩
  | cons call rest ih =>
      obtain ⟨outcomes, after⟩ := engine.call_in_memory call
      obtain ⟨later, last⟩ := ih (engine.call call).2
      obtain ⟨applied, both⟩ :=
        engine.apply_events_append call.events (rest.flatMap Call.events)
      simp only [Engine.calls, List.flatMap_cons]
      rw [applied, both, List.map_append, ← after, ← outcomes, later, last]
      exact ⟨rfl, rfl⟩

/-- A call that fails does so at something that is no event, and leaves the engine as what was given
before that leaves it. -/
theorem call_failed (call : Call) (engine : Engine Store) {fault : EngineFault}
    (failed : (engine.call call).1.fault = some fault) :
    ∃ before bad rest, call.given = before ++ bad :: rest ∧ bad.read = .error fault ∧
      (engine.call (.all before)).1.fault = none ∧
      (engine.call call).2 = (engine.call (.all before)).2 := by
  rw [call_eq_batch] at failed ⊢
  simp only [Engine.call] at failed ⊢
  obtain ⟨halt, halted, isFault⟩ := Option.map_eq_some_iff.mp failed
  obtain ⟨before, bad, rest, cause, split, unread, isHalt, noHalt, same⟩ :=
    apply_each_halted Given.read call.given engine halted
  rw [isHalt] at isFault
  obtain rfl : cause = fault := isFault
  exact ⟨before, bad, rest, split, unread, by rw [noHalt]; rfl, same⟩

end Engine

end BridgeState
