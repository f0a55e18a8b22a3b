import BridgeState.Engine.Replay
import BridgeState.Proofs.Batches

/-!
# Replays

What a replay ends with is what `Engine.applyJsons` tells of the batch behind it. A replay in several
parts leaves what a replay of the whole leaves; the summaries of the parts add up to its summary, or to
its position if it stops at an object that is no event.
-/

namespace BridgeState

set_option autoImplicit false

namespace Summary

def countingAll (applied : List Applied) (counted : Summary) : Summary :=
  applied.foldl (fun counted one => counted.counting one) counted

structure AddUp (summaries : List Summary) (whole : Summary) : Prop where
  events : total eventCount summaries = whole.eventCount
  outcomes : ∀ name, total (fun summary => Tally.get name summary.outcomes) summaries =
    Tally.get name whole.outcomes
  diagnostics : total diagnosticCount summaries = whole.diagnosticCount

theorem counting_all_eq (applied : List Applied) (counted : Summary) :
    counted.countingAll applied =
      ⟨counted.eventCount + applied.length,
        (applied.map fun one => Named.name one.outcome).foldl
          (fun tally name => Tally.add name tally) counted.outcomes,
        (applied.getLast?.map fun one => one.event.blockNumber).or counted.lastBlockNumber,
        counted.diagnosticCount⟩ := by
  induction applied generalizing counted with
  | nil => rfl
  | cons first rest ih =>
      have later := ih (counted.counting first)
      simp only [countingAll, List.foldl_cons] at later ⊢
      have length : counted.eventCount + 1 + rest.length =
          counted.eventCount + (rest.length + 1) := by
        omega
      rw [later, List.getLast?_cons, List.length_cons, List.map_cons, List.foldl_cons, counting,
        length]
      cases rest.getLast? with
      | none => rfl
      | some last => rfl

theorem counting_all_zero {ε : Type} (batch : Batch ε) :
    zero.countingAll batch.applied = batch.summary 0 := by
  rw [counting_all_eq]
  simp only [zero, Nat.zero_add, Option.or_none]
  rfl

end Summary

def ReplayEnd.ofBatch (batch : Batch MalformedEvent) (told : List Diagnostic) : ReplayEnd :=
  match batch.halt with
  | none => .finished (batch.summary told.length)
  | some (.unreadable problem) => .malformed batch.applied.length problem
  | some (.failed fault) => .failed fault

namespace Engine

variable {σ : Type} [Backend σ]

/-- Replays parts one behind the other, up to the first that does not finish. -/
def replayParts : List (List Json) → Engine σ → List ReplayEnd × Engine σ
  | [], engine => ([], engine)
  | part :: rest, engine =>
    match engine.replay part with
    | (.finished summary, after) =>
      let (ends, last) := replayParts rest after
      (.finished summary :: ends, last)
    | (stopped, after) => ([stopped], after)

theorem replay_from_eq (position : Nat) (counted : Summary) (inputs : List Json)
    (engine : Engine σ) :
    replayFrom position counted inputs engine =
      (match (engine.applyJsons inputs).1.halt with
        | none => .finished (counted.countingAll (engine.applyJsons inputs).1.applied)
        | some (.unreadable problem) =>
          .malformed (position + (engine.applyJsons inputs).1.applied.length) problem
        | some (.failed fault) => .failed fault,
        (engine.applyJsons inputs).2) := by
  induction inputs generalizing position counted engine with
  | nil => rfl
  | cons input rest ih =>
      simp only [applyJsons] at ih ⊢
      cases isEvent : Event.parse input with
      | error problem =>
          rw [apply_each_unreadable isEvent]
          simp only [replayFrom, isEvent]
          rfl
      | ok event =>
          rcases performed : perform event.script engine with ⟨result, after⟩
          cases result with
          | error fault =>
              rw [apply_each_failed isEvent performed]
              simp only [replayFrom, isEvent, performed]
          | ok outcome =>
              rw [apply_each_applied isEvent performed]
              simp only [replayFrom, isEvent, performed, ih, Batch.behind, List.length_cons]
              have next (count : Nat) : position + 1 + count = position + (count + 1) := by
                omega
              rw [next]
              rfl

theorem replay_eq (inputs : List Json) (engine : Engine σ) :
    engine.replay inputs =
      (.ofBatch (engine.applyJsons inputs).1 ((engine.applyJsons inputs).2.diagnosticsSince engine),
        (engine.applyJsons inputs).2) := by
  rw [replay, replay_from_eq]
  rcases engine.applyJsons inputs with ⟨⟨applied, halt⟩, after⟩
  cases halt with
  | none =>
      have counted := Summary.counting_all_zero (⟨applied, none⟩ : Batch MalformedEvent)
      simp only [counted]
      rfl
  | some halt =>
      cases halt with
      | unreadable problem =>
          simp only [Nat.zero_add]
          rfl
      | failed fault => rfl

theorem replay_parts_eq (parts : List (List Json)) (engine : Engine σ) :
    engine.replayParts parts =
      ((applyParts Event.parse parts engine).1.map fun part => .ofBatch part.1 part.2,
        (applyParts Event.parse parts engine).2) := by
  induction parts generalizing engine with
  | nil => rfl
  | cons part rest ih =>
      simp only [replayParts, applyParts, replay_eq, applyJsons]
      rcases applyEach Event.parse part engine with ⟨⟨applied, halt⟩, after⟩
      cases halt with
      | none =>
          simp only [ReplayEnd.ofBatch, ih, List.map_cons]
      | some halt =>
          cases halt with
          | unreadable problem => rfl
          | failed fault => rfl

end Engine

/-- Parts that did not stop end with their summaries. -/
theorem ReplayEnd.of_complete (parts : List (Batch MalformedEvent × List Diagnostic))
    (complete : ∀ part ∈ parts, part.1.halt = none) :
    (parts.map fun part => ReplayEnd.ofBatch part.1 part.2) =
      (Summary.ofParts parts).map ReplayEnd.finished := by
  rw [Summary.ofParts, List.map_map]
  refine List.map_congr_left fun part member => ?_
  simp only [ofBatch, complete part member, Function.comp_apply]

namespace Engine

variable {σ : Type} [Backend σ] (parts : List (List Json)) (engine : Engine σ)

theorem replay_parts_finished (summary : Summary)
    (finished : (engine.replay parts.flatten).1 = .finished summary) :
    ∃ summaries, (engine.replayParts parts).1 = summaries.map .finished ∧
      summaries.length = parts.length ∧ Summary.AddUp summaries summary := by
  obtain ⟨_, sameApplied, sameTold, complete⟩ := apply_parts_eq_flatten Event.parse parts engine
  simp only [replay_eq, applyJsons, ReplayEnd.ofBatch] at finished
  split at finished
  · rename_i noHalt
    obtain ⟨sameLength, noHalts⟩ := complete noHalt
    have isSummary := ReplayEnd.finished.inj finished
    refine ⟨Summary.ofParts (applyParts Event.parse parts engine).1, ?_, ?_, ?_⟩
    · rw [replay_parts_eq]
      exact ReplayEnd.of_complete _ noHalts
    · exact (List.length_map _).trans sameLength
    · constructor
      · rw [Summary.total_event_count, sameApplied, ← isSummary]
        rfl
      · intro name
        rw [Summary.total_outcome, sameApplied, ← isSummary]
        exact (Tally.get_of_list name _).symm
      · rw [Summary.total_diagnostic_count, sameTold, ← isSummary]
        rfl
  · cases finished
  · cases finished

theorem replay_parts_malformed (position : Nat) (problem : MalformedEvent)
    (stopped : (engine.replay parts.flatten).1 = .malformed position problem) :
    ∃ summaries last, (engine.replayParts parts).1 =
        summaries.map .finished ++ [.malformed last problem] ∧
      Summary.total Summary.eventCount summaries + last = position := by
  obtain ⟨_, sameApplied, _, _⟩ := apply_parts_eq_flatten Event.parse parts engine
  simp only [replay_eq, applyJsons, ReplayEnd.ofBatch] at stopped
  split at stopped
  · cases stopped
  · rename_i problem' halted
    obtain ⟨isPosition, rfl⟩ := ReplayEnd.malformed.inj stopped
    obtain ⟨before, last, split, complete, lastStops⟩ :=
      apply_parts_halted Event.parse parts engine _ halted
    refine ⟨Summary.ofParts before, last.1.applied.length, ?_, ?_⟩
    · rw [replay_parts_eq, split, List.map_append, ReplayEnd.of_complete before complete]
      simp only [List.map_cons, List.map_nil, ReplayEnd.ofBatch, lastStops]
    · rw [split, List.map_append, List.flatten_append] at sameApplied
      have lengths := congrArg List.length sameApplied
      rw [List.length_append, List.map_cons, List.map_nil, List.flatten_singleton] at lengths
      rw [Summary.total_event_count, lengths, isPosition]
  · cases stopped

end Engine

end BridgeState
