import BridgeState.Proofs.History

/-!
# Events that are cut off

There is no transaction around the saves of an event, so a backend may fail between two of them. The
saves done before are kept; if the event is applied again, to the store they left, it leaves what it
leaves when nothing fails.
-/

namespace BridgeState

set_option autoImplicit false

/-- A store in memory whose saves fail when none are left. -/
structure FailingStore where
  store : Store
  savesLeft : Nat
  fault : StoreFault

instance : Backend FailingStore where
  name _ := "FailingStore"
  load collection id state := (.ok (state.store.load collection id), state)
  save collection row state :=
    match state.savesLeft with
    | 0 => (.error state.fault, state)
    | left + 1 =>
      (.ok (), { state with store := state.store.save collection row, savesLeft := left })
  list collection query state := (.ok (state.store.list collection query), state)
  count collection status state :=
    (.ok (.plain (.nat (state.store.count collection status))), state)
  maxBlock collection state := (.ok (.ofOption .nat (state.store.maxBlock collection)), state)

def Event.cutOff (event : Event) (saves : Nat) (store : Store) : Store :=
  store.saveAll ((event.script.writes store).take saves)

namespace Engine

/-- A script that runs out of saves fails, and keeps the saves that were done. -/
theorem perform_failing {α : Type} (script : Script α) (engine : Engine FailingStore) :
    (perform script engine).1 =
        (if engine.state.savesLeft < (script.writes engine.state.store).length then
          .error engine.state.fault
        else .ok (script.run engine.state.store).value) ∧
      (perform script engine).2.state.store =
        engine.state.store.saveAll
          ((script.writes engine.state.store).take engine.state.savesLeft) := by
  induction script generalizing engine with
  | done value => exact ⟨by simp [perform, Script.writes, Script.run], by
      simp [perform, Script.writes, Store.saveAll]⟩
  | load collection id next ih => exact ih (engine.state.store.load collection id) engine
  | report diagnostic next ih => exact ih (engine.report diagnostic)
  | save collection row next ih =>
      obtain ⟨⟨store, savesLeft, fault⟩, metrics, diagnostics, latency⟩ := engine
      cases savesLeft with
      | zero => exact ⟨by simp [perform, Backend.save, Script.writes], by
          simp [perform, Backend.save, Store.saveAll]⟩
      | succ left =>
          have rest := ih ⟨⟨store.save collection row, left, fault⟩, metrics, diagnostics, latency⟩
          simp only [perform, Backend.save, Script.writes, Script.run, List.length_cons,
            Nat.add_lt_add_iff_right]
          exact rest

theorem apply_failing (event : Event) (engine : Engine FailingStore) :
    (engine.apply event).1 =
        (if engine.state.savesLeft < (event.script.writes engine.state.store).length then
          .error (.store engine.state.fault)
        else .ok (event.apply engine.state.store).value) ∧
      (engine.apply event).2.state.store =
        event.cutOff engine.state.savesLeft engine.state.store := by
  obtain ⟨reply, left⟩ := perform_failing event.script engine
  unfold Engine.apply
  by_cases few : engine.state.savesLeft < (event.script.writes engine.state.store).length
  · rw [if_pos few] at reply ⊢
    match performed : perform event.script engine with
    | (.ok _, _) =>
        rw [performed] at reply
        cases reply
    | (.error fault, after) =>
        rw [performed] at reply left
        exact ⟨congrArg (Except.error ∘ EngineFault.store) (Except.error.inj reply), left⟩
  · rw [if_neg few] at reply ⊢
    match performed : perform event.script engine with
    | (.error _, _) =>
        rw [performed] at reply
        cases reply
    | (.ok outcome, after) =>
        rw [performed] at reply left
        exact ⟨congrArg Except.ok (Except.ok.inj reply), left⟩

end Engine

/-- The first effects of an event do not change which effects it has. -/
theorem effects_behind_some (event : Event) (store : Store) (done rest : List Effect)
    (split : event.effects store = done ++ rest) :
    event.effects (Effect.performAll done store) = event.effects store := by
  obtain ⟨blockNumber, body⟩ := event
  cases body with
  | validatorList messageId proposalId hostAddresses threshold =>
      apply effects_of_registry
      intro host
      refine Effect.row_at_perform_all_ne done store ⟨.candidateValidators, host⟩ ?_
      intro effect member same
      have inEffects := List.mem_append_left rest member
      rw [← split] at inEffects
      have touches := touched_of_mem_effects _ store effect inEffects
      rw [← same] at touches
      simp [EventBody.touched] at touches
  | _ => rfl

/-- An event that is applied to what is left of its first attempt leaves what it leaves
uninterrupted. -/
theorem apply_behind_cut (event : Event) (saves : Nat) (store : Store) :
    (event.apply (event.cutOff saves store)).store = (event.apply store).store := by
  obtain ⟨done, rest, split, taken⟩ := Effect.take_writes_all (event.effects store) store saves
  have cut : event.cutOff saves store = Effect.performAll done store := by
    rw [Event.cutOff, (event_does event store).writes, taken, Effect.perform_all_eq_save_all]
  have distinct : (done.map Effect.place).Nodup := by
    have all := effects_distinct event store
    rw [split, List.map_append] at all
    exact all.of_append_left
  rw [cut, apply_store, apply_store, effects_behind_some event store done rest split, split]
  exact Effect.perform_all_after_cut done rest store distinct

/-- An event on a backend that fails after some saves keeps these saves and tells the fault, unless
they were all; applied again to the store they left, it leaves the store that it leaves at once. -/
theorem retry_after_fault (event : Event) (store : Store) (saves : Nat) (fault : StoreFault)
    (metrics : Option Metrics) :
    ((Engine.start (FailingStore.mk store saves fault) metrics).apply event).2.state.store =
        event.cutOff saves store ∧
      ((Engine.start (FailingStore.mk store saves fault) metrics).apply event).1 =
        (if saves < (event.script.writes store).length then .error (.store fault)
        else .ok (event.apply store).value) ∧
      ((Engine.start (event.cutOff saves store) metrics).apply event).2.state =
        ((Engine.start store metrics).apply event).2.state := by
  obtain ⟨reply, left⟩ :=
    Engine.apply_failing event (Engine.start (FailingStore.mk store saves fault) metrics)
  refine ⟨left, reply, ?_⟩
  rw [(Engine.apply_in_memory event (Engine.start _ metrics)).2,
    (Engine.apply_in_memory event (Engine.start store metrics)).2]
  exact apply_behind_cut event saves store

end BridgeState
