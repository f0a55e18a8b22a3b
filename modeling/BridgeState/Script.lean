import BridgeState.Outcome
import BridgeState.Store.Basic

/-!
# Scripts

A script is what an event does, step by step: rows are loaded one at a time, rows are saved one at a
time, and diagnostics are told in between. The same script runs on any backend. `Script.run` runs it
on a store in memory, where nothing fails; `Script.writes` lists the rows that such a run saves, and
`Script.store_run` says that the store afterwards is those rows saved in order.
-/

namespace BridgeState

set_option autoImplicit false

inductive Script (α : Type) : Type where
  | done (value : α)
  | load (collection : Collection) (id : Text) (next : Option collection.Row → Script α)
  | save (collection : Collection) (row : collection.Row) (next : Script α)
  | report (diagnostic : Diagnostic) (next : Script α)

structure Ran (α : Type) where
  value : α
  store : Store
  diagnostics : List Diagnostic

namespace Script

def bind {α β : Type} : Script α → (α → Script β) → Script β
  | .done value, next => next value
  | .load collection id more, next => .load collection id fun row => bind (more row) next
  | .save collection row more, next => .save collection row (bind more next)
  | .report diagnostic more, next => .report diagnostic (bind more next)

instance : Monad Script where
  pure := .done
  bind := bind

def loaded (collection : Collection) (id : Text) : Script (Option collection.Row) :=
  .load collection id .done

def saving (collection : Collection) (row : collection.Row) : Script Unit :=
  .save collection row (.done ())

def reporting (diagnostic : Diagnostic) : Script Unit :=
  .report diagnostic (.done ())

def run {α : Type} : Script α → Store → Ran α
  | .done value, store => ⟨value, store, []⟩
  | .load collection id next, store => run (next (store.load collection id)) store
  | .save collection row next, store => run next (store.save collection row)
  | .report diagnostic next, store =>
    let rest := run next store
    { rest with diagnostics := diagnostic :: rest.diagnostics }

def writes {α : Type} : Script α → Store → List AnyRow
  | .done _, _ => []
  | .load collection id next, store => writes (next (store.load collection id)) store
  | .save collection row next, store =>
    ⟨collection, row⟩ :: writes next (store.save collection row)
  | .report _ next, store => writes next store

end Script

def Store.saveAll (rows : List AnyRow) (store : Store) : Store :=
  rows.foldl (fun store row => store.save row.collection row.row) store

namespace Script

theorem store_run {α : Type} (script : Script α) (store : Store) :
    (script.run store).store = store.saveAll (script.writes store) := by
  induction script generalizing store with
  | done value => rfl
  | load collection id next ih => exact ih _ store
  | save collection row next ih => exact ih _
  | report diagnostic next ih => exact ih store

theorem run_bind {α β : Type} (script : Script α) (next : α → Script β) (store : Store) :
    (script.bind next).run store =
      let first := script.run store
      let second := (next first.value).run first.store
      { second with diagnostics := first.diagnostics ++ second.diagnostics } := by
  induction script generalizing store with
  | done value => rfl
  | load collection id more ih => exact ih _ store
  | save collection row more ih => exact ih _
  | report diagnostic more ih => simp only [bind, run, ih]; rfl

theorem writes_bind {α β : Type} (script : Script α) (next : α → Script β) (store : Store) :
    (script.bind next).writes store =
      script.writes store ++ (next (script.run store).value).writes (script.run store).store := by
  induction script generalizing store with
  | done value => rfl
  | load collection id more ih => exact ih _ store
  | save collection row more ih => simp only [bind, writes, run, ih, List.cons_append]
  | report diagnostic more ih => exact ih store

end Script

end BridgeState
