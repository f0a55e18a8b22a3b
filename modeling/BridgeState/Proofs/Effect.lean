import BridgeState.Script
import Mathlib.Data.List.Nodup

/-!
# Effects on single rows

What an event does to a store is a list of effects, each on the row at one place. An effect keeps
the first row of its id, sets the row whatever was there, or changes the row that is there. It saves
at most one row and touches no other place, so effects on different places each decide their own
row, and as a list they are idempotent even if the first time it was cut off before its end.
-/

namespace BridgeState

set_option autoImplicit false

structure Place where
  collection : Collection
  id : Text
deriving Repr, DecidableEq

/-- A change of rows that keeps their ids and adds nothing when it is made a second time. -/
structure Change (collection : Collection) where
  result : collection.Row → collection.Row
  id_result : ∀ row, Record.id (result row) = Record.id row
  result_result : ∀ row, result (result row) = result row

inductive Effect where
  | first (collection : Collection) (row : collection.Row)
  | last (collection : Collection) (row : collection.Row)
  | alter (collection : Collection) (id : Text) (change : Change collection)

namespace Store

def rowAt (place : Place) (store : Store) : Option place.collection.Row :=
  store.load place.collection place.id

theorem ext_row_at {one other : Store} (same : ∀ place, one.rowAt place = other.rowAt place) :
    one = other :=
  ext_load fun collection id => same ⟨collection, id⟩

theorem id_of_load {collection : Collection} {id : Text} {store : Store}
    {row : collection.Row} (found : store.load collection id = some row) : Record.id row = id :=
  ((Table.load_eq_some_iff _ _ _).mp found).2

theorem row_at_save_ne (row : AnyRow) (store : Store) (place : Place)
    (apart : place ≠ ⟨row.collection, Record.id row.row⟩) :
    (store.save row.collection row.row).rowAt place = store.rowAt place := by
  obtain ⟨collection, id⟩ := place
  by_cases same : collection = row.collection
  · subst same
    have otherId : id ≠ Record.id row.row := by
      intro sameId
      exact apart (congrArg (Place.mk row.collection) sameId)
    rw [rowAt, load_save, if_neg otherId]
    rfl
  · exact load_save_ne _ _ _ _ _ same

end Store

namespace Effect

def place : Effect → Place
  | .first collection row => ⟨collection, Record.id row⟩
  | .last collection row => ⟨collection, Record.id row⟩
  | .alter collection id _ => ⟨collection, id⟩

def update : (effect : Effect) → Option effect.place.collection.Row →
    Option effect.place.collection.Row
  | .first _ row, old => old.or (some row)
  | .last _ row, _ => some row
  | .alter _ _ change, old => old.map change.result

/-- The rows that the effect saves: one, or none where nothing is to be changed. -/
def writes : Effect → Store → List AnyRow
  | .first collection row, store =>
    if (store.load collection (Record.id row)).isSome then [] else [⟨collection, row⟩]
  | .last collection row, _ => [⟨collection, row⟩]
  | .alter collection id change, store =>
    match store.load collection id with
    | none => []
    | some row => if change.result row = row then [] else [⟨collection, change.result row⟩]

section Writes

variable {collection : Collection} {store : Store}

theorem writes_first_free {row : collection.Row}
    (free : store.load collection (Record.id row) = none) :
    (first collection row).writes store = [⟨collection, row⟩] := by
  simp [writes, free]

theorem writes_first_taken {row old : collection.Row}
    (taken : store.load collection (Record.id row) = some old) :
    (first collection row).writes store = [] := by
  simp [writes, taken]

variable {id : Text} {change : Change collection} {row : collection.Row}

theorem writes_alter_absent (absent : store.load collection id = none) :
    (alter collection id change).writes store = [] := by
  simp [writes, absent]

theorem writes_alter_same (found : store.load collection id = some row)
    (same : change.result row = row) : (alter collection id change).writes store = [] := by
  simp [writes, found, same]

theorem writes_alter_moved (found : store.load collection id = some row)
    (moved : change.result row ≠ row) :
    (alter collection id change).writes store = [⟨collection, change.result row⟩] := by
  simp [writes, found, moved]

end Writes

def perform (effect : Effect) (store : Store) : Store :=
  store.saveAll (effect.writes store)

theorem writes_length_le_one (effect : Effect) (store : Store) :
    (effect.writes store).length ≤ 1 := by
  cases effect with
  | first collection row =>
      simp only [writes]
      split <;> simp
  | last collection row => simp [writes]
  | alter collection id change =>
      simp only [writes]
      split
      · simp
      · split <;> simp

theorem row_at_perform_self (effect : Effect) (store : Store) :
    (effect.perform store).rowAt effect.place = effect.update (store.rowAt effect.place) := by
  cases effect with
  | first collection row =>
      simp only [perform, writes, place, update, Store.rowAt]
      cases found : store.load collection (Record.id row) with
      | none => simp [Store.saveAll, Store.load_save]
      | some old => simpa [Store.saveAll] using found
  | last collection row =>
      simp [perform, writes, place, update, Store.rowAt, Store.saveAll, Store.load_save]
  | alter collection id change =>
      simp only [perform, writes, place, update, Store.rowAt]
      cases found : store.load collection id with
      | none => simpa [Store.saveAll] using found
      | some row =>
          by_cases same : change.result row = row
          · simpa [same, Store.saveAll] using found
          · have sameId : id = Record.id (change.result row) :=
              ((change.id_result row).trans (Store.id_of_load found)).symm
            simp [same, Store.saveAll, Store.load_save, ← sameId]

theorem place_of_mem_writes (effect : Effect) (store : Store) (row : AnyRow)
    (member : row ∈ effect.writes store) :
    (⟨row.collection, Record.id row.row⟩ : Place) = effect.place := by
  cases effect with
  | first collection row =>
      simp only [writes] at member
      split at member
      · simp at member
      · rw [List.mem_singleton] at member
        rw [member]
        rfl
  | last collection row =>
      rw [writes, List.mem_singleton] at member
      rw [member]
      rfl
  | alter collection id change =>
      simp only [writes] at member
      split at member
      · simp at member
      · rename_i found
        split at member
        · simp at member
        · rw [List.mem_singleton] at member
          subst member
          simp [place, change.id_result, Store.id_of_load found]

/-- An effect touches no place but its own. -/
theorem row_at_perform_ne (effect : Effect) (store : Store) (other : Place)
    (apart : other ≠ effect.place) : (effect.perform store).rowAt other = store.rowAt other := by
  unfold perform
  match rows : effect.writes store with
  | [] => rfl
  | [row] =>
      have atPlace := place_of_mem_writes effect store row (by simp [rows])
      exact Store.row_at_save_ne row store other (atPlace ▸ apart)
  | _ :: _ :: _ =>
      have few := writes_length_le_one effect store
      simp [rows] at few

theorem update_idempotent (effect : Effect) (old : Option effect.place.collection.Row) :
    effect.update (effect.update old) = effect.update old := by
  cases effect with
  | first => cases old <;> rfl
  | last => rfl
  | alter collection id change =>
      cases old with
      | none => rfl
      | some row => exact congrArg some (change.result_result row)

/-- The effect finds its row as it would make it. -/
def Idle (effect : Effect) (store : Store) : Prop :=
  effect.update (store.rowAt effect.place) = store.rowAt effect.place

section Idle

variable {collection : Collection} {store : Store}

theorem idle_first {row : collection.Row}
    (taken : (store.load collection (Record.id row)).isSome = true) :
    (first collection row).Idle store := by
  obtain ⟨old, found⟩ := Option.isSome_iff_exists.mp taken
  change (store.load collection (Record.id row)).or (some row) =
    store.load collection (Record.id row)
  rw [found]
  rfl

theorem idle_last_iff {row : collection.Row} :
    (last collection row).Idle store ↔ store.load collection (Record.id row) = some row :=
  eq_comm

theorem idle_alter {id : Text} {change : Change collection}
    (same : ∀ row, store.load collection id = some row → change.result row = row) :
    (alter collection id change).Idle store := by
  change (store.load collection id).map change.result = store.load collection id
  cases found : store.load collection id with
  | none => rfl
  | some row => exact congrArg some (same row found)

end Idle

def performAll (effects : List Effect) (store : Store) : Store :=
  effects.foldl (fun store effect => effect.perform store) store

/-- The rows that effects save, each judged by the store that the ones before it leave. -/
def writesAll : List Effect → Store → List AnyRow
  | [], _ => []
  | effect :: rest, store => effect.writes store ++ writesAll rest (effect.perform store)

theorem perform_all_append (before after : List Effect) (store : Store) :
    performAll (before ++ after) store = performAll after (performAll before store) :=
  List.foldl_append

theorem writes_all_append (before after : List Effect) (store : Store) :
    writesAll (before ++ after) store =
      writesAll before store ++ writesAll after (performAll before store) := by
  induction before generalizing store with
  | nil => rfl
  | cons effect rest ih => simp only [List.cons_append, writesAll, ih, List.append_assoc]; rfl

theorem perform_all_eq_save_all (effects : List Effect) (store : Store) :
    performAll effects store = store.saveAll (writesAll effects store) := by
  induction effects generalizing store with
  | nil => rfl
  | cons effect rest ih =>
      change performAll rest (effect.perform store) = _
      rw [ih]
      simp only [writesAll, Store.saveAll, List.foldl_append]
      rfl

/-- The first rows of those that effects save are what the first effects save: no effect is cut in
two. -/
theorem take_writes_all (effects : List Effect) (store : Store) (count : Nat) :
    ∃ done rest, effects = done ++ rest ∧
      (writesAll effects store).take count = writesAll done store := by
  induction effects generalizing store count with
  | nil => exact ⟨[], [], rfl, by simp [writesAll]⟩
  | cons effect effects ih =>
      have few := writes_length_le_one effect store
      by_cases enough : (effect.writes store).length ≤ count
      · obtain ⟨done, rest, split, taken⟩ :=
          ih (effect.perform store) (count - (effect.writes store).length)
        refine ⟨effect :: done, rest, by rw [split]; rfl, ?_⟩
        simp only [writesAll]
        rw [List.take_append, List.take_of_length_le enough, taken]
      · have none : count = 0 := by omega
        exact ⟨[], effect :: effects, rfl, by simp [none, writesAll]⟩

theorem row_at_perform_all_ne (effects : List Effect) (store : Store) (here : Place)
    (apart : ∀ effect ∈ effects, here ≠ effect.place) :
    (performAll effects store).rowAt here = store.rowAt here := by
  induction effects generalizing store with
  | nil => rfl
  | cons effect rest ih =>
      have later : ∀ other ∈ rest, here ≠ other.place := by
        intro other member
        exact apart other (List.mem_cons_of_mem effect member)
      change (performAll rest (effect.perform store)).rowAt here = _
      rw [ih (effect.perform store) later]
      exact row_at_perform_ne effect store here (apart effect List.mem_cons_self)

/-- Effects on different places each change the row at their own place. -/
theorem row_at_perform_all_mem (effects : List Effect) (store : Store)
    (distinct : (effects.map place).Nodup) (effect : Effect) (member : effect ∈ effects) :
    (performAll effects store).rowAt effect.place = effect.update (store.rowAt effect.place) := by
  induction effects generalizing store with
  | nil => simp at member
  | cons first rest ih =>
      rw [List.map_cons, List.nodup_cons] at distinct
      change (performAll rest (first.perform store)).rowAt effect.place = _
      rcases List.mem_cons.mp member with isFirst | inRest
      · subst isFirst
        rw [row_at_perform_all_ne, row_at_perform_self]
        intro other later same
        exact distinct.1 (same ▸ List.mem_map_of_mem later)
      · rw [ih (first.perform store) distinct.2 inRest, row_at_perform_ne]
        intro same
        exact distinct.1 (same ▸ List.mem_map_of_mem inRest)

/-- Effects on different places leave a store as it is if and only if each of them is idle. -/
theorem perform_all_eq_self_iff (effects : List Effect) (store : Store)
    (distinct : (effects.map place).Nodup) :
    performAll effects store = store ↔ ∀ effect ∈ effects, effect.Idle store := by
  constructor
  · intro same effect member
    rw [Idle, ← row_at_perform_all_mem effects store distinct effect member, same]
  · intro idle
    apply Store.ext_row_at
    intro here
    by_cases inside : here ∈ effects.map place
    · obtain ⟨effect, member, isHere⟩ := List.mem_map.mp inside
      subst isHere
      rw [row_at_perform_all_mem effects store distinct effect member, idle effect member]
    · apply row_at_perform_all_ne effects store here
      intro effect member same
      exact inside (same ▸ List.mem_map_of_mem member)

/-- Effects on different places, performed a second time, change nothing. -/
theorem perform_all_idempotent (effects : List Effect) (store : Store)
    (distinct : (effects.map place).Nodup) :
    performAll effects (performAll effects store) = performAll effects store := by
  rw [perform_all_eq_self_iff effects _ distinct]
  intro effect member
  rw [Idle, row_at_perform_all_mem effects store distinct effect member, update_idempotent]

/-- Effects that were cut off after the first few of them and then are performed from the
beginning leave what they leave uninterrupted. -/
theorem perform_all_after_cut (done rest : List Effect) (store : Store)
    (distinct : (done.map place).Nodup) :
    performAll (done ++ rest) (performAll done store) = performAll (done ++ rest) store := by
  rw [perform_all_append, perform_all_append, perform_all_idempotent done store distinct]

end Effect

end BridgeState
