import BridgeState.Http.Lookup
import BridgeState.Proofs.History

/-!
# The watermark

The watermark of a store is the highest block of its rows; the overview of the collections tells it.
Every row has the block of the event that created it or set it last, and a change of a row keeps its
block. So behind a history the watermark is the block of one of its events.
-/

namespace BridgeState

set_option autoImplicit false

def Store.watermark (store : Store) : Option Nat :=
  ((Named.all : List Collection).filterMap fun collection => store.maxBlock collection).max?

namespace Http

theorem max_blocks_in_memory (collections : List Collection) (store : Store) :
    Backend.maxBlocks collections store =
      (.ok (collections.map fun collection =>
        (collection, .ofOption .nat (store.maxBlock collection))), store) := by
  induction collections with
  | nil => rfl
  | cons collection rest ih => simp only [Backend.maxBlocks, Backend.maxBlock, ih, List.map_cons]

theorem checked_block (block : Option Nat) :
    Decoder.nullable Decoder.integer (.ofOption .nat block) = .valid (block.map Int.ofNat) := by
  cases block <;> rfl

theorem checked_blocks_in_memory (collections : List Collection) (store : Store) :
    checkedBlocks (collections.map fun collection =>
        (collection, .ofOption .nat (store.maxBlock collection))) =
      .valid (collections.map fun collection =>
        (Text.ofString (Named.name collection), .ofOption .nat (store.maxBlock collection))) := by
  induction collections with
  | nil => rfl
  | cons collection rest ih =>
      simp only [List.map_cons, checkedBlocks, checked_block, ih]
      cases store.maxBlock collection <;> rfl

theorem higher_of_blocks (one other : Option Nat) :
    higher (.ofOption .nat one) (.ofOption .nat other) =
      .ofOption .nat (one.toList ++ other.toList).max? := by
  cases one with
  | none => cases other <;> rfl
  | some one =>
      cases other with
      | none => rfl
      | some other =>
          have cast : max (one : Int) (other : Int) = ((max one other : Nat) : Int) := by omega
          exact congrArg Json.int cast

theorem foldl_higher (blocks : List (Option Nat)) (highest : Option Nat) :
    blocks.foldl (fun highest block => higher highest (.ofOption .nat block))
        (.ofOption .nat highest) =
      .ofOption .nat (highest.toList ++ blocks.filterMap id).max? := by
  induction blocks generalizing highest with
  | nil => cases highest <;> rfl
  | cons block rest ih =>
      rw [List.foldl_cons, higher_of_blocks, ih]
      cases highest <;> cases block <;> rfl

theorem last_block_in_memory (store : Store) :
    lastBlock ((Named.all : List Collection).map fun collection =>
        (collection, .ofOption .nat (store.maxBlock collection))) =
      .ofOption .nat store.watermark := by
  have highest := foldl_higher
    ((Named.all : List Collection).map fun collection => store.maxBlock collection) none
  rw [List.foldl_map, List.filterMap_map] at highest
  rw [lastBlock, List.foldl_map]
  exact highest

theorem ordered_blocks (collections : List Collection) (store : Store) :
    unorderedBlocks? (collections.map fun collection =>
      (collection, .ofOption .nat (store.maxBlock collection))) = none := by
  unfold unorderedBlocks?
  rw [List.filter_eq_nil_iff.mpr]
  · rfl
  · rw [List.forall_mem_map]
    intro collection _
    cases store.maxBlock collection <;> simp [Json.ofOption, Json.nat]

/-- In memory the overview of the collections always comes, and tells the watermark. -/
theorem sync_answer_in_memory (store : Store) :
    syncAnswer store =
      (.ok (.ok (.obj [("collections", .obj ((Named.all : List Collection).map fun collection =>
          (Text.ofString (Named.name collection), .ofOption .nat (store.maxBlock collection)))),
        ("last_block_number", .ofOption .nat store.watermark)])), store) := by
  have body : syncJson ((Named.all : List Collection).map fun collection =>
      (collection, .ofOption .nat (store.maxBlock collection))) =
      .valid (.obj [("collections", .obj ((Named.all : List Collection).map fun collection =>
          (Text.ofString (Named.name collection), .ofOption .nat (store.maxBlock collection)))),
        ("last_block_number", .ofOption .nat store.watermark)]) := by
    rw [syncJson, checked_blocks_in_memory, last_block_in_memory, checked_block]
    cases store.watermark <;> rfl
  simp only [syncAnswer, Backend.sync, max_blocks_in_memory, ordered_blocks, body]

end Http

theorem Change.OfEvent.block_result {collection : Collection} {change : Change collection}
    (changes : change.OfEvent) (row : collection.Row) :
    Record.block (change.result row) = Record.block row := by
  cases changes <;> rfl

namespace History

/-- Every row has the block of an event of the history. -/
theorem event_of_row (events : List Event) {collection : Collection} {id : Text}
    {row : collection.Row} (found : (store events).load collection id = some row) :
    ∃ event ∈ events, event.blockNumber = Record.block row := by
  induction events using List.reverseRecOn generalizing row with
  | nil => exact absurd found (by simp [load_nil])
  | append_singleton events event ih =>
      -- The row is the event's own, or it was there and has kept its block.
      have earlier {old : collection.Row} (was : (store events).load collection id = some old) :
          ∃ other ∈ events ++ [event], other.blockNumber = Record.block old := by
        obtain ⟨other, member, block⟩ := ih was
        exact ⟨other, List.mem_append_left [event] member, block⟩
      have latest : event ∈ events ++ [event] := by simp
      have step := row_step event (store events) collection id
      rw [← store_append_one, found] at step
      generalize was : (store events).load collection id = old at step
      cases step with
      | kept => exact earlier was
      | created _ block => exact ⟨event, latest, block.symm⟩
      | set _ _ block => exact ⟨event, latest, block.symm⟩
      | changed old changes =>
          rw [changes.block_result]
          exact earlier was

/-- Behind a history the watermark is the block of one of its events. -/
theorem event_of_watermark (events : List Event) (block : Nat)
    (highest : (store events).watermark = some block) :
    ∃ event ∈ events, event.blockNumber = block := by
  have member := List.max?_mem highest
  obtain ⟨collection, _, isBlock⟩ := List.mem_filterMap.mp member
  obtain ⟨row, last, sameBlock⟩ := Option.map_eq_some_iff.mp isBlock
  have inTable := List.mem_of_getLast? last
  have found : (store events).load collection (Record.id row) = some row :=
    (Table.load_eq_some_iff _ _ _).mpr ⟨inTable, rfl⟩
  rw [← sameBlock]
  exact event_of_row events found

end History

end BridgeState
