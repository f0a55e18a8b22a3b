import BridgeState.Http.Service
import BridgeState.Proofs.Pages
import BridgeState.Proofs.Watermark

/-!
# Events in the order of the chain

While blocks do not go back from one event to the next, no block in the store is ahead of the last
event, and none falls behind: a row that is written again gets the block of a later event, and one
whose status changes keeps its own. So what the overview tells of a collection, and of all of them,
only grows, and never beyond the last event.
-/

namespace BridgeState

set_option autoImplicit false

namespace Store

variable {collection : Collection} {store : Store}

theorem max_block_of_load {id : Text} {row : collection.Row}
    (found : store.load collection id = some row) :
    ∃ top, store.maxBlock collection = some top ∧ Record.block row ≤ top :=
  Table.max_block_of_mem ((Table.load_eq_some_iff _ _ _).mp found).1

theorem load_of_max_block {top : Nat} (isMax : store.maxBlock collection = some top) :
    ∃ id row, store.load collection id = some row ∧ Record.block row = top := by
  rcases (store.table collection).max_block_cases with ⟨_, none⟩ | ⟨row, there, isTop, _⟩
  · cases none.symm.trans isMax
  · refine ⟨Record.id row, row, (Table.load_eq_some_iff _ _ _).mpr ⟨there, rfl⟩, ?_⟩
    exact Option.some.inj (isTop.symm.trans isMax)

/-- The watermark is the highest of the blocks that the collections are at. -/
theorem watermark_eq_some_iff (store : Store) (top : Nat) :
    store.watermark = some top ↔
      (∃ collection, store.maxBlock collection = some top) ∧
        ∀ collection block, store.maxBlock collection = some block → block ≤ top := by
  simp only [watermark, List.max?_eq_some_iff, List.mem_filterMap, Collection.mem_all, true_and]
  exact and_congr_right fun _ =>
    ⟨fun above collection block isBlock => above block ⟨collection, isBlock⟩,
      fun above block ⟨collection, isBlock⟩ => above collection block isBlock⟩

theorem watermark_eq_none_iff (store : Store) :
    store.watermark = none ↔ ∀ collection, store.maxBlock collection = none := by
  simp [watermark, List.max?_eq_none_iff, Collection.mem_all]

end Store

/-- An event in whose block, or an earlier one, a row stands leaves the row in no earlier block. -/
theorem row_not_earlier (event : Event) (store : Store) {collection : Collection} {id : Text}
    {row : collection.Row} (found : store.load collection id = some row)
    (notAhead : Record.block row ≤ event.blockNumber) :
    ∃ next, (event.apply store).store.load collection id = some next ∧
      Record.block row ≤ Record.block next := by
  have step := row_step event store collection id
  rw [found] at step
  generalize (event.apply store).store.load collection id = new at step ⊢
  cases step with
  | kept => exact ⟨row, rfl, Nat.le_refl _⟩
  | set _ _ block => exact ⟨_, rfl, block ▸ notAhead⟩
  | changed row changes => exact ⟨_, rfl, Nat.le_of_eq (changes.block_result row).symm⟩

namespace History

/-- Blocks do not go back from one event to the next. -/
def InChainOrder (events : List Event) : Prop :=
  events.Pairwise fun one other => one.blockNumber ≤ other.blockNumber

section Ordered

variable {earlier : List Event} {event : Event} {collection : Collection} {id : Text}
  {row : collection.Row}

/-- No row is ahead of an event that follows the history. -/
theorem row_not_ahead (ordered : InChainOrder (earlier ++ [event]))
    (found : (store earlier).load collection id = some row) :
    Record.block row ≤ event.blockNumber := by
  obtain ⟨source, member, block⟩ := event_of_row earlier found
  rw [← block]
  exact (List.pairwise_append.mp ordered).2.2 source member event List.mem_cons_self

theorem row_not_ahead_behind (ordered : InChainOrder (earlier ++ [event]))
    (found : (store (earlier ++ [event])).load collection id = some row) :
    Record.block row ≤ event.blockNumber := by
  obtain ⟨source, member, block⟩ := event_of_row _ found
  rw [← block]
  rcases List.mem_append.mp member with before | isEvent
  · exact (List.pairwise_append.mp ordered).2.2 source before event List.mem_cons_self
  · exact Nat.le_of_eq (congrArg Event.blockNumber (List.mem_singleton.mp isEvent))

theorem row_only_rises (later : List Event) (ordered : InChainOrder (earlier ++ later))
    (found : (store earlier).load collection id = some row) :
    ∃ next, (store (earlier ++ later)).load collection id = some next ∧
      Record.block row ≤ Record.block next := by
  induction later using List.reverseRecOn with
  | nil =>
      rw [List.append_nil]
      exact ⟨row, found, Nat.le_refl _⟩
  | append_singleton later event ih =>
      rw [← List.append_assoc] at ordered ⊢
      obtain ⟨between, foundBetween, notEarlier⟩ := ih (List.pairwise_append.mp ordered).1
      have notAhead := row_not_ahead ordered foundBetween
      obtain ⟨next, foundNext, rises⟩ := row_not_earlier event _ foundBetween notAhead
      rw [store_append_one]
      exact ⟨next, foundNext, Nat.le_trans notEarlier rises⟩

theorem max_block_only_rises (later : List Event) (ordered : InChainOrder (earlier ++ later))
    {top : Nat} (isMax : (store earlier).maxBlock collection = some top) :
    ∃ next, (store (earlier ++ later)).maxBlock collection = some next ∧ top ≤ next := by
  obtain ⟨id, row, found, isTop⟩ := Store.load_of_max_block isMax
  obtain ⟨last, foundLast, rises⟩ := row_only_rises later ordered found
  obtain ⟨next, isNext, above⟩ := Store.max_block_of_load foundLast
  exact ⟨next, isNext, isTop ▸ Nat.le_trans rises above⟩

end Ordered

/-- Behind every event of a history in chain order: no row is ahead of the event, and none ever
falls to an earlier block or is lost; no collection ever falls behind the block that it is at; and
the overview tells the block of every collection and the highest of them, which is not ahead of the
event. -/
theorem sync_rises_with_chain (earlier later : List Event) (event : Event)
    (ordered : InChainOrder (earlier ++ event :: later)) (request : Http.Request) :
    let behind := store (earlier ++ [event])
    let last := store (earlier ++ event :: later)
    (∀ collection id row, behind.load collection id = some row →
      Record.block row ≤ event.blockNumber ∧
      ∃ next, last.load collection id = some next ∧ Record.block row ≤ Record.block next) ∧
    (∀ collection top, behind.maxBlock collection = some top →
      (∃ id row, behind.load collection id = some row ∧ Record.block row = top) ∧
      ∃ next, last.maxBlock collection = some next ∧ top ≤ next) ∧
    ∃ highest,
      (Http.Service.endpointAnswer .sync request (run (earlier ++ [event])).2).1 =
        .ok (.ok (.obj
          [("collections", .obj ((Named.all : List Collection).map fun collection =>
              (Text.ofString (Named.name collection),
                .ofOption .nat (behind.maxBlock collection)))),
            ("last_block_number", .ofOption .nat highest)])) ∧
      (∀ collection top, behind.maxBlock collection = some top →
        ∃ block, highest = some block ∧ top ≤ block) ∧
      ∀ block, highest = some block →
        (∃ collection, behind.maxBlock collection = some block) ∧ block ≤ event.blockNumber := by
  have split : earlier ++ event :: later = (earlier ++ [event]) ++ later := by simp
  rw [split] at ordered ⊢
  have orderedBehind := (List.pairwise_append.mp ordered).1
  refine ⟨fun collection id row found => ?_, fun collection top isMax => ?_,
    (store (earlier ++ [event])).watermark, ?_, ?_, ?_⟩
  · exact ⟨row_not_ahead_behind orderedBehind found, row_only_rises later ordered found⟩
  · exact ⟨Store.load_of_max_block isMax, max_block_only_rises later ordered isMax⟩
  · exact congrArg Prod.fst (Http.sync_answer_in_memory (store (earlier ++ [event])))
  · intro collection top isMax
    cases highest : (store (earlier ++ [event])).watermark with
    | none =>
        have none := (Store.watermark_eq_none_iff _).mp highest collection
        cases none.symm.trans isMax
    | some block =>
        exact ⟨block, rfl, ((Store.watermark_eq_some_iff _ _).mp highest).2 collection top isMax⟩
  · intro block highest
    obtain ⟨⟨collection, isMax⟩, _⟩ := (Store.watermark_eq_some_iff _ _).mp highest
    obtain ⟨id, row, found, isBlock⟩ := Store.load_of_max_block isMax
    exact ⟨⟨collection, isMax⟩, isBlock ▸ row_not_ahead_behind orderedBehind found⟩

/-- An account is paused, and resumed two blocks later. -/
theorem sync_rises_with_chain_resumed :
    let paused : Event := ⟨4, .account .host .pause .sample .sampleOther 1⟩
    let resumed : Event := ⟨6, .account .host .resume .sample .sampleOther 2⟩
    InChainOrder [paused, resumed] ∧ (store [paused]).maxBlock .accounts = some 4 ∧
      ∃ next, (store [paused, resumed]).maxBlock .accounts = some next ∧ 4 ≤ next := by
  intro paused resumed
  have ordered : InChainOrder [paused, resumed] := by
    simp [InChainOrder, paused, resumed]
  have top : (store [paused]).maxBlock .accounts = some 4 := by decide +kernel
  obtain ⟨-, rises, -⟩ := sync_rises_with_chain [] [resumed] paused ordered
    ⟨"GET", "http".toList, [], "/api/public/sync".toList, [], [], ""⟩
  exact ⟨ordered, top, (rises .accounts 4 top).2⟩

end History

end BridgeState
