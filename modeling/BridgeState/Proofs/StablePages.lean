import BridgeState.Proofs.Calls
import BridgeState.Proofs.Pages
import BridgeState.Proofs.Watermark

/-!
# Pages that stay

A listing is ordered by block and id, and neither ever changes of a row that is not a projection. So
events of blocks ahead of all that are stored add rows behind the listing and move none: what was
read of it, page by page, is still its front. The rows of records that are never changed are there
as they were.
-/

namespace BridgeState

set_option autoImplicit false

structure ListingKey where
  block : Nat
  id : Text

instance : Record ListingKey where
  id key := key.id
  block key := key.block
  status _ := none

/-- The key of a row in the order of a listing. -/
def ListingKey.of {α : Type} [Record α] (row : α) : ListingKey :=
  ⟨Record.block row, Record.id row⟩

/-- Rows that precede all others of an ordered list are its front. -/
theorem filter_append_filter_not {α : Type} [Record α] {rows : List α}
    (ordered : rows.Pairwise Precedes) (front : α → Bool)
    (before : ∀ one ∈ rows, front one = true → ∀ other ∈ rows, front other = false →
      Precedes one other) :
    rows.filter front ++ rows.filter (fun row => !front row) = rows := by
  refine Table.rows_unique ?_ ordered fun row => ?_
  · refine List.pairwise_append.mpr ⟨ordered.filter _, ordered.filter _, ?_⟩
    intro one isFront other isRest
    obtain ⟨inOne, frontOne⟩ := List.mem_filter.mp isFront
    obtain ⟨inOther, restOther⟩ := List.mem_filter.mp isRest
    exact before one inOne frontOne other inOther (by simpa using restOther)
  · rw [List.mem_append, List.mem_filter, List.mem_filter]
    cases front row <;> simp

/-- What was read of the front of a list goes on in the whole of it. -/
theorem take_append_of_prefix {α : Type} {front whole : List α} (isFront : front <+: whole)
    {read : Nat} (known : read ≤ front.length) (size : Nat) :
    front.take read ++ (whole.drop read).take size = whole.take (read + size) := by
  obtain ⟨added, rfl⟩ := isFront
  rw [List.take_add, List.take_append_of_le_length known]

namespace Table

variable {α β : Type} [Record α] [Record β]

/-- Where every row is kept, as far as it is looked at, and every new row is in a later block, the
rows looked at before are the front of those looked at after. -/
theorem rows_prefix {before after : Table α} (look : α → β)
    (sameKey : ∀ row, ListingKey.of (look row) = ListingKey.of row)
    (kept : ∀ id row, before.load id = some row →
      ∃ next, after.load id = some next ∧ look next = look row)
    (newer : ∀ id next, before.load id = none → after.load id = some next →
      ∀ row ∈ before.rows, Record.block row < Record.block next) :
    before.rows.map look <+: after.rows.map look := by
  have keepsOrder {rows : List α} (ordered : rows.Pairwise Precedes) :
      (rows.map look).Pairwise Precedes := by
    refine List.pairwise_map.mpr (ordered.imp fun {one other} precedes => ?_)
    have keyOne := sameKey one
    have keyOther := sameKey other
    simp only [ListingKey.of, ListingKey.mk.injEq] at keyOne keyOther
    simpa only [Precedes, keyOne, keyOther] using precedes
  let old : α → Bool := fun next => (before.load (Record.id next)).isSome
  have stored (next : α) (member : next ∈ after.rows) :
      after.load (Record.id next) = some next :=
    (load_eq_some_iff _ _ _).mpr ⟨member, rfl⟩
  -- A row that was there has the key that it had, so it stands before every new one.
  have oldLooked (next : α) (member : next ∈ after.rows) (isOld : old next = true) :
      ∃ row ∈ before.rows, look next = look row := by
    obtain ⟨row, found⟩ := Option.isSome_iff_exists.mp isOld
    obtain ⟨same, isNext, looksSame⟩ := kept _ row found
    rw [stored next member] at isNext
    obtain rfl := Option.some.inj isNext
    exact ⟨row, ((load_eq_some_iff _ _ _).mp found).1, looksSame⟩
  have front : after.rows.filter old ++ after.rows.filter (fun row => !old row) = after.rows := by
    refine filter_append_filter_not after.ordered old fun one inOne isOld other inOther isNew => ?_
    obtain ⟨row, member, looksSame⟩ := oldLooked one inOne isOld
    have sameBlock : Record.block one = Record.block row := by
      have keys := (sameKey one).symm.trans ((congrArg ListingKey.of looksSame).trans (sameKey row))
      exact congrArg ListingKey.block keys
    have absent : before.load (Record.id other) = none := by simpa [old] using isNew
    exact Or.inl (sameBlock ▸ newer _ other absent (stored other inOther) row member)
  have looked : (after.rows.filter old).map look = before.rows.map look := by
    refine rows_unique (keepsOrder (after.ordered.filter _)) (keepsOrder before.ordered) ?_
    intro value
    simp only [List.mem_map]
    constructor
    · rintro ⟨next, member, rfl⟩
      obtain ⟨inAfter, isOld⟩ := List.mem_filter.mp member
      obtain ⟨row, inBefore, looksSame⟩ := oldLooked next inAfter isOld
      exact ⟨row, inBefore, looksSame.symm⟩
    · rintro ⟨row, member, rfl⟩
      have found := (load_eq_some_iff (Record.id row) before row).mpr ⟨member, rfl⟩
      obtain ⟨next, isNext, looksSame⟩ := kept _ row found
      obtain ⟨inAfter, sameId⟩ := (load_eq_some_iff _ _ _).mp isNext
      refine ⟨next, List.mem_filter.mpr ⟨inAfter, ?_⟩, looksSame⟩
      simp [old, sameId, found]
  refine ⟨(after.rows.filter fun row => !old row).map look, ?_⟩
  rw [← looked, ← List.map_append, front]

end Table

namespace Store

variable {collection : Collection}

/-- Of a row that is no projection, events that are applied in order keep all that no change of an
event touches; a row that they create has the block of one of them. -/
theorem row_behind_replay (stays : collection.isProjection = false) {β : Type}
    (look : collection.Row → β)
    (untouched : ∀ {change : Change collection}, change.OfEvent →
      ∀ row, look (change.result row) = look row)
    (events : List Event) (store : Store) (id : Text) :
    (∀ row, store.load collection id = some row →
      ∃ next, (store.replay events).load collection id = some next ∧ look next = look row) ∧
    (store.load collection id = none → ∀ next,
      (store.replay events).load collection id = some next →
        ∃ event ∈ events, Record.block next = event.blockNumber) := by
  induction events using List.reverseRecOn with
  | nil =>
      refine ⟨fun row found => ⟨row, found, rfl⟩, fun absent next found => ?_⟩
      cases absent.symm.trans found
  | append_singleton events event ih =>
      obtain ⟨kept, newer⟩ := ih
      have step := row_step event (store.replay events) collection id
      rw [← replay_append_one] at step
      refine ⟨fun row found => ?_, fun absent next found => ?_⟩
      · obtain ⟨between, isBetween, looksSame⟩ := kept row found
        rw [isBetween] at step
        generalize (store.replay (events ++ [event])).load collection id = new at step ⊢
        cases step with
        | kept => exact ⟨between, rfl, looksSame⟩
        | set _ projects => cases stays.symm.trans projects
        | changed _ changes => exact ⟨_, rfl, (untouched changes between).trans looksSame⟩
      · have latest : event ∈ events ++ [event] := by simp
        have earlier {old : collection.Row}
            (was : (store.replay events).load collection id = some old) :
            ∃ other ∈ events ++ [event], Record.block old = other.blockNumber := by
          obtain ⟨other, member, block⟩ := newer absent old was
          exact ⟨other, List.mem_append_left [event] member, block⟩
        rw [found] at step
        generalize was : (store.replay events).load collection id = old at step
        cases step with
        | kept => exact earlier was
        | created _ block => exact ⟨event, latest, block⟩
        | set _ projects => cases stays.symm.trans projects
        | changed old changes =>
            rw [changes.block_result]
            exact earlier was

/-- Events ahead of all rows of a collection that is no projection add rows behind its listing. -/
theorem rows_prefix_replay (stays : collection.isProjection = false) {β : Type} [Record β]
    (look : collection.Row → β) (sameKey : ∀ row, ListingKey.of (look row) = ListingKey.of row)
    (untouched : ∀ {change : Change collection}, change.OfEvent →
      ∀ row, look (change.result row) = look row)
    (events : List Event) (store : Store)
    (ahead : ∀ event ∈ events, ∀ row ∈ (store.table collection).rows,
      Record.block row < event.blockNumber) :
    (store.table collection).rows.map look <+:
      ((store.replay events).table collection).rows.map look := by
  refine Table.rows_prefix look sameKey
    (fun id => (row_behind_replay stays look untouched events store id).1) ?_
  intro id next absent found row member
  obtain ⟨event, isEvent, block⟩ :=
    (row_behind_replay stays look untouched events store id).2 absent next found
  rw [block]
  exact ahead event isEvent row member

theorem ids_prefix_replay (stays : collection.isProjection = false) (events : List Event)
    (store : Store)
    (ahead : ∀ event ∈ events, ∀ row ∈ (store.table collection).rows,
      Record.block row < event.blockNumber) :
    (store.table collection).rows.map Record.id <+:
      ((store.replay events).table collection).rows.map Record.id := by
  have keys := rows_prefix_replay stays ListingKey.of (fun _ => rfl)
    (fun {change} changes row => congrArg₂ ListingKey.mk (changes.block_result row)
      (change.id_result row)) events store ahead
  have mapped := keys.map ListingKey.id
  rw [List.map_map, List.map_map] at mapped
  exact mapped

/-- Where no change is made to rows of a collection, its listing stays as it is in front. -/
theorem unchanged_rows_prefix_replay (stays : collection.isProjection = false)
    (never : ∀ {change : Change collection}, ¬change.OfEvent) (events : List Event) (store : Store)
    (ahead : ∀ event ∈ events, ∀ row ∈ (store.table collection).rows,
      Record.block row < event.blockNumber) :
    (store.table collection).rows <+: ((store.replay events).table collection).rows := by
  have same := rows_prefix_replay stays id (fun _ => rfl) (fun changes _ => absurd changes never)
    events store ahead
  rw [List.map_id, List.map_id] at same
  exact same

theorem list_whole (store : Store) :
    store.list collection (.window none none (store.count collection none) 0) =
      (store.table collection).rows := by
  refine (Table.list_unfiltered _ _ _).trans ?_
  exact List.take_of_length_le (Nat.le_refl _)

theorem ids_of_window (store : Store) (size skipped : Nat) :
    (store.list collection (.window none none size skipped)).map Record.id =
      (((store.table collection).rows.map Record.id).drop skipped).take size := by
  simp only [Store.list, Table.list_unfiltered, List.map_take, List.map_drop]

end Store

namespace Engine

/-- Events ahead of all rows of a collection whose rows stay leave the ids of its whole listing as
the front of those that it has then. So who has read so many rows of it before and asks for the next
ones behind them neither misses a row nor gets one twice; and the rows of records that are never
changed are the front of the listing themselves. -/
theorem pages_stay_valid (engine : Engine Store) (later : List Event) (collection : Collection)
    (stays : collection ∈ [Collection.messages, .bridgeMessages, .accountMessages, .limitProposals,
      .candidateValidatorMessages, .candidatesValidatorsProposals])
    (ahead : ∀ event ∈ later, ∀ id row, engine.state.load collection id = some row →
      Record.block row < event.blockNumber) :
    let before := engine.state
    let after := (engine.applyEvents later).2.state
    let rows := fun (state : Store) (size skipped : Nat) =>
      state.list collection (.window none none size skipped)
    let ids := fun state size skipped => (rows state size skipped).map Record.id
    ids before (before.count collection none) 0 <+: ids after (after.count collection none) 0 ∧
    (∀ read size, read ≤ before.count collection none →
      ids before read 0 ++ ids after size read = ids after (read + size) 0) ∧
    (collection ∈ [Collection.bridgeMessages, .accountMessages, .candidateValidatorMessages] →
      rows before (before.count collection none) 0 <+:
        rows after (after.count collection none) 0) := by
  intro before after rows ids
  have isAfter : after = before.replay later := state_apply_events later engine
  have noProjection : collection.isProjection = false := by
    simp only [List.mem_cons, List.not_mem_nil, or_false] at stays
    rcases stays with rfl | rfl | rfl | rfl | rfl | rfl <;> rfl
  have aheadOfRows : ∀ event ∈ later, ∀ row ∈ (before.table collection).rows,
      Record.block row < event.blockNumber := fun event isEvent row member =>
    ahead event isEvent _ row ((Table.load_eq_some_iff _ _ _).mpr ⟨member, rfl⟩)
  have sameIds := Store.ids_prefix_replay noProjection later before aheadOfRows
  rw [← isAfter] at sameIds
  refine ⟨?_, fun read size known => ?_, fun unchanged => ?_⟩
  · simp only [ids, rows, Store.list_whole]
    exact sameIds
  · simp only [ids, rows, Store.ids_of_window, List.drop_zero]
    exact take_append_of_prefix sameIds (known.trans_eq (List.length_map _).symm) size
  · have never : ∀ {change : Change collection}, ¬change.OfEvent := by
      intro change changes
      simp only [List.mem_cons, List.not_mem_nil, or_false] at unchanged
      rcases unchanged with rfl | rfl | rfl <;> cases changes
    simp only [rows, Store.list_whole, isAfter]
    exact Store.unchanged_rows_prefix_replay noProjection never later before aheadOfRows

/-- A transfer of block four is approved in block five, in which another is created that has a
smaller id: the first is still read first. -/
theorem pages_stay_valid_approved :
    let transfer (id : HexString) : EventBody :=
      .transfer .hostToGuest ⟨id, .sample, .sample, 1, none⟩
    let engine := (History.run [⟨4, transfer .sampleOther⟩]).2
    let later : List Event := [⟨5, .status .approved .sampleOther⟩, ⟨5, transfer .sample⟩]
    (∀ event ∈ later, ∀ id row, engine.state.load .messages id = some row →
      Record.block row < event.blockNumber) ∧
    (engine.state.list .messages (.window none none 1 0)).map Record.id ++
      ((engine.applyEvents later).2.state.list .messages (.window none none 1 1)).map Record.id =
        ((engine.applyEvents later).2.state.list .messages (.window none none 2 0)).map
          Record.id := by
  intro transfer engine later
  have ahead : ∀ event ∈ later, ∀ id row, engine.state.load .messages id = some row →
      Record.block row < event.blockNumber := by
    intro event isEvent id row found
    obtain ⟨source, member, block⟩ := History.event_of_row _ found
    simp only [later, List.mem_cons, List.not_mem_nil, or_false] at isEvent member
    rw [← block, member]
    rcases isEvent with rfl | rfl <;> exact Nat.lt_succ_self 4
  obtain ⟨-, reader, -⟩ := pages_stay_valid engine later .messages (by simp) ahead
  exact ⟨ahead, reader 1 1 (by decide +kernel)⟩

end Engine

end BridgeState
