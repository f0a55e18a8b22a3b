import BridgeState.Proofs.Identifiers
import BridgeState.Proofs.Limits
import Mathlib.Data.List.Dedup

/-!
# One snapshot for each block

As long as the digest tells the blocks of a history apart, each block that limits were set in has a
snapshot of its own, with the values that were set last in that block, and the limits of a block are
told to be created the first time they are set.
-/

namespace BridgeState

set_option autoImplicit false

open Identifier

namespace History

/-- The blocks of the events that set limits, in the order of the events. -/
def limitBlocks (events : List Event) : List Nat :=
  (events.filterMap Event.limitSetting?).map LimitSetting.blockNumber

/-- What each event of a block that sets limits sets them to, in the order of the events. -/
def limitsOfBlock (block : Nat) (events : List Event) : List LimitValues :=
  ((events.filterMap Event.limitSetting?).filter fun setting => setting.blockNumber = block).map
    LimitSetting.values

theorem limits_of_block_eq_nil_iff (block : Nat) (events : List Event) :
    limitsOfBlock block events = [] ↔ block ∉ limitBlocks events := by
  simp only [limitsOfBlock, limitBlocks, List.map_eq_nil_iff, List.filter_eq_nil_iff,
    List.mem_map, decide_eq_true_eq, not_exists, not_and]

section Apart

variable {blocks : List Nat} (noCollision : NoCollision blocks)

include noCollision

theorem snapshots_of_block {events : List Event} (within : limitBlocks events ⊆ blocks)
    {block : Nat} (there : block ∈ blocks) :
    events.filterMap (Event.snapshot? (limitMessageId block).text) =
      (limitsOfBlock block events).map (Rule.limitSnapshot block) := by
  have sameChoice : ∀ setting ∈ events.filterMap Event.limitSetting?,
      decide (setting.snapshot.id = (limitMessageId block).text) =
        decide (setting.blockNumber = block) := by
    intro setting member
    have inBlocks : setting.blockNumber ∈ blocks := within (List.mem_map_of_mem member)
    apply decide_eq_decide.mpr
    constructor
    · intro same
      have sameId := HexString.ext_text (Text.ofString_injective same)
      exact (no_collision_iff blocks).mp noCollision _ inBlocks block there sameId
    · intro same
      rw [← same]
      rfl
  rw [snapshots_of_settings, List.filter_map]
  simp only [Function.comp_def]
  rw [List.filter_congr sameChoice, limitsOfBlock, List.map_map]
  refine List.map_congr_left fun setting member => ?_
  have ofBlock : setting.blockNumber = block := by simpa using (List.mem_filter.mp member).2
  simp only [Function.comp_def, LimitSetting.snapshot, ofBlock]

theorem load_snapshot_of_block {events : List Event} (within : limitBlocks events ⊆ blocks)
    {block : Nat} (there : block ∈ blocks) :
    (store events).load .limitMessages (limitMessageId block).text =
      (limitsOfBlock block events).getLast?.map (Rule.limitSnapshot block) := by
  rw [load_snapshot, snapshots_of_block noCollision within there, List.getLast?_map]

end Apart

/-- Every stored snapshot is the snapshot of a block in which limits were set. -/
theorem snapshot_from_block (events : List Event) (id : Text) (row : LimitMessage)
    (stored : (store events).load .limitMessages id = some row) :
    row.blockNumber ∈ limitBlocks events ∧ id = (limitMessageId row.blockNumber).text := by
  rw [load_snapshot, snapshots_of_settings] at stored
  have member := List.mem_of_getLast? stored
  obtain ⟨inside, sameId⟩ := List.mem_filter.mp member
  obtain ⟨setting, isSetting, isRow⟩ := List.mem_map.mp inside
  subst isRow
  exact ⟨List.mem_map_of_mem isSetting, (of_decide_eq_true sameId).symm⟩

theorem snapshot_blocks_nodup (events : List Event) :
    (((store events).table .limitMessages).rows.map LimitMessage.blockNumber).Nodup := by
  have ids := Table.nodup_ids ((store events).table .limitMessages)
  have idOfBlock : ∀ row ∈ ((store events).table .limitMessages).rows,
      Record.id row = Text.ofString (limitMessageId row.blockNumber).text := by
    intro row member
    have stored := (Table.load_eq_some_iff _ _ row).mpr ⟨member, rfl⟩
    exact (snapshot_from_block events _ row stored).2
  have throughBlocks : ((store events).table .limitMessages).rows.map Record.id =
      (((store events).table .limitMessages).rows.map LimitMessage.blockNumber).map
        fun block => Text.ofString (limitMessageId block).text := by
    rw [List.map_map]
    exact List.map_congr_left idOfBlock
  rw [throughBlocks] at ids
  exact ids.of_map _

theorem snapshot_blocks_perm (events : List Event) (noCollision : NoCollision (limitBlocks events)) :
    (((store events).table .limitMessages).rows.map LimitMessage.blockNumber).Perm
      (limitBlocks events).dedup := by
  rw [List.perm_ext_iff_of_nodup (snapshot_blocks_nodup events) (List.nodup_dedup _)]
  intro block
  rw [List.mem_dedup, List.mem_map]
  constructor
  · rintro ⟨row, member, isBlock⟩
    have stored := (Table.load_eq_some_iff _ _ row).mpr ⟨member, rfl⟩
    exact isBlock ▸ (snapshot_from_block events _ row stored).1
  · intro there
    have stored := load_snapshot_of_block noCollision (List.Subset.refl _) there
    have some : limitsOfBlock block events ≠ [] := fun none =>
      (limits_of_block_eq_nil_iff block events).mp none there
    rw [List.getLast?_eq_some_getLast some, Option.map_some] at stored
    exact ⟨_, ((Table.load_eq_some_iff _ _ _).mp stored).1, rfl⟩

/-- If the digest tells the blocks in which limits were set apart, there is one snapshot for each of
them and no other. That of a block has the id derived from it and the values that were set last in
this block. Setting limits creates them if and only if none were set in its block before. -/
theorem one_snapshot_per_block (events : List Event)
    (noCollision : NoCollision (limitBlocks events)) :
    (((store events).table .limitMessages).rows.map LimitMessage.blockNumber).Perm
        (limitBlocks events).dedup ∧
      (∀ block ∈ limitBlocks events, ∃ values, (limitsOfBlock block events).getLast? = some values ∧
        (store events).load .limitMessages (limitMessageId block).text =
          some ⟨(limitMessageId block).text, block, values⟩) ∧
      ∀ position block values, events[position]? = some ⟨block, .limits values⟩ →
        ((outcomes events)[position]? = some .created ↔
          block ∉ limitBlocks (events.take position)) := by
  refine ⟨snapshot_blocks_perm events noCollision, ?_, ?_⟩
  · intro block there
    have some : limitsOfBlock block events ≠ [] := fun none =>
      (limits_of_block_eq_nil_iff block events).mp none there
    have last := List.getLast?_eq_some_getLast some
    refine ⟨_, last, ?_⟩
    rw [load_snapshot_of_block noCollision (List.Subset.refl _) there, last]
    rfl
  · intro position block values present
    obtain ⟨split, _⟩ := split_at_position present
    have there : block ∈ limitBlocks events := by
      have isEvent := List.mem_of_getElem? present
      exact List.mem_map.mpr ⟨⟨block, values⟩, List.mem_filterMap.mpr ⟨_, isEvent, rfl⟩, rfl⟩
    have within : limitBlocks (events.take position) ⊆ limitBlocks events :=
      List.map_subset _ ((List.take_sublist position events).filterMap _).subset
    have outcome := outcome_at_position events position _ present
    have value : (Event.apply ⟨block, .limits values⟩ (store (events.take position))).value =
        .ofReplaced ((store (events.take position)).load .limitMessages
          (Rule.limitSnapshot block values).id) (Rule.limitSnapshot block values) :=
      (Rule.limits_does block values _).value_run
    have loaded := load_snapshot_of_block noCollision within there
    rw [outcome, value, Option.some.injEq, Outcome.of_replaced_created_iff,
      ← limits_of_block_eq_nil_iff]
    change (store (events.take position)).load .limitMessages (limitMessageId block).text = none ↔ _
    rw [loaded, Option.map_eq_none_iff, List.getLast?_eq_none_iff]

theorem one_snapshot_per_block_again :
    NoCollision [5, 6, 5] ∧
      (store [⟨5, .limits (.each 1)⟩, ⟨6, .limits (.each 2)⟩, ⟨5, .limits (.each 3)⟩]).load
          .limitMessages (limitMessageId 5).text =
        some ⟨(limitMessageId 5).text, 5, .each 3⟩ ∧
      (outcomes [⟨5, .limits (.each 1)⟩, ⟨6, .limits (.each 2)⟩, ⟨5, .limits (.each 3)⟩])[2]? ≠
        some .created := by
  have apart : ∀ one ∈ [5, 6, 5], ∀ other ∈ [5, 6, 5],
      limitMessageId one = limitMessageId other → one = other := by
    decide +kernel
  have noCollision := (no_collision_iff [5, 6, 5]).mpr apart
  obtain ⟨_, values, created⟩ := one_snapshot_per_block
    [⟨5, .limits (.each 1)⟩, ⟨6, .limits (.each 2)⟩, ⟨5, .limits (.each 3)⟩] noCollision
  obtain ⟨last, isLast, stored⟩ := values 5 (List.mem_cons_self)
  have isThird : LimitValues.each 3 = last := Option.some.inj isLast
  subst isThird
  have setBefore : 5 ∈ limitBlocks
      [⟨5, .limits (.each 1)⟩, ⟨6, .limits (.each 2)⟩] := List.mem_cons_self
  exact ⟨noCollision, stored, fun isCreated => (created 2 5 (.each 3) rfl).mp isCreated setBefore⟩

end History

end BridgeState
