import BridgeState.Script
import Mathlib.Data.List.Nodup
import Mathlib.Data.List.Range

/-!
# Pages

Who asks for one page behind the other, up to the first that is not full, gets every row that is
asked for, once and in the order of the listing. The number of rows that a collection counts and the
highest block that it tells agree with what is read so. A listing depends on the rows that are
stored, not on the saves that stored them: a row is stored if it is the last that was saved under
its id.
-/

namespace BridgeState

set_option autoImplicit false

namespace Query

theorem page_eq_take_drop {α : Type} (query : Query) (rows : List α) (limit : 0 ≤ query.limit)
    (offset : 0 ≤ query.offset) :
    query.page rows = (rows.drop query.offset.toNat).take query.limit.toNat := by
  obtain ⟨skipped, isOffset⟩ := Int.eq_ofNat_of_zero_le offset
  obtain ⟨taken, isLimit⟩ := Int.eq_ofNat_of_zero_le limit
  have start : position rows.length query.offset = min skipped rows.length := by
    rw [position, if_neg (by omega)]
    omega
  have stop : position rows.length (query.offset + query.limit) =
      min (skipped + taken) rows.length := by
    rw [position, if_neg (by omega)]
    omega
  rw [page, start, stop, List.drop_take, isOffset, isLimit, Int.toNat_natCast, Int.toNat_natCast]
  by_cases inside : skipped ≤ rows.length
  · rw [Nat.min_eq_left inside, List.take_eq_take_iff, List.length_drop]
    omega
  · have beyond : rows.length ≤ skipped := by omega
    rw [Nat.min_eq_right beyond, List.drop_eq_nil_of_le beyond, List.drop_length, List.take_nil,
      List.take_nil]

def window (status : Option String) (since : Option Int) (size skipped : Nat) : Query where
  status := status
  since := since
  limit := size
  offset := skipped

variable {α : Type} [Record α]

theorem accepts_iff (query : Query) (row : α) :
    query.accepts row = true ↔
      (∀ word, query.status = some word → Record.status row = some word) ∧
        ∀ block, query.since = some block → block ≤ Record.block row := by
  obtain ⟨status, since, limit, offset⟩ := query
  cases status <;> cases since <;> simp [accepts]

end Query

theorem pages_eq_take {α : Type} (rows : List α) (size count : Nat) :
    (List.range count).flatMap (fun number => (rows.drop (number * size)).take size) =
      rows.take (count * size) := by
  induction count with
  | zero => simp
  | succ count ih =>
      rw [List.range_succ, List.flatMap_append, ih, List.flatMap_singleton, Nat.succ_mul,
        List.take_add]

/-- As many pages are full as the size of a page goes into the number of rows. -/
theorem full_pages_iff {α : Type} (rows : List α) {size : Nat} (positive : 0 < size) (number : Nat) :
    ((rows.drop (number * size)).take size).length = size ↔ number < rows.length / size := by
  rw [List.length_take, List.length_drop, Nat.lt_iff_add_one_le, Nat.le_div_iff_mul_le positive,
    Nat.succ_mul]
  omega

/-- The pages up to the first that is not full are all rows. -/
theorem pages_eq_all {α : Type} (rows : List α) {size : Nat} (positive : 0 < size) :
    let page := fun number => (rows.drop (number * size)).take size
    ∃ last, (∀ number < last, (page number).length = size) ∧ (page last).length < size ∧
      (List.range (last + 1)).flatMap page = rows := by
  intro page
  have notFull : (page (rows.length / size)).length ≠ size :=
    fun full => Nat.lt_irrefl _ ((full_pages_iff rows positive _).mp full)
  have atMost : (page (rows.length / size)).length ≤ size := List.length_take_le _ _
  refine ⟨rows.length / size, fun number full => (full_pages_iff rows positive number).mpr full,
    by omega, ?_⟩
  rw [pages_eq_take, List.take_of_length_le]
  have above := Nat.lt_mul_div_succ rows.length positive
  rw [Nat.mul_comm] at above
  exact Nat.le_of_lt above

namespace Table

variable {α : Type} [Record α]

theorem list_window (table : Table α) (status : Option String) (since : Option Int)
    (size skipped : Nat) :
    table.list (.window status since size skipped) =
      ((table.rows.filter (Query.window status since 0 0).accepts).drop skipped).take size :=
  Query.page_eq_take_drop _ _ (Int.natCast_nonneg size) (Int.natCast_nonneg skipped)

theorem mem_accepted_iff (table : Table α) (query : Query) (row : α) :
    row ∈ table.rows.filter query.accepts ↔
      table.load (Record.id row) = some row ∧
        (∀ word, query.status = some word → Record.status row = some word) ∧
          ∀ block, query.since = some block → block ≤ Record.block row := by
  rw [List.mem_filter, Query.accepts_iff, load_eq_some_iff, and_iff_left rfl]

theorem unfiltered (table : Table α) :
    table.rows.filter (Query.window none none 0 0).accepts = table.rows :=
  List.filter_eq_self.mpr fun _ _ => rfl

theorem list_unfiltered (table : Table α) (size skipped : Nat) :
    table.list (.window none none size skipped) = (table.rows.drop skipped).take size := by
  rw [list_window, unfiltered]

theorem count_eq_length (table : Table α) (status : Option String) :
    table.count status =
      (table.rows.filter (Query.window status none 0 0).accepts).length := by
  cases status with
  | none => rw [unfiltered, count]
  | some word =>
      refine congrArg List.length (List.filter_congr fun row _ => ?_)
      simp [Query.accepts, Query.window]

theorem max_block_of_mem {table : Table α} {row : α} (there : row ∈ table.rows) :
    ∃ top, table.maxBlock = some top ∧ Record.block row ≤ top := by
  rcases table.max_block_cases with ⟨noRows, _⟩ | ⟨highest, _, isMax, above⟩
  · rw [noRows] at there
    cases there
  · exact ⟨Record.block highest, isMax, above row there⟩

end Table

def AnyRow.in? (collection : Collection) (saved : AnyRow) : Option collection.Row :=
  if same : saved.collection = collection then some (same ▸ saved.row) else none

def lastSaved (collection : Collection) (id : Text) (saves : List AnyRow) :
    Option collection.Row :=
  (saves.filterMap fun saved =>
    (saved.in? collection).filter fun row => Record.id row = id).getLast?

namespace Store

theorem load_save_any (collection : Collection) (id : Text) (saved : AnyRow) (store : Store) :
    (store.save saved.collection saved.row).load collection id =
      ((saved.in? collection).filter fun row => Record.id row = id).or
        (store.load collection id) := by
  obtain ⟨other, row⟩ := saved
  by_cases same : other = collection
  · subst same
    rw [load_save]
    by_cases isId : id = Record.id row
    · simp [AnyRow.in?, Option.filter, isId]
    · simp [AnyRow.in?, Option.filter, isId, Ne.symm isId]
  · rw [load_save_ne _ _ _ _ _ (Ne.symm same)]
    simp [AnyRow.in?, same]

/-- What is stored under an id is what was saved last under it. -/
theorem load_save_all (collection : Collection) (id : Text) (saves : List AnyRow) (store : Store) :
    (store.saveAll saves).load collection id =
      (lastSaved collection id saves).or (store.load collection id) := by
  induction saves using List.reverseRecOn with
  | nil => rfl
  | append_singleton saves saved ih =>
      have split : store.saveAll (saves ++ [saved]) =
          (store.saveAll saves).save saved.collection saved.row := List.foldl_append
      rw [split, load_save_any, ih]
      simp only [lastSaved, List.filterMap_append, List.getLast?_append]
      cases own : (saved.in? collection).filter fun row => Record.id row = id with
      | none => simp [own]
      | some row => simp [own]

theorem list_of_same_rows {collection : Collection} {one other : Store}
    (same : ∀ id, one.load collection id = other.load collection id) (query : Query) :
    one.list collection query = other.list collection query :=
  congrArg (Table.list query) (Table.ext_load same)

/-- A listing does not depend on how its rows came to be stored. -/
theorem list_of_saves {collection : Collection} {store : Store} {saves : List AnyRow}
    (left : ∀ id, lastSaved collection id saves = store.load collection id) (query : Query) :
    (empty.saveAll saves).list collection query = store.list collection query := by
  refine list_of_same_rows (fun id => ?_) query
  rw [load_save_all, left]
  cases store.load collection id with
  | none => cases collection <;> rfl
  | some row => rfl

/-- Who reads a listing page by page, up to the first page that is not full, gets exactly the rows
stored that have the status and are not in an earlier block, each once, in the order of block and
id. As many are counted where no block is given, and where nothing is the last one read has the
highest block. Whatever was saved in whatever order, the pages are the same if it left the same
rows. -/
theorem paging_loses_and_repeats_nothing (collection : Collection) (store : Store)
    (status : Option String) (since : Option Int) (size : Nat) (positive : 0 < size) :
    let page := fun number : Nat =>
      store.list collection (.window status since size (number * size))
    ∃ last, (∀ number < last, (page number).length = size) ∧ (page last).length < size ∧
      let read := (List.range (last + 1)).flatMap page
      (∀ row, row ∈ read ↔ store.load collection (Record.id row) = some row ∧
        (∀ word, status = some word → Record.status row = some word) ∧
        ∀ block, since = some block → block ≤ Record.block row) ∧
      read.Pairwise Precedes ∧ (read.map Record.id).Nodup ∧
      (since = none → read.length = store.count collection status) ∧
      (status = none → since = none →
        store.maxBlock collection = read.getLast?.map Record.block ∧
        (store.maxBlock collection = none ↔ read = []) ∧
        ∀ top, store.maxBlock collection = some top → ∀ row ∈ read, Record.block row ≤ top) ∧
      ∀ saves : List AnyRow,
        (∀ id, lastSaved collection id saves = store.load collection id) →
        ∀ number : Nat, (empty.saveAll saves).list collection
          (.window status since size (number * size)) = page number := by
  intro page
  let accepted := (store.table collection).rows.filter (Query.window status since 0 0).accepts
  have isPage : page = fun number => (accepted.drop (number * size)).take size :=
    funext fun number => Table.list_window _ status since size (number * size)
  obtain ⟨last, full, notFull, all⟩ := pages_eq_all accepted positive
  rw [isPage]
  refine ⟨last, full, notFull, ?_⟩
  intro read
  have isRead : read = accepted := all
  rw [isRead]
  refine ⟨Table.mem_accepted_iff _ _, ?_, ?_, ?_, ?_, ?_⟩
  · exact (store.table collection).ordered.filter _
  · exact List.pairwise_map.mpr ((store.table collection).distinct.filter _)
  · rintro rfl
    exact (Table.count_eq_length _ status).symm
  · rintro rfl rfl
    have whole : accepted = (store.table collection).rows := Table.unfiltered _
    rw [whole]
    refine ⟨rfl, by simp [maxBlock, Table.maxBlock], fun top isTop row stored => ?_⟩
    obtain ⟨highest, isMax, below⟩ := Table.max_block_of_mem stored
    exact Option.some.inj (isMax.symm.trans isTop) ▸ below
  · intro saves left number
    exact (list_of_saves left _).trans (congrFun isPage number)

/-- Of three candidates the two that are active are read, one on each page. -/
theorem paging_loses_and_repeats_nothing_active :
    let store := empty.saveAll
      [⟨.candidateValidators, ⟨"0x0c", 5, ⟨"0x1c", by decide⟩, true⟩⟩,
       ⟨.candidateValidators, ⟨"0x0b", 3, ⟨"0x1b", by decide⟩, false⟩⟩,
       ⟨.candidateValidators, ⟨"0x0a", 4, ⟨"0x1a", by decide⟩, true⟩⟩]
    0 < 1 ∧ ∃ last,
      (store.list .candidateValidators (.window (some "ACTIVE") none 1 (last * 1))).length < 1 ∧
      ((List.range (last + 1)).flatMap fun number =>
        store.list .candidateValidators (.window (some "ACTIVE") none 1 (number * 1))).length =
          2 := by
  intro store
  have counted : store.count .candidateValidators (some "ACTIVE") = 2 := by decide +kernel
  obtain ⟨last, -, notFull, -, -, -, sameCount, -⟩ :=
    paging_loses_and_repeats_nothing .candidateValidators store (some "ACTIVE") none 1 Nat.one_pos
  exact ⟨Nat.one_pos, last, notFull, (sameCount rfl).trans counted⟩

end Store

end BridgeState
