import BridgeState.Entity.Basic

/-!
# Tables

A table holds the rows of one collection, each id once, in the order in which they are listed: by
block and within a block by id. The order and the distinctness are part of the type, so the rows are
determined by what `load` answers: `Table.ext_load`. `save` replaces the row of that id or adds one. Of
rows held in any other order, `maxBlock` is the maximum and `list` a page of their sorting:
`Table.max_block_of_perm`, `Table.list_of_perm`.
-/

namespace BridgeState

set_option autoImplicit false

/-- The order of a listing: by block, then by id. -/
def Precedes {α : Type} [Record α] (a b : α) : Prop :=
  Record.block a < Record.block b ∨
    (Record.block a = Record.block b ∧ Record.id a < Record.id b)

instance {α : Type} [Record α] (a b : α) : Decidable (Precedes a b) :=
  inferInstanceAs (Decidable (_ ∨ _))

namespace Precedes

variable {α : Type} [Record α]

theorem irrefl (a : α) : ¬Precedes a a := by
  rintro (block | ⟨_, id⟩)
  · omega
  · exact Text.lt_irrefl _ id

theorem trans {a b c : α} (first : Precedes a b) (second : Precedes b c) : Precedes a c := by
  rcases first with ab | ⟨ab, idAB⟩ <;> rcases second with bc | ⟨bc, idBC⟩
  · exact Or.inl (by omega)
  · exact Or.inl (by omega)
  · exact Or.inl (by omega)
  · exact Or.inr ⟨by omega, Text.lt_trans idAB idBC⟩

theorem asymm {a b : α} (before : Precedes a b) : ¬Precedes b a := fun after =>
  irrefl a (before.trans after)

/-- Rows of different ids stand in one order or the other. -/
theorem of_not {a b : α} (apart : Record.id a ≠ Record.id b) (notBefore : ¬Precedes a b) :
    Precedes b a := by
  unfold Precedes at *
  rcases Nat.lt_trichotomy (Record.block a) (Record.block b) with less | same | more
  · exact absurd (Or.inl less) notBefore
  · refine Or.inr ⟨same.symm, ?_⟩
    have notLess : ¬Record.id a < Record.id b := fun less => notBefore (Or.inr ⟨same, less⟩)
    rcases Decidable.em (Record.id b < Record.id a) with less | notMore
    · exact less
    · exact absurd (Text.eq_of_not_lt notLess notMore) apart
  · exact Or.inl more

end Precedes

def insertRow {α : Type} [Record α] (row : α) : List α → List α
  | [] => [row]
  | first :: rest =>
    if Precedes row first then row :: first :: rest else first :: insertRow row rest

section InsertRow

variable {α : Type} [Record α]

theorem mem_insertRow (row other : α) (rows : List α) :
    other ∈ insertRow row rows ↔ other = row ∨ other ∈ rows := by
  induction rows with
  | nil => simp [insertRow]
  | cons first rest ih =>
    unfold insertRow
    split
    · simp
    · simp only [List.mem_cons, ih]
      exact or_left_comm

theorem length_insertRow (row : α) (rows : List α) :
    (insertRow row rows).length = rows.length + 1 := by
  induction rows with
  | nil => rfl
  | cons first rest ih =>
    unfold insertRow
    split
    · rfl
    · simp [ih]

theorem pairwise_insertRow (row : α) (rows : List α) (ordered : rows.Pairwise Precedes)
    (fresh : ∀ other ∈ rows, Record.id row ≠ Record.id other) :
    (insertRow row rows).Pairwise Precedes := by
  induction rows with
  | nil => simp [insertRow]
  | cons first rest ih =>
    have firstBefore := (List.pairwise_cons.mp ordered).1
    have restOrdered := (List.pairwise_cons.mp ordered).2
    unfold insertRow
    split
    · rename_i before
      refine List.pairwise_cons.mpr ⟨fun other member => ?_, ordered⟩
      rcases List.mem_cons.mp member with same | inside
      · exact same ▸ before
      · exact before.trans (firstBefore other inside)
    · rename_i notBefore
      refine List.pairwise_cons.mpr ⟨fun other member => ?_, ?_⟩
      · rcases (mem_insertRow row other rest).mp member with same | inside
        · exact same ▸ Precedes.of_not (fresh first (by simp)) notBefore
        · exact firstBefore other inside
      · exact ih restOrdered fun other inside => fresh other (by simp [inside])

theorem distinct_insertRow (row : α) (rows : List α)
    (distinct : rows.Pairwise fun a b => Record.id a ≠ Record.id b)
    (fresh : ∀ other ∈ rows, Record.id row ≠ Record.id other) :
    (insertRow row rows).Pairwise fun a b => Record.id a ≠ Record.id b := by
  induction rows with
  | nil => simp [insertRow]
  | cons first rest ih =>
    have firstApart := (List.pairwise_cons.mp distinct).1
    have restDistinct := (List.pairwise_cons.mp distinct).2
    unfold insertRow
    split
    · exact List.pairwise_cons.mpr ⟨fresh, distinct⟩
    · refine List.pairwise_cons.mpr ⟨fun other member => ?_, ?_⟩
      · rcases (mem_insertRow row other rest).mp member with same | inside
        · exact same ▸ (fresh first (by simp)).symm
        · exact firstApart other inside
      · exact ih restDistinct fun other inside => fresh other (by simp [inside])

end InsertRow

/-- Rows in the order of a listing, no id twice. -/
structure Table (α : Type) [Record α] where
  rows : List α
  ordered : rows.Pairwise Precedes
  distinct : rows.Pairwise fun a b => Record.id a ≠ Record.id b

namespace Table

variable {α : Type} [Record α]

theorem ext_rows {first second : Table α} (same : first.rows = second.rows) : first = second := by
  cases first; cases second; cases same; rfl

def empty : Table α :=
  ⟨[], List.Pairwise.nil, List.Pairwise.nil⟩

instance : Inhabited (Table α) := ⟨empty⟩

def load (id : Text) (table : Table α) : Option α :=
  table.rows.find? fun row => Record.id row == id

def without (id : Text) (rows : List α) : List α :=
  rows.filter fun row => Record.id row != id

theorem mem_without (id : Text) (rows : List α) (row : α) :
    row ∈ without id rows ↔ row ∈ rows ∧ Record.id row ≠ id := by
  simp [without]

theorem fresh_without (row : α) (rows : List α) :
    ∀ other ∈ without (Record.id row) rows, Record.id row ≠ Record.id other :=
  fun _ member => ((mem_without _ _ _).mp member).2.symm

/-- Creates the row of its id or replaces it. -/
def save (row : α) (table : Table α) : Table α where
  rows := insertRow row (without (Record.id row) table.rows)
  ordered := pairwise_insertRow row _ (table.ordered.filter _) (fresh_without row _)
  distinct := distinct_insertRow row _ (table.distinct.filter _) (fresh_without row _)

theorem mem_save (row other : α) (table : Table α) :
    other ∈ (table.save row).rows ↔
      other = row ∨ (other ∈ table.rows ∧ Record.id other ≠ Record.id row) := by
  simp only [save, mem_insertRow, mem_without]

/-- Rows of one id are one row. -/
theorem eq_of_id (table : Table α) {first second : α} (inFirst : first ∈ table.rows)
    (inSecond : second ∈ table.rows) (same : Record.id first = Record.id second) :
    first = second := by
  obtain ⟨rows, ordered, distinct⟩ := table
  simp only at inFirst inSecond
  clear ordered
  induction rows with
  | nil => simp at inFirst
  | cons head rest ih =>
    have apart := (List.pairwise_cons.mp distinct).1
    rcases List.mem_cons.mp inFirst with isHead | inRest
    · rcases List.mem_cons.mp inSecond with isHead' | inRest'
      · rw [isHead, isHead']
      · exact absurd (isHead ▸ same) (apart second inRest')
    · rcases List.mem_cons.mp inSecond with isHead' | inRest'
      · exact absurd (isHead' ▸ same.symm) (apart first inRest)
      · exact ih (List.pairwise_cons.mp distinct).2 inRest inRest'

/-- What is loaded is the row of that id. -/
theorem load_eq_some_iff (id : Text) (table : Table α) (row : α) :
    table.load id = some row ↔ row ∈ table.rows ∧ Record.id row = id := by
  constructor
  · intro found
    have member := List.mem_of_find?_eq_some found
    have same := List.find?_some found
    exact ⟨member, by simpa using same⟩
  · rintro ⟨member, same⟩
    cases found : table.load id with
    | none =>
      have none := List.find?_eq_none.mp found row member
      simp [same] at none
    | some other =>
      have inTable := List.mem_of_find?_eq_some found
      have otherId : Record.id other = id := by simpa using List.find?_some found
      rw [table.eq_of_id inTable member (otherId.trans same.symm)]

theorem nodup_ids (table : Table α) : (table.rows.map Record.id).Nodup :=
  List.pairwise_map.mpr table.distinct

/-- The rows of one id are what is loaded for it. -/
theorem filter_id (id : Text) (table : Table α) :
    table.rows.filter (fun row => Record.id row = id) = (table.load id).toList := by
  have distinct := table.distinct.filter fun row => decide (Record.id row = id)
  have inside (row : α) : row ∈ table.rows.filter (fun row => Record.id row = id) ↔
      table.load id = some row := by
    rw [List.mem_filter, decide_eq_true_eq, table.load_eq_some_iff]
  match filtered : table.rows.filter fun row => Record.id row = id with
  | [] =>
      rw [filtered] at inside
      cases found : table.load id with
      | none => rfl
      | some row => exact absurd ((inside row).mpr found) List.not_mem_nil
  | [row] =>
      rw [filtered] at inside
      rw [(inside row).mp List.mem_cons_self]
      rfl
  | first :: second :: rest =>
      rw [filtered] at distinct inside
      have one := (table.load_eq_some_iff id first).mp ((inside first).mp List.mem_cons_self)
      have other := (table.load_eq_some_iff id second).mp
        ((inside second).mp (List.mem_cons_of_mem _ List.mem_cons_self))
      have apart := (List.pairwise_cons.mp distinct).1 second List.mem_cons_self
      exact absurd (one.2.trans other.2.symm) apart

@[simp] theorem load_empty (id : Text) : (empty : Table α).load id = none := rfl

theorem load_save_self (row : α) (table : Table α) :
    (table.save row).load (Record.id row) = some row :=
  (load_eq_some_iff _ _ _).mpr ⟨(mem_save row row table).mpr (Or.inl rfl), rfl⟩

theorem load_save_ne (row : α) (table : Table α) (id : Text) (apart : id ≠ Record.id row) :
    (table.save row).load id = table.load id := by
  apply Option.ext
  intro other
  rw [load_eq_some_iff, load_eq_some_iff, mem_save]
  constructor
  · rintro ⟨same | ⟨inTable, _⟩, otherId⟩
    · exact absurd (otherId ▸ same ▸ rfl) apart
    · exact ⟨inTable, otherId⟩
  · rintro ⟨inTable, otherId⟩
    exact ⟨Or.inr ⟨inTable, otherId ▸ apart⟩, otherId⟩

theorem load_save (row : α) (table : Table α) (id : Text) :
    (table.save row).load id = if id = Record.id row then some row else table.load id := by
  split
  · rename_i same; subst same; exact load_save_self row table
  · rename_i apart; exact load_save_ne row table id apart

/-- Ordered lists of the same rows are the same list. -/
theorem rows_unique {first second : List α} (orderedFirst : first.Pairwise Precedes)
    (orderedSecond : second.Pairwise Precedes) (same : ∀ row, row ∈ first ↔ row ∈ second) :
    first = second := by
  induction first generalizing second with
  | nil =>
    cases second with
    | nil => rfl
    | cons head rest => exact absurd ((same head).mpr (by simp)) (by simp)
  | cons head rest ih =>
    cases second with
    | nil => exact absurd ((same head).mp (by simp)) (by simp)
    | cons head' rest' =>
      have before := (List.pairwise_cons.mp orderedFirst).1
      have before' := (List.pairwise_cons.mp orderedSecond).1
      have heads : head = head' := by
        rcases List.mem_cons.mp ((same head).mp (by simp)) with equal | inside
        · exact equal
        · rcases List.mem_cons.mp ((same head').mpr (by simp)) with equal | inside'
          · exact equal.symm
          · exact absurd (before' head inside) (before head' inside').asymm
      subst heads
      congr 1
      refine ih (List.pairwise_cons.mp orderedFirst).2 (List.pairwise_cons.mp orderedSecond).2
        fun row => ⟨fun member => ?_, fun member => ?_⟩
      · rcases List.mem_cons.mp ((same row).mp (by simp [member])) with equal | inside
        · exact absurd (equal ▸ before row member) (Precedes.irrefl head)
        · exact inside
      · rcases List.mem_cons.mp ((same row).mpr (by simp [member])) with equal | inside
        · exact absurd (equal ▸ before' row member) (Precedes.irrefl head)
        · exact inside

/-- A table is determined by what it answers to `load`. -/
theorem ext_load {first second : Table α} (same : ∀ id, first.load id = second.load id) :
    first = second := by
  refine ext_rows (rows_unique first.ordered second.ordered fun row => ?_)
  have answer := same (Record.id row)
  constructor <;> intro member
  · have found := (load_eq_some_iff _ first row).mpr ⟨member, rfl⟩
    exact ((load_eq_some_iff _ second row).mp (answer ▸ found)).1
  · have found := (load_eq_some_iff _ second row).mpr ⟨member, rfl⟩
    exact ((load_eq_some_iff _ first row).mp (answer ▸ found)).1

/-- Saving a row that is already there changes nothing. -/
theorem save_of_load (row : α) (table : Table α) (stored : table.load (Record.id row) = some row) :
    table.save row = table := by
  refine ext_load fun id => ?_
  rw [load_save]
  split
  · rename_i same; rw [same, stored]
  · rfl

theorem save_save (row : α) (table : Table α) : (table.save row).save row = table.save row :=
  save_of_load row _ (load_save_self row table)

def count (status : Option String) (table : Table α) : Nat :=
  match status with
  | none => table.rows.length
  | some status => (table.rows.filter fun row => Record.status row == some status).length

/-- The highest block of a row; rows are ordered by block. -/
def maxBlock (table : Table α) : Option Nat :=
  table.rows.getLast?.map Record.block

/-- A table without rows has no highest block; in any other a row has it and no row is above. -/
theorem max_block_cases (table : Table α) :
    (table.rows = [] ∧ table.maxBlock = none) ∨
      ∃ row ∈ table.rows, table.maxBlock = some (Record.block row) ∧
        ∀ other ∈ table.rows, Record.block other ≤ Record.block row := by
  rcases List.eq_nil_or_concat table.rows with empty | ⟨others, row, split⟩
  · exact Or.inl ⟨empty, by rw [maxBlock, empty]; rfl⟩
  · refine Or.inr ⟨row, by simp [split], by simp [maxBlock, split], fun other member => ?_⟩
    have ordered := table.ordered
    rw [split, List.concat_eq_append, List.pairwise_append] at ordered
    rw [split, List.concat_eq_append, List.mem_append, List.mem_singleton] at member
    rcases member with before | isRow
    · rcases ordered.2.2 other before row List.mem_cons_self with less | ⟨same, _⟩
      · omega
      · omega
    · exact Nat.le_of_eq (congrArg Record.block isRow)

/-- The highest block is the maximum over the rows, in whatever order they are held. -/
theorem max_block_of_perm (table : Table α) {held : List α} (sameRows : held.Perm table.rows) :
    table.maxBlock = (held.map Record.block).max? := by
  rcases table.max_block_cases with ⟨empty, isMax⟩ | ⟨row, inTable, isMax, above⟩
  · rw [empty] at sameRows
    rw [isMax, sameRows.eq_nil]
    rfl
  · rw [isMax, eq_comm, List.max?_eq_some_iff]
    refine ⟨List.mem_map_of_mem (sameRows.mem_iff.mpr inTable), ?_⟩
    intro block member
    obtain ⟨other, isHeld, rfl⟩ := List.mem_map.mp member
    exact above other (sameRows.mem_iff.mp isHeld)

end Table

def pageSize : Nat := 100

structure Query where
  status : Option String := none
  since : Option Int := none
  limit : Int := pageSize
  offset : Int := 0
deriving Repr, DecidableEq

namespace Query

def standard : Query :=
  {}

def accepts {α : Type} [Record α] (query : Query) (row : α) : Bool :=
  (match query.status with
    | none => true
    | some status => Record.status row == some status) &&
  (match query.since with
    | none => true
    | some block => decide (block ≤ (Record.block row : Int)))

/-- A position in a list of the given length; negative ones count from its end. -/
def position (length : Nat) (index : Int) : Nat :=
  if index < 0 then (index + length).toNat else min index.toNat length

/-- The items from the offset up to, but not including, the limit behind it. -/
def page {α : Type} (query : Query) (rows : List α) : List α :=
  (rows.take (position rows.length (query.offset + query.limit))).drop
    (position rows.length query.offset)

end Query

namespace Table

variable {α : Type} [Record α]

def list (query : Query) (table : Table α) : List α :=
  query.page (table.rows.filter query.accepts)

/-- A listing is a page of the accepted rows sorted by block and id, in whatever order they are held:
of two rows with different ids one precedes the other, so that there is only one such sorting. -/
theorem list_of_perm (query : Query) (table : Table α) {held sorted : List α}
    (sameRows : held.Perm table.rows) (isSorting : sorted.Perm (held.filter query.accepts))
    (inOrder : sorted.Pairwise fun first second => ¬Precedes second first) :
    table.list query = query.page sorted := by
  have accepted := isSorting.trans (sameRows.filter query.accepts)
  have sameSorting : sorted = table.rows.filter query.accepts := by
    refine List.Perm.eq_of_pairwise ?_ inOrder ?_ accepted
    · intro first second inFirst inSecond notAfter notBefore
      by_cases sameId : Record.id first = Record.id second
      · exact table.eq_of_id (List.mem_filter.mp (accepted.mem_iff.mp inFirst)).1
          (List.mem_filter.mp inSecond).1 sameId
      · exact absurd (Precedes.of_not sameId notBefore) notAfter
    · exact (table.ordered.filter query.accepts).imp fun before => before.asymm
  rw [list, sameSorting]

end Table

end BridgeState
