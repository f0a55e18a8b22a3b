import BridgeState.Proofs.Pages
import BridgeState.Proofs.SqlServer
import Mathlib.Data.List.Perm.Basic

/-!
# Tables that hold the rows of a store

A database mirrors the store in memory while its tables hold the rows of the store, in whatever order.
It then answers every call as the store does and mirrors the store behind the call: the rows of a page
are ordered by block and id, which no two rows of a table share, so that order decides the page.
-/

namespace BridgeState

set_option autoImplicit false

theorem Cell.whole_of_number {cell : Cell} {number : Nat} (isNumber : cell.IsNumber number) :
    cell.whole = .ok (.nat number) := by
  match cell, isNumber with
  | .plain _, rfl => rfl
  | .decimal _, ⟨digits, rfl, isNumber⟩ =>
      have wholePart : DecimalNumber.wholePart? digits 0 = some number := by
        have manageable : (0 : Int) ≤ DecimalNumber.manageableZeros := Int.natCast_nonneg _
        by_cases zero : number = 0
        · rw [DecimalNumber.wholePart?, if_pos (Int.le_refl 0), isNumber, if_pos zero, zero]
        · rw [DecimalNumber.wholePart?, if_pos (Int.le_refl 0), isNumber, if_neg zero,
            if_pos manageable]
          exact congrArg some (Nat.mul_one number)
      simp only [whole, DecimalNumber.truncated, wholePart]
      rfl

/-! ## Rows and columns -/

namespace Collection

variable (collection : Collection)

theorem decode_given_back (row : collection.Row) (cell : Cell)
    (givesBack : cell.GivesBack (collection.encodeRow row)) :
    collection.decodeCell cell = .ok row := by
  have decoded (members stored : Members) (isBody : collection.encodeRow row = .obj stored)
      (same : SameMembers members stored) : collection.decodeRow (.obj members) = .valid row := by
    apply collection.decode_of_same row members
    rw [← Json.obj.inj isBody] at same
    exact same
  match cell, givesBack with
  | .plain (.obj members), ⟨stored, isBody, same⟩ =>
      have read := decoded members stored isBody same
      simp only [decodeCell, bind, Except.bind, read]
  | .plain (.str text), ⟨members, stored, isText, isBody, same⟩ =>
      have read := decoded members stored isBody same
      simp only [decodeCell, bind, Except.bind, isText, Except.mapError, read]

theorem decode_found (rows : List collection.Row) (found : List FetchedRow)
    (finds : Finds (rows.map collection.columns) found) :
    found.mapM collection.decodeFetched = .ok rows := by
  induction rows generalizing found with
  | nil =>
      cases finds
      rfl
  | cons row rest ih =>
      obtain _ | ⟨⟨cell, isCell, givesBack⟩, finds⟩ := finds
      rw [List.mapM_cons, isCell, decodeFetched, collection.decode_given_back row cell givesBack,
        ih _ finds]
      rfl

end Collection

section Tables

variable {α : Type} [Record α]

theorem insert_row_perm (row : α) (rows : List α) : (insertRow row rows).Perm (row :: rows) := by
  induction rows with
  | nil => exact List.Perm.refl _
  | cons first rest ih =>
      unfold insertRow
      split
      · exact List.Perm.refl _
      · exact (ih.cons first).trans (List.Perm.swap row first rest)

end Tables

theorem Store.rows_empty (collection : Collection) : (Store.empty.table collection).rows = [] := by
  rw [Store.table_empty]
  rfl

/-! ## Mirrored states -/

section Mirror

variable {σ : Type} [Server σ] (sql : SqlServer σ)

/-- The tables of a database hold the rows of a store, all of which they can take. -/
structure Mirrors (database : Connected σ) (store : Store) : Prop where
  rows : ∀ collection : Collection, (sql.committed database.server collection).Perm
    ((store.table collection).rows.map collection.columns)
  storable : ∀ collection : Collection, ∀ row ∈ (store.table collection).rows,
    collection.Storable row
  bounded : ∃ milliseconds, database.link.milliseconds = .ok milliseconds

def Agree {α : Type} (onDatabase : Reply (Connected σ) α) (onStore : Reply Store α) : Prop :=
  ∃ value, onDatabase.1 = .ok value ∧ onStore.1 = .ok value ∧
    Mirrors sql onDatabase.2 onStore.2

variable {sql} {database : Connected σ} {store : Store}

theorem Agree.map {α β : Type} {onDatabase : Reply (Connected σ) α} {onStore : Reply Store α}
    (agree : Agree sql onDatabase onStore) (f : α → β) :
    Agree sql (onDatabase.1.map f, onDatabase.2) (onStore.1.map f, onStore.2) := by
  obtain ⟨value, answered, told, mirrors⟩ := agree
  refine ⟨f value, ?_, ?_, mirrors⟩
  · rw [answered]
    rfl
  · rw [told]
    rfl

theorem Mirrors.rows_of_filter (mirrors : Mirrors sql database store) (collection : Collection)
    (keep : Columns → Bool) :
    ((sql.committed database.server collection).filter keep).Perm
      (((store.table collection).rows.filter fun row => keep (collection.columns row)).map
        collection.columns) := by
  have filtered := (mirrors.rows collection).filter keep
  rw [List.filter_map] at filtered
  exact filtered

/-- A call agrees with an answer if, whatever its statement finds, the answer is what is read of it,
and the tables behind it hold the rows of the store behind the answer. -/
theorem Mirrors.call (mirrors : Mirrors sql database store) {α β : Type} (statement : Statement)
    (acceptable : statement.Acceptable) (finish : σ → Except Problem α × σ)
    (read : α → Except StoreFault β) {answer : β} {after : Store}
    (storable : ∀ collection : Collection, ∀ row ∈ (after.table collection).rows,
      collection.Storable row)
    (decided : ∀ tables found, statement.Does (sql.committed database.server) tables found →
      (∃ value, sql.Fetches found value finish ∧ read value = .ok answer) ∧
        ∀ collection : Collection, (tables collection).Perm
          ((after.table collection).rows.map collection.columns)) :
    Agree sql (database.call [statement] finish read) (.ok answer, after) := by
  obtain ⟨milliseconds, bounded⟩ := mirrors.bounded
  obtain ⟨tables, found, does, fetched⟩ :=
    sql.transaction_does statement acceptable database.link milliseconds bounded database.server
  obtain ⟨⟨value, fetches, isAnswer⟩, rows⟩ := decided tables found does
  obtain ⟨server, done, committed⟩ := fetched finish value fetches
  have called : database.call [statement] finish read =
      (.ok answer, { database with server }) := by
    simp only [Connected.call, done, isAnswer]
  rw [called]
  refine ⟨answer, rfl, rfl, fun collection => ?_, storable, milliseconds, bounded⟩
  simp only [committed]
  exact rows collection

theorem Mirrors.load (mirrors : Mirrors sql database store) (collection : Collection) (id : Text) :
    Agree sql (Backend.load collection id database) (Backend.load collection id store) := by
  refine mirrors.call (.selectRow collection id) trivial _ _ mirrors.storable ?_
  rintro tables found ⟨same, finds⟩
  subst same
  refine ⟨⟨found.head?, sql.fetches_row found, ?_⟩, mirrors.rows⟩
  have rows := mirrors.rows_of_filter collection fun columns => columns.id = id
  have ofId : ((store.table collection).rows.filter fun row =>
      decide ((collection.columns row).id = id)) = (store.load collection id).toList :=
    Table.filter_id id (store.table collection)
  rw [ofId] at rows
  cases loaded : store.load collection id with
  | none =>
      rw [loaded] at rows
      rw [List.Perm.eq_nil rows] at finds
      cases finds
      rfl
  | some row =>
      rw [loaded] at rows
      rw [List.Perm.eq_singleton rows] at finds
      obtain _ | ⟨⟨cell, isCell, givesBack⟩, finds⟩ := finds
      cases finds
      have decoded := collection.decode_given_back row cell givesBack
      simp only [List.head?_cons, isCell, Collection.decodeFetched, decoded]
      rfl

theorem Mirrors.save (mirrors : Mirrors sql database store) (collection : Collection)
    (row : collection.Row) (storable : collection.Storable row) :
    Agree sql (Backend.save collection row database) (Backend.save collection row store) := by
  refine mirrors.call (.upsert collection (collection.columns row)) ⟨row, rfl, storable⟩ _ _ ?_ ?_
  · intro other row' member
    by_cases same : other = collection
    · subst same
      rw [Store.table_save_self] at member
      rcases (Table.mem_save row row' _).mp member with isRow | ⟨before, _⟩
      · exact isRow ▸ storable
      · exact mirrors.storable other row' before
    · rw [Store.table_save_ne _ _ _ _ same] at member
      exact mirrors.storable other row' member
  · rintro tables found ⟨saved, kept⟩
    refine ⟨⟨(), sql.fetches_none found, rfl⟩, fun other => ?_⟩
    by_cases same : other = collection
    · subst same
      have others := mirrors.rows_of_filter other fun columns => columns.id ≠ Record.id row
      have sameChoice : ((store.table other).rows.filter fun kept =>
          decide ((other.columns kept).id ≠ Record.id row)) =
            Table.without (Record.id row) (store.table other).rows := by
        refine List.filter_congr fun kept _ => ?_
        rw [Bool.eq_iff_iff, decide_eq_true_eq, bne_iff_ne]
        rfl
      rw [sameChoice] at others
      have inserted := (insert_row_perm row
        (Table.without (Record.id row) (store.table other).rows)).map other.columns
      rw [Store.table_save_self]
      exact (saved.trans (others.cons _)).trans inserted.symm
    · rw [kept other same, Store.table_save_ne _ _ _ _ same]
      exact mirrors.rows other

theorem Mirrors.list (mirrors : Mirrors sql database store) (collection : Collection)
    (query : Query) (limit : 0 ≤ query.limit) (offset : 0 ≤ query.offset) :
    Agree sql (Backend.list collection query database) (Backend.list collection query store) := by
  refine mirrors.call (.selectPage collection query) ⟨limit, offset⟩ _ _ mirrors.storable ?_
  rintro tables found ⟨same, listing, isListing, ordered, finds⟩
  subst same
  refine ⟨⟨found, sql.fetches_rows found, ?_⟩, mirrors.rows⟩
  have images := isListing.trans
    (mirrors.rows_of_filter collection fun columns => columns.meets query)
  obtain ⟨sorted, isImage, isSorting⟩ :=
    (congrFun₂ (List.eq_map_comp_perm collection.columns) _ _).mpr images
  subst isImage
  have inOrder : sorted.Pairwise fun first second => ¬Precedes second first :=
    List.pairwise_map.mp ordered
  have listed := (store.table collection).list_of_perm query (List.Perm.refl _) isSorting inOrder
  apply collection.decode_found
  rw [Store.list, listed, query.page_eq_take_drop _ limit offset, List.map_take, List.map_drop]
  exact finds

theorem Mirrors.count (mirrors : Mirrors sql database store) (collection : Collection)
    (status : Option String) :
    Agree sql (Backend.count collection status database)
      (Backend.count collection status store) := by
  refine mirrors.call (.countRows collection status) trivial _ _ mirrors.storable ?_
  rintro tables found ⟨same, isFound⟩
  subst same isFound
  refine ⟨⟨_, sql.fetches_first _, ?_⟩, mirrors.rows⟩
  have rows := (mirrors.rows collection).countP_eq fun columns => columns.hasStatus status
  rw [rows, List.countP_map, List.countP_eq_length_filter]
  cases status with
  | none =>
      have all : (store.table collection).rows.filter
          ((fun columns => columns.hasStatus none) ∘ collection.columns) =
            (store.table collection).rows :=
        List.filter_eq_self.mpr fun _ _ => rfl
      rw [all]
      rfl
  | some status => rfl

theorem Mirrors.max_block (mirrors : Mirrors sql database store) (collection : Collection) :
    Agree sql (Backend.maxBlock collection database) (Backend.maxBlock collection store) := by
  refine mirrors.call (.maxBlock collection) trivial _ _ mirrors.storable ?_
  rintro tables found ⟨same, cell, isFound, greatest⟩
  subst same isFound
  refine ⟨⟨_, sql.fetches_first cell, ?_⟩, mirrors.rows⟩
  suffices sameNumber : cell.whole = .ok (.ofOption .nat (store.maxBlock collection)) by
    rw [sameNumber]
    rfl
  have images := mirrors.rows collection
  obtain ⟨held, isImage, sameRows⟩ :=
    (congrFun₂ (List.eq_map_comp_perm collection.columns) _ _).mpr images
  have isMax : store.maxBlock collection =
      ((sql.committed database.server collection).map Columns.blockNumber).max? := by
    rw [Store.maxBlock, (store.table collection).max_block_of_perm sameRows, isImage, List.map_map]
    rfl
  rcases greatest with ⟨noBlocks, isNull⟩ | ⟨greatest, there, highest, isNumber⟩
  · rw [isNull, isMax, noBlocks]
    rfl
  · rw [Cell.whole_of_number isNumber, isMax, List.max?_eq_some_iff.mpr ⟨there, highest⟩]
    rfl

theorem Mirrors.max_blocks (mirrors : Mirrors sql database store) (collections : List Collection) :
    Agree sql (Backend.maxBlocks collections database) (Backend.maxBlocks collections store) := by
  induction collections generalizing database store with
  | nil => exact ⟨[], rfl, rfl, mirrors⟩
  | cons collection rest ih =>
      obtain ⟨block, answered, told, mirrored⟩ := mirrors.max_block collection
      rcases onDatabase : Backend.maxBlock collection database with ⟨answer, database'⟩
      rcases onStore : Backend.maxBlock collection store with ⟨answer', store'⟩
      rw [onDatabase] at answered mirrored
      rw [onStore] at told mirrored
      obtain rfl : answer = .ok block := answered
      obtain rfl : answer' = .ok block := told
      obtain ⟨blocks, answeredRest, toldRest, mirroredRest⟩ := ih mirrored
      rcases restOnDatabase : Backend.maxBlocks rest database' with ⟨answers, last⟩
      rcases restOnStore : Backend.maxBlocks rest store' with ⟨answers', last'⟩
      rw [restOnDatabase] at answeredRest mirroredRest
      rw [restOnStore] at toldRest mirroredRest
      obtain rfl : answers = .ok blocks := answeredRest
      obtain rfl : answers' = .ok blocks := toldRest
      refine ⟨(collection, block) :: blocks, ?_, ?_, ?_⟩
      · simp only [Backend.maxBlocks, onDatabase, restOnDatabase]
      · simp only [Backend.maxBlocks, onStore, restOnStore]
      · simp only [Backend.maxBlocks, onDatabase, restOnDatabase, onStore, restOnStore]
        exact mirroredRest

theorem Mirrors.clear (mirrors : Mirrors sql database store) :
    Agree sql database.clear (.ok (), Store.empty) := by
  refine mirrors.call .truncate trivial _ _ ?_ ?_
  · intro collection row member
    rw [Store.rows_empty] at member
    cases member
  · intro tables found emptied
    refine ⟨⟨(), sql.fetches_none found, rfl⟩, fun collection => ?_⟩
    rw [emptied, Store.rows_empty]
    exact List.Perm.refl _

end Mirror

end BridgeState
