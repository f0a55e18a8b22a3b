import BridgeState.Database.Server
import BridgeState.Proofs.RecordCodec
import Mathlib.Data.List.Forall2

/-!
# What the statements mean

`Statement.Does` is what SQL says of each statement: which rows the tables hold behind it and what it
finds. A row is found and replaced by its id, no status is equal to none, a page is ordered by block
and then by id, and a document comes back with the members that it had. Rows stand in a table in no
order that counts. A `SqlServer` is a server that executes the statements so, each transaction on the
tables that the one before it committed; nothing else is known of it.
-/

namespace BridgeState

set_option autoImplicit false

abbrev Tables : Type :=
  Collection → List Columns

namespace Columns

/-- The order of a page: by block, then by id. -/
def Before (first second : Columns) : Prop :=
  first.blockNumber < second.blockNumber ∨
    (first.blockNumber = second.blockNumber ∧ first.id < second.id)

instance (first second : Columns) : Decidable (first.Before second) :=
  inferInstanceAs (Decidable (_ ∨ _))

def hasStatus (status : Option String) (columns : Columns) : Bool :=
  match status with
  | none => true
  | some status => columns.status == some status

def meets (query : Query) (columns : Columns) : Bool :=
  columns.hasStatus query.status &&
    match query.since with
    | none => true
    | some block => decide (block ≤ (columns.blockNumber : Int))

end Columns

namespace Cell

/-- The cell gives a stored object back: as a value or as a text that is read as one, the members
in any order. -/
def GivesBack (body : Json) : Cell → Prop
  | .plain (.obj members) => ∃ stored, body = .obj stored ∧ SameMembers members stored
  | .plain (.str text) => ∃ members stored,
      Json.read text = .ok (.obj members) ∧ body = .obj stored ∧ SameMembers members stored
  | _ => False

/-- The cell is a number, as an integer or as a decimal number without a fraction. -/
def IsNumber (number : Nat) : Cell → Prop
  | .plain value => value = .nat number
  | .decimal value => ∃ digits, value = .finite false digits 0 ∧ Text.decimalNumber digits = number

/-- The cell is the greatest of some numbers, or null if there are none. -/
def IsGreatest (numbers : List Nat) (cell : Cell) : Prop :=
  (numbers = [] ∧ cell = .plain .null) ∨
    ∃ greatest ∈ numbers, (∀ number ∈ numbers, number ≤ greatest) ∧ cell.IsNumber greatest

end Cell

/-- What was found are the documents of the rows, one in each found row. -/
def Finds (rows : List Columns) (found : List FetchedRow) : Prop :=
  List.Forall₂ (fun cells columns => ∃ cell, cells = [cell] ∧ cell.GivesBack columns.body) found rows

/-- The texts of a row that need be neither hexadecimal digits nor words. -/
def Collection.freeTexts : (collection : Collection) → collection.Row → List Text
  | .messages, row => row.id :: row.token.toList
  | .bridgeMessages, row => [row.id]
  | .accountMessages, row => [row.id]
  | .accounts, row => [row.id]
  | .limitProposals, row => [row.id]
  | .limitMessages, row => [row.id]
  | .limits, row => [row.id]
  | .candidateValidators, row => [row.id]
  | .candidateValidatorMessages, row => [row.id]
  | .candidatesValidatorsProposals, row => [row.id]
  | .validatorsListMessages, row => [row.id]

def blockCeiling : Nat := Nat.pow 10 78

/-- Whether a text holds the character U+0000, which no column takes. -/
def Text.hasNull (text : Text) : Bool :=
  text.codes.contains 0

/-- A row that a table takes. -/
structure Collection.Storable (collection : Collection) (row : collection.Row) : Prop where
  block : Record.block row < blockCeiling
  texts : ∀ text ∈ collection.freeTexts row, text.hasNull = false

namespace Statement

/-- Statements that a server need not refuse: of those that save, the ones that save a row that a
table takes, and of those that list, the ones that neither skip nor take less than nothing. -/
def Acceptable : Statement → Prop
  | .upsert collection columns =>
    ∃ row : collection.Row, columns = collection.columns row ∧ collection.Storable row
  | .selectPage _ query => 0 ≤ query.limit ∧ 0 ≤ query.offset
  | _ => True

def Does : Statement → Tables → Tables → List FetchedRow → Prop
  | .setTimeout _, before, after, _ => after = before
  | .createTable _, before, after, _ => after = before
  | .selectRow collection id, before, after, found =>
    after = before ∧ Finds ((before collection).filter fun columns => columns.id = id) found
  | .upsert collection columns, before, after, _ =>
    (after collection).Perm
        (columns :: (before collection).filter fun other => other.id ≠ columns.id) ∧
      ∀ other, other ≠ collection → after other = before other
  | .selectPage collection query, before, after, found =>
    after = before ∧ ∃ listing : List Columns,
      listing.Perm ((before collection).filter fun columns => columns.meets query) ∧
      listing.Pairwise (fun first second => ¬second.Before first) ∧
      Finds ((listing.drop query.offset.toNat).take query.limit.toNat) found
  | .countRows collection status, before, after, found =>
    after = before ∧
      found = [[.plain (.nat ((before collection).countP fun columns => columns.hasStatus status))]]
  | .maxBlock collection, before, after, found =>
    after = before ∧ ∃ cell : Cell, found = [[cell]] ∧
      cell.IsGreatest ((before collection).map Columns.blockNumber)
  | .truncate, _, after, _ => ∀ collection, after collection = []

end Statement

/-- A server that executes the statements as SQL says. Its tables are those that were committed last,
and within a transaction those that it works on; what a statement finds is there to be fetched. -/
structure SqlServer (σ : Type) [Server σ] where
  committed : σ → Tables
  working : σ → Tables
  found : σ → List FetchedRow
  connects : ∀ dsn server, ∃ after, Server.perform (.connect dsn) server = (.ok (), after) ∧
    working after = committed server
  opens : ∀ server, working (performed .openCursor server) = working server
  executes : ∀ (statement : Statement) server, statement.Acceptable →
    ∃ after, Server.perform (.execute statement) server = (.ok (), after) ∧
      statement.Does (working server) (working after) (found after)
  fetchesRow : ∀ server, ∃ after, Server.fetchRow server = (.ok (found server).head?, after) ∧
    working after = working server
  fetchesRows : ∀ server, ∃ after, Server.fetchRows server = (.ok (found server), after) ∧
    working after = working server
  commits : ∀ server, ∃ after, Server.perform .commit server = (.ok (), after) ∧
    committed after = working server
  closesCursor : ∀ server, committed (performed .closeCursor server) = committed server
  closes : ∀ server, committed (performed .close server) = committed server

namespace SqlServer

variable {σ : Type} [Server σ] (sql : SqlServer σ)

def Fetches {α : Type} (found : List FetchedRow) (value : α)
    (finish : σ → Except Problem α × σ) : Prop :=
  ∀ server, sql.found server = found → ∃ after, finish server = (.ok value, after) ∧
    sql.working after = sql.working server

theorem fetches_none (found : List FetchedRow) : sql.Fetches found () fetchNone :=
  fun server _ => ⟨server, rfl, rfl⟩

theorem fetches_row (found : List FetchedRow) : sql.Fetches found found.head? Server.fetchRow := by
  intro server isFound
  obtain ⟨after, fetched, same⟩ := sql.fetchesRow server
  exact ⟨after, isFound ▸ fetched, same⟩

theorem fetches_rows (found : List FetchedRow) : sql.Fetches found found Server.fetchRows := by
  intro server isFound
  obtain ⟨after, fetched, same⟩ := sql.fetchesRows server
  exact ⟨after, isFound ▸ fetched, same⟩

theorem fetches_first (cell : Cell) : sql.Fetches [[cell]] cell fetchFirst := by
  intro server isFound
  obtain ⟨after, fetched, same⟩ := sql.fetchesRow server
  refine ⟨after, ?_, same⟩
  rw [isFound] at fetched
  simp only [fetchFirst, fetched, List.head?_cons]

/-- A transaction does to the committed tables what its statement says. -/
theorem transaction_does (statement : Statement) (acceptable : statement.Acceptable)
    (link : DatabaseLink) (milliseconds : Int) (bounded : link.milliseconds = .ok milliseconds)
    (server : σ) :
    ∃ tables found, statement.Does (sql.committed server) tables found ∧
      ∀ {α : Type} (finish : σ → Except Problem α × σ) value, sql.Fetches found value finish →
        ∃ after, transaction link [statement] finish server = (.ok value, after) ∧
          sql.committed after = tables := by
  obtain ⟨connected, isConnected, workingConnected⟩ := sql.connects link.dsn server
  have workingOpened := sql.opens connected
  obtain ⟨timed, isTimed, sameTables⟩ :=
    sql.executes (.setTimeout milliseconds) (performed .openCursor connected) trivial
  obtain ⟨executed, isExecuted, does⟩ := sql.executes statement timed acceptable
  have workingTimed : sql.working timed = sql.committed server := by
    rw [sameTables, workingOpened, workingConnected]
  rw [workingTimed] at does
  refine ⟨_, _, does, ?_⟩
  intro α finish value fetches
  obtain ⟨finished, isFinished, workingFinished⟩ := fetches executed rfl
  obtain ⟨done, isCommitted, committedDone⟩ := sql.commits finished
  refine ⟨performed .close (performed .closeCursor done), ?_, ?_⟩
  · simp only [transaction, isConnected, statementScope, bounded, executeAll, isTimed, isExecuted,
      isFinished, isCommitted]
  · rw [sql.closes, sql.closesCursor, committedDone, workingFinished]

end SqlServer

end BridgeState
