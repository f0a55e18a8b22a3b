import BridgeState.Database.Statement
import BridgeState.Store.Backend

/-!
# Servers and transactions

A server is whatever performs the steps of a connection; any step may fail. A transaction opens a
connection, bounds the time of its statements, executes them in order, fetches, and commits; after a
failure behind the opening it rolls back, and in either case it closes what it opened.
-/

namespace BridgeState

set_option autoImplicit false

inductive Step where
  | connect (dsn : String)
  | openCursor
  | execute (statement : Statement)
  | commit
  | rollback
  | closeCursor
  | close

structure Problem where
  message : String
  ofStore : Bool

abbrev FetchedRow : Type :=
  List Cell

/-- What performs steps and gives rows: the first that a statement found, if any, or all of them. -/
class Server (σ : Type) where
  perform : Step → σ → Except Problem Unit × σ
  fetchRow : σ → Except Problem (Option FetchedRow) × σ
  fetchRows : σ → Except Problem (List FetchedRow) × σ

structure DatabaseLink where
  dsn : String
  timeout : Json

def DatabaseLink.milliseconds (link : DatabaseLink) : Except String Int :=
  match link.timeout with
  | .int value => .ok value
  | .bool value => .ok (if value then 1 else 0)
  | .float value =>
    match value, value.truncate? with
    | _, some whole => .ok whole
    | .undefined, none => .error "cannot convert float NaN to integer"
    | _, none => .error "cannot convert float infinity to integer"
  | .str text => (Text.readInteger text.shown).mapError Text.NumeralProblem.message
  | other =>
    .error s!"int() argument must be a string, a bytes-like object or a real number, not '{other.kindName}'"

def Problem.fault (problem : Problem) : StoreFault :=
  if problem.ofStore then .raised problem.message else .operation problem.message

section Transaction

variable {σ α : Type} [Server σ]

def executeAll : List Statement → σ → Except Problem Unit × σ
  | [], server => (.ok (), server)
  | statement :: rest, server =>
    match Server.perform (.execute statement) server with
    | (.error problem, server) => (.error problem, server)
    | (.ok (), server) => executeAll rest server

/-- What a transaction does between opening and closing: statements, then `finish`, then commit. -/
def statementScope (link : DatabaseLink) (statements : List Statement)
    (finish : σ → Except Problem α × σ) (server : σ) : Except Problem α × σ :=
  match link.milliseconds with
  | .error message => (.error ⟨message, false⟩, server)
  | .ok milliseconds =>
    match executeAll (.setTimeout milliseconds :: statements) server with
    | (.error problem, server) => (.error problem, server)
    | (.ok (), server) =>
      match finish server with
      | (.error problem, server) => (.error problem, server)
      | (.ok value, server) =>
        match Server.perform .commit server with
        | (.error problem, server) => (.error problem, server)
        | (.ok (), server) => (.ok value, server)

def performed (step : Step) (server : σ) : σ :=
  (Server.perform step server).2

def transaction (link : DatabaseLink) (statements : List Statement)
    (finish : σ → Except Problem α × σ) (server : σ) : Reply σ α :=
  match Server.perform (.connect link.dsn) server with
  | (.error problem, server) => (.error (.unreachable problem.message), server)
  | (.ok (), server) =>
    match statementScope link statements finish (performed .openCursor server) with
    | (.ok value, server) => (.ok value, performed .close (performed .closeCursor server))
    | (.error problem, server) =>
      (.error problem.fault,
        performed .close (performed .closeCursor (performed .rollback server)))

def fetchNone (server : σ) : Except Problem Unit × σ :=
  (.ok (), server)

def fetchFirst (server : σ) : Except Problem Cell × σ :=
  match Server.fetchRow server with
  | (.error problem, server) => (.error problem, server)
  | (.ok none, server) => (.error ⟨"'NoneType' object is not subscriptable", false⟩, server)
  | (.ok (some []), server) => (.error ⟨StoreFault.emptyRow.message, false⟩, server)
  | (.ok (some (cell :: _)), server) => (.ok cell, server)

end Transaction

/-- A record from the cell that holds it; a body that is a text is read as JSON first. -/
def Collection.decodeCell (collection : Collection) : Cell → Except StoreFault collection.Row
  | .decimal value =>
    .error (.unreadableRow collection.recordName
      [⟨[], .notRecord collection.recordName, .decimal value⟩])
  | .plain value => do
    let body ← match value with
      | .str text => (Json.read text).mapError (.unreadableBody text)
      | value => .ok value
    match collection.decodeRow body with
    | .valid row => .ok row
    | .invalid complaints => .error (.unreadableRow collection.recordName complaints)

def Collection.decodeFetched (collection : Collection) :
    FetchedRow → Except StoreFault collection.Row
  | [] => .error .emptyRow
  | cell :: _ => collection.decodeCell cell

structure Connected (σ : Type) where
  link : DatabaseLink
  server : σ

namespace Connected

variable {σ α : Type} [Server σ]

/-- One transaction; what is read off its result is checked after it is closed. -/
def call {β : Type} (statements : List Statement) (finish : σ → Except Problem α × σ)
    (read : α → Except StoreFault β) (database : Connected σ) : Reply (Connected σ) β :=
  match transaction database.link statements finish database.server with
  | (.ok value, server) => (read value, { database with server })
  | (.error fault, server) => (.error fault, { database with server })

instance : Backend (Connected σ) where
  name _ := "PostgresEntityStore"
  load collection id database :=
    database.call [.selectRow collection id] Server.fetchRow fun row =>
      match row with
      | none => .ok none
      | some row => (collection.decodeFetched row).map some
  save collection row database :=
    database.call [.upsert collection (collection.columns row)] fetchNone .ok
  list collection query database :=
    database.call [.selectPage collection query] Server.fetchRows fun rows =>
      rows.mapM collection.decodeFetched
  count collection status database :=
    database.call [.countRows collection status] fetchFirst .ok
  maxBlock collection database :=
    database.call [.maxBlock collection] fetchFirst fun cell => cell.whole.mapError .unbounded

def ensureSchema (database : Connected σ) : Reply (Connected σ) Unit :=
  database.call ((Named.all : List Collection).map .createTable) fetchNone .ok

def clear (database : Connected σ) : Reply (Connected σ) Unit :=
  database.call [.truncate] fetchNone .ok

end Connected

end BridgeState
