import BridgeState.Entity.Codec
import BridgeState.Store.Table

/-!
# Statements

The statements that a database is given, each for what it does; `Statement.text` writes one with
its gaps left open and `Statement.parameters` gives what fills them. A row is stored under its
id together with its block, its status and the whole record as a document.
-/

namespace BridgeState

set_option autoImplicit false

inductive Parameter where
  | text (value : Text)
  | number (value : Int)
  | nothing
  | document (value : Json)

/-- A row as a database keeps it. -/
structure Columns where
  id : Text
  blockNumber : Nat
  status : Option String
  body : Json

def Collection.columns (collection : Collection) (row : collection.Row) : Columns where
  id := Record.id row
  blockNumber := Record.block row
  status := Record.status row
  body := collection.encodeRow row

inductive Statement where
  | setTimeout (milliseconds : Int)
  | selectRow (collection : Collection) (id : Text)
  | upsert (collection : Collection) (columns : Columns)
  | selectPage (collection : Collection) (query : Query)
  | countRows (collection : Collection) (status : Option String)
  | maxBlock (collection : Collection)
  | createTable (collection : Collection)
  | truncate

namespace Statement

def identifier (name : String) : String :=
  "\"" ++ name ++ "\""

def tableName (collection : Collection) : String :=
  identifier (Named.name collection)

def conditions (query : Query) : String :=
  match query.status, query.since with
  | none, none => ""
  | some _, none => " WHERE status = %s"
  | none, some _ => " WHERE block_number >= %s"
  | some _, some _ => " WHERE status = %s AND block_number >= %s"

def text : Statement → String
  | .setTimeout milliseconds => s!"SET LOCAL statement_timeout = '{milliseconds}ms'"
  | .selectRow collection _ => s!"SELECT body FROM {tableName collection} WHERE id = %s"
  | .upsert collection _ =>
    s!"INSERT INTO {tableName collection} (id, block_number, status, body, updated_at) "
      ++ "VALUES (%s, %s, %s, %s, NOW()) ON CONFLICT (id) DO UPDATE SET "
      ++ "block_number = EXCLUDED.block_number, status = EXCLUDED.status, "
      ++ "body = EXCLUDED.body, updated_at = NOW()"
  | .selectPage collection query =>
    s!"SELECT body FROM {tableName collection}" ++ conditions query
      ++ " ORDER BY block_number, id LIMIT %s OFFSET %s"
  | .countRows collection none => s!"SELECT COUNT(*) FROM {tableName collection}"
  | .countRows collection (some _) =>
    s!"SELECT COUNT(*) FROM {tableName collection} WHERE status = %s"
  | .maxBlock collection => s!"SELECT MAX(block_number) FROM {tableName collection}"
  | .createTable collection =>
    let blockIndex := identifier (Named.name collection ++ "_block_idx")
    let statusIndex := identifier (Named.name collection ++ "_status_idx")
    s!"CREATE TABLE IF NOT EXISTS {tableName collection} ( id TEXT PRIMARY KEY, "
      ++ "block_number NUMERIC(78, 0) NOT NULL, status TEXT, body JSONB NOT NULL, "
      ++ "updated_at TIMESTAMPTZ NOT NULL DEFAULT NOW() ); "
      ++ s!"CREATE INDEX IF NOT EXISTS {blockIndex} ON {tableName collection} (block_number, id); "
      ++ s!"CREATE INDEX IF NOT EXISTS {statusIndex} ON {tableName collection} (status);"
  | .truncate =>
    "TRUNCATE " ++ String.intercalate ", " ((Named.all : List Collection).map tableName)

def ofOptionText : Option String → Parameter
  | some value => .text value
  | none => .nothing

/-- What fills the gaps, or nothing for a statement that is given none. -/
def parameters : Statement → Option (List Parameter)
  | .selectRow _ id => some [.text id]
  | .upsert _ columns =>
    some [.text columns.id, .number columns.blockNumber, ofOptionText columns.status,
      .document columns.body]
  | .selectPage _ query =>
    some ((query.status.toList.map fun status : String => .text status) ++ query.since.toList.map Parameter.number
      ++ [.number query.limit, .number query.offset])
  | .countRows _ (some status) => some [.text status]
  | _ => none

end Statement

end BridgeState
