import BridgeState.Store.Table

/-!
# Selections

Which rows a list of arguments asks for. The value of an option may be lost; `Selection.query?` gives
the query of a selection that has all its values. Of rows in memory a selection that has lost some may
still select: no row has a lost status, and a lost block matters only where there is a row to compare
it with. A page whose bounds are lost does not exist.
-/

namespace BridgeState.Console

set_option autoImplicit false

inductive OptionValue (α : Type) where
  | given (value : α)
  | lost
deriving Repr, DecidableEq

def OptionValue.value? {α : Type} : OptionValue α → Option α
  | .given value => some value
  | .lost => none

structure Selection where
  status : Option (OptionValue String)
  since : Option (OptionValue Int)
  limit : OptionValue Int
  offset : OptionValue Int
deriving Repr, DecidableEq

inductive LostValue where
  | block
  | limit
  | offset
  | bounds
deriving Repr, DecidableEq

def LostValue.message : LostValue → String
  | .block => "'>=' not supported between instances of 'int' and 'list'"
  | .limit => "unsupported operand type(s) for +: 'int' and 'list'"
  | .offset => "can only concatenate list (not \"int\") to list"
  | .bounds => "slice indices must be integers or None or have an __index__ method"

namespace Selection

def ofQuery (query : Query) : Selection where
  status := query.status.map .given
  since := query.since.map .given
  limit := .given query.limit
  offset := .given query.offset

def kept (selection : Selection) : Query where
  status := selection.status.bind OptionValue.value?
  since := selection.since.bind OptionValue.value?
  limit := selection.limit.value?.getD Query.standard.limit
  offset := selection.offset.value?.getD Query.standard.offset

def query? (selection : Selection) : Option Query :=
  if ofQuery selection.kept = selection then some selection.kept else none

theorem query?_ofQuery (query : Query) : (ofQuery query).query? = some query := by
  obtain ⟨status, since, limit, offset⟩ := query
  cases status <;> cases since <;> simp [query?, kept, ofQuery, OptionValue.value?]

section Rows

variable {α : Type} [Record α]

def ofStatus (selection : Selection) (rows : List α) : List α :=
  match selection.status with
  | none => rows
  | some .lost => []
  | some (.given status) =>
    rows.filter { Query.standard with status := some status }.accepts

def ofBlock (selection : Selection) (rows : List α) : Except LostValue (List α) :=
  match selection.since with
  | none => .ok rows
  | some .lost => if rows.isEmpty then .ok [] else .error .block
  | some (.given block) => .ok (rows.filter { Query.standard with since := some block }.accepts)

def page (selection : Selection) (rows : List α) : Except LostValue (List α) :=
  match selection.offset, selection.limit with
  | .given offset, .given limit => .ok ({ Query.standard with limit, offset }.page rows)
  | .given _, .lost => .error .limit
  | .lost, .given _ => .error .offset
  | .lost, .lost => .error .bounds

def rows (selection : Selection) (table : Table α) : Except LostValue (List α) := do
  let selected ← selection.ofBlock (selection.ofStatus table.rows)
  selection.page selected

end Rows

end Selection

end BridgeState.Console
