import BridgeState.Entity.Codec
import BridgeState.Json.Reader
import BridgeState.Schema.Report
import BridgeState.Store.Basic

/-!
# Backends

A backend is whatever rows can be loaded from and saved to: the store in memory, or a database that
may fail at any call. A call answers with a result or a fault and with the state it leaves behind.
The store in memory never fails.
-/

namespace BridgeState

set_option autoImplicit false

inductive StoreFault where
  | unreachable (reason : String)
  | unreachableAt (place reason : String)
  | operation (reason : String)
  | raised (message : String)
  | wrongRecord (given expected : Collection)
  | unreadableRow (recordName : String) (complaints : List Complaint)
  | unreadableBody (text : Text) (problem : Json.ReadProblem)
  | emptyRow
  | unbounded (cause : Unbounded)

namespace StoreFault

def message : StoreFault → String
  | .unreachable reason => s!"Could not connect to PostgreSQL: {reason}"
  | .unreachableAt place reason => s!"Could not connect to PostgreSQL at {place}: {reason}"
  | .operation reason => s!"Entity store operation failed: {reason}"
  | .raised message => message
  | .wrongRecord given expected =>
    s!"Cannot save {given.recordName} into {Named.name expected}; expected {expected.recordName}"
  | .unreadableRow recordName complaints => Complaint.account recordName complaints
  | .unreadableBody text problem => problem.message text
  | .emptyRow => "list index out of range"
  | .unbounded cause => cause.message

end StoreFault

abbrev Reply (σ α : Type) : Type :=
  Except StoreFault α × σ

class Backend (σ : Type) where
  name : σ → String
  load : (collection : Collection) → Text → σ → Reply σ (Option collection.Row)
  save : (collection : Collection) → collection.Row → σ → Reply σ Unit
  list : (collection : Collection) → Query → σ → Reply σ (List collection.Row)
  /-- The number of rows, as the backend tells it. -/
  count : Collection → Option String → σ → Reply σ Cell
  /-- The highest block of a row, as the backend tells it. -/
  maxBlock : Collection → σ → Reply σ Json

instance : Backend Store where
  name _ := "InMemoryEntityStore"
  load collection id store := (.ok (store.load collection id), store)
  save collection row store := (.ok (), store.save collection row)
  list collection query store := (.ok (store.list collection query), store)
  count collection status store := (.ok (.plain (.nat (store.count collection status))), store)
  maxBlock collection store := (.ok (.ofOption .nat (store.maxBlock collection)), store)

namespace Backend

/-- Saves a row of any collection; a row of another collection is refused before anything is
done. -/
def saveAny {σ : Type} [Backend σ] (collection : Collection) (row : AnyRow) (state : σ) :
    Reply σ Unit :=
  if same : row.collection = collection then save collection (same ▸ row.row) state
  else (.error (.wrongRecord row.collection collection), state)

/-- The highest block of each of the collections, up to the first failure. -/
def maxBlocks {σ : Type} [Backend σ] :
    List Collection → σ → Reply σ (List (Collection × Json))
  | [], state => (.ok [], state)
  | collection :: rest, state =>
    match maxBlock collection state with
    | (.error fault, state) => (.error fault, state)
    | (.ok block, state) =>
      match maxBlocks rest state with
      | (.error fault, state) => (.error fault, state)
      | (.ok blocks, state) => (.ok ((collection, block) :: blocks), state)

def sync {σ : Type} [Backend σ] (state : σ) : Reply σ (List (Collection × Json)) :=
  maxBlocks Named.all state

end Backend

end BridgeState
