import BridgeState.Json.Writer
import BridgeState.Proofs.Mirrors
import BridgeState.Proofs.Transactions

/-!
# Saved rows

What a database is given of a row is the row: its document is read back as the row, from an object as
from a text and in whatever order the members come, and its other columns repeat what the row has as
its id, its block and its status. So a condition on the columns chooses, among rows that were saved,
those that the store in memory chooses.
-/

namespace BridgeState

set_option autoImplicit false

/-! ## What a server is given -/

def Asked.statement? (asked : Asked) : Option Statement :=
  match asked.request with
  | .step (.execute statement) => some statement
  | _ => none

def Want.statements (wants : List Want) : List Statement :=
  (wants.map Want.met).filterMap Asked.statement?

theorem Want.statements_append (first second : List Want) :
    Want.statements (first ++ second) = Want.statements first ++ Want.statements second := by
  rw [statements, List.map_append, List.filterMap_append]
  rfl

theorem Want.statements_of_execute (statements : List Statement) :
    Want.statements (statements.map fun statement => .step (.execute statement)) = statements := by
  induction statements with
  | nil => rfl
  | cons statement rest ih => exact congrArg (statement :: ·) ih

theorem Want.Unmet.statement_eq {want : Want} {problem : Problem} {last : Asked}
    (unmet : want.Unmet problem last) : last.statement? = want.met.statement? := by
  cases unmet <;> rfl

/-- A server is given the wanted statements in order: all of them if nothing fails, and otherwise
none behind the one that does. -/
theorem Course.statements {dsn : String} {wants : List Want} {asked : List Asked}
    {fault : Option StoreFault} (course : Course dsn wants asked fault) :
    asked.filterMap Asked.statement? <+: Want.statements wants ∧
      (fault = none → asked.filterMap Asked.statement? = Want.statements wants) := by
  cases course with
  | refused problem => exact ⟨List.nil_prefix, nofun⟩
  | @stopped done rest want problem last split unmet =>
      have given : ([Want.step (.connect dsn), .step .openCursor].map Want.met ++
          done.map Want.met ++ last :: [Want.step .rollback, .step .closeCursor,
            .step .close].map Want.met).filterMap Asked.statement? =
              Want.statements (done ++ [want]) := by
        rw [Want.statements, List.map_append, List.filterMap_append, List.filterMap_append,
          List.filterMap_append, List.filterMap_cons, unmet.statement_eq]
        rfl
      refine ⟨⟨Want.statements rest, ?_⟩, nofun⟩
      rw [given, ← Want.statements_append, split]
      exact congrArg Want.statements (List.append_cons done want rest).symm
  | finished fault ofContent =>
      have given : ([Want.step (.connect dsn), .step .openCursor].map Want.met ++
          wants.map Want.met ++ [Want.step .closeCursor, .step .close].map Want.met).filterMap
            Asked.statement? = Want.statements wants := by
        rw [List.filterMap_append, List.filterMap_append]
        exact List.append_nil _
      exact ⟨given ▸ List.prefix_rfl, fun _ => given⟩

theorem statements_of_transaction (milliseconds : Int) (statements : List Statement) :
    Want.statements (transactionWants milliseconds statements []) =
      .setTimeout milliseconds :: statements := by
  rw [transactionWants, Want.statements_append, Want.statements_of_execute]
  exact List.append_nil _

/-! ## What the columns say -/

section Columns

variable {collection : Collection}

/-- The columns hold a row: they are its id, its block, its status and a document, and the row is read
back of every cell that gives the document back. -/
structure Columns.Hold (columns : Columns) (row : collection.Row) : Prop where
  given : (Statement.upsert collection columns).parameters =
    some [.text (Record.id row), .number (Record.block row),
      Statement.ofOptionText (Record.status row), .document columns.body]
  asValue : Cell.GivesBack columns.body (.plain columns.body)
  asText : ∀ text, Json.read text = .ok columns.body →
    Cell.GivesBack columns.body (.plain (.str text))
  readBack : ∀ cell : Cell, cell.GivesBack columns.body → collection.decodeCell cell = .ok row

theorem Collection.columns_hold (row : collection.Row) : (collection.columns row).Hold row where
  given := rfl
  asValue := ⟨_, rfl, fun _ => rfl⟩
  asText _ isText := ⟨_, _, isText, rfl, fun _ => rfl⟩
  readBack := collection.decode_given_back row

theorem Collection.meets_columns (query : Query) (row : collection.Row) :
    (collection.columns row).meets query = query.accepts row := by
  rcases query with ⟨_ | status, _ | block, limit, offset⟩ <;> rfl

/-- What is found under a condition on the columns are the rows whose columns meet it. -/
theorem Collection.decode_chosen (rows : List collection.Row) (keep : Columns → Bool)
    (found : List FetchedRow) (finds : Finds ((rows.map collection.columns).filter keep) found) :
    found.mapM collection.decodeFetched =
      .ok (rows.filter fun row => keep (collection.columns row)) := by
  rw [List.filter_map] at finds
  exact collection.decode_found _ found finds

end Columns

/-- Saving a row gives the server one statement, and in it the columns of the row. They hold the row:
whether the document comes back as an object or as a text, the row is read back of it, and the
conditions of a query hold of the columns if the store in memory chooses the row. -/
theorem saved_rows_read_back {σ : Type} [Server σ] (orderly : Orderly σ) (collection : Collection)
    (database : Connected σ) (milliseconds : Int)
    (timed : database.link.milliseconds = .ok milliseconds) :
    (∀ row : collection.Row,
      let (fault, after) := (DatabaseCall.save collection row).run database.watched
      let given := after.server.asked.filterMap Asked.statement?
      let wanted := [.setTimeout milliseconds, .upsert collection (collection.columns row)]
      given <+: wanted ∧ (fault = none → given = wanted)) ∧
    (∀ row : collection.Row, (collection.columns row).Hold row) ∧
    (∀ (rows : List collection.Row) (query : Query) (found : List FetchedRow),
      Finds ((rows.map collection.columns).filter fun columns => columns.meets query) found →
        found.mapM collection.decodeFetched = .ok (rows.filter query.accepts)) ∧
    ∀ (table : Table collection.Row) (status : Option String),
      (table.rows.map collection.columns).countP (fun columns => columns.hasStatus status) =
        table.count status := by
  refine ⟨fun row => ?_, collection.columns_hold, fun rows query found finds => ?_,
    fun table status => ?_⟩
  · obtain ⟨course, -⟩ := watched_course (call_course orderly timed
      [.upsert collection (collection.columns row)] (.value ()) .ok database.server)
    have given := course.statements
    rw [statements_of_transaction] at given
    exact given
  · rw [collection.decode_chosen rows _ found finds]
    exact congrArg Except.ok (List.filter_congr fun row _ => collection.meets_columns query row)
  · rw [List.countP_map, List.countP_eq_length_filter]
    cases status with
    | none =>
        exact congrArg List.length (List.filter_eq_self.mpr fun _ _ => rfl)
    | some status => rfl

/-- A candidate is saved, and read back of its document and of the text of that. -/
theorem saved_rows_read_back_candidate :
    let row : CandidateValidator := ⟨"0x0a", 7, ⟨"0x0b", by decide⟩, false⟩
    let columns := Collection.columns .candidateValidators row
    let database : Connected ScriptedServer := ⟨⟨"bridge", .int 1000⟩, .start .quiet⟩
    let (fault, after) := (DatabaseCall.save .candidateValidators row).run database.watched
    fault = none ∧
      after.server.asked.filterMap Asked.statement? =
        [.setTimeout 1000, .upsert .candidateValidators columns] ∧
      Collection.decodeCell .candidateValidators (.plain columns.body) = .ok row ∧
      (Collection.decodeCell .candidateValidators
        (.plain (.str columns.body.render))).toOption = some row := by
  intro row columns database
  have readBack := saved_rows_read_back scripted_server_orderly .candidateValidators database 1000 rfl
  have holds := readBack.2.1 row
  exact ⟨rfl, (readBack.1 row).2 rfl, holds.readBack _ holds.asValue, by decide +kernel⟩

end BridgeState
