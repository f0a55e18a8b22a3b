import BridgeState.Proofs.Mirrors
import Mathlib.Data.Nat.Digits.Defs

/-!
# A server that keeps tables

What is asked of a `SqlServer` can be met: this one keeps every document whole, next to the id, the
block and the status that came with it. A transaction works on a copy of the tables, which a commit
puts in their place. The highest block is told as a decimal number, every other number as an integer.
-/

namespace BridgeState

set_option autoImplicit false

/-- A row as the server keeps it; its document is an object. -/
structure KeptRow where
  id : Text
  blockNumber : Nat
  status : Option String
  members : Members

instance : Record KeptRow where
  id row := row.id
  block row := row.blockNumber
  status row := row.status

def KeptRow.columns (row : KeptRow) : Columns :=
  ⟨row.id, row.blockNumber, row.status, .obj row.members⟩

def Cell.ofMax (number : Nat) : Cell :=
  .decimal (.finite false (if number = 0 then [0] else (Nat.digits 10 number).reverse) 0)

structure TableServer where
  committed : Collection → Table KeptRow
  working : Collection → Table KeptRow
  found : List FetchedRow

namespace TableServer

def empty : TableServer :=
  ⟨fun _ => .empty, fun _ => .empty, []⟩

def finds (found : List FetchedRow) (server : TableServer) : Except Problem Unit × TableServer :=
  (.ok (), { server with found })

def works (working : Collection → Table KeptRow) (server : TableServer) :
    Except Problem Unit × TableServer :=
  (.ok (), { server with working })

def documents (rows : List KeptRow) : List FetchedRow :=
  rows.map fun row => [.plain (.obj row.members)]

def execute (statement : Statement) (server : TableServer) : Except Problem Unit × TableServer :=
  match statement with
  | .setTimeout _ | .createTable _ => server.finds []
  | .selectRow collection id =>
    server.finds (documents ((server.working collection).load id).toList)
  | .upsert collection columns =>
    match columns.body with
    | .obj members =>
      let row : KeptRow := ⟨columns.id, columns.blockNumber, columns.status, members⟩
      server.works fun other =>
        if other = collection then (server.working collection).save row else server.working other
    | _ => (.error ⟨"document is not an object", false⟩, server)
  | .selectPage collection query =>
    let listing := (server.working collection).rows.filter query.accepts
    server.finds (documents ((listing.drop query.offset.toNat).take query.limit.toNat))
  | .countRows collection status =>
    let rows := (server.working collection).rows.map KeptRow.columns
    server.finds [[.plain (.nat (rows.countP fun columns => columns.hasStatus status))]]
  | .maxBlock collection =>
    server.finds [[((server.working collection).maxBlock.map Cell.ofMax).getD (.plain .null)]]
  | .truncate => server.works fun _ => .empty

instance : Server TableServer where
  perform step server :=
    match step with
    | .connect _ | .rollback => server.works server.committed
    | .execute statement => server.execute statement
    | .commit => (.ok (), { server with committed := server.working })
    | .openCursor | .closeCursor | .close => (.ok (), server)
  fetchRow server := (.ok server.found.head?, server)
  fetchRows server := (.ok server.found, server)

end TableServer

theorem Cell.of_max_is_number (number : Nat) : (Cell.ofMax number).IsNumber number := by
  refine ⟨_, rfl, ?_⟩
  by_cases zero : number = 0
  · rw [if_pos zero, zero]
    rfl
  · have value := Nat.ofDigits_digits 10 number
    simp only [Nat.ofDigits_eq_foldr, Nat.cast_id] at value
    rw [if_neg zero, Text.decimalNumber, List.foldl_reverse]
    simpa only [Nat.add_comm] using value

namespace TableServer

theorem finds_documents (rows : List KeptRow) :
    Finds (rows.map KeptRow.columns) (documents rows) := by
  induction rows with
  | nil => exact List.Forall₂.nil
  | cons row rest ih =>
      have given : (Cell.plain (.obj row.members)).GivesBack (.obj row.members) :=
        ⟨row.members, rfl, fun _ => rfl⟩
      exact List.Forall₂.cons ⟨_, rfl, given⟩ ih

variable (table : Table KeptRow)

theorem finds_row (id : Text) :
    Finds ((table.rows.map KeptRow.columns).filter fun columns => columns.id = id)
      (documents (table.load id).toList) := by
  have rows := table.filter_id id
  rw [List.filter_map]
  exact rows ▸ finds_documents _

theorem page_ordered (query : Query) :
    ((table.rows.filter query.accepts).map KeptRow.columns).Pairwise
      fun first second => ¬second.Before first :=
  List.pairwise_map.mpr ((table.ordered.filter _).imp fun before => before.asymm)

theorem max_is_greatest :
    ((table.maxBlock.map Cell.ofMax).getD (.plain .null)).IsGreatest
      ((table.rows.map KeptRow.columns).map Columns.blockNumber) := by
  rw [List.map_map]
  rcases table.max_block_cases with ⟨noRows, isMax⟩ | ⟨row, there, isMax, above⟩
  · rw [noRows, isMax]
    exact Or.inl ⟨rfl, rfl⟩
  · rw [isMax]
    refine Or.inr ⟨row.blockNumber, List.mem_map_of_mem there, ?_, Cell.of_max_is_number _⟩
    intro number member
    obtain ⟨other, otherThere, isNumber⟩ := List.mem_map.mp member
    exact isNumber ▸ above other otherThere

theorem execute_does (statement : Statement) (acceptable : statement.Acceptable)
    (server : TableServer) :
    ∃ after, server.execute statement = (.ok (), after) ∧
      statement.Does (fun collection => (server.working collection).rows.map KeptRow.columns)
        (fun collection => (after.working collection).rows.map KeptRow.columns) after.found := by
  cases statement with
  | setTimeout milliseconds => exact ⟨_, rfl, rfl⟩
  | createTable collection => exact ⟨_, rfl, rfl⟩
  | selectRow collection id => exact ⟨_, rfl, rfl, finds_row _ id⟩
  | upsert collection columns =>
      obtain ⟨row, isRow, _⟩ := acceptable
      obtain ⟨kept, isKept⟩ : ∃ kept : KeptRow, columns = kept.columns :=
        ⟨⟨columns.id, columns.blockNumber, columns.status, Coded.encode row⟩, isRow ▸ rfl⟩
      subst isKept
      refine ⟨_, rfl, ?_, ?_⟩
      · simp only [if_pos]
        have inserted := (insert_row_perm kept
          (Table.without kept.id (server.working collection).rows)).map KeptRow.columns
        refine inserted.trans (List.Perm.of_eq ?_)
        rw [List.map_cons, List.filter_map]
        congr 2
        exact List.filter_congr fun other _ => by
          rw [Bool.eq_iff_iff, bne_iff_ne, Function.comp_apply, decide_eq_true_eq]
          rfl
      · intro other apart
        simp only [if_neg apart]
  | selectPage collection query =>
      refine ⟨_, rfl, rfl, ((server.working collection).rows.filter query.accepts).map
        KeptRow.columns, ?_, page_ordered _ query, ?_⟩
      · rw [List.filter_map]
        exact List.Perm.refl _
      · rw [← List.map_drop, ← List.map_take]
        exact finds_documents _
  | countRows collection status => exact ⟨_, rfl, rfl, rfl⟩
  | maxBlock collection => exact ⟨_, rfl, rfl, _, rfl, max_is_greatest _⟩
  | truncate => exact ⟨_, rfl, fun _ => rfl⟩

def sql : SqlServer TableServer where
  committed server collection := (server.committed collection).rows.map KeptRow.columns
  working server collection := (server.working collection).rows.map KeptRow.columns
  found := TableServer.found
  connects _ _ := ⟨_, rfl, rfl⟩
  opens _ := rfl
  executes statement server acceptable := execute_does statement acceptable server
  fetchesRow _ := ⟨_, rfl, rfl⟩
  fetchesRows _ := ⟨_, rfl, rfl⟩
  commits _ := ⟨_, rfl, rfl⟩
  closesCursor _ := rfl
  closes _ := rfl

end TableServer

end BridgeState
