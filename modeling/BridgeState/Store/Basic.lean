import BridgeState.Store.Table

/-!
# The store in memory

A `Store` has one table for each collection. `Store.load` and `Store.save` touch one table and leave
the others alone; `Store.ext_load` says that a store is determined by what it loads.
-/

namespace BridgeState

set_option autoImplicit false

structure Store where
  messages : Table Message
  bridgeMessages : Table BridgeMessage
  accountMessages : Table AccountMessage
  accounts : Table Account
  limitProposals : Table LimitProposal
  limitMessages : Table LimitMessage
  limits : Table Limit
  candidateValidators : Table CandidateValidator
  candidateValidatorMessages : Table CandidateValidatorMessage
  candidatesValidatorsProposals : Table CandidatesValidatorsProposal
  validatorsListMessages : Table ValidatorsListMessage

namespace Store

def empty : Store :=
  ⟨.empty, .empty, .empty, .empty, .empty, .empty, .empty, .empty, .empty, .empty, .empty⟩

instance : Inhabited Store := ⟨empty⟩

def table (store : Store) : (collection : Collection) → Table collection.Row
  | .messages => store.messages
  | .bridgeMessages => store.bridgeMessages
  | .accountMessages => store.accountMessages
  | .accounts => store.accounts
  | .limitProposals => store.limitProposals
  | .limitMessages => store.limitMessages
  | .limits => store.limits
  | .candidateValidators => store.candidateValidators
  | .candidateValidatorMessages => store.candidateValidatorMessages
  | .candidatesValidatorsProposals => store.candidatesValidatorsProposals
  | .validatorsListMessages => store.validatorsListMessages

def setTable (store : Store) :
    (collection : Collection) → Table collection.Row → Store
  | .messages, table => { store with messages := table }
  | .bridgeMessages, table => { store with bridgeMessages := table }
  | .accountMessages, table => { store with accountMessages := table }
  | .accounts, table => { store with accounts := table }
  | .limitProposals, table => { store with limitProposals := table }
  | .limitMessages, table => { store with limitMessages := table }
  | .limits, table => { store with limits := table }
  | .candidateValidators, table => { store with candidateValidators := table }
  | .candidateValidatorMessages, table => { store with candidateValidatorMessages := table }
  | .candidatesValidatorsProposals, table => { store with candidatesValidatorsProposals := table }
  | .validatorsListMessages, table => { store with validatorsListMessages := table }

@[simp] theorem table_setTable_self (store : Store) (collection : Collection)
    (table : Table collection.Row) : (store.setTable collection table).table collection = table := by
  cases collection <;> rfl

theorem table_setTable_ne (store : Store) (collection other : Collection)
    (table : Table collection.Row) (apart : other ≠ collection) :
    (store.setTable collection table).table other = store.table other := by
  cases collection <;> cases other <;> first | rfl | exact absurd rfl apart

@[simp] theorem table_empty (collection : Collection) : empty.table collection = .empty := by
  cases collection <;> rfl

theorem ext_table {first second : Store}
    (same : ∀ collection, first.table collection = second.table collection) : first = second := by
  obtain ⟨⟩ := first
  obtain ⟨⟩ := second
  simp only [Store.mk.injEq]
  exact ⟨same .messages, same .bridgeMessages, same .accountMessages, same .accounts,
    same .limitProposals, same .limitMessages, same .limits, same .candidateValidators,
    same .candidateValidatorMessages, same .candidatesValidatorsProposals,
    same .validatorsListMessages⟩

def load (collection : Collection) (id : Text) (store : Store) : Option collection.Row :=
  (store.table collection).load id

def save (collection : Collection) (row : collection.Row) (store : Store) : Store :=
  store.setTable collection ((store.table collection).save row)

/-- A store is determined by what it answers to `load`. -/
theorem ext_load {first second : Store}
    (same : ∀ collection id, first.load collection id = second.load collection id) :
    first = second :=
  ext_table fun collection => Table.ext_load (same collection)

theorem table_save_self (collection : Collection) (row : collection.Row) (store : Store) :
    (store.save collection row).table collection = (store.table collection).save row :=
  table_setTable_self _ _ _

theorem table_save_ne (collection other : Collection) (row : collection.Row) (store : Store)
    (apart : other ≠ collection) :
    (store.save collection row).table other = store.table other :=
  table_setTable_ne _ _ _ _ apart

theorem load_save (collection : Collection) (row : collection.Row) (store : Store) (id : Text) :
    (store.save collection row).load collection id =
      if id = Record.id row then some row else store.load collection id := by
  rw [load, table_save_self, Table.load_save]; rfl

theorem load_save_ne (collection other : Collection) (row : collection.Row) (store : Store)
    (id : Text) (apart : other ≠ collection) :
    (store.save collection row).load other id = store.load other id := by
  rw [load, table_save_ne _ _ _ _ apart]; rfl

/-- Saving a row that is already stored changes nothing. -/
theorem save_of_load (collection : Collection) (row : collection.Row) (store : Store)
    (stored : store.load collection (Record.id row) = some row) :
    store.save collection row = store := by
  refine ext_table fun other => ?_
  by_cases same : other = collection
  · subst same
    rw [table_save_self, Table.save_of_load row _ stored]
  · exact table_save_ne _ _ _ _ same

def list (collection : Collection) (query : Query) (store : Store) : List collection.Row :=
  (store.table collection).list query

def count (collection : Collection) (status : Option String) (store : Store) : Nat :=
  (store.table collection).count status

def maxBlock (collection : Collection) (store : Store) : Option Nat :=
  (store.table collection).maxBlock

def sync (store : Store) : List (Collection × Option Nat) :=
  (Named.all : List Collection).map fun collection => (collection, store.maxBlock collection)

end Store

end BridgeState
