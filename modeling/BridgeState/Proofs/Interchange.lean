import BridgeState.Proofs.Batches
import BridgeState.Proofs.TableServer

/-!
# A database in the place of the store in memory

No sequence of calls tells a database that mirrors a store from the store. What an event does is a
sequence of calls that the answers decide, and it saves nothing that a table does not take: so events
have the same outcomes and diagnostics over both, from empty tables on.
-/

namespace BridgeState

set_option autoImplicit false

/-! ## Sequences of calls -/

inductive StoreCall where
  | load (collection : Collection) (id : Text)
  | save (collection : Collection) (row : collection.Row)
  | list (collection : Collection) (query : Query)
  | count (collection : Collection) (status : Option String)
  | maxBlock (collection : Collection)
  | sync
  | clear

inductive StoreAnswer where
  | done
  | row (collection : Collection) (row : Option collection.Row)
  | rows (collection : Collection) (rows : List collection.Row)
  | count (cell : Cell)
  | block (block : Json)
  | blocks (blocks : List (Collection × Json))

/-- The call is within what tables take: rows that are storable, and pages that neither skip nor take
less than nothing. -/
def StoreCall.Allowed : StoreCall → Prop
  | .save collection row => collection.Storable row
  | .list _ query => 0 ≤ query.limit ∧ 0 ≤ query.offset
  | _ => True

section Calls

variable {σ : Type} [Backend σ] (clear : σ → Reply σ Unit)

def StoreCall.ask (call : StoreCall) (state : σ) : Reply σ StoreAnswer :=
  match call with
  | .load collection id =>
    let (answer, state) := Backend.load collection id state
    (answer.map (.row collection), state)
  | .save collection row =>
    let (answer, state) := Backend.save collection row state
    (answer.map fun _ => .done, state)
  | .list collection query =>
    let (answer, state) := Backend.list collection query state
    (answer.map (.rows collection), state)
  | .count collection status =>
    let (answer, state) := Backend.count collection status state
    (answer.map .count, state)
  | .maxBlock collection =>
    let (answer, state) := Backend.maxBlock collection state
    (answer.map .block, state)
  | .sync =>
    let (answer, state) := Backend.sync state
    (answer.map .blocks, state)
  | .clear =>
    let (answer, state) := clear state
    (answer.map fun _ => .done, state)

def askAll : List StoreCall → σ → List (Except StoreFault StoreAnswer) × σ
  | [], state => ([], state)
  | call :: rest, state =>
    let (answer, state) := call.ask clear state
    let (answers, state) := askAll rest state
    (answer :: answers, state)

end Calls

def Store.clear (_ : Store) : Reply Store Unit :=
  (.ok (), .empty)

section Sequences

variable {σ : Type} [Server σ] {sql : SqlServer σ}

theorem Mirrors.of_empty {database : Connected σ}
    (bounded : ∃ milliseconds, database.link.milliseconds = .ok milliseconds)
    (empty : ∀ collection, sql.committed database.server collection = []) :
    Mirrors sql database .empty where
  rows collection := by
    rw [empty collection, Store.rows_empty]
    exact List.Perm.refl _
  storable collection row member := by
    rw [Store.rows_empty] at member
    cases member
  bounded := bounded

theorem Mirrors.ask {database : Connected σ} {store : Store} (mirrors : Mirrors sql database store)
    (call : StoreCall) (allowed : call.Allowed) :
    Agree sql (call.ask Connected.clear database) (call.ask Store.clear store) := by
  cases call with
  | load collection id => exact (mirrors.load collection id).map _
  | save collection row => exact (mirrors.save collection row allowed).map _
  | list collection query => exact (mirrors.list collection query allowed.1 allowed.2).map _
  | count collection status => exact (mirrors.count collection status).map _
  | maxBlock collection => exact (mirrors.max_block collection).map _
  | sync => exact (mirrors.max_blocks Named.all).map _
  | clear => exact mirrors.clear.map _

theorem Mirrors.ask_all {database : Connected σ} {store : Store}
    (mirrors : Mirrors sql database store) (calls : List StoreCall)
    (allowed : ∀ call ∈ calls, call.Allowed) :
    (askAll Connected.clear calls database).1 = (askAll Store.clear calls store).1 ∧
      (∀ answer ∈ (askAll Store.clear calls store).1, ∃ value, answer = .ok value) ∧
      Mirrors sql (askAll Connected.clear calls database).2 (askAll Store.clear calls store).2 := by
  induction calls generalizing database store with
  | nil => exact ⟨rfl, fun _ none => absurd none List.not_mem_nil, mirrors⟩
  | cons call rest ih =>
      obtain ⟨value, answered, told, mirrored⟩ := mirrors.ask call (allowed call List.mem_cons_self)
      obtain ⟨answers, allAnswered, last⟩ := ih mirrored fun call member =>
        allowed call (List.mem_cons_of_mem _ member)
      refine ⟨?_, fun answer member => ?_, last⟩
      · simp only [askAll, answered, told, answers]
      · rcases List.mem_cons.mp member with isFirst | inRest
        · exact ⟨value, isFirst.trans told⟩
        · exact allAnswered answer inRest

end Sequences

/-! ## Events -/

def Store.AllStorable (store : Store) : Prop :=
  ∀ collection : Collection, ∀ row ∈ (store.table collection).rows, collection.Storable row

/-- An event of which a table takes the block and the token. -/
structure Event.Storable (event : Event) : Prop where
  block : event.blockNumber < blockCeiling
  token : ∀ direction transfer, event.body = .transfer direction transfer →
    ∀ token ∈ transfer.token, token.hasNull = false

/-- An effect that leaves only rows that a table takes, if there were no others. -/
def Effect.Storable : Effect → Prop
  | .first collection row => collection.Storable row
  | .last collection row => collection.Storable row
  | .alter collection _ change =>
    ∀ row, collection.Storable row → collection.Storable (change.result row)

theorem HexString.has_no_null (hex : HexString) : Text.hasNull hex.text = false := by
  rw [Text.hasNull, ← Bool.not_eq_true, List.contains_iff_mem]
  intro member
  simp only [Text.codes, Text.ofString, Text.ofChars, List.map_map, List.mem_map,
    Function.comp_apply] at member
  obtain ⟨c, inside, isNull⟩ := member
  have code : c.toNat = 0 := isNull
  rcases hex.small_of_normal c inside with digit | isX
  · simp only [Text.isLowerHexDigit, Bool.or_eq_true, Bool.and_eq_true, decide_eq_true_eq] at digit
    omega
  · rw [isX] at code
    cases code

theorem LimitKind.name_has_no_null (kind : LimitKind) :
    Text.hasNull (Named.name kind : String) = false := by
  cases kind <;> decide

namespace Collection

variable {collection : Collection} {row : collection.Row}

theorem storable_of_text {text : Text} (block : Record.block row < blockCeiling)
    (only : collection.freeTexts row = [text]) (noNull : text.hasNull = false) :
    collection.Storable row := by
  refine ⟨block, fun other member => ?_⟩
  rw [only, List.mem_singleton] at member
  exact member ▸ noNull

theorem storable_of_hex {id : HexString} (block : Record.block row < blockCeiling)
    (only : collection.freeTexts row = [(id.text : Text)]) : collection.Storable row :=
  storable_of_text block only id.has_no_null

end Collection

theorem effects_storable (event : Event) (storable : event.Storable) (store : Store) :
    ∀ effect ∈ event.effects store, effect.Storable := by
  intro effect member
  obtain ⟨blockNumber, body⟩ := event
  have block : blockNumber < blockCeiling := storable.block
  cases body with
  | transfer direction transfer =>
      rw [List.mem_singleton.mp member]
      refine ⟨block, fun text isText => ?_⟩
      rcases List.mem_cons.mp isText with isId | isToken
      · exact isId ▸ transfer.messageId.has_no_null
      · exact storable.token direction transfer rfl text (Option.mem_toList.mp isToken)
  | status change messageId =>
      rw [List.mem_singleton.mp member]
      exact fun row stored => ⟨stored.block, stored.texts⟩
  | control change messageId =>
      rw [List.mem_singleton.mp member]
      exact Collection.storable_of_hex block rfl
  | account chain action messageId address timestamp =>
      refine Effect.of_mem_pair ?_ ?_ member
      · exact Collection.storable_of_hex block rfl
      · exact Collection.storable_of_hex block rfl
  | limits values =>
      rcases List.mem_cons.mp member with isSnapshot | isLimit
      · rw [isSnapshot]
        exact Collection.storable_of_hex block rfl
      · obtain ⟨kind, _, isKind⟩ := List.mem_map.mp isLimit
        rw [← isKind]
        exact Collection.storable_of_text block rfl kind.name_has_no_null
  | limitProposal proposalId sender values =>
      rw [List.mem_singleton.mp member]
      exact Collection.storable_of_hex block rfl
  | limitApproval proposalId =>
      rw [List.mem_singleton.mp member]
      exact fun row stored => ⟨stored.block, stored.texts⟩
  | candidate action messageId hostAddress guestAddress =>
      refine Effect.of_mem_pair ?_ ?_ member
      · exact Collection.storable_of_hex block rfl
      · exact Collection.storable_of_hex block rfl
  | listProposal proposalId hostAddresses =>
      rw [List.mem_singleton.mp member]
      exact Collection.storable_of_hex block rfl
  | validatorList messageId proposalId hostAddresses threshold =>
      simp only [Event.effects] at member
      split at member
      · refine Effect.of_mem_pair ?_ ?_ member
        · exact Collection.storable_of_hex block rfl
        · exact fun row stored => ⟨stored.block, stored.texts⟩
      · cases member

namespace Store.AllStorable

variable {store : Store}

theorem save (all : store.AllStorable) {collection : Collection} {row : collection.Row}
    (storable : collection.Storable row) : (store.save collection row).AllStorable := by
  intro other row' member
  by_cases same : other = collection
  · subst same
    rw [Store.table_save_self] at member
    rcases (Table.mem_save row row' _).mp member with isRow | ⟨before, _⟩
    · exact isRow ▸ storable
    · exact all other row' before
  · rw [Store.table_save_ne _ _ _ _ same] at member
    exact all other row' member

theorem save_all (all : store.AllStorable) (rows : List AnyRow)
    (storable : ∀ row ∈ rows, row.collection.Storable row.row) :
    (store.saveAll rows).AllStorable := by
  induction rows generalizing store with
  | nil => exact all
  | cons row rest ih =>
      exact ih (all.save (storable row List.mem_cons_self)) fun other member =>
        storable other (List.mem_cons_of_mem _ member)

theorem writes (all : store.AllStorable) (effect : Effect) (storable : effect.Storable) :
    ∀ row ∈ effect.writes store, row.collection.Storable row.row := by
  intro row member
  cases effect with
  | first collection created =>
      simp only [Effect.writes] at member
      split at member
      · cases member
      · rw [List.mem_singleton.mp member]
        exact storable
  | last collection set =>
      rw [List.mem_singleton.mp member]
      exact storable
  | alter collection id change =>
      simp only [Effect.writes] at member
      split at member
      · cases member
      · rename_i old found
        split at member
        · cases member
        · rw [List.mem_singleton.mp member]
          have there := ((Table.load_eq_some_iff id _ old).mp found).1
          exact storable old (all collection old there)

theorem writes_all (all : store.AllStorable) (effects : List Effect)
    (storable : ∀ effect ∈ effects, effect.Storable) :
    ∀ row ∈ Effect.writesAll effects store, row.collection.Storable row.row := by
  induction effects generalizing store with
  | nil =>
      intro row member
      cases member
  | cons effect rest ih =>
      intro row member
      have first := all.writes effect (storable effect List.mem_cons_self)
      rcases List.mem_append.mp member with now | later
      · exact first row now
      · exact ih (all.save_all _ first) (fun other inRest =>
          storable other (List.mem_cons_of_mem _ inRest)) row later

end Store.AllStorable

section Engines

variable {σ : Type} [Server σ] {sql : SqlServer σ}

/-- Engines over a database and over a store that mirror each other and have told the same. -/
structure EnginesMirror (sql : SqlServer σ) (onDatabase : Engine (Connected σ))
    (inMemory : Engine Store) : Prop where
  states : Mirrors sql onDatabase.state inMemory.state
  told : onDatabase.diagnostics = inMemory.diagnostics

variable {onDatabase : Engine (Connected σ)} {inMemory : Engine Store}

theorem EnginesMirror.perform {α : Type} (mirror : EnginesMirror sql onDatabase inMemory)
    (script : Script α)
    (storable : ∀ row ∈ script.writes inMemory.state, row.collection.Storable row.row) :
    ∃ value, (Engine.perform script onDatabase).1 = .ok value ∧
      (Engine.perform script inMemory).1 = .ok value ∧
      EnginesMirror sql (Engine.perform script onDatabase).2 (Engine.perform script inMemory).2 := by
  induction script generalizing onDatabase inMemory with
  | done value => exact ⟨value, rfl, rfl, mirror⟩
  | load collection id next ih =>
      obtain ⟨row, answered, told, mirrored⟩ := mirror.states.load collection id
      rcases loaded : Backend.load collection id onDatabase.state with ⟨answer, state⟩
      rw [loaded] at answered mirrored
      obtain rfl : answer = .ok row := answered
      obtain rfl : inMemory.state.load collection id = row := Except.ok.inj told
      simp only [Engine.perform, loaded]
      exact ih _ ⟨mirrored, mirror.told⟩ storable
  | save collection row next ih =>
      have now := storable ⟨collection, row⟩ List.mem_cons_self
      obtain ⟨_, answered, _, mirrored⟩ := mirror.states.save collection row now
      rcases saved : Backend.save collection row onDatabase.state with ⟨answer, state⟩
      rw [saved] at answered mirrored
      obtain rfl : answer = .ok () := answered
      simp only [Engine.perform, saved]
      exact ih ⟨mirrored, mirror.told⟩ fun row member =>
        storable row (List.mem_cons_of_mem _ member)
  | report diagnostic next ih =>
      refine ih ⟨mirror.states, ?_⟩ storable
      simp only [Engine.report, mirror.told]

/-- Whatever is read of a list of items, both engines apply the same events with the same outcomes,
stop at the same item, and tell the same. -/
theorem EnginesMirror.apply_each {ι ε : Type} (mirror : EnginesMirror sql onDatabase inMemory)
    (read : ι → Except ε Event) (items : List ι)
    (storable : ∀ item ∈ items, ∀ event, read item = .ok event → event.Storable) :
    (Engine.applyEach read items onDatabase).1 = (Engine.applyEach read items inMemory).1 ∧
      EnginesMirror sql (Engine.applyEach read items onDatabase).2
        (Engine.applyEach read items inMemory).2 := by
  induction items generalizing onDatabase inMemory with
  | nil => exact ⟨rfl, mirror⟩
  | cons item rest ih =>
      cases isEvent : read item with
      | error cause =>
          rw [Engine.apply_each_unreadable isEvent, Engine.apply_each_unreadable isEvent]
          exact ⟨rfl, mirror⟩
      | ok event =>
          -- What the event saves in memory is known from its effects, and it saves the same over the
          -- database as long as the answers agree.
          have effects := effects_storable event (storable item List.mem_cons_self event isEvent)
            inMemory.state
          have writes : ∀ row ∈ event.script.writes inMemory.state,
              row.collection.Storable row.row := by
            rw [(event_does event inMemory.state).writes]
            exact Store.AllStorable.writes_all mirror.states.storable _ effects
          obtain ⟨outcome, answered, told, mirrored⟩ := mirror.perform event.script writes
          rcases performed : Engine.perform event.script onDatabase with ⟨answer, database⟩
          rcases performed' : Engine.perform event.script inMemory with ⟨answer', memory⟩
          rw [performed] at answered mirrored
          rw [performed'] at told mirrored
          obtain rfl : answer = .ok outcome := answered
          obtain rfl : answer' = .ok outcome := told
          rw [Engine.apply_each_applied isEvent performed,
            Engine.apply_each_applied isEvent performed']
          obtain ⟨batch, last⟩ := @ih (database.recordApply event outcome)
            (memory.recordApply event outcome) ⟨mirrored.states, mirrored.told⟩
            fun item member => storable item (List.mem_cons_of_mem _ member)
          exact ⟨congrArg (Batch.behind ⟨event, outcome⟩) batch, last⟩

end Engines

/-- From empty tables on, every call is answered by a database as it is by the store in memory, which
always answers; and events that are applied behind the calls have the same outcomes and diagnostics
over both. -/
theorem stores_interchangeable {σ ι ε : Type} [Server σ] (sql : SqlServer σ) (link : DatabaseLink)
    (bounded : ∃ milliseconds, link.milliseconds = .ok milliseconds) (server : σ)
    (empty : ∀ collection, sql.committed server collection = [])
    (calls : List StoreCall) (allowed : ∀ call ∈ calls, call.Allowed)
    (read : ι → Except ε Event) (items : List ι)
    (storable : ∀ item ∈ items, ∀ event, read item = .ok event → event.Storable)
    (metrics : Option Metrics) :
    let onDatabase := askAll Connected.clear calls ⟨link, server⟩
    let inMemory := askAll Store.clear calls .empty
    let appliedThere := Engine.applyEach read items (.start onDatabase.2 metrics)
    let appliedHere := Engine.applyEach read items (.start inMemory.2 metrics)
    onDatabase.1 = inMemory.1 ∧ (∀ answer ∈ inMemory.1, ∃ value, answer = .ok value) ∧
      appliedThere.1 = appliedHere.1 ∧
      appliedThere.2.diagnostics = appliedHere.2.diagnostics := by
  have mirrors : Mirrors sql ⟨link, server⟩ .empty := Mirrors.of_empty bounded empty
  obtain ⟨answers, answered, mirrored⟩ := mirrors.ask_all calls allowed
  have started : EnginesMirror sql
      (.start (askAll Connected.clear calls ⟨link, server⟩).2 metrics)
      (.start (askAll Store.clear calls .empty).2 metrics) := ⟨mirrored, rfl⟩
  obtain ⟨batch, last⟩ := started.apply_each read items storable
  exact ⟨answers, answered, batch, last.told⟩

/-- A candidate that is removed and asked for by both states, and two limits of which one is read. -/
def sampleCalls : List StoreCall :=
  [.save .candidateValidators ⟨HexString.sample.text, 4, .sampleOther, true⟩,
    .save .candidateValidators ⟨HexString.sample.text, 7, .sampleOther, false⟩,
    .list .candidateValidators { status := some "ACTIVE" },
    .list .candidateValidators { status := some "INACTIVE", since := some 5 },
    .save .limits ⟨"a", 9, 1, .sample⟩, .save .limits ⟨"b", 9, 2, .sample⟩,
    .load .limits "b", .count .limits (some "ACTIVE"), .maxBlock .limits]

/-- The candidate is added again, and a transfer that is not there is confirmed. -/
def sampleEvents : List Event :=
  [⟨10, .candidate .add .sample .sample .sampleOther⟩, ⟨11, .status .confirmed .sample⟩]

theorem sample_calls_allowed : ∀ call ∈ sampleCalls, call.Allowed := by
  simp only [sampleCalls, List.forall_mem_cons]
  refine ⟨?_, ?_, ?_, ?_, ?_, ?_, trivial, trivial, trivial, fun _ none => ?_⟩
  · exact Collection.storable_of_hex (by decide) rfl
  · exact Collection.storable_of_hex (by decide) rfl
  · exact ⟨by decide, by decide⟩
  · exact ⟨by decide, by decide⟩
  · exact Collection.storable_of_text (by decide) rfl (by decide)
  · exact Collection.storable_of_text (by decide) rfl (by decide)
  · cases none

theorem sample_events_storable : ∀ event ∈ sampleEvents, event.Storable := by
  simp only [sampleEvents, List.forall_mem_cons]
  refine ⟨⟨by decide, ?_⟩, ⟨by decide, ?_⟩, fun _ none => ?_⟩
  · intro direction transfer isTransfer
    cases isTransfer
  · intro direction transfer isTransfer
    cases isTransfer
  · cases none

theorem stores_interchangeable_sample :
    let link : DatabaseLink := ⟨"", .int 1000⟩
    let read : Event → Except Empty Event := .ok
    let asked := askAll Connected.clear sampleCalls ⟨link, TableServer.empty⟩
    let applied := Engine.applyEach read sampleEvents (.start asked.2 none)
    asked.1 =
        [.ok .done, .ok .done, .ok (.rows .candidateValidators []),
          .ok (.rows .candidateValidators [⟨HexString.sample.text, 7, .sampleOther, false⟩]),
          .ok .done, .ok .done, .ok (.row .limits (some ⟨"b", 9, 2, .sample⟩)),
          .ok (.count (.plain (.nat 0))), .ok (.block (.nat 9))] ∧
      applied.1.applied.map Applied.outcome = [.created, .ignored] ∧
      applied.2.diagnostics.map Diagnostic.kind = [.unknownTarget] := by
  intro link read asked applied
  obtain ⟨answers, _, batch, told⟩ := stores_interchangeable TableServer.sql link ⟨1000, rfl⟩ .empty
    (fun _ => rfl) sampleCalls sample_calls_allowed read sampleEvents
    (fun item member event isEvent => Except.ok.inj isEvent ▸ sample_events_storable item member)
    none
  refine ⟨answers.trans rfl, ?_, ?_⟩
  · exact congrArg (fun batch => batch.applied.map Applied.outcome) batch
  · exact congrArg (List.map Diagnostic.kind) told

end BridgeState
