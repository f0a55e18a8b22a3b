import BridgeState.Database.Scripted

/-!
# Calls as transactions

A watched server passes on whatever it is asked and notes it, with the problem that came of it. Every
call of a database is one transaction and takes one of three courses, whichever request fails first:
the connection is refused and nothing else is asked; a later request fails, no request of the call
comes behind it, and the transaction is rolled back once and closed; or all requests are met, the
last of which commits, and the transaction is closed. That a cursor is opened, that a transaction is
rolled back and that both are closed is taken to succeed.
-/

namespace BridgeState

set_option autoImplicit false

/-! ## Watched servers -/

inductive ServerRequest where
  | step (step : Step)
  | fetchRow
  | fetchRows

structure Asked where
  request : ServerRequest
  problem : Option Problem

structure Watched (σ : Type) where
  server : σ
  asked : List Asked

namespace Watched

variable {σ α : Type}

def start (server : σ) : Watched σ :=
  ⟨server, []⟩

def problem? : Except Problem α → Option Problem
  | .ok _ => none
  | .error problem => some problem

/-- The answer of the server to a request, which is noted. -/
def noting (request : ServerRequest) (answer : Except Problem α × σ) (watched : Watched σ) :
    Except Problem α × Watched σ :=
  (answer.1, ⟨answer.2, watched.asked ++ [⟨request, problem? answer.1⟩]⟩)

instance [Server σ] : Server (Watched σ) where
  perform step watched := watched.noting (.step step) (Server.perform step watched.server)
  fetchRow watched := watched.noting .fetchRow (Server.fetchRow watched.server)
  fetchRows watched := watched.noting .fetchRows (Server.fetchRows watched.server)

end Watched

/-! ## What a part of a transaction asks -/

/-- What a call wants of a server. A cell is the first one of the row that is fetched. -/
inductive Want where
  | step (step : Step)
  | row
  | cell
  | rows

namespace Want

def request : Want → ServerRequest
  | .step wanted => .step wanted
  | .row => .fetchRow
  | .cell => .fetchRow
  | .rows => .fetchRows

def met (want : Want) : Asked :=
  ⟨want.request, none⟩

/-- The want is not met, and this is noted of it: the server has a problem, or it fetches nothing in
which there is a first cell. -/
inductive Unmet : Want → Problem → Asked → Prop
  | failed (want : Want) (problem : Problem) : Unmet want problem ⟨want.request, some problem⟩
  | noRow : Unmet .cell ⟨"'NoneType' object is not subscriptable", false⟩ (met .cell)
  | noCell : Unmet .cell ⟨StoreFault.emptyRow.message, false⟩ (met .cell)

end Want

/-- How a part of a transaction that wants these things goes: all of them are met, or one is not and
nothing is asked behind it. -/
inductive Went {α : Type} (wants : List Want) : Except Problem α → List Asked → Prop
  | through (value : α) : Went wants (.ok value) (wants.map Want.met)
  | stopped {done rest : List Want} {want : Want} {problem : Problem} {last : Asked}
      (split : wants = done ++ want :: rest) (unmet : want.Unmet problem last) :
      Went wants (.error problem) (done.map Want.met ++ [last])

namespace Went

variable {α β : Type} {first second : List Want} {asked askedSecond : List Asked}

theorem stopped_at {want : Want} {problem : Problem} {last : Asked}
    (unmet : want.Unmet problem last) : Went [want] (.error problem : Except Problem α) [last] :=
  .stopped (List.nil_append [want]).symm unmet

theorem append {value : α} {answer : Except Problem β} (before : Went first (.ok value) asked)
    (after : Went second answer askedSecond) :
    Went (first ++ second) answer (asked ++ askedSecond) := by
  cases before
  cases after with
  | through value =>
      rw [← List.map_append]
      exact .through value
  | stopped split unmet =>
      rw [← List.append_assoc, ← List.map_append]
      exact .stopped (by rw [split, List.append_assoc]) unmet

theorem cut_short {problem : Problem} (before : Went first (.error problem : Except Problem α) asked) :
    Went (first ++ second) (.error problem : Except Problem β) asked := by
  cases before with
  | stopped split unmet => exact .stopped (by rw [split, List.append_assoc, List.cons_append]) unmet

end Went

section Parts

variable {σ α β : Type}

/-- One part of a transaction and then another, unless the first fails. -/
def followedBy (first : σ → Except Problem α × σ) (next : α → σ → Except Problem β × σ) (server : σ) :
    Except Problem β × σ :=
  match first server with
  | (.error problem, server) => (.error problem, server)
  | (.ok value, server) => next value server

/-- On a watched server the part does what it does on the server itself, and what is noted of it is
what it wants. -/
def Wants (wants : List Want) (onWatched : Watched σ → Except Problem α × Watched σ)
    (plain : σ → Except Problem α × σ) : Prop :=
  ∀ watched, ∃ asked, onWatched watched =
      ((plain watched.server).1, ⟨(plain watched.server).2, watched.asked ++ asked⟩) ∧
    Went wants (plain watched.server).1 asked

namespace Wants

theorem value (value : α) : Wants (σ := σ) [] (fun watched => (.ok value, watched))
    (fun server => (.ok value, server)) := by
  intro watched
  exact ⟨[], by rw [List.append_nil], .through value⟩

theorem one {want : Want} {onWatched : Watched σ → Except Problem α × Watched σ}
    {plain : σ → Except Problem α × σ}
    (notes : ∀ watched, onWatched watched =
      watched.noting want.request (plain watched.server)) : Wants [want] onWatched plain := by
  intro watched
  rw [notes]
  refine ⟨[⟨want.request, Watched.problem? (plain watched.server).1⟩], rfl, ?_⟩
  cases (plain watched.server).1 with
  | ok value => exact .through value
  | error problem => exact .stopped_at (.failed want problem)

theorem followed_by {first second : List Want}
    {onWatched : Watched σ → Except Problem α × Watched σ} {plain : σ → Except Problem α × σ}
    {nextOnWatched : α → Watched σ → Except Problem β × Watched σ}
    {nextPlain : α → σ → Except Problem β × σ} (before : Wants first onWatched plain)
    (after : ∀ value, Wants second (nextOnWatched value) (nextPlain value)) :
    Wants (first ++ second) (followedBy onWatched nextOnWatched)
      (followedBy plain nextPlain) := by
  intro watched
  obtain ⟨asked, same, went⟩ := before watched
  simp only [followedBy, same]
  rcases answered : plain watched.server with ⟨answer, server⟩
  rw [answered] at went
  cases answer with
  | error problem => exact ⟨asked, rfl, went.cut_short⟩
  | ok value =>
      obtain ⟨askedSecond, sameSecond, wentSecond⟩ := after value ⟨server, watched.asked ++ asked⟩
      refine ⟨asked ++ askedSecond, ?_, went.append wentSecond⟩
      rw [← List.append_assoc]
      exact sameSecond

variable [Server σ]

theorem step (step : Step) : Wants (σ := σ) [.step step] (Server.perform step)
    (Server.perform step) :=
  .one fun _ => rfl

theorem row : Wants (σ := σ) [.row] Server.fetchRow Server.fetchRow :=
  .one fun _ => rfl

theorem rows : Wants (σ := σ) [.rows] Server.fetchRows Server.fetchRows :=
  .one fun _ => rfl

theorem cell : Wants (σ := σ) [.cell] fetchFirst fetchFirst := by
  intro watched
  rcases fetched : Server.fetchRow watched.server with ⟨answer, server⟩
  have onWatched : Server.fetchRow watched = watched.noting .fetchRow (answer, server) :=
    congrArg (watched.noting .fetchRow) fetched
  refine ⟨[⟨.fetchRow, Watched.problem? answer⟩], ?_, ?_⟩
  · simp only [fetchFirst, fetched, onWatched, Watched.noting]
    match answer with
    | .error _ | .ok none | .ok (some []) | .ok (some (_ :: _)) => rfl
  · simp only [fetchFirst, fetched]
    match answer with
    | .error problem => exact .stopped_at (.failed .cell problem)
    | .ok none => exact .stopped_at .noRow
    | .ok (some []) => exact .stopped_at .noCell
    | .ok (some (cell :: _)) => exact .through cell

/-- Statements are executed in order. -/
theorem execute_all (statements : List Statement) :
    Wants (σ := σ) (statements.map fun statement => .step (.execute statement))
      (executeAll statements) (executeAll statements) := by
  induction statements with
  | nil => exact value ()
  | cons statement rest ih =>
      have unfolded {τ : Type} [Server τ] : executeAll (σ := τ) (statement :: rest) =
          followedBy (Server.perform (.execute statement)) fun _ => executeAll rest := by
        funext server
        rw [executeAll, followedBy]
        rcases Server.perform (.execute statement) server with ⟨_ | _, _⟩ <;> rfl
      rw [unfolded, unfolded]
      exact (step (.execute statement)).followed_by fun _ => ih

end Wants

end Parts

/-! ## Whole calls -/

/-- That a cursor is opened, a transaction rolled back and both closed never fails. -/
def Orderly (σ : Type) [Server σ] : Prop :=
  ∀ step ∈ [Step.openCursor, .rollback, .closeCursor, .close], ∀ server : σ,
    (Server.perform step server).1 = .ok ()

/-- A fault of what was fetched, told when the transaction is over. -/
def StoreFault.isOfContent : StoreFault → Bool
  | .unreadableRow _ _ => true
  | .unreadableBody _ _ => true
  | .emptyRow => true
  | .unbounded _ => true
  | _ => false

/-- An answer that is read of what was fetched: if it is a fault, it is one of that. -/
def OfContent {β : Type} (answer : Except StoreFault β) : Prop :=
  ∀ fault, answer = .error fault → fault.isOfContent = true

namespace OfContent

variable {β γ : Type}

theorem ok (value : β) : OfContent (.ok value) := by
  intro fault refused
  cases refused

theorem error {fault : StoreFault} (content : fault.isOfContent = true) :
    OfContent (.error fault : Except StoreFault β) := by
  intro told refused
  cases refused
  exact content

theorem bind {answer : Except StoreFault β} {next : β → Except StoreFault γ}
    (first : OfContent answer) (second : ∀ value, OfContent (next value)) :
    OfContent (answer >>= next) := by
  cases answer with
  | error fault => exact error (first fault rfl)
  | ok value => exact second value

theorem map {answer : Except StoreFault β} (content : OfContent answer) (f : β → γ) :
    OfContent (answer.map f) := by
  cases answer with
  | error fault => exact error (content fault rfl)
  | ok value => exact ok (f value)

theorem mapError {ε : Type} {cause : ε → StoreFault}
    (content : ∀ problem, (cause problem).isOfContent = true) (answer : Except ε β) :
    OfContent (answer.mapError cause) := by
  cases answer with
  | error problem => exact error (content problem)
  | ok value => exact ok value

variable (collection : Collection)

theorem decode_cell (cell : Cell) : OfContent (collection.decodeCell cell) := by
  cases cell with
  | decimal value => exact error rfl
  | plain value =>
      cases value with
      | str text =>
          refine bind (mapError (fun _ => rfl) (Json.read text)) fun body => ?_
          dsimp only
          cases collection.decodeRow body with
          | valid row => exact ok row
          | invalid complaints => exact error rfl
      | _ =>
          refine bind (ok _) fun body => ?_
          dsimp only
          cases collection.decodeRow body with
          | valid row => exact ok row
          | invalid complaints => exact error rfl

theorem decode_fetched (row : FetchedRow) : OfContent (collection.decodeFetched row) := by
  cases row with
  | nil => exact error rfl
  | cons cell _ => exact decode_cell collection cell

theorem decode_rows (rows : List FetchedRow) :
    OfContent (rows.mapM collection.decodeFetched) := by
  induction rows with
  | nil => exact ok []
  | cons row rest ih =>
      rw [List.mapM_cons]
      exact bind (decode_fetched collection row) fun _ => bind ih fun _ => ok _

end OfContent

/-- The courses of a call: all that was asked of the server, and the fault that the caller is told.
`wants` is what the call wants between opening and closing, the commit as the last. -/
inductive Course (dsn : String) (wants : List Want) : List Asked → Option StoreFault → Prop
  /-- The connection is refused. -/
  | refused (problem : Problem) :
      Course dsn wants [⟨.step (.connect dsn), some problem⟩] (some (.unreachable problem.message))
  /-- A want is not met. -/
  | stopped {done rest : List Want} {want : Want} {problem : Problem} {last : Asked}
      (split : wants = done ++ want :: rest) (unmet : want.Unmet problem last) :
      Course dsn wants
        ([Want.step (.connect dsn), .step .openCursor].map Want.met ++ done.map Want.met ++
          last :: [Want.step .rollback, .step .closeCursor, .step .close].map Want.met)
        (some problem.fault)
  /-- All is met. -/
  | finished (fault : Option StoreFault) (ofContent : ∀ told ∈ fault, told.isOfContent = true) :
      Course dsn wants
        ([Want.step (.connect dsn), .step .openCursor].map Want.met ++ wants.map Want.met ++
          [Want.step .closeCursor, .step .close].map Want.met)
        fault

/-- What is wanted between opening and closing: to bound the time, to execute the statements in
order, to fetch, and to commit. -/
def transactionWants (milliseconds : Int) (statements : List Statement) (fetches : List Want) :
    List Want :=
  ((Statement.setTimeout milliseconds :: statements).map fun statement =>
    .step (.execute statement)) ++ (fetches ++ [.step .commit])

section Calls

variable {σ α : Type} [Server σ] {link : DatabaseLink} {milliseconds : Int}

theorem scope_wants (timed : link.milliseconds = .ok milliseconds) (statements : List Statement)
    {fetches : List Want} {finishOnWatched : Watched σ → Except Problem α × Watched σ}
    {finish : σ → Except Problem α × σ} (finishing : Wants fetches finishOnWatched finish) :
    Wants (transactionWants milliseconds statements fetches)
      (statementScope link statements finishOnWatched) (statementScope link statements finish) := by
  have unfolded {τ : Type} [Server τ] (finish : τ → Except Problem α × τ) :
      statementScope link statements finish =
        followedBy (executeAll (.setTimeout milliseconds :: statements)) fun _ =>
          followedBy finish fun value => followedBy (Server.perform .commit) fun _ server =>
            (.ok value, server) := by
    funext server
    simp only [statementScope, timed, followedBy]
    rcases executeAll (.setTimeout milliseconds :: statements) server with ⟨_ | _, executed⟩
    · rfl
    · simp only
      rcases finish executed with ⟨_ | _, finished⟩
      · rfl
      · simp only
        rcases Server.perform .commit finished with ⟨_ | _, _⟩ <;> rfl
  rw [unfolded, unfolded]
  exact (Wants.execute_all _).followed_by fun _ => finishing.followed_by fun value =>
    (Wants.step .commit).followed_by fun _ => .value value

/-- A step that never fails is met, and the server does what it does unwatched. -/
theorem performed_watched (orderly : Orderly σ) (step : Step)
    (calm : step ∈ [Step.openCursor, .rollback, .closeCursor, .close]) (server : σ)
    (asked : List Asked) :
    performed step (Watched.mk server asked) =
      ⟨performed step server, asked ++ [Want.met (.step step)]⟩ := by
  change Watched.mk _ (asked ++ [⟨_, Watched.problem? _⟩]) = _
  rw [orderly step calm server]
  rfl

def Reply.fault {τ β : Type} (reply : Reply τ β) : Option StoreFault :=
  match reply.1 with
  | .ok _ => none
  | .error fault => some fault

def Connected.watched (database : Connected σ) : Connected (Watched σ) :=
  ⟨database.link, .start database.server⟩

/-- Both replies are the same, but for the watching; the server was asked for these things. -/
structure Watches {β : Type} (onWatched : Reply (Connected (Watched σ)) β)
    (plain : Reply (Connected σ) β) (asked : List Asked) : Prop where
  answer : onWatched.1 = plain.1
  server : onWatched.2.server = ⟨plain.2.server, asked⟩

/-- The course of a call on a server that was already asked for other things. -/
theorem call_course_behind {β : Type} (orderly : Orderly σ)
    (timed : link.milliseconds = .ok milliseconds) (statements : List Statement)
    {fetches : List Want} {finishOnWatched : Watched σ → Except Problem α × Watched σ}
    {finish : σ → Except Problem α × σ} (finishing : Wants fetches finishOnWatched finish)
    {read : α → Except StoreFault β}
    (ofContent : ∀ value, OfContent (read value)) (server : σ) (before : List Asked) :
    let plain := Connected.call statements finish read ⟨link, server⟩
    ∃ asked, Course link.dsn (transactionWants milliseconds statements fetches) asked
        (Reply.fault plain) ∧
      Watches (Connected.call statements finishOnWatched read ⟨link, ⟨server, before⟩⟩) plain
        (before ++ asked) := by
  intro plain
  rcases connected : Server.perform (.connect link.dsn) server with ⟨answer, opened⟩
  have onWatched : Server.perform (.connect link.dsn) (Watched.mk server before) =
      (Watched.mk server before).noting (.step (.connect link.dsn)) (answer, opened) :=
    congrArg ((Watched.mk server before).noting (.step (.connect link.dsn))) connected
  simp only [Watched.noting] at onWatched
  cases answer with
  | error problem =>
      refine ⟨[⟨.step (.connect link.dsn), some problem⟩], ?_, ?_, ?_⟩
      · simp only [plain, Connected.call, transaction, connected, Reply.fault]
        exact .refused problem
      · simp only [plain, Connected.call, transaction, connected, onWatched]
      · simp only [plain, Connected.call, transaction, connected, onWatched]
        rfl
  | ok _ =>
      obtain ⟨asked, same, went⟩ := scope_wants timed statements finishing
        ⟨performed .openCursor opened,
          before ++ [Want.step (.connect link.dsn), .step .openCursor].map Want.met⟩
      have cursor := performed_watched orderly .openCursor (by simp) opened
        (before ++ [⟨.step (.connect link.dsn), none⟩])
      rw [List.append_assoc] at cursor
      have closed (done : σ) (earlier : List Asked) :
          performed .close (performed .closeCursor (Watched.mk done earlier)) =
            ⟨performed .close (performed .closeCursor done),
              earlier ++ [Want.step .closeCursor, .step .close].map Want.met⟩ := by
        rw [performed_watched orderly _ (by simp), performed_watched orderly _ (by simp),
          List.append_assoc]
        rfl
      rcases scope : statementScope link statements finish (performed .openCursor opened) with
        ⟨result, done⟩
      simp only [scope] at same went
      have onWatchedScope : statementScope link statements finishOnWatched
          (performed .openCursor
            (Watched.mk opened (before ++ [⟨.step (.connect link.dsn), none⟩]))) =
            (result, ⟨done, before ++
              ([Want.step (.connect link.dsn), .step .openCursor].map Want.met ++ asked)⟩) := by
        rw [List.append_assoc] at same
        rw [cursor]
        exact same
      simp only [plain, Connected.call, transaction, connected, scope, onWatched,
        Watched.problem?, onWatchedScope]
      cases went with
      | through value =>
          simp only [closed]
          refine ⟨_, .finished _ fun told isTold => ofContent value told ?_, rfl, by simp⟩
          simp only [Reply.fault] at isTold
          split at isTold <;> simp_all
      | stopped split unmet =>
          have rolledBack := performed_watched orderly .rollback (by simp) done
          simp only [rolledBack, closed]
          exact ⟨_, .stopped split unmet, rfl, by simp⟩

theorem call_course {β : Type} (orderly : Orderly σ)
    (timed : link.milliseconds = .ok milliseconds) (statements : List Statement)
    {fetches : List Want} {finishOnWatched : Watched σ → Except Problem α × Watched σ}
    {finish : σ → Except Problem α × σ} (finishing : Wants fetches finishOnWatched finish)
    {read : α → Except StoreFault β}
    (ofContent : ∀ value, OfContent (read value)) (server : σ) :
    let plain := Connected.call statements finish read ⟨link, server⟩
    ∃ asked, Course link.dsn (transactionWants milliseconds statements fetches) asked
        (Reply.fault plain) ∧
      Watches (Connected.call statements finishOnWatched read ⟨link, .start server⟩) plain asked :=
  call_course_behind orderly timed statements finishing ofContent server []

end Calls

/-- The fault of a call and what its server was asked, read off the watched call itself. -/
theorem watched_course {σ β : Type} {onWatched : Reply (Connected (Watched σ)) β}
    {plain : Reply (Connected σ) β} {dsn : String} {wants : List Want}
    (course : ∃ asked, Course dsn wants asked (Reply.fault plain) ∧
      Watches onWatched plain asked) :
    Course dsn wants onWatched.2.server.asked (Reply.fault onWatched) ∧
      (Reply.fault onWatched, onWatched.2.server.server) =
        (Reply.fault plain, plain.2.server) := by
  obtain ⟨asked, course, sameAnswer, sameServer⟩ := course
  have sameFault : Reply.fault onWatched = Reply.fault plain := by
    rw [Reply.fault, sameAnswer]
    rfl
  rw [sameServer, sameFault]
  exact ⟨course, rfl⟩

inductive DatabaseCall where
  | load (collection : Collection) (id : Text)
  | save (collection : Collection) (row : collection.Row)
  | list (collection : Collection) (query : Query)
  | count (collection : Collection) (status : Option String)
  | maxBlock (collection : Collection)
  | ensureSchema
  | clear

namespace DatabaseCall

def statements : DatabaseCall → List Statement
  | .load collection id => [.selectRow collection id]
  | .save collection row => [.upsert collection (collection.columns row)]
  | .list collection query => [.selectPage collection query]
  | .count collection status => [.countRows collection status]
  | .maxBlock collection => [.maxBlock collection]
  | .ensureSchema => (Named.all : List Collection).map .createTable
  | .clear => [.truncate]

def fetches : DatabaseCall → List Want
  | .load _ _ => [.row]
  | .list _ _ => [.rows]
  | .count _ _ | .maxBlock _ => [.cell]
  | .save _ _ | .ensureSchema | .clear => []

variable {σ : Type} [Server σ]

def run (call : DatabaseCall) (database : Connected σ) : Option StoreFault × Connected σ :=
  match call with
  | .load collection id => ended (Backend.load collection id database)
  | .save collection row => ended (Backend.save collection row database)
  | .list collection query => ended (Backend.list collection query database)
  | .count collection status => ended (Backend.count collection status database)
  | .maxBlock collection => ended (Backend.maxBlock collection database)
  | .ensureSchema => ended database.ensureSchema
  | .clear => ended database.clear
where
  ended {τ β : Type} (reply : Reply τ β) : Option StoreFault × τ :=
    (Reply.fault reply, reply.2)

end DatabaseCall

section Calls

variable {σ : Type} [Server σ]

/-- Every call is one transaction on one connection. Whatever the server answers, what it was asked
is one of the three courses of the call: the connection is refused, and the caller is told that it is;
a request is not met, and it is the last before the rolling back and closing, with its problem told
to the caller; or all requests are met in order up to the commit, and only what was fetched can
be a fault. Watching the server makes no difference. -/
theorem call_is_one_transaction (orderly : Orderly σ) (call : DatabaseCall)
    (database : Connected σ) (milliseconds : Int)
    (timed : database.link.milliseconds = .ok milliseconds) :
    let (fault, after) := call.run database.watched
    Course database.link.dsn (transactionWants milliseconds call.statements call.fetches)
        after.server.asked fault ∧
      (fault, after.server.server) = ((call.run database).1, (call.run database).2.server) := by
  obtain ⟨link, server⟩ := database
  cases call with
  | load collection id =>
      refine watched_course (call_course orderly timed _ .row (fun row => ?_) server)
      cases row with
      | none => exact .ok none
      | some row => exact (OfContent.decode_fetched collection row).map some
  | save collection row => exact watched_course (call_course orderly timed _ (.value ()) .ok server)
  | list collection query =>
      exact watched_course (call_course orderly timed _ .rows (OfContent.decode_rows collection) server)
  | count collection status => exact watched_course (call_course orderly timed _ .cell .ok server)
  | maxBlock collection =>
      exact watched_course (call_course orderly timed _ .cell
        (fun cell => .mapError (fun _ => rfl) cell.whole) server)
  | ensureSchema => exact watched_course (call_course orderly timed _ (.value ()) .ok server)
  | clear => exact watched_course (call_course orderly timed _ (.value ()) .ok server)

/-- A scripted server fails at connections, statements and commits only. -/
theorem scripted_server_orderly : Orderly ScriptedServer := by
  intro step member server
  simp only [List.mem_cons, List.not_mem_nil, or_false] at member
  rcases member with rfl | rfl | rfl | rfl <;> rfl

/-- The commit fails: the tables are not emptied, and the caller is told so. -/
theorem call_is_one_transaction_uncommitted :
    let database : Connected ScriptedServer :=
      ⟨⟨"bridge", .int 1000⟩, .start { ServerScript.quiet with commitFails := true }⟩
    let (fault, after) := DatabaseCall.clear.run database.watched
    Course "bridge" (transactionWants 1000 [.truncate] []) after.server.asked fault ∧
      fault.map StoreFault.message = some "Entity store operation failed: boom" ∧
      after.server.asked.map (fun asked => asked.problem.map Problem.message) =
        [none, none, none, none, some "boom", none, none, none] := by
  intro database
  exact ⟨(call_is_one_transaction scripted_server_orderly .clear database 1000 rfl).1, rfl, rfl⟩

end Calls

end BridgeState
