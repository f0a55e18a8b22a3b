import BridgeState.Deployment
import BridgeState.Proofs.Transactions

/-!
# Starting on a database

A program keeps its rows in memory only where its environment asks for that: by the name of the
driver, or by naming neither a driver nor a database. Any other environment is a fault or leads to
one database, whose settings are read of the locator if there is one and of the single variables
otherwise. Its server is asked for a connection that is closed again and then, on a second one, for
the tables; the program starts when these are committed. Whatever fails on the way is told, and every
connection is opened with the address that the settings give.
-/

namespace BridgeState

set_option autoImplicit false

open Text

theorem Text.lower_char_filled (c : Char) : lowerChar c ≠ [] := by
  unfold lowerChar
  split
  · exact List.cons_ne_nil _ _
  · split
    · exact List.cons_ne_nil _ _
    · split <;> exact List.cons_ne_nil _ _

theorem Text.lower_eq_nil_iff (text : List Char) : lower text = [] ↔ text = [] := by
  cases text with
  | nil => exact iff_of_true rfl rfl
  | cons c rest =>
      refine iff_of_false ?_ (List.cons_ne_nil c rest)
      intro empty
      obtain ⟨first, -⟩ := List.append_eq_nil_iff.mp empty
      split at first
      · cases first
      · exact lower_char_filled c first

theorem Text.lower_string_empty_iff (text : String) :
    (lowerString text).isEmpty = true ↔ text.isEmpty = true := by
  rw [String.isEmpty_iff, String.isEmpty_iff, ← String.toList_eq_nil_iff, ← String.toList_eq_nil_iff,
    lowerString, String.toList_ofList, lower_eq_nil_iff]

theorem StoreDriver.ofName?_name (driver : StoreDriver) :
    Named.ofName? (Named.name driver) = some driver := by
  cases driver <;> rfl

namespace Environment

theorem filled_eq_none_iff (name : String) (environment : Environment) :
    environment.filled? name = none ↔ (environment.getOr name "").isEmpty = true := by
  unfold filled? getOr
  cases environment.get? name with
  | none => exact iff_of_true rfl rfl
  | some value => simp

end Environment

namespace Deployment

/-- The settings of the database that the environment leads to: those of the locator, or else those
of the single variables. -/
def settingsOf (environment : Environment) : Except SettingsFault DatabaseSettings :=
  match environment.filled? "DATABASE_URL" with
  | some text => DatabaseSettings.ofUrl environment text
  | none => DatabaseSettings.ofEnvironment environment

/-- The name of the driver that the environment asks for, in small letters. -/
def driverName (environment : Environment) : String :=
  lowerString (environment.getOr "ENTITYSTORE_DRIVER" "")

/-- Rows are to be kept in memory: the driver of that name is asked for, or no driver and no database
at all. -/
def AsksForMemory (environment : Environment) : Prop :=
  driverName environment = "memory" ∨
    environment.filled? "ENTITYSTORE_DRIVER" = none ∧
      environment.filled? "DATABASE_URL" = none ∧ environment.filled? "DATABASE_HOST" = none

instance (environment : Environment) : Decidable (AsksForMemory environment) :=
  inferInstanceAs (Decidable (_ ∨ _ ∧ _ ∧ _))

section Chosen

variable {environment : Environment}

theorem driver_name_empty_iff :
    (driverName environment).isEmpty = true ↔ environment.filled? "ENTITYSTORE_DRIVER" = none := by
  rw [driverName, lower_string_empty_iff, Environment.filled_eq_none_iff]

/-- A driver that is named is the one that is chosen. -/
theorem chosen_of_named (named : (driverName environment).isEmpty = false) :
    StoreDriver.chosen environment =
      match Named.ofName? (driverName environment) with
      | some driver => .ok driver
      | none => .error (.unknownDriver (driverName environment)) := by
  have isNamed : (!(driverName environment).isEmpty) = true := by rw [named, Bool.not_false]
  exact if_pos isNamed

theorem chosen_of_unnamed (unnamed : environment.filled? "ENTITYSTORE_DRIVER" = none) :
    StoreDriver.chosen environment = (DatabaseSettings.configuredUrl environment).map fun url =>
      if url.isSome then .postgres else .memory := by
  have noName : (lowerString (environment.getOr "ENTITYSTORE_DRIVER" "")).isEmpty = true :=
    driver_name_empty_iff.mpr unnamed
  simp only [StoreDriver.chosen, noName, Bool.not_true, Bool.false_eq_true, if_false]

theorem database_of_memory (memory : AsksForMemory environment) :
    database environment = .ok none := by
  have chosen : StoreDriver.chosen environment = .ok .memory := by
    rcases memory with named | ⟨unnamed, noUrl, noHost⟩
    · rw [chosen_of_named (by rw [named]; rfl), named]
      rfl
    · rw [chosen_of_unnamed unnamed, DatabaseSettings.configuredUrl, noUrl, noHost]
      rfl
  rw [database, chosen]
  rfl

/-- The driver of the database leads to its settings, wherever they stand. -/
theorem database_of_postgres (chosen : StoreDriver.chosen environment = .ok .postgres) :
    database environment = (settingsOf environment).map some := by
  rw [database, chosen, DatabaseSettings.configured, settingsOf]
  cases environment.filled? "DATABASE_URL" with
  | some text =>
      dsimp only
      cases DatabaseSettings.ofUrl environment text <;> rfl
  | none =>
      cases environment.filled? "DATABASE_HOST" <;> dsimp only <;>
        cases DatabaseSettings.ofEnvironment environment <;> rfl

theorem database_of_error {fault : SettingsFault}
    (unchosen : StoreDriver.chosen environment = .error fault) :
    database environment = .error fault := by
  rw [database, unchosen]
  rfl

/-- Without a driver that is named, a database that is leads to its settings or to their fault. -/
theorem database_of_unnamed (unnamed : environment.filled? "ENTITYSTORE_DRIVER" = none)
    (asked : ¬AsksForMemory environment) :
    database environment = (settingsOf environment).map some := by
  have chosen := chosen_of_unnamed unnamed
  rw [DatabaseSettings.configuredUrl] at chosen
  cases url : environment.filled? "DATABASE_URL" with
  | some text =>
      rw [url] at chosen
      exact database_of_postgres chosen
  | none =>
      cases host : environment.filled? "DATABASE_HOST" with
      | none => exact absurd (Or.inr ⟨unnamed, url, host⟩) asked
      | some name =>
          simp only [url, host] at chosen
          cases read : DatabaseSettings.ofEnvironment environment with
          | error fault =>
              rw [read] at chosen
              rw [database_of_error chosen, settingsOf, url, read]
              rfl
          | ok settings =>
              rw [read] at chosen
              exact database_of_postgres chosen

/-- An environment that does not ask for memory names an unknown driver or leads to settings, which
may be unreadable. -/
theorem database_of_other (asked : ¬AsksForMemory environment) :
    (environment.filled? "ENTITYSTORE_DRIVER" ≠ none ∧
      (∀ driver : StoreDriver, driverName environment ≠ Named.name driver) ∧
      database environment = .error (.unknownDriver (driverName environment))) ∨
    database environment = (settingsOf environment).map some := by
  cases named : (driverName environment).isEmpty with
  | true => exact Or.inr (database_of_unnamed (driver_name_empty_iff.mp named) asked)
  | false =>
      have chosen := chosen_of_named named
      cases found : (Named.ofName? (driverName environment) : Option StoreDriver) with
      | some driver =>
          have isName := Named.name_of_ofName? _ driver found
          rw [found] at chosen
          cases driver with
          | memory => exact absurd (Or.inl isName) asked
          | postgres => exact Or.inr (database_of_postgres chosen)
      | none =>
          rw [found] at chosen
          refine Or.inl ⟨?_, ?_, database_of_error chosen⟩
          · intro unnamed
            rw [driver_name_empty_iff.mpr unnamed] at named
            cases named
          · intro driver isName
            rw [isName, StoreDriver.ofName?_name] at found
            cases found

end Chosen

/-! ## Connecting -/

def probed (settings : DatabaseSettings) : List Asked :=
  [Want.step (.connect settings.dsn), .step .close].map Want.met

/-- What is wanted of a server so that all tables are there. -/
def tableWants (settings : DatabaseSettings) : List Want :=
  transactionWants settings.statementTimeout ((Named.all : List Collection).map .createTable) []

/-- How it goes to connect to a database, with all that its server was asked: it is not reached; it is
reached once, but not again; a statement for the tables or their commit fails, and they are rolled
back; or all is met and committed. -/
inductive Connects (settings : DatabaseSettings) :
    Except StoreFault DatabaseLink → List Asked → Prop
  | unreached (problem : Problem) :
      Connects settings (.error (.unreachableAt (settings.url false) problem.message))
        [⟨.step (.connect settings.dsn), some problem⟩]
  | lost (problem : Problem) :
      Connects settings (.error (.unreachable problem.message))
        (probed settings ++ [⟨.step (.connect settings.dsn), some problem⟩])
  | stopped {done rest : List Want} {want : Want} {problem : Problem} {last : Asked}
      (split : tableWants settings = done ++ want :: rest) (unmet : want.Unmet problem last) :
      Connects settings (.error problem.fault)
        (probed settings ++
          ([Want.step (.connect settings.dsn), .step .openCursor].map Want.met ++
            done.map Want.met ++
            last :: [Want.step .rollback, .step .closeCursor, .step .close].map Want.met))
  | ready :
      Connects settings (.ok ⟨settings.dsn, .int settings.statementTimeout⟩)
        (probed settings ++
          ([Want.step (.connect settings.dsn), .step .openCursor].map Want.met ++
            (tableWants settings).map Want.met ++
            [Want.step .closeCursor, .step .close].map Want.met))

section Connecting

variable {σ : Type} [Server σ]

theorem problem_fault_not_of_content (problem : Problem) :
    problem.fault.isOfContent = false := by
  unfold Problem.fault
  split <;> rfl

/-- Nothing is read when the tables are there, so only a request can fail. -/
theorem schema_fault_not_of_content (database : Connected σ) {fault : StoreFault}
    (failed : database.ensureSchema.1 = .error fault) : fault.isOfContent = false := by
  unfold Connected.ensureSchema Connected.call transaction at failed
  split at failed
  · cases failed
  · rename_i told _ failedTransaction
    have same : told = fault := Except.error.inj failed
    subst same
    split at failedTransaction
    · cases failedTransaction
      rfl
    · split at failedTransaction
      · cases failedTransaction
      · cases failedTransaction
        exact problem_fault_not_of_content _

theorem schema_course (orderly : Orderly σ) (settings : DatabaseSettings) (server : σ)
    (before : List Asked) :
    ∃ asked, Course settings.dsn (tableWants settings) asked
        (Reply.fault (Connected.mk (link settings) server).ensureSchema) ∧
      Watches (Connected.mk (link settings) ⟨server, before⟩).ensureSchema
        (Connected.mk (link settings) server).ensureSchema (before ++ asked) := by
  have timed : (link settings).milliseconds = .ok settings.statementTimeout := rfl
  exact call_course_behind orderly timed ((Named.all : List Collection).map .createTable)
    (.value ()) OfContent.ok server before

/-- A reached server connects as the call for the tables goes, for which nothing is read. -/
theorem Connects.of_course {τ : Type} {settings : DatabaseSettings} {asked : List Asked}
    {reply : Reply (Connected τ) Unit}
    (course : Course settings.dsn (tableWants settings) asked (Reply.fault reply))
    (fromServer : ∀ fault, reply.1 = .error fault → fault.isOfContent = false) :
    Connects settings (reply.1.map fun _ => link settings) (probed settings ++ asked) := by
  obtain ⟨result, database⟩ := reply
  cases result with
  | ok _ =>
      cases course
      exact .ready
  | error fault =>
      cases course with
      | refused problem => exact .lost problem
      | stopped split unmet => exact .stopped split unmet
      | finished _ ofContent =>
          have noContent := fromServer fault rfl
          rw [ofContent fault rfl] at noContent
          cases noContent

theorem connect_course (orderly : Orderly σ) (settings : DatabaseSettings) (server : σ) :
    ∃ asked, Connects settings (connect settings true server).1 asked ∧
      connect settings true (Watched.start server) =
        ((connect settings true server).1, ⟨(connect settings true server).2, asked⟩) := by
  rcases connected : Server.perform (.connect settings.dsn) server with ⟨answer, opened⟩
  have onWatched : Server.perform (.connect settings.dsn) (Watched.start server) =
      (Watched.start server).noting (.step (.connect settings.dsn)) (answer, opened) :=
    congrArg ((Watched.start server).noting (.step (.connect settings.dsn))) connected
  simp only [Watched.noting, Watched.start, List.nil_append] at onWatched
  cases answer with
  | error problem =>
      refine ⟨[⟨.step (.connect settings.dsn), some problem⟩], ?_, ?_⟩
      · simp only [connect, probe, connected]
        exact .unreached problem
      · simp only [connect, probe, connected, Watched.start, onWatched]
        rfl
  | ok _ =>
      have closed : performed .close (Watched.mk opened [⟨.step (.connect settings.dsn), none⟩]) =
          ⟨performed .close opened, probed settings⟩ :=
        performed_watched orderly .close (by simp) opened _
      obtain ⟨asked, course, answered, served⟩ :=
        schema_course orderly settings (performed .close opened) (probed settings)
      simp only [connect, probe, connected, Watched.start, onWatched, Watched.problem?, closed,
        if_true]
      rcases plain : (Connected.mk (link settings) (performed .close opened)).ensureSchema with
        ⟨result, database⟩
      rcases watched : (Connected.mk (link settings)
        (Watched.mk (performed .close opened) (probed settings))).ensureSchema with
        ⟨resultWatched, onServer⟩
      rw [plain] at course answered served
      rw [watched] at answered served
      have same : result = resultWatched := answered.symm
      dsimp only at served
      subst same
      have connects := Connects.of_course course fun fault isFault =>
        schema_fault_not_of_content _ (by rw [plain, isFault])
      refine ⟨probed settings ++ asked, ?_, ?_⟩
      · cases result <;> exact connects
      · cases result <;> simp only [served]

end Connecting

/-- The address that a server was asked to connect to, if that is what it was asked. -/
def connection? (asked : Asked) : Option String :=
  match asked.request with
  | .step (.connect dsn) => some dsn
  | _ => none

theorem table_want_opens_nothing {settings : DatabaseSettings} {want : Want}
    (wanted : want ∈ tableWants settings) (problem : Option Problem) :
    connection? ⟨want.request, problem⟩ = none := by
  simp only [tableWants, transactionWants, List.map_cons, List.nil_append, List.mem_append,
    List.mem_cons, List.mem_map, List.not_mem_nil, or_false] at wanted
  rcases wanted with (rfl | ⟨statement, -, rfl⟩) | rfl <;> rfl

theorem table_wants_open_nothing {settings : DatabaseSettings} {wants : List Want}
    (wanted : ∀ want ∈ wants, want ∈ tableWants settings) :
    (wants.map Want.met).filterMap connection? = [] := by
  rw [List.filterMap_eq_nil_iff]
  intro entry member
  obtain ⟨want, inside, rfl⟩ := List.mem_map.mp member
  exact table_want_opens_nothing (wanted want inside) none

/-- Whatever comes of it, the server is asked for connections with the address of the settings. -/
theorem Connects.connection_eq {settings : DatabaseSettings}
    {answer : Except StoreFault DatabaseLink} {asked : List Asked}
    (connects : Connects settings answer asked) :
    ∀ dsn ∈ asked.filterMap connection?, dsn = settings.dsn := by
  have opens (problem : Option Problem) :
      connection? ⟨.step (.connect settings.dsn), problem⟩ = some settings.dsn := rfl
  have opensNothing (step : Step) (problem : Option Problem)
      (other : step ∈ [Step.openCursor, .rollback, .closeCursor, .close]) :
      connection? ⟨.step step, problem⟩ = none := by
    simp only [List.mem_cons, List.not_mem_nil, or_false] at other
    rcases other with rfl | rfl | rfl | rfl <;> rfl
  cases connects with
  | unreached problem => simp [opens]
  | lost problem => simp [probed, Want.met, Want.request, opens, opensNothing]
  | @stopped done rest want problem last split unmet =>
      have before : (done.map Want.met).filterMap connection? = [] := by
        apply table_wants_open_nothing
        intro earlier member
        rw [split]
        exact List.mem_append_left _ member
      have wanted : want ∈ tableWants settings := by simp [split]
      have failing : connection? last = none := by
        cases unmet <;> exact table_want_opens_nothing wanted _
      simp only [List.filterMap_append, List.filterMap_cons, before, failing]
      simp [probed, Want.met, Want.request, opens, opensNothing]
  | ready =>
      have all : ((tableWants settings).map Want.met).filterMap connection? = [] :=
        table_wants_open_nothing fun _ member => member
      simp only [List.filterMap_append, all]
      simp [probed, Want.met, Want.request, opens, opensNothing]

/-! ## Starting -/

/-- How a program starts that is not asked for memory, with all that the server was asked: the driver
is unknown or the settings are unreadable, and nothing is asked; or it connects to the database of the
settings, or fails to. -/
inductive Starts (environment : Environment) :
    Except DeploymentFault (Store ⊕ DatabaseLink) → List Asked → Prop
  | unknownDriver (named : environment.filled? "ENTITYSTORE_DRIVER" ≠ none)
      (unknown : ∀ driver : StoreDriver, driverName environment ≠ Named.name driver) :
      Starts environment (.error (.settings (.unknownDriver (driverName environment)))) []
  | unreadable {fault : SettingsFault} (unread : settingsOf environment = .error fault) :
      Starts environment (.error (.settings fault)) []
  | failed {settings : DatabaseSettings} {fault : StoreFault} {asked : List Asked}
      (read : settingsOf environment = .ok settings)
      (connects : Connects settings (.error fault) asked) :
      Starts environment (.error (.store fault)) asked
  | connected {settings : DatabaseSettings} {asked : List Asked}
      (read : settingsOf environment = .ok settings)
      (connects : Connects settings (.ok ⟨settings.dsn, .int settings.statementTimeout⟩) asked) :
      Starts environment (.ok (.inr ⟨settings.dsn, .int settings.statementTimeout⟩)) asked

section Starting

variable {σ : Type} [Server σ]

theorem start_course (orderly : Orderly σ) {environment : Environment}
    (asked : ¬AsksForMemory environment) (server : σ) :
    ∃ requests, Starts environment (backing environment server).1 requests ∧
      backing environment (Watched.start server) =
        ((backing environment server).1, ⟨(backing environment server).2, requests⟩) := by
  rcases database_of_other asked with ⟨named, unknown, isUnknown⟩ | leads
  · simp only [backing, isUnknown]
    exact ⟨[], .unknownDriver named unknown, rfl⟩
  · cases read : settingsOf environment with
    | error fault =>
        rw [read] at leads
        change database environment = .error fault at leads
        simp only [backing, leads]
        exact ⟨[], .unreadable read, rfl⟩
    | ok settings =>
        rw [read] at leads
        change database environment = .ok (some settings) at leads
        obtain ⟨requests, connects, watched⟩ := connect_course orderly settings server
        simp only [backing, leads, watched]
        refine ⟨requests, ?_⟩
        rcases went : connect settings true server with ⟨answer, after⟩
        rw [went] at connects
        cases answer with
        | error fault => exact ⟨.failed read connects, rfl⟩
        | ok reached =>
            cases connects
            exact ⟨.connected read .ready, rfl⟩

/-- A program keeps its rows in memory exactly where its environment asks for that, and then with no
row and without asking a server for anything. Otherwise it starts on the database of the settings that
the environment leads to, or tells why it does not; every connection is opened with their address.
Watching the server makes no difference. -/
theorem never_falls_back_to_memory (orderly : Orderly σ) (environment : Environment)
    (server : σ) :
    let reply := backing environment (Watched.start server)
    ((∃ store, reply.1 = .ok (.inl store)) ↔ AsksForMemory environment) ∧
    (AsksForMemory environment → reply.1 = .ok (.inl .empty) ∧ reply.2.asked = []) ∧
    (¬AsksForMemory environment →
      Starts environment reply.1 reply.2.asked ∧
      ∀ dsn ∈ reply.2.asked.filterMap connection?,
        ∃ settings, settingsOf environment = .ok settings ∧ dsn = settings.dsn) ∧
    (reply.1, reply.2.server) = backing environment server := by
  intro reply
  by_cases memory : AsksForMemory environment
  · have kept {τ : Type} [Server τ] (server : τ) :
        backing environment server = (.ok (.inl .empty), server) := by
      simp only [backing, database_of_memory memory]
    have inMemory : reply = (.ok (.inl .empty), Watched.start server) := kept _
    rw [inMemory, kept]
    exact ⟨iff_of_true ⟨.empty, rfl⟩ memory, fun _ => ⟨rfl, rfl⟩, fun other => absurd memory other,
      rfl⟩
  · obtain ⟨requests, starts, watched⟩ := start_course orderly memory server
    have isWatched : reply = ((backing environment server).1, ⟨(backing environment server).2,
      requests⟩) := watched
    rw [isWatched]
    generalize backing environment server = plain at starts ⊢
    obtain ⟨answer, after⟩ := plain
    refine ⟨iff_of_false ?_ memory, fun asked => absurd asked memory, fun _ => ⟨starts, ?_⟩, rfl⟩
    · rintro ⟨store, isMemory⟩
      dsimp only at starts isMemory
      rw [isMemory] at starts
      cases starts
    · intro dsn opened
      dsimp only at starts opened
      cases starts with
      | unknownDriver | unreadable => cases opened
      | failed read connects | connected read connects =>
          exact ⟨_, read, connects.connection_eq dsn opened⟩

/-- The server is reached, but does not take a second connection: the program does not start. -/
theorem never_falls_back_to_memory_refused :
    let environment : Environment := [("ENTITYSTORE_DRIVER", "PSYCOPG2")]
    let server := ScriptedServer.start { ServerScript.quiet with connections := some 1 }
    let reply := backing environment (Watched.start server)
    Orderly ScriptedServer ∧ ¬AsksForMemory environment ∧
      Starts environment reply.1 reply.2.asked ∧
      reply.2.asked.map (fun asked => asked.problem.map Problem.message) =
        [none, none, some "refused"] := by
  intro environment server reply
  have notMemory : ¬AsksForMemory environment := by decide +kernel
  obtain ⟨-, -, starts, -⟩ :=
    never_falls_back_to_memory scripted_server_orderly environment server
  exact ⟨scripted_server_orderly, notMemory, (starts notMemory).1, by decide +kernel⟩

end Starting

end Deployment

end BridgeState
