import BridgeState.Console.Command
import BridgeState.Console.Replay
import BridgeState.Console.Session
import BridgeState.Health
import BridgeState.Identifier

/-!
# Running commands

`Command.run` carries out a command in a session. What a command needs from outside, such as the text
of a file, is given with its surroundings.
-/

namespace BridgeState.Console

set_option autoImplicit false

structure Surroundings where
  environment : Environment
  /-- The text that stands at the standard input. -/
  input : String
  file : String → Except SourceFault String
  /-- How the time a health check took is shown. -/
  duration : String

/-- The text that a name stands for, a dash being the standard input. -/
def Surroundings.text (surroundings : Surroundings) (name : String) : Except SourceFault String :=
  if name == "-" then .ok surroundings.input else surroundings.file name

def deriveReport (salt : String) (block : Json) : Report :=
  match Identifier.deriveFrom salt block with
  | .ok id => .success [id.text]
  | .error fault => .failure [s!"ERROR: {fault.message}"]

section Run

variable {σ : Type}

/-- Replays a named text; it is looked for only once there is an engine. -/
def runReplay [Backend σ] (text : Except SourceFault String) (engine : Engine σ) :
    Except RunFault Report × Engine σ :=
  match text with
  | .error fault => (.error (.source fault), engine)
  | .ok text => replay text engine

def createTables [Server σ] (settings : DatabaseSettings) (server : σ) :
    Except RunFault Report × σ :=
  match Deployment.connect settings false server with
  | (.error fault, server) => (.ok (.failure [s!"ERROR: {fault.message}"]), server)
  | (.ok link, server) =>
    match (Connected.mk link server).ensureSchema with
    | (.error fault, database) => (.error (.store fault), database.server)
    | (.ok (), database) =>
      let place := settings.url false
      (.ok (.success [s!"Schema ready on {place}"]), database.server)

def createSchema [Server σ] (environment : Environment) (server : σ) : Except RunFault Report × σ :=
  match DatabaseSettings.configured environment with
  | .error fault => (.error (.settings fault), server)
  | .ok none =>
    (.ok (.failure ["No database configured (set DATABASE_URL or DATABASE_HOST)"]), server)
  | .ok (some settings) => createTables settings server

def unknownCollection (name : String) : Report :=
  let valid := String.intercalate ", " (Named.names Collection)
  .failure [s!"Unknown collection {Text.quoted name}. Valid: {valid}"]

def rowsReport (collection : Collection) (rows : List collection.Row) : Report :=
  ⟨rows.map fun row => Text.ofString (collection.encodeRow row).sorted.render,
    if rows.isEmpty then ["(no records)"] else [], 0⟩

def listRows [Backend σ] (collection : Collection) (query : Query) (engine : Engine σ) :
    Except RunFault Report × Engine σ :=
  match Backend.list collection query engine.state with
  | (.error fault, state) => (.error (.store fault), { engine with state })
  | (.ok rows, state) => (.ok (rowsReport collection rows), { engine with state })

/-- Prints the rows that are selected. A database is asked for what is left of a selection that has
lost values. -/
def listSelected [Server σ] (collection : Collection) (selection : Selection)
    (engine : Engine (Site σ)) : Except RunFault Report × Engine (Site σ) :=
  match selection.query?, engine.state.backing with
  | none, .inl store =>
    (((selection.rows (store.table collection)).map (rowsReport collection)).mapError .lost, engine)
  | _, _ => listRows collection selection.kept engine

def checkLines (check : String × Check) : List Text :=
  let marker := if check.2.healthy then "OK" else "FAIL"
  ↑s!"[{marker}] {check.1}" :: check.2.details.map fun detail =>
    s!"    {detail.1}: " ++ detail.2.display

def healthReport (report : HealthReport) (duration : String) : Report :=
  let verdict := if report.healthy then "healthy" else "UNHEALTHY"
  ⟨report.flatMap checkLines ++ (["", s!"Overall: {verdict} ({duration})"] : List Text), [],
    if report.healthy then 0 else 1⟩

def checkHealth [Backend σ] (duration : String) (engine : Engine σ) :
    Except RunFault Report × Engine σ :=
  let (report, state) := HealthReport.ofBackend engine.state
  (.ok (healthReport report duration), { engine with state })

def Command.run [Server σ] (surroundings : Surroundings) (command : Command)
    (session : Session σ) : Except RunFault Report × Session σ :=
  match command with
  | .replay file =>
    session.onEngine surroundings.environment (runReplay (surroundings.text file))
  | .deriveId salt block => (.ok (deriveReport salt block), session)
  | .initSchema => session.onServer (createSchema surroundings.environment)
  | .list name selection =>
    match (Named.ofName? name : Option Collection) with
    | none => (.ok (unknownCollection name), session)
    | some collection =>
      session.onEngine surroundings.environment (listSelected collection selection)
  | .healthCheck =>
    session.onEngine surroundings.environment (checkHealth surroundings.duration)

end Run

end BridgeState.Console
