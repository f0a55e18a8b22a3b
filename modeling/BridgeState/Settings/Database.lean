import BridgeState.Settings.Environment
import BridgeState.Text.Numeral
import BridgeState.Text.Percent
import BridgeState.Url.Basic
import BridgeState.Url.Query
import BridgeState.Vocabulary

/-!
# Database settings

How a database is reached: settings come from variables of their own or from one locator, and
`DatabaseSettings.url` and `DatabaseSettings.dsn` write them. `StoreDriver.chosen` says whether rows
are kept in memory or in a database; without any setting they are kept in memory.
-/

namespace BridgeState

set_option autoImplicit false

open Text

structure DatabaseSettings where
  host : String
  portNumber : Int
  database : String
  user : String
  password : String
  statementTimeout : Int
  sslMode : String
deriving Repr, DecidableEq

inductive StoreDriver where
  | memory
  | postgres
deriving Repr, DecidableEq

instance : Named StoreDriver where
  all := [.memory, .postgres]
  name
    | .memory => "memory"
    | .postgres => "psycopg2"

inductive SettingsFault where
  | url (fault : UrlFault)
  | numeral (problem : NumeralProblem)
  | unknownDriver (name : String)
deriving Repr, DecidableEq

def SettingsFault.message : SettingsFault → String
  | .url fault => fault.message
  | .numeral problem => problem.message
  | .unknownDriver name =>
    s!"Unknown ENTITYSTORE_DRIVER: {name}. Valid values: "
      ++ String.intercalate ", " (Named.names StoreDriver)

namespace DatabaseSettings

def standard : DatabaseSettings where
  host := "localhost"
  portNumber := 5432
  database := "bridge_indexer"
  user := "postgres"
  password := ""
  statementTimeout := 10000
  sslMode := "prefer"

def integerOf (name absent : String) (environment : Environment) : Except SettingsFault Int :=
  (readInteger (environment.getOr name absent)).mapError .numeral

def timeoutOf (environment : Environment) : Except SettingsFault Int :=
  integerOf "DATABASE_STATEMENT_TIMEOUT_MS" (toString standard.statementTimeout) environment

def ofEnvironment (environment : Environment) : Except SettingsFault DatabaseSettings := do
  let portNumber ← integerOf "DATABASE_PORT" (toString standard.portNumber) environment
  let statementTimeout ← timeoutOf environment
  return {
    host := environment.getOr "DATABASE_HOST" standard.host
    portNumber
    database := environment.getOr "DATABASE_NAME" standard.database
    user := environment.getOr "DATABASE_USER" standard.user
    password := environment.getOr "DATABASE_PASSWORD" standard.password
    statementTimeout
    sslMode := environment.getOr "DATABASE_SSL_MODE" standard.sslMode }

def orElse (text : Option (List Char)) (absent : String) : String :=
  match text with
  | some (first :: rest) => String.ofList (first :: rest)
  | _ => absent

/-- Settings from a locator; what it leaves out or empty is standard, and so is the number zero. -/
def ofUrl (environment : Environment) (text : String) : Except SettingsFault DatabaseSettings := do
  let url ← (Url.parse text.toList).mapError .url
  let portNumber ← url.portNumber?.mapError .url
  let statementTimeout ← timeoutOf environment
  return {
    host := orElse (some url.hostName) standard.host
    portNumber := match portNumber with
      | some (number + 1) => (number + 1 : Nat)
      | _ => standard.portNumber
    database := orElse (some (url.path.dropWhile (· == '/'))) standard.database
    user := orElse url.user? standard.user
    password := orElse url.password? standard.password
    statementTimeout
    sslMode := match Url.Query.first? "sslmode".toList url.query with
      | some mode => String.ofList mode
      | none => standard.sslMode }

def credentials (withPassword : Bool) (settings : DatabaseSettings) : String :=
  if withPassword && !settings.password.isEmpty then
    settings.user ++ ":" ++ String.ofList (Percent.encodeForm settings.password.toList) ++ "@"
  else settings.user ++ "@"

def url (withPassword : Bool) (settings : DatabaseSettings) : String :=
  s!"postgresql://{settings.credentials withPassword}{settings.host}:{settings.portNumber}/{settings.database}?sslmode={settings.sslMode}"

def dsn (settings : DatabaseSettings) : String :=
  s!"host={settings.host} port={settings.portNumber} dbname={settings.database} user={settings.user} password={settings.password} sslmode={settings.sslMode}"

def configuredUrl (environment : Environment) : Except SettingsFault (Option String) :=
  match environment.filled? "DATABASE_URL" with
  | some text => .ok (some text)
  | none =>
    match environment.filled? "DATABASE_HOST" with
    | some _ => (ofEnvironment environment).map fun settings => some (settings.url true)
    | none => .ok none

def configured (environment : Environment) : Except SettingsFault (Option DatabaseSettings) :=
  match environment.filled? "DATABASE_URL" with
  | some text => (ofUrl environment text).map some
  | none =>
    match environment.filled? "DATABASE_HOST" with
    | some _ => (ofEnvironment environment).map some
    | none => .ok none

end DatabaseSettings

/-- The driver that is named, or else the one that the settings of a database imply. -/
def StoreDriver.chosen (environment : Environment) : Except SettingsFault StoreDriver :=
  let name := lowerString (environment.getOr "ENTITYSTORE_DRIVER" "")
  if !name.isEmpty then
    match Named.ofName? name with
    | some driver => .ok driver
    | none => .error (.unknownDriver name)
  else (DatabaseSettings.configuredUrl environment).map fun url =>
    if url.isSome then .postgres else .memory

end BridgeState
