import BridgeState.Json.Writer
import BridgeState.Settings.Database
import BridgeState.Text.Charset

/-!
# Settings as given

The settings of a database may be given by name, each as a value of any kind. They are kept and written
as they are; a name must be that of a setting, and only a text that has bytes in UTF-8 can be the
password of a locator. Settings that were read are written alike: `url_given`, `dsn_given`.
-/

namespace BridgeState

set_option autoImplicit false

open Text

structure GivenSettings where
  host : Json
  portNumber : Json
  database : Json
  user : Json
  password : Json
  statementTimeout : Json
  sslMode : Json

inductive GivenFault where
  | unknownName (name : Text)
  | takenName
  | password
  | unencodable (cause : Unencodable)
deriving Repr, DecidableEq

def GivenFault.message : GivenFault → Text
  | .unknownName name =>
    "DatabaseConfig.__init__() got an unexpected keyword argument '" ++ name ++ "'"
  | .takenName => "DatabaseConfig.__init__() got multiple values for argument 'self'"
  | .password => "quote_from_bytes() expected bytes"
  | .unencodable cause => cause.message

def DatabaseSettings.given (settings : DatabaseSettings) : GivenSettings where
  host := .string settings.host
  portNumber := .int settings.portNumber
  database := .string settings.database
  user := .string settings.user
  password := .string settings.password
  statementTimeout := .int settings.statementTimeout
  sslMode := .string settings.sslMode

namespace GivenSettings

/-- The settings with one of them set by its name, if there is one of that name. -/
def set? (name : Text) (value : Json) (settings : GivenSettings) : Option GivenSettings :=
  if name == "host" then some { settings with host := value }
  else if name == "port" then some { settings with portNumber := value }
  else if name == "database" then some { settings with database := value }
  else if name == "user" then some { settings with user := value }
  else if name == "password" then some { settings with password := value }
  else if name == "statement_timeout_ms" then some { settings with statementTimeout := value }
  else if name == "ssl_mode" then some { settings with sslMode := value }
  else none

/-- Why nothing can be set by a name: the settings themselves go by one, and others mean nothing. -/
def nameFault (name : Text) : GivenFault :=
  if name == "self" then .takenName else .unknownName name

def ofMembers (members : Members) : Except GivenFault GivenSettings :=
  members.foldlM (fun settings member =>
    match settings.set? member.1 member.2 with
    | some settings => .ok settings
    | none => .error (nameFault member.1)) DatabaseSettings.standard.given

def toJson (settings : GivenSettings) : Json :=
  .obj [("host", settings.host), ("port", settings.portNumber), ("database", settings.database),
    ("user", settings.user), ("password", settings.password),
    ("statement_timeout_ms", settings.statementTimeout), ("ssl_mode", settings.sslMode)]

def credentials (withPassword : Bool) (settings : GivenSettings) : Except GivenFault Text :=
  let user := settings.user.display
  if withPassword && settings.password.isSomething then
    match settings.password with
    | .str password =>
      match Charset.utf8.refusal? password with
      | some cause => .error (.unencodable cause)
      | none => .ok (user ++ ":" ++ ofChars (Percent.encodeForm password.shownChars) ++ "@")
    | _ => .error .password
  else .ok (user ++ "@")

def url (withPassword : Bool) (settings : GivenSettings) : Except GivenFault Text :=
  (settings.credentials withPassword).map fun credentials =>
    "postgresql://" ++ credentials ++ settings.host.display ++ ":" ++ settings.portNumber.display
      ++ "/" ++ settings.database.display ++ "?sslmode=" ++ settings.sslMode.display

def dsn (settings : GivenSettings) : Text :=
  "host=" ++ settings.host.display ++ " port=" ++ settings.portNumber.display
    ++ " dbname=" ++ settings.database.display ++ " user=" ++ settings.user.display
    ++ " password=" ++ settings.password.display ++ " sslmode=" ++ settings.sslMode.display

theorem credentials_given (withPassword : Bool) (settings : DatabaseSettings) :
    settings.given.credentials withPassword = .ok (settings.credentials withPassword) := by
  have password : settings.given.password.isSomething = !settings.password.isEmpty :=
    congrArg Bool.not (isEmpty_ofString settings.password)
  unfold credentials DatabaseSettings.credentials
  rw [password]
  split
  · simp only [DatabaseSettings.given, Json.string, Json.display, shownChars_ofString,
      Charset.refusal?_utf8_ofString, ofString_append, ofString_ofList]
  · simp only [DatabaseSettings.given, Json.string, Json.display, ofString_append]

theorem dsn_given (settings : DatabaseSettings) : settings.given.dsn = settings.dsn := by
  unfold dsn DatabaseSettings.dsn
  simp only [DatabaseSettings.given, Json.string, Json.display, Json.literal, ofString_append]
  rfl

theorem url_given (withPassword : Bool) (settings : DatabaseSettings) :
    settings.given.url withPassword = .ok (settings.url withPassword) := by
  unfold url DatabaseSettings.url
  rw [credentials_given]
  refine congrArg Except.ok ?_
  simp only [DatabaseSettings.given, Json.string, Json.display, Json.literal, ofString_append]
  rfl

end GivenSettings

end BridgeState
