import BridgeState.Cell
import BridgeState.Settings.Environment
import BridgeState.Text.LetterCase
import BridgeState.Vocabulary

/-!
# Log entries

An entry has a level, the name of its logger, a message and fields. The settings decide which entries
are written: an entry passes its logger's threshold and then the general one. Some names belong to
every entry and cannot name a field.
-/

namespace BridgeState.Log

set_option autoImplicit false

open Text

inductive Level where
  | debug
  | info
  | warning
  | error
  | critical
deriving Repr, DecidableEq

instance : Named Level where
  all := [.debug, .info, .warning, .error, .critical]
  name
    | .debug => "DEBUG"
    | .info => "INFO"
    | .warning => "WARNING"
    | .error => "ERROR"
    | .critical => "CRITICAL"

def Level.weight : Level → Nat
  | .debug => 10
  | .info => 20
  | .warning => 30
  | .error => 40
  | .critical => 50

inductive Layout where
  | text
  | json
deriving Repr, DecidableEq

structure Entry where
  level : Level
  /-- The logger's name; the root logger has none. -/
  logger : String
  message : String
  /-- The name and text of an exception that the entry is about. -/
  exception : Option (String × String)
  fields : List (Text × Cell)

def occupiedNames : List Text :=
  ["name", "msg", "args", "levelname", "levelno", "pathname", "filename", "module", "exc_info",
   "exc_text", "stack_info", "lineno", "funcName", "created", "msecs", "relativeCreated", "thread",
   "threadName", "processName", "process", "message", "asctime"]

def isHidden (name : Text) : Bool :=
  name == "taskName" || name.points.head? == some (.char '_')

structure Settings where
  level : Level
  layout : Layout
deriving Repr, DecidableEq

namespace Settings

def isProduction (environment : Environment) : Bool :=
  ["1", "true", "yes"].contains
    (lowerString (environment.getOr "BRIDGE_INDEXER_PRODUCTION" ""))

/-- The level that is named, in any letter case; a name that is no level means `info`. -/
def levelOf (environment : Environment) : Level :=
  (Named.ofName? (asciiUpperString (environment.getOr "BRIDGE_INDEXER_LOG_LEVEL" ""))).getD .info

/-- The layout that is named, or else the one that suits the mode. -/
def layoutOf (environment : Environment) : Layout :=
  match lowerString (environment.getOr "BRIDGE_INDEXER_LOG_FORMAT" "") with
  | "json" => .json
  | "text" => .text
  | _ => if isProduction environment then .json else .text

def ofEnvironment (environment : Environment) : Settings :=
  ⟨levelOf environment, layoutOf environment⟩

end Settings

def noisyLoggers : List String :=
  ["uvicorn.access", "httpx"]

def isWithin (ancestor logger : String) : Bool :=
  logger == ancestor || (ancestor ++ ".").toList.isPrefixOf logger.toList

def threshold (settings : Settings) (logger : String) : Level :=
  if noisyLoggers.any fun noisy => isWithin noisy logger then .warning else settings.level

end BridgeState.Log
