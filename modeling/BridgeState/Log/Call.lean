import BridgeState.Log.Line

/-!
# Logging calls

A call gives a message and fields, a value full of fields at once or each field by its name. A few
names do not name a field but say how to log, and one gives the value full of fields; what a call is
given in any case cannot be given by name again. A call below its logger's threshold does nothing; of
another one the fields are put together first, and only then the entry is made, which must not name a
field as what every entry has.
-/

namespace BridgeState.Log

set_option autoImplicit false

structure Call where
  level : Level
  logger : String
  message : String
  exception : Option (String × String)
  /-- Fields given at once. -/
  extra : Option Members
  /-- Fields given by name, each name once. -/
  named : List (Text × Cell)

inductive Fault where
  | occupied (name : Text)
  | takenItem (item : String)
  | repeated (method argument : String)
  | notAssignable (kindName : String)
  | notIterable (kindName : String)
  | listIndex (kindName : String)
  | listRange
  | textIndex
  | unhashable (kindName : String)
  | notComparable (kindName : String)
  | hugeIndex
  | decimal (fault : DecimalFault)
deriving Repr, DecidableEq

def Fault.message : Fault → Text
  | .occupied name => "Attempt to overwrite '" ++ name ++ "' in LogRecord"
  | .takenItem item => s!"Attempt to overwrite {item} in LogRecord"
  | .repeated method argument =>
    s!"LoggerAdapter.{method}() got multiple values for argument '{argument}'"
  | .notAssignable kindName => s!"'{kindName}' object does not support item assignment"
  | .notIterable kindName => s!"'{kindName}' object is not iterable"
  | .listIndex kindName => s!"list indices must be integers or slices, not {kindName}"
  | .listRange => "list index out of range"
  | .textIndex => "string indices must be integers, not 'str'"
  | .unhashable kindName => s!"unhashable type: '{kindName}'"
  | .notComparable kindName => s!"'>' not supported between instances of '{kindName}' and 'int'"
  | .hugeIndex => "cannot fit 'int' into an index-sized integer"
  | .decimal fault => fault.message

def directives : List Text :=
  ["exc_info", "stack_info", "stacklevel", "extra"]

def asks : Cell → Bool
  | .plain value => value.isSomething
  | .decimal value => !value.isZero

def metKind : Cell → String
  | .plain value => value.kindName
  | .decimal _ => "decimal.Decimal"

def isNumber : Cell → Bool
  | .plain (.bool _) => true
  | .plain (.int _) => true
  | .plain (.float _) => true
  | .plain _ => false
  | .decimal _ => true

/-- What is shown where the exception at hand is asked for and there is none. -/
def noException : String × String :=
  ("NoneType: None", "")

inductive Given where
  | fields (fields : List (Text × Cell))
  | other (value : Cell)

/-- Puts fields into a value that was given at once; only an object takes any. -/
def give (value : Cell) (fields : List (Text × Cell)) : Except Fault Given :=
  match value, fields with
  | .plain (.obj members), fields =>
    .ok (.fields (Json.insertAll (members.map fun field => (field.1, .plain field.2)) fields))
  | other, [] => .ok (.other other)
  | .plain (.arr _), _ => .error (.listIndex "str")
  | other, _ => .error (.notAssignable (metKind other))

/-- What is wrong with an item of a list that stands where fields should be, taken for the name of a
field in a list of that length. -/
def itemFault? (length : Nat) : Json → Option Fault
  | .str name => some (if occupiedNames.contains name then .occupied name else .listIndex "str")
  | .int index =>
    if !Json.fitsWord index then some .hugeIndex
    else if -(length : Int) ≤ index ∧ index < length then none
    else some .listRange
  | .bool value => if (if value then 1 else 0) < length then none else some .listRange
  | .arr items => some (.unhashable (Json.arr items).kindName)
  | .obj members => some (.unhashable (Json.obj members).kindName)
  | other => some (.listIndex other.kindName)

/-- The number that an item is as the name of a field. -/
def itemNumber? : Json → Option Int
  | .float value => value.toInt?
  | other => other.integer?

/-- What is wrong with the first bad item of a list; a number must not be named twice. -/
def itemsFault? (length : Nat) (named : List Int) : List Json → Option Fault
  | [] => none
  | item :: rest =>
    let number := itemNumber? item
    if number.any named.contains then some (.takenItem item.literal)
    else itemFault? length item <|> itemsFault? length (number.toList ++ named) rest

def givenFields : Given → Except Fault (List (Text × Cell))
  | .fields fields =>
    match fields.find? fun field => occupiedNames.contains field.1 with
    | some field => .error (.occupied field.1)
    | none => .ok fields
  | .other (.plain .null) => .ok []
  | .other (.plain (.str text)) => if text.isEmpty then .ok [] else .error .textIndex
  | .other (.plain (.arr items)) =>
    match itemsFault? items.length [] items with
    | some fault => .error fault
    | none => .ok []
  | .other other => .error (.notIterable (metKind other))

namespace Call

def method (call : Call) : String :=
  match call.level with
  | .debug => "debug"
  | .info => "info"
  | .warning => "warning"
  | .error => "error"
  | .critical => "critical"

def givenArguments : List String :=
  ["self", "msg"]

def repeated? (call : Call) : Option Fault :=
  let names := call.named.map Prod.fst
  let given := names.findSome? fun name : Text =>
    givenArguments.find? fun argument : String => name == Text.ofString argument
  match given with
  | some argument => some (.repeated call.method argument)
  | none => if names.contains "level" then some (.repeated "log" "level") else none

/-- The exception of the entry: one that is given, or none at hand. -/
def shownException (call : Call) : Option (String × String) :=
  if call.exception.isSome then call.exception
  else if (Json.lookup "exc_info" call.named).any asks then some noException
  else none

def fieldsAtOnce (call : Call) : Cell :=
  match call.extra with
  | some members => .plain (.obj members)
  | none => (Json.lookup "extra" call.named).getD (.plain (.obj []))

def ownFields (call : Call) : List (Text × Cell) :=
  call.named.filter fun field => !directives.contains field.1

/-- The level of the stack that the call names must be a number that can be counted down. -/
def stackFault? (call : Call) : Option Fault :=
  match Json.lookup "stacklevel" call.named with
  | some (.decimal value) => value.countdownFault?.map .decimal
  | some value => if isNumber value then none else some (.notComparable (metKind value))
  | none => none

def entry (call : Call) : Except Fault Entry := do
  let given ← give call.fieldsAtOnce call.ownFields
  if let some fault := call.stackFault? then throw fault
  return {
    level := call.level
    logger := call.logger
    message := call.message
    exception := call.shownException
    fields := ← givenFields given }

def write (settings : Settings) (moment : Moment) (call : Call) : Except Fault (Option Text) := do
  if let some fault := call.repeated? then throw fault
  if call.level.weight < (threshold settings call.logger).weight then return none
  let entry ← call.entry
  if call.level.weight < settings.level.weight then return none
  return some (line settings.layout moment entry ++ "\n")

end Call

end BridgeState.Log
