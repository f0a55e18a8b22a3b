import BridgeState.Log.Basic
import BridgeState.Text.Blank

/-!
# Log lines

An entry is written as one JSON object or as one line of text. In text, long hexadecimal values are
shown by their two ends.
-/

namespace BridgeState.Log

set_option autoImplicit false

structure Moment where
  time : String
  requestId : String

def loggerName (logger : String) : String :=
  if logger.isEmpty then "root" else logger

def exceptionText (exception : String × String) : String :=
  if exception.2.isEmpty then exception.1 else exception.1 ++ ": " ++ exception.2

def shownFields (entry : Entry) : List (Text × Cell) :=
  entry.fields.filter fun field => !isHidden field.1

def heading (moment : Moment) (entry : Entry) : Members :=
  let request : Members :=
    if moment.requestId.isEmpty then [] else [("request_id", .str moment.requestId)]
  let exception : Members := entry.exception.toList.map fun exception =>
    ("exception", .str (exceptionText exception))
  let own : Members :=
    [("timestamp", .str moment.time), ("level", .str (Named.name entry.level)),
     ("logger", .str (loggerName entry.logger)), ("message", .str entry.message)]
  own ++ request ++ exception

/-- A value in an object; one that is no JSON value is written as its text. -/
def written : Cell → Json
  | .plain value => value
  | .decimal value => .str value.text

/-- One object; a field of a name that is already there replaces its value. -/
def jsonLine (moment : Moment) (entry : Entry) : String :=
  (Json.obj (Json.insertAll (heading moment entry)
    ((shownFields entry).map fun field => (field.1, written field.2)))).render

def hexWidth : Nat := 18

def shortened : Cell → Text
  | .plain (.str text) =>
    let points := text.points
    if ("0x" : Text).points.isPrefixOf points && points.length > hexWidth then
      ⟨points.take 10⟩ ++ ".." ++ ⟨points.drop (points.length - 4)⟩
    else text
  | value => value.display

def requestMark (moment : Moment) : String :=
  if moment.requestId.isEmpty then ""
  else "[" ++ String.ofList (moment.requestId.toList.take 8) ++ "] "

def textLine (moment : Moment) (entry : Entry) : Text :=
  let fields := (shownFields entry).map fun field => " " ++ field.1 ++ "=" ++ shortened field.2
  let exception := match entry.exception with
    | some exception => "\n" ++ exceptionText exception
    | none => ""
  moment.time ++ " " ++ Text.padded 8 (Named.name entry.level) ++ " " ++ requestMark moment
    ++ loggerName entry.logger ++ ": " ++ entry.message ++ Text.concat fields ++ exception

def line (layout : Layout) (moment : Moment) (entry : Entry) : Text :=
  match layout with
  | .text => textLine moment entry
  | .json => jsonLine moment entry

end BridgeState.Log
