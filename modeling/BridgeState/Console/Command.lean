import BridgeState.Console.Arguments
import BridgeState.Console.Selection
import BridgeState.Json.Value
import BridgeState.Store.Table
import BridgeState.Text.Numeral

/-!
# Commands

What the program can be asked to do. The command's name is the first plain argument; the arguments
behind it are read by the form of that command.
-/

namespace BridgeState.Console

set_option autoImplicit false

open Text

inductive Command where
  | replay (file : String)
  | deriveId (salt : String) (block : Json)
  | initSchema
  | list (collection : String) (selection : Selection)
  | healthCheck

def integer? (text : String) : Option Int :=
  match readInteger text with
  | .ok value => some value
  | .error _ => none

/-- A whole number, or an empty list where the text was lost. -/
def integerOrLost : Option String → Option Json
  | some text => (integer? text).map Json.int
  | none => some (.arr [])

def replayForm : Form String where
  options := helpOptions String
  positionals := [id]

inductive DerivePart where
  | salt (value : String)
  | block (value : Json)

def deriveForm : Form DerivePart where
  options := helpOptions DerivePart
  positionals := [Option.map .salt, fun text => (integerOrLost text).map .block]

def optionValue {α : Type} (read : String → Option α) : Option String → Option (OptionValue α)
  | some text => (read text).map .given
  | none => some .lost

inductive ListPart where
  | collection (name : String)
  | status (value : OptionValue String)
  | since (value : OptionValue Int)
  | limit (value : OptionValue Int)
  | offset (value : OptionValue Int)

def listForm : Form ListPart where
  options := helpOptions ListPart ++
    [("--status", .value fun text => (optionValue some text).map .status),
     ("--since-block", .value fun text => (optionValue integer? text).map .since),
     ("--limit", .value fun text => (optionValue integer? text).map .limit),
     ("--offset", .value fun text => (optionValue integer? text).map .offset)]
  positionals := [Option.map .collection]

def plainForm : Form Unit where
  options := helpOptions Unit
  positionals := []

def deriveCommand (parts : List DerivePart) : Command :=
  parts.foldl (fun command part =>
    match command, part with
    | .deriveId _ block, .salt value => .deriveId value block
    | .deriveId salt _, .block value => .deriveId salt value
    | other, _ => other) (.deriveId "" .null)

def listCommand (parts : List ListPart) : Command :=
  let (collection, selection) := parts.foldl (fun (collection, selection) part =>
    match part with
    | .collection name => (name, selection)
    | .status value => (collection, { selection with status := some value })
    | .since value => (collection, { selection with since := some value })
    | .limit value => (collection, { selection with limit := value })
    | .offset value => (collection, { selection with offset := value }))
    ("", Selection.ofQuery Query.standard)
  .list collection selection

def readCommand (name : String) (arguments : List String) : Except Usage Command :=
  match name with
  | "replay" => (replayForm.read arguments).map fun parts => .replay (parts.head?.getD "")
  | "derive-id" => (deriveForm.read arguments).map deriveCommand
  | "init-schema" => (plainForm.read arguments).map fun _ => .initSchema
  | "show" => (listForm.read arguments).map listCommand
  | "health-check" => (plainForm.read arguments).map fun _ => .healthCheck
  | _ => .error .wrong

/-- All arguments of the program; without a command there is nothing to do. Options that are not
known here are wrong, but not before the command had its say. -/
def readArguments (extra : Bool) : List String → Except Usage (Option Command)
  | [] => if extra then .error .wrong else .ok none
  | argument :: rest =>
    if argument == "--" then .error .wrong
    else do
      match ← classify (helpOptions Unit) argument with
      | .plain name =>
        let command ← readCommand name rest
        if extra then throw .wrong
        return some command
      | .option _ attached => throw (helpUsage attached)
      | _ => readArguments true rest

def Command.ofArguments (arguments : List String) : Except Usage (Option Command) :=
  readArguments false arguments

end BridgeState.Console
