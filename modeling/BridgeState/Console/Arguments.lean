import BridgeState.Text.Digit
import BridgeState.Text.Split

/-!
# Arguments

How a list of arguments is read against a form. An argument that begins with a dash is an option: it
may be cut short as long as one option alone begins so, and carries a value behind an equals sign or
in the argument after it. A negative number, a text with a space and whatever follows two dashes are
plain arguments. All arguments are told apart before any is used; then values are read in order, so
that the first thing wrong, or the first request for help, ends the reading.
-/

namespace BridgeState.Console

set_option autoImplicit false

open Text

inductive Usage where
  | help
  | wrong
deriving Repr, DecidableEq

def Usage.exitCode : Usage → Nat
  | .help => 0
  | .wrong => 2

/-- What an option does: ask for help, or set something to a value that can be read. A value that is
itself two dashes may be lost; it is then read as nothing. -/
inductive Meaning (κ : Type) where
  | help
  | value (read : Option String → Option κ)

structure Attached where
  text : List Char
  short : Bool

structure Form (κ : Type) where
  options : List (String × Meaning κ)
  positionals : List (Option String → Option κ)

inductive Token (κ : Type) where
  | plain (text : String)
  | separator
  | unknown
  | option (meaning : Meaning κ) (attached : Option Attached)

def isShort (name : List Char) : Bool :=
  !(['-', '-'].isPrefixOf name)

def helpOptions (κ : Type) : List (String × Meaning κ) :=
  [("-h", .help), ("--help", .help)]

def isDigitText (text : List Char) : Bool :=
  text.all fun c => (decimalValue? c).isSome

/-- A minus sign and a decimal number; one line end may follow. -/
def isNegativeNumber (text : List Char) : Bool :=
  match text with
  | '-' :: rest =>
    let body := if rest.getLast? == some '\n' then rest.dropLast else rest
    match cut '.' body with
    | (whole, none) => !whole.isEmpty && isDigitText whole
    | (whole, some fraction) => isDigitText whole && !fraction.isEmpty && isDigitText fraction
  | _ => false

section Classify

variable {κ : Type}

def optionNamed (options : List (String × Meaning κ)) (name : List Char) : Option (Meaning κ) :=
  (options.find? fun entry => entry.1.toList == name).map Prod.snd

def candidates (options : List (String × Meaning κ)) (text : List Char) : List (Token κ) :=
  match text with
  | '-' :: '-' :: _ =>
    let (name, value) := cut '=' text
    let attached := value.map fun value => Attached.mk value false
    (options.filter fun entry => name.isPrefixOf entry.1.toList).map fun entry =>
      .option entry.2 attached
  | _ =>
    options.filterMap fun entry =>
      if entry.1.toList == text.take 2 then some (.option entry.2 (some ⟨text.drop 2, true⟩))
      else if text.isPrefixOf entry.1.toList then some (.option entry.2 none)
      else none

def classify (options : List (String × Meaning κ)) (argument : String) : Except Usage (Token κ) :=
  let text := argument.toList
  if text.head? != some '-' then .ok (.plain argument)
  else match optionNamed options text with
  | some meaning => .ok (.option meaning none)
  | none =>
    if text.length == 1 then .ok (.plain argument)
    else
      let (name, value) := cut '=' text
      match value, optionNamed options name with
      | some value, some meaning => .ok (.option meaning (some ⟨value, isShort name⟩))
      | _, _ =>
        match candidates options text with
        | [token] => .ok token
        | _ :: _ :: _ => .error .wrong
        | [] =>
          if isNegativeNumber text || text.contains ' ' then .ok (.plain argument)
          else .ok .unknown

def tokens (options : List (String × Meaning κ)) : List String → Except Usage (List (Token κ))
  | [] => .ok []
  | argument :: rest =>
    if argument == "--" then .ok (.separator :: rest.map .plain)
    else do
      let token ← classify options argument
      return token :: (← tokens options rest)

end Classify

/-- How help ends that may have something attached. A letter may be asked for several times at once, so
more of the same may follow it, and nothing else. -/
def helpUsage : Option Attached → Usage
  | none => .help
  | some attached =>
    if attached.short && !attached.text.isEmpty && attached.text.all (· == 'h') then .help
    else .wrong

/-- Where reading stands: the readers left, whether a plain argument was just read, and whether two
dashes stand before the next one. -/
structure Reading (κ : Type) where
  readers : List (Option String → Option κ)
  inRun : Bool
  led : Bool
  /-- Arguments were found that belong nowhere. -/
  extra : Bool

section Collect

variable {κ : Type}

def startsPlain : List (Token κ) → Bool
  | .plain _ :: _ => true
  | _ => false

/-- The value of an argument: two dashes count only behind two dashes of their own. -/
def plainValue (led : Bool) (text : String) : Option String :=
  if text == "--" && !led then none else some text

/-- Reads all values in order. Whatever is left over or missing is wrong. -/
def collect (reading : Reading κ) : List (Token κ) → Except Usage (List κ)
  | [] => if reading.extra || !reading.readers.isEmpty then .error .wrong else .ok []
  | .plain text :: rest =>
    match reading.readers with
    | [] => collect { reading with inRun := false, led := false, extra := true } rest
    | read :: readers =>
      match read (plainValue reading.led text) with
      | none => .error .wrong
      | some value => do
        let values ← collect { reading with readers, inRun := true, led := false } rest
        return value :: values
  | .separator :: rest =>
    if reading.inRun then collect { reading with inRun := false } rest
    else if !reading.readers.isEmpty && startsPlain rest then
      collect { reading with led := true } rest
    else collect { reading with extra := true } rest
  | .unknown :: rest => collect { reading with inRun := false, extra := true } rest
  | .option .help attached :: _ => .error (helpUsage attached)
  | .option (.value read) (some attached) :: rest =>
    match read (plainValue false (String.ofList attached.text)) with
    | none => .error .wrong
    | some value => do
      let values ← collect { reading with inRun := false } rest
      return value :: values
  | .option (.value read) none :: .plain text :: rest =>
    match read (some text) with
    | none => .error .wrong
    | some value => do
      let values ← collect { reading with inRun := false } rest
      return value :: values
  | .option (.value _) none :: _ => .error .wrong

def Form.read (form : Form κ) (arguments : List String) : Except Usage (List κ) := do
  collect ⟨form.positionals, false, false, false⟩ (← tokens form.options arguments)

end Collect

end BridgeState.Console
