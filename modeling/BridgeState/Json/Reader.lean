import BridgeState.Json.Value
import BridgeState.Text.Digit
import BridgeState.Text.Numeral

/-!
# Reading JSON

`Json.read` accepts the JSON grammar together with the names `NaN`, `Infinity` and `-Infinity`.
A refusal says what was expected and how many code points stand before the place. Parsers work on
the text that is left, so a place is known by the length of its rest. Two things are refused apart
from the grammar: an integer of more than `Text.digitLimit` digits, as a number too long to convert,
and values nested deeper than `Json.nestingLimit`. A single surrogate is kept, whether it is written
as an escape or stands for itself; escapes of the two halves of a pair give one character.
-/

namespace BridgeState.Json

set_option autoImplicit false

open Text

inductive SyntaxFault where
  | expectingValue
  | expectingName
  | expectingColon
  | expectingComma
  | extraData
  | unterminatedString
  | controlCharacter
  | badEscape
  | badUnicodeEscape
  | byteOrderMark
deriving Repr, DecidableEq

def SyntaxFault.message : SyntaxFault → String
  | .expectingValue => "Expecting value"
  | .expectingName => "Expecting property name enclosed in double quotes"
  | .expectingColon => "Expecting ':' delimiter"
  | .expectingComma => "Expecting ',' delimiter"
  | .extraData => "Extra data"
  | .unterminatedString => "Unterminated string starting at"
  | .controlCharacter => "Invalid control character at"
  | .badEscape => "Invalid \\escape"
  | .badUnicodeEscape => "Invalid \\uXXXX escape"
  | .byteOrderMark => "Unexpected UTF-8 BOM (decode using utf-8-sig)"

inductive Container where
  | array
  | object
deriving Repr, DecidableEq

def Container.name : Container → String
  | .array => "array"
  | .object => "object"

inductive ReadProblem where
  | grammar (fault : SyntaxFault) (rest : List CodePoint)
  | integerTooLong (digits : Nat)
  | tooDeep (container : Container)
deriving Repr, DecidableEq

abbrev ReadResult (α : Type) : Type :=
  Except ReadProblem (α × List CodePoint)

def nestingLimit : Nat := 980

def isJsonSpace (point : CodePoint) : Bool :=
  point == .char ' ' || point == .char '\t' || point == .char '\n' || point == .char '\r'

def skipSpace (text : List CodePoint) : List CodePoint :=
  text.dropWhile isJsonSpace

def unitValue? (a b c d : CodePoint) : Option Nat := do
  let a ← a.char?.bind hexValue?
  let b ← b.char?.bind hexValue?
  let c ← c.char?.bind hexValue?
  let d ← d.char?.bind hexValue?
  return ((a * 16 + b) * 16 + c) * 16 + d

def unescaped? (letter : CodePoint) : Option Char :=
  match letter with
  | .char 'b' => some '\x08'
  | .char 'f' => some '\x0c'
  | .char 'n' => some '\n'
  | .char 'r' => some '\r'
  | .char 't' => some '\t'
  | .char c => if c == '\x22' || c == '\\' || c == '/' then some c else none
  | .surrogate _ => none

def lowEscape? : List CodePoint → Option Nat
  | .char '\\' :: .char 'u' :: a :: b :: c :: d :: _ =>
    (unitValue? a b c d).filter fun unit => 0xDC00 ≤ unit && unit < 0xE000
  | _ => none

/-- An escaped unit in front of what was read of `rest`; with the other half of its pair, whose
escape comes next, it is one character. -/
def joinUnit (unit : Nat) (rest read : List CodePoint) : List CodePoint :=
  match (if 0xD800 ≤ unit && unit < 0xDC00 then lowEscape? rest else none) with
  | some low => .char (Char.ofNat (0x10000 + (unit - 0xD800) * 0x400 + (low - 0xDC00))) :: read.drop 1
  | none => .ofCode unit :: read

/-- The code points of a string up to its closing quote; `start` is the text from its opening
quote. -/
def readPoints (start : List CodePoint) : List CodePoint → ReadResult (List CodePoint)
  | [] => .error (.grammar .unterminatedString start)
  | point :: rest =>
    if point == .char '\x22' then .ok ([], rest)
    else if point == .char '\\' then
      match rest with
      | [] => .error (.grammar .unterminatedString start)
      | .char 'u' :: a :: b :: c :: d :: more =>
        match unitValue? a b c d, more with
        | some unit, _ :: _ =>
          (readPoints start more).map fun read => (joinUnit unit more read.1, read.2)
        | _, _ => .error (.grammar .badUnicodeEscape rest)
      | letter :: more =>
        if letter == .char 'u' then .error (.grammar .badUnicodeEscape rest)
        else match unescaped? letter with
          | some plain =>
            (readPoints start more).map fun read => (.char plain :: read.1, read.2)
          | none => .error (.grammar .badEscape (point :: rest))
    else if point.code < 0x20 then .error (.grammar .controlCharacter (point :: rest))
    else (readPoints start rest).map fun read => (point :: read.1, read.2)

def readString (body : List CodePoint) : ReadResult Text :=
  (readPoints (.char '\x22' :: body) body).map fun read => (⟨read.1⟩, read.2)

def digit? (point : CodePoint) : Option Nat :=
  point.char?.bind asciiDigit?

def spanDigits (text : List CodePoint) : List Nat × List CodePoint :=
  ((text.takeWhile fun point => (digit? point).isSome).filterMap digit?,
    text.dropWhile fun point => (digit? point).isSome)

/-- The digits of an integer part: a zero alone, or digits that do not begin with zero. -/
def integerPart : List CodePoint → Option (List Nat × List CodePoint)
  | .char '0' :: rest => some ([0], rest)
  | text =>
    let (digits, rest) := spanDigits text
    if digits.isEmpty then none else some (digits, rest)

def fractionPart : List CodePoint → List Nat × List CodePoint
  | .char '.' :: rest =>
    let (digits, more) := spanDigits rest
    if digits.isEmpty then ([], .char '.' :: rest) else (digits, more)
  | text => ([], text)

/-- An optional sign: whether it is a minus, and what follows. -/
def exponentSign : List CodePoint → Bool × List CodePoint
  | .char '-' :: rest => (true, rest)
  | .char '+' :: rest => (false, rest)
  | text => (false, text)

def exponentPart (text : List CodePoint) : Option Int × List CodePoint :=
  match text with
  | mark :: rest =>
    if mark == .char 'e' || mark == .char 'E' then
      let (negative, body) := exponentSign rest
      let (digits, more) := spanDigits body
      if digits.isEmpty then (none, text) else (some (signed negative (decimalNumber digits)), more)
    else (none, text)
  | [] => (none, text)

def readNumber (negative : Bool) (text : List CodePoint) : Option (ReadResult Json) := do
  let (whole, rest) ← integerPart text
  let (fraction, rest) := fractionPart rest
  let (exponent, rest) := exponentPart rest
  if fraction.isEmpty && exponent.isNone then
    if whole.length > digitLimit then return .error (.integerTooLong whole.length)
    else return .ok (.int (signed negative (decimalNumber whole)), rest)
  else
    return .ok (.float (.ofDecimal negative (decimalNumber (whole ++ fraction))
      (exponent.getD 0 - fraction.length)), rest)

def words : List (Text × Json) :=
  [("null", .null), ("true", .bool true), ("false", .bool false), ("NaN", .float .undefined),
   ("Infinity", .float (.infinite false)), ("-Infinity", .float (.infinite true))]

def readWord (text : List CodePoint) : Option (Json × List CodePoint) :=
  words.findSome? fun (word, value) =>
    if word.points.isPrefixOf text then some (value, text.drop word.points.length) else none

def readScalar (text : List CodePoint) : ReadResult Json :=
  match readWord text with
  | some read => .ok read
  | none =>
    let number := match text with
      | .char '-' :: rest => readNumber true rest
      | _ => readNumber false text
    number.getD (.error (.grammar .expectingValue text))

mutual

/-- The value that begins the text, in which `depth` more containers may be opened. `fuel` bounds the
steps. -/
def readValue (fuel depth : Nat) (text : List CodePoint) : ReadResult Json :=
  match fuel, text with
  | 0, _ => .error (.grammar .expectingValue text)
  | _, [] => .error (.grammar .expectingValue text)
  | fuel + 1, point :: rest =>
    if point == .char '\x22' then (readString rest).map fun read => (.str read.1, read.2)
    else if point == .char '[' then
      if depth = 0 then .error (.tooDeep .array)
      else match skipSpace rest with
      | .char ']' :: more => .ok (.arr [], more)
      | body => (readItems fuel (depth - 1) body).map fun read => (.arr read.1, read.2)
    else if point == .char '\x7b' then
      if depth = 0 then .error (.tooDeep .object)
      else match skipSpace rest with
      | .char '\x7d' :: more => .ok (.obj [], more)
      | body => (readMembers fuel (depth - 1) [] body).map fun read => (.obj read.1, read.2)
    else readScalar (point :: rest)

/-- The items of an array, the first of which begins here. -/
def readItems (fuel depth : Nat) (text : List CodePoint) : ReadResult (List Json) :=
  match fuel with
  | 0 => .error (.grammar .expectingValue text)
  | fuel + 1 =>
    match readValue fuel depth text with
    | .error problem => .error problem
    | .ok (item, rest) =>
      match skipSpace rest with
      | .char ']' :: more => .ok ([item], more)
      | .char ',' :: more =>
        (readItems fuel depth (skipSpace more)).map fun read => (item :: read.1, read.2)
      | other => .error (.grammar .expectingComma other)

def readMembers (fuel depth : Nat) (known : Members) (text : List CodePoint) :
    ReadResult Members :=
  match fuel, text with
  | 0, _ => .error (.grammar .expectingName text)
  | _, [] => .error (.grammar .expectingName text)
  | fuel + 1, point :: body =>
    if point != .char '\x22' then .error (.grammar .expectingName text)
    else match readString body with
    | .error problem => .error problem
    | .ok (name, rest) =>
      match skipSpace rest with
      | .char ':' :: more =>
        match readValue fuel depth (skipSpace more) with
        | .error problem => .error problem
        | .ok (value, rest) =>
          let members := insert name value known
          match skipSpace rest with
          | .char '\x7d' :: more => .ok (members, more)
          | .char ',' :: more => readMembers fuel depth members (skipSpace more)
          | other => .error (.grammar .expectingComma other)
      | other => .error (.grammar .expectingColon other)

end

/-- Reads a whole text as one value in which that many containers may be open at once. Every step
consumes a code point, so the text's length bounds the steps. -/
def readWithin (depth : Nat) (text : Text) : Except ReadProblem Json :=
  match readValue (2 * text.points.length + 2) depth (skipSpace text.points) with
  | .error problem => .error problem
  | .ok (value, rest) =>
    match skipSpace rest with
    | [] => .ok value
    | other => .error (.grammar .extraData other)

/-- Reads a text in front of which no byte order mark may stand. -/
def read (text : Text) : Except ReadProblem Json :=
  if text.points.head? == some (.char '\ufeff') then
    .error (.grammar .byteOrderMark text.points)
  else readWithin nestingLimit text

/-- How many code points of the text stand before the fault. -/
def ReadProblem.position (text : Text) : ReadProblem → Nat
  | .grammar _ rest => text.points.length - rest.length
  | .integerTooLong _ => 0
  | .tooDeep _ => 0

def ReadProblem.reason : ReadProblem → String
  | .grammar fault _ => fault.message
  | .integerTooLong digits => (NumeralProblem.tooLong digits).message
  | .tooDeep container =>
    s!"maximum recursion depth exceeded while decoding a JSON {container.name} from a unicode string"

/-- The text of a refusal together with its place: line, column and character. -/
def ReadProblem.message (text : Text) (problem : ReadProblem) : String :=
  match problem with
  | .grammar fault _ =>
    let before := text.points.take (problem.position text)
    let line := before.count (.char '\n') + 1
    let column := (before.reverse.takeWhile (· != .char '\n')).length + 1
    s!"{fault.message}: line {line} column {column} (char {before.length})"
  | other => other.reason

end BridgeState.Json
