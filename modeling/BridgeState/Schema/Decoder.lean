import BridgeState.Json.Value
import BridgeState.Schema.Checked
import BridgeState.Text.Whole
import BridgeState.Vocabulary

/-!
# Decoding fields

A `Decoder` checks one JSON value. Numbers may arrive as integers, as doubles without a fraction, as
booleans or as numerals in text; ids and addresses are brought into normal form; words of a
vocabulary must be written exactly. `required` and `optional` apply a decoder to a named member of
an object.
-/

namespace BridgeState

set_option autoImplicit false

abbrev Decoder (α : Type) : Type :=
  Json → Checked α

namespace Decoder

open Text

/-- Doubles at or beyond this magnitude are not taken for integers. -/
def wordLimit : Int := Int.pow 2 63

def wholeDouble (value : Binary64) : Except Fault Int :=
  match value with
  | .finite negative mantissa exponent =>
    match Binary64.toInt? (.finite negative mantissa exponent) with
    | none => .error .notWhole
    | some value =>
      if -wordLimit < value ∧ value < wordLimit then .ok value else .error .numeralTooLong
  | _ => .error .notFinite

def wholeText (text : Text) : Except Fault Int :=
  match text.toString? with
  | none => .error .notUnicode
  | some string =>
    match readWhole string with
    | .ok value => .ok value
    | .error .malformed => .error .notNumeral
    | .error .tooLong => .error .numeralTooLong

def wholeValue : Json → Except Fault Int
  | .int value => .ok value
  | .bool value => .ok (if value then 1 else 0)
  | .float value => wholeDouble value
  | .str text => wholeText text
  | _ => .error .notInteger

def ofRule {α : Type} (rule : Json → Except Fault α) : Decoder α := fun json =>
  match rule json with
  | .ok value => .valid value
  | .error fault => .fail fault json

def integer : Decoder Int :=
  ofRule wholeValue

def atLeast (least : Int) : Decoder Int := fun json =>
  (integer json).andThen fun value =>
    if value < least then .fail (.belowMinimum least) json else .valid value

def natural : Decoder Nat := fun json =>
  (atLeast 0 json).map Int.toNat

def string : Decoder Text
  | .str text => .valid text
  | other => .fail .notString other

def hex : Decoder HexString := fun json =>
  (string json).andThen fun text =>
    match HexString.normalize text with
    | .ok value => .valid value
    | .error fault => .fail (.badHex fault) json

def nullable {α : Type} (decoder : Decoder α) : Decoder (Option α)
  | .null => .valid none
  | json => (decoder json).map some

def itemsFrom {α : Type} (decoder : Decoder α) : Nat → List Json → Checked (List α)
  | _, [] => .valid []
  | index, item :: rest =>
    List.cons <$> (decoder item).under (.item index) <*> itemsFrom decoder (index + 1) rest

def list {α : Type} (decoder : Decoder α) : Decoder (List α)
  | .arr items => itemsFrom decoder 0 items
  | other => .fail .notList other

def namedWord (α : Type) [Named α] (text : Text) : Except Fault α :=
  match text.toString? with
  | none => .error .notUnicode
  | some name =>
    match Named.ofName? name with
    | some value => .ok value
    | none => .error (.notAmong (Named.names α))

def word (α : Type) [Named α] : Decoder α :=
  ofRule fun json =>
    match json with
    | .str text => namedWord α text
    | _ => .error (.notAmong (Named.names α))

def booleanWord? (text : String) : Option Bool :=
  let small := text.map Char.toLower
  if ["1", "true", "t", "yes", "y", "on"].contains small then some true
  else if ["0", "false", "f", "no", "n", "off"].contains small then some false
  else none

def booleanNumber (number : Int) : Except Fault Bool :=
  if number = 1 then .ok true else if number = 0 then .ok false else .error .badBoolean

/-- Integers of a machine word, and doubles strictly within its range, are looked at as numbers. -/
def booleanValue : Json → Except Fault Bool
  | .bool value => .ok value
  | .int value =>
    if -wordLimit ≤ value ∧ value < wordLimit then booleanNumber value else .error .notBoolean
  | .float value =>
    match wholeDouble value with
    | .ok number => booleanNumber number
    | .error _ => .error .notBoolean
  | .str text =>
    match text.toString? with
    | none => .error .notUnicode
    | some string =>
      match booleanWord? string with
      | some value => .ok value
      | none => .error .badBoolean
  | _ => .error .notBoolean

def boolean : Decoder Bool :=
  ofRule booleanValue

end Decoder

def required {α : Type} (name : String) (decoder : Decoder α) (members : Members) : Checked α :=
  match Json.lookup name members with
  | some value => (decoder value).under (.field name)
  | none => (Checked.fail .missing (.obj members)).under (.field name)

/-- A member that has a value of its own where it is absent. -/
def optional {α : Type} (name : String) (absent : α) (decoder : Decoder α) (members : Members) :
    Checked α :=
  match Json.lookup name members with
  | some value => (decoder value).under (.field name)
  | none => .valid absent

end BridgeState
