import BridgeState.Cell
import BridgeState.Hex

/-!
# What can be wrong with a field

Each fault is a cause; `code` is its short name and `message` its text. A `Complaint` is a fault
with the path that leads to it, names of fields and positions in lists, and with the value that was
found there.
-/

namespace BridgeState

set_option autoImplicit false

inductive Fault where
  | missing
  | notInteger
  | notNumeral
  | numeralTooLong
  | notFinite
  | notWhole
  | belowMinimum (least : Int)
  | aboveMaximum (greatest : Int)
  | notString
  | notUnicode
  | badHex (fault : HexFault)
  | notList
  | tooFewItems (least got : Nat)
  | notAmong (names : List String)
  | notBoolean
  | badBoolean
  | notRecord (name : String)
  | noTag
  | unknownTag (given : String) (expected : List String)
  | notObject
  | notFields
  | badJson
deriving Repr, DecidableEq

def alternatives : List String → String
  | [] => ""
  | [only] => only
  | [first, last] => first ++ " or " ++ last
  | first :: rest => first ++ ", " ++ alternatives rest

namespace Fault

def code : Fault → String
  | .missing => "missing"
  | .notInteger => "int_type"
  | .notNumeral => "int_parsing"
  | .numeralTooLong => "int_parsing_size"
  | .notFinite => "finite_number"
  | .notWhole => "int_from_float"
  | .belowMinimum _ => "greater_than_equal"
  | .aboveMaximum _ => "less_than_equal"
  | .notString => "string_type"
  | .notUnicode => "string_unicode"
  | .badHex _ => "value_error"
  | .notList => "list_type"
  | .tooFewItems _ _ => "too_short"
  | .notAmong _ => "enum"
  | .notBoolean => "bool_type"
  | .badBoolean => "bool_parsing"
  | .notRecord _ => "model_type"
  | .noTag => "union_tag_not_found"
  | .unknownTag _ _ => "union_tag_invalid"
  | .notObject => "dict_type"
  | .notFields => "model_attributes_type"
  | .badJson => "json_invalid"

def message : Fault → String
  | .missing => "Field required"
  | .notInteger => "Input should be a valid integer"
  | .notNumeral => "Input should be a valid integer, unable to parse string as an integer"
  | .numeralTooLong => "Unable to parse input string as an integer, exceeded maximum size"
  | .notFinite => "Input should be a finite number"
  | .notWhole => "Input should be a valid integer, got a number with a fractional part"
  | .belowMinimum least => s!"Input should be greater than or equal to {least}"
  | .aboveMaximum greatest => s!"Input should be less than or equal to {greatest}"
  | .notString => "Input should be a valid string"
  | .notUnicode => "Input should be a valid string, unable to parse raw data as a unicode string"
  | .badHex fault => "Value error, " ++ fault.message
  | .notList => "Input should be a valid list"
  | .tooFewItems least got =>
    let items := if least = 1 then "item" else "items"
    s!"List should have at least {least} {items} after validation, not {got}"
  | .notAmong names =>
    "Input should be " ++ alternatives (names.map fun name => "'" ++ name ++ "'")
  | .notBoolean => "Input should be a valid boolean"
  | .badBoolean => "Input should be a valid boolean, unable to interpret input"
  | .notRecord name => s!"Input should be a valid dictionary or instance of {name}"
  | .noTag => "Unable to extract tag using discriminator 'kind'"
  | .unknownTag given expected =>
    s!"Input tag '{given}' found using 'kind' does not match any of the expected tags: "
      ++ String.intercalate ", " (expected.map fun tag => "'" ++ tag ++ "'")
  | .notObject => "Input should be a valid dictionary"
  | .notFields => "Input should be a valid dictionary or object to extract fields from"
  | .badJson => "JSON decode error"

end Fault

inductive PathStep where
  | field (name : String)
  | item (index : Nat)
deriving Repr, DecidableEq

def PathStep.text : PathStep → String
  | .field name => name
  | .item index => toString index

structure Complaint where
  path : List PathStep
  fault : Fault
  found : Cell

/-- The same complaint about a value that holds the one complained of. -/
def Complaint.under (step : PathStep) (complaint : Complaint) : Complaint :=
  { complaint with path := step :: complaint.path }

end BridgeState
