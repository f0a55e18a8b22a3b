import BridgeState.Json.Writer
import BridgeState.Number.Decimal

/-!
# Cells

A value as a row of a database holds it: plain, or a decimal number, which no JSON value is.
-/

namespace BridgeState

set_option autoImplicit false

inductive Unwritable where
  | notJson (kindName : String)
  | notFinite
deriving Repr, DecidableEq

def Unwritable.message : Unwritable → String
  | .notJson kindName => s!"Object of type {kindName} is not JSON serializable"
  | .notFinite => "Out of range float values are not JSON compliant"

inductive Cell where
  | plain (value : Json)
  | decimal (value : DecimalNumber)

namespace Cell

def display : Cell → Text
  | .plain value => value.display
  | .decimal value => value.text

def literal : Cell → String
  | .plain value => value.literal
  | .decimal value => s!"Decimal('{value.text}')"

def kindName : Cell → String
  | .plain value => value.kindName
  | .decimal _ => "Decimal"

def json : Cell → Except Unwritable Json
  | .plain value => .ok value
  | .decimal value => .error (.notJson (Cell.decimal value).kindName)

/-- The cell as JSON, a decimal number rounded toward zero. -/
def whole : Cell → Except Unbounded Json
  | .plain value => .ok value
  | .decimal value => value.truncated.map .int

end Cell

end BridgeState
