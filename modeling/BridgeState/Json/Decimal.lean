import BridgeState.Json.Value
import BridgeState.Number.Decimal

/-!
# Decimal numbers from values

`DecimalNumber.ofJson` takes a value for a decimal number without rounding it: a text is read, an
integer and a double are the numbers that they are, and a list of three gives sign, coefficient and
exponent apart. Nothing else is a decimal number.
-/

namespace BridgeState.DecimalNumber

set_option autoImplicit false

open Json (fitsWord)
open Text

def ofNat (negative : Bool) (magnitude : Nat) (exponent : Int) : DecimalNumber :=
  .finite negative ((Nat.toDigits 10 magnitude).filterMap asciiDigit?) exponent

/-- The number that a double is. A fraction of two takes as many places as it has halvings. -/
def ofBinary64 : Binary64 → DecimalNumber
  | .finite negative mantissa exponent =>
    let parts := Nat.pow 2 (-exponent).toNat
    let common := Nat.gcd mantissa parts
    let places := Nat.log2 (parts / common)
    ofNat negative (mantissa / common * Nat.pow 5 places * Nat.pow 2 exponent.toNat) (-places)
  | .infinite negative => .infinite negative
  | .undefined => .undefined false false []

/-- Zero stands for a number that is not negative, one for one that is. -/
def signOf (value : Json) : Except DecimalFault Bool :=
  match value.integer? with
  | some value =>
    if !fitsWord value then .error (.tooWide "long")
    else if value = 0 then .ok false
    else if value = 1 then .ok true
    else .error .badSign
  | none => .error .badSign

/-- What the digits of a coefficient make: a number behind an exponent, an infinity, or no number. -/
inductive Scale where
  | power (exponent : Int)
  | infinite
  | undefined (signaling : Bool)
deriving Repr, DecidableEq

def scaleOf (value : Json) : Except DecimalFault Scale :=
  match value with
  | .str name =>
    if name == "F" then .ok .infinite
    else if name == "n" then .ok (.undefined false)
    else if name == "N" then .ok (.undefined true)
    else .error .badName
  | other =>
    match other.integer? with
    | some exponent => if fitsWord exponent then .ok (.power exponent) else .error (.tooWide "ssize_t")
    | none => .error .badExponent

def coefficientDigit (value : Json) : Except DecimalFault Nat :=
  match value.integer? with
  | some digit =>
    if !fitsWord digit then .error (.tooWide "long")
    else if 0 ≤ digit ∧ digit ≤ 9 then .ok digit.toNat
    else .error .badCoefficient
  | none => .error .badCoefficient

def coefficientOf : Json → Except DecimalFault (List Nat)
  | .arr items => items.mapM coefficientDigit
  | _ => .error .badCoefficient

def ofScale (negative : Bool) (digits : List Nat) : Scale → DecimalNumber
  | .power exponent => .finite negative (plainDigits digits) exponent
  | .infinite => .infinite negative
  | .undefined signaling => .undefined negative signaling (digits.dropWhile (· == 0))

/-- Of several faults that of the sign comes first, and that of the coefficient last. -/
def ofParts (sign coefficient scale : Json) : Except DecimalFault DecimalNumber := do
  let negative ← signOf sign
  let scale ← scaleOf scale
  let digits ← coefficientOf coefficient
  (ofScale negative digits scale).bounded

def ofJson : Json → Except DecimalFault DecimalNumber
  | .int value => .ok (ofNat (value < 0) value.natAbs 0)
  | .bool value => .ok (ofNat false (if value then 1 else 0) 0)
  | .float value => .ok (ofBinary64 value)
  | .str text => ofString text.shown
  | .arr [sign, coefficient, scale] => ofParts sign coefficient scale
  | .arr _ => .error .badLength
  | other => .error (.notNumber other.kindName)

end BridgeState.DecimalNumber
