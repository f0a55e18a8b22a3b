import BridgeState.Number.Shortest
import BridgeState.Text.Numeral

/-!
# Decimal numbers

A decimal number keeps its digits and its exponent, and so how precisely it was given: `5.5` and
`5.50` are two numbers of one value. `DecimalNumber.ofString` reads one, `DecimalNumber.text` writes
it with the same precision and `DecimalNumber.truncated` rounds it toward zero. Exponents are bounded:
no number is rounded to fit, but one that lies outside the bounds is refused.
-/

namespace BridgeState

set_option autoImplicit false

open Text

/-- Digits behind an exponent of ten, an infinity, or no number at all with digits of its own. -/
inductive DecimalNumber where
  | finite (negative : Bool) (digits : List Nat) (exponent : Int)
  | infinite (negative : Bool)
  | undefined (negative signaling : Bool) (payload : List Nat)
deriving Repr, DecidableEq

inductive Unbounded where
  | undefined
  | infinite
  | unmanageable
deriving Repr, DecidableEq

def Unbounded.message : Unbounded → String
  | .undefined => "cannot convert NaN to integer"
  | .infinite => "cannot convert Infinity to integer"
  | .unmanageable => ""

inductive DecimalFault where
  | badText
  | invalid
  | overflow
  | notNumber (kindName : String)
  | badLength
  | badSign
  | badName
  | badExponent
  | badCoefficient
  | tooWide (wordName : String)
deriving Repr, DecidableEq

def DecimalFault.message : DecimalFault → String
  | .badText => "[<class 'decimal.ConversionSyntax'>]"
  | .invalid => "[<class 'decimal.InvalidOperation'>]"
  | .overflow => "[<class 'decimal.Overflow'>]"
  | .notNumber kindName => s!"conversion from {kindName} to Decimal is not supported"
  | .badLength => "argument must be a sequence of length 3"
  | .badSign => "sign must be an integer with the value 0 or 1"
  | .badName => "string argument in the third position must be 'F', 'n' or 'N'"
  | .badExponent => "exponent must be an integer"
  | .badCoefficient => "coefficient must be a tuple of digits"
  | .tooWide wordName => s!"Python int too large to convert to C {wordName}"

namespace DecimalNumber

def spanDecimals (text : List Char) : List Nat × List Char :=
  ((text.takeWhile fun c => (decimalValue? c).isSome).filterMap decimalValue?,
    text.dropWhile fun c => (decimalValue? c).isSome)

/-- Digits without the zeros in front; of zeros alone one is kept. -/
def plainDigits (digits : List Nat) : List Nat :=
  match digits.dropWhile (· == 0) with
  | [] => [0]
  | digits => digits

def fractionDigits : List Char → List Nat × List Char
  | '.' :: rest => spanDecimals rest
  | text => ([], text)

/-- The exponent that ends a text; nothing where something else does. -/
def exponentOf? : List Char → Option Int
  | [] => some 0
  | mark :: rest =>
    if mark == 'e' || mark == 'E' then
      let (negative, body) := splitSign rest
      let (digits, more) := spanDecimals body
      if digits.isEmpty || !more.isEmpty then none else some (signed negative (decimalNumber digits))
    else none

def finite? (negative : Bool) (body : List Char) : Option DecimalNumber :=
  let (whole, rest) := spanDecimals body
  let (fraction, rest) := fractionDigits rest
  let digits := whole ++ fraction
  if digits.isEmpty then none
  else (exponentOf? rest).map fun exponent =>
    .finite negative (plainDigits digits) (exponent - fraction.length)

/-- A number that is named and not counted, with digits where they may follow. -/
def named? (negative : Bool) (body : List Char) : Option DecimalNumber :=
  let (word, rest) := (body.takeWhile (·.isAlpha), body.dropWhile (·.isAlpha))
  let (payload, more) := spanDecimals rest
  if !more.isEmpty then none
  else match String.ofList (word.map Char.toLower), payload with
    | "inf", [] => some (.infinite negative)
    | "infinity", [] => some (.infinite negative)
    | "nan", payload => some (.undefined negative false (payload.dropWhile (· == 0)))
    | "snan", payload => some (.undefined negative true (payload.dropWhile (· == 0)))
    | _, _ => none

/-- The greatest exponent that the leading digit of a number may have. -/
def greatestExponent : Int := 999999999999999999

/-- The least exponent that the last digit of a number may have. -/
def leastExponent : Int := -1999999999999999997

def leadingExponent (digits : List Nat) (exponent : Int) : Int :=
  exponent + digits.length - 1

def bounded : DecimalNumber → Except DecimalFault DecimalNumber
  | .finite negative digits exponent =>
    if leadingExponent digits exponent ≤ greatestExponent ∧ leastExponent ≤ exponent then
      .ok (.finite negative digits exponent)
    else .error .invalid
  | number => .ok number

/-- Blanks around a number and underscores anywhere in it do not count. -/
def ofString (text : String) : Except DecimalFault DecimalNumber :=
  let (negative, body) := splitSign ((trim isStrippable text.toList).filter (· != '_'))
  match finite? negative body <|> named? negative body with
  | some number => number.bounded
  | none => .error .badText

def digitText (digits : List Nat) : List Char :=
  digits.map hexDigit

def pointed (digits : List Char) (place : Int) : List Char :=
  if place ≤ 0 then '0' :: '.' :: (List.replicate (-place).toNat '0' ++ digits)
  else if place.toNat < digits.length then digits.take place.toNat ++ '.' :: digits.drop place.toNat
  else digits ++ List.replicate (place.toNat - digits.length) '0'

/-- Digits and exponent in full as long as no zeros have to be added behind, and few in front; else
with one digit before the point and the exponent. -/
def magnitudeText (digits : List Char) (exponent : Int) : List Char :=
  let left := exponent + digits.length
  if exponent ≤ 0 ∧ -6 < left then pointed digits left
  else
    let power := left - 1
    pointed digits 1 ++ (if power = 0 then []
      else 'E' :: (if power < 0 then '-' else '+') :: (toString power.natAbs).toList)

def text (number : DecimalNumber) : String :=
  match number with
  | .finite negative digits exponent =>
    Binary64.sign negative ++ String.ofList (magnitudeText (digitText digits) exponent)
  | .infinite negative => Binary64.sign negative ++ "Infinity"
  | .undefined negative signaling payload =>
    Binary64.sign negative ++ (if signaling then "sNaN" else "NaN")
      ++ String.ofList (digitText payload)

def differenceDigits : Nat := 28

/-- The greatest exponent that the leading digit of a difference may have. -/
def differenceExponent : Int := 999999

/-- Whether digits are nines throughout, as many as a difference keeps, and more than half a unit of
the last of them follows. -/
def roundsUp (digits : List Nat) : Bool :=
  (digits.take differenceDigits).all (· == 9) &&
    match digits.drop differenceDigits with
    | [] => false
    | next :: rest => 5 < next || (next == 5 && rest.any (· != 0))

/-- Why one cannot be taken from a number that is above zero. -/
def countdownFault? : DecimalNumber → Option DecimalFault
  | .finite false digits exponent =>
    let leading := leadingExponent digits exponent
    if digits.all (· == 0) then none
    else if differenceExponent < leading || (leading == differenceExponent && roundsUp digits) then
      some .overflow
    else none
  | .undefined _ _ _ => some .invalid
  | _ => none

def isZero : DecimalNumber → Bool
  | .finite _ digits _ => digits.all (· == 0)
  | _ => false

/-- How many zeros an integer may be given behind its digits. -/
def manageableZeros : Nat := 1000000

/-- The magnitude rounded toward zero, if it can be written out. -/
def wholePart? (digits : List Nat) (exponent : Int) : Option Nat :=
  if 0 ≤ exponent then
    if decimalNumber digits = 0 then some 0
    else if exponent ≤ manageableZeros then some (decimalNumber digits * Nat.pow 10 exponent.toNat)
    else none
  else some (decimalNumber (digits.take (digits.length - (-exponent).toNat)))

def truncated : DecimalNumber → Except Unbounded Int
  | .finite negative digits exponent =>
    match wholePart? digits exponent with
    | some magnitude => .ok (signed negative magnitude)
    | none => .error .unmanageable
  | .infinite _ => .error .infinite
  | .undefined _ _ _ => .error .undefined

end DecimalNumber

end BridgeState
