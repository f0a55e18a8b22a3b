/-!
# Double precision

A number of double precision as its exact value: a sign and a mantissa times a power of two, or an
infinity, or no number. `ofDecimal` rounds a decimal to the nearest double, ties to the even
mantissa, by exact integer arithmetic; so do sums and products. Whether a double is whole, and which
integer it is, is read off the mantissa without rounding.
-/

namespace BridgeState

set_option autoImplicit false

inductive Binary64 where
  | finite (negative : Bool) (mantissa : Nat) (exponent : Int)
  | infinite (negative : Bool)
  | undefined
deriving Repr, DecidableEq, Inhabited

namespace Binary64

/-- Least exponent of the format; subnormal numbers have it too. -/
def minExponent : Int := -1074

def maxExponent : Int := 971

def ofNat53 (negative : Bool) (mantissa : Nat) (exponent : Int) : Binary64 :=
  if exponent > maxExponent then .infinite negative else .finite negative mantissa exponent

/-- The quotient rounded to the nearest integer, a tie to the even one. -/
def roundQuotient (num den : Nat) : Nat :=
  let quotient := num / den
  let rest := num % den
  if 2 * rest < den then quotient
  else if 2 * rest > den then quotient + 1
  else if quotient % 2 == 0 then quotient else quotient + 1

/-- `num / den / 2 ^ exponent` as a fraction of naturals. -/
def scaled (num den : Nat) (exponent : Int) : Nat × Nat :=
  (num * Nat.pow 2 (-exponent).toNat, den * Nat.pow 2 exponent.toNat)

/-- The exponent that gives a positive fraction a mantissa of 53 bits, or the least one. -/
def exponentOf (num den : Nat) : Int :=
  let guess : Int := (Nat.log2 num : Int) - (Nat.log2 den : Int) - 52
  let (n, d) := scaled num den guess
  max minExponent (if n < d * Nat.pow 2 52 then guess - 1 else guess)

def ofFraction (negative : Bool) (num den : Nat) : Binary64 :=
  let exponent := exponentOf num den
  let (n, d) := scaled num den exponent
  let mantissa := roundQuotient n d
  if mantissa == Nat.pow 2 53 then ofNat53 negative (Nat.pow 2 52) (exponent + 1)
  else ofNat53 negative mantissa exponent

/-- The double nearest to `digits * 10 ^ scale`. Outside the format's range the answer is known
without the power of ten. -/
def ofDecimal (negative : Bool) (digits : Nat) (scale : Int) : Binary64 :=
  if digits = 0 then .finite negative 0 minExponent
  else
    let magnitude : Int := (Nat.toDigits 10 digits).length + scale
    if magnitude > 310 then .infinite negative
    else if magnitude < -330 then .finite negative 0 minExponent
    else if scale ≥ 0 then ofFraction negative (digits * Nat.pow 10 scale.toNat) 1
    else ofFraction negative digits (Nat.pow 10 (-scale).toNat)

def wholePart (mantissa : Nat) (exponent : Int) : Nat :=
  mantissa * Nat.pow 2 exponent.toNat / Nat.pow 2 (-exponent).toNat

def isWhole (mantissa : Nat) (exponent : Int) : Bool :=
  mantissa % Nat.pow 2 (-exponent).toNat == 0

def truncate? : Binary64 → Option Int
  | .finite negative mantissa exponent =>
    let magnitude : Int := wholePart mantissa exponent
    some (if negative then -magnitude else magnitude)
  | _ => none

def toInt? : Binary64 → Option Int
  | .finite negative mantissa exponent =>
    if isWhole mantissa exponent then truncate? (.finite negative mantissa exponent) else none
  | _ => none

def ofBinary (negative : Bool) (mantissa : Nat) (exponent : Int) : Binary64 :=
  if mantissa = 0 then .finite negative 0 minExponent
  else ofFraction negative (mantissa * Nat.pow 2 exponent.toNat) (Nat.pow 2 (-exponent).toNat)

def ofInt (value : Int) : Binary64 :=
  ofBinary (value < 0) value.natAbs 0

/-- A finite magnitude with its sign, in units of a power of two that is not above its own. -/
def signedUnits (negative : Bool) (mantissa : Nat) (places : Nat) : Int :=
  if negative then -(mantissa * Nat.pow 2 places : Nat) else (mantissa * Nat.pow 2 places : Nat)

/-- The rounded sum. A sum of nothing is negative only where both terms are. -/
def add : Binary64 → Binary64 → Binary64
  | .finite negative mantissa exponent, .finite negative' mantissa' exponent' =>
    let least := min exponent exponent'
    let sum := signedUnits negative mantissa (exponent - least).toNat
      + signedUnits negative' mantissa' (exponent' - least).toNat
    ofBinary (if sum = 0 then negative && negative' else sum < 0) sum.natAbs least
  | .infinite negative, .infinite negative' =>
    if negative == negative' then .infinite negative else .undefined
  | .undefined, _ => .undefined
  | _, .undefined => .undefined
  | .infinite negative, _ => .infinite negative
  | _, .infinite negative => .infinite negative

/-- The rounded product. An infinity times nothing is no number. -/
def mul : Binary64 → Binary64 → Binary64
  | .finite negative mantissa exponent, .finite negative' mantissa' exponent' =>
    ofBinary (negative != negative') (mantissa * mantissa') (exponent + exponent')
  | .undefined, _ => .undefined
  | _, .undefined => .undefined
  | .infinite negative, .infinite negative' => .infinite (negative != negative')
  | .infinite negative, .finite negative' mantissa _ =>
    if mantissa = 0 then .undefined else .infinite (negative != negative')
  | .finite negative mantissa _, .infinite negative' =>
    if mantissa = 0 then .undefined else .infinite (negative != negative')

end Binary64

end BridgeState
