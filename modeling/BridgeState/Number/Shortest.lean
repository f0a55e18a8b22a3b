import BridgeState.Number.Binary64

/-!
# The shortest decimal of a double

`shortest` gives the fewest digits that read back to a double, of two such the nearer one, and on
a tie the even one. `render` writes them: in positional form when the leading digit stands between
the fourth place after the point and the sixteenth before it, with `.0` behind a whole number, and
otherwise with a signed exponent of at least two digits.
-/

namespace BridgeState.Binary64

set_option autoImplicit false

/-- `digits * 10 ^ scale` -/
structure Decimal where
  digits : Nat
  scale : Int
deriving Repr, DecidableEq

/-- Compares `a * 10 ^ i` with `n * 2 ^ j`. -/
def compareScaled (a : Nat) (i : Int) (n : Nat) (j : Int) : Ordering :=
  compare (a * Nat.pow 10 i.toNat * Nat.pow 2 (-j).toNat)
    (n * Nat.pow 2 j.toNat * Nat.pow 10 (-i).toNat)

/-- The decimal lies among the reals that round to `mantissa * 2 ^ exponent`. Below a power of two
the gap is half as wide; the ends belong to even mantissas. -/
def readsBack (mantissa : Nat) (exponent : Int) (decimal : Decimal) : Bool :=
  let narrow := mantissa == Nat.pow 2 52 && exponent > minExponent
  let low := if narrow then 4 * mantissa - 1 else 4 * mantissa - 2
  let high := 4 * mantissa + 2
  let closed := mantissa % 2 == 0
  let atLow := compareScaled decimal.digits decimal.scale low (exponent - 2)
  let atHigh := compareScaled decimal.digits decimal.scale high (exponent - 2)
  (atLow == .gt || (closed && atLow == .eq)) && (atHigh == .lt || (closed && atHigh == .eq))

/-- The least power of ten above a positive double, searched upwards from a bound below it. -/
def tenPower (mantissa : Nat) (exponent : Int) : Nat → Int → Int
  | 0, power => power
  | fuel + 1, power =>
    if compareScaled 1 power mantissa exponent == .gt then power
    else tenPower mantissa exponent fuel (power + 1)

/-- The better of a double's two neighbours on the grid `10 ^ scale`, if either reads back. -/
def onGrid (mantissa : Nat) (exponent scale : Int) : Option Decimal :=
  let num := mantissa * Nat.pow 2 exponent.toNat * Nat.pow 10 (-scale).toNat
  let den := Nat.pow 2 (-exponent).toNat * Nat.pow 10 scale.toNat
  let below : Decimal := ⟨num / den, scale⟩
  let above : Decimal := ⟨num / den + 1, scale⟩
  match readsBack mantissa exponent below, readsBack mantissa exponent above with
  | false, false => none
  | true, false => some below
  | false, true => some above
  | true, true =>
    let rest := num % den
    if 2 * rest < den then some below
    else if 2 * rest > den then some above
    else if below.digits % 2 == 0 then some below else some above

/-- Trailing zeros move into the scale. -/
def stripZeros : Nat → Decimal → Decimal
  | 0, decimal => decimal
  | fuel + 1, decimal =>
    if decimal.digits % 10 == 0 && decimal.digits != 0 then
      stripZeros fuel ⟨decimal.digits / 10, decimal.scale + 1⟩
    else decimal

def shortest (mantissa : Nat) (exponent : Int) : Decimal :=
  let bits : Int := (Nat.log2 mantissa : Int) + exponent
  let power := tenPower mantissa exponent 8 (Int.fdiv (bits * 30103) 100000 - 1)
  let found := (List.range 17).findSome? fun places =>
    onGrid mantissa exponent (power - (places + 1 : Nat))
  stripZeros 400 (found.getD ⟨mantissa * Nat.pow 2 exponent.toNat, 0⟩)

def layout (decimal : Decimal) : String :=
  let digits := Nat.toDigits 10 decimal.digits
  let point : Int := digits.length + decimal.scale
  if -4 < point && point ≤ 16 then
    if point ≤ 0 then
      String.ofList ('0' :: '.' :: (List.replicate (-point).toNat '0' ++ digits))
    else if point.toNat < digits.length then
      String.ofList (digits.take point.toNat ++ '.' :: digits.drop point.toNat)
    else
      String.ofList (digits ++ List.replicate (point.toNat - digits.length) '0' ++ ['.', '0'])
  else
    let power := point - 1
    let size := toString power.natAbs
    let mark := (if power < 0 then "e-" else "e+") ++ (if size.length < 2 then "0" ++ size else size)
    match digits with
    | [] => mark
    | [digit] => String.ofList [digit] ++ mark
    | digit :: more => String.ofList (digit :: '.' :: more) ++ mark

def sign (negative : Bool) : String :=
  if negative then "-" else ""

/-- The text of a double, with the given names for the infinity and for no number. -/
def renderWith (infinity notNumber : String) : Binary64 → String
  | .finite negative mantissa exponent =>
    sign negative ++ if mantissa = 0 then "0.0" else layout (shortest mantissa exponent)
  | .infinite negative => sign negative ++ infinity
  | .undefined => notNumber

end BridgeState.Binary64
