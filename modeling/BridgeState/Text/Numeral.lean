import BridgeState.Text.Blank
import BridgeState.Text.Digit
import BridgeState.Text.Quoted

/-!
# Decimal numerals

`readInteger` reads the numbers of settings and arguments: blanks around the numeral, one sign, the
digits of any script, grouped by single underscores. Numerals of more than `digitLimit` digits are
refused, and leading zeros count.
-/

namespace BridgeState.Text

set_option autoImplicit false

def digitLimit : Nat := 4300

/-- The number that a list of decimal digits denotes, most significant first. -/
def decimalNumber (digits : List Nat) : Nat :=
  digits.foldl (fun number digit => 10 * number + digit) 0

section Runs

variable (value? : Char → Option Nat)

def startsWithDigit : List Char → Bool
  | [] => false
  | c :: _ => (value? c).isSome

/-- The digits up to the first character that cannot continue the numeral; none where an
underscore is not followed by a digit. -/
def digitTail : List Char → Option (List Nat × List Char)
  | [] => some ([], [])
  | c :: rest =>
    match value? c with
    | some digit => (digitTail rest).map fun run => (digit :: run.1, run.2)
    | none =>
      if c == '_' then
        if startsWithDigit value? rest then digitTail rest else none
      else some ([], c :: rest)

def digitRun (text : List Char) : Option (List Nat × List Char) :=
  if startsWithDigit value? text then digitTail value? text else none

end Runs

/-- An optional sign: whether it is a minus, and what follows. -/
def splitSign : List Char → Bool × List Char
  | '-' :: rest => (true, rest)
  | '+' :: rest => (false, rest)
  | text => (false, text)

def signed (negative : Bool) (magnitude : Nat) : Int :=
  if negative then -(magnitude : Int) else magnitude

inductive NumeralProblem where
  | malformed (text : String)
  | tooLong (digits : Nat)
deriving Repr, DecidableEq

/-- The text of a refused numeral is cut off after two hundred characters. -/
def NumeralProblem.message : NumeralProblem → String
  | .malformed text =>
    "invalid literal for int() with base 10: " ++
      String.ofList ((quotedChars text).take 200)
  | .tooLong digits =>
    s!"Exceeds the limit ({digitLimit} digits) for integer string conversion: value has {digits} digits; use sys.set_int_max_str_digits() to increase the limit"

def readInteger (text : String) : Except NumeralProblem Int :=
  let (negative, body) := splitSign (trim isWhite text.toList)
  match digitRun decimalValue? body with
  | none => .error (.malformed text)
  | some (digits, rest) =>
    if digits.length > digitLimit then .error (.tooLong digits.length)
    else if rest.isEmpty then .ok (signed negative (decimalNumber digits))
    else .error (.malformed text)

end BridgeState.Text
