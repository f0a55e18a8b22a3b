import BridgeState.Text.Numeral
import BridgeState.Text.Split

/-!
# Whole numbers that arrive as text

`readWhole` takes a plain numeral as it stands: an optional minus, and digits that do not begin with
a zero, or a zero alone. Any other text is put in order first (`inOrder`): blanks around it, a plus
sign, zeros and underscores in front, a fraction of zeros and single underscores between digits are
taken away, and a plain numeral must be left. A text that itself begins with more than `digitLimit`
digits is too long, whatever follows them.
-/

namespace BridgeState.Text

set_option autoImplicit false

structure PlainNumeral where
  negative : Bool
  digits : List Nat
  rest : List Char

def splitMinus : List Char → Bool × List Char
  | '-' :: rest => (true, rest)
  | text => (false, text)

/-- A zero alone, or digits that do not begin with a zero. -/
def plainDigits : List Char → List Nat × List Char
  | '0' :: rest => ([0], rest)
  | text =>
    ((text.takeWhile fun c => (asciiDigit? c).isSome).filterMap asciiDigit?,
      text.dropWhile fun c => (asciiDigit? c).isSome)

def PlainNumeral.ofChars (text : List Char) : PlainNumeral :=
  let (negative, body) := splitMinus text
  let (digits, rest) := plainDigits body
  ⟨negative, digits, rest⟩

def PlainNumeral.tooLong (numeral : PlainNumeral) : Bool :=
  numeral.digits.length > digitLimit

def PlainNumeral.value? (numeral : PlainNumeral) : Option Int :=
  if numeral.digits.isEmpty || !numeral.rest.isEmpty || numeral.tooLong then none
  else some (signed numeral.negative (decimalNumber numeral.digits))

def isLeadingDigit (c : Char) : Bool :=
  0x31 ≤ c.toNat && c.toNat ≤ 0x39

/-- What is left behind a zero, of which `last` is the character in front: zeros and underscores go
as long as a digit or a minus comes behind them; a point, or the end, keeps one. -/
def behindZero (last : Char) : List Char → Option (List Char)
  | [] => some [last]
  | c :: rest =>
    if c == '0' || c == '_' then behindZero c rest
    else if isLeadingDigit c || c == '-' then some (c :: rest)
    else if c == '.' then some (last :: c :: rest)
    else none

def withoutLeadingZeros : List Char → Option (List Char)
  | [] => none
  | c :: rest =>
    if c == '0' then behindZero c rest
    else if isLeadingDigit c || c == '-' then some (c :: rest)
    else none

/-- The text before a point behind which there are zeros alone, one at least. -/
def withoutZeroFraction (text : List Char) : List Char :=
  match cut '.' text with
  | (whole, some (zero :: zeros)) =>
    if (zero :: zeros).all (· == '0') then whole else text
  | _ => text

/-- The text without its underscores, if each stands alone between two other characters. -/
def withoutUnderscores (text : List Char) : List Char :=
  if (pieces '_' text).any List.isEmpty then text else text.filter (· != '_')

/-- The text in order, a plus sign left out; none where no numeral can be left. -/
def inOrder (text : List Char) : Option (List Char) :=
  let unsigned : Option (List Char) := match trim isWhite text with
    | '+' :: '-' :: _ => none
    | '+' :: rest => some rest
    | body => some body
  unsigned.bind fun body =>
    let (negative, magnitude) := splitMinus body
    (withoutLeadingZeros magnitude).map fun kept =>
      withoutUnderscores (withoutZeroFraction (if negative then '-' :: kept else kept))

inductive WholeProblem where
  | malformed
  | tooLong
deriving Repr, DecidableEq

def readWhole (text : String) : Except WholeProblem Int :=
  let plain := PlainNumeral.ofChars text.toList
  if plain.tooLong then .error .tooLong
  else
    match plain.value? <|> ((inOrder text.toList).bind fun body =>
        (PlainNumeral.ofChars body).value?) with
    | some value => .ok value
    | none => .error .malformed

end BridgeState.Text
