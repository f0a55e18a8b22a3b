import BridgeState.Text.CodePoint
import BridgeState.Text.Digit
import BridgeState.Text.Printable

/-!
# Quoted text

How a text is shown inside a message: between single quotes, or between double quotes when it
holds a single quote and no double one. The quote in use, the backslash and the three common
line controls are escaped by a letter, every other character that does not print by its number, and
so is a single surrogate.
-/

namespace BridgeState.Text

set_option autoImplicit false

def hexPadded (width code : Nat) : List Char :=
  (List.range width).map fun place => hexDigit (code / Nat.pow 16 (width - 1 - place) % 16)

theorem hexPadded_length (width code : Nat) : (hexPadded width code).length = width := by
  simp [hexPadded]

/-- A code point by its number, in as many digits as numbers of its size take. -/
def escapedCode (code : Nat) : List Char :=
  if code < 0x100 then '\\' :: 'x' :: hexPadded 2 code
  else if code < 0x10000 then '\\' :: 'u' :: hexPadded 4 code
  else '\\' :: 'U' :: hexPadded 8 code

def quotedChar (quote c : Char) : List Char :=
  if c == quote || c == '\\' then ['\\', c]
  else if c == '\n' then ['\\', 'n']
  else if c == '\r' then ['\\', 'r']
  else if c == '\t' then ['\\', 't']
  else if isPrintable c then [c]
  else escapedCode c.toNat

def quotedPoint (quote : Char) : CodePoint → List Char
  | .char c => quotedChar quote c
  | .surrogate index => escapedCode (CodePoint.surrogate index).code

/-- Double quotes only where they save an escape. -/
def quoteFor (text : Text) : Char :=
  if text.points.contains (.char '\x27') && !text.points.contains (.char '\x22') then '\x22'
  else '\x27'

def quotedChars (text : Text) : List Char :=
  quoteFor text :: (text.points.flatMap (quotedPoint (quoteFor text)) ++ [quoteFor text])

def quoted (text : Text) : String :=
  String.ofList (quotedChars text)

end BridgeState.Text
