import BridgeState.Text.Quoted

/-!
# Charsets

A charset has bytes for some code points and for others none. `Charset.refusal?` finds the first run of
code points of a text that it has none for; a text without any can be sent.
-/

namespace BridgeState

set_option autoImplicit false

inductive Charset where
  | ascii
  | utf8
deriving Repr, DecidableEq

structure Unencodable where
  charset : Charset
  first : CodePoint
  position : Nat
  count : Nat
deriving Repr, DecidableEq

namespace Charset

def name : Charset → String
  | .ascii => "ascii"
  | .utf8 => "utf-8"

def holds : Charset → CodePoint → Bool
  | .ascii, point => point.code < 128
  | .utf8, .char _ => true
  | .utf8, .surrogate _ => false

/-- What a charset says of code points that it does not hold. -/
def reason : Charset → String
  | .ascii => "ordinal not in range(128)"
  | .utf8 => "surrogates not allowed"

def refusal? (charset : Charset) (text : Text) : Option Unencodable :=
  let before := text.points.takeWhile charset.holds
  let run := (text.points.drop before.length).takeWhile fun point => !charset.holds point
  run.head?.map fun first => ⟨charset, first, before.length, run.length⟩

/-- A string has bytes in UTF-8. -/
theorem refusal?_utf8_ofString (string : String) : utf8.refusal? (.ofString string) = none := by
  have all : ∀ chars : List Char,
      (chars.map CodePoint.char).takeWhile utf8.holds = chars.map CodePoint.char := by
    intro chars
    induction chars with
    | nil => rfl
    | cons c rest ih => simp [List.takeWhile_cons, holds, ih]
  simp [refusal?, Text.ofString, Text.ofChars, all, List.drop_of_length_le]

end Charset

def Unencodable.message (cause : Unencodable) : String :=
  let place := if cause.count = 1
    then s!"character '{String.ofList (Text.escapedCode cause.first.code)}' in position {cause.position}"
    else s!"characters in position {cause.position}-{cause.position + cause.count - 1}"
  s!"'{cause.charset.name}' codec can't encode {place}: {cause.charset.reason}"

end BridgeState
