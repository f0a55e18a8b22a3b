import BridgeState.Text.Quoted

/-!
# Faults of domain names

Why a text is no domain name. A fault of one character tells its place in the label, counted from one.
-/

namespace BridgeState.Domain

set_option autoImplicit false

open Text

inductive Fault where
  | longDomain
  | emptyDomain
  | longLabel
  | emptyLabel
  | notComposed
  | reservedHyphens
  | outerHyphen
  | initialMark
  | notPermitted (code position : Nat) (label : Text)
  | misplaced (code position : Nat) (label : Text)
  | misplacedJoiner (code position : Nat) (label : Text)
  | unknownNeighbour (code position : Nat) (label : Text)
  | unknownDirection (position : Nat) (label : Text)
  | undirectedStart (label : Text)
  | notRightToLeft (position : Nat)
  | notLeftToRight (position : Nat)
  | mixedNumbers
  | undirectedEnd
  | emptyCode
  | codeHyphen
  | badCode
  | otherCode
deriving Repr, DecidableEq

/-- A code point by its number, in four digits at least. -/
def codeName (code : Nat) : String :=
  let digits := (Nat.toDigits 16 code).map Char.toUpper
  "U+" ++ String.ofList (List.replicate (4 - digits.length) '0' ++ digits)

def Fault.message : Fault → String
  | .longDomain => "Domain too long"
  | .emptyDomain => "Empty domain"
  | .longLabel => "Label too long"
  | .emptyLabel => "Empty Label"
  | .notComposed => "Label must be in Normalization Form C"
  | .reservedHyphens => "Label has disallowed hyphens in 3rd and 4th position"
  | .outerHyphen => "Label must not start or end with a hyphen"
  | .initialMark => "Label begins with an illegal combining character"
  | .notPermitted code position label =>
    s!"Codepoint {codeName code} at position {position} of {quoted label} not allowed"
  | .misplaced code position label =>
    s!"Codepoint {codeName code} not allowed at position {position} in {quoted label}"
  | .misplacedJoiner code position label =>
    s!"Joiner {codeName code} not allowed at position {position} in {quoted label}"
  | .unknownNeighbour code position label =>
    s!"Unknown codepoint adjacent to joiner {codeName code} at position {position} in {quoted label}"
  | .unknownDirection position label =>
    s!"Unknown directionality in label {quoted label} at position {position}"
  | .undirectedStart label =>
    s!"First codepoint in label {quoted label} must be directionality L, R or AL"
  | .notRightToLeft position =>
    s!"Invalid direction for codepoint at position {position} in a right-to-left label"
  | .notLeftToRight position =>
    s!"Invalid direction for codepoint at position {position} in a left-to-right label"
  | .mixedNumbers => "Can not mix numeral types in a right-to-left label"
  | .undirectedEnd => "Label ends with illegal codepoint directionality"
  | .emptyCode => "Malformed A-label, no Punycode eligible content found"
  | .codeHyphen => "A-label must not end with a hyphen"
  | .badCode => "Invalid A-label"
  | .otherCode => "A-label is not the canonical Punycode encoding of its U-label"

end BridgeState.Domain
