import BridgeState.Text.Digit
import BridgeState.Text.Numeral
import BridgeState.Text.Split

/-!
# Internet addresses

`isFour` accepts four decimal numbers up to 255, without leading zeros, with points between them.
`isSix` accepts eight groups of up to four hexadecimal digits with colons between them, in which one
run of zero groups may be left out; the last two groups may be written as an address of version four,
and a zone may follow a percent sign.
-/

namespace BridgeState.Address

set_option autoImplicit false

open Text

/-- A decimal number up to 255. -/
def isOctet (text : List Char) : Bool :=
  !text.isEmpty && text.length ≤ 3 && (text.all fun c => (asciiDigit? c).isSome) &&
    (text.length == 1 || text.head? != some '0') &&
    decimalNumber (text.filterMap asciiDigit?) ≤ 255

def isFour (text : List Char) : Bool :=
  let parts := pieces '.' text
  parts.length == 4 && parts.all isOctet

/-- One to four hexadecimal digits. -/
def isGroup (text : List Char) : Bool :=
  !text.isEmpty && text.length ≤ 4 && text.all isHexDigit

/-- Groups on one side of a gap: none at all if the text is empty. -/
def groupsBeside (parts : List (List Char)) : Option Nat :=
  if parts == [[]] then some 0
  else if parts.all isGroup then some parts.length
  else none

/-- Groups of which a run may be left out where two colons meet. -/
def areGroups (parts : List (List Char)) : Bool :=
  let inner := (parts.drop 1).dropLast
  match inner.findIdx? List.isEmpty with
  | some index =>
    match groupsBeside (parts.take (index + 1)), groupsBeside (parts.drop (index + 2)) with
    | some before, some after => before + after < 8
    | _, _ => false
  | none => parts.length == 8 && parts.all isGroup

/-- Groups in which an address of version four at the end counts as two. -/
def plainGroups (parts : List (List Char)) : Option (List (List Char)) :=
  match parts.getLast? with
  | none => none
  | some last =>
    if last.contains '.' then
      if isFour last then some (parts.dropLast ++ [['0'], ['0']]) else none
    else some parts

def isSix (text : List Char) : Bool :=
  let (address, zone) := cut '%' text
  let zoned := match zone with
    | none => true
    | some zone => !zone.isEmpty && !zone.contains '%'
  let parts := pieces ':' address
  zoned && parts.length ≥ 3 &&
    match plainGroups parts with
    | some parts => areGroups parts
    | none => false

end BridgeState.Address
