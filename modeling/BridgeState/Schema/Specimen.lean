import BridgeState.Cell
import BridgeState.Text.Utf8

/-!
# Specimens

How a value that is complained of is shown. A text that takes more than `Specimen.room` bytes is shown
by its two ends, and no character of it in part.
-/

namespace BridgeState.Specimen

set_option autoImplicit false

def room : Nat := 50

/-- The characters from the front that fit into that many bytes. -/
def fitting (bytes : Nat) : List Char → List Char
  | [] => []
  | c :: rest =>
    let size := (Text.Utf8.encodeChar c).length
    if size ≤ bytes then c :: fitting (bytes - size) rest else []

/-- The two ends of a text, the first the longer by one byte. -/
def ends (text : List Char) : List Char :=
  fitting (room / 2) text ++ ['.', '.', '.']
    ++ (fitting (room / 2 - 1) text.reverse).reverse

def shortened (text : String) : String :=
  let chars := text.toList
  if (Text.Utf8.encode chars).length ≤ room then text else String.ofList (ends chars)

def text (value : Cell) : String :=
  shortened value.literal

end BridgeState.Specimen
