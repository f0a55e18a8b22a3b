import BridgeState.Text.Digit
import BridgeState.Text.Split

/-!
# Tables of code points

Properties of characters are tables of runs. A table is written as hexadecimal numbers with blanks
between them: a number stands for itself, `first-last` for all from one to the other, and
`first-last/step` for those that lie so many apart. A mapping is written as `code=target`, with plus
signs between the code points of a target; a target alone belongs to the code point that follows.
-/

namespace BridgeState.Text

set_option autoImplicit false

structure CodeRun where
  first : Nat
  last : Nat
  step : Nat
deriving Repr, DecidableEq

abbrev CodeTable : Type :=
  List CodeRun

def hexNumber (digits : List Char) : Nat :=
  digits.foldl (fun number digit => 16 * number + (hexValue? digit).getD 0) 0

def words (text : List Char) : List (List Char) :=
  (pieces ' ' (text.map fun c => if c == '\n' then ' ' else c)).filter fun word => !word.isEmpty

namespace CodeRun

def contains (run : CodeRun) (code : Nat) : Bool :=
  run.first ≤ code && code ≤ run.last && (code - run.first) % run.step == 0

def ofWord (word : List Char) : CodeRun :=
  let (range, step) := cut '/' word
  let (first, last) := cut '-' range
  ⟨hexNumber first, hexNumber (last.getD first), (step.map hexNumber).getD 1⟩

theorem contains_first (run : CodeRun) (ordered : run.first ≤ run.last) :
    run.contains run.first = true := by
  simp [contains, ordered]

end CodeRun

namespace CodeTable

def ofString (text : String) : CodeTable :=
  (words text.toList).map CodeRun.ofWord

def contains (table : CodeTable) (code : Nat) : Bool :=
  table.any fun run => run.contains code

end CodeTable

abbrev CodeMapping : Type :=
  List (Nat × List Nat)

namespace CodeMapping

def target (word : List Char) : List Nat :=
  (pieces '+' word).map hexNumber

/-- The mapping that words write, of which the first belongs to `code` if it names none. -/
def ofWords (code : Nat) : List (List Char) → CodeMapping
  | [] => []
  | word :: rest =>
    match cut '=' word with
    | (source, some image) =>
      (hexNumber source, target image) :: ofWords (hexNumber source + 1) rest
    | (image, none) => (code, target image) :: ofWords (code + 1) rest

def ofString (text : String) : CodeMapping :=
  ofWords 0 (words text.toList)

def image? (mapping : CodeMapping) (code : Nat) : Option (List Nat) :=
  (mapping.find? fun entry => entry.1 == code).map Prod.snd

def source? (mapping : CodeMapping) (target : List Nat) : Option Nat :=
  (mapping.find? fun entry => entry.2 == target).map Prod.fst

end CodeMapping

end BridgeState.Text
