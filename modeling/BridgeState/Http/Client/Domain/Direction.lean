import BridgeState.Http.Client.Domain.Fault
import BridgeState.Http.Client.Text.Direction

/-!
# Directions within a label

A label in which something is written from right to left must be readable in one way only. Its first
character tells in which direction it goes, and what may stand in it and at its end depends on that; a
label from right to left has numbers of one kind.
-/

namespace BridgeState.Domain

set_option autoImplicit false

open Text

structure DirectionRule where
  allowed : List Direction
  ending : List Direction
  fault : Nat → Fault
  mixes : Bool

def rightToLeftRule : DirectionRule where
  allowed := [.rightToLeft, .arabic, .arabicNumber, .number, .numberSign, .mark, .invisible, .neutral]
  ending := [.rightToLeft, .arabic, .number, .arabicNumber]
  fault := .notRightToLeft
  mixes := false

def leftToRightRule : DirectionRule where
  allowed := [.leftToRight, .number, .numberSign, .mark, .invisible, .neutral]
  ending := [.leftToRight, .number]
  fault := .notLeftToRight
  mixes := true

/-- Whether a character makes its label one that goes from right to left somewhere. -/
def turns (direction : Direction) : Bool :=
  direction == .rightToLeft || direction == .arabic || direction == .arabicNumber

def isNumeric (direction : Direction) : Bool :=
  direction == .number || direction == .arabicNumber

def directionsFrom (label : Text) (position : Nat) : List Nat → Except Fault (List Direction)
  | [] => .ok []
  | code :: rest =>
    match direction? code with
    | none => .error (.unknownDirection position label)
    | some direction => (directionsFrom label (position + 1) rest).map (direction :: ·)

/-- Goes through a label. `ended` tells whether it may end here, and `numeric` which numbers it has. -/
def checkDirections (rule : DirectionRule) (position : Nat) (ended : Bool)
    (numeric : Option Direction) : List Direction → Except Fault Unit
  | [] => if ended then .ok () else .error .undirectedEnd
  | direction :: rest =>
    if !rule.allowed.contains direction then .error (rule.fault position)
    else if !rule.mixes && isNumeric direction && numeric.any (· != direction) then
      .error .mixedNumbers
    else
      checkDirections rule (position + 1)
        (rule.ending.contains direction || (direction == .mark && ended))
        (if isNumeric direction then some direction else numeric) rest

def checkDirection (label : Text) : Except Fault Unit := do
  let directions ← directionsFrom label 1 label.codes
  if !directions.any turns then return
  match directions.head? with
  | some .rightToLeft => checkDirections rightToLeftRule 1 false none directions
  | some .arabic => checkDirections rightToLeftRule 1 false none directions
  | some .leftToRight => checkDirections leftToRightRule 1 false none directions
  | _ => throw (.undirectedStart label)

end BridgeState.Domain
