import BridgeState.Http.Client.Domain.Context
import BridgeState.Http.Client.Domain.Direction
import BridgeState.Http.Client.Domain.Permitted
import BridgeState.Http.Client.Domain.Punycode
import BridgeState.Http.Client.Text.Composition

/-!
# Labels

A domain name consists of labels with dots between them. A label is in composed form, its hyphens are
inside, no mark begins it, and every character may stand where it does. In ASCII a label of other
characters is written behind `xn--`.
-/

namespace BridgeState.Domain

set_option autoImplicit false

open Text

/-- The fault of a character that must not stand in its place. -/
def placeFault? (label : Text) (code : Nat) (place : Place) : Option Fault :=
  let position := place.before.length + 1
  if isPermitted code then none
  else if code = nonJoiner ∨ code = joiner then
    if !place.isBehindKnown then some (.unknownNeighbour code position label)
    else if joinerFits code place then none
    else some (.misplacedJoiner code position label)
  else
    match fits? code place with
    | some true => none
    | some false => some (.misplaced code position label)
    | none => some (.notPermitted code position label)

/-- The first fault of a character, `before` being the characters so far, the last first. -/
def firstFault? (label : Text) (before : List Nat) : List Nat → Option Fault
  | [] => none
  | code :: rest => placeFault? label code ⟨before, rest⟩ <|> firstFault? label (code :: before) rest

def hyphen : Nat := 0x2D

def hyphenFault? (codes : List Nat) : Option Fault :=
  if (codes.drop 2).take 2 == [hyphen, hyphen] then some .reservedHyphens
  else if codes.head? == some hyphen || codes.getLast? == some hyphen then some .outerHyphen
  else none

def check (label : Text) : Except Fault Unit := do
  let codes := label.codes
  if codes.isEmpty then throw .emptyLabel
  if !isComposed codes then throw .notComposed
  if let some fault := hyphenFault? codes then throw fault
  if codes.head?.any isMark then throw .initialMark
  if let some fault := firstFault? label [] codes then throw fault
  checkDirection label

/-- What stands in front of a label that is written in ASCII. -/
def codePrefix : List Char := ['x', 'n', '-', '-']

/-- The label that a code stands for. Of the codes that read as a label only one is its own. -/
def fromCode (code : List Char) : Except Fault Text := do
  if code.isEmpty then throw .emptyCode
  if code.getLast? == some '-' then throw .codeHyphen
  match Punycode.decode? code with
  | none => throw .badCode
  | some codes =>
    let label := Text.mk (codes.map CodePoint.ofCode)
    check label
    if Punycode.encode codes != code then throw .otherCode
    return label

def fromAscii (text : List Char) : Except Fault Text := do
  let text := text.map Char.toLower
  if codePrefix.isPrefixOf text then fromCode (text.drop codePrefix.length)
  else
    let label := Text.ofChars text
    check label
    return label

def isAscii (text : List Char) : Bool :=
  text.all fun c => c.toNat < 0x80

def labelLimit : Nat := 63

def toAscii (label : List Char) : Except Fault (List Char) := do
  let text ←
    if isAscii label then
      let _ ← fromAscii label
      pure label
    else
      check (Text.ofChars label)
      pure (codePrefix ++ Punycode.encode (label.map Char.toNat))
  if labelLimit < text.length then throw .longLabel
  return text

end BridgeState.Domain
