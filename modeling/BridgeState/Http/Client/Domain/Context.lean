import BridgeState.Http.Client.Domain.Fault
import BridgeState.Http.Client.Text.Combining
import BridgeState.Http.Client.Text.Direction
import BridgeState.Http.Client.Text.Script

/-!
# Characters that depend on their neighbours

A few characters may stand in a label only in certain places. A joiner stands behind a mark that
silences a vowel, and the one that keeps letters apart also between two that would join; a middle dot
stands between two letters `l`, some signs stand beside letters of their script, and Arabic digits of
one kind stand without those of the other. A place is given by the characters in front of it, the last
first, and by those behind it.
-/

namespace BridgeState.Domain

set_option autoImplicit false

open Text

structure Place where
  before : List Nat
  after : List Nat

namespace Place

def label (place : Place) (code : Nat) : List Nat :=
  place.before.reverse ++ code :: place.after

def isBehindVirama (place : Place) : Bool :=
  place.before.head?.any fun last => combiningClass last == viramaClass

/-- Whether something is known of the character before, if there is one. -/
def isBehindKnown (place : Place) : Bool :=
  place.before.head?.all fun last => combiningClass last != 0 || isNamed last

def nearestJoining? (codes : List Nat) : Option Joining :=
  (codes.dropWhile fun code => joining? code == some .transparent).head?.bind joining?

def isBetweenJoining (place : Place) : Bool :=
  let before := nearestJoining? place.before
  let after := nearestJoining? place.after
  (before == some .left || before == some .both) && (after == some .right || after == some .both)

def isBetween (letter : Nat) (place : Place) : Bool :=
  place.before.head? == some letter && place.after.head? == some letter

end Place

def nonJoiner : Nat := 0x200C

def joiner : Nat := 0x200D

def joinerFits (code : Nat) (place : Place) : Bool :=
  place.isBehindVirama || (code == nonJoiner && place.isBetweenJoining)

/-- Whether a digit is one of ten that begin with the given one. -/
def isDigitFrom (first code : Nat) : Bool :=
  first ≤ code && code < first + 10

def arabicZero : Nat := 0x660

def extendedArabicZero : Nat := 0x6F0

/-- Whether a character that depends on its neighbours may stand in a place; none of one that does not
depend on them. -/
def fits? (code : Nat) (place : Place) : Option Bool :=
  if code = 0xB7 then some (place.isBetween 0x6C)
  else if code = 0x375 then some (place.after.head?.any Script.greek.contains)
  else if code = 0x5F3 ∨ code = 0x5F4 then some (place.before.head?.any Script.hebrew.contains)
  else if code = 0x30FB then
    some ((place.label code).any fun other => other != code &&
      [Script.hiragana, .katakana, .han].any fun script => script.contains other)
  else if isDigitFrom arabicZero code then
    some (!(place.label code).any (isDigitFrom extendedArabicZero))
  else if isDigitFrom extendedArabicZero code then
    some (!(place.label code).any (isDigitFrom arabicZero))
  else none

end BridgeState.Domain
