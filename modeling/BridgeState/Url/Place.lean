import BridgeState.Text.Percent
import BridgeState.Url.Address
import BridgeState.Url.Parts

/-!
# Places

A place is a host, and behind a colon a port if it has one. The host is a name, or an address in
brackets: of version six, or of a version to come. `isWellFormed` accepts a place that is written by
these rules and has a port that there can be; a user in front of the host is no part of a place.
-/

namespace BridgeState.Place

set_option autoImplicit false

open Text

/-- Marks that names and addresses may hold beside letters, digits and `_ . - ~`. -/
def marks : List Char :=
  "!$&'()*+,;=".toList

def isMark (c : Char) : Bool :=
  Percent.isPlain c.toNat || marks.contains c

def isNumber (text : List Char) : Bool :=
  !text.isEmpty && text.all fun c => (asciiDigit? c).isSome

/-- What stands between brackets, if the text has them at its ends. -/
def inBrackets? (text : List Char) : Option (List Char) :=
  match text with
  | '[' :: rest => if rest.getLast? == some ']' then some rest.dropLast else none
  | _ => none

/-- Whether a text is made of marks and of bytes that are written by a percent sign and two digits. -/
def isName : List Char → Bool
  | [] => true
  | '%' :: high :: low :: rest => isHexDigit high && isHexDigit low && isName rest
  | c :: rest => isMark c && isName rest

/-- Whether a text is an address of a version to come: a `v`, the version, a point, and then marks and
colons. -/
def isFuture (text : List Char) : Bool :=
  match cut '.' text with
  | (letter :: version, some address) =>
    (letter == 'v' || letter == 'V') && !version.isEmpty && version.all isHexDigit
      && !address.isEmpty && address.all fun c => isMark c || c == ':'
  | _ => false

/-- Whether a text is an address that stands in brackets; it has no zone. -/
def isInner (text : List Char) : Bool :=
  (Address.isSix text && !text.contains '%') || isFuture text

def isHost (text : List Char) : Bool :=
  match inBrackets? text with
  | some inside => isInner inside
  | none => isName text

def lastPort : Nat := 65535

def isPort (text : List Char) : Bool :=
  isNumber text && decimalNumber (text.filterMap asciiDigit?) ≤ lastPort

def isWellFormed (text : List Char) : Bool :=
  match Authority.splitHost text with
  | (host, []) => isHost host
  | (host, colon :: port) => isHost host && colon == ':' && isPort port

end BridgeState.Place
