import BridgeState.Text.CodePoint
import BridgeState.Text.Utf8

/-!
# Encodings of JSON

A text of JSON begins with ASCII characters, so zeros among its first bytes tell how many bytes its
units have and which of them comes first. `Encoding.ofBytes` looks for them and `Encoding.decode`
reads the bytes. Single surrogates are kept. Without zeros the bytes are those of a text in UTF-8, in
front of which a byte order mark may stand.
-/

namespace BridgeState

set_option autoImplicit false

/-- Units of one, two or four bytes; of the larger ones the first byte is the highest or the lowest. -/
inductive Encoding where
  | utf8
  | utf16 (highFirst : Bool)
  | utf32 (highFirst : Bool)
deriving Repr, DecidableEq

namespace Encoding

open Text

def ofBytes : List UInt8 → Encoding
  | [first, second] =>
    if first = 0 then .utf16 true else if second = 0 then .utf16 false else .utf8
  | first :: second :: third :: fourth :: _ =>
    if first = 0 then if second = 0 then .utf32 true else .utf16 true
    else if second = 0 then
      if third = 0 ∧ fourth = 0 then .utf32 false else .utf16 false
    else .utf8
  | _ => .utf8

def unit (bytes : List UInt8) : Nat :=
  bytes.foldl (fun number byte => 256 * number + byte.toNat) 0

def ordered (highFirst : Bool) (bytes : List UInt8) : Nat :=
  unit (if highFirst then bytes else bytes.reverse)

/-- The units of two bytes; none where a byte is left over. -/
def pairs (highFirst : Bool) : List UInt8 → Option (List Nat)
  | [] => some []
  | [_] => none
  | a :: b :: rest => (pairs highFirst rest).map (ordered highFirst [a, b] :: ·)

/-- The units of four bytes; none where bytes are left over. -/
def quadruples (highFirst : Bool) : List UInt8 → Option (List Nat)
  | [] => some []
  | a :: b :: c :: d :: rest =>
    (quadruples highFirst rest).map (ordered highFirst [a, b, c, d] :: ·)
  | _ => none

def joinHalves : List Nat → List CodePoint
  | [] => []
  | [unit] => [.ofCode unit]
  | high :: low :: rest =>
    if 0xD800 ≤ high ∧ high < 0xDC00 ∧ 0xDC00 ≤ low ∧ low < 0xE000 then
      .ofCode (0x10000 + (high - 0xD800) * 0x400 + (low - 0xDC00)) :: joinHalves rest
    else .ofCode high :: joinHalves (low :: rest)

def decode (bytes : List UInt8) : Encoding → Option Text
  | .utf8 =>
    match Utf8.decode bytes with
    | '\ufeff' :: rest => some (.ofChars rest)
    | chars => some (.ofChars chars)
  | .utf16 highFirst => (pairs highFirst bytes).map fun units => ⟨joinHalves units⟩
  | .utf32 highFirst =>
    match quadruples highFirst bytes with
    | some codes =>
      if codes.all (· < 0x110000) then some ⟨codes.map .ofCode⟩ else none
    | none => none

end Encoding

end BridgeState
