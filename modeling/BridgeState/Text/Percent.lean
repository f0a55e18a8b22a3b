import BridgeState.Text.Digit
import BridgeState.Text.Utf8

/-!
# Percent-encoding

`encode` writes a text so that the safe characters stand for themselves and every byte of the UTF-8
form of another is a percent sign and two digits. For `encodeForm` only letters, digits and `_ . - ~` are
safe, and a space becomes a plus sign. `decode` reads percent signs back and leaves everything else
alone, `decodeForm` first turns plus signs into spaces.
-/

namespace BridgeState.Text.Percent

set_option autoImplicit false

/-- Letters, digits and the four marks that are never encoded. -/
def isPlain (code : Nat) : Bool :=
  (0x30 ≤ code && code ≤ 0x39) || (0x41 ≤ code && code ≤ 0x5A) || (0x61 ≤ code && code ≤ 0x7A)
    || code == 0x5F || code == 0x2E || code == 0x2D || code == 0x7E

def upperHexDigit (value : Nat) : Char :=
  if value < 10 then Char.ofNat (0x30 + value) else Char.ofNat (0x37 + value)

def escaped (byte : UInt8) : List Char :=
  ['%', upperHexDigit (byte.toNat / 16), upperHexDigit (byte.toNat % 16)]

def encode (safe : Char → Bool) (text : List Char) : List Char :=
  text.flatMap fun c => if safe c then [c] else (Utf8.encodeChar c).flatMap escaped

/-- A text of safe characters stands for itself. -/
theorem encode_of_safe (safe : Char → Bool) (text : List Char) (all : ∀ c ∈ text, safe c = true) :
    encode safe text = text := by
  induction text with
  | nil => rfl
  | cons c rest ih =>
    have own : encode safe rest = rest := ih fun d inside => all d (by simp [inside])
    unfold encode at own ⊢
    simp [all c (by simp), own]

def encodeByte (byte : UInt8) : List Char :=
  if isPlain byte.toNat then [Char.ofNat byte.toNat]
  else if byte.toNat == 0x20 then ['+']
  else escaped byte

def encodeForm (text : List Char) : List Char :=
  (Utf8.encode text).flatMap encodeByte

/-- The bytes of a text, each percent sign with two digits behind it read as one byte. -/
def decodeBytes : List Char → List UInt8
  | [] => []
  | '%' :: high :: low :: rest =>
    match hexValue? high, hexValue? low with
    | some h, some l => UInt8.ofNat (16 * h + l) :: decodeBytes rest
    | _, _ => 0x25 :: decodeBytes (high :: low :: rest)
  | c :: rest => Utf8.encodeChar c ++ decodeBytes rest

def decode (text : List Char) : List Char :=
  Utf8.decode (decodeBytes text)

def plusToSpace (text : List Char) : List Char :=
  text.map fun c => if c == '+' then ' ' else c

def decodeForm (text : List Char) : List Char :=
  decode (plusToSpace text)

end BridgeState.Text.Percent
