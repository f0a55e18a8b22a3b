/-!
# UTF-8

`encode` gives the bytes of a text. `decode` reads any bytes: a well-formed sequence gives its
character, and every longest start of a sequence that is cut short or cannot be completed gives
one replacement character U+FFFD.
-/

namespace BridgeState.Text.Utf8

set_option autoImplicit false

def encodeChar (c : Char) : List UInt8 :=
  let code := c.toNat
  if code < 0x80 then [UInt8.ofNat code]
  else if code < 0x800 then
    [UInt8.ofNat (0xC0 + code / 0x40), UInt8.ofNat (0x80 + code % 0x40)]
  else if code < 0x10000 then
    [UInt8.ofNat (0xE0 + code / 0x1000), UInt8.ofNat (0x80 + code / 0x40 % 0x40),
     UInt8.ofNat (0x80 + code % 0x40)]
  else
    [UInt8.ofNat (0xF0 + code / 0x40000), UInt8.ofNat (0x80 + code / 0x1000 % 0x40),
     UInt8.ofNat (0x80 + code / 0x40 % 0x40), UInt8.ofNat (0x80 + code % 0x40)]

def encode (text : List Char) : List UInt8 :=
  text.flatMap encodeChar

/-- What a first byte announces: the bits it carries, how many bytes follow, and the range of the
next one. -/
structure Lead where
  bits : Nat
  following : Nat
  low : Nat
  high : Nat

def lead? (byte : Nat) : Option Lead :=
  if 0xC2 ≤ byte && byte ≤ 0xDF then some ⟨byte - 0xC0, 1, 0x80, 0xBF⟩
  else if byte == 0xE0 then some ⟨0, 2, 0xA0, 0xBF⟩
  else if byte == 0xED then some ⟨0xD, 2, 0x80, 0x9F⟩
  else if 0xE1 ≤ byte && byte ≤ 0xEF then some ⟨byte - 0xE0, 2, 0x80, 0xBF⟩
  else if byte == 0xF0 then some ⟨0, 3, 0x90, 0xBF⟩
  else if 0xF1 ≤ byte && byte ≤ 0xF3 then some ⟨byte - 0xF0, 3, 0x80, 0xBF⟩
  else if byte == 0xF4 then some ⟨4, 3, 0x80, 0x8F⟩
  else none

def replacement : Char := '\ufffd'

/-- Reads on with a sequence begun: `state` holds what its next byte must satisfy. -/
def decodeWith : Option Lead → List UInt8 → List Char
  | none, [] => []
  | some _, [] => [replacement]
  | none, byte :: rest =>
    if byte.toNat < 0x80 then Char.ofNat byte.toNat :: decodeWith none rest
    else match lead? byte.toNat with
      | some lead => decodeWith (some lead) rest
      | none => replacement :: decodeWith none rest
  | some state, byte :: rest =>
    if state.low ≤ byte.toNat && byte.toNat ≤ state.high then
      let bits := 0x40 * state.bits + byte.toNat % 0x40
      if state.following == 1 then Char.ofNat bits :: decodeWith none rest
      else decodeWith (some ⟨bits, state.following - 1, 0x80, 0xBF⟩) rest
    else if byte.toNat < 0x80 then
      replacement :: Char.ofNat byte.toNat :: decodeWith none rest
    else match lead? byte.toNat with
      | some lead => replacement :: decodeWith (some lead) rest
      | none => replacement :: replacement :: decodeWith none rest

def decode (bytes : List UInt8) : List Char :=
  decodeWith none bytes

end BridgeState.Text.Utf8
