/-!
# Decimal and hexadecimal digits

A decimal digit is a character of Unicode category Nd (version 14.0): each script's digits stand
in order behind their zero, so the zeros are the whole table. Hexadecimal digits are those of
ASCII.
-/

namespace BridgeState.Text

set_option autoImplicit false

def zeroCodes : List Nat :=
  [0x30, 0x660, 0x6F0, 0x7C0, 0x966, 0x9E6, 0xA66, 0xAE6, 0xB66, 0xBE6,
   0xC66, 0xCE6, 0xD66, 0xDE6, 0xE50, 0xED0, 0xF20, 0x1040, 0x1090, 0x17E0,
   0x1810, 0x1946, 0x19D0, 0x1A80, 0x1A90, 0x1B50, 0x1BB0, 0x1C40, 0x1C50, 0xA620,
   0xA8D0, 0xA900, 0xA9D0, 0xA9F0, 0xAA50, 0xABF0, 0xFF10, 0x104A0, 0x10D30, 0x11066,
   0x110F0, 0x11136, 0x111D0, 0x112F0, 0x11450, 0x114D0, 0x11650, 0x116C0, 0x11730, 0x118E0,
   0x11950, 0x11C50, 0x11D50, 0x11DA0, 0x16A60, 0x16AC0, 0x16B50, 0x1D7CE, 0x1D7D8, 0x1D7E2,
   0x1D7EC, 0x1D7F6, 0x1E140, 0x1E2F0, 0x1E950, 0x1FBF0]

def decimalValue? (c : Char) : Option Nat :=
  zeroCodes.findSome? fun first =>
    if first ≤ c.toNat && c.toNat < first + 10 then some (c.toNat - first) else none

def asciiDigit? (c : Char) : Option Nat :=
  if 0x30 ≤ c.toNat && c.toNat ≤ 0x39 then some (c.toNat - 0x30) else none

def hexValue? (c : Char) : Option Nat :=
  if 0x30 ≤ c.toNat && c.toNat ≤ 0x39 then some (c.toNat - 0x30)
  else if 0x61 ≤ c.toNat && c.toNat ≤ 0x66 then some (c.toNat - 0x57)
  else if 0x41 ≤ c.toNat && c.toNat ≤ 0x46 then some (c.toNat - 0x37)
  else none

/-- The characters that are hexadecimal digits, with their values. -/
theorem hexValue_eq_some_iff {c : Char} {value : Nat} : hexValue? c = some value ↔
    (0x30 ≤ c.toNat ∧ c.toNat ≤ 0x39 ∧ c.toNat = 0x30 + value) ∨
    (0x61 ≤ c.toNat ∧ c.toNat ≤ 0x66 ∧ c.toNat = 0x57 + value) ∨
    (0x41 ≤ c.toNat ∧ c.toNat ≤ 0x46 ∧ c.toNat = 0x37 + value) := by
  simp only [hexValue?, Bool.and_eq_true, decide_eq_true_eq]
  split
  · rw [Option.some.injEq]
    omega
  · split
    · rw [Option.some.injEq]
      omega
    · split
      · rw [Option.some.injEq]
        omega
      · simp only [reduceCtorEq, false_iff]
        omega

def isHexDigit (c : Char) : Bool :=
  (hexValue? c).isSome

def isLowerHexDigit (c : Char) : Bool :=
  (0x30 ≤ c.toNat && c.toNat ≤ 0x39) || (0x61 ≤ c.toNat && c.toNat ≤ 0x66)

def hexDigit (value : Nat) : Char :=
  if value < 10 then Char.ofNat (0x30 + value) else Char.ofNat (0x57 + value)

theorem hexValue_hexDigit (value : Nat) (small : value < 16) :
    hexValue? (hexDigit value) = some value := by
  have all : ∀ v : Fin 16, hexValue? (hexDigit v.val) = some v.val := by decide
  exact all ⟨value, small⟩

theorem isLowerHexDigit_hexDigit (value : Nat) (small : value < 16) :
    isLowerHexDigit (hexDigit value) = true := by
  have all : ∀ v : Fin 16, isLowerHexDigit (hexDigit v.val) = true := by decide
  exact all ⟨value, small⟩

end BridgeState.Text
