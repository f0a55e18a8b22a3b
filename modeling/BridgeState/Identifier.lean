import BridgeState.Hex
import BridgeState.Keccak
import BridgeState.Json.Writer

/-!
# Derived ids

A record that exists once per block has no id of its own: its id is the digest of a salt followed
by the block number in hexadecimal, with one zero in front where the digits are odd in number. The
same salt and block always give the same id. `hashedBytes` is the byte string that is digested; it
reads pairs of digits and lets white space stand between pairs, not inside one.
-/

namespace BridgeState.Identifier

set_option autoImplicit false

open Text

inductive IdentifierFault where
  | notInteger (kind : String)
  | negative (block : Int)
  | badSalt (salt : String)
deriving Repr, DecidableEq

def IdentifierFault.message : IdentifierFault → String
  | .notInteger kind => s!"block_number must be an int, got {kind}"
  | .negative block => s!"block_number must be non-negative, got {block}"
  | .badSalt salt => "salt " ++ quoted salt ++ " is not a hex string"

def hexNumeral (number : Nat) : List Char :=
  Nat.toDigits 16 number

/-- One zero in front of a text of odd length. -/
def evenLength (text : List Char) : List Char :=
  if text.length % 2 = 1 then '0' :: text else text

/-- The bytes that pairs of hexadecimal digits denote, white space allowed between pairs. -/
def bytesOfHex : List Char → Option (List UInt8)
  | [] => some []
  | c :: rest =>
    if isAsciiWhite c then bytesOfHex rest
    else match rest with
      | [] => none
      | d :: more =>
        match hexValue? c, hexValue? d with
        | some high, some low => (bytesOfHex more).map (UInt8.ofNat (16 * high + low) :: ·)
        | _, _ => none

/-- The body of an id before it is read as bytes. -/
def body (salt : String) (block : Nat) : List Char :=
  evenLength (salt.toList ++ hexNumeral block)

def hashedBytes (salt : String) (block : Nat) : Option (List UInt8) :=
  bytesOfHex (body salt block)

def byteText (byte : UInt8) : List Char :=
  [hexDigit (byte.toNat / 16), hexDigit (byte.toNat % 16)]

/-- A byte string as an id: marked, two digits a byte. -/
def idText (bytes : List UInt8) : String :=
  String.ofList ('0' :: 'x' :: bytes.flatMap byteText)

theorem isLowerHexDigit_byteText (byte : UInt8) :
    (byteText byte).all isLowerHexDigit = true := by
  have bound : byte.toNat < 256 := byte.toNat_lt
  simp [byteText, isLowerHexDigit_hexDigit (byte.toNat / 16) (by omega),
    isLowerHexDigit_hexDigit (byte.toNat % 16) (Nat.mod_lt _ (by decide))]

theorem isNormalHex_idText (byte : UInt8) (rest : List UInt8) :
    isNormalHex (idText (byte :: rest)) = true := by
  have all : ((byte :: rest).flatMap byteText).all isLowerHexDigit = true := by
    rw [List.all_flatMap, List.all_eq_true]
    exact fun b _ => isLowerHexDigit_byteText b
  rw [isNormalHex, idText, String.toList_ofList]
  simpa [isNormalHexChars, byteText] using all

def digestId (bytes : List UInt8) : HexString :=
  ⟨idText (Keccak.digest bytes), by
    have size := Keccak.digest_length bytes
    cases found : Keccak.digest bytes with
    | nil => simp [found] at size
    | cons byte rest => exact isNormalHex_idText byte rest⟩

def derive (salt : String) (block : Nat) : Except IdentifierFault HexString :=
  match hashedBytes salt block with
  | some bytes => .ok (digestId bytes)
  | none => .error (.badSalt salt)

/-- The id of a salt and a block number that may be any value. -/
def deriveFrom (salt : String) (block : Json) : Except IdentifierFault HexString :=
  match block with
  | .int number =>
    if number < 0 then .error (.negative number) else derive salt number.toNat
  | other => .error (.notInteger other.kindName)

theorem deriveFrom_nat (salt : String) (block : Nat) :
    deriveFrom salt (.nat block) = derive salt block := by
  have notNegative : ¬(block : Int) < 0 := by omega
  simp only [deriveFrom, Json.nat, if_neg notNegative, Int.toNat_natCast]

def limitSalt : String := "0"

theorem hexValue_digitChar (value : Nat) (small : value < 16) :
    hexValue? value.digitChar = some value ∧ isAsciiWhite value.digitChar = false := by
  have all : ∀ v : Fin 16, hexValue? v.val.digitChar = some v.val ∧
      isAsciiWhite v.val.digitChar = false := by decide
  exact all ⟨value, small⟩

theorem hexNumeral_isHexDigit (number : Nat) :
    ∀ c ∈ hexNumeral number, isHexDigit c = true ∧ isAsciiWhite c = false := by
  induction number using Nat.strongRecOn with
  | _ number ih =>
    intro c member
    rw [hexNumeral, Nat.toDigits_eq_if (by decide)] at member
    split at member
    · rename_i small
      rw [List.mem_singleton] at member
      subst member
      have digit := hexValue_digitChar number small
      simp [isHexDigit, digit.1, digit.2]
    · rename_i large
      rcases List.mem_append.mp member with inside | last
      · exact ih (number / 16) (by omega) c inside
      · rw [List.mem_singleton] at last
        subst last
        have digit := hexValue_digitChar (number % 16) (Nat.mod_lt _ (by decide))
        simp [isHexDigit, digit.1, digit.2]

/-- The id of a block's limit snapshot. The salt is a digit, so there are always bytes to digest. -/
def limitMessageId (block : Nat) : HexString :=
  digestId ((hashedBytes limitSalt block).getD [])

end BridgeState.Identifier
