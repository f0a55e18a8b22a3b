import BridgeState.Text.LetterCase
import BridgeState.Text.Digit
import BridgeState.Text.Quoted

/-!
# Hexadecimal ids and addresses

A `HexString` is a text in normal form: `0x` and one or more hexadecimal digits, none of them a
capital. `HexString.normalize` accepts such a text with blanks around it and letters of either case,
and says which of three rules any other text breaks.
-/

namespace BridgeState

set_option autoImplicit false

open Text

def isNormalHexChars : List Char → Bool
  | '0' :: 'x' :: digit :: more => isLowerHexDigit digit && more.all isLowerHexDigit
  | _ => false

def isNormalHex (text : String) : Bool :=
  isNormalHexChars text.toList

/-- An id or address in normal form. -/
structure HexString where
  text : String
  normal : isNormalHex text = true

namespace HexString

theorem ext_text {a b : HexString} (same : a.text = b.text) : a = b := by
  cases a; cases b; cases same; rfl

@[simp] theorem text_inj {a b : HexString} : a.text = b.text ↔ a = b :=
  ⟨ext_text, congrArg text⟩

instance : DecidableEq HexString := fun a b =>
  if same : a.text = b.text then isTrue (ext_text same)
  else isFalse fun equal => same (congrArg HexString.text equal)

instance : Repr HexString where
  reprPrec hex _ := repr hex.text

end HexString

inductive HexFault where
  | notMarked (value : Text)
  | noDigits
  | notHex (value : Text)
deriving Repr, DecidableEq

def HexFault.message : HexFault → String
  | .notMarked value => "hex value must be 0x-prefixed, got " ++ quoted value
  | .noDigits => "hex value has no digits"
  | .notHex value => "hex value contains non-hex characters: " ++ quoted value

/-- The text on which acceptance is decided: blanks taken off, letters small. A surrogate is no
digit, and what stands for it here is none. -/
def canonicalText (value : Text) : String :=
  String.ofList (lower (trim isStrippable value.shownChars))

def hexMarked (text : List Char) : Bool :=
  match text with
  | '0' :: 'x' :: _ => true
  | _ => false

/-- The normal form of an id or address, or the first rule it breaks. -/
def HexString.normalize (value : Text) : Except HexFault HexString :=
  let text := canonicalText value
  if !hexMarked text.toList then .error (.notMarked value)
  else if text == "0x" then .error .noDigits
  else if normal : isNormalHex text = true then .ok ⟨text, normal⟩
  else .error (.notHex value)

end BridgeState
