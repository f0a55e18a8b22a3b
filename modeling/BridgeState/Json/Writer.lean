import BridgeState.Json.Value
import BridgeState.Text.Quoted

/-!
# Writing JSON

`Json.render` writes a value on one line, a comma or colon followed by a space, in ASCII: other
characters are escaped by their sixteen-bit units. `Json.compact` leaves out the spaces and the
escapes that nothing needs. `Json.sorted` orders the members of every object by name. `Json.display` is the plain text that messages show for a value, and `Json.literal` the
same with texts quoted.
-/

namespace BridgeState.Json

set_option autoImplicit false

open Text

def escapedUnit (code : Nat) : List Char :=
  '\\' :: 'u' :: hexPadded 4 code

def escapedChar (c : Char) : List Char :=
  if c == '\x22' || c == '\\' then ['\\', c]
  else if c == '\n' then ['\\', 'n']
  else if c == '\r' then ['\\', 'r']
  else if c == '\t' then ['\\', 't']
  else if c == '\x08' then ['\\', 'b']
  else if c == '\x0c' then ['\\', 'f']
  else if 0x20 ≤ c.toNat && c.toNat ≤ 0x7E then [c]
  else if c.toNat < 0x10000 then escapedUnit c.toNat
  else
    escapedUnit (0xD800 + (c.toNat - 0x10000) / 0x400) ++
      escapedUnit (0xDC00 + (c.toNat - 0x10000) % 0x400)

def escapedPoint : CodePoint → List Char
  | .char c => escapedChar c
  | .surrogate index => escapedUnit (CodePoint.surrogate index).code

def renderString (text : Text) : String :=
  String.ofList ('\x22' :: (text.points.flatMap escapedPoint ++ ['\x22']))

def renderFloat : Binary64 → String :=
  Binary64.renderWith "Infinity" "NaN"

def renderBool (value : Bool) : String :=
  if value then "true" else "false"

mutual

def render : Json → String
  | .null => "null"
  | .bool value => renderBool value
  | .int value => toString value
  | .float value => renderFloat value
  | .str value => renderString value
  | .arr items => "[" ++ String.intercalate ", " (renderItems items) ++ "]"
  | .obj members => "\x7b" ++ String.intercalate ", " (renderMembers members) ++ "\x7d"

def renderItems : List Json → List String
  | [] => []
  | item :: rest => render item :: renderItems rest

def renderMembers : List (Text × Json) → List String
  | [] => []
  | (name, value) :: rest => (renderString name ++ ": " ++ render value) :: renderMembers rest

end

/-- A character of a compact text: quotes, backslashes and controls are escaped, and nothing else. -/
def compactPoint (point : CodePoint) : List CodePoint :=
  match point with
  | .char c =>
    if c.toNat < 0x20 || c == '\x22' || c == '\\' then (escapedChar c).map .char else [point]
  | .surrogate _ => [point]

def compactString (text : Text) : Text :=
  "\"" ++ ⟨text.points.flatMap compactPoint⟩ ++ "\""

mutual

/-- A value with nothing behind its commas and colons, characters as they are. -/
def compact : Json → Text
  | .str value => compactString value
  | .arr items => "[" ++ Text.joined "," (compactItems items) ++ "]"
  | .obj members => "\x7b" ++ Text.joined "," (compactMembers members) ++ "\x7d"
  | .null => "null"
  | .bool value => renderBool value
  | .int value => toString value
  | .float value => renderFloat value

def compactItems : List Json → List Text
  | [] => []
  | item :: rest => compact item :: compactItems rest

def compactMembers : List (Text × Json) → List Text
  | [] => []
  | (name, value) :: rest => (compactString name ++ ":" ++ compact value) :: compactMembers rest

end

mutual

/-- Whether a number in the value is infinite or none at all. -/
def hasNonFinite : Json → Bool
  | .float (.finite _ _ _) => false
  | .float _ => true
  | .arr items => hasNonFiniteItem items
  | .obj members => hasNonFiniteMember members
  | _ => false

def hasNonFiniteItem : List Json → Bool
  | [] => false
  | item :: rest => hasNonFinite item || hasNonFiniteItem rest

def hasNonFiniteMember : List (Text × Json) → Bool
  | [] => false
  | (_, value) :: rest => hasNonFinite value || hasNonFiniteMember rest

end

/-- Places a member before the first one whose name is not smaller. -/
def insertSorted (member : Text × Json) : Members → Members
  | [] => [member]
  | first :: rest =>
    if first.1 < member.1 then first :: insertSorted member rest else member :: first :: rest

mutual

def sorted : Json → Json
  | .arr items => .arr (sortedItems items)
  | .obj members => .obj (sortedMembers members)
  | value => value

def sortedItems : List Json → List Json
  | [] => []
  | item :: rest => sorted item :: sortedItems rest

def sortedMembers : List (Text × Json) → List (Text × Json)
  | [] => []
  | (name, value) :: rest => insertSorted (name, sorted value) (sortedMembers rest)

end

mutual

def literal : Json → String
  | .null => "None"
  | .bool value => if value then "True" else "False"
  | .int value => toString value
  | .float value => Binary64.renderWith "inf" "nan" value
  | .str value => quoted value
  | .arr items => "[" ++ String.intercalate ", " (literalItems items) ++ "]"
  | .obj members => "\x7b" ++ String.intercalate ", " (literalMembers members) ++ "\x7d"

def literalItems : List Json → List String
  | [] => []
  | item :: rest => literal item :: literalItems rest

def literalMembers : List (Text × Json) → List String
  | [] => []
  | (name, value) :: rest => (quoted name ++ ": " ++ literal value) :: literalMembers rest

end

/-- The text of a value on its own: a text is shown as it is. -/
def display : Json → Text
  | .str value => value
  | value => literal value

end BridgeState.Json
