import BridgeState.Number.Shortest
import BridgeState.Text.CodePoint

/-!
# JSON values

A value keeps what a reader can still see: whether a number was written as an integer or with a
fraction or exponent, integers of any size, single surrogates in a text, and the order of an object's
members.
-/

namespace BridgeState

set_option autoImplicit false

inductive Json where
  | null
  | bool (value : Bool)
  | int (value : Int)
  | float (value : Binary64)
  | str (value : Text)
  | arr (items : List Json)
  | obj (members : List (Text × Json))
deriving Inhabited

abbrev Members : Type :=
  List (Text × Json)

namespace Json

section Members

variable {α : Type}

/-- The member of that name; a name occurs once in a value that was read. -/
def lookup (name : Text) (members : List (Text × α)) : Option α :=
  match members with
  | [] => none
  | (key, value) :: rest => if key == name then some value else lookup name rest

/-- A member of a known name keeps its place and takes the new value. -/
def insert (name : Text) (value : α) (members : List (Text × α)) : List (Text × α) :=
  match members with
  | [] => [(name, value)]
  | (key, old) :: rest =>
    if key == name then (key, value) :: rest else (key, old) :: insert name value rest

theorem lookup_insert_self (name : Text) (value : α) (members : List (Text × α)) :
    lookup name (insert name value members) = some value := by
  induction members with
  | nil => simp [insert, lookup]
  | cons first rest ih =>
    by_cases same : first.1 == name <;> simp [insert, lookup, same, ih]

theorem lookup_insert_ne (name other : Text) (value : α) (members : List (Text × α))
    (different : other ≠ name) :
    lookup other (insert name value members) = lookup other members := by
  induction members with
  | nil =>
    have apart : (name == other) = false := by simpa using different.symm
    simp [insert, lookup, apart]
  | cons first rest ih =>
    by_cases same : first.1 == name
    · have key : first.1 = name := by simpa using same
      have apart : (name == other) = false := by simpa using different.symm
      simp [insert, lookup, key, apart]
    · simp [insert, lookup, same, ih]

/-- Further members put in one after the other, a repeated name taking its last value. -/
def insertAll (members pairs : List (Text × α)) : List (Text × α) :=
  pairs.foldl (fun members pair => insert pair.1 pair.2 members) members

/-- Members in the order of a list of pairs, a repeated name taking its last value. -/
def membersOf (pairs : List (Text × α)) : List (Text × α) :=
  insertAll [] pairs

end Members

def ofOption {α : Type} (write : α → Json) : Option α → Json
  | some value => write value
  | none => .null

def nat (value : Nat) : Json :=
  .int value

def string (value : String) : Json :=
  .str value

/-- Whether a value is something: not null, not false, not zero and not empty. -/
def isSomething : Json → Bool
  | .null => false
  | .bool value => value
  | .int value => value != 0
  | .float value => value.toInt? != some 0
  | .str text => !text.isEmpty
  | .arr items => !items.isEmpty
  | .obj members => !members.isEmpty

/-- The integer that a value is; what is true counts as one. -/
def integer? : Json → Option Int
  | .int value => some value
  | .bool value => some (if value then 1 else 0)
  | _ => none

def fitsWord (value : Int) : Bool :=
  -Int.pow 2 63 ≤ value && value < Int.pow 2 63

def kindName : Json → String
  | .null => "NoneType"
  | .bool _ => "bool"
  | .int _ => "int"
  | .float _ => "float"
  | .str _ => "str"
  | .arr _ => "list"
  | .obj _ => "dict"

end Json

end BridgeState
