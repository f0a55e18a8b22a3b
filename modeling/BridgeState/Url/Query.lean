import BridgeState.Text.Percent
import BridgeState.Text.Split

/-!
# Query texts

A query is a list of names and values with ampersands between them. `pairs` leaves out what has no
value; `fields` takes the value for empty there.
-/

namespace BridgeState.Url.Query

set_option autoImplicit false

open Text

def pair? (piece : List Char) : Option (List Char × List Char) :=
  match cut '=' piece with
  | (name, some (first :: rest)) =>
    some (Percent.decodeForm name, Percent.decodeForm (first :: rest))
  | _ => none

def pairs (query : List Char) : List (List Char × List Char) :=
  (pieces '&' query).filterMap pair?

/-- A name and its value, which is empty where nothing says otherwise. -/
def field? (piece : List Char) : Option (List Char × List Char) :=
  match piece with
  | [] => none
  | _ =>
    let (name, value) := cut '=' piece
    some (Percent.decodeForm name, Percent.decodeForm (value.getD []))

def fields (query : List Char) : List (List Char × List Char) :=
  (pieces '&' query).filterMap field?

def first? (name : List Char) (query : List Char) : Option (List Char) :=
  ((pairs query).find? fun pair => pair.1 == name).map Prod.snd

end BridgeState.Url.Query
