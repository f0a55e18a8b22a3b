import BridgeState.Http.Message
import BridgeState.Json.Reader
import BridgeState.Schema.Checked
import BridgeState.Text.Blank
import BridgeState.Text.Encoding

/-!
# Bodies that hold a batch

A batch is sent as an object whose member `events` lists one event or more. `readBatch` gives the
listed objects, or the response that refuses the body. A body is read as JSON only if its type says
that it is; a body of another type, or of none, is a text and no object.
-/

namespace BridgeState.Http

set_option autoImplicit false

open Text

def isJsonType (contentType : String) : Bool :=
  let full := trim isStrippable (cut ';' contentType.toList).1
  match (pieces '/' full).map fun part => asciiUpperString (String.ofList part) with
  | [kind, form] => kind == "APPLICATION" && (form == "JSON" || form.endsWith "+JSON")
  | _ => false

def objectComplaints : Nat → List Json → List Complaint
  | _, [] => []
  | index, .obj _ :: rest => objectComplaints (index + 1) rest
  | index, item :: rest =>
    ⟨[.item index], .notObject, .plain item⟩ :: objectComplaints (index + 1) rest

def batchItems : Json → Checked (List Json)
  | .arr [] => .fail (.tooFewItems 1 0) (.arr [])
  | .arr items =>
    match objectComplaints 0 items with
    | [] => .valid items
    | complaints => .invalid complaints
  | other => .fail .notList other

def batchOfJson : Json → Checked (List Json)
  | .obj members =>
    match Json.lookup "events" members with
    | none => Checked.under (.field "events") (.fail .missing (.obj members))
    | some events => (batchItems events).under (.field "events")
  | other => .fail .notFields other

def batchOfChecked (batch : Checked (List Json)) : Except Response (List Json) :=
  match batch.under (.field "body") with
  | .valid items => .ok items
  | .invalid complaints => .error (.unprocessable complaints)

/-- The refusal of a body that is no text, or more than a reader takes. -/
def unreadableBody : Response :=
  .refused 400 (.str "There was an error parsing the body")

def batchOfText (text : Text) : Except Response (List Json) :=
  match Json.readWithin Json.nestingLimit text with
  | .ok value => batchOfChecked (batchOfJson value)
  | .error (.grammar fault rest) =>
    let place := (Json.ReadProblem.grammar fault rest).position text
    batchOfChecked (.invalid [⟨[.item place], .badJson, .plain (.obj [])⟩])
  | .error _ => .error unreadableBody

def readBatch (contentType : Option String) (body : String) : Except Response (List Json) :=
  if body.isEmpty then batchOfChecked (.fail .missing .null)
  else if contentType.any isJsonType then
    let bytes := Utf8.encode body.toList
    match (Encoding.ofBytes bytes).decode bytes with
    | some text => batchOfText text
    | none => .error unreadableBody
  else batchOfChecked (.fail .notFields (.str body))

end BridgeState.Http
