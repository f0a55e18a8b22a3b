import BridgeState.Http.Listing

/-!
# Single rows and overviews

What is shown of the backend beside its listings: one message or account by its id, all limits by
name, and how far each collection has come.
-/

namespace BridgeState.Http

set_option autoImplicit false

section Lookup

variable {σ : Type} [Backend σ]

/-- The row under an id in any spelling. An id that is no hex value is refused, and so is one under
which nothing is stored; `label` and `title` name it there. -/
def rowAnswer (collection : Collection) (label title id : String) (state : σ) :
    Reply σ Response :=
  match HexString.normalize id with
  | .error _ => (.ok (.refused 400 (.str s!"Invalid {label}")), state)
  | .ok key =>
    match Backend.load collection key.text state with
    | (.error fault, state) => (.error fault, state)
    | (.ok none, state) => (.ok (.refused 404 (.str s!"{title} not found")), state)
    | (.ok (some row), state) => (.ok (.shared (collection.encodeRow row)), state)

def messageAnswer (id : String) (state : σ) : Reply σ Response :=
  rowAnswer .messages "message id" "Message id" id state

def accountAnswer (address : String) (state : σ) : Reply σ Response :=
  rowAnswer .accounts "address" "Address" address state

def limitsJson (limits : List Limit) : Json :=
  .obj <| Json.membersOf <| limits.map fun limit =>
    (limit.id, .obj [("value", .nat limit.value), ("message_id", .hex limit.messageId),
      ("block_number", .nat limit.blockNumber)])

def limitsAnswer (state : σ) : Reply σ Response :=
  match Backend.list .limits { Query.standard with limit := Listing.greatestPage } state with
  | (.error fault, state) => (.error fault, state)
  | (.ok limits, state) => (.ok (.shared (limitsJson limits)), state)

/-- The highest block of every collection, each a whole number or none. -/
def checkedBlocks (blocks : List (Collection × Json)) : Checked Members :=
  match blocks with
  | [] => .valid []
  | (collection, block) :: rest =>
    (fun value members => (Text.ofString (Named.name collection), Json.ofOption .int value) :: members)
      <$> ((Decoder.nullable Decoder.integer block).under
            (.field (Named.name collection))).under (.field "collections")
      <*> checkedBlocks rest

/-- The higher of two blocks; one that is no number gives way to nothing. -/
def higher (first second : Json) : Json :=
  match first, second with
  | .null, other => other
  | .int first, .int second => .int (max first second)
  | other, _ => other

def lastBlock (blocks : List (Collection × Json)) : Json :=
  blocks.foldl (fun highest block => higher highest block.2) .null

/-- How far the collections have come, and the furthest of them. -/
def syncJson (blocks : List (Collection × Json)) : Checked Json :=
  (fun collections last =>
    .obj [("collections", .obj collections), ("last_block_number", .ofOption .int last)])
    <$> checkedBlocks blocks
    <*> (Decoder.nullable Decoder.integer (lastBlock blocks)).under (.field "last_block_number")

def unorderedBlocks? (blocks : List (Collection × Json)) : Option String :=
  let objects := blocks.filter fun block => match block.2 with | .obj _ => true | _ => false
  if objects.length > 1 then (objects.head?).map fun block => block.2.kindName else none

def syncAnswer (state : σ) : Except ServiceFault Response × σ :=
  match Backend.sync state with
  | (.error fault, state) => (.error (.engine (.store fault)), state)
  | (.ok blocks, state) =>
    match unorderedBlocks? blocks, syncJson blocks with
    | some kindName, _ => (.error (.unordered kindName), state)
    | none, .valid body => (.ok (.ok body), state)
    | none, .invalid complaints =>
      (.error (.engine (.store (.unreadableRow "SyncStatus" complaints))), state)

end Lookup

end BridgeState.Http
