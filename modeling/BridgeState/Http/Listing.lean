import BridgeState.Http.Message
import BridgeState.Schema.Decoder
import BridgeState.Store.Backend

/-!
# Listings

A listing shows a collection page by page. Its parameters choose the first block, the size of a page
and how many rows to leave out; some listings can be narrowed to one status, and the one of the
validators to those that are or are not active. Every wrong parameter is complained of, in this
order: the narrowing, the block, the size, the offset.
-/

namespace BridgeState.Http

set_option autoImplicit false

open Decoder

/-- A collection that can be listed, and how its parameters narrow it. -/
structure Listing where
  collection : Collection
  narrowing : Members → Checked (Option String)

namespace Listing

def greatestPage : Int := 1000

/-- An integer within bounds that belong to it. -/
def between (least greatest : Int) : Decoder Int := fun json =>
  (atLeast least json).andThen fun value =>
    if greatest < value then .fail (.aboveMaximum greatest) json else .valid value

/-- Narrows nothing. -/
def whole (_ : Members) : Checked (Option String) :=
  .valid none

def byStatus (α : Type) [Named α] (parameters : Members) : Checked (Option String) :=
  optional "status" none (fun json => (word α json).map fun status => some (Named.name status))
    parameters

def byActivity (parameters : Members) : Checked (Option String) :=
  optional "active" none
    (fun json => (boolean json).map fun active => some (Named.name (ValidatorState.ofActive active)))
    parameters

def query (listing : Listing) (parameters : Members) : Checked Query :=
  (Query.mk
    <$> listing.narrowing parameters
    <*> optional "since_block" none (fun json => (atLeast 0 json).map some) parameters
    <*> optional "limit" Query.standard.limit (between 1 greatestPage) parameters
    <*> optional "offset" Query.standard.offset (atLeast 0) parameters).under (.field "query")

def page (listing : Listing) (query : Query) (rows : List listing.collection.Row) : Json :=
  .obj [("collection", .str (Named.name listing.collection)),
    ("items", .arr (rows.map listing.collection.encodeRow)), ("count", .nat rows.length),
    ("limit", .int query.limit), ("offset", .int query.offset),
    ("since_block", .ofOption .int query.since)]

def answer {σ : Type} [Backend σ] (listing : Listing) (parameters : Members) (state : σ) :
    Reply σ Response :=
  match listing.query parameters with
  | .invalid complaints => (.ok (.unprocessable complaints), state)
  | .valid query =>
    match Backend.list listing.collection query state with
    | (.error fault, state) => (.error fault, state)
    | (.ok rows, state) => (.ok (.shared (listing.page query rows)), state)

end Listing

end BridgeState.Http
