import BridgeState.Engine.Basic
import BridgeState.Schema.Report
import BridgeState.Text.Charset
import BridgeState.Text.LetterCase
import BridgeState.Url.Place
import BridgeState.Url.Query

/-!
# Requests and responses

A request is sent by a scheme to a place; it names a path and carries a query, headers and a body. A
response has a status, a JSON body and says whether it may be kept for a while; in its place the request
may be sent elsewhere. Names of headers are compared without regard to letter case.
-/

namespace BridgeState.Http

set_option autoImplicit false

open Text

abbrev Headers : Type :=
  List (String × String)

namespace Headers

def isNamed (name : String) (header : String × String) : Bool :=
  asciiUpperString header.1 == asciiUpperString name

def get? (name : String) (headers : Headers) : Option String :=
  (headers.find? (isNamed name)).map Prod.snd

/-- The headers with one value under a name, where the first of that name stood or at the end. -/
def set (name value : String) : Headers → Headers
  | [] => [(name, value)]
  | header :: rest =>
    if isNamed name header then (name, value) :: rest.filter fun other => !isNamed name other
    else header :: set name value rest

end Headers

structure Request where
  method : String
  scheme : List Char
  /-- Host and port to which the request was sent. -/
  place : List Char
  path : List Char
  query : List Char
  headers : Headers
  body : String

namespace Request

def header? (name : String) (request : Request) : Option String :=
  request.headers.get? name

def id? (request : Request) : Option String :=
  request.header? "X-Request-ID"

/-- The parameters of the query as members of an object; of a repeated name the last value counts. -/
def members (request : Request) : Members :=
  Json.membersOf ((Url.Query.fields request.query).map fun field =>
    (ofChars field.1, Json.string (String.ofList field.2)))

/-- Characters of a path that do not end it where it is written. -/
def isWithinPath (c : Char) : Bool :=
  c != '?' && c != '#'

def hostHeader : String := "Host"

/-- Host and port that are asked: those that the request tells, unless they are malformed or it tells
none, and else those to which it was sent. -/
def host (request : Request) : List Char :=
  match request.header? hostHeader with
  | some told => if Place.isWellFormed told.toList then told.toList else request.place
  | none => request.place

/-- The locator of a path at the host that is asked. -/
def locatorOf (path : List Char) (request : Request) : List Char :=
  request.scheme ++ "://".toList ++ request.host ++ Percent.encode isWithinPath path
    ++ (if request.query.isEmpty then [] else '?' :: request.query)

end Request

structure Response where
  status : Nat
  body : Json
  cacheControl : Option String
  /-- The id that the caller gave the request. -/
  requestId : Option String

namespace Response

def plain (status : Nat) (body : Json) : Response :=
  ⟨status, body, none, none⟩

def ok (body : Json) : Response :=
  plain 200 body

def shared (body : Json) : Response :=
  { ok body with cacheControl := some "public, max-age=5" }

def refused (status : Nat) (detail : Json) : Response :=
  plain status (.obj [("detail", detail)])

end Response

/-- The refusal of a request that is not as it should be; it shows what was found there. -/
def Response.unprocessable (complaints : List Complaint) : Response :=
  .refused 422 (.arr (complaints.map Complaint.toJsonInFull))

/-- What a request is answered with: a response, or the locator of what to ask for instead. -/
inductive Answer where
  | response (response : Response)
  | redirect (location : List Char)

inductive ServiceFault where
  | locator (fault : UrlFault)
  | engine (fault : EngineFault)
  | unwritable (cause : Unwritable)
  | unencodable (cause : Unencodable)
  | unordered (kindName : String)

def ServiceFault.message : ServiceFault → Text
  | .locator fault => fault.message
  | .engine fault => fault.message
  | .unwritable cause => cause.message
  | .unencodable cause => cause.message
  | .unordered kindName =>
    s!"'>' not supported between instances of '{kindName}' and '{kindName}'"

/-- A response goes out if its body can be written as JSON and encoded. -/
def Response.sent (response : Response) : Except ServiceFault Response :=
  if response.body.hasNonFinite then .error (.unwritable .notFinite)
  else match Charset.utf8.refusal? response.body.compact with
  | some cause => .error (.unencodable cause)
  | none => .ok response

end BridgeState.Http
