import BridgeState.Http.Service
import BridgeState.Http.Client.Reference

/-!
# Clients

A client makes a call to the service: it puts a reference to what is asked for together, sends a request
and follows where it is sent, up to a limit. A reference that is not whole is asked for at home. Escapes
of a path are undone twice on the way: by the client before it sends, and by the service before it looks.
-/

namespace BridgeState.Http

set_option autoImplicit false

open Text

/-- A call as it is made. Parameters that are given take the place of those in the target. -/
structure Call where
  method : String
  target : String
  parameters : Option (List (String × String))
  headers : Members
  body : String

inductive ClientFault where
  | reference (fault : ReferenceFault)
  | location (fault : ReferenceFault)
  | headerKind (kindName : String)
  | unencodable (cause : Unencodable)
  | domain (fault : Domain.Fault)
  | unknownScheme (scheme : String)
  | upgrade
  | tooManyRedirects
  | emptyBody
  | service (fault : ServiceFault)

def ClientFault.message : ClientFault → Text
  | .reference fault => fault.message
  | .location fault => s!"Invalid URL in location header: {fault.message}."
  | .headerKind kindName => s!"Header value must be str or bytes, not <class '{kindName}'>"
  | .unencodable cause => cause.message
  | .domain fault => fault.message
  | .unknownScheme scheme => scheme
  | .upgrade => ""
  | .tooManyRedirects => "Exceeded maximum allowed redirects."
  | .emptyBody => "Expecting value: line 1 column 1 (char 0)"
  | .service fault => fault.message

def asciiText (text : Text) : Except ClientFault String :=
  match Charset.ascii.refusal? text with
  | some cause => .error (.unencodable cause)
  | none => .ok text.shown

def headerOf (member : Text × Json) : Except ClientFault (String × String) := do
  let name ← asciiText member.1
  match member.2 with
  | .str value => return (name, ← asciiText value)
  | other => throw (.headerKind other.kindName)

structure Exchange where
  reference : Reference
  method : String
  headers : Headers
  body : String

namespace Exchange

def placeOf (reference : Reference) : Except ClientFault String :=
  asciiText (ofChars reference.place)

def hostNameOf (reference : Reference) : Except ClientFault (List Char) :=
  reference.hostName.mapError .domain

def isServed (scheme : List Char) : Bool :=
  scheme == "http".toList || scheme == "https".toList

/-- Schemes by which a connection is asked for that stays open. -/
def isLasting (scheme : List Char) : Bool :=
  scheme == "ws".toList || scheme == "wss".toList

/-- The path with its escapes undone twice; an empty one is the root. -/
def pathOf (reference : Reference) : List Char :=
  Percent.decode (Percent.decode (if reference.path.isEmpty then ['/'] else reference.path))

def request (exchange : Exchange) : Except ClientFault Request := do
  let reference := exchange.reference
  let place ← placeOf reference
  if isLasting reference.scheme then throw .upgrade
  if !isServed reference.scheme then throw (.unknownScheme (String.ofList reference.scheme))
  return {
    method := exchange.method
    scheme := reference.scheme
    place := place.toList
    path := pathOf reference
    query := reference.query.getD []
    headers := exchange.headers
    body := exchange.body }

/-- Whether two references lead to one place, the host of the second being known by its name. -/
def isSamePlace (first second : Reference) (firstHost secondHost : List Char) : Bool :=
  first.scheme == second.scheme && firstHost == secondHost
    && first.portOrStandard == second.portOrStandard

/-- A location without a host means the host that was asked. -/
def withHost (asked located : Reference) : Except ClientFault Reference := do
  if (← hostNameOf located).isEmpty then
    (located.withHost (← hostNameOf asked)).mapError .reference
  else return located

/-- A location without a fragment keeps the one that was asked for. -/
def withFragment (asked located : Reference) : Except ClientFault Reference :=
  let fragment := Percent.decode (asked.fragment.getD [])
  if fragment.isEmpty || !(located.fragment.getD []).isEmpty then .ok located
  else (Reference.rebuilt { located.parts with fragment := some fragment }).mapError .reference

def redirected (location : List Char) (exchange : Exchange) : Except ClientFault Exchange := do
  let asked := exchange.reference
  let located ← (Reference.parse location).mapError .location
  let reference ← withFragment asked (← withHost asked located)
  let sameHost := isSamePlace reference asked (← hostNameOf reference) (← hostNameOf asked)
  if sameHost then return { exchange with reference }
  return { exchange with
    reference, headers := exchange.headers.set Request.hostHeader (← placeOf reference) }

def redirectLimit : Nat := 20

/-- What a client makes of a response: it reads the body, which is left out where only the head was
asked for. -/
def received (response : Response) (exchange : Exchange) : Except ClientFault Response :=
  if exchange.method == "HEAD" then .error .emptyBody else .ok response

variable {σ : Type} [Backend σ]

/-- Sends a request, and follows so many times where it is sent. -/
def run (redirects : Nat) (exchange : Exchange) (engine : Engine σ) :
    Except ClientFault Response × Engine σ :=
  match exchange.request with
  | .error fault => (.error fault, engine)
  | .ok request =>
    match Service.answer request engine with
    | (.error fault, engine) => (.error (.service fault), engine)
    | (.ok (.response response), engine) => (exchange.received response, engine)
    | (.ok (.redirect location), engine) =>
      match exchange.redirected location, redirects with
      | .error fault, _ => (.error fault, engine)
      | .ok _, 0 => (.error .tooManyRedirects, engine)
      | .ok next, redirects + 1 => run redirects next engine

end Exchange

namespace Call

/-- The scheme and the host of the service when it is asked in place. The length of the name counts where
a location gets too long. -/
def home : Parts :=
  ⟨"http".toList, "testserver".toList, [], none, none⟩

/-- A reference that is not whole is asked for at home. -/
def atHome (reference : Reference) : Except ReferenceFault Reference :=
  if reference.isWhole then .ok reference
  else
    Reference.rebuilt { home with
      path := '/' :: reference.path.dropWhile (· == '/')
      query := reference.query }

def queryOf (parameters : List (String × String)) : List Char :=
  List.intercalate ['&'] (parameters.map fun parameter =>
    Percent.encodeForm parameter.1.toList ++ '=' :: Percent.encodeForm parameter.2.toList)

/-- The reference with other parameters; without any it has no query. -/
def withParameters (parameters : List (String × String)) (reference : Reference) :
    Except ReferenceFault Reference :=
  Reference.rebuilt { reference.parts with
    query := if parameters.isEmpty then none else some (queryOf parameters) }

def exchange (call : Call) : Except ClientFault Exchange := do
  let target ← ((Reference.parse call.target.toList).bind atHome).mapError .reference
  let given : Headers ← call.headers.mapM headerOf
  let reference ← match call.parameters with
    | none => pure target
    | some parameters => (withParameters parameters target).mapError .reference
  let headers ←
    if (given.get? Request.hostHeader).isSome then pure given
    else do
      let _ ← Exchange.hostNameOf reference
      pure (given ++ [(Request.hostHeader, ← Exchange.placeOf reference)])
  return { reference, method := asciiUpperString call.method, headers, body := call.body }

def answer {σ : Type} [Backend σ] (call : Call) (engine : Engine σ) :
    Except ClientFault Response × Engine σ :=
  match call.exchange with
  | .error fault => (.error fault, engine)
  | .ok exchange => exchange.run Exchange.redirectLimit engine

end Call

end BridgeState.Http
