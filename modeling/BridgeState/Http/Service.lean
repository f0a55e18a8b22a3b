import BridgeState.Health
import BridgeState.Http.Endpoint
import BridgeState.Http.Ingest
import BridgeState.Http.Lookup
import BridgeState.Text.Percent

/-!
# The service

`Service.answer` answers a request with a response, sends it elsewhere, or fails as its locator or the
backend does. Reading leaves the engine as it was but for what its backend did meanwhile.
-/

namespace BridgeState.Http.Service

set_option autoImplicit false

open Text

variable {σ : Type} [Backend σ]

def version : String := "0.1.0"

def aliveJson : Json :=
  .obj [("status", .str "healthy"), ("service", .str "bridge-indexer")]

def directory : Json :=
  .obj [("public", .obj (texts
      [("messages", "/api/public/messages"),
       ("message_detail", "/api/public/messages/\x7bid\x7d"),
       ("bridge_messages", "/api/public/bridge-messages"),
       ("accounts", "/api/public/accounts"),
       ("account_detail", "/api/public/accounts/\x7baddress\x7d"),
       ("account_messages", "/api/public/account-messages"),
       ("limits", "/api/public/limits"),
       ("limit_messages", "/api/public/limit-messages"),
       ("limit_proposals", "/api/public/limit-proposals"),
       ("validators", "/api/public/validators"),
       ("validators_proposals", "/api/public/validators-proposals"),
       ("validators_lists", "/api/public/validators-lists"),
       ("sync", "/api/public/sync")])),
    ("ingest", .obj (texts [("events", "/api/events")]))]
where
  texts (entries : List (String × String)) : Members :=
    entries.map fun entry => (Text.ofString entry.1, Json.string entry.2)

def aboutJson (backendName : String) : Json :=
  .obj [("name", .str "Bridge Indexer API"), ("version", .str version),
    ("storage_backend", .str backendName), ("endpoints", directory)]

/-- A failing check makes the service unavailable. -/
def healthAnswer (report : HealthReport) : Except ServiceFault Response :=
  let status := if report.healthy then "healthy" else "unhealthy"
  match report.checks with
  | .error cause => .error (.unwritable cause)
  | .ok checks => .ok (.plain (if report.healthy then 200 else 503)
      (.obj [("status", .str status), ("checks", checks)]))

def onBackend (ask : σ → Reply σ Response) (engine : Engine σ) :
    Except ServiceFault Response × Engine σ :=
  let (reply, state) := ask engine.state
  (reply.mapError fun fault => .engine (.store fault), { engine with state })

/-- The response of an endpoint, asked for by its own method. -/
def endpointAnswer (endpoint : Endpoint) (request : Request) (engine : Engine σ) :
    Except ServiceFault Response × Engine σ :=
  match endpoint with
  | .alive => (.ok (.ok aliveJson), engine)
  | .health =>
    let (report, state) := HealthReport.ofBackend engine.state
    (healthAnswer report, { engine with state })
  | .metrics =>
    (.ok (.ok (.ofOption (Metrics.summary (.ofOption Latency.toJson)) engine.metrics)), engine)
  | .about => (.ok (.ok (aboutJson (Backend.name engine.state))), engine)
  | .events => ingestAnswer (request.header? "Content-Type") request.body engine
  | .page listing => onBackend (listing.answer request.members) engine
  | .message id => onBackend (messageAnswer id) engine
  | .account address => onBackend (accountAnswer address) engine
  | .limits => onBackend limitsAnswer engine
  | .sync =>
    let (result, state) := syncAnswer engine.state
    (result, { engine with state })

def respond (endpoint : Endpoint) (request : Request) (engine : Engine σ) :
    Except ServiceFault Response × Engine σ :=
  if request.method == endpoint.method then endpointAnswer endpoint request engine
  else (.ok (.refused 405 (.str "Method Not Allowed")), engine)

/-- Characters that stand for themselves in the locator of a redirection. -/
def isSafeInLocation (c : Char) : Bool :=
  Percent.isPlain c.toNat || ":/%#?=@[]!$&'()*+,;".toList.contains c

/-- A request to a known path gets its response, one that is known without the slashes at its end is
sent there, and any other finds nothing. -/
def route (request : Request) (engine : Engine σ) : Except ServiceFault Answer × Engine σ :=
  let sent (response : Response) : Except ServiceFault Answer :=
    { response with requestId := request.id? }.sent.map .response
  match Endpoint.atPath request.path, Endpoint.redirected? request.path with
  | some endpoint, _ =>
    let (result, engine) := respond endpoint request engine
    (result.bind sent, engine)
  | none, some bare =>
    (.ok (.redirect (Percent.encode isSafeInLocation (request.locatorOf bare))), engine)
  | none, none => (sent (.refused 404 (.str "Not Found")), engine)

def answer (request : Request) (engine : Engine σ) : Except ServiceFault Answer × Engine σ :=
  match Url.parse (request.locatorOf request.path) with
  | .error fault => (.error (.locator fault), engine)
  | .ok _ => route request engine

/-- Before its first request the service asks how far every collection has come. -/
def start (state : σ) : Reply σ (Engine σ) :=
  match Backend.sync state with
  | (.error fault, state) => (.error fault, state)
  | (.ok _, state) => (.ok (.start state (some .zero)), state)

end BridgeState.Http.Service
