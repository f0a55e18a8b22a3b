import BridgeState.Console.Report

/-!
# Sessions

A session is what runs of the program share. Its engine is opened by the first run that needs one; an
attempt that fails leaves the session closed, so that the next run tries again.
-/

namespace BridgeState.Console

set_option autoImplicit false

inductive Session (σ : Type) where
  | closed (server : σ)
  | opened (engine : Engine (Site σ))

namespace Session

variable {σ α : Type}

def server : Session σ → σ
  | .closed server => server
  | .opened engine => engine.state.server

def withServer (server : σ) : Session σ → Session σ
  | .closed _ => .closed server
  | .opened engine => .opened { engine with state := { engine.state with server } }

def reset (session : Session σ) : Session σ :=
  .closed session.server

def onServer (use : σ → α × σ) (session : Session σ) : α × Session σ :=
  let (value, server) := use session.server
  (value, session.withServer server)

def engine [Server σ] (environment : Environment) (session : Session σ) :
    Except RunFault (Engine (Site σ)) × σ :=
  match session with
  | .opened engine => (.ok engine, engine.state.server)
  | .closed server =>
    match Deployment.backing environment server with
    | (.error fault, server) => (.error (.ofDeployment fault), server)
    | (.ok backing, server) => (.ok (.start ⟨backing, server⟩ (some .zero)), server)

def onEngine [Server σ] (environment : Environment)
    (use : Engine (Site σ) → Except RunFault α × Engine (Site σ)) (session : Session σ) :
    Except RunFault α × Session σ :=
  match session.engine environment with
  | (.error fault, server) => (.error fault, .closed server)
  | (.ok engine, _) =>
    let (value, engine) := use engine
    (value, .opened engine)

end Session

end BridgeState.Console
