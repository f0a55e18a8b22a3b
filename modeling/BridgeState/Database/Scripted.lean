import BridgeState.Database.Server
import BridgeState.Json.Decimal

/-!
# Scripted servers

A server that follows a script instead of keeping rows: every fetch gives the same rows, and chosen
steps fail. A script may say that its cells are decimal numbers; one that is none makes every fetch fail,
whichever row it is in. The server notes every step it is asked for, the failing ones too.
-/

namespace BridgeState

set_option autoImplicit false

structure ServerScript where
  rows : List (List Json)
  /-- Whether the cells are decimal numbers. -/
  decimal : Bool
  /-- How many connections succeed. -/
  connections : Option Nat
  /-- Which statement of a connection fails. -/
  failingStatement : Option Nat
  commitFails : Bool
  failureOfStore : Bool
  message : Option String

structure ScriptedServer where
  script : ServerScript
  connected : Nat
  executed : Nat
  steps : List Step

namespace ServerScript

def quiet : ServerScript :=
  ⟨[], false, none, none, false, false, none⟩

def problem (script : ServerScript) (standard : String) (ofStore : Bool) : Problem :=
  ⟨script.message.getD standard, ofStore⟩

def cell (script : ServerScript) (value : Json) : Except Problem Cell :=
  if script.decimal then
    match DecimalNumber.ofJson value with
    | .ok number => .ok (.decimal number)
    | .error fault => .error ⟨fault.message, false⟩
  else .ok (.plain value)

def fetched (script : ServerScript) : Except Problem (List FetchedRow) :=
  script.rows.mapM fun cells => cells.mapM script.cell

end ServerScript

namespace ScriptedServer

def start (script : ServerScript) : ScriptedServer :=
  ⟨script, 0, 0, []⟩

def noted (step : Step) (server : ScriptedServer) : ScriptedServer :=
  { server with steps := server.steps ++ [step] }

def answer (problem : Option Problem) : Except Problem Unit :=
  match problem with
  | some problem => .error problem
  | none => .ok ()

def refuses (server : ScriptedServer) : Bool :=
  match server.script.connections with
  | some count => count ≤ server.connected
  | none => false

instance : Server ScriptedServer where
  perform step server :=
    let server := server.noted step
    match step with
    | .connect _ =>
      if server.refuses then
        (.error (server.script.problem "refused" false),
          { server with connected := server.connected + 1 })
      else (.ok (), { server with connected := server.connected + 1, executed := 0 })
    | .execute _ =>
      let failing := server.script.failingStatement == some server.executed
      let problem := server.script.problem "boom" server.script.failureOfStore
      (if failing then .error problem else .ok (), { server with executed := server.executed + 1 })
    | .commit =>
      (if server.script.commitFails then .error (server.script.problem "boom" false) else .ok (),
        server)
    | _ => (.ok (), server)
  fetchRow server := (server.script.fetched.map List.head?, server)
  fetchRows server := (server.script.fetched, server)

end ScriptedServer

end BridgeState
