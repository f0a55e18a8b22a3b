import BridgeState.Database.Server
import BridgeState.Engine.Basic
import BridgeState.Settings.Database

/-!
# Deployments

Which backend a program works with is decided by its environment. A configured database that cannot
be reached is a fault: the program never falls back to memory, where it would show an empty bridge
as if it were the real one.
-/

namespace BridgeState

set_option autoImplicit false

structure Site (σ : Type) where
  backing : Store ⊕ DatabaseLink
  server : σ

inductive DeploymentFault where
  | settings (fault : SettingsFault)
  | store (fault : StoreFault)

namespace Site

variable {σ : Type} [Server σ]

def onDatabase {α : Type} (link : DatabaseLink) (answer : Reply (Connected σ) α) :
    Reply (Site σ) α :=
  (answer.1, ⟨.inr link, answer.2.server⟩)

def inMemory {α : Type} (server : σ) (answer : Reply Store α) : Reply (Site σ) α :=
  (answer.1, ⟨.inl answer.2, server⟩)

instance : Backend (Site σ) where
  name site :=
    match site.backing with
    | .inl store => Backend.name store
    | .inr link => Backend.name (Connected.mk link site.server)
  load collection id site :=
    match site.backing with
    | .inl store => inMemory site.server (Backend.load collection id store)
    | .inr link => onDatabase link (Backend.load collection id (Connected.mk link site.server))
  save collection row site :=
    match site.backing with
    | .inl store => inMemory site.server (Backend.save collection row store)
    | .inr link => onDatabase link (Backend.save collection row (Connected.mk link site.server))
  list collection query site :=
    match site.backing with
    | .inl store => inMemory site.server (Backend.list collection query store)
    | .inr link => onDatabase link (Backend.list collection query (Connected.mk link site.server))
  count collection status site :=
    match site.backing with
    | .inl store => inMemory site.server (Backend.count collection status store)
    | .inr link =>
      onDatabase link (Backend.count collection status (Connected.mk link site.server))
  maxBlock collection site :=
    match site.backing with
    | .inl store => inMemory site.server (Backend.maxBlock collection store)
    | .inr link => onDatabase link (Backend.maxBlock collection (Connected.mk link site.server))

end Site

namespace Deployment

variable {σ : Type} [Server σ]

def probe (settings : DatabaseSettings) (server : σ) : Reply σ Unit :=
  match Server.perform (.connect settings.dsn) server with
  | (.error problem, server) =>
    (.error (.unreachableAt (settings.url false) problem.message), server)
  | (.ok (), server) => (.ok (), performed .close server)

def link (settings : DatabaseSettings) : DatabaseLink :=
  ⟨settings.dsn, .int settings.statementTimeout⟩

/-- A database that was reached once; its tables are created on demand. -/
def connect (settings : DatabaseSettings) (createTables : Bool) (server : σ) :
    Reply σ DatabaseLink :=
  match probe settings server with
  | (.error fault, server) => (.error fault, server)
  | (.ok (), server) =>
    if createTables then
      match (Connected.mk (link settings) server).ensureSchema with
      | (.error fault, database) => (.error fault, database.server)
      | (.ok (), database) => (.ok (link settings), database.server)
    else (.ok (link settings), server)

/-- The settings of the database that the environment asks for, or none for rows in memory. -/
def database (environment : Environment) : Except SettingsFault (Option DatabaseSettings) := do
  match ← StoreDriver.chosen environment with
  | .memory => return none
  | .postgres =>
    match ← DatabaseSettings.configured environment with
    | some settings => return some settings
    | none => return some (← DatabaseSettings.ofEnvironment environment)

def backing (environment : Environment) (server : σ) :
    Except DeploymentFault (Store ⊕ DatabaseLink) × σ :=
  match database environment with
  | .error fault => (.error (.settings fault), server)
  | .ok none => (.ok (.inl .empty), server)
  | .ok (some settings) =>
    match connect settings true server with
    | (.error fault, server) => (.error (.store fault), server)
    | (.ok link, server) => (.ok (.inr link), server)

end Deployment

end BridgeState
