import HttpDispatch.Routing.Pattern
import HttpDispatch.Routing.Service

/-!
# Applications

An application is a list of mounted factories, each with its pattern.  Connecting activates every
factory, in order, and the connection then owns the services: routes that are mounted later, or a
logger that is set later, are not seen by it.
-/

namespace HttpDispatch

/-- A factory under its pattern. -/
structure MountedFactory where
  pattern : Pattern
  factory : Factory

/-- A service under its pattern. -/
structure MountedService where
  pattern : Pattern
  service : Service

/-- An application. -/
structure App where
  routes : List MountedFactory
  state : Ref AppState
  logger : Ref Logger

/-- An application on a connection. -/
structure Connection where
  routes : List MountedService
  state : Ref AppState
  logger : Ref Logger

namespace App

/-- An application without routes.  Its logger is the shared one until it is set. -/
def new (state : AppState) : Run App := do
  let logger ← Run.sharedLogger
  return ⟨[], ← Run.addState state, logger⟩

/-- Mounts a route behind those that are there. -/
def mount (app : App) (m : Mountable) : Run App := do
  let factory ← m.create
  return { app with routes := app.routes ++ [⟨⟨m.path⟩, factory⟩] }

/-- The patterns, in order. -/
def paths (app : App) : List String := app.routes.map (·.pattern.source)

/-- Activates factories in order. -/
def activateAll (logger : Ref Logger) :
    List MountedFactory → Run (List (Pattern × Except Value Service))
  | [] => pure []
  | m :: rest => do
    let result ← m.factory.activate logger
    let results ← activateAll logger rest
    return (m.pattern, result) :: results

/-- The error of a factory whose activation failed. -/
def activationFault (pattern : Pattern) (v : Value) : Fault :=
  .make ("Failed to create service for " ++ pattern.source) .serviceInitFailed
    (some (.obj [("pattern", .str pattern.source), ("reason", .str v.display)])) none v

/-- The services of activations that all succeeded, or the error of the first that did not. -/
def collect : List (Pattern × Except Value Service) → Except Fault (List MountedService)
  | [] => .ok []
  | (p, .error v) :: _ => .error (activationFault p v)
  | (p, .ok s) :: rest => (collect rest).map (⟨p, s⟩ :: ·)

/-- A connection, with a logger of its own or that of the application. -/
def connect (app : App) (logger : Option (Ref Logger)) : Run Connection := do
  let logger := logger.getD app.logger
  match collect (← activateAll logger app.routes) with
  | .ok routes => return ⟨routes, app.state, logger⟩
  | .error f => Run.raise f.toValue

end App

end HttpDispatch
