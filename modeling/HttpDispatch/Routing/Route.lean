import HttpDispatch.Failure.Thrown
import HttpDispatch.Http.Method
import HttpDispatch.Log.Shared

/-!
# Routes

A route is a pattern, a set of methods and a handler.  It is a template: `create` makes a factory
of it, with a clone of the handler of its own, and every activation of the factory makes a
service, with a clone of the factory's handler.  So what a handler counts on one connection never
shows on another, unless the handler is a plain function or is its own clone.

A service runs its handler, and a failure of the handler is logged; where even that fails, the
message goes to the error console.  Nothing of this is passed on, unless the failure cannot be
displayed.
-/

namespace HttpDispatch

namespace Run

/-- A clone of a handler for a new owner. -/
def cloneHandler (r : Ref Handler) : Run (Ref Handler) := do
  let h ← handler r
  match h.script.cloning with
  | none => return r
  | some cloning =>
    emit (.cloned h.script.name h.count)
    let family := h.family r
    modifyHandler family fun f => { f with clones := f.clones + 1 }
    let asked := (← handler family).clones
    match h.script.cloneFailure with
    | some (v, first) => if first ≤ asked then raise v
    | none => pure ()
    match cloning with
    | .same => return r
    | .copy => addHandler { script := h.script, count := h.count, origin := some family, clones := 0 }
    | .fresh => addHandler { script := h.script, count := 0, origin := some family, clones := 0 }

/-- Does what a handler does to a request. -/
def act (req : Request) : Action → Run Unit
  | .write text => onTransport req.io (·.write text)
  | .finish text => onTransport req.io fun t => (t.write text).finish
  | .destroy => onTransport req.io (·.destroy)
  | .bump key => changeState req.state (·.bump key)

/-- Gives a request to a handler, which throws where one of its actions does. -/
def invoke (r : Ref Handler) (req : Request) : Run (Outcome Value) := do
  modifyHandler r fun h => { h with count := h.count + 1 }
  let h ← handler r
  emit (.handled h.script.name h.count (← see req))
  let acted ← attempt (h.script.actions.forM (act req))
  let _ ← settleTransport req.io
  match acted with
  | .ok _ => return h.script.outcome h.count
  | .error v => return .raised v

end Run

/-- A route: a pattern, a handler, and the methods it accepts. -/
structure Route where
  path : String
  handler : Ref Handler
  methods : List String
deriving DecidableEq, Repr

/-- A route that has no handler yet. -/
structure RouteBuilder where
  path : String
  methods : List String
deriving DecidableEq, Repr

/-- A route with a handler of its own, ready to be activated. -/
structure RouteFactory where
  handler : Ref Handler
  methods : List String
deriving DecidableEq, Repr

/-- A route on a connection. -/
structure RouteService where
  handler : Ref Handler
  methods : List String
  logger : Ref Logger
deriving DecidableEq, Repr

namespace RouteBuilder

/-- Also accepts a method. -/
def method (b : RouteBuilder) (token : String) : RouteBuilder :=
  { b with methods := b.methods ++ [Method.normalize token] }

/-- The route with a handler. -/
def withHandler (b : RouteBuilder) (handler : Ref Handler) : Route := ⟨b.path, handler, b.methods⟩

end RouteBuilder

namespace Route

/-- The verbs that have a shorthand. -/
inductive Shorthand
  | get
  | post
  | put
  | delete
deriving DecidableEq, Repr

/-- The method of a shorthand. -/
def Shorthand.method : Shorthand → String
  | .get => "GET"
  | .post => "POST"
  | .put => "PUT"
  | .delete => "DELETE"

/-- Starts a route, with the method of a shorthand if there is one. -/
def build (path : String) (shorthand : Option Shorthand) : RouteBuilder :=
  match shorthand with
  | some s => RouteBuilder.method ⟨path, []⟩ s.method
  | none => ⟨path, []⟩

/-- The route that also accepts a method. -/
def method (r : Route) (token : String) : Route :=
  { r with methods := r.methods ++ [Method.normalize token] }

/-- A factory with a clone of the handler. -/
def create (r : Route) : Run RouteFactory := do
  return ⟨← Run.cloneHandler r.handler, r.methods⟩

end Route

namespace RouteFactory

/-- A service with a clone of the handler, and a logger or else the shared one. -/
def activate (f : RouteFactory) (logger : Option (Ref Logger)) : Run RouteService := do
  let handler ← Run.cloneHandler f.handler
  return ⟨handler, f.methods, ← Run.loggerOrShared logger⟩

end RouteFactory

namespace RouteService

/-- Whether the service is meant for a method; `call` does not ask. -/
def accepts (s : RouteService) (token : String) : Bool := Method.accepts s.methods token

/-- The message about a handler that failed, with the text by which its failure is reported. -/
def failureMessage (text : String) : String := "Error in request handler: " ++ text

/-- What log entries about a request have as context. -/
def requestContext (method path : String) : Json :=
  .obj [("method", .str method), ("path", .str path)]

/-- Reports the failure of a handler.  What the logger throws is caught, and so is what the failure
throws when it is made an error; what it throws when it is displayed is not. -/
def report (s : RouteService) (req : Request) (t : Thrown) : Run Unit := do
  let message := failureMessage (← ofExcept t.text)
  let logger ← Run.logger s.logger
  let log : Run Unit := do
    let summary ← ofExcept (t.summary .handlerFailed (some req.traceId))
    logger.error message (some summary) (some (requestContext req.method req.path))
  match ← Run.attempt log with
  | .ok _ => pure ()
  | .error logFailure => Run.observe (.complained message logFailure)

/-- Runs any handler on a request: a program, which may fail with anything that can be thrown. -/
def callWith (s : RouteService) (handle : Request → Run (Outcome Thrown)) (req : Request) :
    Run Unit := do
  match (← handle req).settle with
  | .ok _ => pure ()
  | .error t => s.report req t

/-- The handler of the service as a program; it fails with values. -/
def handle (s : RouteService) (req : Request) : Run (Outcome Thrown) := do
  return (← Run.invoke s.handler req).map .value

/-- Runs the handler of the service on a request. -/
def call (s : RouteService) (req : Request) : Run Unit := s.callWith s.handle req

end RouteService

end HttpDispatch
