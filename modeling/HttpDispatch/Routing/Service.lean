import HttpDispatch.Routing.Route

/-!
# Services

What an application mounts becomes a factory, and what a connection activates becomes a service.
There are two kinds throughout: routes, and foreign routes, whose factories and services are given
by what they answer when they are asked.

A factory that is activated promises a service.  The promise of a route is kept or broken, but a
foreign route may also throw before it promises anything, and these two failures differ.
-/

namespace HttpDispatch

/-- Whether a service can take a request. -/
inductive Readiness
  | ready
  /-- Not yet, for a reason that may be undefined. -/
  | pending (reason : Value)
  | failed (failure : Value)
deriving Inhabited

namespace Readiness

/-- The name of a readiness. -/
def status : Readiness → String
  | ready => "ready"
  | pending _ => "pending"
  | failed _ => "failed"

/-- Why no request can be taken, as far as there is a reason. -/
def reason : Readiness → Value
  | ready => .undefined
  | pending v | failed v => v

/-- Whether a request can be taken. -/
def isReady : Readiness → Bool
  | ready => true
  | _ => false

end Readiness

/-- How the activation of a foreign route fails. -/
inductive ActivationFailure
  /-- By throwing at once, before anything is promised. -/
  | raised (v : Value)
  /-- By a promise that is rejected. -/
  | rejected (v : Value)

/-- A route that is not made of a handler. -/
structure ForeignRoute where
  path : String
  methods : List String
  /-- What making a factory throws. -/
  createFailure : Option Value
  activationFailure : Option ActivationFailure
  readiness : Readiness
  /-- Which tokens it accepts, if it decides for itself; otherwise its methods decide. -/
  acceptance : Option (String → Bool)
  outcome : Outcome Value

/-- What an application can mount. -/
inductive Mountable
  | route (r : Route)
  | foreign (r : ForeignRoute)

namespace Mountable

def path : Mountable → String
  | route r => r.path
  | foreign r => r.path

end Mountable

/-- What is activated for each connection. -/
inductive Factory
  | route (f : RouteFactory)
  | foreign (r : ForeignRoute)

/-- What takes the requests of one connection. -/
inductive Service
  | route (s : RouteService)
  | foreign (r : ForeignRoute)

namespace Mountable

/-- The factory of what is mounted. -/
def create : Mountable → Run Factory
  | route r => do return .route (← r.create)
  | foreign r =>
    match r.createFailure with
    | some v => Run.raise v
    | none => pure (.foreign r)

end Mountable

namespace Factory

/-- Activates a factory: a service, or the value with which the promise of one is rejected.  A
foreign route may also throw. -/
def activate (logger : Ref Logger) : Factory → Run (Except Value Service)
  | route f => Run.attempt do return .route (← f.activate (some logger))
  | foreign r => do
    Run.emit (.activated r.path (some logger))
    match r.activationFailure with
    | some (.raised v) => Run.raise v
    | some (.rejected v) => return .error v
    | none => return .ok (.foreign r)

end Factory

namespace Service

/-- The methods of a service. -/
def methods : Service → List String
  | route s => s.methods
  | foreign r => r.methods

/-- Whether a service accepts a method. -/
def accepts (token : String) : Service → Bool
  | route s => s.accepts token
  | foreign r => r.acceptance.getD (Method.accepts r.methods) token

/-- Asks a service whether it can take a request. -/
def poll : Service → Run Readiness
  | route _ => pure .ready
  | foreign r => do
    Run.emit (.polled r.path)
    return r.readiness

/-- Gives a request to a service.  A foreign route may answer with a value of its own; a route
has none. -/
def call (req : Request) : Service → Run Value
  | route s => do
    s.call req
    return .undefined
  | foreign r => do
    Run.emit (.called r.path (← Run.see req))
    match r.outcome.settle with
    | .ok v => return v
    | .error v => Run.raise v

end Service

end HttpDispatch
