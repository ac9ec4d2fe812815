import HttpDispatch.Http.Response
import HttpDispatch.Routing.App

/-!
# Connections

A connection gives a request to the first service whose pattern fits the path and which accepts
the method.  If there is none, it answers the request itself: that the method is not allowed, with
the methods of all routes that fit the path, or that there is no route.
-/

namespace HttpDispatch

namespace Connection

/-- Whether the connection can take a request: the answer of the first service that cannot. -/
def poll (c : Connection) : Run Readiness := go c.routes
where
  go : List MountedService → Run Readiness
    | [] => pure .ready
    | m :: rest => do
      let readiness ← m.service.poll
      if readiness.isReady then go rest else return readiness

/-- What becomes of a request: a service takes it, or no service does. -/
inductive Dispatch
  | taken (route : MountedService) (params : Params)
  /-- No pattern fits the path. -/
  | noRoute
  /-- Some patterns fit, but no service behind them accepts the method; these are the methods
  of all of them. -/
  | notAllowed (methods : List String)

/-- Finds the first service for a path and a method. -/
def dispatch (path method : String) : List MountedService → Dispatch
  | [] => .noRoute
  | m :: rest =>
    match m.pattern.params? path with
    | none => dispatch path method rest
    | some params =>
      if m.service.accepts method then .taken m params
      else
        match dispatch path method rest with
        | .taken r ps => .taken r ps
        | .noRoute => .notAllowed m.service.methods
        | .notAllowed ms => .notAllowed (m.service.methods ++ ms)

/-- The report about a request without a route. -/
def noRouteReport (path method traceId : String) : Report :=
  .make ("No route for " ++ path) .routeNotFound
    (some (.obj [("path", .str path), ("method", .str method)])) none (some traceId)

/-- The report about a request whose method is not allowed. -/
def notAllowedReport (path method traceId : String) (allowed : List String) : Report :=
  .make ("Method " ++ method ++ " not allowed for " ++ path) .methodNotAllowed
    (some (.obj [("path", .str path), ("method", .str method), ("allowed", .texts allowed)]))
    none (some traceId)

/-- Answers a request that no service takes. -/
def reject (logger : Logger) (io path method : String) (r : Report) (headers : Dict String) :
    Run Unit := do
  let context := some (RouteService.requestContext method path)
  logger.warn r.message context
  match ← Run.attempt (Run.sendError io r headers) with
  | .ok _ => pure ()
  | .error v =>
    logger.warn ("Could not send " ++ toString r.status ++ " response: " ++ v.display) context

/-- Takes one request, and answers what the service behind it answers. -/
def call (c : Connection) (init : HeadInit) (io : String) : Run Value := do
  match RequestHead.ofInit? init with
  | none => Run.raise (.platformError "TypeError")
  | some head =>
    let path := head.target.path
    let trace ← Run.startTrace head.traceId?
    let logger := (← Run.logger c.logger).child trace
    match dispatch path head.method c.routes with
    | .taken m params =>
      let span ← Run.startSpan trace
      (logger.child span).debug (head.method ++ " " ++ path)
        (some (.obj [("pattern", .str m.pattern.source)]))
      m.service.call ⟨head, params, trace.traceId, c.state, io⟩
    | .noRoute =>
      reject logger io path head.method (noRouteReport path head.method trace.traceId) ∅
      return .undefined
    | .notAllowed methods =>
      let allowed := methods.eraseDups
      reject logger io path head.method (notAllowedReport path head.method trace.traceId allowed)
        (Dict.ofList [("allow", String.intercalate ", " allowed)])
      return .undefined

end Connection

end HttpDispatch
