import HttpDispatch.Session.Command

/-!
# Sessions

A session is a world together with the names of the objects in it.  A command changes both and
answers.  One that fails changes no name, but for an application, which has its name before its
routes are mounted and keeps the routes mounted so far.  What could be seen of a step from outside
is part of its answer: the timeline of the step, and the transports that passed something on or
closed.
-/

namespace HttpDispatch

/-- A world and the names of its objects. -/
structure Session where
  world : World
  traces : Dict Trace
  loggers : Dict (Ref Logger)
  handlers : Dict (Ref Handler)
  builders : Dict RouteBuilder
  routes : Dict Route
  factories : Dict RouteFactory
  services : Dict RouteService
  apps : Dict App
  connections : Dict Connection

/-- Why a command has no reply. -/
inductive Stop
  | raised (v : Value)
  /-- No object has this name. -/
  | unknown (name : String)

/-- What a transport showed during a step. -/
structure Shown where
  output : String
  closed : Bool
deriving DecidableEq, Repr

/-- The answer to a command. -/
structure Answer where
  result : Except Stop Reply
  timeline : List Observation
  transports : List (String × Shown)

namespace Session

/-- A session in which nothing has happened. -/
def start (clock : Int) (draws : List Nat) (environ : Environ) : Session :=
  { world := .initial clock draws environ
    traces := ∅
    loggers := ∅
    handlers := ∅
    builders := ∅
    routes := ∅
    factories := ∅
    services := ∅
    apps := ∅
    connections := ∅ }

/-- A part of a step. -/
abbrev Step (α : Type) := ExceptT Stop (StateM Session) α

/-- Runs a program in the world of the session. -/
def run {α : Type} (program : Run α) : Step α := do
  let s ← get
  let (result, world) := program.exec s.world
  set { s with world }
  match result with
  | .ok a => return a
  | .error v => throw (.raised v)

/-- The object of a name. -/
def find {α : Type} (names : Session → Dict α) (name : String) : Step α := do
  match (names (← get)).get? name with
  | some a => return a
  | none => throw (.unknown name)

/-- The object of a name, where a name is given. -/
def findOptional {α : Type} (names : Session → Dict α) (name : Option String) :
    Step (Option α) := do
  match name with
  | some n => return some (← find names n)
  | none => return none

/-! ### Names -/

def nameTrace (name : String) (t : Trace) : Step Unit :=
  modify fun s => { s with traces := s.traces.set name t }

def nameLogger (name : String) (r : Ref Logger) : Step Unit :=
  modify fun s => { s with loggers := s.loggers.set name r }

def nameHandler (name : String) (r : Ref Handler) : Step Unit :=
  modify fun s => { s with handlers := s.handlers.set name r }

def nameBuilder (name : String) (b : RouteBuilder) : Step Unit :=
  modify fun s => { s with builders := s.builders.set name b }

def nameRoute (name : String) (r : Route) : Step Unit :=
  modify fun s => { s with routes := s.routes.set name r }

def nameFactory (name : String) (f : RouteFactory) : Step Unit :=
  modify fun s => { s with factories := s.factories.set name f }

def nameService (name : String) (r : RouteService) : Step Unit :=
  modify fun s => { s with services := s.services.set name r }

def nameApp (name : String) (a : App) : Step Unit :=
  modify fun s => { s with apps := s.apps.set name a }

def nameConnection (name : String) (c : Connection) : Step Unit :=
  modify fun s => { s with connections := s.connections.set name c }

/-! ### Objects in words -/

/-- The trace that is meant. -/
def trace : TraceSource → Step Trace
  | .named name => find Session.traces name
  | .given t => pure t

/-- The handler that is meant; a script makes a new one. -/
def handler : HandlerSource → Step (Ref Handler)
  | .named name => find Session.handlers name
  | .given script => run (Run.addHandler (.ofScript script))

/-- The route that a declaration makes. -/
def declare (d : RouteDeclaration) : Step Route := do
  let h ← handler d.handler
  let route : Route :=
    if d.direct then ⟨d.path, h, d.methods⟩
    else (d.methods.foldl RouteBuilder.method (Route.build d.path d.shorthand)).withHandler h
  return d.extra.foldl Route.method route

/-- The route that is meant. -/
def mountable : RouteSource → Step Mountable
  | .named name => do return .route (← find Session.routes name)
  | .declared d => do return .route (← declare d)
  | .foreign r => pure (.foreign r)

/-- The request that is meant, which gets an id if it brings none. -/
def request (init : RequestInit) : Run Request := do
  match RequestHead.ofInit? init.head with
  | none => Run.raise (.platformError "TypeError")
  | some head =>
    let state ← Run.addState init.state
    let traceId ← match init.traceId <|> head.traceId? with
      | some id => pure id
      | none => Run.freshId
    return ⟨head, init.params, traceId, state, init.io⟩

/-- Looks up headers by name. -/
def lookups (head : RequestHead) : List String → Run (List (Option String))
  | [] => pure []
  | name :: rest =>
    match head.headers.lookup? name with
    | none => Run.raise (.platformError "TypeError")
    | some value => do return value :: (← lookups head rest)

/-- Mounts something on a named application. -/
def mountOn (name : String) (source : RouteSource) : Step Unit := do
  let app ← find Session.apps name
  let m ← mountable source
  nameApp name (← run (app.mount m))

/-! ### Commands -/

/-- Carries out a command. -/
def perform : Command → Step Reply
  | .setClock clock => do
    modify fun s => { s with world := { s.world with clock } }
    return .clock clock
  | .makeTraceId => do return .text (← run Run.freshId)
  | .startTrace traceId name => do
    let t ← run (Run.startTrace traceId)
    name.forM (nameTrace · t)
    return .trace t
  | .startSpan parent name => do
    let p ← trace parent
    let t ← run (Run.startSpan p)
    name.forM (nameTrace · t)
    return .trace t
  | .makeRequest init names => do
    let r ← run (request init)
    let found ← run (lookups r.head names)
    return .request (← run (Run.see r)) found
  | .configure environ => do
    let env := environ.getD (← get).world.environ
    return .config (← run (Run.configuration env))
  | .writeFile path content => do
    run (Run.changeFiles (·.write path content))
    return .done
  | .makeDirectory path => do
    run (Run.changeFiles (·.makeDirectory path))
    return .done
  | .loadEnvFile path => do return .config (← run (Run.loadEnvFile path))
  | .showEnviron => do return .environ (← get).world.environ
  | .makeLogger name settings => do
    nameLogger name (← run (Run.addLogger (.ofSettings settings)))
    return .level settings.level
  | .configureLogger name environ => do
    let env := environ.getD (← get).world.environ
    let r ← run (Run.configuredLogger env)
    nameLogger name r
    return .level (← run (Run.logger r)).level
  | .nameSharedLogger name => do
    let r ← run Run.sharedLogger
    let known := (← get).loggers.entries.any (·.2 == r)
    nameLogger name r
    return .sharedLevel (← run (Run.logger r)).level known
  | .showLevel logger => do
    let r ← find Session.loggers logger
    return .level (← run (Run.logger r)).level
  | .makeChild logger name source => do
    let r ← find Session.loggers logger
    let t ← trace source
    let child := (← run (Run.logger r)).child t
    nameLogger name (← run (Run.addLogger child))
    return .level child.level
  | .setTrace logger source => do
    let r ← find Session.loggers logger
    let t ← match source with
      | some source => do pure (some (← trace source))
      | none => pure none
    run (Run.setTrace r t)
    return .done
  | .log logger level message context error => do
    let r ← find Session.loggers logger
    let summary := if level = .error then error.bind Value.summary? else none
    run do (← Run.logger r).log level message context summary
    return .done
  | .makeHandler name script => do
    nameHandler name (← run (Run.addHandler (.ofScript script)))
    return .done
  | .showCount name => do
    let r ← find Session.handlers name
    return .count (← run (Run.handler r)).count
  | .startRoute name path shorthand methods => do
    nameBuilder name (methods.foldl RouteBuilder.method (Route.build path shorthand))
    return .done
  | .addMethod builder method => do
    let b ← find Session.builders builder
    nameBuilder builder (b.method method)
    return .changed
  | .finishRoute builder name source => do
    let b ← find Session.builders builder
    let route := b.withHandler (← handler source)
    nameRoute name route
    return .route route
  | .declareRoute name declaration => do
    let route ← declare declaration
    nameRoute name route
    return .route route
  | .extendRoute name newName method => do
    let route := (← find Session.routes name).method method
    nameRoute newName route
    return .route route
  | .showRoute name => do return .route (← find Session.routes name)
  | .createFactory route name => do
    let r ← find Session.routes route
    nameFactory name (← run r.create)
    return .done
  | .activateFactory factory name logger => do
    let f ← find Session.factories factory
    let given ← findOptional Session.loggers logger
    let service ← run (f.activate given)
    nameService name service
    return .methods service.methods
  | .showService name methods => do
    let service ← find Session.services name
    return .service service.methods (← run (Service.route service).poll)
      (methods.map service.accepts)
  | .callService name init => do
    let service ← find Session.services name
    let r ← run (request init)
    run (service.call r)
    return .done
  | .makeApp name state logger sources => do
    let given ← findOptional Session.loggers logger
    let app ← run (App.new state)
    nameApp name { app with logger := given.getD app.logger }
    sources.forM (mountOn name)
    return .paths (← find Session.apps name).paths
  | .mount name source => do
    mountOn name source
    return .paths (← find Session.apps name).paths
  | .setAppLogger name logger => do
    let r ← find Session.loggers logger
    let app ← find Session.apps name
    nameApp name { app with logger := r }
    return .done
  | .showPaths name => do return .paths (← find Session.apps name).paths
  | .connect app name logger => do
    let a ← find Session.apps app
    let given ← findOptional Session.loggers logger
    nameConnection name (← run (a.connect given))
    return .done
  | .poll name => do
    let c ← find Session.connections name
    return .readiness (← run c.poll)
  | .call name head io => do
    let c ← find Session.connections name
    return .value (← run (c.call head io))
  | .openTransport name kind => do
    run (Run.setTransport name (.fresh kind))
    return .done
  | .writeTransport io text => do
    run (Run.onTransport io (·.write text))
    let _ ← run (Run.settleTransport io)
    return .done
  | .endTransport io => do
    run (Run.onTransport io (·.finish))
    let _ ← run (Run.settleTransport io)
    return .done
  | .destroyTransport io reason => do
    run (Run.destroyTransport io reason)
    return .done
  | .sendError io report headers => do
    run (Run.sendError io report headers)
    return .done

/-- What the transports showed between two moments.  One that was opened anew in between shows
nothing but that it is open again, if it was closed. -/
def shown (before after : Dict Transport) : List (String × Shown) :=
  after.sorted.filterMap fun (name, t) =>
    let old := (before.get? name).getD default
    let output := String.ofList (t.output.toList.drop old.output.length)
    if output = "" && t.closed == old.closed then none else some (name, ⟨output, t.closed⟩)

/-- Takes one step. -/
def step (s : Session) (c : Command) : Answer × Session :=
  let fresh := { s with world := { s.world with timeline := [] } }
  let (result, s') := Id.run (StateT.run (ExceptT.run (perform c)) fresh)
  let transports := shown s.world.transports s'.world.transports
  ({ result, timeline := s'.world.timeline, transports }, s')

/-- Takes steps in order. -/
def steps (s : Session) : List Command → List Answer × Session
  | [] => ([], s)
  | c :: rest =>
    let (answer, s') := s.step c
    let (answers, last) := steps s' rest
    (answer :: answers, last)

end Session

end HttpDispatch
