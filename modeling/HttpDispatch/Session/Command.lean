import HttpDispatch.Environ.Load
import HttpDispatch.Routing.Connection

/-!
# Commands

What can be done in a session, one step at a time.  Objects are named: a command that makes one
says what it is called, and later commands refer to it by that name.  Each kind of object has
names of its own.
-/

namespace HttpDispatch

/-- A position in a trace, by name or as it is. -/
inductive TraceSource
  | named (name : String)
  | given (trace : Trace)

/-- A handler, by name or by its script. -/
inductive HandlerSource
  | named (name : String)
  | given (script : Script)

/-- A route in words: how it is declared, and the methods that are added to the finished
route. -/
structure RouteDeclaration where
  path : String
  /-- Whether the route is declared with its methods as they stand. -/
  direct : Bool
  shorthand : Option Route.Shorthand
  methods : List String
  extra : List String
  handler : HandlerSource

/-- Something to mount. -/
inductive RouteSource
  | named (name : String)
  | declared (declaration : RouteDeclaration)
  | foreign (route : ForeignRoute)

/-- A request as it is put to a handler without an application. -/
structure RequestInit where
  head : HeadInit
  params : Params
  traceId : Option String
  state : AppState
  io : String

/-- One step of a session. -/
inductive Command
  | setClock (clock : Int)
  | makeTraceId
  | startTrace (traceId : Option String) (name : Option String)
  | startSpan (parent : TraceSource) (name : Option String)
  | makeRequest (request : RequestInit) (lookups : List String)
  | configure (environ : Option Environ)
  | writeFile (path content : String)
  | makeDirectory (path : String)
  | loadEnvFile (path : String)
  | showEnviron
  | makeLogger (name : String) (settings : Settings)
  | configureLogger (name : String) (environ : Option Environ)
  | nameSharedLogger (name : String)
  | showLevel (logger : String)
  | makeChild (logger : String) (name : String) (trace : TraceSource)
  | setTrace (logger : String) (trace : Option TraceSource)
  | log (logger : String) (level : Level) (message : String) (context : Option Json)
      (error : Option Value)
  | makeHandler (name : String) (script : Script)
  | showCount (handler : String)
  | startRoute (name : String) (path : String) (shorthand : Option Route.Shorthand)
      (methods : List String)
  | addMethod (builder : String) (method : String)
  | finishRoute (builder : String) (name : String) (handler : HandlerSource)
  | declareRoute (name : String) (declaration : RouteDeclaration)
  | extendRoute (route : String) (name : String) (method : String)
  | showRoute (route : String)
  | createFactory (route : String) (name : String)
  | activateFactory (factory : String) (name : String) (logger : Option String)
  | showService (service : String) (methods : List String)
  | callService (service : String) (request : RequestInit)
  | makeApp (name : String) (state : AppState) (logger : Option String)
      (routes : List RouteSource)
  | mount (app : String) (route : RouteSource)
  | setAppLogger (app : String) (logger : String)
  | showPaths (app : String)
  | connect (app : String) (name : String) (logger : Option String)
  | poll (connection : String)
  | call (connection : String) (head : HeadInit) (io : String)
  | openTransport (name : String) (kind : Transport.Kind)
  | writeTransport (io : String) (text : String)
  | endTransport (io : String)
  | destroyTransport (io : String) (reason : Value)
  | sendError (io : String) (report : Report) (headers : Dict String)

/-- What a command answers. -/
inductive Reply
  | done
  | clock (now : Int)
  | count (n : Int)
  | changed
  | text (s : String)
  | value (v : Value)
  | trace (t : Trace)
  | request (seen : SeenRequest) (lookups : List (Option String))
  | config (c : Config)
  | environ (environ : Environ)
  | level (l : Level)
  | sharedLevel (l : Level) (known : Bool)
  | route (r : Route)
  | methods (ms : List String)
  | service (methods : List String) (readiness : Readiness) (accepts : List Bool)
  | paths (ps : List String)
  | readiness (r : Readiness)

end HttpDispatch
