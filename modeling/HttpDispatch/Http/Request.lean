import HttpDispatch.AppState
import HttpDispatch.Http.Headers
import HttpDispatch.Http.Method
import HttpDispatch.Store
import HttpDispatch.Http.Target

/-!
# Requests

The head of a request is its method, in canonical form, its target, its version and its headers.
A request is a head on its way to a handler: with the parameters of the matched pattern, an id
that ties its log lines together, the transport it came on, and the state of the application.
-/

namespace HttpDispatch

/-- A request head as it arrives. -/
structure HeadInit where
  method : String
  uri : String
  version : Option String
  headers : HeadersInit

/-- A request head. -/
structure RequestHead where
  method : String
  uri : String
  version : String
  headers : Headers
deriving DecidableEq, Repr

namespace RequestHead

/-- The version of a head that names none. -/
def defaultVersion : String := "HTTP/1.1"

/-- The head of what arrived, if its headers are valid. -/
def ofInit? (init : HeadInit) : Option RequestHead :=
  (Headers.ofInit? init.headers).map fun headers =>
    { method := Method.normalize init.method
      uri := init.uri
      version := init.version.getD defaultVersion
      headers }

/-- The header that carries a trace id from one program to the next. -/
def traceHeader : String := "x-trace-id"

/-- The trace id that came with a request. -/
def traceId? (head : RequestHead) : Option String := head.headers.get? traceHeader

/-- The target of a request in its two parts. -/
def target (head : RequestHead) : Target := Target.ofString head.uri

end RequestHead

/-- A request for a handler. -/
structure Request where
  head : RequestHead
  params : Params
  traceId : String
  state : Ref AppState
  io : String

namespace Request

def method (r : Request) : String := r.head.method

/-- The path of the target, without the query. -/
def path (r : Request) : String := r.head.target.path

/-- The parameters of the query. -/
def query (r : Request) : Params := r.head.target.query

end Request

/-- A request as a handler saw it: with the state as it was then. -/
structure SeenRequest where
  request : Request
  state : Option Json

end HttpDispatch
