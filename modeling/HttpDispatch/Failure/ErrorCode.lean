/-!
# Error codes

Every error of the library has one of eight codes.  The code decides the status of a response
that reports the error, and for some codes there is a standing suggestion what to do about it.
-/

namespace HttpDispatch

/-- The kinds of error. -/
inductive ErrorCode
  | routeNotFound
  | methodNotAllowed
  | handlerFailed
  | serviceInitFailed
  | connectionClosed
  | invalidConfig
  | internalError
  | unknownError
deriving DecidableEq, Repr, Inhabited

namespace ErrorCode

/-- All codes, in the order in which they are declared. -/
def all : List ErrorCode :=
  [routeNotFound, methodNotAllowed, handlerFailed, serviceInitFailed, connectionClosed,
    invalidConfig, internalError, unknownError]

/-- The name of a code, as it is written in responses. -/
def name : ErrorCode → String
  | routeNotFound => "ROUTE_NOT_FOUND"
  | methodNotAllowed => "METHOD_NOT_ALLOWED"
  | handlerFailed => "HANDLER_FAILED"
  | serviceInitFailed => "SERVICE_INIT_FAILED"
  | connectionClosed => "CONNECTION_CLOSED"
  | invalidConfig => "INVALID_CONFIG"
  | internalError => "INTERNAL_ERROR"
  | unknownError => "UNKNOWN_ERROR"

/-- The code of a name. -/
def ofName? (name : String) : Option ErrorCode :=
  all.find? (·.name == name)

/-- The status of a response that reports an error of this code. -/
def status : ErrorCode → Nat
  | routeNotFound => 404
  | methodNotAllowed => 405
  | _ => 500

/-- The suggestion that goes with a code unless another one is given. -/
def suggestion? : ErrorCode → Option String
  | routeNotFound => some "Check that a route is registered for this path"
  | methodNotAllowed => some "Use one of the methods the route accepts"
  | serviceInitFailed => some "Inspect the cause of the failing route factory"
  | invalidConfig => some "Check the LOG_LEVEL and LOG_JSON environment variables"
  | _ => none

/-- The reason phrase of the status line. -/
def reasonPhrase : ErrorCode → String
  | routeNotFound => "Not Found"
  | methodNotAllowed => "Method Not Allowed"
  | _ => "Internal Server Error"

theorem ofName?_name (c : ErrorCode) : ofName? c.name = some c := by
  cases c <;> rfl

end ErrorCode

end HttpDispatch
