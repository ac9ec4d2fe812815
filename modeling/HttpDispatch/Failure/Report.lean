import HttpDispatch.Failure.ErrorCode
import HttpDispatch.Json
import HttpDispatch.Timestamp

/-!
# Reports

A report is what an error says of itself: a message, a code, and where known details, a
suggestion and the trace it belongs to.  It is written in two forms: as the body of a response,
which carries the time at which it is written, and as a record of the error itself, which carries
the error's name and the first line of its stack instead.
-/

namespace HttpDispatch

/-- What an error says of itself. -/
structure Report where
  message : String
  code : ErrorCode
  details : Option Json
  suggestion : Option String
  traceId : Option String

namespace Report

/-- A report whose suggestion, where none is given, is that of its code. -/
def make (message : String) (code : ErrorCode) (details : Option Json)
    (suggestion traceId : Option String) : Report :=
  { message, code, details, traceId, suggestion := suggestion <|> code.suggestion? }

/-- The status of a response that carries the report. -/
def status (r : Report) : Nat := r.code.status

/-- The body of a response that carries the report. -/
def toResponse (r : Report) (clock : Int) : Json :=
  .obj [("error", .obj (
    [("message", .str r.message), ("code", .str r.code.name), ("httpStatus", .nat r.status)] ++
      Json.optional "details" r.details ++ Json.optionalText "suggestion" r.suggestion ++
      Json.optionalText "traceId" r.traceId ++ [("timestamp", .str (Timestamp.text clock))]))]

/-- The name under which the library's errors appear. -/
def errorName : String := "FramedError"

/-- The line that heads the stack of an error: its name, and its message if it has one. -/
def headline (name message : String) : String :=
  if message = "" then name else if name = "" then message else name ++ ": " ++ message

/-- The stack of the error. -/
def stack (r : Report) : String := headline errorName r.message

/-- The record of the error. -/
def toRecord (r : Report) : Json :=
  .obj ([("name", .str errorName), ("message", .str r.message), ("code", .str r.code.name),
      ("httpStatus", .nat r.status)] ++
    Json.optional "details" r.details ++ Json.optionalText "suggestion" r.suggestion ++
    Json.optionalText "traceId" r.traceId ++ [("stack", .str r.stack)])

/-- A suggestion that is already resolved stays as it is. -/
theorem make_eq_self {message : String} {code : ErrorCode} {details : Option Json}
    {suggestion traceId : Option String} (r : Report)
    (h : r = make message code details suggestion traceId) :
    make r.message r.code r.details r.suggestion r.traceId = r := by
  subst h
  cases suggestion <;> cases code <;> rfl

end Report

end HttpDispatch
