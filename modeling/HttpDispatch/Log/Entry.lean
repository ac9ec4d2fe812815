import HttpDispatch.Json.Printer
import HttpDispatch.Log.Level

/-!
# Log entries

An entry is what a logger hands on: to a sink as it is, and to the console as one line.  The line
is either the entry in JSON or a coloured line for people, which shows the time, the level, the
trace, the message and the context, and leaves out the span and the error.
-/

namespace HttpDispatch

/-- What an entry says of an error, as far as there is something to say. -/
structure ErrorSummary where
  name : Option String
  message : Option String
  stack : Option String
deriving DecidableEq, Repr

namespace ErrorSummary

def toJson (e : ErrorSummary) : Json :=
  .obj (Json.optionalText "name" e.name ++ Json.optionalText "message" e.message ++
    Json.optionalText "stack" e.stack)

end ErrorSummary

/-- One log entry. -/
structure Entry where
  level : Level
  message : String
  timestamp : String
  traceId : Option String
  spanId : Option String
  context : Option Json
  error : Option ErrorSummary

namespace Entry

/-- The entry in JSON. -/
def toJson (e : Entry) : Json :=
  .obj ([("level", .str e.level.name), ("message", .str e.message),
      ("timestamp", .str e.timestamp)] ++
    Json.optionalText "traceId" e.traceId ++ Json.optionalText "spanId" e.spanId ++
    Json.optional "context" e.context ++ Json.optional "error" (e.error.map ErrorSummary.toJson))

/-- The start of a coloured text. -/
def colour : Level → String
  | .debug => "\x1b[36m"
  | .info => "\x1b[32m"
  | .warn => "\x1b[33m"
  | .error => "\x1b[31m"

/-- The end of a coloured text. -/
def colourEnd : String := "\x1b[0m"

/-- The entry as a line for people.  An empty trace id counts as none, and so does a context that
counts for nothing. -/
def text (e : Entry) : String :=
  let trace := match e.traceId with
    | some id => if id = "" then "" else " [trace:" ++ id ++ "]"
    | none => ""
  let context := match e.context with
    | some c => if c.isVoid then "" else " " ++ c.render
    | none => ""
  colour e.level ++ "[" ++ e.timestamp ++ "] " ++ e.level.heading ++ ":" ++ trace ++ " " ++
    e.message ++ context ++ colourEnd

/-- The line that the console shows. -/
def line (e : Entry) (asJson : Bool) : String :=
  if asJson then e.toJson.render else e.text

end Entry

end HttpDispatch
