import HttpDispatch.Json.Printer
import HttpDispatch.Text.Utf8
import HttpDispatch.World.Run

/-!
# Error responses

An error is answered by a small HTTP response: a status line, the type and the length of the
body, further headers, an empty line, and the report of the error in JSON.  The length counts the
octets of the body.  Sending the response ends the transport; where the transport is closed or
fails, sending fails with an error of its own, whose details give the reason.
-/

namespace HttpDispatch

namespace Response

/-- The end of a line of the head. -/
def lineEnd : String := "\r\n"

/-- The body of a response. -/
def body (r : Report) (clock : Int) : String := (r.toResponse clock).render

/-- The number of octets of a text. -/
def octetCount (s : String) : Nat := (Utf8.encode s.toList).length

/-- The lines of the head. -/
def headLines (r : Report) (headers : Dict String) (body : String) : List String :=
  ["HTTP/1.1 " ++ toString r.status ++ " " ++ r.code.reasonPhrase,
    "content-type: application/json",
    "content-length: " ++ toString (octetCount body)] ++
    headers.listed.map fun h => h.1 ++ ": " ++ h.2

/-- The text of a response. -/
def text (r : Report) (headers : Dict String) (clock : Int) : String :=
  String.intercalate lineEnd (headLines r headers (body r clock)) ++ lineEnd ++ lineEnd ++
    body r clock

/-- The error of a response that cannot be sent. -/
def notSent (message : String) (r : Report) (reason : String) (cause : Value) : Fault :=
  .make message .connectionClosed
    (some (.obj (Json.optionalText "traceId" r.traceId ++ [("reason", .str reason)])))
    r.traceId cause

/-- The error of a response that finds its transport closed. -/
def closedBefore (r : Report) : Fault :=
  notSent "Connection closed before response" r r.message .undefined

/-- The error of a response whose transport fails. -/
def writeFailed (r : Report) (message : String) : Fault :=
  notSent "Failed to write response" r message (.error none message none)

end Response

namespace Run

/-- Sends the response for an error and ends the transport. -/
def sendError (io : String) (r : Report) (headers : Dict String) : Run Unit := do
  if ((← get).transport io).closed then
    raise (Response.closedBefore r).toValue
  else
    let text := Response.text r headers (← now)
    onTransport io fun t => (t.write text).finish
    match ← settleTransport io with
    | some message => raise (Response.writeFailed r message).toValue
    | none => pure ()

end Run

end HttpDispatch
