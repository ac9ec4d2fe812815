import HttpDispatch.Base36

/-!
# Traces

A trace is what joins the log lines of one request: an id, and within it spans, each with an id of
its own and the id of its parent.  Ids are made from the clock and one random draw, a number of
sixteen bits, so that two ids differ unless both clock and draw agree.
-/

namespace HttpDispatch

/-- The position of an activity in a trace. -/
structure Trace where
  traceId : String
  spanId : Option String
  parentSpanId : Option String
  timestamp : Int
deriving DecidableEq, Repr, Inhabited

namespace Trace

/-- The id made from a clock and a draw. -/
def makeId (clock : Int) (draw : Nat) : String :=
  String.ofList ("trace_".toList ++ Base36.intDigits clock ++
    '_' :: Base36.fractionDigits Base36.fractionWidth draw)

/-- A trace without a span. -/
def root (traceId : String) (clock : Int) : Trace :=
  { traceId, spanId := none, parentSpanId := none, timestamp := clock }

/-- A span below another position of its trace. -/
def span (parent : Trace) (spanId : String) (clock : Int) : Trace :=
  { traceId := parent.traceId, spanId := some spanId, parentSpanId := parent.spanId
    timestamp := clock }

/-- A position that takes from another one what it does not say itself.  So a span without a parent
takes over the parent of the other position, where it should say that it has none; this shows
nowhere, since an entry carries the span but not its parent. -/
def inheriting (t : Trace) (inherited : Option Trace) : Trace :=
  match inherited with
  | none => t
  | some p =>
    { t with spanId := t.spanId <|> p.spanId, parentSpanId := t.parentSpanId <|> p.parentSpanId }

end Trace

end HttpDispatch
