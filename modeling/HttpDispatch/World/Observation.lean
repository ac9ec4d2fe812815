import HttpDispatch.Log.Logger
import HttpDispatch.Routing.Handler

/-!
# Observations

What can be seen of a program from outside, one after the other: entries that reach a sink, lines
on the console, and what happens to handlers, foreign routes and transports.
-/

namespace HttpDispatch

/-- What happens to handlers, routes and transports, seen from outside. -/
inductive Event
  /-- A handler is cloned while its count is this. -/
  | cloned (handler : String) (count : Int)
  /-- A handler handles a request, and its count becomes this. -/
  | handled (handler : String) (count : Int) (seen : SeenRequest)
  /-- A foreign route is activated, with this logger or without one. -/
  | activated (path : String) (logger : Option (Ref Logger))
  /-- A foreign route is asked whether it is ready. -/
  | polled (path : String)
  /-- A foreign route is given a request. -/
  | called (path : String) (seen : SeenRequest)
  /-- A transport fails. -/
  | failed (io : String) (error : Value)

/-- What can be seen from outside. -/
inductive Observation
  /-- A sink receives an entry. -/
  | logged (sink : String) (entry : Entry)
  /-- A line goes to the console. -/
  | printed (line : String)
  /-- A message goes to the error console, with a value. -/
  | complained (message : String) (failure : Value)
  | event (e : Event)

end HttpDispatch
