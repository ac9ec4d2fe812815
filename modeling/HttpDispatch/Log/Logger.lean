import HttpDispatch.Log.Entry
import HttpDispatch.Log.Trace
import HttpDispatch.Failure.Fault

/-!
# Loggers

A logger is a fixed part, its settings, and a position in a trace that it stamps on its entries.
The settings are a threshold, whether and in which form entries go to the console, and a sink.
A child has the settings of its parent and takes its trace from its parent where it is not given
anew; afterwards the two have nothing to do with each other.
-/

namespace HttpDispatch

/-- Receives entries under a name.  It may look at an entry and throw a value on it; then the entry
counts as not received. -/
structure Sink where
  name : String
  /-- The value that the sink throws on an entry, if it does. -/
  throws? : Entry → Option Value

namespace Sink

/-- A sink that receives everything. -/
def capture (name : String) : Sink := ⟨name, fun _ => none⟩

/-- A sink that throws a value on entries of these levels and receives the others. -/
def refusing (name : String) (v : Value) (levels : List Level) : Sink :=
  ⟨name, fun e => if levels.contains e.level then some v else none⟩

end Sink

/-- What does not change about a logger and is shared with its children. -/
structure Settings where
  level : Level
  console : Bool
  json : Bool
  sink : Option Sink

namespace Settings

/-- The settings of a logger that nothing is said about: from `info` on, as text, to the
console. -/
def default : Settings := ⟨.info, true, false, none⟩

end Settings

/-- A logger. -/
structure Logger where
  settings : Settings
  trace : Option Trace

namespace Logger

/-- A logger outside any trace. -/
def ofSettings (s : Settings) : Logger := ⟨s, none⟩

instance : Inhabited Logger := ⟨ofSettings .default⟩

/-- The threshold of a logger. -/
def level (l : Logger) : Level := l.settings.level

/-- A logger with the settings of this one, in a trace. -/
def child (l : Logger) (t : Trace) : Logger :=
  ⟨l.settings, some (t.inheriting l.trace)⟩

/-- The logger moved to a trace, or out of any. -/
def withTrace (l : Logger) (t : Option Trace) : Logger := ⟨l.settings, t⟩

/-- The entry that the logger makes of a message. -/
def entry (l : Logger) (clock : Int) (level : Level) (message : String) (context : Option Json)
    (error : Option ErrorSummary) : Entry :=
  { level, message, context, error
    timestamp := Timestamp.text clock
    traceId := l.trace.map Trace.traceId
    spanId := l.trace.bind Trace.spanId }

@[simp] theorem settings_child (l : Logger) (t : Trace) : (l.child t).settings = l.settings := rfl

@[simp] theorem settings_withTrace (l : Logger) (t : Option Trace) :
    (l.withTrace t).settings = l.settings := rfl

/-- A child is always in the trace that it is given. -/
@[simp] theorem traceId_child (l : Logger) (t : Trace) (clock : Int) (level : Level)
    (message : String) (context : Option Json) (error : Option ErrorSummary) :
    ((l.child t).entry clock level message context error).traceId = some t.traceId := by
  cases l with
  | mk settings trace => cases trace <;> rfl

end Logger

/-- What an entry says of an error of this library. -/
def Report.summary (r : Report) : ErrorSummary := ⟨some errorName, some r.message, some r.stack⟩

namespace Value

/-- What can be said of a value as an error: nothing of one that is none. -/
def summary : Value → ErrorSummary
  | .error ownName message stack => ⟨some (ownName.getD commonErrorName), some message, stack⟩
  | .platformError name => ⟨some name, some "", none⟩
  | .fault r _ => r.summary
  | _ => ⟨none, none, none⟩

/-- What an entry says of a value, unless the value counts for nothing. -/
def summary? (v : Value) : Option ErrorSummary := if v.isVoid then none else some v.summary

end Value

end HttpDispatch
