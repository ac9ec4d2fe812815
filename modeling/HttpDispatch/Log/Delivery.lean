import HttpDispatch.World.Run

/-!
# Delivery of log entries

How an entry reaches those who see it: first the sink of the logger, which may throw, then the
console.  An entry that does not pass the filter is not even made.
-/

namespace HttpDispatch

namespace Logger

/-- Hands an entry to the sink. -/
def toSink (l : Logger) (e : Entry) : Run Unit :=
  match l.settings.sink with
  | none => pure ()
  | some s =>
    match s.throws? e with
    | some v => Run.raise v
    | none => Run.observe (.logged s.name e)

/-- Shows an entry on the console. -/
def toConsole (l : Logger) (e : Entry) : Run Unit :=
  if l.settings.console then Run.observe (.printed (e.line l.settings.json)) else pure ()

/-- Hands on an entry that has passed the filter. -/
def deliver (l : Logger) (e : Entry) : Run Unit := do
  l.toSink e
  l.toConsole e

/-- Makes an entry of a message and hands it on, if its level passes the filter. -/
def log (l : Logger) (level : Level) (message : String) (context : Option Json)
    (error : Option ErrorSummary) : Run Unit := do
  if level.passes l.level then
    l.deliver (l.entry (← Run.now) level message context error)

def debug (l : Logger) (message : String) (context : Option Json) : Run Unit :=
  l.log .debug message context none

def warn (l : Logger) (message : String) (context : Option Json) : Run Unit :=
  l.log .warn message context none

/-- Logs a message about an error. -/
def error (l : Logger) (message : String) (error : Option ErrorSummary) (context : Option Json) :
    Run Unit :=
  l.log .error message context error

end Logger

end HttpDispatch
