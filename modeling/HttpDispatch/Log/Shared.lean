import HttpDispatch.Environ.Config
import HttpDispatch.Log.Delivery

/-!
# The shared logger

The logger of those that are given none.  It is made from the environment the first time it is
needed and stays the same from then on, whatever becomes of the environment.
-/

namespace HttpDispatch

namespace Run

/-- Makes a logger from an environment.  Where the environment is not valid, the logger is the
plain one, and the first thing that it logs is a warning that says why. -/
def configuredLogger (env : Environ) : Run (Ref Logger) :=
  match Config.ofEnviron env with
  | .ok c => addLogger (.ofSettings c.settings)
  | .error f => do
    let l := Logger.ofSettings .default
    l.warn ("Falling back to default logging: " ++ f.toValue.display)
      (some (.obj [("code", .str f.report.code.name)]))
    addLogger l

/-- The logger of those that are given none. -/
def sharedLogger : Run (Ref Logger) := do
  match (← get).shared with
  | some r => return r
  | none =>
    let r ← configuredLogger (← get).environ
    modify fun w => { w with shared := some r }
    return r

/-- The logger that is given, or else the shared one. -/
def loggerOrShared (given : Option (Ref Logger)) : Run (Ref Logger) :=
  match given with
  | some r => pure r
  | none => sharedLogger

end Run

end HttpDispatch
