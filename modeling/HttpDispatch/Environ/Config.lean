import HttpDispatch.Dict
import HttpDispatch.Log.Logger
import HttpDispatch.Text.Case

/-!
# Configuration

Two environment variables say how a program logs: `LOG_LEVEL` names the threshold, in any case,
and `LOG_JSON` is `true` or `false`.  A variable that is not set has its default, and any other
value is an error that names the variable, its value as it was set, and what it should have been.
The level is checked first.
-/

namespace HttpDispatch

/-- The variables of an environment.  A process keeps of each value only what stands before the
first NUL; here a value is kept as it is set, so the two agree on values without one. -/
abbrev Environ := Dict String

/-- How a program logs. -/
structure Config where
  level : Level
  json : Bool
deriving DecidableEq, Repr

namespace Config

/-- The variable that names the threshold. -/
def levelKey : String := "LOG_LEVEL"

/-- The variable that chooses the form of console lines. -/
def jsonKey : String := "LOG_JSON"

/-- What the value of a variable should have been. -/
def constraint (choices : List String) (received : String) : String :=
  "Invalid enum value. Expected " ++
    String.intercalate " | " (choices.map fun c => "'" ++ c ++ "'") ++
    ", received '" ++ received ++ "'"

/-- The error about a variable. -/
def invalid (field value expected : String) : Fault :=
  .make ("Invalid configuration: " ++ field) .invalidConfig
    (some (.obj [("field", .str field), ("value", .str value), ("constraint", .str expected)]))
    none .undefined

/-- The threshold that an environment sets. -/
def levelOf (env : Environ) : Except Fault Level :=
  match env.get? levelKey with
  | none => .ok .info
  | some value =>
    match Level.ofName? (Text.lower value) with
    | some level => .ok level
    | none =>
      .error (invalid levelKey value (constraint (Level.all.map Level.name) (Text.lower value)))

/-- The form of console lines that an environment sets. -/
def jsonOf (env : Environ) : Except Fault Bool :=
  match env.get? jsonKey with
  | none => .ok false
  | some value =>
    if value = "true" then .ok true
    else if value = "false" then .ok false
    else .error (invalid jsonKey value (constraint ["true", "false"] value))

/-- The configuration that an environment sets. -/
def ofEnviron (env : Environ) : Except Fault Config :=
  match levelOf env with
  | .error f => .error f
  | .ok level =>
    match jsonOf env with
    | .error f => .error f
    | .ok json => .ok ⟨level, json⟩

/-- The settings of a logger that follows a configuration. -/
def settings (c : Config) : Settings := { Settings.default with level := c.level, json := c.json }

end Config

end HttpDispatch
