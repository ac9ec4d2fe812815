import HttpDispatch.Environ.Config
import HttpDispatch.Environ.File
import HttpDispatch.World.Run

/-!
# Loading an environment file

A file adds its variables to the environment of the program, and then the environment has to be
a valid configuration.  The variables are added first, so they stay also where it is not.
-/

namespace HttpDispatch

namespace Run

/-- The path that is meant where none is given. -/
def defaultEnvPath : String := ".env"

/-- The configuration that the environment of the program sets. -/
def configuration (env : Environ) : Run Config :=
  match Config.ofEnviron env with
  | .ok c => pure c
  | .error f => raise f.toValue

/-- Adds the variables of a file to the environment, as far as they are not set, and answers the
configuration that results.  The variables stay also where the configuration is not valid. -/
def loadEnvFile (path : String) : Run Config := do
  let actual := if path = "" then defaultEnvPath else path
  match (← get).files.read actual with
  | .error e =>
    raise (Fault.make ("Failed to read env file " ++ path) .invalidConfig
      (some (.obj [("field", .str "path"), ("value", .str path), ("constraint", .str e.message)]))
      none e.toValue).toValue
  | .ok content =>
    modify fun w =>
      { w with environ := EnvFile.merge w.environ (EnvFile.bindings content).entries }
    configuration (← get).environ

end Run

end HttpDispatch
